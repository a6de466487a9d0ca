import MyFundi.Community.Addresses
import MyFundi.Community.Presence

/-!
# Handlers return

A post has getters that trap on a missing field, and the screens use them without asking.
The app itself writes only what they can read: from a database whose fundraisers decode and
whose images are in the app's storage, every run keeps them so, and no handler traps except
that of a like whose count leaves the range of `Int`.
-/

namespace MyFundi.Community

open Foundation

variable {Device Image Data : Type}

/-- Every getter returns. -/
structure Complete (post : Post) : Prop where
  caption : post.caption.isSome
  imageUrl : post.imageUrl.isSome
  likes : post.likes.isSome
  currentDonation : post.currentDonation.isSome
  donationGoal : post.donationGoal.isSome
  title : post.title.isSome

/-- A cell can show the post: every getter returns, and the image is in the app's storage. -/
structure Loadable (firebase : Firebase) (post : Post) : Prop extends Complete post where
  storage : ∀ imageUrl, post.imageUrl = some imageUrl → firebase.isStorageURL imageUrl = true

/-- Every fundraiser stored decodes to a complete post. -/
def Decodable (database : Node) : Prop :=
  ∀ key, Present database key →
    Complete (Post.init key (database.sub (DataService.refFundraisers.child key)))

theorem complete_iff (post : Post) :
    Complete post ↔ post.caption.isSome ∧ post.imageUrl.isSome ∧ post.likes.isSome ∧
      post.currentDonation.isSome ∧ post.donationGoal.isSome ∧ post.title.isSome :=
  ⟨fun complete => ⟨complete.caption, complete.imageUrl, complete.likes, complete.currentDonation,
    complete.donationGoal, complete.title⟩,
    fun ⟨caption, imageUrl, likes, currentDonation, donationGoal, title⟩ =>
      ⟨caption, imageUrl, likes, currentDonation, donationGoal, title⟩⟩

instance (post : Post) : Decidable (Complete post) :=
  decidable_of_iff _ (complete_iff post).symm

instance (database : Node) : Decidable (Decodable database) :=
  decidable_of_iff _ forall_present_iff.symm

/-- A published record has every field. -/
theorem complete_published (key captionField imgUrl : String) :
    Complete (Post.init key (Node.ofFields (FeedVC.post captionField imgUrl))) := by
  rw [init_feedVC]
  exact ⟨rfl, rfl, rfl, rfl, rfl, rfl⟩

/-- A new count changes nothing else of the post. -/
theorem init_set_count (database : Node) (key : String) (likes : Int) :
    Post.init key ((database.set (likesCountRef key) (.leaf (.int likes))).sub
        (DataService.refFundraisers.child key)) =
      { Post.init key (database.sub (DataService.refFundraisers.child key)) with
        likes := checkedInt likes } := by
  have field {name : String} (other : "likes" ≠ name) :
      Node.entry ((database.set (likesCountRef key) (.leaf (.int likes))).sub
        (DataService.refFundraisers.child key)) name =
          Node.entry (database.sub (DataService.refFundraisers.child key)) name := by
    rw [Node.entry, Node.entry, ← Tree.sub_append, ← Tree.sub_append]
    exact Tree.sub_set_of_incomparable database _
      (incomparable_append_cons ["fundraisers", key] other [] [])
  have count : Node.entry ((database.set (likesCountRef key) (.leaf (.int likes))).sub
      (DataService.refFundraisers.child key)) "likes" = .leaf (.int likes) := by
    rw [Node.entry, ← Tree.sub_append]
    exact Tree.sub_set_self database _ _
  simp only [Post.init, count, field (show "likes" ≠ "caption" by decide),
    field (show "likes" ≠ "imageUrl" by decide),
    field (show "likes" ≠ "currentDonation" by decide),
    field (show "likes" ≠ "donationGoal" by decide), field (show "likes" ≠ "title" by decide)]
  rfl

/-- Every deed of the app keeps the fundraisers decodable. -/
theorem Decodable.set {database : Node} {write : Assignment String Scalar}
    (decodable : Decodable database) (fits : growing.Fits database write) :
    Decodable (database.set write.path write.placed) := by
  obtain ⟨owner, deed, rfl, allowed⟩ := fits
  intro key present
  by_cases here : deed.fundraiser = some key
  · cases deed with
    | count postKey likes =>
        cases here
        have old := decodable key allowed.1
        rw [Deed.assignment, init_set_count, allowed.2]
        exact ⟨old.caption, old.imageUrl, rfl, old.currentDonation, old.donationGoal, old.title⟩
    | publish postKey captionField imgUrl =>
        cases here
        rw [Deed.assignment, Tree.sub_set_self]
        exact complete_published key captionField imgUrl
    | user write => cases here
  · have old := ((Deed.present_set_iff owner deed database key).mp present).resolve_left here
    rw [Tree.sub_set_of_incomparable database _ (Deed.incomparable_fundraiser owner here)]
    exact decodable key old

variable [DecidableEq Device] {firebase : Firebase} {uid : Device → String}
  {jpeg : Image → Option Data} {placeholder : Option Image}
  {before after : State Device Image Data}

/-- What every step keeps from a decodable database whose images are in the storage. -/
structure Sound (firebase : Firebase) (uid : Device → String) (state : Likes.State Device Image) :
    Prop where
  supported : Supported uid state
  decodable : Decodable state.database
  addressed : state.replica.Everywhere (StorageURL firebase)
  loadable : Likes.AllPosts (fun _ => Loadable firebase) state

/-- What a device sees is decodable too. -/
theorem Supported.decodable_view {state : Likes.State Device Image}
    (supported : Supported uid state) (decodable : Decodable state.database) (device : Device) :
    Decodable (state.replica.view device) :=
  supported.ordered.invariant_view (fun _ _ held fits => held.set fits) decodable device

/-- Every step of the app keeps what is stored and shown sound. -/
theorem Sound.step {action : Action Device Image} (sound : Sound firebase uid before.likes)
    (step : (machine firebase uid jpeg placeholder).Step before action after)
    (own : ∀ url ∈ uploadedURL action, firebase.isStorageURL url = true) :
    Sound firebase uid after.likes := by
  have supported := sound.supported.step step
  have moves := traffic sound.supported.coherent step
  have decodable := sound.supported.invariant moves (fun _ _ held fits => held.set fits)
    sound.decodable
  have addressed := addressed_step sound.addressed moves own
  refine ⟨supported, decodable, addressed, ?_⟩
  refine allPosts_step sound.loadable sound.supported.coherent step ?_ ?_
  · intro device post likes loadable
    exact ⟨⟨loadable.caption, loadable.imageUrl, rfl, loadable.currentDonation,
      loadable.donationGoal, loadable.title⟩, loadable.storage⟩
  · intro device key present
    exact ⟨supported.decodable_view decodable device key present,
      fun imageUrl has => Addressed.fundraiser (addressed.view device) has⟩

/-- In every run what is stored and shown is sound. -/
theorem sound_run {database : Node} {forms : Device → FeedVC Image}
    {actions : List (Action Device Image)} {finish : State Device Image Data}
    (decodable : Decodable database) (addressed : Addressed firebase database)
    (run : (machine firebase uid jpeg placeholder).Run (initial database forms) actions finish)
    (own : ∀ action ∈ actions, ∀ url ∈ uploadedURL action, firebase.isStorageURL url = true) :
    Sound firebase uid finish.likes := by
  refine run.invariant_along (Machine.Along.of_actions own)
    (fun before _ _ (sound : Sound firebase uid before.likes) step own => sound.step step own) ?_
  refine ⟨supported_initial uid database, decodable, addressed_initial addressed,
    fun device => ⟨?_, ?_⟩⟩
  · intro post member
    cases member
  · intro snapshot member key present
    cases List.mem_singleton.mp member
    rw [← Tree.sub_append] at present ⊢
    exact ⟨decodable key present, fun imageUrl has => addressed.fundraiser has⟩

/-- A like whose count leaves the range of `Int`. -/
def Overflows (state : State Device Image Data) : Action Device Image → Prop
  | .likes (.callback device index) =>
      ∃ pending ∈ (state.likes.clients device).pendingLike index, ∃ likes ∈ pending.2.likes,
        checkedInt (if pending.1.IsNull then likes + 1 else likes - 1) = none
  | _ => False

omit [DecidableEq Device] in
/-- A cell can be configured with a loadable post. -/
theorem Loadable.configureCell {post : Post} (loadable : Loadable firebase post)
    (cell : PostCell Image) (owner : String) (object : PostObject) (img : Option Image) :
    (FeedVC.cellForRowAt firebase cell (some owner) object post img).isSome := by
  obtain ⟨caption, hasCaption⟩ := Option.isSome_iff_exists.mp loadable.caption
  obtain ⟨imageUrl, hasUrl⟩ := Option.isSome_iff_exists.mp loadable.imageUrl
  obtain ⟨likes, hasLikes⟩ := Option.isSome_iff_exists.mp loadable.likes
  obtain ⟨donation, hasDonation⟩ := Option.isSome_iff_exists.mp loadable.currentDonation
  obtain ⟨goal, hasGoal⟩ := Option.isSome_iff_exists.mp loadable.donationGoal
  obtain ⟨title, hasTitle⟩ := Option.isSome_iff_exists.mp loadable.title
  have referred : firebase.referenceForURL imageUrl = some imageUrl :=
    firebase.referenceForURL_eq_some_iff.mpr ⟨loadable.storage imageUrl hasUrl, rfl⟩
  simp only [FeedVC.cellForRowAt, PostCell.configureCell, DataService.refUserCurrent_some,
    hasCaption, hasUrl, hasLikes, hasDonation, hasGoal, hasTitle, referred, Option.bind_eq_bind,
    Option.bind_some]
  cases img <;> rfl

/-- The handler of an answered read returns unless the count overflows. -/
theorem Sound.callback {state : State Device Image Data}
    (sound : Sound firebase uid state.likes)
    {device : Device} {index : Nat} (enabled : Likes.Enabled state.likes (.callback device index))
    (within : ¬ Overflows state (.likes (.callback device index))) :
    ((state.likes.clients device).callback index).isSome := by
  obtain ⟨read, snapshot, pending⟩ := Likes.Enabled.pending enabled
  obtain ⟨object, held⟩ := Option.isSome_iff_exists.mp
    ((sound.supported.armed device).callbacks _ (List.mem_of_getElem? pending))
  have coherent := sound.supported.coherent device
  have present := List.getElem?_eq_getElem (coherent.valid read.cell object held)
  have loadable := (sound.loadable device).objects _ (List.mem_of_getElem? present)
  obtain ⟨likes, counted⟩ := Option.isSome_iff_exists.mp loadable.likes
  refine (Likes.Client.callback_isSome_iff coherent pending held present).mpr
    ⟨likes, counted, Option.isSome_iff_ne_none.mpr fun overflow => ?_⟩
  refine within ⟨(snapshot, _), ?_, likes, counted, overflow⟩
  simp only [Likes.Client.pendingLike, pending, held, present, Option.bind_eq_bind,
    Option.bind_some, Option.pure_def, Option.mem_def]

/-- A listed row can be configured. -/
theorem Sound.configure {state : State Device Image Data}
    (sound : Sound firebase uid state.likes)
    {device : Device} {cell row : Nat} {img : Option Image}
    (enabled : row < (state.likes.clients device).posts.length) :
    ((state.likes.clients device).configure firebase (some (uid device)) cell row img).isSome := by
  have listed := List.getElem?_eq_getElem enabled
  have bound := (sound.supported.armed device).posts _ (List.mem_of_getElem? listed)
  have present := List.getElem?_eq_getElem bound
  have loadable := (sound.loadable device).objects _ (List.mem_of_getElem? present)
  obtain ⟨result, configured⟩ := Option.isSome_iff_exists.mp (loadable.configureCell
    ((state.likes.clients device).cells cell) (uid device)
    ((state.likes.clients device).posts[row]) img)
  simp only [Likes.Client.configure, listed, present, configured, Option.bind_eq_bind,
    Option.bind_some]
  rfl

omit [DecidableEq Device] in
/-- A callback whose count overflows traps. -/
theorem not_overflows_of_callback {state : State Device Image Data}
    (coherent : Likes.Coherent uid state.likes) {device : Device} {index : Nat}
    (done : ((state.likes.clients device).callback index).isSome) :
    ¬ Overflows state (.likes (.callback device index)) := by
  obtain ⟨⟨client, writes⟩, done⟩ := Option.isSome_iff_exists.mp done
  obtain ⟨read, snapshot, object, post, likes, _, pending, held, present, counted, checked, _⟩ :=
    Likes.Client.callback_spec (coherent device) done
  rintro ⟨given, found, others, counts, overflow⟩
  simp only [Likes.Client.pendingLike, pending, held, present, Option.bind_eq_bind,
    Option.bind_some, Option.pure_def, Option.mem_def] at found
  cases found
  cases counted.symm.trans counts
  rw [checked] at overflow
  cases overflow

/-- The handlers of the form return. -/
theorem isSome_publishing {form : Publishing.State Image Data} {action : Publishing.Action Image}
    (enabled : Publishing.Enabled form action) :
    (Publishing.handle jpeg placeholder form action).isSome := by
  cases action with
  | editCaption text => rfl
  | pickImage editedImage => rfl
  | postBtnTapped =>
      rw [Publishing.handle]
      split <;> rfl
  | uploadSucceeded ticket url key =>
      obtain ⟨upload, found⟩ := Option.isSome_iff_exists.mp enabled.1
      simp only [Publishing.handle, found, Option.bind_eq_bind, Option.bind_some]
      rfl
  | uploadFailed ticket => rfl

/-- Every handler of the feed returns, that of a callback unless its count overflows. -/
theorem Sound.likes {state : State Device Image Data} (sound : Sound firebase uid state.likes)
    {action : Likes.Action Device Image} (enabled : Likes.Enabled state.likes action)
    (within : ¬ Overflows state (.likes action)) :
    (Likes.handle firebase uid state.likes action).isSome := by
  cases action with
  | callback device index =>
      rw [Likes.handle_callback_isSome]
      exact sound.callback enabled within
  | configure device cell row img =>
      have returns : ((state.likes.clients device).configure firebase (some (uid device)) cell row
          img).isSome := sound.configure enabled
      obtain ⟨result, done⟩ := Option.isSome_iff_exists.mp returns
      simp only [Likes.handle, done, Option.bind_eq_bind, Option.bind_some]
      rfl
  | tap device cell => exact Likes.isSome_handle enabled (by simp) (by simp)
  | answer device index => exact Likes.isSome_handle enabled (by simp) (by simp)
  | serve device => exact Likes.isSome_handle enabled (by simp) (by simp)
  | event device => exact Likes.isSome_handle enabled (by simp) (by simp)

/-- **No handler traps on what is stored.** From a database whose fundraisers decode and whose
image addresses are of the app's storage, in every run of any number of devices whose uploads
come back with such addresses, the same holds of what is stored and of what each device sees,
and every handler returns, unless it is the callback of a like whose count leaves the range
of `Int`. -/
theorem handlers_return (firebase : Firebase) (uid : Device → String)
    (jpeg : Image → Option Data) (placeholder : Option Image) {database : Node}
    (decodable : Decodable database) (addressed : Addressed firebase database)
    (forms : Device → FeedVC Image) {actions : List (Action Device Image)}
    {finish : State Device Image Data}
    (run : (machine firebase uid jpeg placeholder).Run (initial database forms) actions finish)
    (own : ∀ action ∈ actions, ∀ url ∈ uploadedURL action, firebase.isStorageURL url = true) :
    (Decodable finish.likes.database ∧ Addressed firebase finish.likes.database) ∧
      (∀ device, Decodable (finish.likes.view device) ∧
        Addressed firebase (finish.likes.view device)) ∧
      ∀ action, Enabled finish action →
        ((handle firebase uid jpeg placeholder finish action).isSome ↔
          ¬ Overflows finish action) := by
  have sound := sound_run decodable addressed run own
  refine ⟨⟨sound.decodable, sound.addressed.tree⟩, fun device => ?_, fun action enabled => ?_⟩
  · rw [← Likes.State.view_replica]
    exact ⟨sound.supported.decodable_view sound.decodable device, sound.addressed.view device⟩
  · cases action with
    | likes action =>
        constructor
        · intro returns
          obtain ⟨next, handled⟩ := Option.isSome_iff_exists.mp returns
          obtain ⟨likes, done, _⟩ := Option.bind_eq_some_iff.mp handled
          cases action with
          | callback device index =>
              obtain ⟨result, called, _⟩ := Option.bind_eq_some_iff.mp done
              exact not_overflows_of_callback sound.supported.coherent
                (Option.isSome_of_eq_some called)
          | tap device cell => exact id
          | answer device index => exact id
          | serve device => exact id
          | event device => exact id
          | configure device cell row img => exact id
        · intro within
          have returns : (Likes.handle firebase uid finish.likes action).isSome :=
            sound.likes enabled within
          obtain ⟨likes, done⟩ := Option.isSome_iff_exists.mp returns
          simp only [handle, done, Option.bind_eq_bind, Option.bind_some]
          rfl
    | publishing device action =>
        refine iff_of_true ?_ id
        have returns :
            (Publishing.handle jpeg placeholder (finish.publishing device) action).isSome :=
          isSome_publishing enabled.1
        obtain ⟨form, done⟩ := Option.isSome_iff_exists.mp returns
        simp only [handle, done, Option.bind_eq_bind, Option.bind_some]
        rfl
    | userWrite device write =>
        refine iff_of_true ?_ id
        obtain ⟨issued, done, _⟩ := UserWrite.issue_assignments (uid device) write
        simp only [handle, done, Option.bind_eq_bind, Option.bind_some]
        rfl

/-- The handler of Ann's like returns. -/
theorem handlers_return_for_a_like :
    ∃ finish, (machine Firebase.byKey Likes.twoUsers (fun _ : Unit => some ()) none).execute
        (initial Likes.oneFundraiser emptyForms) [.likes (.event true),
          .likes (.configure true 0 0 none), .likes (.tap true 0), .likes (.answer true 0)] =
        some finish ∧
      (handle Firebase.byKey Likes.twoUsers (fun _ : Unit => some ()) none finish
        (.likes (.callback true 0))).isSome := by
  have reached : ((machine Firebase.byKey Likes.twoUsers (fun _ : Unit => some ()) none).execute
      (initial Likes.oneFundraiser emptyForms) [.likes (.event true),
        .likes (.configure true 0 0 none), .likes (.tap true 0), .likes (.answer true 0)]).map
      (fun finish => (decide (Enabled finish (.likes (.callback true 0))),
        ((finish.likes.clients true).pendingLike 0).map fun pending =>
          (decide pending.1.IsNull, pending.2.likes))) = some (true, some (true, some 0)) := by
    decide
  obtain ⟨finish, executed, shape⟩ := Option.map_eq_some_iff.mp reached
  obtain ⟨enabled, pending⟩ := Prod.mk.inj shape
  obtain ⟨⟨snapshot, post⟩, found, given⟩ := Option.map_eq_some_iff.mp pending
  obtain ⟨absent, counted⟩ := Prod.mk.inj given
  refine ⟨finish, executed, ((handlers_return Firebase.byKey Likes.twoUsers
    (fun _ : Unit => some ()) none (by decide) (by decide) emptyForms
    (Machine.run_of_execute executed) (by decide)).2.2 _
    (of_decide_eq_true enabled)).mpr ?_⟩
  rintro ⟨other, same, likes, counts, overflow⟩
  cases found.symm.trans same
  cases counted.symm.trans counts
  rw [if_pos (of_decide_eq_true absent)] at overflow
  exact absurd overflow (by decide)

end MyFundi.Community
