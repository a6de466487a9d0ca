import Mathlib.Order.SymmDiff
import MyFundi.Community.Convergence
import MyFundi.Community.Decoding
import MyFundi.Community.Publication
import MyFundi.Community.Settling

/-!
# What the app is for

A ledger holds the fundraisers that were published and, for each, the users who like it.
Publishing adds a fundraiser that nobody likes, and a like turns the user's opinion around.
While likes start from what is up to date, the database of the app is such a ledger: the
writes and events of the devices may interleave in any way, and what every screen shows in
the end is what the ledger says.
-/

namespace MyFundi.Community

open Foundation

/-- What a publisher and the donors make of a fundraiser. -/
structure Fundraiser where
  caption : String
  imageUrl : String
  currentDonation : SwiftFloat
  donationGoal : SwiftFloat
  title : String

/-- The fundraisers published and, for each, the users who like it. -/
structure Ledger where
  fundraisers : String → Option Fundraiser
  likers : String → Finset String

/-- What the ledger is told: a publication, or a like turned around. -/
inductive Operation where
  | publish (key captionField imgUrl : String)
  | toggle (uid postKey : String)
deriving DecidableEq

namespace Ledger

/-- A publication has no likers and the fixed fields of the feed's form; a like turned around
adds its user or takes the user out. -/
def apply (ledger : Ledger) : Operation → Ledger
  | .publish key captionField imgUrl => {
      fundraisers := Function.update ledger.fundraisers key
        (some ⟨captionField, imgUrl, 0, 0, "Test"⟩)
      likers := Function.update ledger.likers key ∅ }
  | .toggle uid postKey => { ledger with
      likers := Function.update ledger.likers postKey
        (symmDiff (ledger.likers postKey) {uid}) }

/-- The post to show for a key: the fundraiser, with the number of users who like it. -/
def post (ledger : Ledger) (key : String) : Option Post :=
  (ledger.fundraisers key).map fun fundraiser => {
    postKey := key
    caption := some fundraiser.caption
    imageUrl := some fundraiser.imageUrl
    likes := some (ledger.likers key).card
    currentDonation := some fundraiser.currentDonation
    donationGoal := some fundraiser.donationGoal
    title := some fundraiser.title }

/-- A like turned around is that of one user for one fundraiser. -/
@[simp] theorem likers_toggle (ledger : Ledger) (uid postKey : String) :
    (ledger.apply (.toggle uid postKey)).likers = Function.update ledger.likers postKey
      (symmDiff (ledger.likers postKey) {uid}) := rfl

/-- Nobody likes a fundraiser that has just been published. -/
@[simp] theorem likers_publish (ledger : Ledger) (key captionField imgUrl : String) :
    (ledger.apply (.publish key captionField imgUrl)).likers =
      Function.update ledger.likers key ∅ := rfl

/-- A like turned around changes no other fundraiser. -/
theorem post_toggle_of_ne (ledger : Ledger) (uid : String) {postKey key : String}
    (different : key ≠ postKey) : (ledger.apply (.toggle uid postKey)).post key = ledger.post key := by
  simp only [post, apply, Function.update_of_ne different]

/-- A like moves the number shown by one. -/
theorem post_toggle_self (ledger : Ledger) (uid postKey : String) {shown : Post}
    (given : ledger.post postKey = some shown) :
    (ledger.apply (.toggle uid postKey)).post postKey =
      some { shown with likes := some ((symmDiff (ledger.likers postKey) {uid}).card : Int) } := by
  obtain ⟨fundraiser, found, rfl⟩ := Option.map_eq_some_iff.mp given
  simp only [post, apply, found, Option.map_some, Function.update_self]

end Ledger

/-- The post stored under a key. -/
def decoded (database : Node) (key : String) : Option Post :=
  if (fundraiser database key).IsNull then none
  else some (Post.init key (fundraiser database key))

/-- The database stores the posts of the ledger, and the like records say who likes them. -/
structure Represents (database : Node) (ledger : Ledger) : Prop where
  posts : ∀ key, decoded database key = ledger.post key
  likers : ∀ key, Likes.likers database key = ledger.likers key

variable {database : Node} {ledger : Ledger}

/-- A fundraiser that is there is decoded. -/
theorem decoded_of_present {key : String} (present : Present database key) :
    decoded database key = some (Post.init key (fundraiser database key)) :=
  if_neg present

theorem decoded_congr {other : Node} {key : String}
    (same : fundraiser other key = fundraiser database key) :
    decoded other key = decoded database key := by
  rw [decoded, decoded, same]

/-- The user likes the post if the record is there, and the like turns it around. -/
theorem symmDiff_singleton (users : Finset String) (uid : String) {add : Bool}
    (direction : add = true ↔ uid ∉ users) :
    symmDiff users {uid} = if add then insert uid users else users.erase uid := by
  ext other
  rw [Finset.mem_symmDiff, Finset.mem_singleton]
  cases add with
  | true =>
      have absent := direction.mp rfl
      by_cases same : other = uid
      · subst same
        simp [absent]
      · simp [same]
  | false =>
      have present : uid ∈ users := by
        by_contra absent
        exact Bool.false_ne_true (direction.mpr absent)
      by_cases same : other = uid
      · subst same
        simp [present]
      · simp [same]

/-- **A like that starts from the stored count is one of the ledger's.** -/
theorem Represents.toggle (represents : Represents database ledger) {owner postKey : String}
    {likes : Int} {add : Bool}
    (count : Node.asInt (database.sub (likesCountRef postKey)) = some likes)
    (direction : add = true ↔ (database.sub (likeRecordRef owner postKey)).IsNull)
    (checked : checkedInt (if add then likes + 1 else likes - 1) =
      some (if add then likes + 1 else likes - 1)) :
    Represents (applyWrites database (likeWrites owner postKey likes add))
      (ledger.apply (.toggle owner postKey)) := by
  have absent : add = true ↔ owner ∉ ledger.likers postKey := by
    rw [direction, ← represents.likers, Likes.mem_likers, not_not]
  refine ⟨?_, ?_⟩
  · intro key
    by_cases same : key = postKey
    · subst same
      have present : Present database key := by
        apply Likes.fundraiser_of_count
        intro empty
        rw [Node.asInt, (Tree.isNull_iff_value _).mp empty []] at count
        cases count
      have shown := (represents.posts key).symm.trans (decoded_of_present present)
      have total : likes = (ledger.likers key).card := by
        obtain ⟨story, _, same⟩ := Option.map_eq_some_iff.mp shown
        have held := congrArg Post.likes same
        have stored : (Post.init key (fundraiser database key)).likes = some likes := by
          rw [← count]
          exact congrArg Node.asInt (Tree.sub_append database _ ["likes"]).symm
        exact Option.some.inj (stored.symm.trans held.symm)
      have changed : fundraiser (applyWrites database (likeWrites owner key likes add)) key =
          fundraiser (database.set (likesCountRef key)
            (.leaf (.int (if add then likes + 1 else likes - 1)))) key := by
        rw [applyWrites, Likes.likeWrites_assignments]
        exact Tree.sub_set_of_incomparable _ _
          (incomparable_append_cons [] (by decide) [owner, "likes", key] [key])
      have still : Present (applyWrites database (likeWrites owner key likes add)) key := by
        apply Likes.fundraiser_of_count
        rw [(Likes.sub_likeWrites_self database owner key likes add).1]
        exact Tree.not_isNull_leaf _
      rw [decoded_of_present still, changed, ledger.post_toggle_self owner key shown]
      rw [fundraiser, init_set_count, checked, symmDiff_singleton _ _ absent, total]
      -- The number of users who like the post moves with the count.
      cases add with
      | true =>
          rw [if_pos rfl, if_pos rfl, Finset.card_insert_of_notMem (absent.mp rfl)]
          rfl
      | false =>
          have member : owner ∈ ledger.likers key := by
            by_contra missing
            exact Bool.false_ne_true (absent.mpr missing)
          have positive := Finset.card_pos.mpr ⟨owner, member⟩
          have less : (((ledger.likers key).erase owner).card : Int) =
              (ledger.likers key).card - 1 := by
            rw [Finset.card_erase_of_mem member]
            omega
          simp only [Bool.false_eq_true, ↓reduceIte, less]
          rfl
    · rw [ledger.post_toggle_of_ne owner same, ← represents.posts]
      exact decoded_congr (Likes.sub_likeWrites_fundraiser database owner likes add same)
  · intro key
    by_cases same : key = postKey
    · subst same
      rw [Likes.likers_likeWrites, represents.likers, Ledger.likers_toggle, Function.update_self,
        symmDiff_singleton _ _ absent]
    · rw [Likes.likers_likeWrites_of_ne database owner likes add same, represents.likers,
        Ledger.likers_toggle, Function.update_of_ne same]

/-- **Publishing under a new key is the ledger's.** -/
theorem Represents.publish (represents : Represents database ledger) {key : String}
    (unliked : ∀ uid, (database.sub (likeRecordRef uid key)).IsNull)
    (owner captionField imgUrl : String) :
    Represents (database.set (Deed.assignment owner (.publish key captionField imgUrl)).path
        (Deed.assignment owner (.publish key captionField imgUrl)).placed)
      (ledger.apply (.publish key captionField imgUrl)) := by
  refine ⟨?_, ?_⟩
  · intro other
    by_cases same : other = key
    · subst same
      have stored : fundraiser (database.set (DataService.refFundraisers.child other)
          (Node.ofFields (FeedVC.post captionField imgUrl))) other =
            Node.ofFields (FeedVC.post captionField imgUrl) :=
        Tree.sub_set_self database _ _
      have record := init_ofFields (.feedVC captionField imgUrl) other
      rw [show (RecordWriter.feedVC captionField imgUrl).post =
        FeedVC.post captionField imgUrl from rfl] at record
      rw [Deed.assignment, decoded, stored, if_neg (Deed.present_publish captionField imgUrl),
        record]
      simp only [Ledger.post, Ledger.apply, Function.update_self, Option.map_some]
      rfl
    · have kept : fundraiser (database.set (Deed.assignment owner (.publish key captionField
          imgUrl)).path (Deed.assignment owner (.publish key captionField imgUrl)).placed) other =
            fundraiser database other :=
        Tree.sub_set_of_incomparable database _
          (Deed.incomparable_fundraiser owner fun equal => same (Option.some.inj equal).symm)
      rw [decoded_congr kept, represents.posts]
      simp only [Ledger.post, Ledger.apply, Function.update_of_ne same]
  · intro other
    have kept : Likes.likers (database.set (Deed.assignment owner (.publish key captionField
        imgUrl)).path (Deed.assignment owner (.publish key captionField imgUrl)).placed) other =
          Likes.likers database other := by
      ext uid
      rw [Likes.mem_likers, Likes.mem_likers, Tree.sub_set_of_incomparable]
      exact incomparable_append_cons [] (by decide) [key] [uid, "likes", other]
    rw [kept, Ledger.likers_publish]
    by_cases same : other = key
    · subst same
      rw [Function.update_self, Finset.eq_empty_iff_forall_notMem]
      intro uid
      rw [Likes.mem_likers, not_not]
      exact unliked uid
    · rw [Function.update_of_ne same, represents.likers]

/-- Writes to the other parts of a user's node are none of the ledger's business. -/
theorem Represents.user (represents : Represents database ledger) (owner : String)
    {write : UserWrite} (profile : OfProfile write) :
    Represents (database.set (Deed.assignment owner (.user write)).path
      (Deed.assignment owner (.user write)).placed) ledger := by
  refine ⟨?_, ?_⟩
  · intro key
    rw [← represents.posts]
    refine decoded_congr (Tree.sub_set_of_incomparable database _ ?_)
    exact Deed.incomparable_fundraiser owner (by simp [Deed.fundraiser])
  · intro key
    rw [← represents.likers]
    ext uid
    rw [Likes.mem_likers, Likes.mem_likers, Tree.sub_set_of_incomparable]
    rcases UserChild.ref_separate (owner, write.child) (uid, .like key) with same | apart
    · have child := (Prod.mk.inj same).2
      cases write <;> first | exact profile.elim | cases child
    · exact apart

/-- A list whose every element is kept. -/
theorem map_some_filterMap {Element Result : Type} {elements : List Element}
    {keep : Element → Option Result} (all : ∀ element ∈ elements, (keep element).isSome) :
    (elements.filterMap keep).map some = elements.map keep := by
  induction elements with
  | nil => rfl
  | cons element rest ih =>
      rw [List.forall_mem_cons] at all
      obtain ⟨result, kept⟩ := Option.isSome_iff_exists.mp all.1
      rw [List.filterMap_cons_some kept, List.map_cons, List.map_cons, ih all.2, kept]

/-- The feed lists each fundraiser of the ledger once. -/
theorem Represents.loadedPosts (represents : Represents database ledger) (firebase : Firebase) :
    ∃ keys : List String, keys.Nodup ∧
      (∀ key, key ∈ keys ↔ (ledger.fundraisers key).isSome) ∧
      (FeedVC.loadedPosts firebase (database.sub DataService.refFundraisers)).map some =
        keys.map ledger.post := by
  have stored (key : String) : key ∈ firebase.childKeys
      (database.sub DataService.refFundraisers) ↔ Present database key := by
    rw [firebase.mem_childKeys, ← Tree.sub_append]
    rfl
  have posted {key : String} (present : Present database key) :
      ledger.post key = some (Post.init key (fundraiser database key)) :=
    (represents.posts key).symm.trans (decoded_of_present present)
  refine ⟨firebase.childKeys (database.sub DataService.refFundraisers),
    firebase.childKeys_nodup _, fun key => ?_, ?_⟩
  · rw [stored]
    constructor
    · intro present
      obtain ⟨story, found, _⟩ := Option.map_eq_some_iff.mp (posted present)
      exact Option.isSome_of_eq_some found
    · intro found absent
      have empty : (fundraiser database key).IsNull := absent
      have shown := represents.posts key
      obtain ⟨story, here⟩ := Option.isSome_iff_exists.mp found
      rw [decoded, if_pos empty, Ledger.post, here] at shown
      cases shown
  · have delivered : ∀ key ∈ firebase.childKeys (database.sub DataService.refFundraisers),
        (firebase.asDictionary ((database.sub DataService.refFundraisers).sub [key])).map
          (Post.init key) = ledger.post key := by
      intro key member
      have present := (stored key).mp member
      have shown := posted present
      obtain ⟨story, _, same⟩ := Option.map_eq_some_iff.mp shown
      -- Its caption is stored, so the fundraiser is delivered as a dictionary.
      have caption : ¬ (Node.entry (fundraiser database key) "caption").IsNull := by
        intro empty
        have missing : (Post.init key (fundraiser database key)).caption = none := by
          rw [Post.init, Node.asString, (Tree.isNull_iff_value _).mp empty []]
          rfl
        rw [← same] at missing
        cases missing
      rw [← Tree.sub_append, shown]
      have dictionary := firebase.asDictionary_of_key caption (by decide)
      rw [show database.sub (DataService.refFundraisers ++ [key]) = fundraiser database key from rfl,
        dictionary]
      rfl
    have kept : FeedVC.loadedPosts firebase (database.sub DataService.refFundraisers) =
        (firebase.childKeys (database.sub DataService.refFundraisers)).filterMap ledger.post := by
      rw [FeedVC.loadedPosts, Firebase.allObjects, List.filterMap_map]
      exact List.filterMap_congr delivered
    rw [kept, map_some_filterMap]
    intro key member
    exact Option.isSome_of_eq_some (posted ((stored key).mp member))

variable {Device Image Data : Type}

/-- The operation of the ledger that an action carries out. It is read off when the writes
are issued: the post is the one the cell shows and the caption the one in the field by then,
not those of the user's tap. -/
def operation (uid : Device → String) (before : State Device Image Data) :
    Action Device Image → Option Operation
  | .likes (.callback device index) =>
      ((before.likes.clients device).pendingLike index).map fun pending =>
        .toggle (uid device) pending.2.postKey
  | .publishing device (.uploadSucceeded _ url key) =>
      some (.publish key (before.publishing device).vc.captionField url)
  | _ => none

variable [DecidableEq Device] {firebase : Firebase} {uid : Device → String}
  {jpeg : Image → Option Data} {placeholder : Option Image}
  {before after : State Device Image Data}

/-- A new key is liked by nobody, and no like of it is in flight. -/
theorem Queued.unliked {state : Likes.State Device Image} (queued : Queued uid state) {key : String}
    (fresh : NewKey state key) (owner : String) :
    (state.replica.settled.sub (likeRecordRef owner key)).IsNull := by
  have elsewhere : ∀ write ∈ state.replica.pending.flatMap Prod.snd,
      Incomparable write.path (likeRecordRef owner key) := by
    intro write inside
    obtain ⟨entry, member, inside⟩ := List.mem_flatMap.mp inside
    obtain ⟨deed, issued⟩ := queued.performing entry member
    obtain ⟨old, present, rfl⟩ := List.mem_map.mp member
    have away := fresh.2 old present write inside
    rw [issued] at inside
    cases List.mem_singleton.mp inside
    refine Deed.incomparable_record fun _ write user child => away ?_
    rw [user, Deed.assignment, UserWrite.assignment, child]
    exact Or.inr ⟨rfl, rfl⟩
  rw [Replica.settled, Tree.sub_applyAll_of_incomparable _ elsewhere, Tree.isNull_iff_value]
  intro rest
  rw [Tree.value_sub]
  by_contra stored
  refine fresh.1 (likeRecordRef owner key ++ rest) ?_ (Or.inr ⟨rfl, rfl⟩)
  rw [Tree.mem_support]
  exact Option.isSome_iff_ne_none.mpr stored

/-- **Every step carries out its operation of the ledger.** -/
theorem Represents.step {action : Action Device Image} (queued : Queued uid before.likes)
    (exclusive : Exclusive before.likes.replica) (distinct : Function.Injective uid)
    (represents : Represents before.likes.replica.settled ledger)
    (traffic : Traffic uid before after action) (upToDate : UpToDate uid before action) :
    Represents after.likes.replica.settled
      ((operation uid before action).toList.foldl Ledger.apply ledger) := by
  cases traffic with
  | like given object held checked performed records =>
      have present := (queued.supported.seen _).objects _ object
      obtain ⟨count, direction⟩ := (upToDate.given given held).settled queued distinct present
      rw [performed, perform, Replica.settled_issue, ← likeWrites_deeds, ← List.flatMap_def]
      rw [operation, given]
      exact represents.toggle count direction (by simpa using checked)
  | publish fresh unused performed records =>
      rw [performed, perform, Replica.settled_issue]
      exact represents.publish (queued.unliked fresh) _ _ _
  | user profile performed records =>
      rw [performed, perform, Replica.settled_issue]
      exact represents.user _ profile
  | serve serves records =>
      rw [serves.settled (queued.apart distinct exclusive)]
      exact represents
  | quiet silent same records =>
      rw [same]
      cases action with
      | likes action =>
          cases action with
          | callback device index => exact silent.elim
          | tap device cell => exact represents
          | answer device index => exact represents
          | serve device => exact represents
          | event device => exact represents
          | configure device cell row img => exact represents
      | publishing device action =>
          cases action with
          | uploadSucceeded ticket url key => exact silent.elim
          | editCaption text => exact represents
          | pickImage editedImage => exact represents
          | postBtnTapped => exact represents
          | uploadFailed ticket => exact represents
      | userWrite device write => exact silent.elim

/-- What holds after the operations `seen`, as long as every like is up to date. -/
structure Keeping (uid : Device → String) (ledger : Ledger) (state : State Device Image Data)
    (seen : List Operation) : Prop where
  queued : Queued uid state.likes
  exclusive : Exclusive state.likes.replica
  represents : Represents state.likes.replica.settled (seen.foldl Ledger.apply ledger)

/-- Every step keeps the ledger, told of the operation the step makes. -/
theorem Keeping.step {action : Action Device Image} {seen : List Operation}
    (keeping : Keeping uid ledger before seen) (distinct : Function.Injective uid)
    (step : (machine firebase uid jpeg placeholder).Step before action after)
    (upToDate : UpToDate uid before action) :
    Keeping uid ledger after (seen ++ (operation uid before action).toList) := by
  have moves := traffic keeping.queued.supported.coherent step
  refine ⟨keeping.queued.step step, keeping.exclusive.step moves upToDate, ?_⟩
  rw [List.foldl_append]
  exact keeping.represents.step keeping.queued keeping.exclusive distinct moves upToDate

theorem keeping_initial (uid : Device → String) (represents : Represents database ledger)
    (forms : Device → FeedVC Image) :
    Keeping uid ledger (initial database forms : State Device Image Data) [] where
  queued := queued_initial uid database
  exclusive := by
    intro first member
    cases member
  represents := represents

/-- Every fundraiser of the ledger once, as a feed lists them. -/
def ListsLedger (ledger : Ledger) (client : Likes.Client Image) : Prop :=
  ∃ keys : List String, keys.Nodup ∧ (∀ key, key ∈ keys ↔ (ledger.fundraisers key).isSome) ∧
    client.listed = keys.map ledger.post

/-- **The app keeps a ledger.** Let the database represent a ledger, and let devices of
different users like, publish and edit profiles in any order, every like starting from what
is up to date. Then the database, once the writes in flight are applied, represents the
ledger that the operations lead to, and it does so at once when none are in flight; every
device with no event to come then lists each fundraiser of that ledger once, with the number
of users who like it. -/
theorem app_refines_ledger (firebase : Firebase) {uid : Device → String}
    (distinct : Function.Injective uid) (jpeg : Image → Option Data) (placeholder : Option Image)
    {database : Node} {ledger : Ledger} (represents : Represents database ledger)
    (forms : Device → FeedVC Image) {actions : List (Action Device Image)}
    {finish : State Device Image Data}
    (run : (machine firebase uid jpeg placeholder).Run (initial database forms) actions finish)
    (upToDate : (machine firebase uid jpeg placeholder).Guarded (UpToDate uid)
      (initial database forms) actions) :
    let kept := ((machine firebase uid jpeg placeholder).observed (operation uid)
      (initial database forms) actions).foldl Ledger.apply ledger
    Represents finish.likes.settled kept ∧ (finish.likes.inFlight = [] →
      Represents finish.likes.database kept ∧ ∀ device,
        (finish.likes.clients device).events = [] →
          ListsLedger kept (finish.likes.clients device)) := by
  intro kept
  have reached := run.invariant_observed upToDate
    (fun before _ _ seen (keeping : Keeping uid ledger before seen) step fine =>
      keeping.step distinct step fine)
    (keeping_initial uid represents forms)
  have held := reached.represents
  rw [Likes.State.settled_replica] at held
  refine ⟨held, fun none => ?_⟩
  have quiet : finish.likes.settled = finish.likes.database := by
    rw [Likes.State.settled, none]
    rfl
  rw [quiet] at held
  refine ⟨held, fun device noEvents => ?_⟩
  obtain ⟨keys, nodup, exactly, lists⟩ := held.loadedPosts firebase
  refine ⟨keys, nodup, exactly, ?_⟩
  have told : Lists firebase (finish.likes.clients device) _ := (told_run run).lists noEvents
  rw [told.listed, Likes.State.view_of_applied none, lists]

section OneFundraiser

/-- The ledger with one fundraiser that nobody likes. -/
def oneFundraiserLedger : Ledger where
  fundraisers := fun key => if key = "walk" then some ⟨"A walk", "gs://pic", 0, 0, "Test"⟩ else none
  likers := fun _ => ∅

theorem represents_oneFundraiser : Represents Likes.oneFundraiser oneFundraiserLedger where
  posts := by
    intro key
    by_cases same : key = "walk"
    · subst same
      decide
    · have only : ∀ key ∈ Firebase.keySet (Likes.oneFundraiser.sub DataService.refFundraisers),
          key = "walk" := by decide
      have absent : (fundraiser Likes.oneFundraiser key).IsNull := by
        by_contra present
        refine same (only key ?_)
        rw [Firebase.mem_keySet, ← Tree.sub_append]
        exact present
      have unlisted : oneFundraiserLedger.fundraisers key = none := if_neg same
      rw [decoded, if_pos absent, Ledger.post, unlisted]
      rfl
  likers := by
    intro key
    have none : Firebase.keySet (Likes.oneFundraiser.sub DataService.refUsers) = ∅ := by decide
    rw [Likes.likers, none]
    rfl

/-- Ann likes the fundraiser, Bob publishes another and then likes the first. -/
def annLikesBobPublishes : List (Action Bool Unit) :=
  [.likes (.event true), .likes (.configure true 0 0 none), .likes (.tap true 0),
    .likes (.answer true 0), .publishing false (.editCaption "A run"),
    .publishing false (.pickImage (some ())), .publishing false .postBtnTapped,
    .likes (.callback true 0), .likes (.serve true), .likes (.serve true),
    .likes (.event false), .likes (.event false), .likes (.configure false 0 0 none),
    .publishing false (.uploadSucceeded 0 "gs://run" "run"), .likes (.tap false 0),
    .likes (.answer false 0), .likes (.callback false 0), .likes (.serve false),
    .likes (.serve false), .likes (.serve false)]

/-- The ledger then has both fundraisers, the first with both users. -/
theorem both_like_in_ledger :
    ∃ finish, (machine Firebase.byKey Likes.twoUsers (fun _ : Unit => some ()) none).execute
        (initial Likes.oneFundraiser emptyForms) annLikesBobPublishes = some finish ∧
      Represents finish.likes.database ([.toggle "ann" "walk", .publish "run" "A run" "gs://run",
        .toggle "bob" "walk"].foldl Ledger.apply oneFundraiserLedger) := by
  have reached : ((machine Firebase.byKey Likes.twoUsers (fun _ : Unit => some ()) none).execute
      (initial Likes.oneFundraiser emptyForms) annLikesBobPublishes).map (fun finish =>
        finish.likes.inFlight.length) = some 0 := by decide
  obtain ⟨finish, executed, applied⟩ := Option.map_eq_some_iff.mp reached
  have operations : (machine Firebase.byKey Likes.twoUsers (fun _ : Unit => some ()) none).observed
      (operation Likes.twoUsers) (initial Likes.oneFundraiser emptyForms) annLikesBobPublishes =
        [.toggle "ann" "walk", .publish "run" "A run" "gs://run", .toggle "bob" "walk"] := by
    decide
  have kept := app_refines_ledger Firebase.byKey Likes.twoUsers_injective
    (fun _ : Unit => some ()) none represents_oneFundraiser emptyForms
    (Machine.run_of_execute executed) (Machine.guarded_of_respects (by decide))
  rw [operations] at kept
  exact ⟨finish, executed, (kept.2 (List.eq_nil_of_length_eq_zero applied)).1⟩

end OneFundraiser

end MyFundi.Community
