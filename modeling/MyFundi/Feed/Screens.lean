import MyFundi.Feed.Informed

/-!
# What the feed shows

The feed rebuilds its list on every event, callbacks change its posts in place, and cells
keep the texts they were configured with. A device that has no event to come nevertheless
lists exactly the posts it sees in the database, and every cell of a listed post shows
what is stored: a change in place that the device has not been told of changes nothing.
-/

namespace MyFundi

open Foundation

variable {Image : Type}

namespace PostCell

/-- The labels of a cell hold the contents of a post. -/
structure Shows (cell : PostCell Image) (post : Post) : Prop where
  caption : cell.caption = post.caption
  likes : cell.likesLbl = post.likes
  currentDonation : cell.currentDonationLbl = post.currentDonation
  donationGoal : cell.donationGoalLbl = post.donationGoal
  title : cell.fundraiserLbl = post.title

/-- A configured cell shows the object it was configured with, and its contents. -/
theorem shows_configureCell {firebase : Firebase} {cell configured : PostCell Image}
    {keychain : Option String} {object : PostObject} {post : Post} {img : Option Image}
    {download : Option String}
    (done : cell.configureCell firebase keychain object post img = some (configured, download)) :
    configured.post = some object ∧ configured.Shows post := by
  simp only [configureCell, Option.bind_eq_bind, Option.bind_eq_some_iff] at done
  obtain ⟨user, _, caption, hasCaption, likes, hasLikes, donation, hasDonation, goal, hasGoal,
    title, hasTitle, done⟩ := done
  cases img with
  | some img =>
      cases done
      exact ⟨rfl, hasCaption.symm, hasLikes.symm, hasDonation.symm, hasGoal.symm, hasTitle.symm⟩
  | none =>
      obtain ⟨imageUrl, _, done⟩ := Option.bind_eq_some_iff.mp done
      obtain ⟨ref, _, done⟩ := Option.bind_eq_some_iff.mp done
      cases done
      exact ⟨rfl, hasCaption.symm, hasLikes.symm, hasDonation.symm, hasGoal.symm, hasTitle.symm⟩

/-- A callback changes nothing of its post but the count, and nothing of its cell but the
heart. -/
theorem likeTappedCallback_frame {cell shown : PostCell Image} {post adjusted : Post}
    {snapshot : Node} {writes : List Write}
    (done : cell.likeTappedCallback post snapshot = some (shown, adjusted, writes)) :
    (∃ heart, shown = { cell with likeImage := some heart }) ∧
      adjusted = { post with likes := adjusted.likes } := by
  unfold likeTappedCallback at done
  obtain ⟨likesRef, _, done⟩ := Option.bind_eq_some_iff.mp done
  split at done
  all_goals
    obtain ⟨⟨changed, count⟩, adjusting, done⟩ := Option.bind_eq_some_iff.mp done
    obtain ⟨likes, _, _, rfl, _⟩ := Post.adjustLikes_eq_some adjusting
    cases done
    exact ⟨⟨_, rfl⟩, rfl⟩

/-- A like turns the heart around. -/
theorem likeTappedCallback_heart {cell shown : PostCell Image}
    {post adjusted : Post} {snapshot : Node} {writes : List Write}
    (done : cell.likeTappedCallback post snapshot = some (shown, adjusted, writes)) :
    shown.likeImage = some (if snapshot.IsNull then .filledHeart else .emptyHeart) := by
  unfold likeTappedCallback at done
  obtain ⟨likesRef, _, done⟩ := Option.bind_eq_some_iff.mp done
  split at done
  all_goals
    rename_i present
    obtain ⟨changed, _, done⟩ := Option.bind_eq_some_iff.mp done
    cases done
    simp only [present, ↓reduceIte]

end PostCell

namespace Likes

namespace Client

/-- The listed posts, as their objects hold them now. -/
def listed (client : Client Image) : List (Option Post) :=
  client.posts.map fun object => client.objects[object]?

/-- With no event to come, the feed lists the posts it sees, and the cells of listed posts
show them. -/
structure Current (firebase : Firebase) (client : Client Image) (view : Node) : Prop where
  listed : client.events = [] → client.listed =
    (FeedVC.loadedPosts firebase (view.sub DataService.refFundraisers)).map some
  shown : client.events = [] → ∀ cell, ∀ object ∈ client.posts,
    (client.cells cell).post = some object → ∀ post, client.objects[object]? = some post →
      (client.cells cell).Shows post

variable {firebase : Firebase} {uid : String} {client next : Client Image} {view : Node}

/-- What a callback does: it issues the two writes of a like for the post its cell shows,
and changes the count of that post and the heart of the cell. -/
theorem callback_spec {index : Nat} {writes : List Write} (coherent : client.Coherent uid)
    (done : client.callback index = some (next, writes)) :
    ∃ read snapshot object post likes heart,
      client.callbacks[index]? = some (read, snapshot) ∧
      (client.cells read.cell).post = some object ∧ client.objects[object]? = some post ∧
      post.likes = some likes ∧
      checkedInt (if snapshot.IsNull then likes + 1 else likes - 1) =
        some (if snapshot.IsNull then likes + 1 else likes - 1) ∧
      writes = likeWrites uid post.postKey likes snapshot.IsNull ∧
      next = { client with
        objects := client.objects.set object
          { post with likes := some (if snapshot.IsNull then likes + 1 else likes - 1) }
        cells := Function.update client.cells read.cell
          { client.cells read.cell with likeImage := some heart }
        callbacks := client.callbacks.eraseIdx index } := by
  obtain ⟨read, snapshot, object, post, likes, pending, held, present, counted, checked, issued, _⟩ :=
    callback_eq_some coherent done
  refine ⟨read, snapshot, object, post, likes, ?_⟩
  obtain ⟨_, found, done⟩ := Option.bind_eq_some_iff.mp done
  cases pending.symm.trans found
  obtain ⟨_, found, done⟩ := Option.bind_eq_some_iff.mp done
  cases held.symm.trans found
  obtain ⟨_, found, done⟩ := Option.bind_eq_some_iff.mp done
  cases present.symm.trans found
  obtain ⟨⟨shown, adjusted, called⟩, calling, done⟩ := Option.bind_eq_some_iff.mp done
  cases done
  obtain ⟨⟨heart, rfl⟩, frame⟩ := PostCell.likeTappedCallback_frame calling
  obtain ⟨_, _, _, others, _, counts, _, _, changed, _⟩ :=
    PostCell.likeTappedCallback_eq_some calling
  cases counted.symm.trans counts
  rw [changed] at frame
  exact ⟨heart, pending, held, present, counted, checked, issued, by rw [frame]⟩

/-- An event lists the posts of its snapshot. -/
theorem listed_receive (firebase : Firebase) (client : Client Image) (snapshot : Node) :
    (client.receive firebase snapshot).listed =
      (FeedVC.loadedPosts firebase snapshot).map some := by
  unfold listed receive
  rw [List.map_map]
  apply List.ext_getElem?
  intro index
  rw [List.getElem?_map, List.getElem?_map]
  by_cases bound : index < (FeedVC.loadedPosts firebase snapshot).length
  · rw [List.getElem?_range bound, Option.map_some, Function.comp_apply,
      List.getElem?_append_right (Nat.le_add_right _ _), Nat.add_sub_cancel_left,
      List.getElem?_eq_getElem bound, Option.map_some]
  · rw [List.getElem?_eq_none (by simpa using bound), List.getElem?_eq_none (by simpa using bound)]
    rfl

/-- The feed after an event that is the last one. -/
theorem current_receive (coherent : client.Coherent uid) (rest : List Node) (snapshot : Node)
    (seen : rest = [] → snapshot = view.sub DataService.refFundraisers) :
    ({ client.receive firebase snapshot with events := rest } : Client Image).Current
      firebase view := by
  refine ⟨?_, ?_⟩
  · intro none
    have same := seen none
    subst same
    exact listed_receive firebase client _
  · intro _ cell object member holds
    have old := coherent.valid cell object holds
    obtain ⟨index, _, rfl⟩ := List.mem_map.mp member
    exact absurd old (Nat.not_lt.mpr (Nat.le_add_right _ _))

/-- A configured cell shows its row as listed. -/
theorem Current.configure {cell row : Nat} {img : Option Image}
    (current : client.Current firebase view)
    (done : client.configure firebase (some uid) cell row img = some next) :
    next.Current firebase view := by
  obtain ⟨object, _, done⟩ := Option.bind_eq_some_iff.mp done
  obtain ⟨post, present, done⟩ := Option.bind_eq_some_iff.mp done
  obtain ⟨⟨configured, download⟩, showing, done⟩ := Option.bind_eq_some_iff.mp done
  cases done
  obtain ⟨imageUrl, _, showing⟩ := Option.bind_eq_some_iff.mp showing
  obtain ⟨holds, shows⟩ := PostCell.shows_configureCell showing
  refine ⟨current.listed, ?_⟩
  intro none other listed member found contents given
  by_cases same : other = cell
  · subst same
    simp only [Function.update_self] at found ⊢
    cases holds.symm.trans found
    cases present.symm.trans given
    exact shows
  · simp only [Function.update_of_ne same] at found ⊢
    exact current.shown none other listed member found contents given

/-- A change in place to the count that is held already is no change of the list. -/
theorem Current.set {cell : Nat} {object : PostObject} {post : Post} {heart : HeartIcon}
    {likes : Option Int} {callbacks : List (Read × Node)}
    (current : client.Current firebase view) (present : client.objects[object]? = some post)
    (count : client.events = [] → object ∈ client.posts → likes = post.likes) :
    ({ client with
      objects := client.objects.set object { post with likes := likes }
      cells := Function.update client.cells cell
        { client.cells cell with likeImage := some heart }
      callbacks := callbacks } : Client Image).Current firebase view := by
  have bound := (List.getElem?_eq_some_iff.mp present).1
  have contents (none : client.events = []) {other : PostObject} (member : other ∈ client.posts) :
      (client.objects.set object { post with likes := likes })[other]? =
        client.objects[other]? := by
    by_cases same : object = other
    · subst same
      rw [List.getElem?_set_self bound, present, count none member]
    · rw [List.getElem?_set_ne same]
  refine ⟨?_, ?_⟩
  · intro none
    rw [← current.listed none]
    exact List.map_congr_left fun other member => contents none member
  · intro none other listed member holds found given
    rw [contents none member] at given
    by_cases same : other = cell
    · subst same
      simp only [Function.update_self] at holds ⊢
      have shows := current.shown none other listed member holds found given
      exact ⟨shows.caption, shows.likes, shows.currentDonation, shows.donationGoal, shows.title⟩
    · simp only [Function.update_of_ne same] at holds ⊢
      exact current.shown none other listed member holds found given

end Client

variable {Device : Type} [DecidableEq Device]

/-- Every device is current. -/
def Current (firebase : Firebase) (state : State Device Image) : Prop :=
  ∀ device, (state.clients device).Current firebase (state.view device)

variable {firebase : Firebase} {uid : Device → String} {before after : State Device Image}

theorem current_initial (firebase : Firebase) (database : Node) :
    Current firebase (initial database : State Device Image) := by
  intro device
  exact ⟨fun none => (List.cons_ne_nil _ _ none).elim,
    fun none => (List.cons_ne_nil _ _ none).elim⟩

theorem Current.setClient (current : Current firebase before) {device : Device}
    {client : Client Image} (changed : client.Current firebase (before.view device)) :
    Current firebase (before.setClient device client) := by
  intro other
  by_cases same : other = device
  · subst same
    simp only [State.setClient, Function.update_self]
    exact changed
  · simp only [State.setClient, Function.update_of_ne same]
    exact current other

/-- Devices that are not told of a change see no change. -/
theorem Current.notify
    (unseen : ∀ device, (before.view device).sub DataService.refFundraisers =
        (after.view device).sub DataService.refFundraisers →
      (after.clients device).Current firebase (before.view device)) :
    Current firebase (before.notify after) := by
  intro device
  have view : (before.notify after).view device = after.view device := rfl
  rw [view]
  simp only [State.notify]
  split
  · rename_i same
    have still := unseen device same
    refine ⟨?_, still.shown⟩
    rw [← same]
    exact still.listed
  · exact ⟨fun none => (List.append_ne_nil_of_right_ne_nil _ (List.cons_ne_nil _ _) none).elim,
      fun none => (List.append_ne_nil_of_right_ne_nil _ (List.cons_ne_nil _ _) none).elim⟩

/-- A device sees the count it has just written. -/
theorem sub_view_likeWrites (before : State Device Image) {device : Device}
    {owner postKey : String} {likes : Int} {add : Bool}
    (database : after.database = before.database)
    (issued : after.inFlight =
      before.inFlight ++ (likeWrites owner postKey likes add).map (device, ·)) :
    (after.view device).sub (likesCountRef postKey) =
      .leaf (.int (if add then likes + 1 else likes - 1)) := by
  rw [State.view_issue database issued]
  exact (sub_likeWrites_self _ _ _ _ _).1

/-- **What the feed shows follows what the device sees**, along every step. -/
theorem Current.step {action : Action Device Image} (current : Current firebase before)
    (coherent : Coherent uid before) (informed : Informed firebase before)
    (step : (machine firebase uid).Step before action after) : Current firebase after := by
  obtain ⟨_, handled⟩ := step
  cases action with
  | tap device cell =>
      obtain ⟨client, done, handled⟩ := Option.bind_eq_some_iff.mp handled
      cases handled
      obtain ⟨ref, _, done⟩ := Option.bind_eq_some_iff.mp done
      cases done
      exact current.setClient ⟨(current device).listed, (current device).shown⟩
  | answer device index =>
      obtain ⟨client, done, handled⟩ := Option.bind_eq_some_iff.mp handled
      cases handled
      obtain ⟨read, _, done⟩ := Option.bind_eq_some_iff.mp done
      cases done
      exact current.setClient ⟨(current device).listed, (current device).shown⟩
  | configure device cell row img =>
      obtain ⟨client, done, handled⟩ := Option.bind_eq_some_iff.mp handled
      cases handled
      exact current.setClient ((current device).configure done)
  | event device =>
      simp only [machine, handle] at handled
      split at handled <;> cases handled
      rename_i snapshot rest waiting
      refine current.setClient (Client.current_receive (coherent device) rest snapshot ?_)
      intro none
      exact (informed device).last snapshot (by rw [waiting, none]; rfl)
  | serve device =>
      simp only [machine, handle] at handled
      split at handled <;> cases handled
      exact Current.notify fun other _ => current other
  | callback device index =>
      obtain ⟨⟨client, writes⟩, done, handled⟩ := Option.bind_eq_some_iff.mp handled
      cases handled
      refine Current.notify fun other unseen => ?_
      by_cases same : other = device
      · subst same
        obtain ⟨read, snapshot, object, post, likes, heart, _, _, present, _, checked, rfl, rfl⟩ :=
          Client.callback_spec (coherent other) done
        simp only [State.setClient, Function.update_self]
        refine (current other).set present fun none member => ?_
        -- The device sees the count it has just written, and sees no change.
        obtain ⟨_, stored⟩ := (informed other).listed none object member post present
        have same := congrArg (fun fundraisers : Node => fundraisers.sub [post.postKey, "likes"])
          unseen
        simp only [← Tree.sub_append] at same
        have written := same.trans (sub_view_likeWrites before rfl rfl)
        rw [stored]
        refine Eq.trans ?_ (congrArg Node.asInt written.symm)
        simp only [decide_eq_true_eq]
        exact checked.symm
      · simp only [State.setClient, Function.update_of_ne same]
        exact current other

/-- Events raised change no cell. -/
theorem cells_notify (before after : State Device Image) (device : Device) :
    ((before.notify after).clients device).cells = (after.clients device).cells := by
  simp only [State.notify]
  split <;> rfl

/-- The callback of a like leaves its cell with the same record and the heart turned
around. -/
theorem step_callback_heart {device : Device} {index : Nat} {read : Read} {snapshot : Node}
    (pending : (before.clients device).callbacks[index]? = some (read, snapshot))
    (step : (machine firebase uid).Step before (.callback device index) after) :
    ((after.clients device).cells read.cell).likesRef =
        ((before.clients device).cells read.cell).likesRef ∧
      ((after.clients device).cells read.cell).likeImage =
        some (if snapshot.IsNull then .filledHeart else .emptyHeart) := by
  obtain ⟨_, handled⟩ := step
  obtain ⟨⟨client, writes⟩, done, handled⟩ := Option.bind_eq_some_iff.mp handled
  cases handled
  obtain ⟨_, found, done⟩ := Option.bind_eq_some_iff.mp done
  cases pending.symm.trans found
  obtain ⟨object, _, done⟩ := Option.bind_eq_some_iff.mp done
  obtain ⟨post, _, done⟩ := Option.bind_eq_some_iff.mp done
  obtain ⟨⟨shown, adjusted, called⟩, calling, done⟩ := Option.bind_eq_some_iff.mp done
  cases done
  rw [cells_notify]
  simp only [State.setClient, Function.update_self]
  exact ⟨(PostCell.likeTappedCallback_eq_some calling).2.1,
    PostCell.likeTappedCallback_heart calling⟩

/-- No other step changes a cell, except its configuration. -/
theorem cells_step {action : Action Device Image} {device : Device} {cell : Nat}
    (step : (machine firebase uid).Step before action after)
    (configured : ∀ row img, action ≠ .configure device cell row img)
    (liked : ∀ index, action = .callback device index →
      ∀ pending ∈ (before.clients device).callbacks[index]?, pending.1.cell ≠ cell) :
    (after.clients device).cells cell = (before.clients device).cells cell := by
  have changed {other : Device} {client : Client Image}
      (same : other = device → client.cells cell = (before.clients device).cells cell) :
      ((before.setClient other client).clients device).cells cell =
        (before.clients device).cells cell := by
    by_cases own : device = other
    · subst own
      simp only [State.setClient, Function.update_self]
      exact same rfl
    · simp only [State.setClient, Function.update_of_ne own]
  obtain ⟨_, handled⟩ := step
  cases action with
  | tap other row =>
      obtain ⟨client, done, handled⟩ := Option.bind_eq_some_iff.mp handled
      cases handled
      obtain ⟨ref, _, done⟩ := Option.bind_eq_some_iff.mp done
      cases done
      exact changed fun same => by rw [same]
  | answer other index =>
      obtain ⟨client, done, handled⟩ := Option.bind_eq_some_iff.mp handled
      cases handled
      obtain ⟨read, _, done⟩ := Option.bind_eq_some_iff.mp done
      cases done
      exact changed fun same => by rw [same]
  | configure other row index img =>
      obtain ⟨client, done, handled⟩ := Option.bind_eq_some_iff.mp handled
      cases handled
      obtain ⟨object, _, done⟩ := Option.bind_eq_some_iff.mp done
      obtain ⟨post, _, done⟩ := Option.bind_eq_some_iff.mp done
      obtain ⟨result, _, done⟩ := Option.bind_eq_some_iff.mp done
      cases done
      refine changed fun same => ?_
      subst same
      refine Function.update_of_ne ?_ _ _
      rintro rfl
      exact configured index img rfl
  | event other =>
      simp only [machine, handle] at handled
      split at handled <;> cases handled
      exact changed fun same => by rw [← same]; rfl
  | serve other =>
      simp only [machine, handle] at handled
      split at handled <;> cases handled
      rw [cells_notify]
  | callback other index =>
      obtain ⟨⟨client, writes⟩, done, handled⟩ := Option.bind_eq_some_iff.mp handled
      cases handled
      obtain ⟨⟨read, snapshot⟩, pending, done⟩ := Option.bind_eq_some_iff.mp done
      obtain ⟨object, _, done⟩ := Option.bind_eq_some_iff.mp done
      obtain ⟨post, _, done⟩ := Option.bind_eq_some_iff.mp done
      obtain ⟨result, _, done⟩ := Option.bind_eq_some_iff.mp done
      cases done
      rw [cells_notify]
      refine changed fun same => ?_
      subst same
      exact Function.update_of_ne (Ne.symm (liked index rfl _ pending)) _ _

end Likes

end MyFundi
