import MyFundi.Feed.LikeCount

/-!
# What a device has been told

A device is sent an event whenever what it sees of the fundraisers changes, its own
writes included, and its feed replaces its posts on every event. So the last event not
yet delivered is what the device sees, and once all are delivered the listed posts carry
the counts it sees, although callbacks change them in place.
-/

namespace MyFundi

open Foundation

namespace Likes

variable {Device Image : Type}

/-- The fundraiser is stored as a dictionary, so the feed shows it as a post. -/
def Stored (firebase : Firebase) (database : Node) (postKey : String) : Prop :=
  (firebase.asDictionary (database.sub (DataService.refFundraisers.child postKey))).isSome

/-- A fundraiser with a count is a dictionary. -/
theorem stored_of_count (firebase : Firebase) {database : Node} {postKey : String}
    (count : ¬ (database.sub (likesCountRef postKey)).IsNull) :
    Stored firebase database postKey := by
  have present : ¬ ((database.sub (DataService.refFundraisers.child postKey)).sub
      ["likes"]).IsNull := by
    rw [← Tree.sub_append]
    exact count
  exact Option.isSome_of_eq_some (firebase.asDictionary_of_key present (by decide))

namespace Client

/-- Every listed post is stored in the view, with its count. -/
def ListsStored (firebase : Firebase) (client : Client Image) (view : Node) : Prop :=
  ∀ object ∈ client.posts, ∀ post, client.objects[object]? = some post →
    Stored firebase view post.postKey ∧
      post.likes = Node.asInt (view.sub (likesCountRef post.postKey))

/-- The last undelivered event is what the device sees of the fundraisers, and with all
delivered the listed posts are those it sees. -/
structure Informed (firebase : Firebase) (client : Client Image) (view : Node) : Prop where
  last : ∀ snapshot, client.events.getLast? = some snapshot →
    snapshot = view.sub DataService.refFundraisers
  listed : client.events = [] → client.ListsStored firebase view

variable {firebase : Firebase} {client next : Client Image} {view shown : Node}

/-- Only the fundraisers matter for the listed posts. -/
theorem ListsStored.congr (lists : client.ListsStored firebase view)
    (same : view.sub DataService.refFundraisers = shown.sub DataService.refFundraisers) :
    client.ListsStored firebase shown := by
  have below (path : DatabaseReference) : view.sub (DataService.refFundraisers ++ path) =
      shown.sub (DataService.refFundraisers ++ path) := by
    rw [Tree.sub_append, Tree.sub_append, same]
  intro object listed post present
  obtain ⟨stored, likes⟩ := lists object listed post present
  have fundraiser := below [post.postKey]
  have count := below [post.postKey, "likes"]
  refine ⟨?_, likes.trans (congrArg Node.asInt count)⟩
  unfold Stored DatabaseReference.child
  rw [← fundraiser]
  exact stored

/-- The posts built from a snapshot are those the snapshot has stored. -/
theorem listsStored_receive (firebase : Firebase) (client : Client Image) (view : Node) :
    (client.receive firebase (view.sub DataService.refFundraisers)).ListsStored firebase view := by
  intro object listed post present
  obtain ⟨index, _, rfl⟩ := List.mem_map.mp listed
  simp only [Client.receive] at present
  rw [List.getElem?_append_right (Nat.le_add_right _ _), Nat.add_sub_cancel_left] at present
  obtain ⟨stored, likes⟩ := FeedVC.of_mem_loadedPosts (List.mem_of_getElem? present)
  rw [← Tree.sub_append] at stored likes
  exact ⟨stored, likes⟩

/-- A change in place to a post with the count that is stored for it keeps the listed
posts those stored. -/
theorem ListsStored.set (lists : client.ListsStored firebase view) {object : PostObject}
    {adjusted : Post} (stored : Stored firebase view adjusted.postKey)
    (likes : adjusted.likes = Node.asInt (view.sub (likesCountRef adjusted.postKey)))
    (posts : next.posts = client.posts)
    (objects : next.objects = client.objects.set object adjusted) :
    next.ListsStored firebase view := by
  intro other listed post present
  rw [posts] at listed
  rw [objects] at present
  by_cases same : object = other
  · subst same
    rw [List.getElem?_set] at present
    split at present
    · split at present <;> cases present
      exact ⟨stored, likes⟩
    · rename_i different
      exact (different rfl).elim
  · rw [List.getElem?_set_ne same] at present
    exact lists other listed post present

end Client

variable [DecidableEq Device]

namespace State

variable {before after : State Device Image} {device : Device}

/-- A device sees its own writes as soon as they are issued. -/
theorem view_issue {writes : List Write} (database : after.database = before.database)
    (issued : after.inFlight = before.inFlight ++ writes.map (device, ·)) :
    after.view device = applyWrites (before.view device) writes := by
  have own : (writes.map (device, ·)).filter (·.1 = device) = writes.map (device, ·) := by
    rw [List.filter_eq_self]
    intro entry member
    obtain ⟨write, _, rfl⟩ := List.mem_map.mp member
    exact decide_eq_true rfl
  unfold State.view
  rw [database, issued, List.filter_append, own, List.map_append, applyWrites_append, List.map_map]
  simp only [Function.comp_def, List.map_id']

/-- Applying its first unapplied write changes nothing for a device. -/
theorem view_serve {front rest : List (Device × Write)} {write : Write}
    (first : before.inFlight = front ++ (device, write) :: rest)
    (others : ∀ entry ∈ front, entry.1 ≠ device)
    (database : after.database = applyWrites before.database [write])
    (inFlight : after.inFlight = front ++ rest) : after.view device = before.view device := by
  have none : front.filter (·.1 = device) = [] := by
    rw [List.filter_eq_nil_iff]
    intro entry member
    simpa using others entry member
  unfold State.view
  rw [database, inFlight, first, List.filter_append, List.filter_append, none, List.filter_cons,
    if_pos (decide_eq_true rfl), List.nil_append, List.nil_append, List.map_cons,
    ← applyWrites_append, List.singleton_append]

end State

/-- Every device has been told what it sees. -/
def Informed (firebase : Firebase) (state : State Device Image) : Prop :=
  ∀ device, (state.clients device).Informed firebase (state.view device)

variable {firebase : Firebase} {uid : Device → String} {before after : State Device Image}

theorem informed_initial (firebase : Firebase) (database : Node) :
    Informed firebase (initial database : State Device Image) := by
  intro device
  refine ⟨?_, fun none => (List.cons_ne_nil _ _ none).elim⟩
  intro snapshot last
  cases last
  rfl

theorem Informed.setClient (informed : Informed firebase before) {device : Device}
    {client : Client Image} (changed : client.Informed firebase (before.view device)) :
    Informed firebase (before.setClient device client) := by
  intro other
  by_cases same : other = device
  · subst same
    simp only [State.setClient, Function.update_self]
    exact changed
  · simp only [State.setClient, Function.update_of_ne same]
    exact informed other

/-- Devices are told of a change that delivers nothing, unless it changes nothing they
see; a post changed in place then agrees with what they see already. -/
theorem Informed.notify (informed : Informed firebase before)
    (events : ∀ device, (after.clients device).events = (before.clients device).events)
    (listed : ∀ device, (before.clients device).ListsStored firebase (after.view device) →
      (after.clients device).ListsStored firebase (after.view device)) :
    Informed firebase (before.notify after) := by
  intro device
  have view : (before.notify after).view device = after.view device := rfl
  rw [view]
  simp only [State.notify]
  split
  · rename_i same
    refine ⟨?_, ?_⟩
    · intro snapshot last
      rw [events] at last
      exact ((informed device).last snapshot last).trans same
    · intro none
      rw [events] at none
      exact listed device (((informed device).listed none).congr same)
  · refine ⟨?_, ?_⟩
    · intro snapshot last
      rw [List.getLast?_concat] at last
      exact (Option.some.inj last).symm
    · intro none
      exact (List.append_ne_nil_of_right_ne_nil _ (List.cons_ne_nil _ _) none).elim

/-- A delivery leaves the last event last, or lists what the device sees. -/
theorem Informed.event {device : Device} (informed : Informed firebase before)
    (step : (machine firebase uid).Step before (.event device) after) :
    Informed firebase after := by
  obtain ⟨_, handled⟩ := step
  simp only [machine, handle] at handled
  split at handled <;> cases handled
  rename_i snapshot rest waiting
  have told := informed device
  apply informed.setClient
  cases rest with
  | nil =>
      refine ⟨fun _ last => (Option.some_ne_none _ last.symm).elim, fun _ => ?_⟩
      have last := told.last snapshot (by rw [waiting]; rfl)
      subst last
      exact Client.listsStored_receive firebase (before.clients device) (before.view device)
  | cons next later =>
      refine ⟨fun other last => ?_, fun none => (List.cons_ne_nil _ _ none).elim⟩
      apply told.last other
      rw [waiting, List.getLast?_cons_cons]
      exact last

/-- A callback tells its device of the new count, which its post carries already. -/
theorem Informed.callback {device : Device} {index : Nat} (informed : Informed firebase before)
    (coherent : Coherent uid before)
    (step : (machine firebase uid).Step before (.callback device index) after) :
    Informed firebase after := by
  obtain ⟨_, handled⟩ := step
  obtain ⟨⟨client, writes⟩, done, handled⟩ := Option.bind_eq_some_iff.mp handled
  cases handled
  obtain ⟨read, snapshot, object, post, likes, _, _, present, _, checked, rfl, shown, adjusted, _, _,
    sameKey, changed, rfl⟩ := Client.callback_eq_some (coherent device) done
  -- The device sees the count it has just written, which is that of the post.
  have seen (issued : State Device Image) (database : issued.database = before.database)
      (inFlight : issued.inFlight = before.inFlight ++
        (likeWrites (uid device) post.postKey likes snapshot.IsNull).map (device, ·)) :
      (issued.view device).sub (likesCountRef adjusted.postKey) =
        .leaf (.int (if snapshot.IsNull then likes + 1 else likes - 1)) := by
    rw [State.view_issue database inFlight, sameKey, (sub_likeWrites_self _ _ _ _ _).1]
    simp only [decide_eq_true_eq]
  apply informed.notify
  · intro other
    by_cases same : other = device
    · subst same
      simp only [State.setClient, Function.update_self]
    · simp only [State.setClient, Function.update_of_ne same]
  · intro other lists
    by_cases same : other = device
    · subst same
      simp only [State.setClient, Function.update_self]
      refine lists.set ?_ ?_ rfl rfl
      · apply stored_of_count
        rw [seen]
        · exact Tree.not_isNull_leaf _
        · rfl
        · rfl
      · rw [seen, changed]
        · exact checked.symm
        · rfl
        · rfl
    · simp only [State.setClient, Function.update_of_ne same]
      exact lists

/-- Every step keeps the devices told. -/
theorem Informed.step {action : Action Device Image} (informed : Informed firebase before)
    (coherent : Coherent uid before)
    (step : (machine firebase uid).Step before action after) : Informed firebase after := by
  cases action with
  | callback device index => exact informed.callback coherent step
  | event device => exact informed.event step
  | serve device =>
      obtain ⟨_, handled⟩ := step
      simp only [machine, handle] at handled
      split at handled <;> cases handled
      exact informed.notify (fun _ => rfl) fun _ lists => lists
  | tap device cell =>
      obtain ⟨client, done, handled⟩ := Option.bind_eq_some_iff.mp step.2
      cases handled
      obtain ⟨ref, _, done⟩ := Option.bind_eq_some_iff.mp done
      cases done
      exact informed.setClient ⟨(informed device).last, (informed device).listed⟩
  | answer device index =>
      obtain ⟨client, done, handled⟩ := Option.bind_eq_some_iff.mp step.2
      cases handled
      obtain ⟨read, _, done⟩ := Option.bind_eq_some_iff.mp done
      cases done
      exact informed.setClient ⟨(informed device).last, (informed device).listed⟩
  | configure device cell row img =>
      obtain ⟨client, done, handled⟩ := Option.bind_eq_some_iff.mp step.2
      cases handled
      obtain ⟨object, _, done⟩ := Option.bind_eq_some_iff.mp done
      obtain ⟨post, _, done⟩ := Option.bind_eq_some_iff.mp done
      obtain ⟨result, _, done⟩ := Option.bind_eq_some_iff.mp done
      cases done
      exact informed.setClient ⟨(informed device).last, (informed device).listed⟩

end Likes

end MyFundi
