import MyFundi.Feed.Posts
import MyFundi.Foundation.Machine
import MyFundi.Profile.Observers

/-!
# The fundraiser history of a profile

Every users event with a fundraisers map empties the list of posts and registers one
more fundraisers observer, and every registered observer appends to the same list at
each fundraisers event. The list is therefore right after the first event that
follows a registration and holds duplicates after the next one. `history_exact_iff`
says exactly which deliveries leave the list right.
-/

namespace MyFundi

open Foundation

namespace ProfileHistory

variable (firebase : Firebase)

/-- A profile screen with the fundraisers observers registered so far, each with its
undelivered events, the oldest first. `users` is the last users event delivered, and
`fundraisers` the latest state of the fundraisers. -/
structure State where
  vc : ProfileVC
  observers : List (List Node)
  users : Node
  fundraisers : Node

/-- A users event is delivered; the fundraisers change; an observer is given its next event. -/
inductive Action where
  | usersEvent (snapshot : Node)
  | fundraisersChange (snapshot : Node)
  | fundraisersEvent (observer : Nat)

/-- An observer has an undelivered event. -/
def Pending (state : State) (observer : Nat) : Prop :=
  ((state.observers[observer]?).getD []) ≠ []

instance (state : State) (observer : Nat) : Decidable (Pending state observer) :=
  inferInstanceAs (Decidable (_ ≠ _))

/-- No registered observer has an undelivered event. -/
def Settled (state : State) : Prop :=
  ∀ queue ∈ state.observers, queue = []

/-- A new observer is first given the current state of the fundraisers; from then on
it is given every change. -/
def handle (state : State) : Action → Option State
  | .usersEvent snapshot => do
      let (vc, effects) ← state.vc.usersObserver firebase snapshot
      let registered := effects.count .observeFundraisers
      return { state with
        vc := vc
        observers := state.observers ++ List.replicate registered [state.fundraisers]
        users := snapshot }
  | .fundraisersChange snapshot =>
      some { state with
        observers := state.observers.map (· ++ [snapshot])
        fundraisers := snapshot }
  | .fundraisersEvent observer =>
      match (state.observers[observer]?).getD [] with
      | [] => none
      | snapshot :: rest =>
          some { state with
            vc := state.vc.fundraisersObserver firebase snapshot
            observers := state.observers.set observer rest }

/-- A profile screen and the events it is sent. -/
def machine : Machine State Action where
  enabled := fun state action =>
    match action with
    | .fundraisersEvent observer => Pending state observer
    | _ => True
  handle := handle firebase

/-- A profile screen just loaded, before any event. -/
def initial (uid text : String) (fundraisers : Node) : State where
  vc := ProfileVC.loaded uid text
  observers := []
  users := .null
  fundraisers := fundraisers

/-- The signed-in user's record in a users event. -/
def userRecord (uid : String) (users : Node) : Option Node :=
  firebase.asDictionary (users.sub [uid])

/-- The user's fundraisers map in a users event. -/
def fundraisersMap (uid : String) (users : Node) : Option Node :=
  (userRecord firebase uid users).bind fun record =>
    firebase.asDictionary (Node.entry record "fundraisers")

/-- The keys in the user's latest fundraisers map; none when there is no map. -/
def currentKeys (state : State) : List String :=
  ((fundraisersMap firebase state.vc.userID state.users).map firebase.dictionaryKeys).getD []

/-- The feed's list for the latest fundraisers, restricted to the user's keys. -/
def expected (state : State) : List Post :=
  (FeedVC.loadedPosts firebase state.fundraisers).filter fun post =>
    post.postKey ∈ currentKeys firebase state

variable {firebase}

/-- With distinct keys, the nested loops of the observer find each fundraiser once,
in snapshot order. -/
theorem foundPosts_eq {keys : List String} (nodup : keys.Nodup) (snapshot : Node) :
    ProfileVC.foundPosts firebase keys snapshot =
      (FeedVC.loadedPosts firebase snapshot).filter fun post => post.postKey ∈ keys := by
  have once (key : String) (found : List Post) :
      (keys.flatMap fun fundKey => if key = fundKey then found else []) =
        if key ∈ keys then found else [] := by
    induction keys with
    | nil => simp
    | cons first rest ih =>
        rw [List.nodup_cons] at nodup
        rw [List.flatMap_cons, ih nodup.2]
        by_cases here : key = first
        · subst here
          simp only [↓reduceIte, nodup.1, List.append_nil, List.mem_cons, true_or]
        · simp only [here, ↓reduceIte, List.nil_append, List.mem_cons, false_or]
  unfold ProfileVC.foundPosts FeedVC.loadedPosts
  induction firebase.allObjects snapshot with
  | nil => rfl
  | cons snap rest ih =>
      rw [List.flatMap_cons, ih, once, List.filterMap_cons]
      cases firebase.asDictionary snap.value with
      | none => simp
      | some dictionary =>
          simp only [Option.map_some, Option.toList_some, List.filter_cons]
          by_cases selected : snap.key ∈ keys <;> simp [selected, Post.init]

/-- What holds after any run: an observer's newest undelivered event is the latest
state of the fundraisers, and the keys held are distinct and, when the last users
event had a record of the user, those of its map. -/
structure Coherent (firebase : Firebase) (state : State) : Prop where
  newest : ∀ queue ∈ state.observers, ∀ snapshot, queue.getLast? = some snapshot →
    snapshot = state.fundraisers
  nodup : state.vc.fundraiserKeys.Nodup
  current : (userRecord firebase state.vc.userID state.users).isSome →
    state.vc.fundraiserKeys = currentKeys firebase state

theorem coherent_initial (uid text : String) (fundraisers : Node) :
    Coherent firebase (initial uid text fundraisers) where
  newest := by intro queue member; cases member
  nodup := List.nodup_nil
  current := by
    intro present
    have absent : userRecord firebase uid .null = none := by
      rw [userRecord, Tree.sub_null]
      exact firebase.asDictionary_of_isNull Tree.isNull_null
    change (userRecord firebase uid .null).isSome at present
    rw [absent] at present
    cases present

/-- What a users event does: it traps, or shows the record of the user, registering
at most one observer. -/
theorem step_usersEvent {before after : State} {snapshot : Node}
    (step : (machine firebase).Step before (.usersEvent snapshot) after) :
    after.vc.userID = before.vc.userID ∧ after.users = snapshot ∧
      after.fundraisers = before.fundraisers ∧
      ((userRecord firebase before.vc.userID snapshot = none ∧ after.vc = before.vc ∧
          after.observers = before.observers) ∨
        (userRecord firebase before.vc.userID snapshot).isSome ∧
          ((fundraisersMap firebase before.vc.userID snapshot = none ∧
              after.vc.fundraiserKeys = [] ∧ after.vc.posts = before.vc.posts ∧
              after.observers = before.observers) ∨
            ∃ fundraisers, fundraisersMap firebase before.vc.userID snapshot = some fundraisers ∧
              after.vc.fundraiserKeys = firebase.dictionaryKeys fundraisers ∧
              after.vc.posts = [] ∧
              after.observers = before.observers ++ [[before.fundraisers]])) := by
  obtain ⟨_, handled⟩ := step
  simp only [machine, handle, ProfileVC.usersObserver_eq, Option.bind_eq_bind,
    Option.bind_eq_some_iff, Option.pure_def] at handled
  obtain ⟨⟨vc, effects⟩, shown, handled⟩ := handled
  cases handled
  obtain ⟨sameUser, cases⟩ := ProfileVC.showUser_cases shown
  refine ⟨sameUser, rfl, rfl, ?_⟩
  unfold fundraisersMap userRecord
  rcases cases with ⟨absent, rfl, rfl⟩ | ⟨record, present, cases⟩
  · refine Or.inl ⟨absent, rfl, ?_⟩
    simp only [List.count_nil, List.replicate_zero, List.append_nil]
  · rw [present]
    refine Or.inr ⟨rfl, ?_⟩
    rcases cases with ⟨noMap, keys, posts, registered⟩ | ⟨map, hasMap, keys, posts, registered⟩
    · refine Or.inl ⟨noMap, keys, posts, ?_⟩
      simp only [registered, List.replicate_zero, List.append_nil]
    · refine Or.inr ⟨map, hasMap, keys, posts, ?_⟩
      simp only [registered, List.replicate_one]

/-- What a delivery to a fundraisers observer does. -/
theorem step_fundraisersEvent {before after : State} {observer : Nat}
    (step : (machine firebase).Step before (.fundraisersEvent observer) after) :
    ∃ snapshot rest, before.observers[observer]? = some (snapshot :: rest) ∧
      after = { before with
        vc := before.vc.fundraisersObserver firebase snapshot
        observers := before.observers.set observer rest } := by
  obtain ⟨_, handled⟩ := step
  simp only [machine, handle] at handled
  cases registered : before.observers[observer]? with
  | none => simp only [registered, Option.getD_none, reduceCtorEq] at handled
  | some queue =>
      cases queue with
      | nil => simp only [registered, Option.getD_some, reduceCtorEq] at handled
      | cons snapshot rest =>
          simp only [registered, Option.getD_some, Option.some.injEq] at handled
          exact ⟨snapshot, rest, rfl, handled.symm⟩

/-- Every step keeps the history coherent. -/
theorem Coherent.step {before after : State} {action : Action} (coherent : Coherent firebase before)
    (step : (machine firebase).Step before action after) : Coherent firebase after := by
  cases action with
  | usersEvent snapshot =>
      obtain ⟨sameUser, users, fundraisers, cases⟩ := step_usersEvent step
      rcases cases with ⟨absent, vc, observers⟩ | ⟨_, ⟨noMap, keys, _, observers⟩ |
        ⟨map, hasMap, keys, _, observers⟩⟩
      · refine ⟨?_, ?_, ?_⟩
        · rw [observers, fundraisers]
          exact coherent.newest
        · rw [vc]
          exact coherent.nodup
        · rw [users, sameUser, absent]
          intro impossible
          cases impossible
      · refine ⟨?_, ?_, ?_⟩
        · rw [observers, fundraisers]
          exact coherent.newest
        · rw [keys]
          exact List.nodup_nil
        · intro _
          rw [keys, currentKeys, users, sameUser, noMap]
          rfl
      · refine ⟨?_, ?_, ?_⟩
        · rw [observers, fundraisers]
          intro queue member newest last
          rcases List.mem_append.mp member with old | new
          · exact coherent.newest queue old newest last
          · cases List.mem_singleton.mp new
            exact (Option.some.inj last).symm
        · rw [keys]
          exact (firebase.dictionaryKeys_perm map).nodup_iff.mpr (firebase.childKeys_nodup map)
        · intro _
          rw [keys, currentKeys, users, sameUser, hasMap]
          rfl
  | fundraisersChange snapshot =>
      cases step.2
      refine ⟨?_, coherent.nodup, coherent.current⟩
      intro queue member newest last
      obtain ⟨old, _, rfl⟩ := List.mem_map.mp member
      rw [List.getLast?_concat] at last
      exact (Option.some.inj last).symm
  | fundraisersEvent observer =>
      obtain ⟨snapshot, rest, registered, rfl⟩ := step_fundraisersEvent step
      refine ⟨?_, coherent.nodup, coherent.current⟩
      intro queue member newest last
      rcases List.mem_or_eq_of_mem_set member with old | rfl
      · exact coherent.newest queue old newest last
      · apply coherent.newest (snapshot :: queue) (List.mem_of_getElem? registered) newest
        rw [List.getLast?_cons, last]
        rfl

/-- With the keys of the current map, the observer's loops find the expected list. -/
theorem Coherent.foundPosts_eq_expected {state : State} (coherent : Coherent firebase state)
    (record : (userRecord firebase state.vc.userID state.users).isSome) :
    ProfileVC.foundPosts firebase state.vc.fundraiserKeys state.fundraisers =
      expected firebase state := by
  rw [foundPosts_eq coherent.nodup, coherent.current record]
  rfl

/-- Without a fundraisers map nothing is to be listed. -/
theorem expected_eq_nil {state : State}
    (noMap : fundraisersMap firebase state.vc.userID state.users = none) :
    expected firebase state = [] := by
  simp only [expected, currentKeys, noMap, Option.map_none, Option.getD_none, List.not_mem_nil,
    decide_false, List.filter_false]

variable (firebase)

/-- The list is right after a delivery that leaves nothing undelivered. A change of
the fundraisers is not a delivery. -/
def Exact (_ : State) (action : Action) (after : State) : Prop :=
  match action with
  | .fundraisersChange _ => True
  | _ => Settled after → after.vc.posts = expected firebase after

/-- When a delivery leaves the list right. A users event that finds nothing
undelivered and brings no fundraisers map must find the list empty, because it does
not empty it. A fundraisers event that is the last one undelivered must find the
list empty, because it appends to it; and when the last users event had no record
of the user, so that the keys held are old ones, no listed fundraiser may have such
a key. -/
def Fresh (state : State) : Action → Prop
  | .usersEvent snapshot =>
      Settled state → fundraisersMap firebase state.vc.userID snapshot = none →
        state.vc.posts = []
  | .fundraisersChange _ => True
  | .fundraisersEvent observer =>
      Settled { state with observers := state.observers.modify observer List.tail } →
        state.vc.posts = [] ∧
          (userRecord firebase state.vc.userID state.users = none →
            ∀ post ∈ FeedVC.loadedPosts firebase state.fundraisers,
              post.postKey ∉ state.vc.fundraiserKeys)

variable {firebase}

/-- A users event without a map leaves the list exact if nothing was listed. -/
theorem exact_usersEvent_iff {before after : State} {snapshot : Node}
    (step : (machine firebase).Step before (.usersEvent snapshot) after) :
    Exact firebase before (.usersEvent snapshot) after ↔
      Fresh firebase before (.usersEvent snapshot) := by
  obtain ⟨sameUser, users, _, cases⟩ := step_usersEvent step
  -- Without a map in the snapshot the list is kept and nothing is registered.
  have kept (noMap : fundraisersMap firebase before.vc.userID snapshot = none)
      (posts : after.vc.posts = before.vc.posts) (observers : after.observers = before.observers) :
      Exact firebase before (.usersEvent snapshot) after ↔
        Fresh firebase before (.usersEvent snapshot) := by
    have empty : expected firebase after = [] := expected_eq_nil (by rw [sameUser, users, noMap])
    simp only [Exact, Fresh, Settled, posts, observers, empty, noMap, forall_const]
  rcases cases with ⟨absent, vc, observers⟩ | ⟨_, ⟨noMap, _, posts, observers⟩ |
    ⟨map, hasMap, _, _, observers⟩⟩
  · refine kept ?_ (by rw [vc]) observers
    rw [fundraisersMap, absent]
    rfl
  · exact kept noMap posts observers
  · constructor
    · intro _ _ noMap
      rw [hasMap] at noMap
      cases noMap
    · intro _ settled
      have registered : [before.fundraisers] ∈ after.observers := by
        rw [observers]
        exact List.mem_append_right _ List.mem_cons_self
      cases settled _ registered

/-- A fundraisers event with nothing behind it leaves the list exact if it finds it empty and
lists nothing by an old key. -/
theorem exact_fundraisersEvent_iff {before after : State} {observer : Nat}
    (coherent : Coherent firebase before)
    (step : (machine firebase).Step before (.fundraisersEvent observer) after) :
    Exact firebase before (.fundraisersEvent observer) after ↔
      Fresh firebase before (.fundraisersEvent observer) := by
  obtain ⟨snapshot, rest, registered, rfl⟩ := step_fundraisersEvent step
  have taken : before.observers.modify observer List.tail = before.observers.set observer rest := by
    rw [List.modify_eq_set_getElem?, registered]
    rfl
  simp only [Exact, Fresh, taken]
  refine imp_congr_right fun settled => ?_
  -- The event delivered was the only one undelivered, hence the newest.
  have last : rest = [] := by
    refine settled rest (List.mem_set ?_ rest)
    exact (List.getElem?_eq_some_iff.mp registered).1
  have newest : snapshot = before.fundraisers := by
    apply coherent.newest _ (List.mem_of_getElem? registered) snapshot
    rw [last]
    rfl
  subst newest
  change before.vc.posts ++
    ProfileVC.foundPosts firebase before.vc.fundraiserKeys before.fundraisers =
      expected firebase before ↔ _
  cases record : userRecord firebase before.vc.userID before.users with
  | none =>
      have noMap : fundraisersMap firebase before.vc.userID before.users = none := by
        rw [fundraisersMap, record]
        rfl
      rw [expected_eq_nil noMap, List.append_eq_nil_iff, foundPosts_eq coherent.nodup,
        List.filter_eq_nil_iff]
      simp only [decide_eq_true_eq, forall_const]
  | some userDict =>
      rw [coherent.foundPosts_eq_expected (by rw [record]; rfl)]
      simp only [List.append_left_eq_self, reduceCtorEq, false_implies, and_true]

/-- A delivery leaves the list exact exactly when it is fresh. -/
theorem exact_iff {before after : State} {action : Action} (coherent : Coherent firebase before)
    (step : (machine firebase).Step before action after) :
    Exact firebase before action after ↔ Fresh firebase before action := by
  cases action with
  | usersEvent snapshot => exact exact_usersEvent_iff step
  | fundraisersChange snapshot => exact Iff.rfl
  | fundraisersEvent observer => exact exact_fundraisersEvent_iff coherent step

/-- **When the history is right.** Along every sequence of events from a freshly
loaded profile, the list is right after every delivery that leaves nothing
undelivered exactly when each of these deliveries found a fresh list. -/
theorem history_exact_iff (firebase : Firebase) (uid text : String) (fundraisers : Node)
    (actions : List Action) :
    (machine firebase).Along (Exact firebase) (initial uid text fundraisers) actions ↔
      (machine firebase).Guarded (Fresh firebase) (initial uid text fundraisers) actions :=
  Machine.Along.iff_of_agree (fun _ _ _ coherent step => exact_iff coherent step)
    (fun _ _ _ coherent step _ => coherent.step step) (coherent_initial uid text fundraisers)

section DuplicateDelivery

instance (state : State) :
    (action : Action) → Decidable ((machine Firebase.byKey).enabled state action)
  | .usersEvent _ | .fundraisersChange _ => .isTrue trivial
  | .fundraisersEvent observer => inferInstanceAs (Decidable (Pending state observer))

instance (state : State) : Decidable (Settled state) :=
  inferInstanceAs (Decidable (∀ queue ∈ state.observers, queue = []))

instance (before : State) (action : Action) (after : State) :
    Decidable (Exact Firebase.byKey before action after) :=
  match action with
  | .fundraisersChange _ => .isTrue trivial
  | .usersEvent _ | .fundraisersEvent _ => inferInstanceAs (Decidable (Settled after → _ = _))

/-- The users when `ann` has saved a name and an image and owns one fundraiser. -/
def annUsers : Node :=
  Tree.null.applyAll [⟨["ann", "name"], .leaf (.string "Ann")⟩,
    ⟨["ann", "imageUrl"], .leaf (.string "gs://pic")⟩,
    ⟨["ann", "fundraisers", "walk"], .leaf (.bool true)⟩]

/-- The one fundraiser that Ann owns. -/
def walkFundraisers : Node :=
  Tree.null.applyAll [⟨["walk", "caption"], .leaf (.string "A walk")⟩]

/-- A second fundraisers event lists `ann`'s only fundraiser twice. -/
theorem second_delivery_duplicates :
    ¬ ∀ (firebase : Firebase) (uid text : String) (fundraisers : Node) (actions : List Action),
      (machine firebase).Along (Exact firebase) (initial uid text fundraisers) actions := by
  intro exact
  have along := exact Firebase.byKey "ann" "" walkFundraisers
    ([.usersEvent annUsers, .fundraisersEvent 0, .fundraisersChange walkFundraisers] ++
      [.fundraisersEvent 0])
  have reached :
      ((machine Firebase.byKey).execute (initial "ann" "" walkFundraisers)
        ([.usersEvent annUsers, .fundraisersEvent 0, .fundraisersChange walkFundraisers] ++
          [.fundraisersEvent 0])).map
        (fun after => decide (Exact Firebase.byKey after (.fundraisersEvent 0) after)) =
          some false := by
    decide
  obtain ⟨after, executed, wrong⟩ := Option.map_eq_some_iff.mp reached
  obtain ⟨before, _, right⟩ := along.executed executed
  exact of_decide_eq_false wrong right

end DuplicateDelivery

end ProfileHistory

end MyFundi
