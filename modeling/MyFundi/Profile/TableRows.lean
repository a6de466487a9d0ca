import MyFundi.Profile.History

/-!
# Rows of the post tables

A table asks for rows below the count it was given at its last reload, and both data
sources index their list of posts with the row. The feed reloads its table whenever it
replaces the list. The profile empties its list when it registers a fundraisers observer
and reloads the table only at the observer's first event, so until then the rows shown
before have no posts (`rows_valid_iff`).
-/

namespace MyFundi

open Foundation

/-- Every row below the table's count is an index into the posts. -/
def RowsValid (rows : Nat) (posts : List Post) : Prop :=
  ∀ row < rows, row < posts.length

instance (rows : Nat) (posts : List Post) : Decidable (RowsValid rows posts) :=
  inferInstanceAs (Decidable (∀ row < rows, _))

/-- A table that has just been reloaded asks for the posts there are. -/
theorem rowsValid_reload (posts : List Post) : RowsValid posts.length posts :=
  fun _ below => below

/-- A row can be asked for exactly if it has a post. -/
theorem rowsValid_iff {rows : Nat} {posts : List Post} :
    RowsValid rows posts ↔ ∀ row < rows, (posts[row]?).isSome := by
  simp only [RowsValid, isSome_getElem?]

namespace FeedTable

variable (firebase : Firebase)

/-- The feed's posts, with the row count of its table's last reload. -/
structure State where
  posts : List Post := []
  rows : Nat := 0

/-- An event replaces the posts; a publication reloads the table; the table asks for a row. -/
inductive Action where
  | fundraisersEvent (snapshot : Node)
  | postToFirebase
  | cellForRowAt (row : Nat)

/-- `cellForRowAt` starts with `posts[indexPath.row]`; what follows changes neither
the posts nor the count. -/
def handle (state : State) : Action → Option State
  | .fundraisersEvent snapshot =>
      let posts := FeedVC.loadedPosts firebase snapshot
      some { posts := posts, rows := posts.length }
  | .postToFirebase => some { state with rows := state.posts.length }
  | .cellForRowAt row => do
      let _ ← state.posts[row]?
      return state

/-- The feed and its table. -/
def machine : Machine State Action where
  enabled := fun state action =>
    match action with
    | .cellForRowAt row => row < state.rows
    | _ => True
  handle := handle firebase

variable {firebase} {before after : State}

/-- The rows are valid exactly if no request for one of them traps. -/
theorem rowsValid_iff_requests :
    RowsValid before.rows before.posts ↔
      ∀ row < before.rows, (handle firebase before (.cellForRowAt row)).isSome := by
  rw [rowsValid_iff]
  refine forall₂_congr fun row _ => ?_
  cases present : before.posts[row]? <;> simp [handle, present]

/-- The feed's table never asks for a missing post. -/
theorem rowsValid_step {action : Action} (valid : RowsValid before.rows before.posts)
    (step : (machine firebase).Step before action after) :
    RowsValid after.rows after.posts := by
  obtain ⟨_, handled⟩ := step
  cases action with
  | fundraisersEvent snapshot =>
      cases handled
      exact rowsValid_reload _
  | postToFirebase =>
      cases handled
      exact rowsValid_reload _
  | cellForRowAt row =>
      obtain ⟨_, _, handled⟩ := Option.bind_eq_some_iff.mp handled
      cases handled
      exact valid

/-- In no run of the feed does a request for a row trap. -/
theorem requests_return {actions : List Action} {finish : State}
    (run : (machine firebase).Run {} actions finish) :
    ∀ row < finish.rows, (handle firebase finish (.cellForRowAt row)).isSome := by
  rw [← rowsValid_iff_requests]
  exact run.invariant (fun _ _ _ valid step => rowsValid_step valid step) (rowsValid_reload [])

end FeedTable

namespace ProfileTable

variable (firebase : Firebase)

/-- The profile with its observers, and the row count of its table's last reload. -/
structure State where
  history : ProfileHistory.State
  rows : Nat

/-- An event is delivered to the profile; the table asks for a row. -/
inductive Action where
  | deliver (event : ProfileHistory.Action)
  | cellForRowAt (row : Nat)

/-- The row count after an event: only the fundraisers observers reload the table. -/
def rowsAfter (rows : Nat) (history : ProfileHistory.State) : ProfileHistory.Action → Nat
  | .fundraisersEvent _ => history.vc.posts.length
  | _ => rows

/-- `cellForRowAt` starts with `posts[indexPath.row]`, as that of the feed. -/
def handle (state : State) : Action → Option State
  | .deliver event => do
      let history ← ProfileHistory.handle firebase state.history event
      return { history := history, rows := rowsAfter state.rows history event }
  | .cellForRowAt row => do
      let _ ← state.history.vc.posts[row]?
      return state

/-- The profile and its table. -/
def machine : Machine State Action where
  enabled := fun state action =>
    match action with
    | .deliver event => (ProfileHistory.machine firebase).enabled state.history event
    | .cellForRowAt row => row < state.rows
  handle := handle firebase

/-- A profile just loaded, with an empty table. -/
def initial (uid text : String) (fundraisers : Node) : State where
  history := ProfileHistory.initial uid text fundraisers
  rows := 0

/-- A users event that brings a fundraisers map finds no rows in the table. -/
def NoRows (before : State) : Action → Prop
  | .deliver (.usersEvent snapshot) =>
      (ProfileHistory.fundraisersMap firebase before.history.vc.userID snapshot).isSome →
        before.rows = 0
  | _ => True

variable {firebase} {before after : State}

/-- An event is delivered to the observers as before. -/
theorem step_deliver {event : ProfileHistory.Action}
    (step : (machine firebase).Step before (.deliver event) after) :
    (ProfileHistory.machine firebase).Step before.history event after.history ∧
      after.rows = rowsAfter before.rows after.history event := by
  obtain ⟨enabled, handled⟩ := step
  obtain ⟨history, done, handled⟩ := Option.bind_eq_some_iff.mp handled
  cases handled
  exact ⟨⟨enabled, done⟩, rfl⟩

/-- A users event leaves the rows valid if it empties no list that the table shows. -/
theorem rowsValid_usersEvent_iff {snapshot : Node}
    (valid : RowsValid before.rows before.history.vc.posts)
    (step : (machine firebase).Step before (.deliver (.usersEvent snapshot)) after) :
    RowsValid after.rows after.history.vc.posts ↔
      NoRows firebase before (.deliver (.usersEvent snapshot)) := by
  obtain ⟨delivered, rows⟩ := step_deliver step
  obtain ⟨_, _, _, cases⟩ := ProfileHistory.step_usersEvent delivered
  rw [rows]
  -- Without a map in the snapshot the posts are kept.
  have kept (noMap : ProfileHistory.fundraisersMap firebase before.history.vc.userID snapshot = none)
      (posts : after.history.vc.posts = before.history.vc.posts) :
      RowsValid before.rows after.history.vc.posts ↔
        NoRows firebase before (.deliver (.usersEvent snapshot)) := by
    rw [posts, NoRows, noMap]
    exact iff_of_true valid nofun
  rcases cases with ⟨absent, vc, _⟩ | ⟨_, ⟨noMap, _, posts, _⟩ | ⟨map, hasMap, _, posts, _⟩⟩
  · refine kept ?_ (by rw [vc])
    rw [ProfileHistory.fundraisersMap, absent]
    rfl
  · exact kept noMap posts
  · change RowsValid before.rows after.history.vc.posts ↔ _
    rw [posts, NoRows, hasMap]
    constructor
    · intro none _
      by_contra shown
      exact absurd (none 0 (Nat.pos_of_ne_zero shown)) (Nat.not_lt_zero 0)
    · intro empty row below
      rw [empty rfl] at below
      exact (Nat.not_lt_zero row below).elim

/-- Only a users event can leave rows without posts. -/
theorem rowsValid_step_iff {action : Action}
    (valid : RowsValid before.rows before.history.vc.posts)
    (step : (machine firebase).Step before action after) :
    RowsValid after.rows after.history.vc.posts ↔ NoRows firebase before action := by
  cases action with
  | deliver event =>
      cases event with
      | usersEvent snapshot => exact rowsValid_usersEvent_iff valid step
      | fundraisersChange snapshot =>
          obtain ⟨delivered, rows⟩ := step_deliver step
          have posts : after.history.vc.posts = before.history.vc.posts := by
            rw [← Option.some.inj delivered.2]
          rw [rows, posts]
          exact iff_of_true valid trivial
      | fundraisersEvent observer =>
          rw [(step_deliver step).2]
          exact iff_of_true (rowsValid_reload _) trivial
  | cellForRowAt row =>
      obtain ⟨_, handled⟩ := step
      obtain ⟨_, _, handled⟩ := Option.bind_eq_some_iff.mp handled
      cases handled
      exact iff_of_true valid trivial

/-- The rows are valid exactly if no request for one of them traps. -/
theorem rowsValid_iff_requests :
    RowsValid before.rows before.history.vc.posts ↔
      ∀ row < before.rows, (handle firebase before (.cellForRowAt row)).isSome := by
  rw [rowsValid_iff]
  refine forall₂_congr fun row _ => ?_
  cases present : before.history.vc.posts[row]? <;> simp [handle, present]

/-- In a run of the profile whose maps find no rows in the table no request for a row traps. -/
theorem requests_return {uid text : String} {fundraisers : Node} {actions : List Action}
    {finish : State}
    (run : (machine firebase).Run (initial uid text fundraisers) actions finish)
    (empty : (machine firebase).Guarded (NoRows firebase) (initial uid text fundraisers) actions) :
    ∀ row < finish.rows, (handle firebase finish (.cellForRowAt row)).isSome := by
  rw [← rowsValid_iff_requests]
  exact run.invariant_along empty
    (fun before _ _ (valid : RowsValid before.rows before.history.vc.posts) step none =>
      (rowsValid_step_iff valid step).mpr none)
    (rowsValid_reload [])

end ProfileTable

/-- **When every row can be asked for.** Along every sequence of events and table
requests in the feed and in the profile, after every step each row below the table's
count is a valid index into the posts, exactly when every users event that brings the
profile a fundraisers map finds no rows in its table. -/
theorem rows_valid_iff (firebase : Firebase) (feedActions : List FeedTable.Action)
    (uid text : String) (fundraisers : Node) (profileActions : List ProfileTable.Action) :
    ((FeedTable.machine firebase).Along (fun _ _ after => RowsValid after.rows after.posts)
          {} feedActions ∧
        (ProfileTable.machine firebase).Along
          (fun _ _ after => RowsValid after.rows after.history.vc.posts)
          (ProfileTable.initial uid text fundraisers) profileActions) ↔
      (ProfileTable.machine firebase).Guarded (ProfileTable.NoRows firebase)
        (ProfileTable.initial uid text fundraisers) profileActions := by
  have feed : (FeedTable.machine firebase).Along
      (fun _ _ after => RowsValid after.rows after.posts) {} feedActions :=
    Machine.Along.of_invariant
      (fun before _ _ (valid : RowsValid before.rows before.posts) step =>
        ⟨FeedTable.rowsValid_step valid step, FeedTable.rowsValid_step valid step⟩)
      (rowsValid_reload [])
  rw [and_iff_right feed]
  exact Machine.Along.iff_of_agree
    (fun before _ _ (valid : RowsValid before.rows before.history.vc.posts) step =>
      ProfileTable.rowsValid_step_iff valid step)
    (fun _ _ _ valid step empty => (ProfileTable.rowsValid_step_iff valid step).mpr empty)
    (rowsValid_reload [])

section SecondUsersEvent

open ProfileTable

instance (state : State) :
    (action : Action) → Decidable ((ProfileTable.machine Firebase.byKey).enabled state action)
  | .deliver event =>
      inferInstanceAs (Decidable ((ProfileHistory.machine Firebase.byKey).enabled _ event))
  | .cellForRowAt _ => inferInstanceAs (Decidable (_ < _))

/-- After a second users event the table still shows a row whose post is gone. -/
theorem second_users_event_empties_rows :
    ¬ ∀ (firebase : Firebase) (uid text : String) (fundraisers : Node) (actions : List Action),
      (ProfileTable.machine firebase).Along
        (fun _ _ after => RowsValid after.rows after.history.vc.posts)
        (initial uid text fundraisers) actions := by
  intro valid
  have along := valid Firebase.byKey "ann" "" ProfileHistory.walkFundraisers
    ([.deliver (.usersEvent ProfileHistory.annUsers), .deliver (.fundraisersEvent 0)] ++
      [.deliver (.usersEvent ProfileHistory.annUsers)])
  have reached : ((ProfileTable.machine Firebase.byKey).execute
      (initial "ann" "" ProfileHistory.walkFundraisers)
        ([.deliver (.usersEvent ProfileHistory.annUsers), .deliver (.fundraisersEvent 0)] ++
          [.deliver (.usersEvent ProfileHistory.annUsers)])).map
        (fun after => decide (RowsValid after.rows after.history.vc.posts)) = some false := by
    decide
  obtain ⟨after, executed, wrong⟩ := Option.map_eq_some_iff.mp reached
  obtain ⟨before, _, right⟩ := along.executed executed
  exact of_decide_eq_false wrong right

end SecondUsersEvent

end MyFundi
