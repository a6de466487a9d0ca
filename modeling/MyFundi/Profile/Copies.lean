import Mathlib.Data.Multiset.Bind
import MyFundi.Foundation.Queues
import MyFundi.Profile.History

/-!
# How often the history lists a fundraiser

A fundraisers observer is never removed, and all of them append to one list. Until the next
users event, the list gets every undelivered event of every observer and every later change
once for each observer, in whatever order the observers are given them; and there are as
many observers as users events have brought a fundraisers map.
-/

namespace MyFundi.ProfileHistory

open Foundation

variable (firebase : Firebase)

/-- The user's fundraisers in a snapshot, as the feed lists them. -/
def ownPosts (keys : List String) (snapshot : Node) : Multiset Post :=
  (FeedVC.loadedPosts firebase snapshot).filter (·.postKey ∈ keys)

/-- What an event tells every observer. -/
def Action.change : Action → Option Node
  | .fundraisersChange snapshot => some snapshot
  | .usersEvent _ | .fundraisersEvent _ => none

/-- A users event that brings a fundraisers map of the user. -/
def Action.Registers (uid : String) : Action → Prop
  | .usersEvent snapshot => (fundraisersMap firebase uid snapshot).isSome
  | .fundraisersChange _ | .fundraisersEvent _ => False

instance (uid : String) : (action : Action) → Decidable (action.Registers firebase uid)
  | .usersEvent _ => inferInstanceAs (Decidable (_ = true))
  | .fundraisersChange _ | .fundraisersEvent _ => .isFalse id

variable {firebase} {before after : State}

/-- What holds while no users event is delivered: every event that was undelivered, and
every change once for each observer, is listed or still undelivered. -/
structure Copied (firebase : Firebase) (start state : State) (changes : List Node) : Prop where
  observers : state.observers.length = start.observers.length
  keys : state.vc.fundraiserKeys = start.vc.fundraiserKeys
  posts : (state.vc.posts : Multiset Post) +
      (undelivered state.observers).bind (ownPosts firebase start.vc.fundraiserKeys) =
    start.vc.posts + (undelivered start.observers + start.observers.length • ↑changes).bind
      (ownPosts firebase start.vc.fundraiserKeys)

/-- A step that brings no users event loses no copy and makes none. -/
theorem Copied.step {start : State} {action : Action} {changes : List Node}
    (copied : Copied firebase start before changes) (coherent : Coherent firebase before)
    (step : (machine firebase).Step before action after)
    (noUsers : ∀ snapshot, action ≠ .usersEvent snapshot) :
    Copied firebase start after (changes ++ action.change.toList) := by
  cases action with
  | usersEvent snapshot => exact (noUsers snapshot rfl).elim
  | fundraisersChange snapshot =>
      cases step.2
      refine ⟨?_, copied.keys, ?_⟩
      · rw [List.length_map, copied.observers]
      · rw [undelivered_broadcast, Multiset.add_bind, ← add_assoc, copied.posts, copied.observers,
          Action.change, Option.toList_some, ← Multiset.coe_add, nsmul_add, add_assoc,
          ← Multiset.add_bind, add_assoc]
        rfl
  | fundraisersEvent observer =>
      obtain ⟨snapshot, rest, waiting, rfl⟩ := step_fundraisersEvent step
      refine ⟨?_, copied.keys, ?_⟩
      · rw [List.length_set, copied.observers]
      · have found : (ProfileVC.foundPosts firebase before.vc.fundraiserKeys snapshot :
            Multiset Post) = ownPosts firebase start.vc.fundraiserKeys snapshot := by
          rw [foundPosts_eq coherent.nodup, copied.keys]
          rfl
        have posts := copied.posts
        rw [undelivered_set waiting, Multiset.cons_bind, ← add_assoc, ← found] at posts
        rw [Action.change, Option.toList_none, List.append_nil, ← posts]
        rfl

/-- One observer for every map that the actions `seen` brought. -/
structure Registered (firebase : Firebase) (uid : String) (state : State) (seen : List Action) :
    Prop where
  userID : state.vc.userID = uid
  observers : state.observers.length = seen.countP (·.Registers firebase uid)

/-- Only a users event with a map registers an observer, and one. -/
theorem Registered.step {uid : String} {action : Action} {seen : List Action}
    (registered : Registered firebase uid before seen)
    (step : (machine firebase).Step before action after) :
    Registered firebase uid after (seen ++ [action]) := by
  obtain ⟨rfl, counted⟩ := registered
  cases action with
  | usersEvent snapshot =>
      obtain ⟨user, _, _, cases⟩ := step_usersEvent step
      refine ⟨user, ?_⟩
      rw [List.countP_append, List.countP_singleton, ← counted]
      by_cases brings : (Action.usersEvent snapshot).Registers firebase before.vc.userID
      · obtain ⟨map, hasMap⟩ := Option.isSome_iff_exists.mp brings
        rw [if_pos (decide_eq_true brings)]
        rcases cases with ⟨absent, _⟩ | ⟨_, ⟨noMap, _⟩ | ⟨_, _, _, _, observers⟩⟩
        · rw [fundraisersMap, absent] at hasMap
          cases hasMap
        · rw [noMap] at hasMap
          cases hasMap
        · rw [observers, List.length_append]
          rfl
      · rw [if_neg fun registers => brings (of_decide_eq_true registers), add_zero]
        rcases cases with ⟨_, _, observers⟩ | ⟨_, ⟨_, _, _, observers⟩ | ⟨map, hasMap, _⟩⟩
        · rw [observers]
        · rw [observers]
        · exact (brings (Option.isSome_of_eq_some hasMap)).elim
  | fundraisersChange snapshot =>
      cases step.2
      refine ⟨rfl, ?_⟩
      rw [List.length_map, counted, List.countP_append]
      rfl
  | fundraisersEvent observer =>
      obtain ⟨snapshot, rest, _, rfl⟩ := step_fundraisersEvent step
      refine ⟨rfl, ?_⟩
      rw [List.length_set, counted, List.countP_append]
      rfl

/-- A run registers an observer for every map it brings. -/
theorem registered_run {uid text : String} {fundraisers : Node} {actions : List Action}
    {finish : State}
    (run : (machine firebase).Run (initial uid text fundraisers) actions finish) :
    Registered firebase uid finish actions := by
  have unguarded : (machine firebase).Along (fun _ _ _ => True) (initial uid text fundraisers)
      actions := fun _ _ _ _ _ _ _ _ => trivial
  have registered : Registered firebase uid finish
      ((machine firebase).observed (fun _ action => some action) (initial uid text fundraisers)
        actions) :=
    run.invariant_observed unguarded
      (fun _ _ _ _ (registered : Registered firebase uid _ _) step _ => registered.step step)
      ⟨rfl, rfl⟩
  rwa [run.observed_eq_filterMap, List.filterMap_some] at registered

/-- **How often the history lists a fundraiser.** Take any state that a freshly loaded
profile reaches, and any order of changes and deliveries from there, without a users event,
that leaves nothing undelivered. The list then has, besides what it had, the user's
fundraisers of every event that was undelivered, and those of every change as many times
as users events had brought a fundraisers map. -/
theorem history_copies (firebase : Firebase) {uid text : String} {fundraisers : Node}
    {front back : List Action} {start finish : State}
    (reached : (machine firebase).Run (initial uid text fundraisers) front start)
    (run : (machine firebase).Run start back finish)
    (noUsers : ∀ snapshot, .usersEvent snapshot ∉ back) (settled : Settled finish) :
    (finish.vc.posts : Multiset Post) = start.vc.posts +
      (undelivered start.observers +
        front.countP (·.Registers firebase uid) • ↑(back.filterMap Action.change)).bind
          (ownPosts firebase start.vc.fundraiserKeys) := by
  have coherent : Coherent firebase start :=
    reached.invariant (fun _ _ _ coherent step => coherent.step step)
      (coherent_initial uid text fundraisers)
  have started : Copied firebase start start [] := by
    refine ⟨rfl, rfl, ?_⟩
    rw [Multiset.coe_nil, nsmul_zero, add_zero]
  have along : (machine firebase).Along (fun _ action _ => ∀ snapshot, action ≠ .usersEvent snapshot)
      start back :=
    Machine.Along.of_actions fun action member snapshot same => noUsers snapshot (same ▸ member)
  have kept := run.invariant_observed along
    (fun before _ _ seen (held : Coherent firebase before ∧ Copied firebase start before seen) step
      other => ⟨held.1.step step, held.2.step held.1 step other⟩)
    ⟨coherent, started⟩
  have posts := kept.2.posts
  rw [undelivered_of_settled settled, Multiset.zero_bind, add_zero, run.observed_eq_filterMap,
    (registered_run reached).observers] at posts
  exact posts

/-- Two users events bring `ann`'s map, and each observer is given the fundraisers. -/
def twoObservers : List Action :=
  [.usersEvent annUsers, .fundraisersEvent 0, .usersEvent annUsers, .fundraisersEvent 1]

/-- A change then lists `ann`'s fundraiser twice more. -/
theorem two_observers_copy_twice :
    ∃ start finish,
      (machine Firebase.byKey).execute (initial "ann" "" walkFundraisers) twoObservers =
        some start ∧
      (machine Firebase.byKey).execute start
        [.fundraisersChange walkFundraisers, .fundraisersEvent 1, .fundraisersEvent 0] =
        some finish ∧
      (finish.vc.posts : Multiset Post) = start.vc.posts +
        2 • ownPosts Firebase.byKey start.vc.fundraiserKeys walkFundraisers := by
  have reached : (((machine Firebase.byKey).execute (initial "ann" "" walkFundraisers)
      twoObservers).bind fun start => ((machine Firebase.byKey).execute start
        [.fundraisersChange walkFundraisers, .fundraisersEvent 1, .fundraisersEvent 0]).map
          fun finish => (decide (Settled start), decide (Settled finish))) =
      some (true, true) := by
    decide
  obtain ⟨start, opened, reached⟩ := Option.bind_eq_some_iff.mp reached
  obtain ⟨finish, changed, settled⟩ := Option.map_eq_some_iff.mp reached
  obtain ⟨nothing, nothingLeft⟩ := Prod.mk.inj settled
  have copies := history_copies Firebase.byKey (Machine.run_of_execute opened)
    (Machine.run_of_execute changed) (by simp) (of_decide_eq_true nothingLeft)
  have twice : twoObservers.countP (·.Registers Firebase.byKey "ann") = 2 := by decide
  rw [undelivered_of_settled (of_decide_eq_true nothing), zero_add, twice, two_nsmul,
    Multiset.add_bind] at copies
  have once : ((([.fundraisersChange walkFundraisers, .fundraisersEvent 1, .fundraisersEvent 0] :
      List Action).filterMap Action.change : List Node) : Multiset Node).bind
        (ownPosts Firebase.byKey start.vc.fundraiserKeys) =
      ownPosts Firebase.byKey start.vc.fundraiserKeys walkFundraisers :=
    Multiset.singleton_bind _ _
  rw [once] at copies
  exact ⟨start, finish, opened, changed, copies.trans (by rw [two_nsmul])⟩

end MyFundi.ProfileHistory
