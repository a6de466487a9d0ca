import Mathlib.Data.List.Basic
import Mathlib.Logic.Basic

/-!
# Event-driven machines

A machine whose actions are chosen by its environment: user input, network
answers, queued callbacks. `enabled` says when the environment may choose an
action, and `handle` runs the handler, returning nothing when the handler traps.
A run is any sequence of enabled actions whose handlers return, so a statement
about every run covers every interleaving the environment can produce.
-/

namespace Foundation

universe uState uAction

/-- A system that takes an action when it is enabled and its handler returns. -/
structure Machine (State : Type uState) (Action : Type uAction) where
  enabled : State → Action → Prop
  handle : State → Action → Option State

namespace Machine

variable {State : Type uState} {Action : Type uAction} (machine : Machine State Action)

/-- The action is enabled and its handler returns the next state. -/
def Step (before : State) (action : Action) (after : State) : Prop :=
  machine.enabled before action ∧ machine.handle before action = some after

/-- A finite run, with the actions taken. -/
inductive Run : State → List Action → State → Prop where
  | nil (state : State) : Run state [] state
  | cons {start middle finish : State} {action : Action} {actions : List Action} :
      machine.Step start action middle → Run middle actions finish →
      Run start (action :: actions) finish

/-- Every step taken along these actions satisfies `property`. -/
def Along (property : State → Action → State → Prop) (start : State)
    (actions : List Action) : Prop :=
  ∀ front action rest before after, actions = front ++ action :: rest →
    machine.Run start front before → machine.Step before action after →
    property before action after

/-- Every action taken along the list is taken in a state satisfying `guard`. -/
abbrev Guarded (guard : State → Action → Prop) (start : State) (actions : List Action) : Prop :=
  machine.Along (fun before action _ => guard before action) start actions

variable {machine}

/-- An action has one outcome. -/
theorem Step.unique {before first second : State} {action : Action}
    (left : machine.Step before action first) (right : machine.Step before action second) :
    first = second :=
  Option.some.inj (left.2.symm.trans right.2)

namespace Along

variable {property : State → Action → State → Prop}

theorem nil (start : State) : machine.Along property start [] := by
  intro front action rest before after split
  exact (List.append_ne_nil_of_right_ne_nil front (List.cons_ne_nil action rest) split.symm).elim

/-- Nothing happens along actions of which the first cannot be taken. -/
theorem stuck {start : State} {action : Action} {actions : List Action}
    (impossible : ¬ ∃ middle, machine.Step start action middle) :
    machine.Along property start (action :: actions) := by
  intro front next rest before after split run step
  cases run with
  | nil =>
      obtain ⟨rfl, rfl⟩ := List.cons.inj split
      exact (impossible ⟨after, step⟩).elim
  | cons first run =>
      obtain ⟨rfl, _⟩ := List.cons.inj split
      exact (impossible ⟨_, first⟩).elim

/-- The first step and the remaining steps. -/
theorem cons_iff {start middle : State} {action : Action} {actions : List Action}
    (step : machine.Step start action middle) :
    machine.Along property start (action :: actions) ↔
      property start action middle ∧ machine.Along property middle actions := by
  constructor
  · intro along
    refine ⟨along [] action actions start middle rfl (.nil start) step, ?_⟩
    intro front next rest before after split run
    exact along (action :: front) next rest before after
      (by rw [split, List.cons_append]) (.cons step run)
  · rintro ⟨head, tail⟩ front next rest before after split run stepNext
    cases run with
    | nil =>
        obtain ⟨rfl, rfl⟩ := List.cons.inj split
        cases step.unique stepNext
        exact head
    | cons first run =>
        obtain ⟨rfl, same⟩ := List.cons.inj split
        cases step.unique first
        exact tail _ next rest before after same run stepNext

/-- The step taken right after the first part of a run satisfies the property. -/
theorem next {start middle finish : State} {front rest : List Action} {action : Action}
    (along : machine.Along property start (front ++ action :: rest))
    (run : machine.Run start front middle) (step : machine.Step middle action finish) :
    property middle action finish :=
  along front action rest middle finish rfl run step

end Along

/-- Two step properties that hold along the same actions hold together. -/
theorem Along.and {left right : State → Action → State → Prop} {start : State}
    {actions : List Action} (first : machine.Along left start actions)
    (second : machine.Along right start actions) :
    machine.Along (fun before action after => left before action after ∧
      right before action after) start actions :=
  fun front action rest before after split run step =>
    ⟨first front action rest before after split run step,
      second front action rest before after split run step⟩

/-- A property of actions alone holds along all actions that have it. -/
theorem Along.of_actions {property : Action → Prop} {start : State} {actions : List Action}
    (all : ∀ action ∈ actions, property action) :
    machine.Along (fun _ action _ => property action) start actions := by
  intro front action rest before after split _ _
  apply all
  rw [split]
  exact List.mem_append_right _ List.mem_cons_self

/-- A property kept by every step holds at the end of every run. -/
theorem Run.invariant {property : State → Prop} {start finish : State} {actions : List Action}
    (run : machine.Run start actions finish)
    (keeps : ∀ before action after, property before → machine.Step before action after →
      property after)
    (initial : property start) : property finish := by
  induction run with
  | nil => exact initial
  | cons step _ ih => exact ih (keeps _ _ _ initial step)

/-- A property kept by every step that satisfies `guard` holds at the end of
every run whose steps all satisfy it. -/
theorem Run.invariant_along {guard : State → Action → State → Prop} {property : State → Prop}
    {start finish : State} {actions : List Action} (run : machine.Run start actions finish)
    (along : machine.Along guard start actions)
    (keeps : ∀ before action after, property before → machine.Step before action after →
      guard before action after → property after)
    (initial : property start) : property finish := by
  induction run with
  | nil => exact initial
  | cons step _ ih =>
      obtain ⟨head, tail⟩ := (Along.cons_iff step).mp along
      exact ih tail (keeps _ _ _ initial step head)

/-- A measure that every guarded step decreases bounds the number of steps. -/
theorem Run.length_add_le {measure : State → Nat} {guard : State → Action → State → Prop}
    {start finish : State} {actions : List Action} (run : machine.Run start actions finish)
    (along : machine.Along guard start actions)
    (decreases : ∀ before action after, machine.Step before action after →
      guard before action after → measure after < measure before) :
    actions.length + measure finish ≤ measure start := by
  induction run with
  | nil state => exact Nat.le_of_eq (Nat.zero_add _)
  | cons step _ ih =>
      obtain ⟨head, tail⟩ := (Along.cons_iff step).mp along
      have later := ih tail
      have less := decreases _ _ _ step head
      rw [List.length_cons]
      omega

/-- Two step properties that agree in every state satisfying an invariant agree
along all actions. The invariant need only survive steps that satisfy the second. -/
theorem Along.iff_of_agree {left right : State → Action → State → Prop}
    {property : State → Prop} {start : State} {actions : List Action}
    (agree : ∀ before action after, property before → machine.Step before action after →
      (left before action after ↔ right before action after))
    (keeps : ∀ before action after, property before → machine.Step before action after →
      right before action after → property after)
    (initial : property start) :
    machine.Along left start actions ↔ machine.Along right start actions := by
  induction actions generalizing start with
  | nil => exact ⟨fun _ => Along.nil _, fun _ => Along.nil _⟩
  | cons action actions ih =>
      by_cases possible : ∃ middle, machine.Step start action middle
      · obtain ⟨middle, step⟩ := possible
        rw [Along.cons_iff step, Along.cons_iff step, agree _ _ _ initial step]
        exact and_congr_right fun head => ih (keeps _ _ _ initial step head)
      · exact ⟨fun _ => Along.stuck possible, fun _ => Along.stuck possible⟩

/-- What every guarded step does in a state satisfying an invariant, it does along all
guarded actions. -/
theorem Along.imp_of_invariant {guard guaranteed : State → Action → State → Prop}
    {property : State → Prop} {start : State} {actions : List Action}
    (along : machine.Along guard start actions)
    (keeps : ∀ before action after, property before → machine.Step before action after →
      guard before action after → guaranteed before action after ∧ property after)
    (initial : property start) : machine.Along guaranteed start actions := by
  intro front action rest before after split run step
  have guarded : machine.Along guard start front := by
    intro first next later middle last inner
    apply along first next (later ++ action :: rest)
    rw [split, inner, List.append_assoc, List.cons_append]
  have reached : property before :=
    run.invariant_along guarded (fun _ _ _ held step fine => (keeps _ _ _ held step fine).2) initial
  exact (keeps before action after reached step (along front action rest before after split run
    step)).1

/-- What every step does in a state satisfying an invariant, it does along all actions. -/
theorem Along.of_invariant {guaranteed : State → Action → State → Prop}
    {property : State → Prop} {start : State} {actions : List Action}
    (keeps : ∀ before action after, property before → machine.Step before action after →
      guaranteed before action after ∧ property after)
    (initial : property start) : machine.Along guaranteed start actions := by
  have unguarded : machine.Along (fun _ _ _ => True) start actions :=
    fun _ _ _ _ _ _ _ _ => trivial
  exact unguarded.imp_of_invariant (fun before action after held step _ =>
    keeps before action after held step) initial

section Observation

universe uObservation

variable {Observation : Type uObservation}

variable (machine) in
/-- What an observer notes of actions carried out one after the other. -/
def observed (observe : State → Action → Option Observation) (start : State) :
    List Action → List Observation
  | [] => []
  | action :: actions =>
      (observe start action).toList ++
        match machine.handle start action with
        | some middle => observed observe middle actions
        | none => []

variable {observe : State → Action → Option Observation}

/-- What a run observes is what its first step does, and then the rest. -/
theorem Step.observed_cons {start middle : State} {action : Action}
    (step : machine.Step start action middle) (actions : List Action) :
    machine.observed observe start (action :: actions) =
      (observe start action).toList ++ machine.observed observe middle actions := by
  rw [observed, step.2]

/-- A property of the state and of what has been observed so far, kept by every step
that satisfies `guard`, holds at the end of every run whose steps all satisfy it. -/
theorem Run.invariant_observed {guard : State → Action → State → Prop}
    {property : State → List Observation → Prop} {start finish : State} {actions : List Action}
    (run : machine.Run start actions finish) (along : machine.Along guard start actions)
    (keeps : ∀ before action after seen, property before seen →
      machine.Step before action after → guard before action after →
        property after (seen ++ (observe before action).toList))
    (initial : property start []) :
    property finish (machine.observed observe start actions) := by
  suffices later : ∀ seen, property start seen →
      property finish (seen ++ machine.observed observe start actions) from later [] initial
  clear initial
  induction run with
  | nil state =>
      intro seen held
      rw [observed, List.append_nil]
      exact held
  | cons step _ ih =>
      intro seen held
      obtain ⟨head, tail⟩ := (Along.cons_iff step).mp along
      rw [step.observed_cons, ← List.append_assoc]
      exact ih tail _ (keeps _ _ _ _ held step head)

/-- Along a run, what an observer notes of the actions alone is noted of every action. -/
theorem Run.observed_eq_filterMap {note : Action → Option Observation} {start finish : State}
    {actions : List Action} (run : machine.Run start actions finish) :
    machine.observed (fun _ action => note action) start actions = actions.filterMap note := by
  induction run with
  | nil state => rfl
  | @cons before middle finish action actions step rest ih =>
      rw [step.observed_cons, ih]
      cases noted : note action with
      | none => rw [List.filterMap_cons_none noted, Option.toList_none, List.nil_append]
      | some observation =>
          rw [List.filterMap_cons_some noted, Option.toList_some, List.singleton_append]

/-- Another machine follows every guarded step by a translated action, keeping the states
related. Then it follows every run whose steps are all guarded. -/
theorem Run.simulate {OtherState OtherAction : Type*} {other : Machine OtherState OtherAction}
    {related : State → OtherState → Prop} {translate : State → Action → OtherAction}
    {guard : State → Action → State → Prop} {start finish : State} {actions : List Action}
    (run : machine.Run start actions finish) (along : machine.Along guard start actions)
    (follows : ∀ before action after shadow, related before shadow →
      machine.Step before action after → guard before action after →
        ∃ next, other.Step shadow (translate before action) next ∧ related after next)
    {shadow : OtherState} (initial : related start shadow) :
    ∃ last, other.Run shadow
        (machine.observed (fun before action => some (translate before action)) start actions)
        last ∧ related finish last := by
  induction run generalizing shadow with
  | nil state => exact ⟨shadow, .nil shadow, initial⟩
  | cons step _ ih =>
      obtain ⟨head, tail⟩ := (Along.cons_iff step).mp along
      obtain ⟨next, followed, keeps⟩ := follows _ _ _ _ initial step head
      obtain ⟨last, rest, ends⟩ := ih tail keeps
      rw [step.observed_cons]
      exact ⟨last, .cons followed rest, ends⟩

/-- A machine with the same actions that follows every step follows every run. -/
theorem Run.follow {OtherState : Type*} {other : Machine OtherState Action}
    {related : State → OtherState → Prop} {start finish : State} {actions : List Action}
    (run : machine.Run start actions finish)
    (follows : ∀ before action after shadow, related before shadow →
      machine.Step before action after →
        ∃ next, other.Step shadow action next ∧ related after next)
    {shadow : OtherState} (initial : related start shadow) :
    ∃ last, other.Run shadow actions last ∧ related finish last := by
  have unguarded : machine.Along (fun _ _ _ => True) start actions :=
    fun _ _ _ _ _ _ _ _ => trivial
  have followed := run.simulate unguarded
    (fun before action after shadow held step _ => follows before action after shadow held step)
    initial
  rwa [run.observed_eq_filterMap, List.filterMap_some] at followed

end Observation

/-- Two step properties that agree on every step agree along all actions. -/
theorem Along.congr {left right : State → Action → State → Prop} {start : State}
    {actions : List Action}
    (agree : ∀ before action after, machine.Step before action after →
      (left before action after ↔ right before action after)) :
    machine.Along left start actions ↔ machine.Along right start actions :=
  ⟨fun along front action rest before after split run step =>
      (agree _ _ _ step).mp (along front action rest before after split run step),
    fun along front action rest before after split run step =>
      (agree _ _ _ step).mpr (along front action rest before after split run step)⟩

section Execution

variable [∀ state action, Decidable (machine.enabled state action)]

variable (machine) in
/-- Carry out the actions, stopping at one that is not enabled or that traps. -/
def execute (start : State) : List Action → Option State
  | [] => some start
  | action :: actions =>
      if machine.enabled start action then
        (machine.handle start action).bind fun middle => execute middle actions
      else none

/-- A successful execution is a run. -/
theorem run_of_execute {start finish : State} {actions : List Action}
    (executed : machine.execute start actions = some finish) :
    machine.Run start actions finish := by
  induction actions generalizing start with
  | nil => cases executed; exact .nil _
  | cons action actions ih =>
      rw [execute] at executed
      split at executed
      · rename_i enabled
        obtain ⟨middle, handled, rest⟩ := Option.bind_eq_some_iff.mp executed
        exact .cons ⟨enabled, handled⟩ (ih rest)
      · cases executed

/-- An execution carries out the first part of the actions, then the rest. -/
theorem execute_append (start : State) (front rest : List Action) :
    machine.execute start (front ++ rest) =
      (machine.execute start front).bind fun middle => machine.execute middle rest := by
  induction front generalizing start with
  | nil => rfl
  | cons action front ih =>
      rw [List.cons_append, execute, execute]
      split
      · simp only [ih, Option.bind_assoc]
      · rfl

/-- The last step of an execution satisfies a property that holds along its actions. -/
theorem Along.executed {property : State → Action → State → Prop} {start after : State}
    {front : List Action} {action : Action}
    (along : machine.Along property start (front ++ [action]))
    (executed : machine.execute start (front ++ [action]) = some after) :
    ∃ before, machine.execute start front = some before ∧ property before action after := by
  rw [execute_append] at executed
  obtain ⟨before, reached, last⟩ := Option.bind_eq_some_iff.mp executed
  have run := run_of_execute last
  cases run with
  | cons step tail =>
      cases tail
      exact ⟨before, reached, along.next (run_of_execute reached) step⟩

variable (machine) in
/-- Whether every action carried out satisfies a decidable guard. -/
def respects (guard : State → Action → Prop) [∀ state action, Decidable (guard state action)]
    (start : State) : List Action → Bool
  | [] => true
  | action :: actions =>
      decide (guard start action) &&
        ((machine.execute start [action]).all fun middle => respects guard middle actions)

/-- A guard can be checked by running. -/
theorem guarded_of_respects {guard : State → Action → Prop}
    [∀ state action, Decidable (guard state action)] {start : State} {actions : List Action}
    (respected : machine.respects guard start actions = true) :
    machine.Guarded guard start actions := by
  induction actions generalizing start with
  | nil => exact Along.nil start
  | cons action actions ih =>
      rw [respects, Bool.and_eq_true, decide_eq_true_eq] at respected
      by_cases possible : ∃ middle, machine.Step start action middle
      · obtain ⟨middle, step⟩ := possible
        have executed : machine.execute start [action] = some middle := by
          rw [execute, if_pos step.1, step.2]
          rfl
        rw [executed, Option.all_some] at respected
        exact (Along.cons_iff step).mpr ⟨respected.1, ih respected.2⟩
      · exact Along.stuck possible

end Execution

end Machine

end Foundation
