import Mathlib.Order.WithBot
import MyFundi.Foundation.Listing
import MyFundi.Search.Table

/-!
# The order of the search list

The search screen observes the children of an ordered query, but its observer takes
the child alone, not the key of the sibling before it, and appends every child at the
end. The initial children arrive in the order of the query; a child added later is
in its place exactly when every child that the query puts behind it looks the same
(`list_ordered_iff`).
-/

namespace MyFundi

open Foundation

/-- How the query ranks the values under the ordering key, and how it ranks keys. -/
structure QueryOrder (Title Key : Type) where
  title : Node → Title
  key : String → Key
  key_injective : Function.Injective key

variable {Title Key : Type}

/-- Where `queryOrdered(byChild: "title")` puts a child: by title, ties by key. -/
def QueryOrder.position (order : QueryOrder Title Key) (child : DataSnapshot) : Title ×ₗ Key :=
  toLex (order.title (child.value.entry "title"), order.key child.key)

theorem QueryOrder.position_ne (order : QueryOrder Title Key) {first second : DataSnapshot}
    (different : first.key ≠ second.key) : order.position first ≠ order.position second := by
  intro same
  exact different (order.key_injective (congrArg (fun place => (ofLex place).2) same))

variable [LinearOrder Title] [LinearOrder Key]

/-- Children in the order of the query. -/
structure QueryResult (order : QueryOrder Title Key) where
  children : List DataSnapshot
  ordered : children.Pairwise fun first second => order.position first < order.position second
  distinct : (children.map DataSnapshot.key).Nodup

namespace SearchList

/-- A search screen with the initial children not yet delivered, and all children
delivered so far in the order of delivery. -/
structure State where
  vc : SearchedDetailsTableViewController
  awaited : List DataSnapshot
  delivered : List DataSnapshot

/-- The next of the initial children is delivered; a client adds a child, which is
delivered at once; the search changes. -/
inductive Action where
  | initialChild
  | childAdded (child : DataSnapshot)
  | setActive (isActive : Bool) (searchText : String)
  | editText (searchText : String)

variable (firebase : Firebase) (text : SwiftText)

/-- The observer is given a child. -/
def State.deliver (state : State) (child : DataSnapshot) : State :=
  { state with
    vc := (state.vc.childAdded firebase child.value).1
    delivered := state.delivered ++ [child] }

/-- A child delivered is appended; the search changes as on its own. -/
def handle (state : State) : Action → Option State
  | .initialChild =>
      match state.awaited with
      | [] => none
      | child :: rest => some { state.deliver firebase child with awaited := rest }
  | .childAdded child => some (state.deliver firebase child)
  | .setActive isActive searchText => do
      let vc ← SearchedDetailsTableViewController.handle firebase text state.vc
        (.setActive isActive searchText)
      return { state with vc := vc }
  | .editText searchText => do
      let vc ← SearchedDetailsTableViewController.handle firebase text state.vc
        (.editText searchText)
      return { state with vc := vc }

/-- A child added later comes after the initial ones, under a new key. -/
def Enabled (state : State) : Action → Prop
  | .initialChild => state.awaited ≠ []
  | .childAdded child => state.awaited = [] ∧ child.key ∉ state.delivered.map DataSnapshot.key
  | _ => True

instance (state : State) : (action : Action) → Decidable (Enabled state action)
  | .initialChild => inferInstanceAs (Decidable (_ ≠ []))
  | .childAdded _ => inferInstanceAs (Decidable (_ = [] ∧ _ ∉ _))
  | .setActive _ _ | .editText _ => .isTrue trivial

/-- A search screen and the children it is sent. -/
def machine : Machine State Action where
  enabled := Enabled
  handle := handle firebase text

/-- A screen just opened on a query. -/
def initial {order : QueryOrder Title Key} (result : QueryResult order) : State where
  vc := {}
  awaited := result.children
  delivered := []

/-- The list shows every child delivered so far once, in the order of the query. -/
def InQueryOrder (order : QueryOrder Title Key) (state : State) : Prop :=
  ∃ children, Listing order.position state.delivered children ∧
    state.vc.postArray = children.map fun child => firebase.asDictionary child.value

/-- A child added later looks like every child that the query puts behind it; in
particular there is none. -/
def LooksLast (order : QueryOrder Title Key) (before : State) : Action → Prop
  | .childAdded child => ∀ other ∈ before.delivered,
      order.position child < order.position other →
        firebase.asDictionary other.value = firebase.asDictionary child.value
  | _ => True

/-- What holds in every run: the list shows the children in the order of delivery,
keys are distinct, and before the last initial child all are in the order of the query. -/
structure Delivered (order : QueryOrder Title Key) (state : State) : Prop where
  shown : state.vc.postArray =
    state.delivered.map fun child => firebase.asDictionary child.value
  distinct : ((state.delivered ++ state.awaited).map DataSnapshot.key).Nodup
  ordered : state.awaited ≠ [] → (state.delivered ++ state.awaited).Pairwise
    fun first second => order.position first < order.position second

variable {firebase} {text} {order : QueryOrder Title Key} {before after : State}

theorem delivered_initial (result : QueryResult order) :
    Delivered firebase order (initial result) where
  shown := rfl
  distinct := result.distinct
  ordered := fun _ => result.ordered

theorem inQueryOrder_initial (result : QueryResult order) :
    InQueryOrder firebase order (initial result) :=
  ⟨[], .nil, rfl⟩

/-- A change of the search keeps the list and the children. -/
theorem step_search {action : Action} (step : (machine firebase text).Step before action after)
    (noInitial : action ≠ .initialChild) (noChild : ∀ child, action ≠ .childAdded child) :
    after.vc.postArray = before.vc.postArray ∧ after.awaited = before.awaited ∧
      after.delivered = before.delivered := by
  obtain ⟨_, handled⟩ := step
  cases action with
  | initialChild => exact (noInitial rfl).elim
  | childAdded child => exact (noChild child rfl).elim
  | setActive isActive searchText =>
      obtain ⟨vc, done, handled⟩ := Option.bind_eq_some_iff.mp handled
      cases handled
      rw [SearchedDetailsTableViewController.updateSearchResults_eq done]
      exact ⟨rfl, rfl, rfl⟩
  | editText searchText =>
      obtain ⟨vc, done, handled⟩ := Option.bind_eq_some_iff.mp handled
      cases handled
      rw [SearchedDetailsTableViewController.updateSearchResults_eq done]
      exact ⟨rfl, rfl, rfl⟩

/-- The initial children arrive in the order of the query. -/
theorem step_initialChild (step : (machine firebase text).Step before .initialChild after) :
    ∃ child rest, before.awaited = child :: rest ∧
      after = { before.deliver firebase child with awaited := rest } := by
  obtain ⟨_, handled⟩ := step
  simp only [machine, handle] at handled
  split at handled
  · cases handled
  · rename_i child rest awaited
    exact ⟨child, rest, awaited, (Option.some.inj handled).symm⟩

/-- A delivered child is shown at the end of the list. -/
theorem Delivered.shown_deliver (held : Delivered firebase order before) (child : DataSnapshot) :
    (before.deliver firebase child).vc.postArray =
      (before.delivered ++ [child]).map fun child => firebase.asDictionary child.value := by
  rw [List.map_append, ← held.shown]
  rfl

/-- Every delivery is shown at the end of the list. -/
theorem Delivered.step {action : Action} (held : Delivered firebase order before)
    (step : (machine firebase text).Step before action after) :
    Delivered firebase order after := by
  have unchanged (same : after.vc.postArray = before.vc.postArray ∧
      after.awaited = before.awaited ∧ after.delivered = before.delivered) :
      Delivered firebase order after := by
    obtain ⟨shown, awaited, delivered⟩ := same
    refine ⟨?_, ?_, ?_⟩
    · rw [shown, delivered, held.shown]
    · rw [delivered, awaited]
      exact held.distinct
    · rw [delivered, awaited]
      exact held.ordered
  cases action with
  | initialChild =>
      obtain ⟨child, rest, awaited, rfl⟩ := step_initialChild step
      have regroup : before.delivered ++ [child] ++ rest = before.delivered ++ before.awaited := by
        rw [awaited, List.append_assoc, List.singleton_append]
      refine ⟨held.shown_deliver child, ?_, fun _ => ?_⟩
      · change ((before.delivered ++ [child] ++ rest).map DataSnapshot.key).Nodup
        rw [regroup]
        exact held.distinct
      · change (before.delivered ++ [child] ++ rest).Pairwise _
        rw [regroup]
        exact held.ordered (by simp [awaited])
  | childAdded child =>
      obtain ⟨⟨awaited, new⟩, handled⟩ := step
      cases handled
      have distinct := held.distinct
      refine ⟨held.shown_deliver child, ?_, fun present => (present awaited).elim⟩
      rw [awaited, List.append_nil] at distinct
      change ((before.delivered ++ [child] ++ before.awaited).map DataSnapshot.key).Nodup
      rw [awaited, List.append_nil, List.map_append]
      exact distinct.append (by simp) (by simpa using new)
  | setActive isActive searchText => exact unchanged (step_search step (by simp) (by simp))
  | editText searchText => exact unchanged (step_search step (by simp) (by simp))

/-- The initial children keep the order of the query. -/
theorem InQueryOrder.initialChild (held : Delivered firebase order before)
    (step : (machine firebase text).Step before .initialChild after) :
    InQueryOrder firebase order after := by
  obtain ⟨child, rest, awaited, rfl⟩ := step_initialChild step
  have ordered := held.ordered (by simp [awaited])
  refine ⟨before.delivered ++ [child], ⟨.refl _, ?_⟩, held.shown_deliver child⟩
  refine List.Pairwise.sublist ?_ ordered
  rw [awaited]
  exact (List.Sublist.refl before.delivered).append (List.singleton_sublist.mpr List.mem_cons_self)

/-- A step keeps the order of the query exactly when a child it adds looks last. -/
theorem inQueryOrder_step_iff {action : Action} (held : Delivered firebase order before)
    (inOrder : InQueryOrder firebase order before)
    (step : (machine firebase text).Step before action after) :
    InQueryOrder firebase order after ↔ LooksLast firebase order before action := by
  have unchanged (same : after.vc.postArray = before.vc.postArray ∧
      after.awaited = before.awaited ∧ after.delivered = before.delivered) :
      InQueryOrder firebase order after := by
    rw [InQueryOrder, same.1, same.2.2]
    exact inOrder
  cases action with
  | initialChild => exact iff_of_true (InQueryOrder.initialChild held step) trivial
  | childAdded child =>
      obtain ⟨⟨_, new⟩, handled⟩ := step
      cases handled
      obtain ⟨children, listing, shown⟩ := inOrder
      have free : ∀ other ∈ before.delivered, order.position other ≠ order.position child := by
        intro other member
        apply order.position_ne
        exact fun same => new (List.mem_map.mpr ⟨other, member, same⟩)
      rw [LooksLast, ← listing.append_iff free fun child => firebase.asDictionary child.value,
        ← shown]
      exact Iff.rfl
  | setActive isActive searchText =>
      exact iff_of_true (unchanged (step_search step (by simp) (by simp))) trivial
  | editText searchText =>
      exact iff_of_true (unchanged (step_search step (by simp) (by simp))) trivial

/-- **When the search list keeps the query's order.** From any query result, along
every sequence of deliveries, additions and changes of the search, the list shows
every child delivered so far once and in the order of the query, exactly when every
child added later looks like the children that the query puts behind it. -/
theorem list_ordered_iff (firebase : Firebase) (text : SwiftText)
    (order : QueryOrder Title Key) (result : QueryResult order) (actions : List Action) :
    (machine firebase text).Along (fun _ _ after => InQueryOrder firebase order after)
        (initial result) actions ↔
      (machine firebase text).Guarded (LooksLast firebase order) (initial result) actions :=
  Machine.Along.iff_of_agree
    (fun before _ _ (held : Delivered firebase order before ∧ InQueryOrder firebase order before)
        step => inQueryOrder_step_iff held.1 held.2 step)
    (fun _ _ _ held step last =>
      ⟨held.1.step step, (inQueryOrder_step_iff held.1 held.2 step).mpr last⟩)
    ⟨delivered_initial result, inQueryOrder_initial result⟩

section LaterChild

/-- Titles and keys in the order of their characters; a child without a string title
comes first. -/
def byTitle : QueryOrder (WithBot String) String where
  title := fun title => Node.asString title
  key := id
  key_injective := Function.injective_id

/-- A fundraiser whose title comes last. -/
def walkChild : DataSnapshot where
  key := "walk"
  value := SearchedDetailsTableViewController.titledChild "Walk for life"

/-- A fundraiser whose title comes first. -/
def runChild : DataSnapshot where
  key := "run"
  value := SearchedDetailsTableViewController.titledChild "Run for life"

/-- A screen opened while there is one fundraiser. -/
def walkOnly : QueryResult byTitle where
  children := [walkChild]
  ordered := List.pairwise_singleton _ _
  distinct := List.nodup_singleton _

instance (state : State) (action : Action) :
    Decidable ((machine Firebase.byKey SearchedDetailsTableViewController.plainText).enabled
      state action) :=
  inferInstanceAs (Decidable (Enabled state action))

/-- A child added later is shown last although its title comes first. -/
theorem later_child_out_of_order :
    ¬ ∀ (firebase : Firebase) (text : SwiftText)
        (order : QueryOrder (WithBot String) String) (result : QueryResult order)
        (actions : List Action),
      (machine firebase text).Along (fun _ _ after => InQueryOrder firebase order after)
        (initial result) actions := by
  intro ordered
  have along := ordered Firebase.byKey SearchedDetailsTableViewController.plainText byTitle walkOnly
    ([.initialChild] ++ [.childAdded runChild])
  obtain ⟨before, _, children, listing, shown⟩ := along.executed (rfl : _ = some _)
  have right : Listing byTitle.position [walkChild, runChild] [runChild, walkChild] := by
    refine ⟨.swap walkChild runChild [], ?_⟩
    decide
  rw [listing.unique right] at shown
  have titles := congrArg (List.map (Option.bind ·
    SearchedDetailsTableViewController.postTitle)) shown
  exact absurd titles (by decide)

end LaterChild

end SearchList

end MyFundi
