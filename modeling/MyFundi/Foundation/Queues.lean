import Mathlib.Algebra.Order.Group.Multiset
import Mathlib.Tactic.Abel

/-!
# Queues of subscribers

Every subscriber has a queue of undelivered events, the oldest first. An event for all is
added to every queue, and a delivery takes the first event of one. What is undelivered, as
a multiset, says what the subscribers are still to be given, whatever the order. Where one
list holds the queues of several subscribers, `filter` gives that of one.
-/

namespace Foundation

variable {Event : Type}

/-- The events of all queues, in no order. -/
def undelivered (queues : List (List Event)) : Multiset Event :=
  (queues.map Multiset.ofList).sum

theorem undelivered_cons (queue : List Event) (queues : List (List Event)) :
    undelivered (queue :: queues) = queue + undelivered queues :=
  List.sum_cons

/-- A delivery takes one event. -/
theorem undelivered_set {queues : List (List Event)} {index : Nat} {event : Event}
    {rest : List Event} (waiting : queues[index]? = some (event :: rest)) :
    undelivered queues = event ::ₘ undelivered (queues.set index rest) := by
  induction queues generalizing index with
  | nil => cases waiting
  | cons queue queues ih =>
      cases index with
      | zero =>
          cases Option.some.inj waiting
          rw [List.set_cons_zero, undelivered_cons, undelivered_cons, ← Multiset.cons_coe,
            Multiset.cons_add]
      | succ index =>
          rw [List.getElem?_cons_succ] at waiting
          rw [List.set_cons_succ, undelivered_cons, undelivered_cons, ih waiting,
            Multiset.add_cons]

/-- An event for all is added once for each subscriber. -/
theorem undelivered_broadcast (queues : List (List Event)) (event : Event) :
    undelivered (queues.map (· ++ [event])) = undelivered queues + queues.length • {event} := by
  induction queues with
  | nil => rfl
  | cons queue queues ih =>
      rw [List.map_cons, undelivered_cons, undelivered_cons, ih, ← Multiset.coe_add,
        Multiset.coe_singleton, List.length_cons, succ_nsmul]
      abel

/-- Empty queues hold no event. -/
theorem undelivered_of_settled {queues : List (List Event)} (settled : ∀ queue ∈ queues, queue = []) :
    undelivered queues = 0 := by
  induction queues with
  | nil => rfl
  | cons queue queues ih =>
      rw [List.forall_mem_cons] at settled
      rw [undelivered_cons, settled.1, ih settled.2]
      rfl

section Shared

variable {list : List Event} {index : Nat} {event : Event} {mine : Event → Bool}

/-- An element divides its list. -/
theorem split_of_getElem? (found : list[index]? = some event) :
    list = list.take index ++ event :: list.drop (index + 1) := by
  obtain ⟨bound, rfl⟩ := List.getElem?_eq_some_iff.mp found
  rw [← List.drop_eq_getElem_cons bound, List.take_append_drop]

/-- Taking an event before the newest one leaves the newest. -/
theorem getLast?_eraseIdx (later : index + 1 < list.length) :
    (list.eraseIdx index).getLast? = list.getLast? := by
  have some : list.drop (index + 1) ≠ [] := by
    rw [ne_eq, List.drop_eq_nil_iff]
    exact Nat.not_le.mpr later
  conv_rhs => rw [← List.take_append_drop (index + 1) list]
  rw [List.eraseIdx_eq_take_drop_succ, List.getLast?_append_of_ne_nil _ some,
    List.getLast?_append_of_ne_nil _ some]

/-- Taking an event of another queue takes none of this one. -/
theorem filter_eraseIdx_of_neg (found : list[index]? = some event) (other : mine event = false) :
    (list.eraseIdx index).filter mine = list.filter mine := by
  conv_rhs => rw [split_of_getElem? found]
  rw [List.eraseIdx_eq_take_drop_succ, List.filter_append, List.filter_append,
    List.filter_cons_of_neg (by simp [other])]

/-- Taking an event with no earlier one of its queue takes the first of the queue. -/
theorem filter_eq_cons_eraseIdx (found : list[index]? = some event) (own : mine event = true)
    (first : ∀ earlier ∈ list.take index, mine earlier = false) :
    list.filter mine = event :: (list.eraseIdx index).filter mine := by
  have none : (list.take index).filter mine = [] := by
    rw [List.filter_eq_nil_iff]
    intro earlier member
    simp [first earlier member]
  conv_lhs => rw [split_of_getElem? found]
  rw [List.eraseIdx_eq_take_drop_succ, List.filter_append, List.filter_append, none,
    List.filter_cons_of_pos own, List.nil_append, List.nil_append]

end Shared

end Foundation
