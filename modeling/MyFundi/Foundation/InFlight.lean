import Mathlib.Data.List.Nodup

/-!
# Requests in flight

Requests that have been started and not yet answered. Each gets a ticket when it is
started, in increasing order, and may be answered at any time and in any order, but
only once: a settled ticket stays settled.
-/

namespace Foundation

universe u

/-- The requests waiting, under the tickets they were issued with. -/
structure InFlight (Request : Type u) where
  issued : Nat
  waiting : List (Nat × Request)
  waiting_issued : ∀ entry ∈ waiting, entry.1 < issued
  distinct : (waiting.map Prod.fst).Nodup

namespace InFlight

variable {Request : Type u}

/-- Nothing has been started. -/
def empty : InFlight Request where
  issued := 0
  waiting := []
  waiting_issued := by simp
  distinct := List.nodup_nil

variable (requests : InFlight Request)

/-- Start a request, under the next ticket. -/
def start (request : Request) : InFlight Request where
  issued := requests.issued + 1
  waiting := requests.waiting ++ [(requests.issued, request)]
  waiting_issued := by
    intro entry member
    rcases List.mem_append.mp member with old | new
    · exact Nat.lt_succ_of_lt (requests.waiting_issued entry old)
    · cases List.mem_singleton.mp new
      exact Nat.lt_succ_self _
  distinct := by
    rw [List.map_append, List.nodup_append]
    refine ⟨requests.distinct, by simp, ?_⟩
    intro ticket old other new same
    obtain ⟨entry, member, rfl⟩ := List.mem_map.mp old
    cases List.mem_singleton.mp new
    exact Nat.ne_of_lt (requests.waiting_issued entry member) same

/-- The unanswered request with a ticket. -/
def find (ticket : Nat) : Option Request :=
  (requests.waiting.find? (·.1 = ticket)).map Prod.snd

/-- Answer a request. -/
def finish (ticket : Nat) : InFlight Request where
  issued := requests.issued
  waiting := requests.waiting.filter (·.1 ≠ ticket)
  waiting_issued := fun entry member =>
    requests.waiting_issued entry (List.mem_of_mem_filter member)
  distinct := requests.distinct.sublist (List.filter_sublist.map _)

/-- The request with this ticket has been answered. -/
def Settled (ticket : Nat) : Prop :=
  ticket < requests.issued ∧ requests.find ticket = none

@[simp] theorem issued_finish (ticket : Nat) :
    (requests.finish ticket).issued = requests.issued := rfl

variable {requests}

/-- A ticket finds the request it was issued for, as tickets are distinct. -/
theorem find_eq_some_iff {ticket : Nat} {request : Request} :
    requests.find ticket = some request ↔ (ticket, request) ∈ requests.waiting := by
  rw [find, Option.map_eq_some_iff]
  constructor
  · rintro ⟨⟨found, request⟩, first, rfl⟩
    have same : found = ticket := by simpa using List.find?_some first
    rw [← same]
    exact List.mem_of_find?_eq_some first
  · intro member
    cases first : requests.waiting.find? (·.1 = ticket) with
    | none =>
        have all := List.find?_eq_none.mp first (ticket, request) member
        exact (all (decide_eq_true rfl)).elim
    | some entry =>
        have same : entry.1 = ticket := by simpa using List.find?_some first
        have equal := List.inj_on_of_nodup_map requests.distinct
          (List.mem_of_find?_eq_some first) member same
        exact ⟨entry, rfl, congrArg Prod.snd equal⟩

/-- A request found has been issued. -/
theorem lt_issued_of_find {ticket : Nat} {request : Request}
    (found : requests.find ticket = some request) : ticket < requests.issued :=
  requests.waiting_issued _ (find_eq_some_iff.mp found)

/-- A new request is found under its own ticket. -/
theorem find_start (request : Request) (ticket : Nat) :
    (requests.start request).find ticket =
      if ticket = requests.issued then some request else requests.find ticket := by
  split
  · rename_i same
    rw [find_eq_some_iff, same]
    exact List.mem_append_right _ List.mem_cons_self
  · rename_i different
    have away : ¬ requests.issued = ticket := fun same => different same.symm
    simp only [find, start, List.find?_append, List.find?_cons, away, decide_false, List.find?_nil,
      Option.or_none]

theorem find_finish (ticket other : Nat) :
    (requests.finish ticket).find other = if other = ticket then none else requests.find other := by
  apply Option.ext
  intro request
  rw [find_eq_some_iff, finish, List.mem_filter]
  split
  · rename_i same
    simp [same]
  · rename_i different
    simp [find_eq_some_iff, different]

/-- What is found after an answer was there before it. -/
theorem find_of_find_finish {ticket other : Nat} {request : Request}
    (found : (requests.finish ticket).find other = some request) :
    requests.find other = some request ∧ other ≠ ticket := by
  rw [find_finish] at found
  split at found
  · cases found
  · rename_i different
    exact ⟨found, different⟩

namespace Settled

variable {ticket : Nat}

/-- A new request gets another ticket than a settled one. -/
theorem start (settled : requests.Settled ticket) (request : Request) :
    (requests.start request).Settled ticket := by
  refine ⟨Nat.lt_succ_of_lt settled.1, ?_⟩
  rw [find_start, if_neg (Nat.ne_of_lt settled.1), settled.2]

/-- An answer settles no ticket anew. -/
theorem finish (settled : requests.Settled ticket) (other : Nat) :
    (requests.finish other).Settled ticket := by
  refine ⟨settled.1, ?_⟩
  rw [find_finish, settled.2, ite_self]

/-- An answered request is settled. -/
theorem of_finish {request : Request} (found : requests.find ticket = some request) :
    (requests.finish ticket).Settled ticket := by
  refine ⟨?_, ?_⟩
  · rw [issued_finish]
    exact lt_issued_of_find found
  · rw [find_finish, if_pos rfl]

end Settled

end InFlight

end Foundation
