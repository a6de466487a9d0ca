import Mathlib.Data.List.Sort
import Mathlib.Data.Prod.Lex
import Mathlib.Order.Lattice

/-!
# Items listed by position

A list that holds given items, each once and in increasing position, is determined
by the items. Adding an item splits the list at its position; a list that is extended
at the end instead shows the right images exactly when the items behind the new one
look like it (`Listing.append_iff`).
-/

namespace Foundation

variable {Item Position : Type} [LinearOrder Position]

/-- `listed` holds the items, each once, in increasing position. -/
structure Listing (position : Item → Position) (items listed : List Item) : Prop where
  perm : listed.Perm items
  increasing : listed.Pairwise fun first second => position first < position second

/-- The same list with an element moved from the end to the front. -/
theorem append_singleton_eq_cons_iff {α : Type} (list : List α) (element : α) :
    list ++ [element] = element :: list ↔ ∀ other ∈ list, other = element := by
  induction list with
  | nil => simp
  | cons first rest ih =>
      rw [List.cons_append, List.cons.injEq, List.forall_mem_cons]
      apply and_congr_right
      rintro rfl
      exact ih

/-- Items in increasing position are those before a free position and those after. -/
theorem eq_filter_append_filter {position : Item → Position} {listed : List Item}
    (increasing : listed.Pairwise fun first second => position first < position second)
    {place : Position} (free : ∀ other ∈ listed, position other ≠ place) :
    listed = listed.filter (position · < place) ++ listed.filter (place < position ·) := by
  induction listed with
  | nil => rfl
  | cons first rest ih =>
      rw [List.pairwise_cons] at increasing
      rw [List.forall_mem_cons] at free
      rcases lt_or_gt_of_ne free.1 with below | above
      · rw [List.filter_cons_of_pos (by simpa using below),
          List.filter_cons_of_neg (by simpa using below.le), List.cons_append,
          ← ih increasing.2 free.2]
      · have after : ∀ other ∈ first :: rest, place < position other := by
          rw [List.forall_mem_cons]
          exact ⟨above, fun other member => above.trans (increasing.1 other member)⟩
        have none : (first :: rest).filter (position · < place) = [] := by
          rw [List.filter_eq_nil_iff]
          intro other member
          simpa using (after other member).le
        have all : (first :: rest).filter (place < position ·) = first :: rest := by
          rw [List.filter_eq_self]
          intro other member
          simpa using after other member
        rw [none, all, List.nil_append]

namespace Listing

variable {position : Item → Position} {items listed : List Item}

theorem nil : Listing position [] [] :=
  ⟨.nil, .nil⟩

/-- Items are listed in one way. -/
theorem unique {other : List Item} (left : Listing position items listed)
    (right : Listing position items other) : listed = other := by
  apply (left.perm.trans right.perm.symm).eq_of_pairwise _ left.increasing right.increasing
  intro first second _ _ before after
  exact (lt_asymm before after).elim

/-- Place an item at its position. -/
theorem insert (listing : Listing position items listed) {item : Item}
    (free : ∀ other ∈ items, position other ≠ position item) :
    Listing position (items ++ [item])
      (listed.filter (position · < position item) ++
        item :: listed.filter (position item < position ·)) := by
  have split := eq_filter_append_filter listing.increasing
    fun other member => free other (listing.perm.mem_iff.mp member)
  refine ⟨?_, ?_⟩
  · refine List.perm_middle.trans ((List.Perm.cons item ?_).trans (List.perm_append_singleton ..).symm)
    rw [← split]
    exact listing.perm
  · rw [List.pairwise_append, List.pairwise_cons]
    refine ⟨listing.increasing.filter _, ⟨?_, listing.increasing.filter _⟩, ?_⟩
    · intro other after
      exact of_decide_eq_true (List.mem_filter.mp after).2
    · intro first before second after
      have below : position first < position item :=
        of_decide_eq_true (List.mem_filter.mp before).2
      rcases List.mem_cons.mp after with rfl | after
      · exact below
      · exact below.trans (of_decide_eq_true (List.mem_filter.mp after).2)

/-- Showing a new item at the end shows the right images exactly when every item
behind it has the image of the new one. -/
theorem append_iff {Image : Type} (listing : Listing position items listed) {item : Item}
    (free : ∀ other ∈ items, position other ≠ position item) (image : Item → Image) :
    (∃ final, Listing position (items ++ [item]) final ∧
        listed.map image ++ [image item] = final.map image) ↔
      ∀ other ∈ items, position item < position other → image other = image item := by
  have inserted := listing.insert free
  have split := eq_filter_append_filter listing.increasing
    fun other member => free other (listing.perm.mem_iff.mp member)
  have shown : (∃ final, Listing position (items ++ [item]) final ∧
      listed.map image ++ [image item] = final.map image) ↔
        (listed.filter (position item < position ·)).map image ++ [image item] =
          image item :: (listed.filter (position item < position ·)).map image := by
    rw [← List.append_right_inj ((listed.filter (position · < position item)).map image),
      ← List.append_assoc, ← List.map_append, ← split, ← List.map_cons, ← List.map_append]
    constructor
    · rintro ⟨final, right, same⟩
      rw [same, right.unique inserted]
    · intro same
      exact ⟨_, inserted, same⟩
  rw [shown, append_singleton_eq_cons_iff]
  simp only [List.forall_mem_map, List.mem_filter, decide_eq_true_eq, and_imp,
    listing.perm.mem_iff]

end Listing

end Foundation
