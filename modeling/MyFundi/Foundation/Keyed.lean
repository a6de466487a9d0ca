import Mathlib.Data.List.Nodup

/-!
# Items with distinct keys

A list whose items have distinct keys holds at most one item for each key. Adding an item
with a new key, changing items without changing their keys and dropping items all keep the
keys distinct, and `get` says what each does to the item of a key.
-/

namespace Foundation

variable {Item Key : Type}

/-- Items with distinct keys, in the order in which they were added. -/
structure Keyed (key : Item → Key) where
  items : List Item
  nodup : (items.map key).Nodup

namespace Keyed

variable {key : Item → Key}

/-- No items. -/
def empty : Keyed key where
  items := []
  nodup := List.nodup_nil

/-- One more item, under a new key. -/
def insert (keyed : Keyed key) (item : Item) (fresh : key item ∉ keyed.items.map key) :
    Keyed key where
  items := keyed.items ++ [item]
  nodup := by
    rw [List.map_append, List.map_singleton, List.nodup_append]
    refine ⟨keyed.nodup, List.nodup_singleton _, ?_⟩
    intro first present second added same
    cases List.mem_singleton.mp added
    exact fresh (same ▸ present)

/-- A change that keeps the keys. -/
def modify (keyed : Keyed key) (change : Item → Item) (kept : ∀ item, key (change item) = key item) :
    Keyed key where
  items := keyed.items.map change
  nodup := by
    rw [List.map_map, show key ∘ change = key from funext kept]
    exact keyed.nodup

/-- The items to keep. -/
def filter (keyed : Keyed key) (keep : Item → Bool) : Keyed key where
  items := keyed.items.filter keep
  nodup := keyed.nodup.sublist (List.filter_sublist.map key)

/-- A search for an item of one key finds the item. -/
theorem find_eq_some_iff (keyed : Keyed key) {matching : Item → Bool} {name : Key}
    (named : ∀ item, matching item = true → key item = name) {item : Item} :
    keyed.items.find? matching = some item ↔ item ∈ keyed.items ∧ matching item = true := by
  constructor
  · intro found
    exact ⟨List.mem_of_find?_eq_some found, List.find?_some found⟩
  · rintro ⟨member, fits⟩
    cases found : keyed.items.find? matching with
    | none => exact absurd fits (List.find?_eq_none.mp found item member)
    | some other =>
        have same : key other = key item :=
          (named other (List.find?_some found)).trans (named item fits).symm
        rw [List.inj_on_of_nodup_map keyed.nodup (List.mem_of_find?_eq_some found) member same]

variable [DecidableEq Key]

/-- The item under a key, if there is one. -/
def get (keyed : Keyed key) (name : Key) : Option Item :=
  keyed.items.find? (key · = name)

/-- An item is got by its key, as keys are distinct. -/
theorem get_eq_some_iff {keyed : Keyed key} {name : Key} {item : Item} :
    keyed.get name = some item ↔ item ∈ keyed.items ∧ key item = name := by
  rw [get, keyed.find_eq_some_iff fun item fits => of_decide_eq_true fits, decide_eq_true_eq]

theorem get_eq_none_iff {keyed : Keyed key} {name : Key} :
    keyed.get name = none ↔ name ∉ keyed.items.map key := by
  rw [get, List.find?_eq_none, List.mem_map, not_exists]
  exact forall_congr' fun item => by simp

/-- A new item is that of its key. -/
theorem get_insert (keyed : Keyed key) (item : Item) (fresh : key item ∉ keyed.items.map key)
    (name : Key) :
    (keyed.insert item fresh).get name = if key item = name then some item else keyed.get name := by
  rw [get, insert, List.find?_append, List.find?_singleton]
  by_cases same : key item = name
  · subst same
    rw [if_pos rfl, show keyed.items.find? _ = none from get_eq_none_iff.mpr fresh]
    simp
  · rw [if_neg same]
    simp [same, get]

/-- A change is a change of the item under each key. -/
theorem get_modify (keyed : Keyed key) (change : Item → Item)
    (kept : ∀ item, key (change item) = key item) (name : Key) :
    (keyed.modify change kept).get name = (keyed.get name).map change := by
  rw [get, modify, List.find?_map]
  simp only [Function.comp_def, kept]
  rfl

/-- What is kept is kept under its key. -/
theorem get_filter (keyed : Keyed key) (keep : Item → Bool) (name : Key) :
    (keyed.filter keep).get name = (keyed.get name).filter keep := by
  ext item
  rw [get_eq_some_iff, Option.filter_eq_some_iff, get_eq_some_iff, filter, List.mem_filter]
  exact ⟨fun ⟨⟨member, kept⟩, named⟩ => ⟨⟨member, named⟩, kept⟩,
    fun ⟨⟨member, named⟩, kept⟩ => ⟨⟨member, kept⟩, named⟩⟩

/-- A search that asks for one key finds what is under it, if that matches. -/
theorem find_eq (keyed : Keyed key) {matching : Item → Bool} {name : Key}
    (named : ∀ item, matching item = true → key item = name) :
    keyed.items.find? matching = (keyed.get name).filter matching := by
  ext item
  rw [keyed.find_eq_some_iff named, Option.filter_eq_some_iff, get_eq_some_iff]
  exact ⟨fun ⟨member, fits⟩ => ⟨⟨member, named item fits⟩, fits⟩,
    fun ⟨⟨member, _⟩, fits⟩ => ⟨member, fits⟩⟩

end Keyed

end Foundation
