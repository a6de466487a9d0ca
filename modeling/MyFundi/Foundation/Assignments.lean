import MyFundi.Foundation.Tree

/-!
# Sequences of writes to a tree

Writes are applied one at a time. When any two of them go to the same path or to
incomparable paths, the tree they leave holds at each written path the data of
the last write made there (`Tree.sub_applyAll`), and depends on the order of the
writes only through their order at each single path (`Tree.applyAll_congr`).
-/

namespace Foundation

variable {Key Scalar : Type}

/-- Place a subtree at a path; placing the empty tree removes what is there. -/
structure Assignment (Key Scalar : Type) where
  path : List Key
  placed : Tree Key Scalar

/-- Any two of the writes go to the same path or to incomparable paths. -/
def Separate (writes : List (Assignment Key Scalar)) : Prop :=
  ∀ first ∈ writes, ∀ second ∈ writes,
    first.path = second.path ∨ Incomparable first.path second.path

variable [DecidableEq Key]

/-- The writes made to one path, in order. -/
def writesAt (path : List Key) (writes : List (Assignment Key Scalar)) :
    List (Assignment Key Scalar) :=
  writes.filter (·.path = path)

/-- The data of the last write made to a path, if there is one. -/
def latest (path : List Key) (writes : List (Assignment Key Scalar)) :
    Option (Tree Key Scalar) :=
  (writesAt path writes).getLast?.map Assignment.placed

theorem mem_writesAt {path : List Key} {writes : List (Assignment Key Scalar)}
    {write : Assignment Key Scalar} :
    write ∈ writesAt path writes ↔ write ∈ writes ∧ write.path = path := by
  simp only [writesAt, List.mem_filter, decide_eq_true_eq]

/-- The latest of two batches is that of the second, if it has one. -/
theorem latest_append (path : List Key) (front rest : List (Assignment Key Scalar)) :
    latest path (front ++ rest) = (latest path rest).or (latest path front) := by
  simp only [latest, writesAt, List.filter_append, List.getLast?_append]
  cases (rest.filter (·.path = path)).getLast? <;> simp

theorem latest_singleton (path : List Key) (write : Assignment Key Scalar) :
    latest path [write] = if write.path = path then some write.placed else none := by
  by_cases here : write.path = path <;> simp [latest, writesAt, here]

/-- Leaving out entries that do not write to a path leaves the writes to it. -/
theorem writesAt_flatMap_filter {Entry : Type} {path : List Key} {entries : List Entry}
    {issue : Entry → List (Assignment Key Scalar)} {kept : Entry → Bool}
    (away : ∀ entry ∈ entries, kept entry = false → ∀ write ∈ issue entry, write.path ≠ path) :
    writesAt path ((entries.filter kept).flatMap issue) = writesAt path (entries.flatMap issue) := by
  induction entries with
  | nil => rfl
  | cons entry rest ih =>
      rw [List.forall_mem_cons] at away
      have later := ih away.2
      simp only [writesAt] at later ⊢
      cases keep : kept entry with
      | true =>
          rw [List.filter_cons_of_pos keep, List.flatMap_cons, List.flatMap_cons,
            List.filter_append, List.filter_append, later]
      | false =>
          have none : (issue entry).filter (·.path = path) = [] := by
            rw [List.filter_eq_nil_iff]
            intro write member
            exact fun here => away.1 keep write member (of_decide_eq_true here)
          rw [List.filter_cons_of_neg (by simp [keep]), List.flatMap_cons, List.filter_append, none,
            List.nil_append, later]

/-- Every scalar that a write places is good where it goes. -/
def Assignment.Places (good : List Key → Scalar → Prop) (write : Assignment Key Scalar) : Prop :=
  write.placed.Everywhere fun rest => good (write.path ++ rest)

namespace Tree

/-- Apply the writes one at a time. -/
def applyAll (tree : Tree Key Scalar) (writes : List (Assignment Key Scalar)) :
    Tree Key Scalar :=
  writes.foldl (fun current write => current.set write.path write.placed) tree

@[simp] theorem applyAll_nil (tree : Tree Key Scalar) : tree.applyAll [] = tree := rfl

@[simp] theorem applyAll_cons (tree : Tree Key Scalar) (write : Assignment Key Scalar)
    (writes : List (Assignment Key Scalar)) :
    tree.applyAll (write :: writes) = (tree.set write.path write.placed).applyAll writes := rfl

theorem applyAll_append (tree : Tree Key Scalar) (front rest : List (Assignment Key Scalar)) :
    tree.applyAll (front ++ rest) = (tree.applyAll front).applyAll rest := by
  simp only [applyAll, List.foldl_append]

/-- Good values stay good if only good ones are placed. -/
theorem Everywhere.applyAll {good : List Key → Scalar → Prop} {tree : Tree Key Scalar}
    {writes : List (Assignment Key Scalar)} (all : tree.Everywhere good)
    (new : ∀ write ∈ writes, write.Places good) : (tree.applyAll writes).Everywhere good := by
  induction writes generalizing tree with
  | nil => exact all
  | cons write writes ih =>
      rw [List.forall_mem_cons] at new
      exact ih (all.set new.1) new.2

/-- Writes elsewhere leave a subtree unchanged. -/
theorem sub_applyAll_of_incomparable (tree : Tree Key Scalar) {path : List Key}
    {writes : List (Assignment Key Scalar)}
    (apart : ∀ write ∈ writes, Incomparable write.path path) :
    (tree.applyAll writes).sub path = tree.sub path := by
  induction writes generalizing tree with
  | nil => rfl
  | cons write writes ih =>
      rw [applyAll_cons, ih _ fun later member => apart later (List.mem_cons_of_mem _ member)]
      exact sub_set_of_incomparable tree write.placed (apart write List.mem_cons_self)

/-- A write may be applied before earlier writes to incomparable paths. -/
theorem applyAll_move (tree : Tree Key Scalar) (write : Assignment Key Scalar)
    (front rest : List (Assignment Key Scalar))
    (apart : ∀ earlier ∈ front, Incomparable earlier.path write.path) :
    tree.applyAll (front ++ write :: rest) = tree.applyAll (write :: front ++ rest) := by
  induction front generalizing tree with
  | nil => rfl
  | cons first front ih =>
      have swapped := ih (tree.set first.path first.placed)
        fun earlier member => apart earlier (List.mem_cons_of_mem _ member)
      simp only [List.cons_append, applyAll_cons] at swapped ⊢
      rw [swapped, set_comm tree _ _ (apart first List.mem_cons_self)]

/-- **Last write wins.** At a path to which every write goes exactly or from
which it stays apart, the tree holds the data of the last write made there, or
what it held before. -/
theorem sub_applyAll (tree : Tree Key Scalar) (path : List Key)
    {writes : List (Assignment Key Scalar)}
    (apart : ∀ write ∈ writes, write.path = path ∨ Incomparable write.path path) :
    (tree.applyAll writes).sub path = (latest path writes).getD (tree.sub path) := by
  induction writes using List.reverseRecOn with
  | nil => rfl
  | append_singleton writes write ih =>
      rw [applyAll_append, latest_append, latest_singleton]
      have earlier := ih fun other member => apart other (List.mem_append_left _ member)
      rcases apart write (List.mem_append_right _ (List.mem_singleton_self write)) with here | away
      · subst here
        simp only [applyAll_cons, applyAll_nil, sub_set_self, ↓reduceIte, Option.some_or,
          Option.getD_some]
      · have different : write.path ≠ path := by
          intro same
          exact away.1 (same ▸ List.prefix_rfl)
        simp only [applyAll_cons, applyAll_nil, sub_set_of_incomparable _ _ away, different,
          ↓reduceIte, Option.none_or]
        exact earlier

/-- A path under which writes go, but not itself under a written path, keeps its
scalar until data is placed under it. -/
theorem value_applyAll_above (tree : Tree Key Scalar) {query : List Key}
    {writes : List (Assignment Key Scalar)} (above : ∀ write ∈ writes, ¬ write.path <+: query) :
    (tree.applyAll writes).value query =
      if ∀ write ∈ writes, query <+: write.path → write.placed.IsNull then tree.value query
      else none := by
  induction writes generalizing tree with
  | nil => simp
  | cons write writes ih =>
      have outside := above write List.mem_cons_self
      rw [applyAll_cons, ih _ fun later member => above later (List.mem_cons_of_mem _ member),
        value_set]
      simp only [outside, ↓reduceIte, Survives, not_false_eq_true, true_and, List.forall_mem_cons]
      split_ifs <;> tauto

/-- In a tree built from nothing, every scalar lies under a written path. -/
theorem exists_write_of_value {writes : List (Assignment Key Scalar)} {query : List Key}
    (present : ((null : Tree Key Scalar).applyAll writes).value query ≠ none) :
    ∃ write ∈ writes, write.path <+: query := by
  by_contra outside
  push Not at outside
  rw [value_applyAll_above null outside] at present
  exact present (ite_self _)

/-- Lists with the same assignments to every place have the same assignments. -/
theorem mem_of_writesAt_eq {first second : List (Assignment Key Scalar)}
    (same : ∀ path, writesAt path first = writesAt path second)
    {write : Assignment Key Scalar} (member : write ∈ first) : write ∈ second := by
  have present : write ∈ writesAt write.path first := mem_writesAt.mpr ⟨member, rfl⟩
  rw [same] at present
  exact (mem_writesAt.mp present).1

/-- **Only the order at each path matters.** Two sequences of separate writes
that make the same writes to each path in the same order leave the same tree. -/
theorem applyAll_congr (tree : Tree Key Scalar) {first second : List (Assignment Key Scalar)}
    (separate : Separate first) (same : ∀ path, writesAt path first = writesAt path second) :
    tree.applyAll first = tree.applyAll second := by
  have back {write} (member : write ∈ second) : write ∈ first :=
    mem_of_writesAt_eq (fun path => (same path).symm) member
  apply ext_value
  funext query
  by_cases under : ∃ write ∈ first, write.path <+: query
  · obtain ⟨write, member, rest, rfl⟩ := under
    have left := sub_applyAll tree write.path
      fun other inside => separate other inside write member
    have right := sub_applyAll tree write.path
      fun other inside => separate other (back inside) write member
    have equal : (tree.applyAll first).sub write.path = (tree.applyAll second).sub write.path := by
      rw [left, right, latest, latest, same]
    exact congrArg (fun found : Tree Key Scalar => found.value rest) equal
  · have outside : ∀ write ∈ first, ¬ write.path <+: query :=
      fun write member below => under ⟨write, member, below⟩
    rw [value_applyAll_above tree outside,
      value_applyAll_above tree fun write member => outside write (back member)]
    refine if_congr ?_ rfl rfl
    exact ⟨fun all write member => all write (back member),
      fun all write member => all write (mem_of_writesAt_eq same member)⟩

end Tree

end Foundation
