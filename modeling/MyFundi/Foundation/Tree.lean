import Mathlib.Data.Finset.Image
import Mathlib.Data.List.Basic

/-!
# Finite trees addressed by paths

A tree holds scalars at its leaves and is addressed by lists of keys. It is
stored as the finite map from leaf paths to scalars, so an interior node without
a leaf under it does not exist: the empty tree is the absence of data, and
removing the last leaf under a node removes the node. `set` replaces the whole
subtree at a path. Placing data under a leaf turns that leaf into an interior
node, which holds no scalar of its own.
-/

namespace Foundation

variable {Key Scalar : Type}

/-- A finite tree of scalars, in which no leaf lies under another leaf. -/
structure Tree (Key Scalar : Type) where
  value : List Key → Option Scalar
  support : Finset (List Key)
  mem_support : ∀ path, path ∈ support ↔ (value path).isSome
  leaves : ∀ first second, (value first).isSome → (value second).isSome →
    first <+: second → first = second

/-- Two paths neither of which lies under the other. -/
def Incomparable (first second : List Key) : Prop :=
  ¬ first <+: second ∧ ¬ second <+: first

/-- Places apart are apart in either order. -/
theorem Incomparable.symm {first second : List Key} (apart : Incomparable first second) :
    Incomparable second first :=
  ⟨apart.2, apart.1⟩

/-- Two paths that part at some key are incomparable, however they continue. -/
theorem incomparable_append_cons (front : List Key) {left right : Key} (different : left ≠ right)
    (first second : List Key) :
    Incomparable (front ++ left :: first) (front ++ right :: second) := by
  constructor <;> intro below
  · rw [List.prefix_append_right_inj, List.cons_prefix_cons] at below
    exact different below.1
  · rw [List.prefix_append_right_inj, List.cons_prefix_cons] at below
    exact different below.1.symm

/-- No path lies under both of two incomparable paths. -/
theorem Incomparable.not_prefix {first second path : List Key}
    (apart : Incomparable first second) (under : first <+: path) : ¬ second <+: path := by
  intro other
  rcases List.prefix_or_prefix_of_prefix under other with below | below
  · exact apart.1 below
  · exact apart.2 below

namespace Tree

/-- A tree is determined by its values. -/
theorem ext_value {first second : Tree Key Scalar} (same : first.value = second.value) :
    first = second := by
  have supports : first.support = second.support := by
    ext path
    rw [first.mem_support, second.mem_support, same]
  cases first
  cases second
  cases same
  cases supports
  rfl

/-- Trees are equal when they have the same leaves with the same scalars. -/
theorem ext_leaves {first second : Tree Key Scalar} (support : first.support = second.support)
    (same : ∀ path ∈ first.support, first.value path = second.value path) : first = second := by
  apply ext_value
  funext path
  by_cases present : path ∈ first.support
  · exact same path present
  · have absent : path ∉ second.support := support ▸ present
    rw [first.mem_support, Option.not_isSome_iff_eq_none] at present
    rw [second.mem_support, Option.not_isSome_iff_eq_none] at absent
    rw [present, absent]

instance [DecidableEq Key] [DecidableEq Scalar] : DecidableEq (Tree Key Scalar) :=
  fun first second =>
    decidable_of_iff (first.support = second.support ∧
        ∀ path ∈ first.support, first.value path = second.value path)
      ⟨fun same => ext_leaves same.1 same.2, fun same => by subst same; exact ⟨rfl, fun _ _ => rfl⟩⟩

/-- The tree without data. -/
def null : Tree Key Scalar where
  value := fun _ => none
  support := ∅
  mem_support := by simp
  leaves := by simp

/-- A single scalar. -/
def leaf [DecidableEq Key] (scalar : Scalar) : Tree Key Scalar where
  value := fun path => if path = [] then some scalar else none
  support := {[]}
  mem_support := by
    intro path
    by_cases root : path = [] <;> simp [root]
  leaves := by
    intro first second some_first some_second _
    have root_first : first = [] := by by_contra other; simp [other] at some_first
    have root_second : second = [] := by by_contra other; simp [other] at some_second
    rw [root_first, root_second]

/-- Nothing is stored. -/
def IsNull (tree : Tree Key Scalar) : Prop :=
  tree.support = ∅

instance [DecidableEq Key] (tree : Tree Key Scalar) : Decidable tree.IsNull :=
  inferInstanceAs (Decidable (tree.support = ∅))

/-- An empty tree has no value anywhere. -/
theorem isNull_iff_value (tree : Tree Key Scalar) :
    tree.IsNull ↔ ∀ path, tree.value path = none := by
  unfold IsNull
  rw [Finset.eq_empty_iff_forall_notMem]
  refine forall_congr' fun path => ?_
  rw [tree.mem_support, Option.not_isSome_iff_eq_none]

/-- There is one empty tree. -/
theorem isNull_iff_eq_null (tree : Tree Key Scalar) : tree.IsNull ↔ tree = null := by
  rw [isNull_iff_value]
  constructor
  · intro empty
    exact ext_value (funext empty)
  · rintro rfl path
    rfl

@[simp] theorem isNull_null : (null : Tree Key Scalar).IsNull := rfl

variable [DecidableEq Key]

@[simp] theorem value_leaf_nil (scalar : Scalar) :
    (leaf scalar : Tree Key Scalar).value [] = some scalar := rfl

/-- A leaf holds something. -/
@[simp] theorem not_isNull_leaf (scalar : Scalar) : ¬ (leaf scalar : Tree Key Scalar).IsNull := by
  intro empty
  cases (isNull_iff_value _).mp empty []

/-- The subtree at a path. -/
def sub (tree : Tree Key Scalar) (path : List Key) : Tree Key Scalar where
  value := fun rest => tree.value (path ++ rest)
  support := (tree.support.filter (path <+: ·)).image (List.drop path.length)
  mem_support := by
    intro rest
    simp only [Finset.mem_image, Finset.mem_filter, tree.mem_support]
    constructor
    · rintro ⟨whole, ⟨present, rest, rfl⟩, rfl⟩
      rwa [List.drop_left]
    · intro present
      exact ⟨path ++ rest, ⟨present, List.prefix_append path rest⟩, List.drop_left⟩
  leaves := by
    intro first second some_first some_second below
    exact List.append_cancel_left
      (tree.leaves _ _ some_first some_second ((List.prefix_append_right_inj path).mpr below))

/-- The values of a subtree are those below its place. -/
@[simp] theorem value_sub (tree : Tree Key Scalar) (path rest : List Key) :
    (tree.sub path).value rest = tree.value (path ++ rest) := rfl

theorem sub_append (tree : Tree Key Scalar) (first second : List Key) :
    tree.sub (first ++ second) = (tree.sub first).sub second := by
  apply ext_value
  funext rest
  simp only [value_sub, List.append_assoc]

@[simp] theorem sub_null (path : List Key) : (null : Tree Key Scalar).sub path = null :=
  ext_value rfl

/-- A tree with data under one of its children has data. -/
theorem IsNull.sub {tree : Tree Key Scalar} (empty : tree.IsNull) (path : List Key) :
    (tree.sub path).IsNull := by
  rw [isNull_iff_eq_null] at empty
  rw [empty, sub_null]
  exact isNull_null

/-- Whether a leaf of the old tree survives replacing the subtree at `path`:
it must not lie under `path`, nor above it when there is data to place there. -/
def Survives (path : List Key) (placed : Tree Key Scalar) (old : List Key) : Prop :=
  ¬ path <+: old ∧ (old <+: path → placed.IsNull)

instance (path : List Key) (placed : Tree Key Scalar) (old : List Key) :
    Decidable (Survives path placed old) :=
  inferInstanceAs (Decidable (_ ∧ _))

/-- Replace the subtree at `path`. -/
def set (tree : Tree Key Scalar) (path : List Key) (placed : Tree Key Scalar) :
    Tree Key Scalar where
  value := fun query =>
    if path <+: query then placed.value (query.drop path.length)
    else if Survives path placed query then tree.value query else none
  support :=
    (tree.support.filter (Survives path placed)) ∪ placed.support.image (path ++ ·)
  mem_support := by
    intro query
    simp only [Finset.mem_union, Finset.mem_filter, Finset.mem_image, tree.mem_support,
      placed.mem_support]
    constructor
    · rintro (⟨present, survives⟩ | ⟨rest, present, rfl⟩)
      · simpa only [survives.1, survives, ↓reduceIte] using present
      · simpa only [List.prefix_append, ↓reduceIte, List.drop_left] using present
    · intro present
      by_cases under : path <+: query
      · obtain ⟨rest, rfl⟩ := under
        simp only [List.prefix_append, ↓reduceIte, List.drop_left] at present
        exact Or.inr ⟨rest, present, rfl⟩
      · by_cases survives : Survives path placed query
        · simp only [under, survives, ↓reduceIte] at present
          exact Or.inl ⟨present, survives⟩
        · simp only [under, survives, ↓reduceIte, Option.isSome_none, Bool.false_eq_true] at present
  leaves := by
    intro first second some_first some_second below
    by_cases under_first : path <+: first
    · have under_second : path <+: second := under_first.trans below
      obtain ⟨left, rfl⟩ := under_first
      obtain ⟨right, rfl⟩ := under_second
      simp only [List.prefix_append, ↓reduceIte, List.drop_left] at some_first some_second
      rw [placed.leaves left right some_first some_second
        ((List.prefix_append_right_inj path).mp below)]
    · by_cases survives_first : Survives path placed first
      · simp only [under_first, survives_first, ↓reduceIte] at some_first
        by_cases under_second : path <+: second
        · -- data is placed under the old leaf `first`, so that leaf does not survive
          have above : first <+: path := by
            rcases List.prefix_or_prefix_of_prefix below under_second with above | above
            · exact above
            · exact (under_first above).elim
          have empty := (isNull_iff_value placed).mp (survives_first.2 above)
          simp only [under_second, ↓reduceIte, empty, Option.isSome_none,
            Bool.false_eq_true] at some_second
        · by_cases survives_second : Survives path placed second
          · simp only [under_second, survives_second, ↓reduceIte] at some_second
            exact tree.leaves first second some_first some_second below
          · simp only [under_second, survives_second, ↓reduceIte, Option.isSome_none,
              Bool.false_eq_true] at some_second
      · simp only [under_first, survives_first, ↓reduceIte, Option.isSome_none,
          Bool.false_eq_true] at some_first

/-- After an assignment the values at and below its place are those placed, and elsewhere those
that survive it. -/
theorem value_set (tree placed : Tree Key Scalar) (path query : List Key) :
    (tree.set path placed).value query =
      if path <+: query then placed.value (query.drop path.length)
      else if Survives path placed query then tree.value query else none := rfl

/-- The subtree at a path just written is what was written. -/
@[simp] theorem sub_set_self (tree placed : Tree Key Scalar) (path : List Key) :
    (tree.set path placed).sub path = placed := by
  apply ext_value
  funext rest
  simp only [value_sub, value_set, List.prefix_append, ↓reduceIte, List.drop_left]

/-- Writing changes nothing outside the paths comparable to the written one. -/
theorem value_set_of_incomparable (tree placed : Tree Key Scalar) {path query : List Key}
    (apart : Incomparable path query) :
    (tree.set path placed).value query = tree.value query := by
  have survives : Survives path placed query := ⟨apart.1, fun above => (apart.2 above).elim⟩
  simp only [value_set, apart.1, survives, ↓reduceIte]

/-- An assignment changes nothing at a place apart from its own. -/
theorem sub_set_of_incomparable (tree placed : Tree Key Scalar) {path query : List Key}
    (apart : Incomparable path query) : (tree.set path placed).sub query = tree.sub query := by
  apply ext_value
  funext rest
  have further : Incomparable path (query ++ rest) := by
    refine ⟨?_, ?_⟩
    · intro below
      exact apart.symm.not_prefix (List.prefix_append query rest) below
    · intro below
      exact apart.2 ((List.prefix_append query rest).trans below)
  simp only [value_sub, value_set_of_incomparable tree placed further]

/-- Nothing is stored above or under a path. -/
def Alone (tree : Tree Key Scalar) (path : List Key) : Prop :=
  ∀ query, (tree.value query).isSome → Incomparable path query ∨ query = path

omit [DecidableEq Key] in
/-- Nothing is stored above or under a scalar. -/
theorem alone_of_isSome {tree : Tree Key Scalar} {path : List Key}
    (present : (tree.value path).isSome) : tree.Alone path := by
  intro query stored
  by_cases apart : Incomparable path query
  · exact Or.inl apart
  · right
    rw [Incomparable, not_and_or, not_not, not_not] at apart
    rcases apart with below | above
    · exact (tree.leaves path query present stored below).symm
    · exact tree.leaves query path stored present above

/-- Placing at most a scalar at a path with nothing above or under it changes nothing
else. -/
theorem value_set_of_alone {tree placed : Tree Key Scalar} {path : List Key}
    (alone : tree.Alone path) (scalar : ∀ rest, (placed.value rest).isSome → rest = [])
    (query : List Key) :
    (tree.set path placed).value query =
      if query = path then placed.value [] else tree.value query := by
  rw [value_set]
  by_cases same : query = path
  · subst same
    rw [if_pos List.prefix_rfl, if_pos rfl, List.drop_length]
  · have elsewhere (comparable : ¬ Incomparable path query) : tree.value query = none := by
      by_contra stored
      rcases alone query (Option.isSome_iff_ne_none.mpr stored) with apart | equal
      · exact comparable apart
      · exact same equal
    rw [if_neg same]
    split
    · rename_i under
      rw [elsewhere fun apart => apart.1 under]
      obtain ⟨rest, rfl⟩ := under
      rw [List.drop_left]
      by_contra stored
      rw [scalar rest (Option.isSome_iff_ne_none.mpr stored), List.append_nil] at same
      exact same rfl
    · rename_i outside
      split
      · rfl
      · rename_i replaced
        rw [elsewhere]
        intro apart
        exact replaced ⟨outside, fun above => (apart.2 above).elim⟩

/-- Every scalar stored is good at its path. -/
def Everywhere (good : List Key → Scalar → Prop) (tree : Tree Key Scalar) : Prop :=
  ∀ path scalar, tree.value path = some scalar → good path scalar

omit [DecidableEq Key] in
/-- An empty tree has no value that could be bad. -/
theorem Everywhere.null {good : List Key → Scalar → Prop} :
    (null : Tree Key Scalar).Everywhere good := by
  intro path scalar stored
  cases stored

/-- A leaf has one value. -/
theorem everywhere_leaf_iff {good : List Key → Scalar → Prop} {scalar : Scalar} :
    (leaf scalar).Everywhere good ↔ good [] scalar := by
  constructor
  · exact fun all => all [] scalar (value_leaf_nil scalar)
  · intro root path other stored
    simp only [leaf, Option.ite_none_right_eq_some, Option.some.injEq] at stored
    obtain ⟨rfl, rfl⟩ := stored
    exact root

/-- Scalars that are good where they are placed leave good scalars everywhere. -/
theorem Everywhere.set {good : List Key → Scalar → Prop} {tree placed : Tree Key Scalar}
    {path : List Key} (all : tree.Everywhere good)
    (new : placed.Everywhere fun rest => good (path ++ rest)) :
    (tree.set path placed).Everywhere good := by
  intro query scalar stored
  rw [value_set] at stored
  split at stored
  · rename_i under
    obtain ⟨rest, rfl⟩ := under
    rw [List.drop_left] at stored
    exact new rest scalar stored
  · split at stored
    · exact all query scalar stored
    · cases stored

/-- Writes at incomparable paths commute. -/
theorem set_comm (tree first second : Tree Key Scalar) {left right : List Key}
    (apart : Incomparable left right) :
    (tree.set left first).set right second = (tree.set right second).set left first := by
  apply ext_value
  funext query
  by_cases under_left : left <+: query
  · have outside : ¬ right <+: query := apart.not_prefix under_left
    have survives : Survives right second query :=
      ⟨outside, fun above => (apart.1 (under_left.trans above)).elim⟩
    simp only [value_set, under_left, outside, survives, ↓reduceIte]
  · by_cases under_right : right <+: query
    · have survives : Survives left first query :=
        ⟨under_left, fun above => (apart.2 (under_right.trans above)).elim⟩
      simp only [value_set, under_left, under_right, survives, ↓reduceIte]
    · simp only [value_set, under_left, under_right, ↓reduceIte]
      by_cases survives_left : Survives left first query <;>
        by_cases survives_right : Survives right second query <;>
          simp only [survives_left, survives_right, ↓reduceIte]

end Tree

end Foundation
