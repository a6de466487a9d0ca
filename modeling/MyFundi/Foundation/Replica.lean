import MyFundi.Foundation.Assignments

/-!
# A tree with several writers

Every owner writes to one tree in batches. A batch shows in what its owner sees as
soon as it is issued, and reaches the tree some time later, the batches of one owner in
the order in which they were issued. The tree left once every batch is applied does not
depend on that order when batches of different owners go to different places
(`Serves.settled`), and a rule that every write satisfied when it was issued is
satisfied by the tree it meets when it is applied (`Ordered.serves`).
-/

namespace Foundation

variable {Owner Key Scalar : Type}

/-- A stored tree, with the batches issued and not yet applied to it, in the order in
which they were issued. -/
structure Replica (Owner Key Scalar : Type) where
  tree : Tree Key Scalar
  pending : List (Owner × List (Assignment Key Scalar))

variable [DecidableEq Key]

namespace Tree

/-- A write changes the subtree at a path in a way that depends on that subtree only. -/
theorem sub_set_congr {first second : Tree Key Scalar} {path : List Key}
    (same : first.sub path = second.sub path) (written : List Key) (placed : Tree Key Scalar) :
    (first.set written placed).sub path = (second.set written placed).sub path := by
  apply ext_value
  funext rest
  have kept : first.value (path ++ rest) = second.value (path ++ rest) :=
    congrArg (fun found : Tree Key Scalar => found.value rest) same
  rw [value_sub, value_sub, value_set, value_set, kept]

/-- Assignments make the same of a place in trees that agree there. -/
theorem sub_applyAll_congr {first second : Tree Key Scalar} {path : List Key}
    (same : first.sub path = second.sub path) (writes : List (Assignment Key Scalar)) :
    (first.applyAll writes).sub path = (second.applyAll writes).sub path := by
  induction writes generalizing first second with
  | nil => exact same
  | cons write writes ih => exact ih (sub_set_congr same write.path write.placed)

/-- Leaving out writes that go elsewhere leaves the subtree at a path as it is. -/
theorem sub_applyAll_flatMap_filter {Entry : Type} (tree : Tree Key Scalar) {path : List Key}
    {entries : List Entry} {issue : Entry → List (Assignment Key Scalar)} {kept : Entry → Bool}
    (away : ∀ entry ∈ entries, kept entry = false →
      ∀ write ∈ issue entry, Incomparable write.path path) :
    (tree.applyAll ((entries.filter kept).flatMap issue)).sub path =
      (tree.applyAll (entries.flatMap issue)).sub path := by
  induction entries generalizing tree with
  | nil => rfl
  | cons entry rest ih =>
      rw [List.forall_mem_cons] at away
      rw [List.flatMap_cons, applyAll_append, ← ih _ away.2]
      cases keep : kept entry with
      | true => rw [List.filter_cons_of_pos keep, List.flatMap_cons, applyAll_append]
      | false =>
          rw [List.filter_cons_of_neg (by simp [keep])]
          exact sub_applyAll_congr (sub_applyAll_of_incomparable tree (away.1 keep)).symm _

/-- Writes may be applied before earlier writes to incomparable paths. -/
theorem applyAll_move_batch (tree : Tree Key Scalar)
    (front batch rest : List (Assignment Key Scalar))
    (apart : ∀ earlier ∈ front, ∀ write ∈ batch, Incomparable earlier.path write.path) :
    tree.applyAll (front ++ (batch ++ rest)) = tree.applyAll (batch ++ (front ++ rest)) := by
  induction batch generalizing tree with
  | nil => rfl
  | cons write batch ih =>
      rw [List.cons_append, applyAll_move tree write front (batch ++ rest)
        fun earlier member => apart earlier member write List.mem_cons_self]
      exact ih _ fun earlier member other inside =>
        apart earlier member other (List.mem_cons_of_mem _ inside)

end Tree

namespace Replica

/-- The tree once every batch is applied. -/
def settled (replica : Replica Owner Key Scalar) : Tree Key Scalar :=
  replica.tree.applyAll (replica.pending.flatMap Prod.snd)

/-- One owner issues batches. -/
def issue (replica : Replica Owner Key Scalar) (owner : Owner)
    (batches : List (List (Assignment Key Scalar))) : Replica Owner Key Scalar :=
  { replica with pending := replica.pending ++ batches.map (owner, ·) }

/-- The first pending batch of an owner is applied. -/
def Serves (owner : Owner) (batch : List (Assignment Key Scalar))
    (before after : Replica Owner Key Scalar) : Prop :=
  ∃ front rest, before.pending = front ++ (owner, batch) :: rest ∧
    (∀ entry ∈ front, entry.1 ≠ owner) ∧
    after.tree = before.tree.applyAll batch ∧ after.pending = front ++ rest

/-- Pending batches of different owners go to different places. -/
def Apart (replica : Replica Owner Key Scalar) : Prop :=
  ∀ first ∈ replica.pending, ∀ second ∈ replica.pending, first.1 ≠ second.1 →
    ∀ left ∈ first.2, ∀ right ∈ second.2, Incomparable left.path right.path

variable {replica before after : Replica Owner Key Scalar} {owner other : Owner}
  {batch : List (Assignment Key Scalar)}

/-- What is issued is applied last when all is applied. -/
theorem settled_issue (replica : Replica Owner Key Scalar) (owner : Owner)
    (batches : List (List (Assignment Key Scalar))) :
    (replica.issue owner batches).settled = replica.settled.applyAll batches.flatten := by
  unfold settled issue
  rw [List.flatMap_append, Tree.applyAll_append, List.flatMap_map]
  simp only [List.flatMap_id']

/-- A batch not yet applied is pending before it is. -/
theorem Serves.mem (serves : Serves owner batch before after) :
    (owner, batch) ∈ before.pending := by
  obtain ⟨front, rest, first, _⟩ := serves
  rw [first]
  exact List.mem_append_right _ List.mem_cons_self

/-- A served batch is applied to the tree. -/
theorem Serves.tree (serves : Serves owner batch before after) :
    after.tree = before.tree.applyAll batch := by
  obtain ⟨front, rest, _, _, tree, _⟩ := serves
  exact tree

/-- Serving adds nothing to what is pending. -/
theorem Serves.mem_of_mem (serves : Serves owner batch before after)
    {entry : Owner × List (Assignment Key Scalar)} (member : entry ∈ after.pending) :
    entry ∈ before.pending := by
  obtain ⟨front, rest, first, _, _, left⟩ := serves
  rw [left] at member
  rw [first]
  exact List.mem_append.mpr ((List.mem_append.mp member).imp id (List.mem_cons_of_mem _))

/-- Applying a batch settles nothing new. -/
theorem Serves.settled (serves : Serves owner batch before after) (apart : before.Apart) :
    after.settled = before.settled := by
  have here := serves.mem
  obtain ⟨front, rest, first, others, tree, left⟩ := serves
  have elsewhere : ∀ earlier ∈ front.flatMap Prod.snd, ∀ write ∈ batch,
      Incomparable earlier.path write.path := by
    intro earlier member write inside
    obtain ⟨entry, inFront, member⟩ := List.mem_flatMap.mp member
    refine apart entry ?_ _ here (others entry inFront) earlier member write inside
    rw [first]
    exact List.mem_append_left _ inFront
  have moved := Tree.applyAll_move_batch before.tree _ batch (rest.flatMap Prod.snd) elsewhere
  unfold Replica.settled
  rw [tree, left, first, List.flatMap_append, List.flatMap_append, List.flatMap_cons, moved,
    Tree.applyAll_append before.tree batch]

variable [DecidableEq Owner]

/-- The writes an owner has issued that are not yet applied. -/
def own (replica : Replica Owner Key Scalar) (owner : Owner) : List (Assignment Key Scalar) :=
  (replica.pending.filter (·.1 = owner)).flatMap Prod.snd

/-- What an owner sees: the tree with its own pending writes on top. -/
def view (replica : Replica Owner Key Scalar) (owner : Owner) : Tree Key Scalar :=
  replica.tree.applyAll (replica.own owner)

omit [DecidableEq Key] in
/-- What an owner issues comes after what is pending of its own. -/
theorem own_issue (replica : Replica Owner Key Scalar) (owner other : Owner)
    (batches : List (List (Assignment Key Scalar))) :
    (replica.issue owner batches).own other =
      replica.own other ++ if owner = other then batches.flatten else [] := by
  unfold own issue
  rw [List.filter_append, List.flatMap_append, List.filter_map, List.flatMap_map]
  by_cases same : owner = other <;>
    simp [Function.comp_def, same, List.flatMap_id']

/-- An owner sees the writes it issues at once, and no one else does. -/
theorem view_issue (replica : Replica Owner Key Scalar) (owner other : Owner)
    (batches : List (List (Assignment Key Scalar))) :
    (replica.issue owner batches).view other =
      (replica.view other).applyAll (if owner = other then batches.flatten else []) := by
  unfold view
  rw [own_issue, Tree.applyAll_append]
  rfl

/-- A served batch was the first of its owner. -/
theorem Serves.own_self (serves : Serves owner batch before after) :
    before.own owner = batch ++ after.own owner := by
  obtain ⟨front, rest, first, others, _, left⟩ := serves
  have none : front.filter (·.1 = owner) = [] := by
    rw [List.filter_eq_nil_iff]
    intro entry member
    simpa using others entry member
  unfold own
  rw [first, left, List.filter_append, List.filter_append, none, List.filter_cons,
    if_pos (decide_eq_true rfl), List.nil_append, List.nil_append, List.flatMap_cons]

/-- Serving one owner leaves the others' batches pending. -/
theorem Serves.own_other (serves : Serves owner batch before after) (different : other ≠ owner) :
    after.own other = before.own other := by
  obtain ⟨front, rest, first, _, _, left⟩ := serves
  unfold own
  rw [first, left, List.filter_append, List.filter_append,
    List.filter_cons_of_neg (by simpa using different.symm)]

/-- An owner sees no difference when its first batch is applied. -/
theorem Serves.view_self (serves : Serves owner batch before after) :
    after.view owner = before.view owner := by
  unfold view
  rw [serves.tree, serves.own_self, Tree.applyAll_append]

/-- An owner sees at a path what is settled there, if no one else writes there. -/
theorem sub_settled {path : List Key}
    (others : ∀ entry ∈ replica.pending, entry.1 ≠ owner →
      ∀ write ∈ entry.2, Incomparable write.path path) :
    replica.settled.sub path = (replica.view owner).sub path := by
  refine (Tree.sub_applyAll_flatMap_filter replica.tree ?_).symm
  intro entry member away
  exact others entry member (of_decide_eq_false away)

end Replica

namespace Replica

variable {good : List Key → Scalar → Prop} {replica before after : Replica Owner Key Scalar}
  {owner : Owner} {batch : List (Assignment Key Scalar)}

omit [DecidableEq Key] in
variable (good) in
/-- Every scalar that is stored or about to be is good at its path. -/
structure Everywhere (replica : Replica Owner Key Scalar) : Prop where
  tree : replica.tree.Everywhere good
  pending : ∀ entry ∈ replica.pending, ∀ write ∈ entry.2, write.Places good

omit [DecidableEq Key] in
/-- Good values stay good if only good ones are issued. -/
theorem Everywhere.issue (all : replica.Everywhere good) {batches : List (List _)}
    (new : ∀ batch ∈ batches, ∀ write ∈ batch, write.Places good) :
    (replica.issue owner batches).Everywhere good := by
  refine ⟨all.tree, fun entry member => ?_⟩
  rcases List.mem_append.mp member with old | issued
  · exact all.pending entry old
  · obtain ⟨batch, inside, rfl⟩ := List.mem_map.mp issued
    exact new batch inside

/-- Serving keeps good values good. -/
theorem Everywhere.serves (all : before.Everywhere good)
    (serves : Serves owner batch before after) : after.Everywhere good := by
  refine ⟨?_, fun entry member => all.pending entry (serves.mem_of_mem member)⟩
  rw [serves.tree]
  exact all.tree.applyAll (all.pending _ serves.mem)

/-- An owner sees good scalars only. -/
theorem Everywhere.view [DecidableEq Owner] (all : replica.Everywhere good) (owner : Owner) :
    (replica.view owner).Everywhere good := by
  refine all.tree.applyAll fun write issued => ?_
  obtain ⟨entry, found, inside⟩ := List.mem_flatMap.mp issued
  exact all.pending entry (List.mem_of_mem_filter found) write inside

end Replica

/-- A rule for writes: which writes fit a tree, and when a tree has all that another
tree offers to later writes. A write that fits takes nothing away. -/
structure WriteRule (Key Scalar : Type) [DecidableEq Key] where
  Fits : Tree Key Scalar → Assignment Key Scalar → Prop
  Grows : Tree Key Scalar → Tree Key Scalar → Prop
  grows_refl : ∀ tree, Grows tree tree
  grows_trans : ∀ {first second third}, Grows first second → Grows second third →
    Grows first third
  fits_of_grows : ∀ {tree grown write}, Grows tree grown → Fits tree write → Fits grown write
  grows_set : ∀ {tree write}, Fits tree write → Grows tree (tree.set write.path write.placed)
  set_grows : ∀ {tree grown write}, Grows tree grown → Fits tree write →
    Grows (tree.set write.path write.placed) (grown.set write.path write.placed)

namespace WriteRule

variable (rule : WriteRule Key Scalar)

/-- Every write fits the tree that the writes before it leave. -/
def Admits (tree : Tree Key Scalar) : List (Assignment Key Scalar) → Prop
  | [] => True
  | write :: writes =>
      rule.Fits tree write ∧ Admits (tree.set write.path write.placed) writes

variable {rule} {tree grown : Tree Key Scalar} {writes : List (Assignment Key Scalar)}

/-- Assignments are admitted one batch after the other. -/
theorem admits_append {front rest : List (Assignment Key Scalar)} :
    rule.Admits tree (front ++ rest) ↔
      rule.Admits tree front ∧ rule.Admits (tree.applyAll front) rest := by
  induction front generalizing tree with
  | nil => exact (and_iff_right trivial).symm
  | cons write front ih =>
      rw [List.cons_append, Admits, Admits, ih, and_assoc]
      rfl

/-- What fits a tree fits a tree that has grown from it. -/
theorem Admits.of_grows (admits : rule.Admits tree writes) (grows : rule.Grows tree grown) :
    rule.Admits grown writes := by
  induction writes generalizing tree grown with
  | nil => trivial
  | cons write writes ih =>
      obtain ⟨fits, later⟩ := admits
      exact ⟨rule.fits_of_grows grows fits, ih later (rule.set_grows grows fits)⟩

/-- What is admitted only lets the tree grow. -/
theorem Admits.grows (admits : rule.Admits tree writes) :
    rule.Grows tree (tree.applyAll writes) := by
  induction writes generalizing tree with
  | nil => exact rule.grows_refl tree
  | cons write writes ih => exact rule.grows_trans (rule.grows_set admits.1) (ih admits.2)

/-- Writes keep a tree grown from another grown from it. -/
theorem Admits.applyAll_grows (admits : rule.Admits tree writes) (grows : rule.Grows tree grown) :
    rule.Grows (tree.applyAll writes) (grown.applyAll writes) := by
  induction writes generalizing tree grown with
  | nil => exact grows
  | cons write writes ih => exact ih admits.2 (rule.set_grows grows admits.1)

/-- What every fitting write keeps, fitting writes keep. -/
theorem Admits.invariant {property : Tree Key Scalar → Prop} (admits : rule.Admits tree writes)
    (keeps : ∀ tree write, property tree → rule.Fits tree write →
      property (tree.set write.path write.placed))
    (initial : property tree) : property (tree.applyAll writes) := by
  induction writes generalizing tree with
  | nil => exact initial
  | cons write writes ih => exact ih admits.2 (keeps tree write initial admits.1)

end WriteRule

namespace Replica

variable [DecidableEq Owner] {rule : WriteRule Key Scalar}
  {replica before after : Replica Owner Key Scalar} {owner : Owner}
  {batch : List (Assignment Key Scalar)}

variable (rule) in
/-- The pending writes of each owner fit the tree in the order in which they will be
applied. -/
def Ordered (replica : Replica Owner Key Scalar) : Prop :=
  ∀ owner, rule.Admits replica.tree (replica.own owner)

/-- It is enough that writes fit what their owner sees when it issues them. -/
theorem Ordered.issue (ordered : replica.Ordered rule) {batches : List (List _)}
    (admits : rule.Admits (replica.view owner) batches.flatten) :
    (replica.issue owner batches).Ordered rule := by
  intro other
  rw [own_issue]
  refine WriteRule.admits_append.mpr ⟨ordered other, ?_⟩
  by_cases same : owner = other
  · subst same
    rw [if_pos rfl]
    exact admits
  · rw [if_neg same]
    trivial

/-- In an ordered replica a batch is admitted when it is served. -/
theorem Ordered.admits (ordered : before.Ordered rule)
    (serves : Serves owner batch before after) : rule.Admits before.tree batch := by
  have own := ordered owner
  rw [serves.own_self] at own
  exact (WriteRule.admits_append.mp own).1

/-- **A batch takes nothing from the batches of others.** -/
theorem Ordered.serves (ordered : before.Ordered rule)
    (serves : Serves owner batch before after) : after.Ordered rule := by
  intro other
  rw [serves.tree]
  by_cases same : other = owner
  · subst same
    have own := ordered other
    rw [serves.own_self] at own
    exact (WriteRule.admits_append.mp own).2
  · rw [serves.own_other same]
    exact (ordered other).of_grows (ordered.admits serves).grows

/-- What an owner sees only grows when someone issues writes that fit. -/
theorem view_grows_issue {batches : List (List (Assignment Key Scalar))}
    (admits : rule.Admits (replica.view owner) batches.flatten) (other : Owner) :
    rule.Grows (replica.view other) ((replica.issue owner batches).view other) := by
  rw [view_issue]
  split
  · rename_i same
    subst same
    exact admits.grows
  · exact rule.grows_refl _

/-- What an owner sees only grows when a batch is applied. -/
theorem Ordered.view_grows_serves (ordered : before.Ordered rule)
    (serves : Serves owner batch before after) (other : Owner) :
    rule.Grows (before.view other) (after.view other) := by
  by_cases same : other = owner
  · subst same
    rw [serves.view_self]
    exact rule.grows_refl _
  · unfold view
    rw [serves.tree, serves.own_other same]
    exact (ordered other).applyAll_grows (ordered.admits serves).grows

/-- What every fitting write keeps is kept of the stored tree. -/
theorem Ordered.invariant_serves {property : Tree Key Scalar → Prop}
    (ordered : before.Ordered rule) (serves : Serves owner batch before after)
    (keeps : ∀ tree write, property tree → rule.Fits tree write →
      property (tree.set write.path write.placed))
    (held : property before.tree) : property after.tree := by
  rw [serves.tree]
  exact (ordered.admits serves).invariant keeps held

/-- It then holds of what every owner sees. -/
theorem Ordered.invariant_view {property : Tree Key Scalar → Prop}
    (ordered : replica.Ordered rule)
    (keeps : ∀ tree write, property tree → rule.Fits tree write →
      property (tree.set write.path write.placed))
    (held : property replica.tree) (owner : Owner) : property (replica.view owner) :=
  (ordered owner).invariant keeps held

end Replica

namespace Replica

variable {creates : Assignment Key Scalar → Prop}
  {replica before after : Replica Owner Key Scalar} {owner : Owner}
  {batch : List (Assignment Key Scalar)}

omit [DecidableEq Key] in
variable (creates) in
/-- A write that creates goes where no earlier write goes, and no other owner follows it
there. -/
def MayFollow (earlier later : Owner × List (Assignment Key Scalar)) : Prop :=
  ∀ left ∈ earlier.2, ∀ right ∈ later.2,
    creates right ∨ creates left ∧ earlier.1 ≠ later.1 → Incomparable left.path right.path

variable (creates) in
/-- Nothing is stored where a pending write creates, and it has the place to itself. -/
structure Creating (replica : Replica Owner Key Scalar) : Prop where
  vacant : ∀ entry ∈ replica.pending, ∀ write ∈ entry.2, creates write →
    (replica.tree.sub write.path).IsNull
  alone : replica.pending.Pairwise (MayFollow creates)

/-- Creating writes stay alone when a batch is applied. -/
theorem Creating.serves (creating : before.Creating creates)
    (serves : Serves owner batch before after) : after.Creating creates := by
  have vacant := creating.vacant
  have alone := creating.alone
  obtain ⟨front, rest, first, others, tree, left⟩ := serves
  rw [first] at vacant alone
  rw [List.pairwise_append, List.pairwise_cons] at alone
  obtain ⟨inFront, ⟨later, inRest⟩, across⟩ := alone
  have elsewhere : ∀ entry ∈ front ++ rest, ∀ write ∈ entry.2, creates write →
      ∀ applied ∈ batch, Incomparable applied.path write.path := by
    intro entry member write inside creation applied inBatch
    rcases List.mem_append.mp member with old | new
    · exact (across entry old (owner, batch) List.mem_cons_self write inside applied inBatch
        (Or.inr ⟨creation, others entry old⟩)).symm
    · exact later entry new applied inBatch write inside (Or.inl creation)
  refine ⟨?_, ?_⟩
  · intro entry member write inside creation
    rw [left] at member
    rw [tree, Tree.sub_applyAll_of_incomparable before.tree
      (elsewhere entry member write inside creation)]
    exact vacant entry (List.mem_append.mpr ((List.mem_append.mp member).imp id
      (List.mem_cons_of_mem _))) write inside creation
  · rw [left, List.pairwise_append]
    exact ⟨inFront, inRest, fun earlier old next new =>
      across earlier old next (List.mem_cons_of_mem _ new)⟩

/-- Of two pending batches one was issued first. -/
theorem Creating.mayFollow (creating : replica.Creating creates)
    {first second : Owner × List (Assignment Key Scalar)} (left : first ∈ replica.pending)
    (right : second ∈ replica.pending) (different : first ≠ second) :
    MayFollow creates first second ∨ MayFollow creates second first := by
  obtain ⟨front, rest, split⟩ := List.append_of_mem left
  have alone := creating.alone
  rw [split, List.pairwise_append, List.pairwise_cons] at alone
  rw [split] at right
  rcases List.mem_append.mp right with earlier | later
  · exact Or.inr (alone.2.2 second earlier first List.mem_cons_self)
  · exact Or.inl (alone.2.1.1 second ((List.mem_cons.mp later).resolve_left different.symm))

/-- Where another owner is about to create, an owner sees nothing. -/
theorem Creating.view_isNull [DecidableEq Owner] (creating : replica.Creating creates)
    {entry : Owner × List (Assignment Key Scalar)} (member : entry ∈ replica.pending)
    {write : Assignment Key Scalar} (inside : write ∈ entry.2) (creation : creates write)
    (different : entry.1 ≠ owner) : ((replica.view owner).sub write.path).IsNull := by
  have own : ∀ other ∈ replica.own owner, Incomparable other.path write.path := by
    intro other issued
    obtain ⟨pending, found, issued⟩ := List.mem_flatMap.mp issued
    obtain ⟨found, mine⟩ := List.mem_filter.mp found
    have same : pending.1 = owner := of_decide_eq_true mine
    have apart : entry.1 ≠ pending.1 := same ▸ different
    rcases creating.mayFollow member found fun equal => apart (congrArg Prod.fst equal) with
      first | later
    · exact (first write inside other issued (Or.inr ⟨creation, apart⟩)).symm
    · exact later other issued write inside (Or.inl creation)
  rw [view, Tree.sub_applyAll_of_incomparable _ own]
  exact creating.vacant entry member write inside creation

/-- New writes leave the creating ones alone if they stay away from the places that
others create, and create only where nothing is stored or about to be. -/
theorem Creating.issue (creating : replica.Creating creates) {batches : List (List _)}
    (inOrder : (batches.map (owner, ·)).Pairwise (MayFollow creates))
    (follows : ∀ entry ∈ replica.pending, ∀ batch ∈ batches,
      MayFollow creates entry (owner, batch))
    (vacant : ∀ batch ∈ batches, ∀ write ∈ batch, creates write →
      (replica.tree.sub write.path).IsNull) :
    (replica.issue owner batches).Creating creates := by
  refine ⟨?_, ?_⟩
  · intro entry member
    rcases List.mem_append.mp member with old | new
    · exact creating.vacant entry old
    · obtain ⟨batch, inside, rfl⟩ := List.mem_map.mp new
      exact vacant batch inside
  · refine List.pairwise_append.mpr ⟨creating.alone, inOrder, ?_⟩
    intro entry old next new
    obtain ⟨batch, inside, rfl⟩ := List.mem_map.mp new
    exact follows entry old batch inside

end Replica

end Foundation
