import MyFundi.Services.DataService

/-!
# Writes to user nodes

The app writes to `users/u` in five ways: it merges the provider at every sign-in,
merges the name or the image address when the profile is edited, and sets or
removes one like record. Each replaces a single child, and no child lies under
another, so writes issued by any number of devices in any order leave in each child
the last value written there (`userNode_holds_last_writes`).
-/

namespace MyFundi

open Foundation

namespace ProfileVC

/-- The name is written to the node of the user the keychain names now. -/
def updateFirebaseProfileName (keychain : Option String) (name : String) : Option Write := do
  let firebaseUser ← DataService.refUserCurrent keychain
  return .updateChildValues firebaseUser [("name", .leaf (.string name))]

/-- The image address is written to the node of the user the keychain names now. -/
def updateFirebaseProfileImage (keychain : Option String) (imgUrl : String) : Option Write := do
  let firebaseUser ← DataService.refUserCurrent keychain
  return .updateChildValues firebaseUser [("imageUrl", .leaf (.string imgUrl))]

end ProfileVC

/-- A write the app makes to a user's node. The like records are written through a
cell's `likesRef`. -/
inductive UserWrite where
  | createFirebaseDBUser (provider : String)
  | updateFirebaseProfileName (name : String)
  | updateFirebaseProfileImage (imgUrl : String)
  | setLike (postKey : String)
  | removeLike (postKey : String)

/-- The parts of a user's node that the app writes. -/
inductive UserChild where
  | provider
  | name
  | imageUrl
  | like (postKey : String)
  deriving DecidableEq

namespace UserChild

/-- Where a child stands under the user's node. -/
def path : UserChild → List String
  | provider => ["provider"]
  | name => ["name"]
  | imageUrl => ["imageUrl"]
  | like postKey => ["likes", postKey]

/-- Where a child of the user `uid` is stored. -/
def ref (uid : String) (child : UserChild) : DatabaseReference :=
  DataService.refUsers.child uid ++ child.path

/-- Every written child lies under one of four keys of the user's node. -/
theorem exists_path (child : UserChild) :
    ∃ key rest, child.path = key :: rest ∧ key ∈ ["provider", "name", "imageUrl", "likes"] := by
  cases child <;> exact ⟨_, _, rfl, by decide⟩

/-- Different children stand apart. -/
theorem path_separate (left right : UserChild) :
    left = right ∨ Incomparable left.path right.path := by
  cases left <;> cases right <;> first
    | exact Or.inl rfl
    | exact Or.inr (incomparable_append_cons [] (by decide) _ _)
    | skip
  rename_i left right
  by_cases same : left = right
  · exact Or.inl (congrArg like same)
  · exact Or.inr (incomparable_append_cons ["likes"] same [] [])

/-- Written children of any users are stored at incomparable locations. -/
theorem ref_separate (left right : String × UserChild) :
    left = right ∨ Incomparable (ref left.1 left.2) (ref right.1 right.2) := by
  obtain ⟨leftUid, left⟩ := left
  obtain ⟨rightUid, right⟩ := right
  by_cases same : leftUid = rightUid
  · subst same
    rcases path_separate left right with rfl | apart
    · exact Or.inl rfl
    · right
      simp only [Incomparable, ref, List.prefix_append_right_inj]
      exact apart
  · exact Or.inr (incomparable_append_cons ["users"] same left.path right.path)

/-- A place tells whose child it is, and which. -/
theorem ref_injective {leftUid rightUid : String} {left right : UserChild}
    (same : left.ref leftUid = right.ref rightUid) : leftUid = rightUid ∧ left = right := by
  rcases ref_separate (leftUid, left) (rightUid, right) with equal | apart
  · exact Prod.ext_iff.mp equal
  · exact (apart.1 (same ▸ List.prefix_rfl)).elim

end UserChild

namespace UserWrite

/-- The child a write replaces. -/
def child : UserWrite → UserChild
  | createFirebaseDBUser _ => .provider
  | updateFirebaseProfileName _ => .name
  | updateFirebaseProfileImage _ => .imageUrl
  | setLike postKey => .like postKey
  | removeLike postKey => .like postKey

/-- What it leaves there. -/
def placed : UserWrite → Node
  | createFirebaseDBUser provider => .leaf (.string provider)
  | updateFirebaseProfileName name => .leaf (.string name)
  | updateFirebaseProfileImage imgUrl => .leaf (.string imgUrl)
  | setLike _ => .leaf (.bool true)
  | removeLike _ => .null

/-- Issue the write on a device whose keychain holds `uid`. -/
def issue (uid : String) : UserWrite → Option Write
  | createFirebaseDBUser provider =>
      some (DataService.createFirebaseDBUser uid [("provider", provider)])
  | updateFirebaseProfileName name => ProfileVC.updateFirebaseProfileName (some uid) name
  | updateFirebaseProfileImage imgUrl => ProfileVC.updateFirebaseProfileImage (some uid) imgUrl
  | setLike postKey => do
      let user ← DataService.refUserCurrent (some uid)
      return .setValue ((user.child "likes").child postKey) (.leaf (.bool true))
  | removeLike postKey => do
      let user ← DataService.refUserCurrent (some uid)
      return .removeValue ((user.child "likes").child postKey)

/-- A write issued on a device signed in as the user, as an assignment. -/
def assignment (entry : String × UserWrite) : Assignment String Scalar :=
  ⟨entry.2.child.ref entry.1, entry.2.placed⟩

/-- A user's write is one assignment, to the user's own child. -/
theorem issue_assignments (uid : String) (write : UserWrite) :
    ∃ issued, write.issue uid = some issued ∧ issued.assignments = [assignment (uid, write)] := by
  cases write <;> exact ⟨_, rfl, rfl⟩

end UserWrite

/-- Perform writes one at a time, each on a device signed in as the given user. -/
def performUserWrites (database : Node) : List (String × UserWrite) → Option Node
  | [] => some database
  | (uid, write) :: rest => do
      let issued ← write.issue uid
      performUserWrites (applyWrites database [issued]) rest

/-- No write traps, and together they are a sequence of assignments. -/
theorem performUserWrites_eq (database : Node) (writes : List (String × UserWrite)) :
    performUserWrites database writes =
      some (database.applyAll (writes.map UserWrite.assignment)) := by
  induction writes generalizing database with
  | nil => rfl
  | cons entry rest ih =>
      obtain ⟨uid, write⟩ := entry
      obtain ⟨issued, eq, assignments⟩ := write.issue_assignments uid
      simp only [performUserWrites, eq, Option.bind_eq_bind, Option.bind_some, ih, List.map_cons,
        applyWrites_cons, assignments, applyWrites_nil, Tree.applyAll_cons, Tree.applyAll_nil]

/-- The writes to one child, in order. -/
def writesTo (uid : String) (child : UserChild) (writes : List (String × UserWrite)) :
    List UserWrite :=
  (writes.filter fun entry => entry.1 = uid ∧ entry.2.child = child).map Prod.snd

/-- What the last write to a child left there, if there was one. -/
def lastWritten (uid : String) (child : UserChild) (writes : List (String × UserWrite)) :
    Option Node :=
  (writesTo uid child writes).getLast?.map UserWrite.placed

theorem mem_writesTo {uid : String} {child : UserChild} {writes : List (String × UserWrite)}
    {write : UserWrite} :
    write ∈ writesTo uid child writes ↔ (uid, write) ∈ writes ∧ write.child = child := by
  simp only [writesTo, List.mem_map, List.mem_filter, decide_eq_true_eq]
  constructor
  · rintro ⟨⟨owner, write⟩, ⟨present, rfl, here⟩, rfl⟩
    exact ⟨present, here⟩
  · rintro ⟨present, here⟩
    exact ⟨(uid, write), ⟨present, rfl, here⟩, rfl⟩

/-- The assignments to a child's place are those of the writes to it. -/
theorem writesAt_ref (uid : String) (child : UserChild) (writes : List (String × UserWrite)) :
    writesAt (child.ref uid) (writes.map UserWrite.assignment) =
      (writesTo uid child writes).map fun write => UserWrite.assignment (uid, write) := by
  unfold writesAt writesTo
  rw [List.filter_map, List.map_map]
  have same (entry : String × UserWrite) :
      (UserWrite.assignment entry).path = child.ref uid ↔
        entry.1 = uid ∧ entry.2.child = child := by
    constructor
    · exact UserChild.ref_injective
    · rintro ⟨rfl, rfl⟩
      rfl
  simp only [Function.comp_def, same]
  refine List.map_congr_left fun entry member => ?_
  have owner := (of_decide_eq_true (List.mem_filter.mp member).2).1
  rw [← owner]

/-- What was assigned last to a child's place is what was written last to the child. -/
theorem latest_ref (uid : String) (child : UserChild) (writes : List (String × UserWrite)) :
    latest (child.ref uid) (writes.map UserWrite.assignment) = lastWritten uid child writes := by
  rw [latest, writesAt_ref, List.getLast?_map, Option.map_map]
  rfl

/-- Writes to one path that is not a written child do not occur. -/
theorem writesAt_other (writes : List (String × UserWrite)) {path : List String}
    (other : ∀ uid (child : UserChild), child.ref uid ≠ path) :
    writesAt path (writes.map UserWrite.assignment) = [] := by
  rw [List.eq_nil_iff_forall_not_mem]
  intro write member
  obtain ⟨present, here⟩ := mem_writesAt.mp member
  obtain ⟨entry, _, rfl⟩ := List.mem_map.mp present
  exact other entry.1 entry.2.child here

/-- User writes go to the same place or to places apart. -/
theorem separate_assignments (writes : List (String × UserWrite)) :
    Separate (writes.map UserWrite.assignment) := by
  intro first firstMember second secondMember
  obtain ⟨left, _, rfl⟩ := List.mem_map.mp firstMember
  obtain ⟨right, _, rfl⟩ := List.mem_map.mp secondMember
  rcases UserChild.ref_separate (left.1, left.2.child) (right.1, right.2.child) with equal | apart
  · left
    exact congrArg (fun pair : String × UserChild => pair.2.ref pair.1) equal
  · exact Or.inr apart

/-- After any writes a child holds what the last write to it left there. -/
theorem sub_ref_performUserWrites {database final : Node} {writes : List (String × UserWrite)}
    (performed : performUserWrites database writes = some final) (uid : String)
    (child : UserChild) :
    final.sub (child.ref uid) =
      (lastWritten uid child writes).getD (database.sub (child.ref uid)) := by
  rw [performUserWrites_eq] at performed
  cases performed
  rw [← latest_ref]
  apply Tree.sub_applyAll
  intro write member
  obtain ⟨entry, _, rfl⟩ := List.mem_map.mp member
  rcases UserChild.ref_separate (entry.1, entry.2.child) (uid, child) with equal | apart
  · left
    exact congrArg (fun pair : String × UserChild => pair.2.ref pair.1) equal
  · exact Or.inr apart

/-- The writes do not touch the other children of a user's node. -/
theorem sub_other_performUserWrites {database final : Node} {writes : List (String × UserWrite)}
    (performed : performUserWrites database writes = some final) (uid : String) {key : String}
    (other : key ∉ ["provider", "name", "imageUrl", "likes"]) :
    final.sub ((DataService.refUsers.child uid).child key) =
      database.sub ((DataService.refUsers.child uid).child key) := by
  rw [performUserWrites_eq] at performed
  cases performed
  apply Tree.sub_applyAll_of_incomparable
  intro write member
  obtain ⟨⟨owner, write⟩, _, rfl⟩ := List.mem_map.mp member
  obtain ⟨head, rest, path, written⟩ := write.child.exists_path
  have different : head ≠ key := fun same => other (same ▸ written)
  by_cases same : owner = uid
  · subst same
    have apart := incomparable_append_cons ["users", owner] different rest []
    rwa [show UserWrite.assignment (owner, write) =
      ⟨["users", owner] ++ write.child.path, write.placed⟩ from rfl, path]
  · exact incomparable_append_cons ["users"] same write.child.path [key]

/-- Two orders of writes that agree on the order at each child leave the same database. -/
theorem performUserWrites_congr (database : Node) {first second : List (String × UserWrite)}
    (same : ∀ uid child, writesTo uid child first = writesTo uid child second) :
    performUserWrites database first = performUserWrites database second := by
  rw [performUserWrites_eq, performUserWrites_eq]
  refine congrArg some (Tree.applyAll_congr database (separate_assignments first) fun path => ?_)
  by_cases known : ∃ uid, ∃ child : UserChild, child.ref uid = path
  · obtain ⟨uid, child, rfl⟩ := known
    rw [writesAt_ref, writesAt_ref, same]
  · push Not at known
    rw [writesAt_other first known, writesAt_other second known]

/-- The writes of any number of devices signed in as one user, in the order in which
the server applies them. -/
def performFrom {Device : Type} (uid : String) (database : Node)
    (schedule : List (Device × UserWrite)) : Option Node :=
  performUserWrites database (schedule.map fun entry => (uid, entry.2))

/-- The writes of a schedule that go to one child, in order. -/
def scheduledTo {Device : Type} (child : UserChild) (schedule : List (Device × UserWrite)) :
    List UserWrite :=
  (schedule.map Prod.snd).filter fun write => write.child = child

/-- The writes of a schedule are all of its one user. -/
theorem writesTo_schedule {Device : Type} (uid owner : String) (child : UserChild)
    (schedule : List (Device × UserWrite)) :
    writesTo owner child (schedule.map fun entry => (uid, entry.2)) =
      if uid = owner then scheduledTo child schedule else [] := by
  unfold writesTo scheduledTo
  by_cases same : uid = owner
  · simp only [same, ↓reduceIte, List.filter_map, List.map_map, Function.comp_def, true_and]
  · simp only [same, ↓reduceIte, List.filter_map, Function.comp_def, false_and, decide_false,
      List.filter_false, List.map_nil]

/-- **Writes to a user node do not clobber each other.** Whatever the node held and
however the writes of the devices interleave, no write traps; the provider, the
name, the image address and each like record hold what the last write to that very
child left, or what they held before; every other child is unchanged; and an
interleaving that orders the writes to each child in the same way ends in the same
node. -/
theorem userNode_holds_last_writes {Device : Type} (uid : String) (database : Node)
    (schedule : List (Device × UserWrite)) :
    ∃ final, performFrom uid database schedule = some final ∧
      (∀ child : UserChild, final.sub (child.ref uid) =
        ((scheduledTo child schedule).getLast?.map UserWrite.placed).getD
          (database.sub (child.ref uid))) ∧
      (∀ key, key ∉ ["provider", "name", "imageUrl", "likes"] →
        final.sub ((DataService.refUsers.child uid).child key) =
          database.sub ((DataService.refUsers.child uid).child key)) ∧
      ∀ other : List (Device × UserWrite),
        (∀ child, scheduledTo child other = scheduledTo child schedule) →
          performFrom uid database other = some final := by
  have performed := performUserWrites_eq database (schedule.map fun entry => (uid, entry.2))
  refine ⟨_, performed, fun child => ?_, fun key other => ?_, fun other same => ?_⟩
  · rw [sub_ref_performUserWrites performed uid child, lastWritten, writesTo_schedule,
      if_pos rfl]
  · exact sub_other_performUserWrites performed uid other
  · refine (performUserWrites_congr database fun owner child => ?_).trans performed
    rw [writesTo_schedule, writesTo_schedule, same]

end MyFundi
