import MyFundi.Feed.TappedPost

/-!
# The count of a post and its like records

The count is written as an absolute number computed from a cached post object, while
the like record is read and written separately. Two users who tap at once, or one
user who taps twice before the first answer, therefore leave a count that is not the
number of records. The counts stay right in every run in which a callback runs only
while what it was given is up to date (`counts_agree_of_upToDate`).
-/

namespace MyFundi

open Foundation

namespace Likes

variable {Device Image : Type} [DecidableEq Device]

/-- The users with a like record for a post. -/
def likers (database : Node) (postKey : String) : Finset String :=
  (Firebase.keySet (database.sub DataService.refUsers)).filter fun uid =>
    ¬ (database.sub (likeRecordRef uid postKey)).IsNull

theorem mem_likers {database : Node} {uid postKey : String} :
    uid ∈ likers database postKey ↔ ¬ (database.sub (likeRecordRef uid postKey)).IsNull := by
  rw [likers, Finset.mem_filter, Firebase.mem_keySet, and_iff_right_iff_imp]
  intro present empty
  rw [← Tree.sub_append] at empty
  apply present
  change (database.sub ((DataService.refUsers ++ [uid]) ++ ["likes", postKey])).IsNull
  rw [Tree.sub_append]
  exact empty.sub _

/-- The count of every fundraiser is the number of users with a like record for it.
In particular no count is negative. -/
def CountsAgree (database : Node) : Prop :=
  ∀ postKey, ¬ (database.sub (DataService.refFundraisers.child postKey)).IsNull →
    Node.asInt (database.sub (likesCountRef postKey)) = some ((likers database postKey).card : Int)

/-- Only the fundraisers stored have to be looked at. -/
theorem countsAgree_iff_keySet (database : Node) :
    CountsAgree database ↔
      ∀ postKey ∈ Firebase.keySet (database.sub DataService.refFundraisers),
        Node.asInt (database.sub (likesCountRef postKey)) =
          some ((likers database postKey).card : Int) := by
  refine forall_congr' fun postKey => ?_
  rw [Firebase.mem_keySet, ← Tree.sub_append]
  rfl

instance (database : Node) : Decidable (CountsAgree database) :=
  decidable_of_iff _ (countsAgree_iff_keySet database).symm

/-- Places other than the two written by a like are kept. -/
theorem LikeData.sub_likeWrites (database : Node) (uid postKey : String) (likes : Int) (add : Bool)
    {data : LikeData} (count : data ≠ .count postKey) (record : data ≠ .record uid postKey) :
    (applyWrites database (likeWrites uid postKey likes add)).sub data.ref =
      database.sub data.ref :=
  sub_likeWrites_of_incomparable database uid postKey likes add
    ((LikeData.ref_separate (.count postKey) data).resolve_left (Ne.symm count))
    ((LikeData.ref_separate (.record uid postKey) data).resolve_left (Ne.symm record))

/-- A like sets the count and the record. -/
theorem sub_likeWrites_self (database : Node) (uid postKey : String) (likes : Int) (add : Bool) :
    (applyWrites database (likeWrites uid postKey likes add)).sub (likesCountRef postKey) =
        .leaf (.int (if add then likes + 1 else likes - 1)) ∧
      (applyWrites database (likeWrites uid postKey likes add)).sub (likeRecordRef uid postKey) =
        if add then .leaf (.bool true) else .null := by
  have apart : Incomparable (likeRecordRef uid postKey) (likesCountRef postKey) :=
    (LikeData.ref_separate (.record uid postKey) (.count postKey)).resolve_left nofun
  rw [applyWrites, likeWrites_assignments]
  refine ⟨?_, ?_⟩
  · rw [Tree.applyAll_cons, Tree.applyAll_cons, Tree.applyAll_nil,
      Tree.sub_set_of_incomparable _ _ apart, Tree.sub_set_self]
  · rw [Tree.applyAll_cons, Tree.applyAll_cons, Tree.applyAll_nil, Tree.sub_set_self]

/-- A count is stored in its fundraiser. -/
theorem fundraiser_of_count {database : Node} {postKey : String}
    (count : ¬ (database.sub (likesCountRef postKey)).IsNull) :
    ¬ (database.sub (DataService.refFundraisers.child postKey)).IsNull := by
  intro empty
  apply count
  rw [likesCountRef, DatabaseReference.child, Tree.sub_append]
  exact empty.sub _

/-- A like leaves the other fundraisers alone. -/
theorem sub_likeWrites_fundraiser (database : Node) (uid : String) {postKey other : String}
    (likes : Int) (add : Bool) (different : other ≠ postKey) :
    (applyWrites database (likeWrites uid postKey likes add)).sub
      (DataService.refFundraisers.child other) =
        database.sub (DataService.refFundraisers.child other) := by
  apply sub_likeWrites_of_incomparable
  · exact incomparable_append_cons ["fundraisers"] (Ne.symm different) ["likes"] []
  · exact incomparable_append_cons [] (by decide) [uid, "likes", postKey] [other]

/-- The users with a record after a like. -/
theorem likers_likeWrites (database : Node) (uid postKey : String) (likes : Int) (add : Bool) :
    likers (applyWrites database (likeWrites uid postKey likes add)) postKey =
      if add then insert uid (likers database postKey) else (likers database postKey).erase uid := by
  ext other
  rw [mem_likers]
  by_cases same : other = uid
  · subst same
    rw [(sub_likeWrites_self database other postKey likes add).2]
    cases add <;> simp
  · have kept := LikeData.sub_likeWrites database uid postKey likes add
      (show LikeData.record other postKey ≠ .count postKey from nofun)
      (fun equal => same (LikeData.record.inj equal).1)
    rw [show database.sub (LikeData.record other postKey).ref =
      database.sub (likeRecordRef other postKey) from rfl] at kept
    rw [show likeRecordRef other postKey = (LikeData.record other postKey).ref from rfl, kept,
      ← mem_likers]
    cases add <;> simp [same]

/-- A like changes nobody's opinion of another post. -/
theorem likers_likeWrites_of_ne (database : Node) (uid : String) {postKey other : String}
    (likes : Int) (add : Bool) (different : other ≠ postKey) :
    likers (applyWrites database (likeWrites uid postKey likes add)) other =
      likers database other := by
  ext owner
  have kept := LikeData.sub_likeWrites database uid postKey likes add
    (show LikeData.record owner other ≠ .count postKey from nofun)
    (fun equal => different (LikeData.record.inj equal).2)
  rw [mem_likers, mem_likers]
  exact not_congr (iff_of_eq (congrArg Tree.IsNull kept))

/-- **A like keeps the counts right** when it starts from the count stored and adds
exactly if the user has no record. -/
theorem CountsAgree.likeWrites {database : Node} (agree : CountsAgree database)
    {uid postKey : String} {likes : Int} {add : Bool}
    (count : Node.asInt (database.sub (likesCountRef postKey)) = some likes)
    (direction : add = true ↔ (database.sub (likeRecordRef uid postKey)).IsNull)
    (checked : checkedInt (if add then likes + 1 else likes - 1) =
      some (if add then likes + 1 else likes - 1)) :
    CountsAgree (applyWrites database (likeWrites uid postKey likes add)) := by
  intro other fundraiser
  by_cases same : other = postKey
  · subst same
    have stored : ¬ (database.sub (DataService.refFundraisers.child other)).IsNull := by
      apply fundraiser_of_count
      intro empty
      rw [Node.asInt, (Tree.isNull_iff_value _).mp empty []] at count
      cases count
    have total := agree other stored
    rw [count, Option.some.injEq] at total
    rw [(sub_likeWrites_self database uid other likes add).1, likers_likeWrites, Node.asInt,
      Tree.value_leaf_nil, Option.bind_some, Scalar.asInt, checked, Option.some.injEq]
    cases add with
    | true =>
        have absent : uid ∉ likers database other := by
          rw [mem_likers, not_not]
          exact direction.mp rfl
        simp only [↓reduceIte, Finset.card_insert_of_notMem absent, total]
        omega
    | false =>
        have present : uid ∈ likers database other := by
          rw [mem_likers]
          exact fun empty => Bool.false_ne_true (direction.mpr empty)
        have positive := Finset.card_pos.mpr ⟨uid, present⟩
        simp only [Bool.false_eq_true, ↓reduceIte, Finset.card_erase_of_mem present, total]
        omega
  · rw [sub_likeWrites_fundraiser database uid likes add same] at fundraiser
    have kept := LikeData.sub_likeWrites database uid postKey likes add
      (fun equal => same (LikeData.count.inj equal))
      (show LikeData.count other ≠ .record uid postKey from nofun)
    rw [likers_likeWrites_of_ne database uid likes add same, ← agree other fundraiser]
    exact congrArg Node.asInt kept

end Likes

end MyFundi
