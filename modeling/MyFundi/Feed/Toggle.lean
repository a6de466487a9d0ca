import Mathlib.Algebra.Ring.Parity
import MyFundi.Feed.Informed

/-!
# Toggling a like

What one tap is for: the user's record for the post is flipped and the count follows it.
A sequence of toggles flips each record once for every toggle of its post, keeps each
count at the same distance from its record, and touches nothing else.
-/

namespace MyFundi

open Foundation

namespace Likes

/-- The count stored for a post. -/
def storedLikes (database : Node) (postKey : String) : Int :=
  match database.value (likesCountRef postKey) with
  | some (.int likes) => likes
  | _ => 0

/-- Whether the user has a like record for a post. -/
def hasLike (uid : String) (database : Node) (postKey : String) : Bool :=
  !decide (database.sub (likeRecordRef uid postKey)).IsNull

/-- Flip the user's record for a post, with the count. -/
def toggle (uid : String) (database : Node) (postKey : String) : Node :=
  applyWrites database
    (likeWrites uid postKey (storedLikes database postKey) (!hasLike uid database postKey))

/-- Every post has an integer count, and all that is stored at, above or under the user's
likes are records that hold true. (The node of a user who has signed in has children, so
no value stands above the likes.) -/
structure Likeable (firebase : Firebase) (uid : String) (database : Node) : Prop where
  counts : ∀ postKey, Stored firebase database postKey →
    ∃ likes, database.value (likesCountRef postKey) = some (.int likes)
  records : ∀ path, (database.value path).isSome →
    Incomparable ((DataService.refUsers.child uid).child "likes") path ∨
      ∃ postKey, path = likeRecordRef uid postKey ∧ database.value path = some (.bool true)

/-- What toggles of the given posts make of a database. Nothing else is changed, each
record is flipped once for every toggle of its post, and each count has changed as the
record has. -/
structure Toggled (firebase : Firebase) (uid : String) (initial final : Node)
    (keys : List String) : Prop where
  elsewhere : ∀ path, (∀ postKey ∈ keys, path ≠ likesCountRef postKey ∧
    path ≠ likeRecordRef uid postKey) → final.value path = initial.value path
  records : ∀ postKey, hasLike uid final postKey =
    not^[keys.count postKey] (hasLike uid initial postKey)
  counts : ∀ postKey, Stored firebase initial postKey → ∃ likes,
    initial.value (likesCountRef postKey) = some (.int likes) ∧
      final.value (likesCountRef postKey) = some (.int (likes +
        ((hasLike uid final postKey).toInt - (hasLike uid initial postKey).toInt)))

variable {firebase : Firebase} {uid : String} {database : Node}

/-- The record for a post is a place of its own under the user's likes. -/
theorem Likeable.alone_record (likeable : Likeable firebase uid database) (postKey : String) :
    database.Alone (likeRecordRef uid postKey) := by
  have below : (DataService.refUsers.child uid).child "likes" <+: likeRecordRef uid postKey :=
    ⟨[postKey], rfl⟩
  intro path stored
  rcases likeable.records path stored with apart | ⟨other, rfl, _⟩
  · left
    refine ⟨fun under => apart.1 (below.trans under), fun above => ?_⟩
    rcases List.prefix_or_prefix_of_prefix above below with first | second
    · exact apart.2 first
    · exact apart.1 second
  · rcases LikeData.ref_separate (.record uid postKey) (.record uid other) with same | apart
    · exact Or.inr (congrArg LikeData.ref same).symm
    · exact Or.inl apart

/-- A record holds true if it is there. -/
theorem Likeable.value_record (likeable : Likeable firebase uid database) (postKey : String) :
    database.value (likeRecordRef uid postKey) =
      if hasLike uid database postKey then some (.bool true) else none := by
  by_cases present : (database.value (likeRecordRef uid postKey)).isSome
  · have there : hasLike uid database postKey = true := by
      rw [hasLike, Bool.not_eq_true', decide_eq_false_iff_not, Tree.isNull_iff_value]
      intro empty
      have none := empty []
      rw [Tree.value_sub, List.append_nil] at none
      rw [none] at present
      cases present
    rw [if_pos there]
    rcases likeable.records _ present with apart | ⟨_, _, holds⟩
    · exact (apart.1 ⟨[postKey], rfl⟩).elim
    · exact holds
  · rw [Option.not_isSome_iff_eq_none] at present
    have missing : hasLike uid database postKey = false := by
      rw [hasLike, Bool.not_eq_false', decide_eq_true_eq, Tree.isNull_iff_value]
      intro rest
      rw [Tree.value_sub]
      by_contra stored
      rcases likeable.alone_record postKey _ (Option.isSome_iff_ne_none.mpr stored) with apart | same
      · exact apart.1 (List.prefix_append _ _)
      · rw [same, present] at stored
        exact stored rfl
    rw [present, missing]
    rfl

theorem eq_nil_of_value_leaf {scalar : Scalar} {rest : List String}
    (present : ((Tree.leaf scalar : Node).value rest).isSome) : rest = [] := by
  by_contra other
  simp [Tree.leaf, other] at present

/-- A new count and a new record, or none, change nothing else. -/
theorem Likeable.value_set_like (likeable : Likeable firebase uid database) {postKey : String}
    (stored : Stored firebase database postKey) (likes : Int) {record : Node}
    (scalar : ∀ rest, (record.value rest).isSome → rest = []) (path : List String) :
    ((database.set (likesCountRef postKey) (.leaf (.int likes))).set (likeRecordRef uid postKey)
        record).value path =
      if path = likeRecordRef uid postKey then record.value []
      else if path = likesCountRef postKey then some (.int likes)
      else database.value path := by
  obtain ⟨old, counted⟩ := likeable.counts postKey stored
  have count (query : List String) :
      (database.set (likesCountRef postKey) (.leaf (.int likes))).value query =
        if query = likesCountRef postKey then some (.int likes) else database.value query :=
    Tree.value_set_of_alone (Tree.alone_of_isSome (Option.isSome_of_eq_some counted))
      (fun _ => eq_nil_of_value_leaf) query
  -- The new count is no more in the record's way than the old one was.
  have alone : (database.set (likesCountRef postKey) (.leaf (.int likes))).Alone
      (likeRecordRef uid postKey) := by
    intro query present
    rw [count] at present
    split at present
    · rename_i same
      subst same
      exact Or.inl ((LikeData.ref_separate (.record uid postKey) (.count postKey)).resolve_left
        (by simp))
    · exact likeable.alone_record postKey query present
  rw [Tree.value_set_of_alone alone scalar, count]

/-- A toggle writes the count and the record of its post. -/
theorem toggle_eq (uid : String) (database : Node) (postKey : String) :
    toggle uid database postKey =
      (database.set (likesCountRef postKey) (.leaf (.int (if hasLike uid database postKey then
        storedLikes database postKey - 1 else storedLikes database postKey + 1)))).set
        (likeRecordRef uid postKey)
        (if hasLike uid database postKey then .null else .leaf (.bool true)) := by
  rw [toggle, applyWrites, likeWrites_assignments]
  cases hasLike uid database postKey <;> rfl

/-- A toggle adds one to the count of its post, or takes one off. -/
theorem storedLikes_toggle (uid : String) (database : Node) (postKey : String) :
    storedLikes (toggle uid database postKey) postKey =
      if hasLike uid database postKey then storedLikes database postKey - 1
      else storedLikes database postKey + 1 := by
  have count := (sub_likeWrites_self database uid postKey (storedLikes database postKey)
    (!hasLike uid database postKey)).1
  have written := congrArg (Tree.value · []) count
  rw [Tree.value_sub, List.append_nil] at written
  rw [storedLikes, toggle, written]
  cases hasLike uid database postKey <;> rfl

/-- A toggle changes the record and the count of its post, and no other value. -/
theorem Likeable.value_toggle (likeable : Likeable firebase uid database) {postKey : String}
    (stored : Stored firebase database postKey) (path : List String) :
    (toggle uid database postKey).value path =
      if path = likeRecordRef uid postKey then
        if hasLike uid database postKey then none else some (.bool true)
      else if path = likesCountRef postKey then
        some (.int (if hasLike uid database postKey then storedLikes database postKey - 1
          else storedLikes database postKey + 1))
      else database.value path := by
  rw [toggle_eq, likeable.value_set_like stored]
  · cases hasLike uid database postKey <;> rfl
  · intro rest present
    split at present
    · cases present
    · exact eq_nil_of_value_leaf present

/-- A toggle flips the record of its post and no other. -/
theorem hasLike_toggle (uid : String) (database : Node) (postKey other : String) :
    hasLike uid (toggle uid database postKey) other =
      if other = postKey then !hasLike uid database other else hasLike uid database other := by
  by_cases same : other = postKey
  · subst same
    rw [if_pos rfl, hasLike, toggle, (sub_likeWrites_self database uid other _ _).2]
    cases hasLike uid database other <;> simp
  · have kept := LikeData.sub_likeWrites database uid postKey (storedLikes database postKey)
      (!hasLike uid database postKey) (show LikeData.record uid other ≠ .count postKey by simp)
      (fun equal => same (LikeData.record.inj equal).2)
    rw [if_neg same, hasLike, hasLike, toggle]
    exact congrArg (fun record : Node => !decide record.IsNull) kept

/-- A toggle keeps the fundraisers there are. -/
theorem stored_toggle_iff {postKey : String} (stored : Stored firebase database postKey)
    (other : String) :
    Stored firebase (toggle uid database postKey) other ↔ Stored firebase database other := by
  by_cases same : other = postKey
  · subst same
    refine iff_of_true ?_ stored
    apply stored_of_count
    rw [toggle, (sub_likeWrites_self database uid other _ _).1]
    exact Tree.not_isNull_leaf _
  · unfold Stored toggle
    rw [sub_likeWrites_fundraiser database uid _ _ same]

/-- No count is stored where a record is. -/
theorem likesCountRef_ne_likeRecordRef (uid postKey other : String) :
    likesCountRef postKey ≠ likeRecordRef uid other := by
  intro same
  have equal : LikeData.count postKey = .record uid other := LikeData.ref_injective same
  cases equal

theorem likesCountRef_inj {postKey other : String} :
    likesCountRef postKey = likesCountRef other ↔ postKey = other := by
  refine ⟨fun same => ?_, congrArg likesCountRef⟩
  have equal : LikeData.count postKey = .count other := LikeData.ref_injective same
  exact LikeData.count.inj equal

/-- A toggle leaves a database whose posts can be liked. -/
theorem Likeable.toggle (likeable : Likeable firebase uid database) {postKey : String}
    (stored : Stored firebase database postKey) :
    Likeable firebase uid (toggle uid database postKey) := by
  refine ⟨?_, ?_⟩
  · intro other present
    rw [likeable.value_toggle stored, if_neg (likesCountRef_ne_likeRecordRef uid other postKey)]
    split
    · exact ⟨_, rfl⟩
    · exact likeable.counts other ((stored_toggle_iff stored other).mp present)
  · intro path present
    rw [likeable.value_toggle stored] at present ⊢
    split
    · rename_i same
      rw [if_pos same] at present
      right
      refine ⟨postKey, same, ?_⟩
      split at present
      · cases present
      · rename_i missing
        rw [if_neg missing]
    · rename_i other
      rw [if_neg other] at present
      split
      · rename_i same
        subst same
        exact Or.inl (incomparable_append_cons [] (by decide) [uid, "likes"] [postKey, "likes"])
      · rename_i elsewhere
        rw [if_neg elsewhere] at present
        exact likeable.records path present

/-- A count moves as the record does. -/
theorem Likeable.count_toggle (likeable : Likeable firebase uid database) {postKey : String}
    (stored : Stored firebase database postKey) {other : String} {likes : Int}
    (counted : database.value (likesCountRef other) = some (.int likes)) :
    (Likes.toggle uid database postKey).value (likesCountRef other) = some (.int (likes +
      ((hasLike uid (Likes.toggle uid database postKey) other).toInt -
        (hasLike uid database other).toInt))) := by
  rw [likeable.value_toggle stored, if_neg (likesCountRef_ne_likeRecordRef uid other postKey),
    hasLike_toggle]
  by_cases same : other = postKey
  · subst same
    have total : storedLikes database other = likes := by
      rw [storedLikes, counted]
    rw [if_pos rfl, if_pos rfl, total]
    cases hasLike uid database other <;> rfl
  · rw [if_neg (likesCountRef_inj.not.mpr same), if_neg same, counted, sub_self, add_zero]

theorem toggled_nil (likeable : Likeable firebase uid database) :
    Toggled firebase uid database database [] where
  elsewhere := fun _ _ => rfl
  records := fun _ => rfl
  counts := by
    intro postKey stored
    obtain ⟨likes, counted⟩ := likeable.counts postKey stored
    exact ⟨likes, counted, by rw [sub_self, add_zero, counted]⟩

/-- One more toggle. -/
theorem Toggled.snoc {initial : Node} {keys : List String}
    (toggled : Toggled firebase uid initial database keys)
    (likeable : Likeable firebase uid database) {postKey : String}
    (stored : Stored firebase database postKey) :
    Toggled firebase uid initial (toggle uid database postKey) (keys ++ [postKey]) := by
  refine ⟨?_, ?_, ?_⟩
  · intro path away
    have here := away postKey (List.mem_append_right _ (List.mem_singleton_self postKey))
    rw [likeable.value_toggle stored, if_neg here.2, if_neg here.1]
    exact toggled.elsewhere path fun other member => away other (List.mem_append_left _ member)
  · intro other
    rw [hasLike_toggle, List.count_append, List.count_singleton, toggled.records]
    by_cases same : other = postKey
    · subst same
      rw [if_pos rfl, beq_self_eq_true, if_pos rfl, Function.iterate_succ_apply']
    · have different : (postKey == other) = false := beq_eq_false_iff_ne.mpr (Ne.symm same)
      rw [if_neg same, different]
      rfl
  · intro other present
    obtain ⟨likes, counted, changed⟩ := toggled.counts other present
    refine ⟨likes, counted, ?_⟩
    rw [likeable.count_toggle stored changed, add_assoc, sub_add_sub_cancel']

/-- **What a sequence of toggles does.** -/
theorem Likeable.foldl_toggle (likeable : Likeable firebase uid database) {keys : List String}
    (stored : ∀ postKey ∈ keys, Stored firebase database postKey) :
    Likeable firebase uid (keys.foldl (Likes.toggle uid) database) ∧
      (∀ postKey, Stored firebase (keys.foldl (Likes.toggle uid) database) postKey ↔
        Stored firebase database postKey) ∧
      Toggled firebase uid database (keys.foldl (Likes.toggle uid) database) keys := by
  induction keys using List.reverseRecOn with
  | nil => exact ⟨likeable, fun _ => Iff.rfl, toggled_nil likeable⟩
  | append_singleton keys postKey ih =>
      obtain ⟨still, same, toggled⟩ :=
        ih fun other member => stored other (List.mem_append_left _ member)
      have here := (same postKey).mpr
        (stored postKey (List.mem_append_right _ (List.mem_singleton_self postKey)))
      rw [List.foldl_append, List.foldl_cons, List.foldl_nil]
      exact ⟨still.toggle here, fun other => (stored_toggle_iff here other).trans (same other),
        toggled.snoc still here⟩

/-- Toggling every post an even number of times restores the database. -/
theorem Toggled.restored {initial final : Node} {keys : List String}
    (toggled : Toggled firebase uid initial final keys) (before : Likeable firebase uid initial)
    (after : Likeable firebase uid final)
    (stored : ∀ postKey ∈ keys, Stored firebase initial postKey)
    (even : ∀ postKey, Even (keys.count postKey)) : final = initial := by
  have records (postKey : String) : hasLike uid final postKey = hasLike uid initial postKey := by
    rw [toggled.records, Bool.involutive_not.iterate_even (even postKey), id]
  apply Tree.ext_value
  funext path
  by_cases here : ∃ postKey ∈ keys, path = likesCountRef postKey ∨ path = likeRecordRef uid postKey
  · obtain ⟨postKey, member, rfl | rfl⟩ := here
    · obtain ⟨likes, counted, changed⟩ := toggled.counts postKey (stored postKey member)
      rw [changed, counted, records, sub_self, add_zero]
    · rw [after.value_record, before.value_record, records]
  · apply toggled.elsewhere
    intro postKey member
    rw [← not_or]
    exact fun same => here ⟨postKey, member, same⟩

end Likes

end MyFundi
