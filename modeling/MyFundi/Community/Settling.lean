import MyFundi.Community.NewKeys

/-!
# Up-to-date likes settle

While every like starts from what is up to date, no two devices are writing one count at
the same time. Writes in flight on different devices then go to different places, so the
order in which the server applies them does not matter.
-/

namespace MyFundi.Community

open Foundation

variable {Device Image Data : Type}

/-- The writes in flight to one count are those of one device. -/
def Exclusive (replica : Replica Device String Scalar) : Prop :=
  ∀ first ∈ replica.pending, ∀ second ∈ replica.pending, ∀ left ∈ first.2, ∀ right ∈ second.2,
    ∀ postKey, left.path = likesCountRef postKey → right.path = likesCountRef postKey →
      first.1 = second.1

/-- Deeds of two users that publish nothing go to different places, unless both write one
count. -/
theorem Deed.incomparable {leftOwner rightOwner : String} (different : leftOwner ≠ rightOwner)
    {left right : Deed} (leftPlain : ¬ left.Publishes) (rightPlain : ¬ right.Publishes)
    (counts : ∀ postKey, (left.assignment leftOwner).path = likesCountRef postKey →
      (right.assignment rightOwner).path ≠ likesCountRef postKey) :
    Incomparable (left.assignment leftOwner).path (right.assignment rightOwner).path := by
  cases left with
  | publish key captionField imgUrl => exact (leftPlain trivial).elim
  | count postKey likes =>
      cases right with
      | publish key captionField imgUrl => exact (rightPlain trivial).elim
      | count other count =>
          refine incomparable_append_cons ["fundraisers"] ?_ ["likes"] ["likes"]
          rintro rfl
          exact counts postKey rfl rfl
      | user write => exact incomparable_append_cons [] (by decide) _ _
  | user write =>
      cases right with
      | publish key captionField imgUrl => exact (rightPlain trivial).elim
      | count other count => exact incomparable_append_cons [] (by decide) _ _
      | user other => exact incomparable_append_cons ["users"] different _ _

/-- A publication creates what it writes. -/
theorem Deed.creates (owner : String) {deed : Deed} (publishes : deed.Publishes) :
    Creates (deed.assignment owner) := by
  cases deed with
  | publish key captionField imgUrl => exact ⟨key, rfl⟩
  | count postKey likes => exact publishes.elim
  | user write => exact publishes.elim

variable [DecidableEq Device] {firebase : Firebase} {uid : Device → String}
  {jpeg : Image → Option Data} {placeholder : Option Image}
  {before after : State Device Image Data} {state : Likes.State Device Image}

/-- Of two writes in flight on different devices, if one publishes a fundraiser the other
does not write to it. -/
theorem Queued.publishes_apart (queued : Queued uid state)
    {first second : Device × List (Assignment String Scalar)} (left : first ∈ state.replica.pending)
    (right : second ∈ state.replica.pending) (different : first.1 ≠ second.1)
    {write other : Assignment String Scalar} (inside : write ∈ first.2) (otherInside : other ∈ second.2)
    (creates : Creates write) : Incomparable write.path other.path := by
  rcases queued.creating.mayFollow left right fun equal => different (congrArg Prod.fst equal) with
    earlier | later
  · exact earlier write inside other otherInside (Or.inr ⟨creates, different⟩)
  · exact (later other otherInside write inside (Or.inl creates)).symm

/-- Writes in flight on different devices go to different places. -/
theorem Queued.apart (queued : Queued uid state) (distinct : Function.Injective uid)
    (exclusive : Exclusive state.replica) : state.replica.Apart := by
  intro first firstMember second secondMember different left leftInside right rightInside
  obtain ⟨leftDeed, leftIssued⟩ := queued.performing first firstMember
  obtain ⟨rightDeed, rightIssued⟩ := queued.performing second secondMember
  have leftSame := leftInside
  have rightSame := rightInside
  rw [leftIssued] at leftSame
  rw [rightIssued] at rightSame
  cases List.mem_singleton.mp leftSame
  cases List.mem_singleton.mp rightSame
  by_cases leftCreates : leftDeed.Publishes
  · exact queued.publishes_apart firstMember secondMember different leftInside rightInside
      (Deed.creates _ leftCreates)
  by_cases rightCreates : rightDeed.Publishes
  · exact (queued.publishes_apart secondMember firstMember (Ne.symm different) rightInside
      leftInside (Deed.creates _ rightCreates)).symm
  refine Deed.incomparable (fun same => different (distinct same)) leftCreates rightCreates ?_
  intro postKey leftCount rightCount
  exact different (exclusive first firstMember second secondMember _ leftInside _ rightInside
    postKey leftCount rightCount)

/-- A like is given what is up to date; other actions need nothing. -/
def UpToDate (uid : Device → String) (before : State Device Image Data) :
    Action Device Image → Prop
  | .likes action => Likes.UpToDate uid before.likes action
  | _ => True

instance (before : State Device Image Data) :
    (action : Action Device Image) → Decidable (UpToDate uid before action)
  | .likes action => inferInstanceAs (Decidable (Likes.UpToDate uid before.likes action))
  | .publishing _ _ | .userWrite _ _ => .isTrue trivial

/-- What an up-to-date like is given: the count it starts from and the direction it takes
are those the device sees, and no other device is writing that count. -/
structure GivenLatest (uid : Device → String) (state : Likes.State Device Image) (device : Device)
    (postKey : String) (likes : Int) (add : Bool) : Prop where
  alone : ∀ entry ∈ state.replica.pending, entry.1 ≠ device → ∀ write ∈ entry.2,
    write.path ≠ likesCountRef postKey
  count : Node.asInt ((state.replica.view device).sub (likesCountRef postKey)) = some likes
  record : add = true ↔
    ((state.replica.view device).sub (likeRecordRef (uid device) postKey)).IsNull

/-- An up-to-date callback is given the latest count and record. -/
theorem UpToDate.given {device : Device} {index : Nat} {snapshot : Node} {post : Post} {likes : Int}
    (upToDate : UpToDate uid before (.likes (.callback device index)))
    (pending : (before.likes.clients device).pendingLike index = some (snapshot, post))
    (held : post.likes = some likes) :
    GivenLatest uid before.likes device post.postKey likes snapshot.IsNull := by
  obtain ⟨alone, count, record⟩ := upToDate (snapshot, post) pending
  rw [← Likes.State.view_replica] at count record
  refine ⟨?_, count.symm.trans held, ?_⟩
  · intro entry member different write inside path
    obtain ⟨old, present, rfl⟩ := List.mem_map.mp member
    exact alone old present different (List.mem_map.mpr ⟨write, inside, path⟩)
  · rw [decide_eq_true_eq]
    exact record

/-- Up-to-date steps leave the pending writes to a count with one device. -/
theorem Exclusive.step {action : Action Device Image} (exclusive : Exclusive before.likes.replica)
    (traffic : Traffic uid before after action) (upToDate : UpToDate uid before action) :
    Exclusive after.likes.replica := by
  -- Deeds of one device may join what is in flight if nobody else writes their counts.
  have joins {device : Device} {deeds : List Deed}
      (performed : after.likes.replica = perform uid before.likes.replica device deeds)
      (alone : ∀ entry ∈ before.likes.replica.pending, entry.1 ≠ device → ∀ write ∈ entry.2,
        ∀ deed ∈ deeds, ∀ postKey, (deed.assignment (uid device)).path = likesCountRef postKey →
          write.path ≠ likesCountRef postKey) : Exclusive after.likes.replica := by
    rw [performed]
    intro first firstMember second secondMember left leftInside right rightInside postKey leftPath
      rightPath
    rcases List.mem_append.mp firstMember with firstOld | firstNew
    · rcases List.mem_append.mp secondMember with secondOld | secondNew
      · exact exclusive first firstOld second secondOld left leftInside right rightInside postKey
          leftPath rightPath
      · obtain ⟨batch, inside, rfl⟩ := List.mem_map.mp secondNew
        obtain ⟨deed, listed, rfl⟩ := List.mem_map.mp inside
        cases List.mem_singleton.mp rightInside
        by_contra different
        exact alone first firstOld different left leftInside deed listed postKey rightPath leftPath
    · obtain ⟨batch, inside, rfl⟩ := List.mem_map.mp firstNew
      obtain ⟨deed, listed, rfl⟩ := List.mem_map.mp inside
      cases List.mem_singleton.mp leftInside
      rcases List.mem_append.mp secondMember with secondOld | secondNew
      · by_contra different
        exact alone second secondOld (Ne.symm different) right rightInside deed listed postKey
          leftPath rightPath
      · obtain ⟨other, _, rfl⟩ := List.mem_map.mp secondNew
        rfl
  cases traffic with
  | like given object held checked performed records =>
      have latest := upToDate.given given held
      refine joins performed fun entry member different write inside deed listed postKey path => ?_
      simp only [likeDeeds, List.mem_cons, List.not_mem_nil, or_false] at listed
      rcases listed with rfl | rfl
      · rw [← path]
        exact latest.alone entry member different write inside
      · exact absurd (List.cons.inj path).1 (by decide)
  | publish fresh unused performed records =>
      refine joins performed fun entry member different write inside deed listed postKey path => ?_
      cases List.mem_singleton.mp listed
      obtain ⟨likes, same⟩ := Deed.eq_count_of_path path
      cases same
  | user profile performed records =>
      refine joins performed fun entry member different write inside deed listed postKey path => ?_
      cases List.mem_singleton.mp listed
      obtain ⟨likes, same⟩ := Deed.eq_count_of_path path
      cases same
  | serve serves records =>
      intro first firstMember second secondMember
      exact exclusive first (serves.mem_of_mem firstMember) second (serves.mem_of_mem secondMember)
  | quiet silent same records =>
      rw [same]
      exact exclusive

/-- What an up-to-date like starts from is settled. -/
theorem GivenLatest.settled {device : Device} {postKey : String} {likes : Int} {add : Bool}
    (latest : GivenLatest uid state device postKey likes add) (queued : Queued uid state)
    (distinct : Function.Injective uid) (present : Present (state.replica.view device) postKey) :
    Node.asInt (state.replica.settled.sub (likesCountRef postKey)) = some likes ∧
      (add = true ↔ (state.replica.settled.sub (likeRecordRef (uid device) postKey)).IsNull) := by
  have count : state.replica.settled.sub (likesCountRef postKey) =
      (state.replica.view device).sub (likesCountRef postKey) := by
    refine Replica.sub_settled fun entry member different write inside => ?_
    obtain ⟨deed, issued⟩ := queued.performing entry member
    have alone := latest.alone entry member different write inside
    have same := inside
    rw [issued] at same
    cases List.mem_singleton.mp same
    cases deed with
    | count other otherLikes =>
        refine incomparable_append_cons ["fundraisers"] ?_ ["likes"] ["likes"]
        rintro rfl
        exact alone rfl
    | publish key captionField imgUrl =>
        refine incomparable_append_cons ["fundraisers"] ?_ [] ["likes"]
        rintro rfl
        exact present (queued.creating.view_isNull member inside ⟨key, rfl⟩ different)
    | user other => exact incomparable_append_cons [] (by decide) _ _
  have record : state.replica.settled.sub (likeRecordRef (uid device) postKey) =
      (state.replica.view device).sub (likeRecordRef (uid device) postKey) := by
    refine Replica.sub_settled fun entry member different write inside => ?_
    obtain ⟨deed, issued⟩ := queued.performing entry member
    rw [issued] at inside
    cases List.mem_singleton.mp inside
    exact Deed.incomparable_record fun same => (different (distinct same)).elim
  rw [count, record]
  exact ⟨latest.count, latest.record⟩

end MyFundi.Community
