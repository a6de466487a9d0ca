import MyFundi.Feed.LikeCount

/-!
# Counts that agree with the records

The counts of a state are judged on its settled database, the one left once every
write issued has been applied. A callback keeps them right when what it was given is
up to date; from then on the order in which the server applies the writes of
different devices does not matter, because they go to different places.
-/

namespace MyFundi

open Foundation

namespace Likes

variable {Device Image : Type}

/-- The database once every write issued has been applied. -/
def State.settled (state : State Device Image) : Node :=
  applyWrites state.database (state.inFlight.map Prod.snd)

/-- The write replaces the count of a post. -/
def WritesCount (write : Write) (postKey : String) : Prop :=
  likesCountRef postKey ∈ write.assignments.map Assignment.path

instance (write : Write) (postKey : String) : Decidable (WritesCount write postKey) :=
  inferInstanceAs (Decidable (_ ∈ _))

/-- An unapplied write of a device replaces one count or one record of its user. -/
def IsLikeWrite (uid : Device → String) (entry : Device × Write) : Prop :=
  ∃ data placed, entry.2.assignments = [⟨LikeData.ref data, placed⟩] ∧
    ∀ owner postKey, data = .record owner postKey → owner = uid entry.1

/-- What holds in every run whose callbacks are up to date: the unapplied writes are
those of likes, those to one count are all of one device, and the counts of the
settled database agree with its records. -/
structure Agreeing (uid : Device → String) (state : State Device Image) : Prop where
  issued : ∀ entry ∈ state.inFlight, IsLikeWrite uid entry
  exclusive : ∀ first ∈ state.inFlight, ∀ second ∈ state.inFlight, ∀ postKey,
    WritesCount first.2 postKey → WritesCount second.2 postKey → first.1 = second.1
  counts : CountsAgree state.settled

/-- The answer a callback is given and the post its cell shows. -/
def Client.pendingLike (client : Client Image) (index : Nat) : Option (Node × Post) := do
  let (read, snapshot) ← client.callbacks[index]?
  let object ← (client.cells read.cell).post
  let post ← client.objects[object]?
  return (snapshot, post)

/-- No read, answer, write or event is in flight. -/
structure Quiescent (state : State Device Image) : Prop where
  writes : state.inFlight = []
  devices : ∀ device, (state.clients device).reads = [] ∧ (state.clients device).callbacks = [] ∧
    (state.clients device).events = []

instance [Fintype Device] (state : State Device Image) : Decidable (Quiescent state) :=
  decidable_of_iff (state.inFlight = [] ∧ ∀ device, (state.clients device).reads = [] ∧
    (state.clients device).callbacks = [] ∧ (state.clients device).events = [])
    ⟨fun idle => ⟨idle.1, idle.2⟩, fun idle => ⟨idle.writes, idle.devices⟩⟩

variable {uid : Device → String} {state : State Device Image}

/-- Unapplied writes of different devices go to different places. -/
theorem Agreeing.apart (agreeing : Agreeing uid state) (distinct : Function.Injective uid)
    {first second : Device × Write} (firstMember : first ∈ state.inFlight)
    (secondMember : second ∈ state.inFlight) (different : first.1 ≠ second.1) :
    ∀ left ∈ first.2.assignments, ∀ right ∈ second.2.assignments,
      Incomparable left.path right.path := by
  obtain ⟨leftData, leftPlaced, leftAssigned, leftOwner⟩ := agreeing.issued first firstMember
  obtain ⟨rightData, rightPlaced, rightAssigned, rightOwner⟩ := agreeing.issued second secondMember
  rw [leftAssigned, rightAssigned]
  simp only [List.mem_singleton, forall_eq]
  rcases LikeData.ref_separate leftData rightData with same | apart
  · subst same
    exfalso
    cases leftData with
    | count postKey =>
        refine different (agreeing.exclusive first firstMember second secondMember postKey ?_ ?_)
        · rw [WritesCount, leftAssigned]
          exact List.mem_singleton_self _
        · rw [WritesCount, rightAssigned]
          exact List.mem_singleton_self _
    | record owner postKey =>
        exact different (distinct ((leftOwner owner postKey rfl).symm.trans
          (rightOwner owner postKey rfl)))
  · exact apart

variable [DecidableEq Device]

/-- What a device sees at a place only it writes to is what is settled there. -/
theorem Agreeing.sub_settled (agreeing : Agreeing uid state) (device : Device) (data : LikeData)
    (others : ∀ entry ∈ state.inFlight, entry.1 ≠ device →
      ∀ assignment ∈ entry.2.assignments, assignment.path ≠ data.ref) :
    state.settled.sub data.ref = (state.view device).sub data.ref := by
  have separate : ∀ entry ∈ state.inFlight, ∀ assignment ∈ entry.2.assignments,
      assignment.path = data.ref ∨ Incomparable assignment.path data.ref := by
    intro entry member
    obtain ⟨written, placed, assigned, _⟩ := agreeing.issued entry member
    rw [assigned]
    simp only [List.mem_singleton, forall_eq]
    exact (LikeData.ref_separate written data).imp (congrArg LikeData.ref) id
  have kept : writesAt data.ref ((state.inFlight.filter (·.1 = device)).flatMap
      fun entry => entry.2.assignments) =
        writesAt data.ref (state.inFlight.flatMap fun entry => entry.2.assignments) :=
    writesAt_flatMap_filter fun entry member away =>
      others entry member (of_decide_eq_false away)
  have all (entries : List (Device × Write)) (included : ∀ entry ∈ entries,
      entry ∈ state.inFlight) :
      (applyWrites state.database (entries.map Prod.snd)).sub data.ref =
        (latest data.ref (entries.flatMap fun entry => entry.2.assignments)).getD
          (state.database.sub data.ref) := by
    rw [applyWrites, List.flatMap_map]
    apply Tree.sub_applyAll
    intro assignment member
    obtain ⟨entry, inside, member⟩ := List.mem_flatMap.mp member
    exact separate entry (included entry inside) assignment member
  rw [State.settled, State.view, all _ fun _ member => member,
    all _ fun _ member => List.mem_of_mem_filter member, latest, latest, kept]

/-- What a device sees of a count that no other device is writing is settled. -/
theorem Agreeing.sub_settled_count (agreeing : Agreeing uid state) {device : Device}
    {postKey : String}
    (others : ∀ entry ∈ state.inFlight, entry.1 ≠ device → ¬ WritesCount entry.2 postKey) :
    state.settled.sub (likesCountRef postKey) =
      (state.view device).sub (likesCountRef postKey) := by
  apply agreeing.sub_settled device (.count postKey)
  intro entry member different assignment inside same
  exact others entry member different (List.mem_map.mpr ⟨assignment, inside, same⟩)

/-- What a device sees of its user's record is settled. -/
theorem Agreeing.sub_settled_record (agreeing : Agreeing uid state)
    (distinct : Function.Injective uid) (device : Device) (postKey : String) :
    state.settled.sub (likeRecordRef (uid device) postKey) =
      (state.view device).sub (likeRecordRef (uid device) postKey) := by
  apply agreeing.sub_settled device (.record (uid device) postKey)
  intro entry member different assignment inside same
  obtain ⟨data, placed, assigned, owner⟩ := agreeing.issued entry member
  rw [assigned, List.mem_singleton] at inside
  subst inside
  exact different (distinct (owner _ _ (LikeData.ref_injective same)).symm)

omit [DecidableEq Device] in
/-- Writes just issued are settled after all others. -/
theorem State.settled_issue {issuing : State Device Image} {device : Device} {writes : List Write}
    (database : issuing.database = state.database)
    (issued : issuing.inFlight = state.inFlight ++ writes.map (device, ·)) :
    issuing.settled = applyWrites state.settled writes := by
  unfold State.settled
  rw [database, issued, List.map_append, applyWrites_append, List.map_map]
  simp only [Function.comp_def, List.map_id']

omit [DecidableEq Device] in
/-- Applying the first unapplied write of a device settles nothing new. -/
theorem Agreeing.settled_serve {served : State Device Image} (agreeing : Agreeing uid state)
    (distinct : Function.Injective uid) {device : Device} {front rest : List (Device × Write)}
    {write : Write} (first : state.inFlight = front ++ (device, write) :: rest)
    (others : ∀ entry ∈ front, entry.1 ≠ device)
    (database : served.database = applyWrites state.database [write])
    (inFlight : served.inFlight = front ++ rest) : served.settled = state.settled := by
  have here : (device, write) ∈ state.inFlight := by
    rw [first]
    exact List.mem_append_right _ List.mem_cons_self
  obtain ⟨data, placed, assigned, _⟩ := agreeing.issued _ here
  -- The writes in front are those of other devices, so the write may go before them.
  have moved := Tree.applyAll_move state.database ⟨data.ref, placed⟩
    ((front.map Prod.snd).flatMap Write.assignments)
    ((rest.map Prod.snd).flatMap Write.assignments) (by
      intro earlier member
      obtain ⟨issued, inside, member⟩ := List.mem_flatMap.mp member
      obtain ⟨entry, inFront, rfl⟩ := List.mem_map.mp inside
      refine agreeing.apart distinct ?_ here (others entry inFront) earlier member _ ?_
      · rw [first]
        exact List.mem_append_left _ inFront
      · rw [assigned]
        exact List.mem_singleton_self _)
  have write : write.assignments = [⟨data.ref, placed⟩] := assigned
  unfold State.settled
  rw [database, inFlight, first]
  unfold applyWrites
  rw [List.map_append, List.map_append, List.map_cons, List.flatMap_append, List.flatMap_append,
    List.flatMap_cons, List.flatMap_cons, List.flatMap_nil, write]
  exact moved.symm

variable (uid) in
/-- What a callback is given is up to date: no other device has an unapplied write to
the post's count, the post object in the cell has the count the device sees, and the
answer still agrees with the record the device sees. -/
def UpToDate (before : State Device Image) : Action Device Image → Prop
  | .callback device index => ∀ pending ∈ (before.clients device).pendingLike index,
      (∀ entry ∈ before.inFlight, entry.1 ≠ device → ¬ WritesCount entry.2 pending.2.postKey) ∧
        pending.2.likes =
          Node.asInt ((before.view device).sub (likesCountRef pending.2.postKey)) ∧
        (pending.1.IsNull ↔
          ((before.view device).sub (likeRecordRef (uid device) pending.2.postKey)).IsNull)
  | _ => True

instance (before : State Device Image) :
    (action : Action Device Image) → Decidable (UpToDate uid before action)
  | .callback device index =>
      inferInstanceAs (Decidable (∀ pending ∈ (before.clients device).pendingLike index, _ ∧ _ ∧ _))
  | .tap _ _ | .answer _ _ | .serve _ | .event _ | .configure _ _ _ _ => .isTrue trivial

variable {firebase : Firebase} {before after : State Device Image}

/-- The order in which writes of different devices are applied does not matter. -/
theorem Agreeing.serve {device : Device} (agreeing : Agreeing uid before)
    (distinct : Function.Injective uid)
    (step : (machine firebase uid).Step before (.serve device) after) : Agreeing uid after := by
  obtain ⟨front, write, rest, first, others, database, inFlight⟩ := step_serve step
  have still {entry : Device × Write} (member : entry ∈ after.inFlight) :
      entry ∈ before.inFlight := by
    rw [inFlight] at member
    rw [first]
    exact List.mem_append.mpr ((List.mem_append.mp member).imp id (List.mem_cons_of_mem _))
  refine ⟨fun entry member => agreeing.issued entry (still member), ?_, ?_⟩
  · intro left leftMember right rightMember
    exact agreeing.exclusive left (still leftMember) right (still rightMember)
  · rw [agreeing.settled_serve distinct first others database inFlight]
    exact agreeing.counts

omit [DecidableEq Device] in
/-- The two writes of a like are like writes of the device, and one of them replaces
the count of the post. -/
theorem isLikeWrite_likeWrites {device : Device} {postKey : String} {likes : Int} {add : Bool}
    {write : Write} (member : write ∈ likeWrites (uid device) postKey likes add) :
    IsLikeWrite uid (device, write) ∧ ∀ other, WritesCount write other → other = postKey := by
  have single (data : LikeData) (placed : Node) (assigned : write.assignments = [⟨data.ref, placed⟩])
      (other : String) (writes : WritesCount write other) : data = .count other := by
    rw [WritesCount, assigned] at writes
    have same : (LikeData.count other).ref = data.ref := List.mem_singleton.mp writes
    exact (LikeData.ref_injective same).symm
  simp only [likeWrites, List.mem_cons, List.not_mem_nil, or_false] at member
  rcases member with rfl | rfl
  · refine ⟨⟨.count postKey, _, rfl, by simp⟩, fun other writes => ?_⟩
    exact (LikeData.count.inj (single (.count postKey) _ rfl other writes)).symm
  · have assigned : ∃ placed, (if add = true then
        Write.setValue (likeRecordRef (uid device) postKey) (.leaf (.bool true))
        else .removeValue (likeRecordRef (uid device) postKey)).assignments =
          [⟨(LikeData.record (uid device) postKey).ref, placed⟩] := by
      cases add <;> exact ⟨_, rfl⟩
    obtain ⟨placed, assigned⟩ := assigned
    refine ⟨⟨.record (uid device) postKey, placed, assigned, fun owner key same => ?_⟩,
      fun other writes => ?_⟩
    · exact (LikeData.record.inj same).1.symm
    · cases single _ placed assigned other writes

omit [DecidableEq Device] in
/-- A like for a post whose count no other device is writing leaves the writes to each
count with one device. -/
theorem Agreeing.exclusive_issue {device : Device} {postKey : String} {likes : Int} {add : Bool}
    (agreeing : Agreeing uid before)
    (others : ∀ entry ∈ before.inFlight, entry.1 ≠ device → ¬ WritesCount entry.2 postKey)
    (issued : after.inFlight = before.inFlight ++
      (likeWrites (uid device) postKey likes add).map (device, ·)) :
    ∀ first ∈ after.inFlight, ∀ second ∈ after.inFlight, ∀ other,
      WritesCount first.2 other → WritesCount second.2 other → first.1 = second.1 := by
  -- A new write shares its count only with writes of the same device.
  have shared {entry : Device × Write} (old : entry ∈ before.inFlight) {write : Write}
      (new : write ∈ likeWrites (uid device) postKey likes add) {other : String}
      (left : WritesCount entry.2 other) (right : WritesCount write other) :
      entry.1 = device := by
    cases (isLikeWrite_likeWrites new).2 other right
    by_contra different
    exact others entry old different left
  intro left leftMember right rightMember other leftCount rightCount
  rw [issued] at leftMember rightMember
  rcases List.mem_append.mp leftMember with leftOld | leftNew
  · rcases List.mem_append.mp rightMember with rightOld | rightNew
    · exact agreeing.exclusive left leftOld right rightOld other leftCount rightCount
    · obtain ⟨write, inside, rfl⟩ := List.mem_map.mp rightNew
      exact shared leftOld inside leftCount rightCount
  · obtain ⟨write, inside, rfl⟩ := List.mem_map.mp leftNew
    rcases List.mem_append.mp rightMember with rightOld | rightNew
    · exact (shared rightOld inside rightCount leftCount).symm
    · obtain ⟨issue, _, rfl⟩ := List.mem_map.mp rightNew
      rfl

/-- An up-to-date callback moves a count together with its record. -/
theorem Agreeing.callback {device : Device} {index : Nat} (agreeing : Agreeing uid before)
    (distinct : Function.Injective uid) (coherent : Coherent uid before)
    (step : (machine firebase uid).Step before (.callback device index) after)
    (upToDate : UpToDate uid before (.callback device index)) : Agreeing uid after := by
  obtain ⟨read, snapshot, object, post, likes, pending, held, present, counted, checked, database,
    issued⟩ := step_callback coherent step
  have found : (before.clients device).pendingLike index = some (snapshot, post) := by
    simp only [Client.pendingLike, pending, held, present, Option.bind_eq_bind, Option.bind_some,
      Option.pure_def]
  obtain ⟨others, count, answer⟩ := upToDate (snapshot, post) found
  refine ⟨?_, agreeing.exclusive_issue others issued, ?_⟩
  · intro entry member
    rw [issued] at member
    rcases List.mem_append.mp member with old | new
    · exact agreeing.issued entry old
    · obtain ⟨write, inside, rfl⟩ := List.mem_map.mp new
      exact (isLikeWrite_likeWrites inside).1
  · rw [State.settled_issue database issued]
    apply agreeing.counts.likeWrites
    · rw [agreeing.sub_settled_count others, ← counted]
      exact count.symm
    · rw [decide_eq_true_eq, answer, agreeing.sub_settled_record distinct]
    · simpa only [decide_eq_true_eq] using checked

/-- Every up-to-date step keeps counts and records in agreement. -/
theorem Agreeing.step {action : Action Device Image} (agreeing : Agreeing uid before)
    (distinct : Function.Injective uid) (coherent : Coherent uid before)
    (step : (machine firebase uid).Step before action after)
    (upToDate : UpToDate uid before action) : Agreeing uid after := by
  have unchanged (same : after.database = before.database ∧ after.inFlight = before.inFlight) :
      Agreeing uid after := by
    have settled : after.settled = before.settled := by
      unfold State.settled
      rw [same.1, same.2]
    exact ⟨same.2 ▸ agreeing.issued, same.2 ▸ agreeing.exclusive, settled ▸ agreeing.counts⟩
  cases action with
  | callback device index => exact agreeing.callback distinct coherent step upToDate
  | serve device => exact agreeing.serve distinct step
  | tap device cell => exact unchanged (step_other step (by simp) (by simp))
  | answer device index => exact unchanged (step_other step (by simp) (by simp))
  | event device => exact unchanged (step_other step (by simp) (by simp))
  | configure device cell row img => exact unchanged (step_other step (by simp) (by simp))

omit [DecidableEq Device] in
theorem agreeing_initial {database : Node} (agree : CountsAgree database) :
    Agreeing uid (initial database : State Device Image) where
  issued := by
    intro entry member
    cases member
  exclusive := by
    intro first member
    cases member
  counts := agree

/-- **The counts agree with the records.** Start from a database in which the count
of every fundraiser is the number of users with a like record for it, with any
number of devices of different users. In every run whose callbacks are up to date,
the counts agree with the records again in every quiescent state reached. -/
theorem counts_agree_of_upToDate (firebase : Firebase) (uid : Device → String)
    (distinct : Function.Injective uid) (database : Node) (agree : CountsAgree database)
    (actions : List (Action Device Image)) (finish : State Device Image)
    (run : (machine firebase uid).Run (initial database) actions finish)
    (upToDate : (machine firebase uid).Guarded (UpToDate uid) (initial database) actions)
    (quiescent : Quiescent finish) : CountsAgree finish.database := by
  have reached : Coherent uid finish ∧ Agreeing uid finish :=
    run.invariant_along upToDate
      (fun before _ _ (held : Coherent uid before ∧ Agreeing uid before) step fresh =>
        ⟨held.1.step step, held.2.step distinct held.1 step fresh⟩)
      ⟨coherent_initial database, agreeing_initial agree⟩
  have counts := reached.2.counts
  rw [State.settled, quiescent.writes] at counts
  exact counts

section TwoUsers

/-- One fundraiser that nobody likes. -/
def oneFundraiser : Node :=
  Tree.null.set (DataService.refFundraisers.child "walk") walkRecord

/-- Ann's device and Bob's. -/
def twoUsers (device : Bool) : String :=
  if device then "ann" else "bob"

theorem twoUsers_injective : Function.Injective twoUsers := by decide

/-- Both devices show the fundraiser in their first cell. -/
def openFeeds : List (Action Bool Unit) :=
  [.event true, .event false, .configure true 0 0 none, .configure false 0 0 none]

/-- One user likes the fundraiser, and the other after seeing the new count. -/
def oneAfterTheOther : List (Action Bool Unit) :=
  openFeeds ++ [.tap true 0, .answer true 0, .callback true 0, .serve true, .serve true,
    .event true, .event false, .configure false 0 0 none,
    .tap false 0, .answer false 0, .callback false 0, .serve false, .serve false,
    .event true, .event false]

/-- Two users who like a fundraiser one after the other are both counted. -/
theorem one_after_the_other_counts_both :
    ∃ finish, (machine Firebase.byKey twoUsers).execute (initial oneFundraiser)
        oneAfterTheOther = some finish ∧ CountsAgree finish.database := by
  have reached : ((machine Firebase.byKey twoUsers).execute (initial oneFundraiser)
      oneAfterTheOther).map (fun finish => decide (Quiescent finish)) = some true := by decide
  obtain ⟨finish, executed, quiescent⟩ := Option.map_eq_some_iff.mp reached
  exact ⟨finish, executed, counts_agree_of_upToDate Firebase.byKey twoUsers twoUsers_injective
    oneFundraiser (by decide) oneAfterTheOther finish (Machine.run_of_execute executed)
    (Machine.guarded_of_respects (by decide)) (of_decide_eq_true quiescent)⟩

/-- Both users tap before either sees the other's like. -/
def bothAtOnce : List (Action Bool Unit) :=
  openFeeds ++ [.tap true 0, .tap false 0, .answer true 0, .answer false 0,
    .callback true 0, .callback false 0, .serve true, .serve true, .serve false, .serve false,
    .event true, .event false]

/-- Two users who like a fundraiser at once are counted as one, although their cells
keep showing it. -/
theorem concurrent_taps_lose_a_like :
    ¬ ∀ (firebase : Firebase) (uid : Bool → String) (database : Node)
        (actions : List (Action Bool Unit)) (finish : State Bool Unit),
      Function.Injective uid → CountsAgree database →
      (machine firebase uid).Run (initial database) actions finish →
      (machine firebase uid).Guarded StillShown (initial database) actions →
      Quiescent finish → CountsAgree finish.database := by
  intro all
  have reached : ((machine Firebase.byKey twoUsers).execute (initial oneFundraiser)
      bothAtOnce).map (fun finish =>
        (decide (Quiescent finish), decide (CountsAgree finish.database))) =
          some (true, false) := by
    decide
  obtain ⟨finish, executed, result⟩ := Option.map_eq_some_iff.mp reached
  rw [Prod.mk.injEq] at result
  exact of_decide_eq_false result.2 (all Firebase.byKey twoUsers oneFundraiser bothAtOnce finish
    twoUsers_injective (by decide) (Machine.run_of_execute executed)
    (Machine.guarded_of_respects (by decide)) (of_decide_eq_true result.1))

end TwoUsers

end Likes

end MyFundi
