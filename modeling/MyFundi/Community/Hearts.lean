import MyFundi.Community.Publication
import MyFundi.Foundation.Queues

/-!
# Hearts

A configured cell reads its user's like record and shows what it gets, and a like turns the
heart around without waiting for the record to be stored. A device sees its own writes at
once and nobody else writes its user's records, so a heart with no read to come tells the
record, if the reads of its cell come back in the order in which they were started and no
like of its post overtakes one of them.
-/

namespace MyFundi

open Foundation

namespace Community

variable {Device Image Data : Type} [DecidableEq Device] {uid : Device → String}
  {before after : State Device Image Data}

/-- A like record that a device sees changes by a like of its own only. -/
theorem Queued.record_kept {action : Action Device Image} (queued : Queued uid before.likes)
    (distinct : Function.Injective uid) (traffic : Traffic uid before after action)
    {device : Device} {key : String}
    (away : ∀ index, action = .likes (.callback device index) →
      ∀ pending ∈ (before.likes.clients device).pendingLike index, pending.2.postKey ≠ key) :
    (after.likes.replica.view device).sub (likeRecordRef (uid device) key) =
      (before.likes.replica.view device).sub (likeRecordRef (uid device) key) := by
  have issued {issuer : Device} {deeds : List Deed}
      (performed : after.likes.replica = perform uid before.likes.replica issuer deeds)
      (others : issuer = device → ∀ deed ∈ deeds, ∀ write, deed = .user write →
        write.child ≠ .like key) :
      (after.likes.replica.view device).sub (likeRecordRef (uid device) key) =
        (before.likes.replica.view device).sub (likeRecordRef (uid device) key) := by
    rw [performed, perform, Replica.view_issue]
    split
    · rename_i same
      refine Tree.sub_applyAll_of_incomparable _ fun assignment member => ?_
      obtain ⟨batch, inside, member⟩ := List.mem_flatten.mp member
      obtain ⟨deed, listed, rfl⟩ := List.mem_map.mp inside
      cases List.mem_singleton.mp member
      exact Deed.incomparable_record fun _ => others same deed listed
    · rfl
  cases traffic with
  | like given object held checked performed records =>
      refine issued performed fun same deed member write user => ?_
      subst same
      have different := away _ rfl _ given
      rcases List.mem_cons.mp member with rfl | member
      · cases user
      · cases List.mem_singleton.mp member
        cases user
        split <;> exact fun same => different (UserChild.like.inj same)
  | publish fresh unused performed records =>
      refine issued performed fun _ deed member write user => ?_
      cases List.mem_singleton.mp member
      cases user
  | @user issuer write profile performed records =>
      refine issued performed fun _ deed member other same => ?_
      cases List.mem_singleton.mp member
      obtain rfl := Deed.user.inj same
      cases write with
      | setLike postKey => exact profile.elim
      | removeLike postKey => exact profile.elim
      | createFirebaseDBUser provider => rintro ⟨⟩
      | updateFirebaseProfileName name => rintro ⟨⟩
      | updateFirebaseProfileImage imgUrl => rintro ⟨⟩
  | quiet silent same records => rw [same]
  | @serve server batch serves records =>
      by_cases own : device = server
      · subst own
        rw [serves.view_self]
      · obtain ⟨deed, rfl, tree⟩ := queued.deed_of_serves serves
        rw [Replica.view, Replica.view, serves.own_other own]
        apply Tree.sub_applyAll_congr
        rw [serves.tree]
        exact Tree.sub_set_of_incomparable _ _ (Deed.incomparable_record fun same =>
          (own (distinct same).symm).elim)

end Community

namespace Hearts

open Community

variable {Device Image Data : Type} [DecidableEq Device]

/-- A read of a like record that the configuration of a cell has started. -/
structure Read where
  cell : Nat
  ref : DatabaseReference

/-- The devices, each with the reads of its cells not yet answered and the answers whose
callback has not run. -/
structure State (Device Image Data : Type) where
  community : Community.State Device Image Data
  reads : Device → List Read
  callbacks : Device → List (Read × Node)

/-- The actions of the app, and the reads that configurations start: one is answered, and its
callback sets the icon. -/
inductive Action (Device Image : Type) where
  | community (action : Community.Action Device Image)
  | answer (device : Device) (index : Nat)
  | callback (device : Device) (index : Nat)

/-- What the callback does to the cell of its read. -/
def setHeart (client : Likes.Client Image) (cell : Nat) (snapshot : Node) : Likes.Client Image :=
  { client with
    cells := Function.update client.cells cell
      ((client.cells cell).configureCellCallback snapshot) }

/-- The read that an action starts on a device. -/
def started (after : Community.State Device Image Data) (device : Device) :
    Community.Action Device Image → List Read
  | .likes (.configure other cell _ _) =>
      if other = device then
        ((after.likes.clients device).cells cell).likesRef.toList.map fun ref => ⟨cell, ref⟩
      else []
  | _ => []

variable (firebase : Firebase) (uid : Device → String) (jpeg : Image → Option Data)
  (placeholder : Option Image)

/-- A configuration starts a read of the cell's new reference. -/
def handle (state : State Device Image Data) :
    Action Device Image → Option (State Device Image Data)
  | .community action => do
      let community ← Community.handle firebase uid jpeg placeholder state.community action
      return { state with
        community := community
        reads := fun device => state.reads device ++ started community device action }
  | .answer device index => do
      let read ← (state.reads device)[index]?
      return { state with
        reads := Function.update state.reads device ((state.reads device).eraseIdx index)
        callbacks := Function.update state.callbacks device (state.callbacks device ++
          [(read, (state.community.likes.view device).sub read.ref)]) }
  | .callback device index => do
      let (read, snapshot) ← (state.callbacks device)[index]?
      let likes := state.community.likes
      return { state with
        community := { state.community with
          likes := likes.setClient device (setHeart (likes.clients device) read.cell snapshot) }
        callbacks :=
          Function.update state.callbacks device ((state.callbacks device).eraseIdx index) }

/-- A read is answered once, and so is its callback run. -/
def Enabled (state : State Device Image Data) : Action Device Image → Prop
  | .community action => Community.Enabled state.community action
  | .answer device index => index < (state.reads device).length
  | .callback device index => index < (state.callbacks device).length

instance (state : State Device Image Data) :
    (action : Action Device Image) → Decidable (Enabled state action)
  | .community action => inferInstanceAs (Decidable (Community.Enabled state.community action))
  | .answer _ _ | .callback _ _ => inferInstanceAs (Decidable (_ < _))

/-- The devices with the reads of their cells. -/
def machine : Machine (State Device Image Data) (Action Device Image) where
  enabled := Enabled
  handle := handle firebase uid jpeg placeholder

/-- Devices that have just opened the feed. -/
def initial (database : Node) (forms : Device → FeedVC Image) : State Device Image Data where
  community := Community.initial database forms
  reads := fun _ => []
  callbacks := fun _ => []

/-- No read of the cell is to come. -/
def Idle (state : State Device Image Data) (device : Device) (cell : Nat) : Prop :=
  (∀ read ∈ state.reads device, read.cell ≠ cell) ∧
    ∀ answered ∈ state.callbacks device, answered.1.cell ≠ cell

/-- What the heart of a cell needs of a step: reads of the cell are answered, and their
callbacks run, in order, and a like of the post that the cell shows runs through this cell,
while no answer for it waits. -/
def InTurn (device : Device) (cell : Nat) (before : State Device Image Data) :
    Action Device Image → Prop
  | .answer other index => other = device →
      ∀ read ∈ (before.reads device)[index]?, read.cell = cell →
        ∀ earlier ∈ (before.reads device).take index, earlier.cell ≠ cell
  | .callback other index => other = device →
      ∀ answered ∈ (before.callbacks device)[index]?, answered.1.cell = cell →
        ∀ earlier ∈ (before.callbacks device).take index, earlier.1.cell ≠ cell
  | .community (.likes (.callback other index)) => other = device →
      ∀ pending ∈ (before.community.likes.clients device).callbacks[index]?,
        (pending.1.cell = cell → ∀ answered ∈ before.callbacks device, answered.1.cell ≠ cell) ∧
          (pending.1.cell ≠ cell →
            (before.community.likes.clients device).shownKey pending.1.cell ≠
              (before.community.likes.clients device).shownKey cell)
  | _ => True

instance (device : Device) (cell : Nat) (before : State Device Image Data) :
    (action : Action Device Image) → Decidable (InTurn device cell before action)
  | .answer _ _ => inferInstanceAs (Decidable (_ = _ → ∀ read ∈ _, _ → ∀ earlier ∈ _, _))
  | .callback _ _ => inferInstanceAs (Decidable (_ = _ → ∀ answered ∈ _, _ → ∀ earlier ∈ _, _))
  | .community (.likes (.callback _ _)) => inferInstanceAs (Decidable
      (_ = _ → ∀ pending ∈ _, (_ → ∀ answered ∈ _, _) ∧ (_ → _)))
  | .community (.likes (.tap _ _)) | .community (.likes (.answer _ _))
  | .community (.likes (.serve _)) | .community (.likes (.event _))
  | .community (.likes (.configure _ _ _ _)) | .community (.publishing _ _)
  | .community (.userWrite _ _) => .isTrue trivial

/-- How the heart of a cell stands to what its device sees, with the answers and the reads
of the cell that are to come: without any it tells the record, the last answer is as the
record is, and the last read is of the record. -/
structure Tells (shown : PostCell Image) (view : Node) (answers : List (Read × Node))
    (reads : List Read) : Prop where
  told : ∀ ref ∈ shown.likesRef, answers = [] → reads = [] →
    shown.likeImage = some (PostCell.heartIcon (view.sub ref))
  answered : ∀ ref ∈ shown.likesRef, reads = [] → ∀ last ∈ answers.getLast?,
    PostCell.heartIcon last.2 = PostCell.heartIcon (view.sub ref)
  asked : ∀ ref ∈ shown.likesRef, ∀ last ∈ reads.getLast?, last.ref = ref

variable {shown changed : PostCell Image} {view next : Node} {answers : List (Read × Node)}
  {reads : List Read}

omit [DecidableEq Device] in
/-- Nothing matters but the cell's record, its heart and what is seen of the record. -/
theorem Tells.congr (tells : Tells shown view answers reads)
    (refers : changed.likesRef = shown.likesRef) (heart : changed.likeImage = shown.likeImage)
    (same : ∀ ref ∈ shown.likesRef, next.sub ref = view.sub ref) :
    Tells changed next answers reads := by
  refine ⟨?_, ?_, ?_⟩
  · intro ref holds
    rw [refers] at holds
    rw [heart, same ref holds]
    exact tells.told ref holds
  · intro ref holds
    rw [refers] at holds
    rw [same ref holds]
    exact tells.answered ref holds
  · rw [refers]
    exact tells.asked

/-- A read of the cell's record is started. -/
theorem Tells.of_asked (shown : PostCell Image) (view : Node) (answers : List (Read × Node))
    (reads : List Read) (cell : Nat) :
    Tells shown view answers (reads ++ shown.likesRef.toList.map fun ref => ⟨cell, ref⟩) := by
  have asked {ref : DatabaseReference} (holds : ref ∈ shown.likesRef) :
      reads ++ (shown.likesRef.toList.map fun ref => ⟨cell, ref⟩) = reads ++ [⟨cell, ref⟩] := by
    rw [show shown.likesRef = some ref from holds]
    rfl
  refine ⟨?_, ?_, ?_⟩
  · intro ref holds _ none
    rw [asked holds] at none
    exact (List.append_ne_nil_of_right_ne_nil _ (List.cons_ne_nil _ _) none).elim
  · intro ref holds none
    rw [asked holds] at none
    exact (List.append_ne_nil_of_right_ne_nil _ (List.cons_ne_nil _ _) none).elim
  · intro ref holds last final
    rw [asked holds, List.getLast?_concat] at final
    cases final
    rfl

/-- The first read is answered with what the device sees. -/
theorem Tells.answer {read : Read} (tells : Tells shown view answers (read :: reads)) :
    Tells shown view (answers ++ [(read, view.sub read.ref)]) reads := by
  refine ⟨?_, ?_, ?_⟩
  · intro ref _ none
    exact (List.append_ne_nil_of_right_ne_nil _ (List.cons_ne_nil _ _) none).elim
  · rintro ref holds rfl last final
    rw [List.getLast?_concat] at final
    cases final
    rw [tells.asked ref holds read rfl]
  · intro ref holds last final
    refine tells.asked ref holds last ?_
    rw [List.getLast?_cons, final]
    rfl

/-- The callback of the first answer runs. -/
theorem Tells.callback {answered : Read × Node}
    (tells : Tells shown view (answered :: answers) reads) :
    Tells (shown.configureCellCallback answered.2) view answers reads := by
  refine ⟨?_, ?_, tells.asked⟩
  · rintro ref holds rfl none
    exact congrArg some (tells.answered ref holds none answered rfl)
  · intro ref holds none last final
    refine tells.answered ref holds none last ?_
    rw [List.getLast?_cons, final]
    rfl

/-- The answers for a cell, and the reads of it. -/
def answersOf (state : State Device Image Data) (device : Device) (cell : Nat) :
    List (Read × Node) :=
  (state.callbacks device).filter (·.1.cell = cell)

/-- The reads in flight of one cell. -/
def readsOf (state : State Device Image Data) (device : Device) (cell : Nat) : List Read :=
  (state.reads device).filter (·.cell = cell)

/-- What every step in turn keeps. -/
structure Telling (uid : Device → String) (device : Device) (cell : Nat)
    (state : State Device Image Data) : Prop where
  queued : Queued uid state.community.likes
  tells : Tells ((state.community.likes.clients device).cells cell)
    (state.community.likes.view device) (answersOf state device cell) (readsOf state device cell)

variable {firebase uid jpeg placeholder} {before after : State Device Image Data}
  {device : Device} {cell : Nat}

/-- A heart is no part of what a cell refers to. -/
theorem cells_setHeart {Field : Type} (field : PostCell Image → Field)
    (plain : ∀ (shown : PostCell Image) (snapshot : Node),
      field (shown.configureCellCallback snapshot) = field shown)
    (client : Likes.Client Image) (cell other : Nat) (snapshot : Node) :
    field ((setHeart client cell snapshot).cells other) = field (client.cells other) := by
  by_cases same : other = cell
  · subst same
    simp only [setHeart, Function.update_self, plain]
  · simp only [setHeart, Function.update_of_ne same]

theorem coherent_setHeart {owner : String} {client : Likes.Client Image}
    (coherent : client.Coherent owner) (cell : Nat) (snapshot : Node) :
    (setHeart client cell snapshot).Coherent owner := by
  have posts := cells_setHeart PostCell.post (fun _ _ => rfl) client cell
  have refs := cells_setHeart PostCell.likesRef (fun _ _ => rfl) client cell
  refine ⟨?_, ?_, coherent.reads, coherent.callbacks⟩
  · intro other object holds
    rw [posts] at holds
    exact coherent.valid other object holds
  · intro other
    rw [refs, coherent.cells other, Likes.Client.shownKey, Likes.Client.shownKey, posts]
    rfl

theorem armed_setHeart {client : Likes.Client Image} (armed : client.Armed) (cell : Nat)
    (snapshot : Node) : (setHeart client cell snapshot).Armed := by
  have posts := cells_setHeart PostCell.post (fun _ _ => rfl) client cell
  refine ⟨?_, ?_, armed.posts⟩
  · intro read member
    rw [posts]
    exact armed.reads read member
  · intro pending member
    rw [posts]
    exact armed.callbacks pending member

/-- An icon issues no write. -/
theorem queued_setHeart {likes : Likes.State Device Image} (queued : Queued uid likes)
    (device : Device) (cell : Nat) (snapshot : Node) :
    Queued uid (likes.setClient device (setHeart (likes.clients device) cell snapshot)) := by
  obtain ⟨supported, performing, creating⟩ := queued
  refine ⟨⟨?_, ?_, supported.ordered, ?_⟩, performing, creating⟩
  · exact supported.coherent.setClient (coherent_setHeart (supported.coherent device) cell snapshot)
  · exact Likes.forall_setClient supported.armed
      (armed_setHeart (supported.armed device) cell snapshot)
  · have seen := supported.seen device
    exact Likes.forall_setClient supported.seen ⟨seen.objects, seen.events⟩

/-- An answer in turn is what the device sees at the time. -/
theorem Telling.answer {other : Device} {index : Nat} (telling : Telling uid device cell before)
    (step : (machine firebase uid jpeg placeholder).Step before (.answer other index) after)
    (inTurn : InTurn device cell before (.answer other index)) : Telling uid device cell after := by
  obtain ⟨queued, tells⟩ := telling
  obtain ⟨_, handled⟩ := step
  obtain ⟨read, found, handled⟩ := Option.bind_eq_some_iff.mp handled
  cases handled
  refine ⟨queued, ?_⟩
  by_cases same : device = other
  · subst same
    by_cases own : read.cell = cell
    · have first := filter_eq_cons_eraseIdx found (decide_eq_true own) fun earlier member =>
        decide_eq_false (inTurn rfl read found own earlier member)
      rw [readsOf, first] at tells
      simp only [answersOf, readsOf, Function.update_self, List.filter_append,
        List.filter_singleton, own, decide_true, cond_true]
      exact tells.answer
    · have kept : ((before.reads device).eraseIdx index).filter (·.cell = cell) =
          (before.reads device).filter (·.cell = cell) :=
        filter_eraseIdx_of_neg found (decide_eq_false own)
      simp only [answersOf, readsOf, Function.update_self, List.filter_append,
        List.filter_singleton, own, decide_false, cond_false, List.append_nil, kept]
      exact tells
  · simp only [answersOf, readsOf, Function.update_of_ne same]
    exact tells

/-- A callback in turn sets the icon of the post its cell shows. -/
theorem Telling.callback {other : Device} {index : Nat} (telling : Telling uid device cell before)
    (step : (machine firebase uid jpeg placeholder).Step before (.callback other index) after)
    (inTurn : InTurn device cell before (.callback other index)) :
    Telling uid device cell after := by
  obtain ⟨queued, tells⟩ := telling
  obtain ⟨_, handled⟩ := step
  obtain ⟨⟨read, snapshot⟩, found, handled⟩ := Option.bind_eq_some_iff.mp handled
  cases handled
  refine ⟨queued_setHeart queued other read.cell snapshot, ?_⟩
  by_cases same : device = other
  · subst same
    by_cases own : read.cell = cell
    · have first := filter_eq_cons_eraseIdx found (decide_eq_true own) fun earlier member =>
        decide_eq_false (inTurn rfl (read, snapshot) found own earlier member)
      rw [answersOf, first] at tells
      simp only [answersOf, readsOf, Function.update_self, Likes.State.setClient, setHeart, own]
      exact tells.callback
    · have kept : ((before.callbacks device).eraseIdx index).filter (·.1.cell = cell) =
          (before.callbacks device).filter (·.1.cell = cell) :=
        filter_eraseIdx_of_neg found (decide_eq_false own)
      simp only [answersOf, readsOf, Function.update_self, Likes.State.setClient, setHeart, kept,
        Function.update_of_ne (Ne.symm own)]
      exact tells
  · simp only [answersOf, readsOf, Function.update_of_ne same, Likes.State.setClient]
    exact tells

/-- Only a configuration of the cell starts a read of it. -/
theorem started_filter (after : Community.State Device Image Data)
    {action : Community.Action Device Image}
    (configured : ∀ row img, action ≠ .likes (.configure device cell row img)) :
    (started after device action).filter (·.cell = cell) = [] := by
  rw [List.filter_eq_nil_iff]
  intro read member
  unfold started at member
  split at member
  · rename_i other shown row img
    split at member
    · rename_i same
      obtain ⟨ref, _, rfl⟩ := List.mem_map.mp member
      rw [decide_eq_true_eq]
      rintro rfl
      exact configured row img (by rw [same])
    · cases member
  · cases member

/-- No other step of the app changes a cell, except its configuration and a like through
it. -/
theorem cells_step {action : Community.Action Device Image}
    {earlier later : Community.State Device Image Data}
    (step : (Community.machine firebase uid jpeg placeholder).Step earlier action later)
    (configured : ∀ row img, action ≠ .likes (.configure device cell row img))
    (liked : ∀ index, action = .likes (.callback device index) →
      ∀ pending ∈ (earlier.likes.clients device).callbacks[index]?, pending.1.cell ≠ cell) :
    (later.likes.clients device).cells cell = (earlier.likes.clients device).cells cell := by
  rcases step_cases step with ⟨inner, rfl, moved⟩ | ⟨issuer, writes, same⟩
  · exact Likes.cells_step moved (fun row img same => configured row img (congrArg _ same))
      fun index same => liked index (congrArg _ same)
  · rw [same, Likes.State.issue, Likes.cells_notify]

/-- A cell refers to its user's record for the post that it shows. -/
theorem exists_key (queued : Queued uid before.community.likes) {ref : DatabaseReference}
    (holds : ref ∈ ((before.community.likes.clients device).cells cell).likesRef) :
    ∃ key, (before.community.likes.clients device).shownKey cell = some key ∧
      ref = likeRecordRef (uid device) key := by
  rw [queued.supported.coherent device |>.cells cell] at holds
  obtain ⟨key, shows, same⟩ := Option.map_eq_some_iff.mp holds
  exact ⟨key, shows, same.symm⟩

/-- A like through the cell: the heart is turned around with the record. -/
theorem Tells.like {earlier later : Likes.State Device Image}
    (coherent : Likes.Coherent uid earlier) {index : Nat} {read : Likes.Read} {snapshot : Node}
    (pending : (earlier.clients device).callbacks[index]? = some (read, snapshot))
    (step : (Likes.machine firebase uid).Step earlier (.callback device index) later)
    (tells : Tells ((earlier.clients device).cells read.cell) (earlier.view device) [] reads) :
    Tells ((later.clients device).cells read.cell) (later.view device) [] reads := by
  obtain ⟨refers, heart⟩ := Likes.step_callback_heart pending step
  obtain ⟨_, _, object, post, likes, found, held, present, _, _, database, issued⟩ :=
    Likes.step_callback coherent step
  cases pending.symm.trans found
  refine ⟨?_, ?_, ?_⟩
  · intro ref holds _ _
    rw [refers, (coherent device).cells read.cell, Likes.Client.shownKey, held, Option.bind_some,
      present] at holds
    cases holds
    have view := Likes.State.view_issue database issued
    rw [heart, view, (Likes.sub_likeWrites_self _ _ _ _ _).2]
    by_cases absent : snapshot.IsNull
    · rw [if_pos absent, if_pos (decide_eq_true absent)]
      exact congrArg some (if_neg (Tree.not_isNull_leaf _)).symm
    · rw [if_neg absent, if_neg fun same => absent (of_decide_eq_true same)]
      exact congrArg some (if_pos Tree.isNull_null).symm
  · intro ref _ _ last final
    cases final
  · rw [refers]
    exact tells.asked

/-- The other steps in turn leave the heart telling the record. -/
theorem Telling.community (distinct : Function.Injective uid)
    {action : Community.Action Device Image} (telling : Telling uid device cell before)
    (step : (machine firebase uid jpeg placeholder).Step before (.community action) after)
    (inTurn : InTurn device cell before (.community action)) : Telling uid device cell after := by
  obtain ⟨queued, tells⟩ := telling
  obtain ⟨enabled, handled⟩ := step
  obtain ⟨community, done, handled⟩ := Option.bind_eq_some_iff.mp handled
  cases handled
  have moved : (Community.machine firebase uid jpeg placeholder).Step before.community action
      community := ⟨enabled, done⟩
  refine ⟨queued.step moved, ?_⟩
  by_cases configured : ∃ row img, action = .likes (.configure device cell row img)
  · obtain ⟨row, img, rfl⟩ := configured
    have own : (started community device (.likes (.configure device cell row img))).filter
        (·.cell = cell) = ((community.likes.clients device).cells cell).likesRef.toList.map
          fun ref => ⟨cell, ref⟩ := by
      rw [started, if_pos rfl, List.filter_eq_self]
      intro read member
      obtain ⟨ref, _, rfl⟩ := List.mem_map.mp member
      exact decide_eq_true rfl
    simp only [readsOf, List.filter_append, own]
    exact Tells.of_asked _ _ _ _ cell
  push Not at configured
  simp only [readsOf, List.filter_append, started_filter community configured, List.append_nil]
  by_cases liked : ∃ index read snapshot, action = .likes (.callback device index) ∧
      (before.community.likes.clients device).callbacks[index]? = some (read, snapshot) ∧
      read.cell = cell
  · obtain ⟨index, read, snapshot, rfl, pending, rfl⟩ := liked
    have waiting := (inTurn rfl (read, snapshot) pending).1 rfl
    have none : answersOf before device read.cell = [] := by
      rw [answersOf, List.filter_eq_nil_iff]
      intro answered member
      rw [decide_eq_true_eq]
      exact waiting answered member
    rw [none] at tells
    have turned := tells.like queued.supported.coherent pending (step_likes moved).1
    rw [← none] at turned
    exact turned
  · push Not at liked
    have same := cells_step moved configured fun index is pending member =>
      liked index pending.1 pending.2 is member
    refine tells.congr (congrArg PostCell.likesRef same) (congrArg PostCell.likeImage same) ?_
    intro ref holds
    obtain ⟨key, shows, rfl⟩ := exists_key queued holds
    rw [← Likes.State.view_replica, ← Likes.State.view_replica]
    refine queued.record_kept distinct (traffic queued.supported.coherent moved) ?_
    rintro index rfl ⟨snapshot, post⟩ given rfl
    obtain ⟨⟨read, result⟩, found, given⟩ := Option.bind_eq_some_iff.mp given
    obtain ⟨object, held, given⟩ := Option.bind_eq_some_iff.mp given
    obtain ⟨other, present, given⟩ := Option.bind_eq_some_iff.mp given
    cases given
    have different := liked index read snapshot rfl found
    refine (inTurn rfl (read, snapshot) found).2 different (Eq.trans ?_ shows.symm)
    rw [Likes.Client.shownKey, held, Option.bind_some, present, Option.map_some]

theorem telling_initial (uid : Device → String) (device : Device) (cell : Nat) (database : Node)
    (forms : Device → FeedVC Image) :
    Telling uid device cell (initial database forms : State Device Image Data) where
  queued := queued_initial uid database
  tells := by
    refine ⟨?_, ?_, ?_⟩
    · intro ref holds
      cases holds
    · intro ref holds
      cases holds
    · intro ref holds
      cases holds

/-- **Hearts tell what the user likes.** For devices of different users that like, publish
and edit profiles in any interleaving, with the reads that configurations start answered and
called back at any time: if for one cell every step is in turn, then whenever no read of it
is to come, its heart is filled exactly if the device sees its user's like record for the
post that the cell shows, which is that of the database if no write is in flight. -/
theorem hearts_tell (firebase : Firebase) {uid : Device → String}
    (distinct : Function.Injective uid) (jpeg : Image → Option Data) (placeholder : Option Image)
    (database : Node) (forms : Device → FeedVC Image) {device : Device} {cell : Nat}
    {actions : List (Action Device Image)} {finish : State Device Image Data}
    (run : (machine firebase uid jpeg placeholder).Run (initial database forms) actions finish)
    (inTurn : (machine firebase uid jpeg placeholder).Guarded (InTurn device cell)
      (initial database forms) actions)
    (idle : Idle finish device cell) {key : String}
    (shows : (finish.community.likes.clients device).shownKey cell = some key) :
    ((finish.community.likes.clients device).cells cell).likeImage =
        some (PostCell.heartIcon
          ((finish.community.likes.view device).sub (likeRecordRef (uid device) key))) ∧
      (finish.community.likes.inFlight = [] →
        ((finish.community.likes.clients device).cells cell).likeImage =
          some (PostCell.heartIcon
            (finish.community.likes.database.sub (likeRecordRef (uid device) key)))) := by
  have telling : Telling uid device cell finish := by
    refine run.invariant_along inTurn (fun before action after telling step inTurn => ?_)
      (telling_initial uid device cell database forms)
    cases action with
    | community action => exact telling.community distinct step inTurn
    | answer other index => exact telling.answer step inTurn
    | callback other index => exact telling.callback step inTurn
  have answers : answersOf finish device cell = [] := by
    rw [answersOf, List.filter_eq_nil_iff]
    intro answered member
    rw [decide_eq_true_eq]
    exact idle.2 answered member
  have reads : readsOf finish device cell = [] := by
    rw [readsOf, List.filter_eq_nil_iff]
    intro read member
    rw [decide_eq_true_eq]
    exact idle.1 read member
  have holds : likeRecordRef (uid device) key ∈
      ((finish.community.likes.clients device).cells cell).likesRef := by
    rw [(telling.queued.supported.coherent device).cells cell, shows]
    rfl
  have heart := telling.tells.told _ holds answers reads
  refine ⟨heart, fun applied => ?_⟩
  rw [Likes.State.view_of_applied applied] at heart
  exact heart

section Ann

instance (state : State Device Image Data) (action : Action Device Image) :
    Decidable ((machine firebase uid jpeg placeholder).enabled state action) :=
  inferInstanceAs (Decidable (Enabled state action))

/-- Ann likes the fundraiser in her first cell, and the cell is configured again when she is
told of the new count. -/
def annLikes : List (Action Bool Unit) :=
  [.community (.likes (.event true)), .community (.likes (.configure true 0 0 none)),
    .community (.likes (.tap true 0)), .answer true 0, .community (.likes (.answer true 0)),
    .callback true 0, .community (.likes (.callback true 0)), .community (.likes (.event true)),
    .community (.likes (.configure true 0 0 none)), .community (.likes (.serve true)),
    .answer true 0, .community (.likes (.serve true)), .callback true 0]

/-- Ann's heart is filled, and her record stored. -/
theorem ann_heart_tells :
    ∃ finish : State Bool Unit Unit,
      (machine Firebase.byKey Likes.twoUsers (fun _ => some ()) none).execute
        (initial Likes.oneFundraiser emptyForms) annLikes = some finish ∧
      ((finish.community.likes.clients true).cells 0).likeImage = some .filledHeart ∧
      ((finish.community.likes.clients true).cells 0).likeImage =
        some (PostCell.heartIcon
          (finish.community.likes.database.sub (likeRecordRef "ann" "walk"))) := by
  have reached : ((machine Firebase.byKey Likes.twoUsers (fun _ => some ()) none).execute
      (initial Likes.oneFundraiser emptyForms : State Bool Unit Unit) annLikes).map (fun finish =>
        (finish.community.likes.inFlight.length,
          (finish.reads true).length, (finish.callbacks true).length,
          (finish.community.likes.clients true).shownKey 0,
          ((finish.community.likes.clients true).cells 0).likeImage)) =
      some (0, 0, 0, some "walk", some .filledHeart) := by
    decide
  obtain ⟨finish, executed, shape⟩ := Option.map_eq_some_iff.mp reached
  obtain ⟨applied, shape⟩ := Prod.mk.inj shape
  obtain ⟨noReads, shape⟩ := Prod.mk.inj shape
  obtain ⟨noAnswers, shape⟩ := Prod.mk.inj shape
  obtain ⟨shows, heart⟩ := Prod.mk.inj shape
  have idle : Idle finish true 0 := by
    refine ⟨fun read member => ?_, fun answered member => ?_⟩
    · rw [List.eq_nil_of_length_eq_zero noReads] at member
      cases member
    · rw [List.eq_nil_of_length_eq_zero noAnswers] at member
      cases member
  refine ⟨finish, executed, heart, (hearts_tell Firebase.byKey Likes.twoUsers_injective
    (fun _ => some ()) none Likes.oneFundraiser emptyForms (Machine.run_of_execute executed)
    (Machine.guarded_of_respects (by decide)) idle shows).2 ?_⟩
  exact List.eq_nil_of_length_eq_zero applied

end Ann

end Hearts

end MyFundi
