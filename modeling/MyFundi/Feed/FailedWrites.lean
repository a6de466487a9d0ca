import MyFundi.Feed.Informed
import MyFundi.Feed.LikeAgreement

/-!
# Likes whose writes fail

The two writes of a like are issued on their own, without a completion handler. The server
may reject either, and a device that stops loses those not yet applied. The database is
then the one before the like with the accepted writes applied, and a device that is still
running is told of it (`accepted_writes_applied`).
-/

namespace MyFundi

open Foundation

namespace FailedWrites

/-- The like system, and the devices that have not stopped. -/
structure State (Device Image : Type) where
  likes : Likes.State Device Image
  running : Device → Bool

/-- A step of the like system; the server rejects the first unapplied write of a device;
a device stops. -/
inductive Action (Device Image : Type) where
  | likes (action : Likes.Action Device Image)
  | reject (device : Device)
  | stop (device : Device)

variable {Device Image : Type}

/-- The device a step of the like system is about. -/
def deviceOf : Likes.Action Device Image → Device
  | .tap device _ | .answer device _ | .callback device _ | .serve device | .event device
  | .configure device _ _ _ => device

variable [DecidableEq Device]

/-- The client takes a rejected write back and tells its observers, as it does of any
change of what the device sees. -/
def handle (firebase : Firebase) (uid : Device → String) (state : State Device Image) :
    Action Device Image → Option (State Device Image)
  | .likes action => do
      let likes ← Likes.handle firebase uid state.likes action
      return { state with likes := likes }
  | .reject device =>
      some { state with
        likes := state.likes.notify { state.likes with
          inFlight := state.likes.inFlight.eraseP (·.1 = device) } }
  | .stop device =>
      some {
        likes := state.likes.notify { state.likes with
          inFlight := state.likes.inFlight.filter (·.1 ≠ device) }
        running := Function.update state.running device false }

/-- A device that has stopped does nothing. -/
def Enabled (state : State Device Image) : Action Device Image → Prop
  | .likes action => Likes.Enabled state.likes action ∧ state.running (deviceOf action) = true
  | .reject device => ∃ entry ∈ state.likes.inFlight, entry.1 = device
  | .stop device => state.running device = true

instance (state : State Device Image) :
    (action : Action Device Image) → Decidable (Enabled state action)
  | .likes action => inferInstanceAs (Decidable (Likes.Enabled state.likes action ∧ _ = true))
  | .reject _ => inferInstanceAs (Decidable (∃ entry ∈ state.likes.inFlight, _))
  | .stop _ => inferInstanceAs (Decidable (_ = true))

/-- The like system whose server may reject a write and whose app may stop. -/
def machine (firebase : Firebase) (uid : Device → String) :
    Machine (State Device Image) (Action Device Image) where
  enabled := Enabled
  handle := handle firebase uid

instance (firebase : Firebase) (uid : Device → String) (state : State Device Image)
    (action : Action Device Image) : Decidable ((machine firebase uid).enabled state action) :=
  inferInstanceAs (Decidable (Enabled state action))

omit [DecidableEq Device] in
/-- Devices that have just opened the feed, all running. -/
def initial (database : Node) : State Device Image where
  likes := Likes.initial database
  running := fun _ => true

/-- The write that a step makes the server accept. -/
def acceptedWrite (state : State Device Image) : Action Device Image → Option Write
  | .likes (.serve device) => (state.likes.inFlight.find? (·.1 = device)).map Prod.snd
  | _ => none

omit [DecidableEq Device] in
/-- The step runs no callback of a tap. -/
def NoCallback : Action Device Image → Prop
  | .likes (.callback _ _) => False
  | _ => True

instance : (action : Action Device Image) → Decidable (NoCallback action)
  | .likes (.callback _ _) => .isFalse id
  | .likes (.tap _ _) | .likes (.answer _ _) | .likes (.serve _) | .likes (.event _)
  | .likes (.configure _ _ _ _) | .reject _ | .stop _ => .isTrue trivial

/-- The database has the new count and the new record. -/
def BothWritten (database : Node) (uid postKey : String) (likes : Int) (add : Bool) : Prop :=
  database.sub (likesCountRef postKey) = .leaf (.int (if add then likes + 1 else likes - 1)) ∧
    database.sub (likeRecordRef uid postKey) = if add then .leaf (.bool true) else .null

/-- What the accepted writes of a like make of a database. -/
structure Accepted (uid postKey : String) (likes : Int) (add : Bool) (before after : Node)
    (accepted : List Write) : Prop where
  issued : accepted.Sublist (likeWrites uid postKey likes add)
  applied : after = applyWrites before accepted
  both : accepted = likeWrites uid postKey likes add → BothWritten after uid postKey likes add
  neither : accepted = [] → after = before

variable {firebase : Firebase} {uid : Device → String} {before after : State Device Image}

/-- A step of the like system is one of its own steps. -/
theorem step_likes {action : Likes.Action Device Image}
    (step : (machine firebase uid).Step before (.likes action) after) :
    (Likes.machine firebase uid).Step before.likes action after.likes := by
  obtain ⟨enabled, handled⟩ := step
  obtain ⟨likes, done, handled⟩ := Option.bind_eq_some_iff.mp handled
  cases handled
  exact ⟨enabled.1, done⟩

/-- Devices refer to their own user's records and have been told what they see. -/
structure Told (firebase : Firebase) (uid : Device → String) (state : State Device Image) :
    Prop where
  coherent : Likes.Coherent uid state.likes
  informed : Likes.Informed firebase state.likes

theorem told_initial (database : Node) :
    Told firebase uid (initial database : State Device Image) :=
  ⟨Likes.coherent_initial database, Likes.informed_initial firebase database⟩

/-- Writes taken back are a change like any other. -/
theorem Told.notify {likes : Likes.State Device Image} {running : Device → Bool}
    (told : Told firebase uid before) (clients : likes.clients = before.likes.clients) :
    Told firebase uid ⟨before.likes.notify likes, running⟩ := by
  refine ⟨Likes.Coherent.notify ?_, told.informed.notify ?_ ?_⟩
  · intro device
    rw [clients]
    exact told.coherent device
  · intro device
    rw [clients]
  · intro device lists
    rw [clients]
    exact lists

/-- A running device is told of whatever changes what it sees, rejections included. -/
theorem Told.step {action : Action Device Image} (told : Told firebase uid before)
    (step : (machine firebase uid).Step before action after) : Told firebase uid after := by
  cases action with
  | likes action =>
      have taken := step_likes step
      exact ⟨told.coherent.step taken, told.informed.step told.coherent taken⟩
  | reject device =>
      cases step.2
      exact told.notify rfl
  | stop device =>
      cases step.2
      exact told.notify rfl

/-- The writes of one device: those accepted since its like and those not yet applied are
among those issued, in order, and the accepted ones are all that has been applied. -/
structure Applying (device : Device) (issued : List Write) (database : Node)
    (state : State Device Image) (accepted : List Write) : Prop where
  remaining : ∃ rest, state.likes.inFlight = rest.map (device, ·) ∧
    (accepted ++ rest).Sublist issued
  database : state.likes.database = applyWrites database accepted

omit [DecidableEq Device] in
/-- A step that issues nothing and lets the server apply nothing. -/
theorem Applying.of_sublist {device : Device} {issued accepted : List Write} {database : Node}
    (applying : Applying device issued database before accepted)
    (inFlight : after.likes.inFlight.Sublist before.likes.inFlight)
    (same : after.likes.database = before.likes.database) :
    Applying device issued database after accepted := by
  obtain ⟨rest, waiting, among⟩ := applying.remaining
  rw [waiting] at inFlight
  obtain ⟨left, sublist, equal⟩ := List.sublist_map_iff.mp inFlight
  exact ⟨⟨left, equal, (List.Sublist.append_left sublist accepted).trans among⟩,
    same.trans applying.database⟩

/-- A write that is accepted is the next one of its device. -/
theorem Applying.serve {device other : Device} {issued accepted : List Write} {database : Node}
    (applying : Applying device issued database before accepted)
    (step : (machine firebase uid).Step before (.likes (.serve other)) after) :
    Applying device issued database after
      (accepted ++ (acceptedWrite before (.likes (.serve other))).toList) := by
  obtain ⟨front, write, rest, first, others, applied, left⟩ := Likes.step_serve (step_likes step)
  obtain ⟨waiting, equal, among⟩ := applying.remaining
  -- Every unapplied write is of the one device, so the first of them is applied.
  have head : ∃ later, other = device ∧ front = [] ∧ waiting = write :: later ∧
      rest = later.map (device, ·) := by
    rw [equal] at first
    cases waiting with
    | nil => exact (List.append_ne_nil_of_right_ne_nil _ (List.cons_ne_nil _ _) first.symm).elim
    | cons next later =>
        cases front with
        | nil =>
            obtain ⟨entry, same⟩ := List.cons.inj first
            obtain ⟨rfl, rfl⟩ := Prod.mk.inj entry
            exact ⟨later, rfl, rfl, rfl, same.symm⟩
        | cons entry front =>
            obtain ⟨rfl, same⟩ := List.cons.inj first
            have member : (other, write) ∈ later.map (device, ·) := by
              rw [same]
              exact List.mem_append_right _ List.mem_cons_self
            obtain ⟨_, _, own⟩ := List.mem_map.mp member
            exact (others _ List.mem_cons_self (Prod.mk.inj own).1).elim
  obtain ⟨later, rfl, rfl, rfl, rfl⟩ := head
  have accepts : acceptedWrite before (.likes (.serve other)) = some write := by
    rw [acceptedWrite, first, List.nil_append, List.find?_cons, decide_eq_true rfl]
    rfl
  rw [accepts, Option.toList_some]
  refine ⟨⟨later, left, ?_⟩, ?_⟩
  · rw [List.append_assoc, List.singleton_append]
    exact among
  · rw [applyWrites_append, ← applying.database]
    exact applied

/-- Without callbacks only accepted writes change the database, in order. -/
theorem Applying.step {device : Device} {issued accepted : List Write} {database : Node}
    {action : Action Device Image} (applying : Applying device issued database before accepted)
    (step : (machine firebase uid).Step before action after) (quiet : NoCallback action) :
    Applying device issued database after
      (accepted ++ (acceptedWrite before action).toList) := by
  have none (accepts : acceptedWrite before action = none)
      (still : Applying device issued database after accepted) :
      Applying device issued database after
        (accepted ++ (acceptedWrite before action).toList) := by
    rw [accepts, Option.toList_none, List.append_nil]
    exact still
  cases action with
  | likes action =>
      have other (noServe : ∀ device, action ≠ .serve device)
          (noCallback : ∀ device index, action ≠ .callback device index) :
          Applying device issued database after accepted := by
        obtain ⟨same, inFlight⟩ := Likes.step_other (step_likes step) noCallback noServe
        exact applying.of_sublist (inFlight ▸ List.Sublist.refl _) same
      cases action with
      | serve device => exact applying.serve step
      | callback device index => exact quiet.elim
      | tap device cell => exact none rfl (other (by simp) (by simp))
      | answer device index => exact none rfl (other (by simp) (by simp))
      | event device => exact none rfl (other (by simp) (by simp))
      | configure device cell row img => exact none rfl (other (by simp) (by simp))
  | reject device =>
      cases step.2
      exact none rfl (applying.of_sublist (List.eraseP_sublist) rfl)
  | stop device =>
      cases step.2
      exact none rfl (applying.of_sublist List.filter_sublist rfl)

/-- **The accepted writes of a like are what is left of it.** From any database, on any
number of devices, take any run to a state in which every write has been applied or lost,
let the callback of a tap issue its two writes, and let any further run without callbacks
follow in which the server rejects writes and devices stop at will. Once no write is
unapplied, the database is the one before the callback with the writes applied that the
server accepted: with both, it has the new count and the new record, and with neither it is
the database before. If the device is still running and has received every event, its post
carries the count in the database. -/
theorem accepted_writes_applied (firebase : Firebase) (uid : Device → String) (database : Node)
    (past later : List (Action Device Image)) (before middle finish : State Device Image)
    (reached : (machine firebase uid).Run (initial database) past before)
    (idle : before.likes.inFlight = []) (device : Device) (index : Nat)
    (callback : (machine firebase uid).Step before (.likes (.callback device index)) middle)
    (run : (machine firebase uid).Run middle later finish)
    (quiet : ∀ action ∈ later, NoCallback action) (settled : finish.likes.inFlight = []) :
    ∃ postKey likes add,
      middle.likes.inFlight = (likeWrites (uid device) postKey likes add).map (device, ·) ∧
      Accepted (uid device) postKey likes add before.likes.database finish.likes.database
        ((machine firebase uid).observed acceptedWrite middle later) ∧
      (finish.running device = true → (finish.likes.clients device).events = [] →
        ∀ object ∈ (finish.likes.clients device).posts, ∀ post,
          (finish.likes.clients device).objects[object]? = some post → post.postKey = postKey →
            post.likes = Node.asInt (finish.likes.database.sub (likesCountRef postKey))) := by
  have told : Told firebase uid before :=
    reached.invariant (fun _ _ _ held step => Told.step held step) (told_initial database)
  have last : Told firebase uid finish :=
    run.invariant (fun _ _ _ held step => Told.step held step) (told.step callback)
  -- What the callback issues.
  obtain ⟨_, snapshot, _, post, count, _, _, _, _, _, unchanged, issued⟩ :=
    Likes.step_callback told.coherent (step_likes callback)
  rw [idle, List.nil_append] at issued
  -- What becomes of it.
  have applying : Applying device (likeWrites (uid device) post.postKey count snapshot.IsNull)
      before.likes.database finish ((machine firebase uid).observed acceptedWrite middle later) :=
    run.invariant_observed (Machine.Along.of_actions quiet)
      (fun _ _ _ _ held step fine => Applying.step held step fine)
      ⟨⟨_, issued, List.Sublist.refl _⟩, unchanged⟩
  obtain ⟨rest, waiting, among⟩ := applying.remaining
  rw [settled] at waiting
  rw [List.map_eq_nil_iff.mp waiting.symm, List.append_nil] at among
  refine ⟨post.postKey, count, snapshot.IsNull, issued, ⟨among, applying.database, ?_, ?_⟩, ?_⟩
  · intro both
    rw [applying.database, both]
    exact Likes.sub_likeWrites_self _ _ _ _ _
  · intro neither
    rw [applying.database, neither, applyWrites_nil]
  · intro _ delivered object listed carried present same
    have view : finish.likes.view device = finish.likes.database := by
      rw [Likes.State.view, settled, List.filter_nil, List.map_nil, applyWrites_nil]
    obtain ⟨_, agrees⟩ := (last.informed device).listed delivered object listed carried present
    rw [agrees, view, same]

section OneTap

open Likes

deriving instance DecidableEq for Write

instance (database : Node) (uid postKey : String) (likes : Int) (add : Bool) :
    Decidable (BothWritten database uid postKey likes add) :=
  inferInstanceAs (Decidable (_ = _ ∧ _ = _))

/-- Ann taps the heart of the one fundraiser and the answer arrives. -/
def annTaps : List (Action Unit Unit) :=
  [.likes (.event ()), .likes (.configure () 0 0 none), .likes (.tap () 0),
    .likes (.answer () 0)]

/-- The states before and after the callback of that tap and after a further run. -/
def oneTap (later : List (Action Unit Unit)) :
    Option (State Unit Unit × State Unit Unit × State Unit Unit) := do
  let before ← (machine Firebase.byKey fun _ => "ann").execute (initial oneFundraiser) annTaps
  let middle ← (machine Firebase.byKey fun _ => "ann").execute before [.likes (.callback () 0)]
  let finish ← (machine Firebase.byKey fun _ => "ann").execute middle later
  return (before, middle, finish)

/-- The run of one tap has the tap, its callback and what comes later. -/
theorem oneTap_eq_some {later : List (Action Unit Unit)} {before middle finish : State Unit Unit}
    (done : oneTap later = some (before, middle, finish)) :
    (machine Firebase.byKey fun _ => "ann").Run (initial oneFundraiser) annTaps before ∧
      (machine Firebase.byKey fun _ => "ann").Step before (.likes (.callback () 0)) middle ∧
      (machine Firebase.byKey fun _ => "ann").Run middle later finish := by
  simp only [oneTap, Option.bind_eq_bind, Option.bind_eq_some_iff, Option.pure_def,
    Option.some.injEq, Prod.mk.injEq] at done
  obtain ⟨_, reached, _, called, _, finished, rfl, rfl, rfl⟩ := done
  refine ⟨Machine.run_of_execute reached, ?_, Machine.run_of_execute finished⟩
  cases Machine.run_of_execute called with
  | cons step rest =>
      cases rest
      exact step

/-- Both writes are rejected, and Ann's device is told. -/
def bothRejected : List (Action Unit Unit) :=
  [.likes (.event ()), .reject (), .reject (), .likes (.event ())]

theorem rejected_like_leaves_nothing :
    ∃ before middle finish, oneTap bothRejected = some (before, middle, finish) ∧
      ∃ postKey likes add,
        middle.likes.inFlight = (likeWrites "ann" postKey likes add).map ((), ·) ∧
        Accepted "ann" postKey likes add before.likes.database finish.likes.database
          ((machine Firebase.byKey fun _ => "ann").observed acceptedWrite middle bothRejected) ∧
        (finish.running () = true → (finish.likes.clients ()).events = [] →
          ∀ object ∈ (finish.likes.clients ()).posts, ∀ post,
            (finish.likes.clients ()).objects[object]? = some post → post.postKey = postKey →
              post.likes = Node.asInt (finish.likes.database.sub (likesCountRef postKey))) := by
  have reached : (oneTap bothRejected).map (fun states =>
      (states.1.likes.inFlight.length, states.2.2.likes.inFlight.length)) = some (0, 0) := by
    decide
  obtain ⟨⟨before, middle, finish⟩, done, result⟩ := Option.map_eq_some_iff.mp reached
  rw [Prod.mk.injEq] at result
  obtain ⟨past, callback, run⟩ := oneTap_eq_some done
  exact ⟨before, middle, finish, done, accepted_writes_applied Firebase.byKey (fun _ => "ann")
    oneFundraiser annTaps bothRejected before middle finish past
    (List.eq_nil_of_length_eq_zero result.1) () 0 callback run (by decide)
    (List.eq_nil_of_length_eq_zero result.2)⟩

/-- The count is accepted and the record is not. -/
def recordRejected : List (Action Unit Unit) :=
  [.likes (.serve ()), .reject ()]

/-- A like whose record is rejected leaves its count. -/
theorem rejected_record_leaves_count :
    ¬ ∀ (firebase : Firebase) (uid : Unit → String) (database : Node)
        (past later : List (Action Unit Unit)) (before middle finish : State Unit Unit)
        (index : Nat),
      (machine firebase uid).Run (initial database) past before → before.likes.inFlight = [] →
      (machine firebase uid).Step before (.likes (.callback () index)) middle →
      (machine firebase uid).Run middle later finish → (∀ action ∈ later, NoCallback action) →
      finish.likes.inFlight = [] → ∀ postKey likes add,
        middle.likes.inFlight = (likeWrites (uid ()) postKey likes add).map ((), ·) →
          BothWritten finish.likes.database (uid ()) postKey likes add ∨
            finish.likes.database = before.likes.database := by
  intro all
  have reached : (oneTap recordRejected).map (fun states =>
      (decide (states.1.likes.inFlight = []),
        decide (states.2.1.likes.inFlight = (likeWrites "ann" "walk" 0 true).map ((), ·)),
        decide (states.2.2.likes.inFlight = []),
        decide (BothWritten states.2.2.likes.database "ann" "walk" 0 true ∨
          states.2.2.likes.database = states.1.likes.database))) =
      some (true, true, true, false) := by
    decide
  obtain ⟨⟨before, middle, finish⟩, done, result⟩ := Option.map_eq_some_iff.mp reached
  simp only [Prod.mk.injEq] at result
  obtain ⟨idle, issued, settled, neither⟩ := result
  obtain ⟨past, callback, run⟩ := oneTap_eq_some done
  exact of_decide_eq_false neither (all Firebase.byKey (fun _ => "ann") oneFundraiser annTaps
    recordRejected before middle finish 0 past (of_decide_eq_true idle) callback run (by decide)
    (of_decide_eq_true settled) "walk" 0 true (of_decide_eq_true issued))

end OneTap

end FailedWrites

end MyFundi
