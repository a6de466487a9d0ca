import MyFundi.Feed.LikeSteps

/-!
# A tap and the post it was made on

The callback of a tap acts on the post its cell shows when the answer arrives, which
need not be the post that was tapped. `tap_only_iff` says that every tap touches only
the tapped post exactly when every callback finds its cell still showing that post.
-/

namespace MyFundi

open Foundation

namespace Likes

variable {Device Image : Type} [DecidableEq Device]

/-- The writes of a like replace the count of the post and the user's record for it. -/
theorem likeWrites_assignments (uid postKey : String) (likes : Int) (add : Bool) :
    (likeWrites uid postKey likes add).flatMap Write.assignments =
      [⟨likesCountRef postKey, .leaf (.int (if add then likes + 1 else likes - 1))⟩,
        ⟨likeRecordRef uid postKey, if add then .leaf (.bool true) else .null⟩] := by
  cases add <;> rfl

/-- Nothing else in the database changes. -/
theorem sub_likeWrites_of_incomparable (database : Node) (uid postKey : String) (likes : Int)
    (add : Bool) {path : List String} (count : Incomparable (likesCountRef postKey) path)
    (record : Incomparable (likeRecordRef uid postKey) path) :
    (applyWrites database (likeWrites uid postKey likes add)).sub path = database.sub path := by
  rw [applyWrites, likeWrites_assignments]
  apply Tree.sub_applyAll_of_incomparable
  simp only [List.forall_mem_cons, List.not_mem_nil, false_implies, implies_true, and_true]
  exact ⟨count, record⟩

/-- Nothing is written. -/
def Still (before after : State Device Image) : Prop :=
  after.database = before.database ∧ after.inFlight = before.inFlight

/-- What the tap needs of a step. A tap reads the user's record for the post shown, and the
answer is what the user's device sees there. The callback issues the two writes of a like for
the tapped post, from the count of the post that the cell holds, adding on an empty answer and
removing otherwise. A write in flight is applied as it was issued, and no other step changes
the database or issues a write. -/
def TapOnly (uid : Device → String) (before : State Device Image)
    (action : Action Device Image) (after : State Device Image) : Prop :=
  match action with
  | .tap device cell => Still before after ∧
      ∃ key, (before.clients device).shownKey cell = some key ∧
        (after.clients device).reads = (before.clients device).reads ++
          [⟨cell, likeRecordRef (uid device) key, some key⟩]
  | .answer device index => Still before after ∧
      ∀ read, (before.clients device).reads[index]? = some read →
        ∃ key, read.tapped = some key ∧
          (after.clients device).callbacks = (before.clients device).callbacks ++
            [(read, (before.view device).sub (likeRecordRef (uid device) key))]
  | .callback device index => after.database = before.database ∧
      ∀ read snapshot, (before.clients device).callbacks[index]? = some (read, snapshot) →
        ∃ key object post likes, read.tapped = some key ∧
          ((before.clients device).cells read.cell).post = some object ∧
          (before.clients device).objects[object]? = some post ∧ post.likes = some likes ∧
          after.inFlight = before.inFlight ++
            (likeWrites (uid device) key likes snapshot.IsNull).map (device, ·)
  | .serve device => ∃ front write rest,
      before.inFlight = front ++ (device, write) :: rest ∧ after.inFlight = front ++ rest ∧
        after.database = applyWrites before.database [write]
  | .event _ | .configure _ _ _ _ => Still before after

/-- A callback finds its cell showing the post that was tapped. -/
def StillShown (before : State Device Image) : Action Device Image → Prop
  | .callback device index => ∀ pending ∈ (before.clients device).callbacks[index]?,
      (before.clients device).shownKey pending.1.cell = pending.1.tapped
  | _ => True

instance (before : State Device Image) :
    (action : Action Device Image) → Decidable (StillShown before action)
  | .callback device index =>
      inferInstanceAs (Decidable (∀ pending ∈ (before.clients device).callbacks[index]?, _))
  | .tap _ _ | .answer _ _ | .serve _ | .event _ | .configure _ _ _ _ => .isTrue trivial

variable {firebase : Firebase} {uid : Device → String} {before after : State Device Image}

/-- A callback is for the tapped post only if its cell still shows it. -/
theorem tapOnly_callback_iff {device : Device} {index : Nat} (coherent : Coherent uid before)
    (step : (machine firebase uid).Step before (.callback device index) after) :
    TapOnly uid before (.callback device index) after ↔
      StillShown before (.callback device index) := by
  obtain ⟨read, snapshot, object, post, likes, pending, held, present, counted, _, database,
    issued⟩ := step_callback coherent step
  have shown : (before.clients device).shownKey read.cell = some post.postKey := by
    rw [Client.shownKey, held, Option.bind_some, present, Option.map_some]
  constructor
  · intro only found again
    rw [pending] at again
    cases again
    obtain ⟨key, _, _, _, tapped, _, _, _, writes⟩ := only.2 read snapshot pending
    -- The first write issued names the post shown and the post tapped.
    rw [issued, List.append_cancel_left_eq] at writes
    have first := congrArg (fun writes : List (Device × Write) =>
      writes.flatMap fun write => write.2.assignments.map Assignment.path) writes
    have count : LikeData.count post.postKey = .count key :=
      LikeData.ref_injective (List.cons.inj first).1
    rw [shown, tapped, LikeData.count.inj count]
  · intro still
    refine ⟨database, fun other answer again => ?_⟩
    rw [pending] at again
    cases again
    have same := still (read, snapshot) pending
    exact ⟨post.postKey, object, post, likes, same.symm.trans shown, held, present, counted,
      issued⟩

/-- Only a callback can go astray. -/
theorem tapOnly_iff {action : Action Device Image} (coherent : Coherent uid before)
    (step : (machine firebase uid).Step before action after) :
    TapOnly uid before action after ↔ StillShown before action := by
  cases action with
  | callback device index => exact tapOnly_callback_iff coherent step
  | tap device cell =>
      refine ⟨fun _ => trivial, fun _ => ⟨step_other step (by simp) (by simp), ?_⟩⟩
      obtain ⟨_, handled⟩ := step
      obtain ⟨client, done, handled⟩ := Option.bind_eq_some_iff.mp handled
      cases handled
      obtain ⟨ref, refers, done⟩ := Option.bind_eq_some_iff.mp done
      cases done
      have cells := (coherent device).cells cell
      rw [show ((before.clients device).cells cell).likesRef = some ref from refers] at cells
      obtain ⟨key, shows, rfl⟩ := Option.map_eq_some_iff.mp cells.symm
      refine ⟨key, shows, ?_⟩
      simp only [State.setClient, Function.update_self, shows]
  | answer device index =>
      refine ⟨fun _ => trivial, fun _ => ⟨step_other step (by simp) (by simp), ?_⟩⟩
      intro read present
      obtain ⟨_, handled⟩ := step
      obtain ⟨client, done, handled⟩ := Option.bind_eq_some_iff.mp handled
      cases handled
      obtain ⟨other, key, found, tapped, rfl⟩ := Client.answer_eq_some (coherent device) done
      rw [present] at found
      cases found
      refine ⟨key, tapped, ?_⟩
      simp only [State.setClient, Function.update_self]
  | serve device =>
      obtain ⟨front, write, rest, first, _, database, left⟩ := step_serve step
      exact ⟨fun _ => trivial, fun _ => ⟨front, write, rest, first, left, database⟩⟩
  | event device => exact ⟨fun _ => trivial, fun _ => step_other step (by simp) (by simp)⟩
  | configure device cell row img =>
      exact ⟨fun _ => trivial, fun _ => step_other step (by simp) (by simp)⟩

/-- **When a tap touches only the tapped post.** Along every interleaving of taps,
answers, callbacks, server writes, feed events and reconfigurations of cells on any
number of devices, every callback writes only the count of the tapped post, which is one
more or less than the cell's post has, and the user's record for it, in the direction that
user's record decides, and nothing but these writes changes the database, exactly when
every callback finds its cell still showing the tapped post. -/
theorem tap_only_iff (firebase : Firebase) (uid : Device → String) (database : Node)
    (actions : List (Action Device Image)) :
    (machine firebase uid).Along (TapOnly uid) (initial database) actions ↔
      (machine firebase uid).Guarded StillShown (initial database) actions :=
  Machine.Along.iff_of_agree (fun _ _ _ coherent step => tapOnly_iff coherent step)
    (fun _ _ _ coherent step _ => coherent.step step) (coherent_initial database)

section Reconfigured

/-- A record of the feed. -/
def walkRecord : Node :=
  Node.ofFields [("caption", .string "A walk"), ("imageUrl", .string "gs://pic"),
    ("likes", .int 0), ("currentDonation", .int 0), ("donationGoal", .int 0),
    ("title", .string "Test")]

/-- Two fundraisers and no like records. -/
def twoFundraisers : Node :=
  (Tree.null.set (DataService.refFundraisers.child "run") walkRecord).set
    (DataService.refFundraisers.child "walk") walkRecord

instance (firebase : Firebase) (uid : Device → String) (state : State Device Image)
    (action : Action Device Image) : Decidable ((machine firebase uid).enabled state action) :=
  inferInstanceAs (Decidable (Enabled state action))

/-- A tap on one post whose cell is reconfigured before the answer likes another. -/
theorem reconfigured_cell_likes_other_post :
    ¬ ∀ (firebase : Firebase) (uid : Unit → String) (database : Node)
        (actions : List (Action Unit Unit)),
      (machine firebase uid).Along (TapOnly uid) (initial database) actions := by
  intro all
  have along := all Firebase.byKey (fun _ => "ann") twoFundraisers
    ([.event (), .configure () 0 0 none, .tap () 0, .configure () 0 1 none, .answer () 0] ++
      [.callback () 0])
  have reached : ((machine Firebase.byKey fun _ => "ann").execute (initial twoFundraisers)
      [.event (), .configure () 0 0 (none : Option Unit), .tap () 0, .configure () 0 1 none,
        .answer () 0]).map (fun before => (before.inFlight.length,
          ((before.clients ()).callbacks[0]?).map fun pending => pending.1.tapped)) =
        some (0, some (some "run")) := by
    decide
  have finished : ((machine Firebase.byKey fun _ => "ann").execute (initial twoFundraisers)
      ([.event (), .configure () 0 0 (none : Option Unit), .tap () 0, .configure () 0 1 none,
        .answer () 0] ++ [.callback () 0])).map (fun after =>
          after.inFlight.flatMap fun write => write.2.assignments.map Assignment.path) =
        some [likesCountRef "walk", likeRecordRef "ann" "walk"] := by
    decide
  obtain ⟨after, executed, issued⟩ := Option.map_eq_some_iff.mp finished
  obtain ⟨before, first, only⟩ := along.executed executed
  rw [first, Option.map_some, Option.some.injEq, Prod.mk.injEq] at reached
  obtain ⟨⟨read, snapshot⟩, pending, tapped⟩ := Option.map_eq_some_iff.mp reached.2
  obtain ⟨key, _, _, _, shown, _, _, _, writes⟩ := only.2 read snapshot pending
  rw [writes, List.eq_nil_of_length_eq_zero reached.1] at issued
  have count : LikeData.count key = .count "walk" :=
    LikeData.ref_injective (List.cons.inj issued).1
  rw [LikeData.count.inj count] at shown
  exact absurd (tapped.symm.trans shown) (by decide)

end Reconfigured

end Likes

end MyFundi
