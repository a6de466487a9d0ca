import MyFundi.Feed.LikeAgreement
import MyFundi.Feed.Toggle

/-!
# Taps one after the other

On one device whose taps are answered one after the other, and whose cells are up to
date when an answer is used, a tap does to what the device sees what `toggle` does. The
database left by any such sequence of taps is therefore the one left by the toggles of
the tapped posts, and an answer can be used exactly if the new count is in the range of
`Int` (`serial_taps_toggle`). A like at the limit traps (`like_at_the_limit_traps`).
-/

namespace MyFundi

open Foundation

namespace Likes

variable {Image : Type}

/-- The post shown where a tap falls. -/
def tappedKey {Device : Type} (state : State Device Image) : Action Device Image → Option String
  | .tap device cell => (state.clients device).shownKey cell
  | _ => none

/-- The posts tapped, one after the other. -/
def taps (firebase : Firebase) (uid : String) (database : Node)
    (actions : List (Action Unit Image)) : List String :=
  (machine firebase fun _ => uid).observed tappedKey (initial database) actions

/-- A tap comes after the callbacks of all taps before it. A callback runs with every
event delivered, and its cell, which still shows the tapped post, configured since. -/
def InTurn (before : State Unit Image) : Action Unit Image → Prop
  | .tap _ _ => (before.clients ()).reads = [] ∧ (before.clients ()).callbacks = []
  | .callback _ index => (before.clients ()).events = [] ∧
      ∀ pending ∈ (before.clients ()).callbacks[index]?,
        (before.clients ()).shownKey pending.1.cell = pending.1.tapped ∧
          ∀ object ∈ ((before.clients ()).cells pending.1.cell).post,
            object ∈ (before.clients ()).posts
  | _ => True

instance (before : State Unit Image) :
    (action : Action Unit Image) → Decidable (InTurn before action)
  | .tap _ _ => inferInstanceAs (Decidable (_ = [] ∧ _ = []))
  | .callback _ index =>
      inferInstanceAs (Decidable (_ = [] ∧
        ∀ pending ∈ (before.clients ()).callbacks[index]?, _ ∧ ∀ object ∈ _, _))
  | .answer _ _ | .serve _ | .event _ | .configure _ _ _ _ => .isTrue trivial

/-- The count of a post before and after a tap is in the range of `Int`. -/
def InRange (uid : String) (database : Node) (postKey : String) : Prop :=
  (checkedInt (storedLikes database postKey)).isSome ∧
    (checkedInt (storedLikes (toggle uid database postKey) postKey)).isSome

instance (uid : String) (database : Node) (postKey : String) :
    Decidable (InRange uid database postKey) :=
  inferInstanceAs (Decidable (_ ∧ _))

/-- An answer is used where the count of the tapped post stays in range. -/
def StaysInRange (uid : String) (before : State Unit Image) : Action Unit Image → Prop
  | .callback _ index => ∀ pending ∈ (before.clients ()).callbacks[index]?,
      ∀ postKey ∈ pending.1.tapped, InRange uid (before.view ()) postKey
  | _ => True

/-- The taps whose callback has not run. -/
def Client.pendingTaps (client : Client Image) : List Read :=
  client.reads ++ client.callbacks.map Prod.fst

/-- What holds along taps in turn: at most one of them is pending, an answer is still what
the device sees, and what it sees is what the toggles of the others make of the database. -/
structure Serial (firebase : Firebase) (uid : String) (database : Node)
    (state : State Unit Image) (tapped : List String) : Prop where
  single : (state.clients ()).pendingTaps.length ≤ 1
  answers : ∀ pending ∈ (state.clients ()).callbacks,
    pending.2 = (state.view ()).sub pending.1.ref
  toggled : ∃ done, (∀ postKey ∈ done, Stored firebase database postKey) ∧
    state.view () = done.foldl (toggle uid) database ∧
      tapped = done ++ (state.clients ()).pendingTaps.filterMap Read.tapped

variable {firebase : Firebase} {uid : String} {database : Node} {before after : State Unit Image}
  {tapped : List String}

theorem serial_initial : Serial firebase uid database (initial database : State Unit Image) [] where
  single := Nat.zero_le 1
  answers := by
    intro pending member
    cases member
  toggled := ⟨[], by simp, rfl, rfl⟩

/-- A list of at most one element has it in the first place. -/
theorem eq_singleton_of_getElem? {α : Type} {list : List α} {index : Nat} {element : α}
    (found : list[index]? = some element) (single : list.length ≤ 1) :
    list = [element] ∧ index = 0 := by
  have bound := (List.getElem?_eq_some_iff.mp found).1
  have one : list.length = 1 := by omega
  have first : index = 0 := by omega
  obtain ⟨only, rfl⟩ := List.length_eq_one_iff.mp one
  subst first
  cases found
  exact ⟨rfl, rfl⟩

/-- Events do not touch anything else on a device. -/
theorem State.notify_clients {Device : Type} [DecidableEq Device]
    (before after : State Device Image) (device : Device) :
    ∃ events, (before.notify after).clients device = { after.clients device with events := events } := by
  simp only [State.notify]
  split
  · exact ⟨_, rfl⟩
  · exact ⟨_, rfl⟩

/-- The count a post carries is the one stored. -/
theorem Likeable.storedLikes_eq (likeable : Likeable firebase uid database) {postKey : String}
    (stored : Stored firebase database postKey) {likes : Int}
    (count : Node.asInt (database.sub (likesCountRef postKey)) = some likes) :
    storedLikes database postKey = likes := by
  obtain ⟨total, counted⟩ := likeable.counts postKey stored
  rw [Node.asInt, Tree.value_sub, List.append_nil, counted] at count
  rw [storedLikes, counted]
  exact (checkedInt_eq_some count).symm

/-- Steps that leave the pending taps and the view alone. -/
theorem Serial.of_unchanged (serial : Serial firebase uid database before tapped)
    (reads : (after.clients ()).reads = (before.clients ()).reads)
    (callbacks : (after.clients ()).callbacks = (before.clients ()).callbacks)
    (view : after.view () = before.view ()) : Serial firebase uid database after tapped := by
  have pending : (after.clients ()).pendingTaps = (before.clients ()).pendingTaps := by
    unfold Client.pendingTaps
    rw [reads, callbacks]
  refine ⟨pending ▸ serial.single, ?_, ?_⟩
  · rw [callbacks, view]
    exact serial.answers
  · rw [pending, view]
    exact serial.toggled

/-- A step that is no tap adds nothing to the posts tapped. -/
theorem Serial.of_no_tap {action : Action Unit Image}
    (serial : Serial firebase uid database after tapped)
    (none : tappedKey before action = none) :
    Serial firebase uid database after (tapped ++ (tappedKey before action).toList) := by
  rw [none, Option.toList_none, List.append_nil]
  exact serial

/-- A tap in turn is the only one pending. -/
theorem Serial.tap {cell : Nat} (serial : Serial firebase uid database before tapped)
    (step : (machine firebase fun _ => uid).Step before (.tap () cell) after)
    (inTurn : InTurn before (.tap () cell)) :
    Serial firebase uid database after (tapped ++ (tappedKey before (.tap () cell)).toList) := by
  obtain ⟨client, done, handled⟩ := Option.bind_eq_some_iff.mp step.2
  cases handled
  obtain ⟨ref, _, done⟩ := Option.bind_eq_some_iff.mp done
  cases done
  obtain ⟨toggled, stored, view, history⟩ := serial.toggled
  unfold Client.pendingTaps at history
  rw [inTurn.1, inTurn.2] at history
  refine ⟨?_, ?_, toggled, stored, view, ?_⟩
  · simp only [State.setClient, Function.update_self, Client.pendingTaps, inTurn.1, inTurn.2,
      List.nil_append, List.map_nil, List.append_nil, List.length_singleton, le_refl]
  · simp only [State.setClient, Function.update_self, inTurn.2]
    intro pending member
    cases member
  · rw [history]
    simp only [State.setClient, Function.update_self, Client.pendingTaps, inTurn.1, inTurn.2,
      List.nil_append, List.map_nil, List.append_nil, List.filterMap_nil, List.filterMap_cons,
      tappedKey]
    cases (before.clients ()).shownKey cell <;> rfl

/-- A read that can be answered is the only tap pending. -/
theorem Serial.only_read (serial : Serial firebase uid database before tapped) {index : Nat}
    {read : Read} (present : (before.clients ()).reads[index]? = some read) :
    (before.clients ()).reads = [read] ∧ (before.clients ()).callbacks = [] ∧ index = 0 := by
  have single := serial.single
  unfold Client.pendingTaps at single
  rw [List.length_append, List.length_map] at single
  obtain ⟨reads, first⟩ := eq_singleton_of_getElem? present (by omega)
  rw [reads, List.length_singleton] at single
  exact ⟨reads, List.eq_nil_of_length_eq_zero (by omega), first⟩

/-- A callback that can run is the only tap pending. -/
theorem Serial.only_callback (serial : Serial firebase uid database before tapped) {index : Nat}
    {pending : Read × Node} (present : (before.clients ()).callbacks[index]? = some pending) :
    (before.clients ()).reads = [] ∧ (before.clients ()).callbacks = [pending] ∧ index = 0 := by
  have single := serial.single
  unfold Client.pendingTaps at single
  rw [List.length_append, List.length_map] at single
  obtain ⟨callbacks, first⟩ := eq_singleton_of_getElem? present (by omega)
  rw [callbacks, List.length_singleton] at single
  exact ⟨List.eq_nil_of_length_eq_zero (by omega), callbacks, first⟩

/-- An answer is what the device sees at the tapped post's record. -/
theorem Serial.answer {index : Nat} (serial : Serial firebase uid database before tapped)
    (step : (machine firebase fun _ => uid).Step before (.answer () index) after) :
    Serial firebase uid database after tapped := by
  obtain ⟨client, done, handled⟩ := Option.bind_eq_some_iff.mp step.2
  cases handled
  obtain ⟨read, present, done⟩ := Option.bind_eq_some_iff.mp done
  cases done
  obtain ⟨reads, callbacks, rfl⟩ := serial.only_read present
  obtain ⟨toggled, stored, view, history⟩ := serial.toggled
  unfold Client.pendingTaps at history
  rw [reads, callbacks] at history
  refine ⟨?_, ?_, toggled, stored, view, ?_⟩
  · simp only [State.setClient, Function.update_self, Client.pendingTaps, reads, callbacks]
    rfl
  · simp only [State.setClient, Function.update_self, callbacks]
    intro pending member
    cases List.mem_singleton.mp member
    rfl
  · rw [history]
    simp only [State.setClient, Function.update_self, Client.pendingTaps, reads, callbacks]
    rfl

/-- A callback given what the device sees toggles the post of its cell. -/
theorem view_callback {index : Nat} {read : Read} {snapshot : Node} {object : PostObject}
    {post : Post} (coherent : Coherent (fun _ => uid) before)
    (likeable : Likeable firebase uid (before.view ()))
    (step : (machine firebase fun _ => uid).Step before (.callback () index) after)
    (pending : (before.clients ()).callbacks[index]? = some (read, snapshot))
    (held : ((before.clients ()).cells read.cell).post = some object)
    (present : (before.clients ()).objects[object]? = some post)
    (stored : Stored firebase (before.view ()) post.postKey)
    (count : post.likes = Node.asInt ((before.view ()).sub (likesCountRef post.postKey)))
    (record : snapshot = (before.view ()).sub (likeRecordRef uid post.postKey)) :
    after.view () = toggle uid (before.view ()) post.postKey := by
  obtain ⟨_, _, _, _, likes, again, holds, found, counted, _, database, issued⟩ :=
    step_callback coherent step
  cases pending.symm.trans again
  cases held.symm.trans holds
  cases present.symm.trans found
  rw [State.view_issue database issued, toggle,
    likeable.storedLikes_eq stored (count.symm.trans counted), hasLike, Bool.not_not, record]

/-- A callback takes its answer off the list. -/
theorem pendingTaps_callback {index : Nat} (coherent : Coherent (fun _ => uid) before)
    (step : (machine firebase fun _ => uid).Step before (.callback () index) after) :
    (after.clients ()).reads = (before.clients ()).reads ∧
      (after.clients ()).callbacks = (before.clients ()).callbacks.eraseIdx index := by
  obtain ⟨⟨client, writes⟩, done, handled⟩ := Option.bind_eq_some_iff.mp step.2
  obtain ⟨_, _, _, _, _, _, _, _, _, _, _, _, _, _, _, _, _, rfl⟩ :=
    Client.callback_eq_some (coherent ()) done
  cases handled
  obtain ⟨events, clients⟩ := State.notify_clients before { before.setClient () _ with
    inFlight := before.inFlight ++ writes.map fun write => ((), write) } ()
  rw [clients]
  simp only [State.setClient, Function.update_self, and_self]

/-- A callback in turn is given what the device sees of the tapped post. -/
theorem Serial.given {index : Nat} (serial : Serial firebase uid database before tapped)
    (coherent : Coherent (fun _ => uid) before) (informed : Informed firebase before)
    (enabled : Enabled before (.callback () index))
    (inTurn : InTurn before (.callback () index)) :
    ∃ read snapshot object post, (before.clients ()).callbacks[index]? = some (read, snapshot) ∧
      ((before.clients ()).cells read.cell).post = some object ∧
      (before.clients ()).objects[object]? = some post ∧ read.tapped = some post.postKey ∧
      Stored firebase (before.view ()) post.postKey ∧
      post.likes = Node.asInt ((before.view ()).sub (likesCountRef post.postKey)) ∧
      snapshot = (before.view ()).sub (likeRecordRef uid post.postKey) := by
  obtain ⟨read, snapshot, pending⟩ := enabled.pending
  obtain ⟨delivered, upToDate⟩ := inTurn
  obtain ⟨still, listed⟩ := upToDate _ pending
  obtain ⟨key, tap, ref⟩ := (coherent ()).callbacks _ (List.mem_of_getElem? pending)
  have record := serial.answers _ (List.mem_of_getElem? pending)
  rw [ref] at record
  -- The tap was made on the post that the cell still shows.
  rw [tap] at still
  obtain ⟨object, held, shown⟩ := Option.bind_eq_some_iff.mp still
  obtain ⟨post, present, rfl⟩ := Option.map_eq_some_iff.mp shown
  obtain ⟨there, count⟩ := (informed ()).listed delivered object (listed object held) post present
  exact ⟨read, snapshot, object, post, pending, held, present, tap, there, count, record⟩

/-- A callback in turn returns exactly if the count of the tapped post stays in range. -/
theorem Serial.callback_isSome_iff {index : Nat} (likeable : Likeable firebase uid database)
    (serial : Serial firebase uid database before tapped)
    (coherent : Coherent (fun _ => uid) before) (informed : Informed firebase before)
    (enabled : Enabled before (.callback () index))
    (inTurn : InTurn before (.callback () index)) :
    ((before.clients ()).callback index).isSome ↔
      StaysInRange uid before (.callback () index) := by
  obtain ⟨read, snapshot, object, post, pending, held, present, tap, there, count, record⟩ :=
    serial.given coherent informed enabled inTurn
  obtain ⟨done, stored, view, _⟩ := serial.toggled
  obtain ⟨likeableNow, _, _⟩ := likeable.foldl_toggle stored
  rw [← view] at likeableNow
  obtain ⟨likes, counted⟩ := likeableNow.counts post.postKey there
  have total : storedLikes (before.view ()) post.postKey = likes := by
    rw [storedLikes, counted]
  -- The count the callback makes is that of the toggle.
  have made : (if snapshot.IsNull then likes + 1 else likes - 1) =
      storedLikes (toggle uid (before.view ()) post.postKey) post.postKey := by
    rw [storedLikes_toggle, hasLike, ← record, total]
    by_cases absent : snapshot.IsNull <;> simp [absent]
  rw [Node.asInt, Tree.value_sub, List.append_nil, counted] at count
  change post.likes = checkedInt likes at count
  have range : StaysInRange uid before (.callback () index) ↔
      InRange uid (before.view ()) post.postKey := by
    simp only [StaysInRange, pending, tap, Option.mem_def, Option.some.injEq, forall_eq']
  rw [range, InRange, total, Client.callback_isSome_iff (coherent ()) pending held present, count]
  constructor
  · rintro ⟨same, checked, inRange⟩
    cases checkedInt_eq_some checked
    rw [made] at inRange
    exact ⟨Option.isSome_of_eq_some checked, inRange⟩
  · rintro ⟨now, inRange⟩
    obtain ⟨same, checked⟩ := Option.isSome_iff_exists.mp now
    cases checkedInt_eq_some checked
    rw [← made] at inRange
    exact ⟨likes, checked, inRange⟩

/-- A callback in turn toggles the tapped post. -/
theorem Serial.callback {index : Nat} (likeable : Likeable firebase uid database)
    (serial : Serial firebase uid database before tapped)
    (coherent : Coherent (fun _ => uid) before) (informed : Informed firebase before)
    (step : (machine firebase fun _ => uid).Step before (.callback () index) after)
    (inTurn : InTurn before (.callback () index)) : Serial firebase uid database after tapped := by
  obtain ⟨read, snapshot, object, post, pending, held, present, tap, there, count, record⟩ :=
    serial.given coherent informed step.1 inTurn
  obtain ⟨noReads, only, rfl⟩ := serial.only_callback pending
  obtain ⟨toggled, stored, view, history⟩ := serial.toggled
  obtain ⟨likeableNow, storedNow, _⟩ := likeable.foldl_toggle stored
  rw [← view] at likeableNow storedNow
  have after_view := view_callback coherent likeableNow step pending held present there count record
  obtain ⟨reads, callbacks⟩ := pendingTaps_callback coherent step
  rw [noReads] at reads
  rw [only, List.eraseIdx_cons_zero] at callbacks
  refine ⟨?_, ?_, toggled ++ [post.postKey], ?_, ?_, ?_⟩
  · unfold Client.pendingTaps
    rw [reads, callbacks]
    exact Nat.zero_le 1
  · rw [callbacks]
    intro other member
    cases member
  · intro other member
    rcases List.mem_append.mp member with earlier | last
    · exact stored other earlier
    · cases List.mem_singleton.mp last
      exact (storedNow _).mp there
  · rw [List.foldl_append, ← view]
    exact after_view
  · unfold Client.pendingTaps at history ⊢
    rw [history, noReads, only, reads, callbacks]
    simp only [List.map_cons, List.map_nil, List.nil_append, List.filterMap_nil, List.append_nil,
      List.filterMap_cons, tap]

/-- Every step in turn keeps the view that of the toggles. -/
theorem Serial.step {action : Action Unit Image} (likeable : Likeable firebase uid database)
    (serial : Serial firebase uid database before tapped)
    (coherent : Coherent (fun _ => uid) before) (informed : Informed firebase before)
    (step : (machine firebase fun _ => uid).Step before action after)
    (inTurn : InTurn before action) :
    Serial firebase uid database after (tapped ++ (tappedKey before action).toList) := by
  cases action with
  | tap device cell => exact serial.tap step inTurn
  | answer device index => exact (serial.answer step).of_no_tap rfl
  | callback device index =>
      exact (serial.callback likeable coherent informed step inTurn).of_no_tap rfl
  | serve device =>
      obtain ⟨front, write, rest, first, others, applied, inFlight⟩ := step_serve step
      have view := State.view_serve first others applied inFlight
      obtain ⟨_, handled⟩ := step
      simp only [machine, handle] at handled
      split at handled <;> cases handled
      obtain ⟨events, clients⟩ := State.notify_clients before _ ()
      refine Serial.of_no_tap ?_ rfl
      refine serial.of_unchanged ?_ ?_ view
      · rw [clients]
      · rw [clients]
  | event device =>
      obtain ⟨_, handled⟩ := step
      simp only [machine, handle] at handled
      split at handled <;> cases handled
      refine Serial.of_no_tap ?_ rfl
      refine serial.of_unchanged ?_ ?_ rfl
      · simp only [State.setClient, Function.update_self, Client.receive]
      · simp only [State.setClient, Function.update_self, Client.receive]
  | configure device cell row img =>
      obtain ⟨client, done, handled⟩ := Option.bind_eq_some_iff.mp step.2
      cases handled
      obtain ⟨object, _, done⟩ := Option.bind_eq_some_iff.mp done
      obtain ⟨post, _, done⟩ := Option.bind_eq_some_iff.mp done
      obtain ⟨result, _, done⟩ := Option.bind_eq_some_iff.mp done
      cases done
      refine Serial.of_no_tap ?_ rfl
      refine serial.of_unchanged ?_ ?_ rfl
      · simp only [State.setClient, Function.update_self]
      · simp only [State.setClient, Function.update_self]

/-- Only a callback can trap where no cell is configured. -/
theorem exists_step_iff {action : Action Unit Image} (enabled : Enabled before action)
    (noConfigure : ∀ device cell row img, action ≠ .configure device cell row img)
    (callback : ∀ index, action = .callback () index →
      (((before.clients ()).callback index).isSome ↔ StaysInRange uid before action)) :
    (∃ after, (machine firebase fun _ => uid).Step before action after) ↔
      StaysInRange uid before action := by
  have steps : (∃ after, (machine firebase fun _ => uid).Step before action after) ↔
      (handle firebase (fun _ => uid) before action).isSome := by
    rw [Option.isSome_iff_exists]
    exact exists_congr fun after => and_iff_right enabled
  rw [steps]
  cases action with
  | callback device index =>
      rw [handle_callback_isSome]
      exact callback index rfl
  | tap device cell => exact iff_of_true (isSome_handle enabled (by simp) noConfigure) trivial
  | answer device index => exact iff_of_true (isSome_handle enabled (by simp) noConfigure) trivial
  | serve device => exact iff_of_true (isSome_handle enabled (by simp) noConfigure) trivial
  | event device => exact iff_of_true (isSome_handle enabled (by simp) noConfigure) trivial
  | configure device cell row img => exact (noConfigure device cell row img rfl).elim

/-- **Taps in turn are toggles.** On one device of one user, from a database in which
every post has an integer count and the user's like records hold true, let taps fall on
any posts, each answered and used before the next tap and before its cell shows another
post, with every event delivered and the cell configured since. Once all answers are used
and all writes applied, nothing has changed but the counts of the tapped posts and the
user's records for them, each record has been flipped once for every tap on its post, each
count has changed as its record has, and taps that come in pairs leave the database as it
was. At any time whatever is due can be done: of the handlers that configure no cell none
traps, except that an answer can be used exactly if the count of its post stays in the
range of `Int`. -/
theorem serial_taps_toggle (firebase : Firebase) (uid : String) (database : Node)
    (likeable : Likeable firebase uid database) (actions : List (Action Unit Image))
    (finish : State Unit Image)
    (run : (machine firebase fun _ => uid).Run (initial database) actions finish)
    (inTurn : (machine firebase fun _ => uid).Guarded InTurn (initial database) actions) :
    (finish.inFlight = [] → (finish.clients ()).pendingTaps = [] →
      Toggled firebase uid database finish.database (taps firebase uid database actions) ∧
        ((∀ postKey, Even ((taps firebase uid database actions).count postKey)) →
          finish.database = database)) ∧
      ∀ action, Enabled finish action → InTurn finish action →
        (∀ device cell row img, action ≠ .configure device cell row img) →
          ((∃ after, (machine firebase fun _ => uid).Step finish action after) ↔
            StaysInRange uid finish action) := by
  have reached : Serial firebase uid database finish (taps firebase uid database actions) ∧
      Coherent (fun _ => uid) finish ∧ Informed firebase finish :=
    run.invariant_observed inTurn
      (fun before _ _ tapped
        (held : Serial firebase uid database before tapped ∧ Coherent (fun _ => uid) before ∧
          Informed firebase before) step fine =>
        ⟨held.1.step likeable held.2.1 held.2.2 step fine, held.2.1.step step,
          held.2.2.step held.2.1 step⟩)
      ⟨serial_initial, coherent_initial database, informed_initial firebase database⟩
  obtain ⟨serial, coherent, informed⟩ := reached
  refine ⟨fun applied used => ?_, fun action enabled due noConfigure => ?_⟩
  · obtain ⟨done, stored, view, history⟩ := serial.toggled
    rw [used, List.filterMap_nil, List.append_nil] at history
    have final : finish.database = done.foldl (toggle uid) database := by
      rw [← view, State.view, applied]
      rfl
    obtain ⟨likeableNow, _, toggled⟩ := likeable.foldl_toggle stored
    rw [history, final]
    exact ⟨toggled, toggled.restored likeable likeableNow stored⟩
  · exact exists_step_iff enabled noConfigure fun index same => by
      subst same
      exact serial.callback_isSome_iff likeable coherent informed enabled due

section TwoTaps

/-- A database with one fundraiser that has a count, and without likes of Ann, can be
liked by her. -/
theorem likeable_walk {database : Node}
    (only : ∀ key ∈ Firebase.keySet (database.sub DataService.refFundraisers), key = "walk")
    (counted : ∃ likes, database.value (likesCountRef "walk") = some (.int likes))
    (apart : ∀ path ∈ database.support, ¬ ["users", "ann", "likes"] <+: path ∧
      ¬ path <+: ["users", "ann", "likes"]) : Likeable Firebase.byKey "ann" database where
  counts := by
    intro postKey stored
    have member : postKey ∈ Firebase.keySet (database.sub DataService.refFundraisers) := by
      rw [Firebase.mem_keySet, ← Tree.sub_append]
      intro absent
      have none : Firebase.byKey.asDictionary
          (database.sub (DataService.refFundraisers.child postKey)) = none :=
        Firebase.asDictionary_of_isNull _ absent
      rw [Stored, none] at stored
      cases stored
    rw [only postKey member]
    exact counted
  records := by
    intro path present
    exact Or.inl (apart path ((database.mem_support path).mpr present))

theorem likeable_oneFundraiser : Likeable Firebase.byKey "ann" oneFundraiser :=
  likeable_walk (by decide) ⟨0, by decide⟩ (by decide)

/-- A like and its removal, each with the event it raises delivered and the cell
configured. -/
def likeAndRemove : List (Action Unit Unit) :=
  [.event (), .configure () 0 0 none,
    .tap () 0, .answer () 0, .callback () 0, .event (), .configure () 0 0 none,
    .tap () 0, .answer () 0, .serve (), .callback () 0, .serve (), .serve (), .serve ()]

/-- Two taps on a post restore the database, and a third can follow. -/
theorem like_and_remove_restores :
    ∃ finish, (machine Firebase.byKey fun _ => "ann").execute (initial oneFundraiser)
        likeAndRemove = some finish ∧
      taps Firebase.byKey "ann" oneFundraiser likeAndRemove = ["walk", "walk"] ∧
      finish.database = oneFundraiser ∧
      ∃ after, (machine Firebase.byKey fun _ => "ann").Step finish (.tap () 0) after := by
  have reached : ((machine Firebase.byKey fun _ => "ann").execute (initial oneFundraiser)
      likeAndRemove).map (fun finish =>
        (finish.inFlight.length, (finish.clients ()).pendingTaps.length,
          decide (Enabled finish (.tap () 0)), decide (InTurn finish (.tap () 0)))) =
            some (0, 0, true, true) := by
    decide
  have tapped : taps Firebase.byKey "ann" oneFundraiser likeAndRemove = ["walk", "walk"] := by
    decide
  obtain ⟨finish, executed, result⟩ := Option.map_eq_some_iff.mp reached
  simp only [Prod.mk.injEq, decide_eq_true_eq] at result
  obtain ⟨applied, used, enabled, due⟩ := result
  obtain ⟨toggled, steps⟩ := serial_taps_toggle Firebase.byKey "ann" oneFundraiser
    likeable_oneFundraiser likeAndRemove finish (Machine.run_of_execute executed)
    (Machine.guarded_of_respects (by decide))
  have restored := (toggled (List.eq_nil_of_length_eq_zero applied)
    (List.eq_nil_of_length_eq_zero used)).2
  refine ⟨finish, executed, tapped, restored fun postKey => ?_,
    (steps _ enabled due (by simp)).mpr trivial⟩
  rw [tapped, List.count_cons, List.count_cons, List.count_nil, Nat.zero_add]
  exact ⟨_, rfl⟩

/-- The fundraiser with the greatest count there is. -/
def mostLiked : Node :=
  oneFundraiser.set (likesCountRef "walk") (.leaf (.int (2 ^ 63 - 1)))

/-- A tap on the fundraiser, whose answer is due. -/
def tapOnce : List (Action Unit Unit) :=
  [.event (), .configure () 0 0 none, .tap () 0, .answer () 0]

/-- A like in turn of a post with the greatest count traps, so its tap is never over. -/
theorem like_at_the_limit_traps :
    ¬ ∀ (firebase : Firebase) (uid : String) (database : Node)
        (actions : List (Action Unit Unit)) (finish : State Unit Unit) (index : Nat),
      Likeable firebase uid database →
      (machine firebase fun _ => uid).Run (initial database) actions finish →
      (machine firebase fun _ => uid).Guarded InTurn (initial database) actions →
      Enabled finish (.callback () index) → InTurn finish (.callback () index) →
      ∃ after, (machine firebase fun _ => uid).Step finish (.callback () index) after := by
  intro all
  have reached : ((machine Firebase.byKey fun _ => "ann").execute (initial mostLiked)
      tapOnce).map (fun finish =>
        (decide (Enabled finish (.callback () 0)), decide (InTurn finish (.callback () 0)),
          (handle Firebase.byKey (fun _ => "ann") finish (.callback () 0)).isNone)) =
            some (true, true, true) := by
    decide
  obtain ⟨finish, executed, result⟩ := Option.map_eq_some_iff.mp reached
  simp only [Prod.mk.injEq, decide_eq_true_eq] at result
  obtain ⟨enabled, due, traps⟩ := result
  obtain ⟨after, step⟩ := all Firebase.byKey "ann" mostLiked tapOnce finish 0
    (likeable_walk (by decide) ⟨2 ^ 63 - 1, by decide⟩ (by decide))
    (Machine.run_of_execute executed) (Machine.guarded_of_respects (by decide)) enabled due
  rw [Option.isNone_iff_eq_none] at traps
  cases traps.symm.trans step.2

end TwoTaps

end Likes

end MyFundi
