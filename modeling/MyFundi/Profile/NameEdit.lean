import MyFundi.Foundation.Machine
import MyFundi.Profile.Observers
import MyFundi.Users.Writes

/-!
# Editing the profile's name

A tap on the edit icon opens the name field and the next tap closes it and stores its
text. The users observer writes the same field, and enables it, whenever a change to any
user is delivered, without asking whether an edit is going on. What is typed is stored
in every run in which the user's record is only delivered during an edit and with the
name the field holds by then (`name_edits_kept`).
-/

namespace MyFundi

open Foundation

/-- The two images of the edit button. -/
inductive EditIcon where
  | edit
  | checkmark
  deriving DecidableEq

/-- A profile screen with what editing the name uses. -/
structure NameEditor where
  vc : ProfileVC
  editingName : Bool
  editNameImage : EditIcon
  allowsEditingTextAttributes : Bool

/-- A tap on the edit icon. The text of a text field is never absent, and
`becomeFirstResponder` only moves the focus. -/
def ProfileVC.editNameTapped (keychain : Option String) (editor : NameEditor) :
    Option (NameEditor × List Write) :=
  if editor.editingName = false then
    some ({ vc := { editor.vc with
              nameTextField := { editor.vc.nameTextField with isEnabled := true } }
            editingName := true
            editNameImage := .checkmark
            allowsEditingTextAttributes := true }, [])
  else do
    let write ← ProfileVC.updateFirebaseProfileName keychain editor.vc.nameTextField.text
    return ({ vc := { editor.vc with
                nameTextField := { editor.vc.nameTextField with isEnabled := false } }
              editingName := false
              editNameImage := .edit
              allowsEditingTextAttributes := false }, [write])

namespace NameEdit

variable (firebase : Firebase) (uid : String)

/-- The screen; while an edit is going on, the text the field held at its start as
changed by the user's keystrokes since; and the writes issued. -/
structure State where
  editor : NameEditor
  typed : Option String
  writes : List Write

/-- A keystroke turns the text of the field into another. -/
inductive Action where
  | editNameTapped
  | keystroke (change : String → String)
  | usersEvent (snapshot : Node)

/-- The name field. -/
def State.field (state : State) : TextField :=
  state.editor.vc.nameTextField

/-- Opening an edit notes the text in the field, closing it writes the text; an event sets the
field as the users observer does. -/
def handle (state : State) : Action → Option State
  | .editNameTapped => do
      let (editor, writes) ← ProfileVC.editNameTapped (some uid) state.editor
      let typed :=
        match state.typed with
        | none => some state.field.text
        | some _ => none
      return { editor := editor, typed := typed, writes := state.writes ++ writes }
  | .keystroke change =>
      some { state with
        editor := { state.editor with
          vc := { state.editor.vc with
            nameTextField := { state.field with text := change state.field.text } } }
        typed := state.typed.map change }
  | .usersEvent snapshot => do
      let (vc, _) ← state.editor.vc.usersObserver firebase snapshot
      return { state with editor := { state.editor with vc := vc } }

/-- Only an enabled field accepts typing. -/
def Enabled (state : State) : Action → Prop
  | .keystroke _ => state.field.isEnabled = true
  | _ => True

instance (state : State) : (action : Action) → Decidable (Enabled state action)
  | .keystroke _ => inferInstanceAs (Decidable (_ = true))
  | .editNameTapped | .usersEvent _ => .isTrue trivial

/-- One profile screen, its user and its users events. -/
def machine : Machine State Action where
  enabled := Enabled
  handle := handle firebase uid

instance (state : State) (action : Action) : Decidable ((machine firebase uid).enabled state action) :=
  inferInstanceAs (Decidable (Enabled state action))

/-- The screen as `viewDidLoad` leaves it. -/
def initial (text : String) : State where
  editor := {
    vc := ProfileVC.loaded uid text
    editingName := false
    editNameImage := .edit
    allowsEditingTextAttributes := false }
  typed := none
  writes := []

/-- What an edit needs of a step. Afterwards the field accepts typing exactly if an edit
is going on; and a tap that confirms an edit stores the text typed in it. -/
def EditKept (before : State) (action : Action) (after : State) : Prop :=
  (after.field.isEnabled = true ↔ after.typed.isSome) ∧
    ∀ text, action = .editNameTapped → before.typed = some text →
      after.writes = before.writes ++
        [.updateChildValues (DataService.refUsers.child uid) [("name", .leaf (.string text))]]

/-- A users event brings the user's record only during an edit, and with the name the
field holds. -/
def Undisturbed (before : State) : Action → Prop
  | .usersEvent snapshot => ∀ record ∈ firebase.asDictionary (snapshot.sub [uid]),
      before.typed.isSome ∧ Node.asString (Node.entry record "name") = some before.field.text
  | _ => True

/-- What undisturbed steps keep. -/
structure Editing (state : State) : Prop where
  user : state.editor.vc.userID = uid
  editing : state.editor.editingName = state.typed.isSome
  accepts : state.field.isEnabled = state.typed.isSome
  text : ∀ text, state.typed = some text → state.field.text = text

variable {firebase} {uid} {before after : State}

theorem editing_initial (text : String) : Editing uid (initial uid text) where
  user := rfl
  editing := rfl
  accepts := rfl
  text := by intro text none; cases none

/-- What a users event does to the screen. -/
theorem step_usersEvent {snapshot : Node}
    (step : (machine firebase uid).Step before (.usersEvent snapshot) after) :
    after.editor.vc.userID = before.editor.vc.userID ∧
      after.editor.editingName = before.editor.editingName ∧ after.typed = before.typed ∧
      ((firebase.asDictionary (snapshot.sub [before.editor.vc.userID]) = none ∧
          after.field = before.field) ∨
        ∃ record name,
          firebase.asDictionary (snapshot.sub [before.editor.vc.userID]) = some record ∧
            Node.asString (Node.entry record "name") = some name ∧
            after.field = { text := name, isEnabled := true }) := by
  obtain ⟨_, handled⟩ := step
  obtain ⟨⟨vc, effects⟩, shown, handled⟩ := Option.bind_eq_some_iff.mp handled
  cases handled
  rw [ProfileVC.usersObserver_eq] at shown
  exact ⟨(ProfileVC.showUser_cases shown).1, rfl, rfl, ProfileVC.showUser_nameTextField shown⟩

/-- A tap on the edit icon starts an edit, or ends it and stores the field's text. -/
theorem step_editNameTapped (held : Editing uid before)
    (step : (machine firebase uid).Step before .editNameTapped after) :
    Editing uid after ∧ ∀ text, before.typed = some text →
      after.writes = before.writes ++
        [.updateChildValues (DataService.refUsers.child uid) [("name", .leaf (.string text))]] := by
  obtain ⟨_, handled⟩ := step
  obtain ⟨⟨editor, writes⟩, tapped, handled⟩ := Option.bind_eq_some_iff.mp handled
  have editing := held.editing
  cases typed : before.typed with
  | none =>
      rw [typed, Option.isSome_none] at editing
      unfold ProfileVC.editNameTapped at tapped
      rw [if_pos editing] at tapped
      rw [typed] at handled
      cases tapped
      cases handled
      exact ⟨⟨held.user, rfl, rfl, fun _ same => Option.some.inj same⟩, nofun⟩
  | some text =>
      rw [typed, Option.isSome_some] at editing
      unfold ProfileVC.editNameTapped at tapped
      rw [if_neg (by simp [editing])] at tapped
      rw [typed] at handled
      cases tapped
      cases handled
      refine ⟨⟨held.user, rfl, rfl, nofun⟩, fun other same => ?_⟩
      cases same
      rw [← held.text text typed]
      rfl

/-- An event that does not disturb the edit leaves the field as it is. -/
theorem Editing.usersEvent {snapshot : Node} (held : Editing uid before)
    (undisturbed : Undisturbed firebase uid before (.usersEvent snapshot))
    (step : (machine firebase uid).Step before (.usersEvent snapshot) after) :
    Editing uid after := by
  obtain ⟨user, editing, typed, cases⟩ := step_usersEvent step
  rw [held.user] at cases user
  rcases cases with ⟨_, field⟩ | ⟨record, name, delivered, named, field⟩
  · refine ⟨user, ?_, ?_, ?_⟩
    · rw [editing, typed, held.editing]
    · rw [field, typed, held.accepts]
    · rw [field, typed]
      exact held.text
  · -- The record comes during an edit, with the text that the field holds already.
    obtain ⟨during, same⟩ := undisturbed record delivered
    have text : name = before.field.text := Option.some.inj (named.symm.trans same)
    refine ⟨user, ?_, ?_, ?_⟩
    · rw [editing, typed, held.editing]
    · rw [field, typed, during]
    · rw [field, typed, text]
      exact held.text

/-- An undisturbed step keeps what is typed and writes it at the end. -/
theorem Editing.step {action : Action} (held : Editing uid before)
    (undisturbed : Undisturbed firebase uid before action)
    (step : (machine firebase uid).Step before action after) :
    EditKept uid before action after ∧ Editing uid after := by
  have kept (next : Editing uid after)
      (stored : ∀ text, action = .editNameTapped → before.typed = some text →
        after.writes = before.writes ++ [.updateChildValues (DataService.refUsers.child uid)
          [("name", .leaf (.string text))]]) :
      EditKept uid before action after ∧ Editing uid after := by
    refine ⟨⟨?_, stored⟩, next⟩
    rw [next.accepts]
  cases action with
  | editNameTapped =>
      obtain ⟨next, stored⟩ := step_editNameTapped held step
      exact kept next fun text _ => stored text
  | keystroke change =>
      cases step.2
      refine kept ⟨held.user, ?_, ?_, ?_⟩ (by simp)
      · rw [held.editing, Option.isSome_map]
      · exact held.accepts.trans Option.isSome_map.symm
      · intro text changed
        obtain ⟨old, typed, rfl⟩ := Option.map_eq_some_iff.mp changed
        exact congrArg change (held.text old typed)
  | usersEvent snapshot => exact kept (held.usersEvent undisturbed step) (by simp)

/-- **Name edits are kept.** In every run of a profile from its first users event on,
whose users events bring the user's record only during an edit and with the name the
field holds, the field accepts typing exactly between the tap that starts an edit and
the tap that confirms it, and the confirming tap stores what was typed. -/
theorem name_edits_kept (firebase : Firebase) (uid text : String) (first : Node)
    (actions : List Action)
    (undisturbed : (machine firebase uid).Guarded (Undisturbed firebase uid) (initial uid text)
      (.usersEvent first :: actions)) :
    (machine firebase uid).Along (EditKept uid) (initial uid text)
      (.usersEvent first :: actions) :=
  undisturbed.imp_of_invariant (fun _ _ _ held step fine => held.step fine step)
    (editing_initial text)

section EventDuringEdit

instance (before : State) : (action : Action) → Decidable (Undisturbed firebase uid before action)
  | .usersEvent snapshot =>
      inferInstanceAs (Decidable (∀ record ∈ firebase.asDictionary (snapshot.sub [uid]), _ ∧ _))
  | .editNameTapped | .keystroke _ => .isTrue trivial

/-- The users when `ann` has a name and an image. -/
def annNamed : Node :=
  Tree.null.applyAll [⟨["ann", "name"], .leaf (.string "Ann")⟩,
    ⟨["ann", "imageUrl"], .leaf (.string "gs://pic")⟩]

/-- An edit in which the user types a name, up to a users event. -/
def typesName (name : String) : List Action :=
  [.usersEvent .null, .editNameTapped, .keystroke fun text => text ++ name, .usersEvent annNamed]

/-- The name typed is kept when the event brings the same name. -/
theorem same_name_kept :
    ((machine Firebase.byKey "ann").execute (initial "ann" "")
        (typesName "Ann" ++ [.editNameTapped])).isSome ∧
      (machine Firebase.byKey "ann").Along (EditKept "ann") (initial "ann" "")
        (typesName "Ann" ++ [.editNameTapped]) :=
  ⟨by decide, name_edits_kept Firebase.byKey "ann" "" .null _
    (Machine.guarded_of_respects (by decide))⟩

/-- A users event during an edit puts the old name back, and that is what is stored. -/
theorem event_during_edit_loses_name :
    ¬ ∀ (firebase : Firebase) (uid text : String) (first : Node) (actions : List Action),
      (machine firebase uid).Along (EditKept uid) (initial uid text)
        (.usersEvent first :: actions) := by
  intro kept
  have along : (machine Firebase.byKey "ann").Along (EditKept "ann") (initial "ann" "")
      (typesName "Anna" ++ [.editNameTapped]) := kept Firebase.byKey "ann" "" .null _
  have reached : ((machine Firebase.byKey "ann").execute (initial "ann" "")
      (typesName "Anna")).map (fun before => (before.typed, before.writes.length)) =
        some (some "Anna", 0) := by
    decide
  have finished : ((machine Firebase.byKey "ann").execute (initial "ann" "")
      (typesName "Anna" ++ [.editNameTapped])).map (fun after =>
        after.writes.flatMap fun write => write.assignments.map fun name => name.placed.value []) =
        some [some (.string "Ann")] := by
    decide
  obtain ⟨after, executed, stored⟩ := Option.map_eq_some_iff.mp finished
  obtain ⟨before, first, _, confirmed⟩ := along.executed executed
  rw [first, Option.map_some, Option.some.injEq, Prod.mk.injEq] at reached
  rw [confirmed "Anna" rfl reached.1, List.eq_nil_of_length_eq_zero reached.2] at stored
  exact absurd stored (by decide)

end EventDuringEdit

end NameEdit

end MyFundi
