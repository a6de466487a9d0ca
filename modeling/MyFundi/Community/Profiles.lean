import MyFundi.Community.Addresses
import MyFundi.Community.Presence
import MyFundi.Profile.NameEdit

/-!
# Profile screens beside the feeds

Every device also shows its user's profile, which is told of each change to any user that
the device sees, puts the user's name in the name field, and writes the name the user
confirms. From a database in which every user has a name and an image in the app's storage,
no profile traps, and a profile with no event to come shows the name that the device sees,
unless the user has typed since.
-/

namespace MyFundi.Profiles

open Foundation Community

variable {Device Image Data : Type} [DecidableEq Device]

/-- A profile with its undelivered users events. `typed` is set by a keystroke and reset
by an event that sets the name field. -/
structure Screen where
  editor : NameEditor
  events : List Node
  typed : Bool

/-- The name field. -/
def Screen.field (screen : Screen) : TextField :=
  screen.editor.vc.nameTextField

/-- The devices with the profile each shows. -/
structure State (Device Image Data : Type) where
  community : Community.State Device Image Data
  screens : Device → Screen

/-- The actions of the app, and those of a profile: a tap on the edit icon, a keystroke, the
delivery of a users event. -/
inductive Action (Device Image : Type) where
  | community (action : Community.Action Device Image)
  | editNameTapped (device : Device)
  | keystroke (device : Device) (change : String → String)
  | usersEvent (device : Device)

/-- The users that a device sees. -/
def users (community : Community.State Device Image Data) (device : Device) : Node :=
  (community.likes.view device).sub DataService.refUsers

/-- Raise a users event on every profile whose view of the users changed. -/
def notify (before after : Community.State Device Image Data) (screens : Device → Screen) :
    Device → Screen := fun device =>
  if users before device = users after device then screens device
  else { screens device with events := (screens device).events ++ [users after device] }

variable (firebase : Firebase) (uid : Device → String) (jpeg : Image → Option Data)
  (placeholder : Option Image)

/-- The name is written when an edit is closed; whatever changes the users a device sees raises
an event. -/
def handle (state : State Device Image Data) :
    Action Device Image → Option (State Device Image Data)
  | .community action => do
      let community ← Community.handle firebase uid jpeg placeholder state.community action
      return {
        community := community
        screens := notify state.community community state.screens }
  | .editNameTapped device => do
      let (editor, writes) ←
        ProfileVC.editNameTapped (some (uid device)) (state.screens device).editor
      let community : Community.State Device Image Data := { state.community with
        likes := writes.foldl (fun likes write => likes.issue device [write])
          state.community.likes }
      return {
        community := community
        screens := notify state.community community
          (Function.update state.screens device { state.screens device with editor := editor }) }
  | .keystroke device change =>
      let screen := state.screens device
      some { state with
        screens := Function.update state.screens device { screen with
          editor := { screen.editor with
            vc := { screen.editor.vc with
              nameTextField := { screen.field with text := change screen.field.text } } }
          typed := true } }
  | .usersEvent device =>
      match (state.screens device).events with
      | [] => none
      | snapshot :: rest => do
          let screen := state.screens device
          let (vc, _) ← screen.editor.vc.usersEvent firebase snapshot
          return { state with
            screens := Function.update state.screens device {
              editor := { screen.editor with vc := vc }
              events := rest
              typed := screen.typed &&
                (firebase.asDictionary (snapshot.sub [uid device])).isNone } }

/-- Only an enabled field accepts typing, and only a waiting event is delivered. -/
def Enabled (state : State Device Image Data) : Action Device Image → Prop
  | .community action => Community.Enabled state.community action
  | .editNameTapped _ => True
  | .keystroke device _ => (state.screens device).field.isEnabled = true
  | .usersEvent device => (state.screens device).events ≠ []

instance (state : State Device Image Data) :
    (action : Action Device Image) → Decidable (Enabled state action)
  | .community action => inferInstanceAs (Decidable (Community.Enabled state.community action))
  | .editNameTapped _ => .isTrue trivial
  | .keystroke _ _ => inferInstanceAs (Decidable (_ = true))
  | .usersEvent _ => inferInstanceAs (Decidable (_ ≠ []))

/-- The devices and their profiles. -/
def machine : Machine (State Device Image Data) (Action Device Image) where
  enabled := Enabled
  handle := handle firebase uid jpeg placeholder

/-- Profiles just loaded, each with the first event on its way. -/
def initial (uid : Device → String) (database : Node) (forms : Device → FeedVC Image)
    (texts : Device → String) : State Device Image Data where
  community := Community.initial database forms
  screens := fun device => {
    editor := (NameEdit.initial (uid device) (texts device)).editor
    events := [database.sub DataService.refUsers]
    typed := false }

/-- The profile can show a user: there is a name and an image address. -/
structure Named (users : Node) (owner : String) : Prop where
  name : (Node.asString (Node.entry (users.sub [owner]) "name")).isSome
  imageUrl : (Node.asString (Node.entry (users.sub [owner]) "imageUrl")).isSome

/-- A string that a user's node has at a written child is replaced by strings only. -/
theorem isSome_asString_set {database : Node} {owner : String} (child : UserChild)
    (strings : ∀ write : UserWrite, write.child = child →
      ∃ value, write.placed = .leaf (.string value))
    {write : Assignment String Scalar} (fits : growing.Fits database write)
    (held : (Node.asString (database.sub (child.ref owner))).isSome) :
    (Node.asString ((database.set write.path write.placed).sub (child.ref owner))).isSome := by
  obtain ⟨other, deed, rfl, _⟩ := fits
  have kept (away : Incomparable (deed.assignment other).path (child.ref owner)) :
      (Node.asString ((database.set (deed.assignment other).path
        (deed.assignment other).placed).sub (child.ref owner))).isSome := by
    rwa [Tree.sub_set_of_incomparable database _ away]
  cases deed with
  | count postKey likes => exact kept (incomparable_append_cons [] (by decide) _ _)
  | publish key captionField imgUrl => exact kept (incomparable_append_cons [] (by decide) _ _)
  | user write =>
      rcases UserChild.ref_separate (other, write.child) (owner, child) with same | apart
      · obtain ⟨rfl, here⟩ := Prod.mk.inj same
        obtain ⟨value, placed⟩ := strings write here
        subst here
        rw [Deed.assignment, UserWrite.assignment, Tree.sub_set_self, placed]
        rfl
      · exact kept apart

/-- Every deed keeps a user's name and image. -/
theorem Named.set {database : Node} {owner : String} {write : Assignment String Scalar}
    (named : Named (database.sub DataService.refUsers) owner)
    (fits : growing.Fits database write) :
    Named ((database.set write.path write.placed).sub DataService.refUsers) owner := by
  obtain ⟨name, imageUrl⟩ := named
  simp only [Node.entry, ← Tree.sub_append] at name imageUrl
  constructor
  · simp only [Node.entry, ← Tree.sub_append]
    refine isSome_asString_set .name (fun write here => ?_) fits name
    cases write <;> cases here
    exact ⟨_, rfl⟩
  · simp only [Node.entry, ← Tree.sub_append]
    refine isSome_asString_set .imageUrl (fun write here => ?_) fits imageUrl
    cases write <;> cases here
    exact ⟨_, rfl⟩

/-- A user with a name is delivered as a dictionary. -/
theorem Named.asDictionary {users : Node} {owner : String} (named : Named users owner)
    (firebase : Firebase) : firebase.asDictionary (users.sub [owner]) = some (users.sub [owner]) := by
  have present : ¬ ((users.sub [owner]).sub ["name"]).IsNull := by
    intro absent
    have name := named.name
    rw [Node.entry, Node.asString, (Tree.isNull_iff_value _).mp absent []] at name
    cases name
  exact firebase.asDictionary_of_key present (by decide)

/-- The profile can show a user and load the image: it is in the app's storage. -/
structure Loadable (firebase : Firebase) (users : Node) (owner : String) : Prop
    extends Named users owner where
  storage : ∀ imageUrl, Node.asString (Node.entry (users.sub [owner]) "imageUrl") = some imageUrl →
    firebase.isStorageURL imageUrl = true

/-- A users event with a loadable user does not trap. -/
theorem Loadable.usersEvent_isSome {firebase : Firebase} {users : Node} {owner : String}
    (loadable : Loadable firebase users owner) {vc : ProfileVC} (user : vc.userID = owner) :
    (vc.usersEvent firebase users).isSome := by
  rw [ProfileVC.usersEvent_isSome_iff, user]
  obtain ⟨imageUrl, has⟩ := Option.isSome_iff_exists.mp loadable.imageUrl
  exact fun _ => ⟨loadable.name, imageUrl, has, loadable.storage imageUrl has⟩

/-- What a profile shows, when its device sees `users`: its events bring loadable users, the
last one the users seen, and without one and without typing the field has the name. -/
structure Watches (firebase : Firebase) (users : Node) (owner : String) (screen : Screen) :
    Prop where
  user : screen.editor.vc.userID = owner
  loadable : ∀ snapshot ∈ screen.events, Loadable firebase snapshot owner
  last : ∀ snapshot, screen.events.getLast? = some snapshot → snapshot = users
  text : screen.events = [] → screen.typed = false →
    Node.asString (Node.entry (users.sub [owner]) "name") = some screen.field.text

variable {firebase} {seen now : Node} {owner : String} {screen : Screen}

/-- A profile is told what the device sees now. -/
theorem Watches.append (watches : Watches firebase seen owner screen)
    (loadable : Loadable firebase now owner) :
    Watches firebase now owner { screen with events := screen.events ++ [now] } where
  user := watches.user
  loadable := by
    intro snapshot member
    rcases List.mem_append.mp member with old | new
    · exact watches.loadable snapshot old
    · cases List.mem_singleton.mp new
      exact loadable
  last := by
    intro snapshot last
    rw [List.getLast?_concat] at last
    exact (Option.some.inj last).symm
  text := fun none => absurd none (List.append_ne_nil_of_right_ne_nil _ (List.cons_ne_nil _ _))

/-- A new editor with the same user and text. -/
theorem Watches.edit (watches : Watches firebase seen owner screen) {editor : NameEditor}
    (user : editor.vc.userID = screen.editor.vc.userID)
    (text : editor.vc.nameTextField.text = screen.field.text) :
    Watches firebase seen owner { screen with editor := editor } :=
  ⟨user.trans watches.user, watches.loadable, watches.last,
    fun none untyped => (watches.text none untyped).trans (congrArg some text.symm)⟩

/-- A profile that is given the next event shows it. -/
theorem Watches.deliver (watches : Watches firebase seen owner screen)
    {snapshot : Node} {rest : List Node} (waiting : screen.events = snapshot :: rest)
    {vc : ProfileVC} {effects : List ProfileEffect}
    (done : screen.editor.vc.usersEvent firebase snapshot = some (vc, effects))
    (typed : Bool) :
    Watches firebase seen owner
      { editor := { screen.editor with vc := vc }, events := rest, typed := typed } := by
  have shown := ProfileVC.usersObserver_of_usersEvent done
  rw [ProfileVC.usersObserver_eq] at shown
  have named := (watches.loadable snapshot (waiting ▸ List.mem_cons_self)).toNamed
  refine ⟨(ProfileVC.showUser_cases shown).1.trans watches.user, ?_, ?_, ?_⟩
  · exact fun other member => watches.loadable other (waiting ▸ List.mem_cons_of_mem _ member)
  · intro other last
    apply watches.last
    rw [waiting, List.getLast?_cons, last]
    rfl
  · rintro rfl -
    have newest : snapshot = seen := watches.last snapshot (by rw [waiting]; rfl)
    subst newest
    rcases ProfileVC.showUser_nameTextField shown with ⟨absent, _⟩ | ⟨record, name, delivered, has,
      field⟩
    · rw [watches.user, named.asDictionary firebase] at absent
      cases absent
    · rw [watches.user, named.asDictionary firebase] at delivered
      cases delivered
      exact has.trans (congrArg (fun field => some field.text) field.symm)

/-- A tap leaves the user and the text, and issues nothing or the text as the name. -/
theorem editNameTapped_cases {editor next : NameEditor} {writes : List Write}
    (tapped : ProfileVC.editNameTapped (some owner) editor = some (next, writes)) :
    next.vc.userID = editor.vc.userID ∧
      next.vc.nameTextField.text = editor.vc.nameTextField.text ∧
      (writes = [] ∨ ∃ write, writes = [write] ∧
        (UserWrite.updateFirebaseProfileName editor.vc.nameTextField.text).issue owner =
          some write) := by
  unfold ProfileVC.editNameTapped at tapped
  split at tapped
  · cases tapped
    exact ⟨rfl, rfl, Or.inl rfl⟩
  · obtain ⟨write, issued, tapped⟩ := Option.bind_eq_some_iff.mp tapped
    cases tapped
    exact ⟨rfl, rfl, Or.inr ⟨write, rfl, issued⟩⟩

/-- The address that an upload came back with, if the action stores one. -/
def uploadedURL : Action Device Image → Option String
  | .community action => Community.uploadedURL action
  | _ => none

variable {uid jpeg placeholder} {before after : State Device Image Data}

/-- A step of the screens is a step of the app beside them, or leaves the app as it is. -/
theorem step_community {action : Action Device Image}
    (step : (machine firebase uid jpeg placeholder).Step before action after) :
    after.community = before.community ∨ ∃ inner,
      (Community.machine firebase uid jpeg placeholder).Step before.community inner
        after.community ∧
      Community.uploadedURL inner = uploadedURL action := by
  obtain ⟨enabled, handled⟩ := step
  cases action with
  | community action =>
      obtain ⟨community, done, handled⟩ := Option.bind_eq_some_iff.mp handled
      cases handled
      exact Or.inr ⟨action, ⟨enabled, done⟩, rfl⟩
  | editNameTapped device =>
      obtain ⟨⟨editor, writes⟩, tapped, handled⟩ := Option.bind_eq_some_iff.mp handled
      cases handled
      rcases (editNameTapped_cases tapped).2.2 with rfl | ⟨write, rfl, issued⟩
      · exact Or.inl rfl
      · refine Or.inr ⟨.userWrite device (.updateFirebaseProfileName
          (before.screens device).editor.vc.nameTextField.text), ⟨trivial, ?_⟩, rfl⟩
        simp only [Community.machine, Community.handle, issued, Option.bind_eq_bind,
          Option.bind_some]
        rfl
  | keystroke device change =>
      cases handled
      exact Or.inl rfl
  | usersEvent device =>
      simp only [machine, handle] at handled
      split at handled
      · cases handled
      · obtain ⟨⟨vc, effects⟩, _, handled⟩ := Option.bind_eq_some_iff.mp handled
        cases handled
        exact Or.inl rfl

/-- What every step keeps, where uploads come back with addresses of the storage. -/
structure Watching (firebase : Firebase) (uid : Device → String)
    (state : State Device Image Data) : Prop where
  supported : Supported uid state.community.likes
  addressed : state.community.likes.replica.Everywhere (StorageURL firebase)
  named : ∀ device, Named (state.community.likes.database.sub DataService.refUsers) (uid device)
  screens : ∀ device, Watches firebase (users state.community device) (uid device)
    (state.screens device)

/-- A device sees a name and an image of every user that has them. -/
theorem named_users {community : Community.State Device Image Data}
    (supported : Supported uid community.likes)
    (named : Named (community.likes.database.sub DataService.refUsers) owner) (device : Device) :
    Named (users community device) owner := by
  rw [users, ← Likes.State.view_replica]
  exact supported.ordered.invariant_view (fun database _ held fits => Named.set held fits) named
    device

/-- Its image is in the app's storage. -/
theorem loadable_users {community : Community.State Device Image Data}
    (supported : Supported uid community.likes)
    (addressed : community.likes.replica.Everywhere (StorageURL firebase))
    (named : Named (community.likes.database.sub DataService.refUsers) owner) (device : Device) :
    Loadable firebase (users community device) owner := by
  refine ⟨named_users supported named device, fun imageUrl has => ?_⟩
  rw [users, Node.entry, ← Tree.sub_append, ← Tree.sub_append, ← Likes.State.view_replica] at has
  exact Addressed.user (addressed.view device) has

/-- The events raised keep every profile watching its own user. -/
theorem watches_notify {earlier later : Community.State Device Image Data}
    {screens : Device → Screen}
    (watches : ∀ device, Watches firebase (users earlier device) (uid device) (screens device))
    (loadable : ∀ device, Loadable firebase (users later device) (uid device)) (device : Device) :
    Watches firebase (users later device) (uid device) (notify earlier later screens device) := by
  rw [notify]
  split
  · rename_i same
    rw [← same]
    exact watches device
  · exact (watches device).append (loadable device)

theorem forall_update {good : Device → Screen → Prop} {screens : Device → Screen}
    (all : ∀ device, good device (screens device)) {device : Device} {screen : Screen}
    (here : good device screen) :
    ∀ other, good other (Function.update screens device screen other) :=
  (Function.forall_update_iff screens good).mpr ⟨here, fun other _ => all other⟩

/-- Every step keeps the profiles watching. -/
theorem Watching.step {action : Action Device Image} (watching : Watching firebase uid before)
    (step : (machine firebase uid jpeg placeholder).Step before action after)
    (own : ∀ url ∈ uploadedURL action, firebase.isStorageURL url = true) :
    Watching firebase uid after := by
  have app : Supported uid after.community.likes ∧
      after.community.likes.replica.Everywhere (StorageURL firebase) ∧
      ∀ device, Named (after.community.likes.database.sub DataService.refUsers) (uid device) := by
    rcases step_community step with same | ⟨inner, moved, same⟩
    · rw [same]
      exact ⟨watching.supported, watching.addressed, watching.named⟩
    · have moves := traffic watching.supported.coherent moved
      refine ⟨watching.supported.step moved,
        addressed_step watching.addressed moves (same ▸ own), fun device => ?_⟩
      exact watching.supported.invariant moves (fun database _ held fits => Named.set held fits)
        (watching.named device)
  obtain ⟨supported, addressed, named⟩ := app
  refine ⟨supported, addressed, named, ?_⟩
  have loadable (device : Device) :
      Loadable firebase (users after.community device) (uid device) :=
    loadable_users supported addressed (named device) device
  obtain ⟨enabled, handled⟩ := step
  cases action with
  | community action =>
      obtain ⟨community, _, handled⟩ := Option.bind_eq_some_iff.mp handled
      cases handled
      exact watches_notify watching.screens loadable
  | editNameTapped device =>
      obtain ⟨⟨editor, writes⟩, tapped, handled⟩ := Option.bind_eq_some_iff.mp handled
      cases handled
      obtain ⟨user, text, _⟩ := editNameTapped_cases tapped
      exact watches_notify (forall_update watching.screens
        ((watching.screens device).edit user text)) loadable
  | keystroke device change =>
      cases handled
      have watches := watching.screens device
      exact forall_update watching.screens ⟨watches.user, watches.loadable, watches.last, nofun⟩
  | usersEvent device =>
      simp only [machine, handle] at handled
      split at handled
      · cases handled
      · rename_i snapshot rest waiting
        obtain ⟨⟨vc, effects⟩, shown, handled⟩ := Option.bind_eq_some_iff.mp handled
        cases handled
        exact forall_update watching.screens ((watching.screens device).deliver waiting shown _)

theorem watching_initial {database : Node}
    (named : ∀ device, Named (database.sub DataService.refUsers) (uid device))
    (addressed : Addressed firebase database) (forms : Device → FeedVC Image)
    (texts : Device → String) :
    Watching firebase uid (initial uid database forms texts : State Device Image Data) where
  supported := supported_initial uid database
  addressed := addressed_initial addressed
  named := named
  screens := by
    intro device
    refine ⟨rfl, ?_, ?_, nofun⟩
    · intro snapshot member
      cases List.mem_singleton.mp member
      refine ⟨named device, fun imageUrl has => ?_⟩
      rw [Node.entry, ← Tree.sub_append, ← Tree.sub_append] at has
      exact addressed.user has
    · intro snapshot last
      cases last
      rfl

/-- **Profiles show the stored names.** From a database in which every user has a name and
an image and the image addresses are of the app's storage, in every run of any number of
devices whose uploads come back with such addresses, no profile traps at a users event or at
a tap, and a profile with no event to come, in which the user has not typed since the last
one, shows the name that the device sees: that of the database if no write is in flight. -/
theorem profiles_show_names (firebase : Firebase) {uid : Device → String}
    (jpeg : Image → Option Data) (placeholder : Option Image) {database : Node}
    (named : ∀ device, Named (database.sub DataService.refUsers) (uid device))
    (addressed : Addressed firebase database) (forms : Device → FeedVC Image)
    (texts : Device → String) {actions : List (Action Device Image)}
    {finish : State Device Image Data}
    (run : (machine firebase uid jpeg placeholder).Run (initial uid database forms texts) actions
      finish)
    (own : ∀ action ∈ actions, ∀ url ∈ uploadedURL action, firebase.isStorageURL url = true)
    (device : Device) :
    (handle firebase uid jpeg placeholder finish (.editNameTapped device)).isSome ∧
      ((finish.screens device).events ≠ [] →
        (handle firebase uid jpeg placeholder finish (.usersEvent device)).isSome) ∧
      ((finish.screens device).events = [] → (finish.screens device).typed = false →
        Node.asString ((finish.community.likes.view device).sub (UserChild.name.ref (uid device))) =
            some (finish.screens device).field.text ∧
          (finish.community.likes.inFlight = [] →
            Node.asString (finish.community.likes.database.sub
              (UserChild.name.ref (uid device))) = some (finish.screens device).field.text)) := by
  have watching : Watching firebase uid finish :=
    run.invariant_along (Machine.Along.of_actions own)
      (fun _ _ _ watching step own => watching.step step own)
      (watching_initial named addressed forms texts)
  have watches := watching.screens device
  refine ⟨?_, fun waiting => ?_, fun none untyped => ?_⟩
  · have tapped : (ProfileVC.editNameTapped (some (uid device))
        (finish.screens device).editor).isSome := by
      unfold ProfileVC.editNameTapped
      split <;> rfl
    obtain ⟨result, tapped⟩ := Option.isSome_iff_exists.mp tapped
    simp only [handle, tapped, Option.bind_eq_bind, Option.bind_some]
    rfl
  · obtain ⟨snapshot, rest, events⟩ := List.exists_cons_of_ne_nil waiting
    obtain ⟨result, shown⟩ := Option.isSome_iff_exists.mp
      ((watches.loadable snapshot (events ▸ List.mem_cons_self)).usersEvent_isSome watches.user)
    simp only [handle, events, shown, Option.bind_eq_bind, Option.bind_some]
    rfl
  · have text := watches.text none untyped
    simp only [users, Node.entry, ← Tree.sub_append] at text
    refine ⟨text, fun applied => ?_⟩
    rw [Likes.State.view_of_applied applied] at text
    exact text

section Rename

instance (state : State Device Image Data) (action : Action Device Image) :
    Decidable ((machine firebase uid jpeg placeholder).enabled state action) :=
  inferInstanceAs (Decidable (Enabled state action))

/-- Ann and Bob have names and images. -/
def bothNamed : Node :=
  Tree.null.applyAll [⟨["users", "ann", "name"], .leaf (.string "Ann")⟩,
    ⟨["users", "ann", "imageUrl"], .leaf (.string "gs://ann")⟩,
    ⟨["users", "bob", "name"], .leaf (.string "Bob")⟩,
    ⟨["users", "bob", "imageUrl"], .leaf (.string "gs://bob")⟩]

/-- Ann edits her name, and Bob's profile is told. -/
def annRenames : List (Action Bool Unit) :=
  [.usersEvent true, .usersEvent false, .editNameTapped true, .keystroke true (· ++ "a"),
    .editNameTapped true, .usersEvent true, .community (.likes (.serve true)), .usersEvent false]

/-- Ann's profile shows the name that is stored. -/
theorem ann_profile_shows_name :
    ∃ finish : State Bool Unit Unit,
      (machine Firebase.byKey Likes.twoUsers (fun _ => some ()) none).execute
        (initial Likes.twoUsers bothNamed emptyForms fun _ => "") annRenames = some finish ∧
      (finish.screens true).field.text = "Anna" ∧
      Node.asString (finish.community.likes.database.sub (UserChild.name.ref "ann")) =
        some "Anna" := by
  have named (device : Bool) :
      Named (bothNamed.sub DataService.refUsers) (Likes.twoUsers device) := by
    cases device <;> exact ⟨by decide, by decide⟩
  have reached : ((machine Firebase.byKey Likes.twoUsers (fun _ => some ()) none).execute
      (initial Likes.twoUsers bothNamed emptyForms fun _ => "" : State Bool Unit Unit)
        annRenames).map (fun finish => ((finish.screens true).events.length,
          (finish.screens true).typed, (finish.screens true).field.text,
          finish.community.likes.inFlight.length)) = some (0, false, "Anna", 0) := by
    decide
  obtain ⟨finish, executed, shape⟩ := Option.map_eq_some_iff.mp reached
  obtain ⟨events, shape⟩ := Prod.mk.inj shape
  obtain ⟨typed, shape⟩ := Prod.mk.inj shape
  obtain ⟨text, applied⟩ := Prod.mk.inj shape
  have shown := (profiles_show_names Firebase.byKey (fun _ => some ()) none named (by decide)
    emptyForms (fun _ => "") (Machine.run_of_execute executed) (by decide) true).2.2
    (List.eq_nil_of_length_eq_zero events) typed
  rw [text] at shown
  exact ⟨finish, executed, text, shown.2 (List.eq_nil_of_length_eq_zero applied)⟩

end Rename

end MyFundi.Profiles
