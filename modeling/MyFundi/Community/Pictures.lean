import MyFundi.Community.Profiles
import MyFundi.Foundation.Queues
import MyFundi.Profile.Images

/-!
# Profile pictures beside the feeds

Every users event makes a profile ask for the picture at its user's address. A pick shows the
picked image at once, and its address is stored when its upload has succeeded. Downloads come
back at any time, and each puts its picture over what is shown, so an old one may come last.
If no download of a profile is overtaken by the newest one, and that one brings a picture,
then a profile with nothing to come shows the picture at the address that its device sees.
-/

namespace MyFundi

open Foundation

/-- The completion of the download that `configureUser` starts, with the image shown. -/
def ProfileVC.getDataCompletion {Image Data : Type} (decode : Data → Option Image)
    (profileImage : Image) (data : Option Data) (failed : Bool) : Image :=
  if failed then profileImage else (data.bind decode).getD profileImage

namespace Pictures

open Community

variable {Device Image Data : Type} [DecidableEq Device]

/-- A profile with its undelivered users events, the addresses whose downloads have not come
back, the oldest first, and the uploads of its picks. `picked` is set by a pick and reset by
a download that brings a picture. -/
structure Screen (Image Data : Type) where
  vc : ProfileVC
  profileImage : Image
  events : List Node
  downloads : List String
  uploads : InFlight Data
  picked : Bool

/-- The devices, each with its profile, and what is stored under the addresses. -/
structure State (Device Image Data : Type) where
  community : Community.State Device Image Data
  storage : String → Option Data
  screens : Device → Screen Image Data

/-- A success of an upload without a download address counts as a failure. -/
inductive Action (Device Image : Type) where
  | community (action : Community.Action Device Image)
  | usersEvent (device : Device)
  | imagePickerController (device : Device) (editedImage : Option Image)
  | uploadSucceeded (device : Device) (ticket : Nat) (url : String)
  | uploadFailed (device : Device) (ticket : Nat)
  | getDataCompletion (device : Device) (index : Nat) (failed : Bool)

/-- Raise a users event on every profile whose view of the users changed. -/
def notify (before after : Community.State Device Image Data)
    (screens : Device → Screen Image Data) : Device → Screen Image Data := fun device =>
  if Profiles.users before device = Profiles.users after device then screens device
  else { screens device with
    events := (screens device).events ++ [Profiles.users after device] }

variable (firebase : Firebase) (uid : Device → String) (jpeg : Image → Option Data)
  (decode : Data → Option Image) (placeholder : Option Image)

/-- The picture stored under an address. -/
def picture (storage : String → Option Data) (url : String) : Option Image :=
  (storage url).bind decode

/-- A successful upload stores its data before the address is written to the user's node. -/
def handle (state : State Device Image Data) :
    Action Device Image → Option (State Device Image Data)
  | .community action => do
      let community ← Community.handle firebase uid jpeg placeholder state.community action
      return { state with
        community := community
        screens := notify state.community community state.screens }
  | .usersEvent device =>
      match (state.screens device).events with
      | [] => none
      | snapshot :: rest => do
          let screen := state.screens device
          let (vc, effects) ← screen.vc.usersEvent firebase snapshot
          return { state with
            screens := Function.update state.screens device { screen with
              vc := vc
              events := rest
              downloads := screen.downloads ++ effects.filterMap ProfileEffect.address } }
  | .imagePickerController device editedImage =>
      let screen := state.screens device
      let (shown, imgData) :=
        ProfileVC.imagePickerController jpeg screen.profileImage editedImage
      some { state with
        screens := Function.update state.screens device { screen with
          profileImage := shown
          uploads :=
            match imgData with
            | some imgData => screen.uploads.start imgData
            | none => screen.uploads
          picked := screen.picked || editedImage.isSome } }
  | .uploadSucceeded device ticket url => do
      let screen := state.screens device
      let imgData ← screen.uploads.find ticket
      let community ← Community.handle firebase uid jpeg placeholder state.community
        (.userWrite device (.updateFirebaseProfileImage url))
      return {
        community := community
        storage := Function.update state.storage url (some imgData)
        screens := notify state.community community (Function.update state.screens device
          { screen with uploads := screen.uploads.finish ticket }) }
  | .uploadFailed device ticket =>
      let screen := state.screens device
      some { state with
        screens := Function.update state.screens device
          { screen with uploads := screen.uploads.finish ticket } }
  | .getDataCompletion device index failed => do
      let screen := state.screens device
      let url ← screen.downloads[index]?
      return { state with
        screens := Function.update state.screens device { screen with
          profileImage := ProfileVC.getDataCompletion decode screen.profileImage
            (state.storage url) failed
          downloads := screen.downloads.eraseIdx index
          picked := screen.picked && (failed || (picture decode state.storage url).isNone) } }

/-- The address of an upload is a new one. -/
def Enabled (state : State Device Image Data) : Action Device Image → Prop
  | .community action => Community.Enabled state.community action
  | .usersEvent device => (state.screens device).events ≠ []
  | .imagePickerController _ _ => True
  | .uploadSucceeded device ticket url =>
      ((state.screens device).uploads.find ticket).isSome ∧ (state.storage url).isNone
  | .uploadFailed device ticket => ((state.screens device).uploads.find ticket).isSome
  | .getDataCompletion device index _ => index < (state.screens device).downloads.length

instance (state : State Device Image Data) :
    (action : Action Device Image) → Decidable (Enabled state action)
  | .community action => inferInstanceAs (Decidable (Community.Enabled state.community action))
  | .usersEvent _ => inferInstanceAs (Decidable (_ ≠ []))
  | .imagePickerController _ _ => .isTrue trivial
  | .uploadSucceeded _ _ _ => inferInstanceAs (Decidable (_ = true ∧ _ = true))
  | .uploadFailed _ _ => inferInstanceAs (Decidable (_ = true))
  | .getDataCompletion _ _ _ => inferInstanceAs (Decidable (_ < _))

/-- The devices with their profiles and the images these download. -/
def machine : Machine (State Device Image Data) (Action Device Image) where
  enabled := Enabled
  handle := handle firebase uid jpeg decode placeholder

/-- Profiles just loaded, each with the first event on its way. -/
def initial (uid : Device → String) (database : Node) (storage : String → Option Data)
    (forms : Device → FeedVC Image) (texts : Device → String) (images : Device → Image) :
    State Device Image Data where
  community := Community.initial database forms
  storage := storage
  screens := fun device => {
    vc := ProfileVC.loaded (uid device) (texts device)
    profileImage := images device
    events := [database.sub DataService.refUsers]
    downloads := []
    uploads := .empty
    picked := false }

/-- The newest download of a device comes back after the older ones, and brings a picture. -/
def NewestLast (device : Device) (before : State Device Image Data) : Action Device Image → Prop
  | .getDataCompletion other index failed => other = device →
      index + 1 = (before.screens device).downloads.length →
        index = 0 ∧ failed = false ∧ ∀ url ∈ (before.screens device).downloads[index]?,
          (picture decode before.storage url).isSome
  | _ => True

instance (device : Device) (before : State Device Image Data) :
    (action : Action Device Image) → Decidable (NewestLast decode device before action)
  | .getDataCompletion _ _ _ => inferInstanceAs (Decidable (_ = _ → _ = _ → _ ∧ _ ∧ ∀ _ ∈ _, _))
  | .community _ | .usersEvent _ | .imagePickerController _ _ | .uploadSucceeded _ _ _
  | .uploadFailed _ _ => .isTrue trivial

/-- The address that a user has. -/
def address (users : Node) (owner : String) : Option String :=
  Node.asString (Node.entry (users.sub [owner]) "imageUrl")

/-- The picture at the address that a user has in a database. -/
def pictureOf (storage : String → Option Data) (database : Node) (owner : String) : Option Image :=
  (address (database.sub DataService.refUsers) owner).bind (picture decode storage)

/-- No event and no download is to come, and the user has not picked an image since. -/
structure Idle (screen : Screen Image Data) : Prop where
  events : screen.events = []
  downloads : screen.downloads = []
  unpicked : screen.picked = false

/-- How a profile stands to the users that its device sees: its events bring loadable users,
the last one the users seen; the newest download is of the address seen; and with nothing to
come and no pick since, the picture at that address is shown. -/
structure Follows (storage : String → Option Data) (users : Node) (owner : String)
    (screen : Screen Image Data) : Prop where
  user : screen.vc.userID = owner
  loadable : ∀ snapshot ∈ screen.events, Profiles.Loadable firebase snapshot owner
  last : ∀ snapshot ∈ screen.events.getLast?, snapshot = users
  asked : screen.events = [] → ∀ url ∈ screen.downloads.getLast?, address users owner = some url
  shown : Idle screen → ∃ url, address users owner = some url ∧
    picture decode storage url = some screen.profileImage

variable {firebase uid jpeg decode placeholder} {before after : State Device Image Data}
  {storage : String → Option Data} {seen now : Node} {owner : String} {screen : Screen Image Data}

/-- A users event is raised. -/
theorem Follows.append (follows : Follows firebase decode storage seen owner screen)
    (loadable : Profiles.Loadable firebase now owner) :
    Follows firebase decode storage now owner { screen with events := screen.events ++ [now] } where
  user := follows.user
  loadable := by
    intro snapshot member
    rcases List.mem_append.mp member with old | new
    · exact follows.loadable snapshot old
    · cases List.mem_singleton.mp new
      exact loadable
  last := by
    intro snapshot last
    rw [List.getLast?_concat] at last
    exact (Option.some.inj last).symm
  asked := fun none => absurd none (List.append_ne_nil_of_right_ne_nil _ (List.cons_ne_nil _ _))
  shown := fun idle =>
    absurd idle.events (List.append_ne_nil_of_right_ne_nil _ (List.cons_ne_nil _ _))

/-- Data is stored under a new address. -/
theorem Follows.stored (follows : Follows firebase decode storage seen owner screen) {url : String}
    (fresh : (storage url).isNone) (imgData : Data) :
    Follows firebase decode (Function.update storage url (some imgData)) seen owner screen where
  user := follows.user
  loadable := follows.loadable
  last := follows.last
  asked := follows.asked
  shown := by
    intro idle
    obtain ⟨held, has, found⟩ := follows.shown idle
    have other : held ≠ url := by
      rintro rfl
      rw [picture, Option.isNone_iff_eq_none.mp fresh] at found
      cases found
    refine ⟨held, has, ?_⟩
    rw [picture, Function.update_of_ne other]
    exact found

/-- Only the uploads change. -/
theorem Follows.uploads (follows : Follows firebase decode storage seen owner screen)
    (uploads : InFlight Data) :
    Follows firebase decode storage seen owner { screen with uploads := uploads } :=
  ⟨follows.user, follows.loadable, follows.last, follows.asked,
    fun idle => follows.shown ⟨idle.events, idle.downloads, idle.unpicked⟩⟩

/-- A pick without an edited image keeps the image; another one is noted. -/
theorem Follows.pick (jpeg : Image → Option Data)
    (follows : Follows firebase decode storage seen owner screen) (editedImage : Option Image) :
    Follows firebase decode storage seen owner { screen with
      profileImage :=
        (ProfileVC.imagePickerController jpeg screen.profileImage editedImage).1
      picked := screen.picked || editedImage.isSome } := by
  refine ⟨follows.user, follows.loadable, follows.last, follows.asked, ?_⟩
  intro idle
  obtain ⟨still, kept⟩ := Bool.or_eq_false_iff.mp idle.unpicked
  cases editedImage with
  | none => exact follows.shown ⟨idle.events, idle.downloads, still⟩
  | some image => cases kept

/-- An event asks for the picture at the address that it brings. -/
theorem Follows.usersEvent (follows : Follows firebase decode storage seen owner screen)
    {snapshot : Node} {rest : List Node} (waiting : screen.events = snapshot :: rest)
    {vc : ProfileVC} {effects : List ProfileEffect}
    (done : screen.vc.usersEvent firebase snapshot = some (vc, effects)) :
    Follows firebase decode storage seen owner { screen with
      vc := vc
      events := rest
      downloads := screen.downloads ++ effects.filterMap ProfileEffect.address } := by
  have shown := ProfileVC.usersObserver_of_usersEvent done
  rw [ProfileVC.usersObserver_eq] at shown
  have named := (follows.loadable snapshot (waiting ▸ List.mem_cons_self)).toNamed
  obtain ⟨url, has, effects⟩ : ∃ url, address snapshot owner = some url ∧
      effects.filterMap ProfileEffect.address = [url] := by
    rcases ProfileVC.showUser_downloads shown with ⟨absent, _⟩ | ⟨record, url, delivered, has, one⟩
    · rw [follows.user, named.asDictionary firebase] at absent
      cases absent
    · rw [follows.user, named.asDictionary firebase] at delivered
      cases delivered
      exact ⟨url, has, one⟩
  rw [effects]
  refine ⟨(ProfileVC.showUser_cases shown).1.trans follows.user, ?_, ?_, ?_, ?_⟩
  · exact fun other member => follows.loadable other (waiting ▸ List.mem_cons_of_mem _ member)
  · intro other last
    apply follows.last
    rw [waiting, List.getLast?_cons, last]
    rfl
  · intro none other newest
    have only : rest = [] := none
    have newest : url = other := by
      rw [List.getLast?_concat] at newest
      exact Option.some.inj newest
    have same : snapshot = seen := follows.last snapshot (by rw [waiting, only]; rfl)
    rw [← newest, ← same]
    exact has
  · exact fun idle =>
      absurd idle.downloads (List.append_ne_nil_of_right_ne_nil _ (List.cons_ne_nil _ _))

/-- A download of an image shows it. -/
theorem getDataCompletion_of_isSome {data : Option Data} {image : Image}
    (found : data.bind decode = some image) (profileImage : Image) :
    ProfileVC.getDataCompletion decode profileImage data false = image := by
  simp only [ProfileVC.getDataCompletion, found, Bool.false_eq_true, ↓reduceIte, Option.getD_some]

/-- A download comes back. The newest one is the only one then, so an older one leaves the
newest to come. -/
theorem Follows.getDataCompletion (follows : Follows firebase decode storage seen owner screen)
    {index : Nat} {failed : Bool} {url : String} (found : screen.downloads[index]? = some url)
    (newest : index + 1 = screen.downloads.length →
      index = 0 ∧ failed = false ∧ (picture decode storage url).isSome) :
    Follows firebase decode storage seen owner { screen with
      profileImage :=
        ProfileVC.getDataCompletion decode screen.profileImage (storage url) failed
      downloads := screen.downloads.eraseIdx index
      picked := screen.picked && (failed || (picture decode storage url).isNone) } := by
  obtain ⟨bound, _⟩ := List.getElem?_eq_some_iff.mp found
  by_cases last : index + 1 = screen.downloads.length
  · obtain ⟨rfl, rfl, brought⟩ := newest last
    obtain ⟨image, brought⟩ := Option.isSome_iff_exists.mp brought
    obtain ⟨only, downloads⟩ := List.length_eq_one_iff.mp last.symm
    have same : only = url := by
      rw [downloads] at found
      exact Option.some.inj found
    subst same
    have nothing : screen.downloads.eraseIdx 0 = [] := by
      rw [downloads]
      rfl
    refine ⟨follows.user, follows.loadable, follows.last, ?_, ?_⟩
    · intro _ other newest
      rw [nothing] at newest
      cases newest
    · intro idle
      refine ⟨only, follows.asked idle.events only (by rw [downloads]; rfl), ?_⟩
      rw [brought, getDataCompletion_of_isSome brought]
  · have later : index + 1 < screen.downloads.length := Nat.lt_of_le_of_ne bound last
    refine ⟨follows.user, follows.loadable, follows.last, ?_, ?_⟩
    · rw [getLast?_eraseIdx later]
      exact follows.asked
    · intro idle
      have none := congrArg List.length idle.downloads
      rw [List.length_eraseIdx_of_lt bound, List.length_nil] at none
      omega

/-- The address that an upload came back with, if the action stores one. -/
def uploadedURL : Action Device Image → Option String
  | .community action => Community.uploadedURL action
  | .uploadSucceeded _ _ url => some url
  | _ => none

/-- What every step keeps, where uploads come back with addresses of the storage and the newest
download of a device comes back last. -/
structure Following (firebase : Firebase) (decode : Data → Option Image) (uid : Device → String)
    (device : Device) (state : State Device Image Data) : Prop where
  supported : Supported uid state.community.likes
  addressed : state.community.likes.replica.Everywhere (StorageURL firebase)
  named : Profiles.Named (state.community.likes.database.sub DataService.refUsers) (uid device)
  screen : Follows firebase decode state.storage (Profiles.users state.community device) (uid device)
    (state.screens device)

theorem of_update {good : Screen Image Data → Prop} {screens : Device → Screen Image Data}
    {device other : Device} {next : Screen Image Data} (kept : good (screens device))
    (here : other = device → good next) : good (Function.update screens other next device) := by
  by_cases same : device = other
  · subst same
    rw [Function.update_self]
    exact here rfl
  · rw [Function.update_of_ne same]
    exact kept

/-- A step of the app beside the profiles, which are told of it. -/
theorem Following.community {device : Device} {earlier later : Community.State Device Image Data}
    {action : Community.Action Device Image} {screens : Device → Screen Image Data}
    (following : Following firebase decode uid device ⟨earlier, storage, screens⟩)
    (step : (Community.machine firebase uid jpeg placeholder).Step earlier action later)
    (stores : ∀ url ∈ Community.uploadedURL action, firebase.isStorageURL url = true) :
    Following firebase decode uid device ⟨later, storage, notify earlier later screens⟩ := by
  obtain ⟨supported, addressed, named, screen⟩ := following
  have moves := traffic supported.coherent step
  have addressed := addressed_step addressed moves stores
  have named : Profiles.Named (later.likes.database.sub DataService.refUsers) (uid device) :=
    supported.invariant moves (fun _ _ held fits => Profiles.Named.set held fits) named
  refine ⟨supported.step step, addressed, named, ?_⟩
  change Follows firebase decode storage _ _ (notify earlier later screens device)
  rw [notify]
  split
  · rename_i same
    rw [← same]
    exact screen
  · exact screen.append
      (Profiles.loadable_users (supported.step step) addressed named device)

/-- Every step with the newest download last leaves the profile following its address. -/
theorem Following.step {device : Device} {action : Action Device Image}
    (following : Following firebase decode uid device before)
    (step : (machine firebase uid jpeg decode placeholder).Step before action after)
    (newestLast : NewestLast decode device before action)
    (stores : ∀ url ∈ uploadedURL action, firebase.isStorageURL url = true) :
    Following firebase decode uid device after := by
  obtain ⟨supported, addressed, named, screen⟩ := following
  have replaced {other : Device} {next : Screen Image Data}
      (follows : other = device → Follows firebase decode before.storage
        (Profiles.users before.community device) (uid device) next) :
      Following firebase decode uid device
        { before with screens := Function.update before.screens other next } :=
    ⟨supported, addressed, named, of_update screen follows⟩
  obtain ⟨enabled, handled⟩ := step
  cases action with
  | community action =>
      obtain ⟨community, done, handled⟩ := Option.bind_eq_some_iff.mp handled
      cases handled
      exact Following.community ⟨supported, addressed, named, screen⟩ ⟨enabled, done⟩ stores
  | usersEvent other =>
      simp only [machine, handle] at handled
      split at handled
      · cases handled
      · rename_i snapshot rest waiting
        obtain ⟨⟨vc, effects⟩, shown, handled⟩ := Option.bind_eq_some_iff.mp handled
        cases handled
        refine replaced fun same => ?_
        subst same
        exact screen.usersEvent waiting shown
  | imagePickerController other editedImage =>
      cases handled
      refine replaced fun same => ?_
      subst same
      exact (screen.pick jpeg editedImage).uploads _
  | uploadSucceeded other ticket url =>
      obtain ⟨imgData, found, handled⟩ := Option.bind_eq_some_iff.mp handled
      obtain ⟨community, done, handled⟩ := Option.bind_eq_some_iff.mp handled
      cases handled
      have inner : (Community.machine firebase uid jpeg placeholder).Step before.community
          (.userWrite other (.updateFirebaseProfileImage url)) community := ⟨trivial, done⟩
      refine Following.community ⟨supported, addressed, named, ?_⟩ inner stores
      refine of_update (screen.stored enabled.2 imgData) fun same => ?_
      subst same
      exact (screen.stored enabled.2 imgData).uploads _
  | uploadFailed other ticket =>
      cases handled
      refine replaced fun same => ?_
      subst same
      exact screen.uploads _
  | getDataCompletion other index failed =>
      obtain ⟨url, found, handled⟩ := Option.bind_eq_some_iff.mp handled
      cases handled
      refine replaced fun same => ?_
      subst same
      refine screen.getDataCompletion found fun last => ?_
      obtain ⟨first, succeeded, brought⟩ := newestLast rfl last
      exact ⟨first, succeeded, brought url found⟩

theorem following_initial {database : Node} {device : Device} (storage : String → Option Data)
    (named : Profiles.Named (database.sub DataService.refUsers) (uid device))
    (addressed : Addressed firebase database) (forms : Device → FeedVC Image)
    (texts : Device → String) (images : Device → Image) :
    Following firebase decode uid device (initial uid database storage forms texts images) where
  supported := supported_initial uid database
  addressed := addressed_initial addressed
  named := named
  screen := by
    refine ⟨rfl, ?_, ?_, ?_, ?_⟩
    · intro snapshot member
      cases List.mem_singleton.mp member
      refine ⟨named, fun imageUrl has => ?_⟩
      rw [Node.entry, ← Tree.sub_append, ← Tree.sub_append] at has
      exact addressed.user has
    · intro snapshot last
      cases last
      rfl
    · intro none
      cases none
    · intro idle
      cases idle.events

/-- **Profiles show the stored pictures.** For a user with a name and an image, in a database
whose image addresses are of the app's storage, in every run of any number of devices that
like, publish, edit profiles, pick and upload images, and whose uploads come back with such
addresses: if a device's newest download always comes back after its older ones and brings a
picture, then its profile traps at no users event, and when idle it shows the picture at the
address that the device sees, which is that of the database if no write is in flight, so that
all idle devices of the user then show the same. -/
theorem pictures_shown (firebase : Firebase) {uid : Device → String} (jpeg : Image → Option Data)
    (decode : Data → Option Image) (placeholder : Option Image) {database : Node} {device : Device}
    (named : Profiles.Named (database.sub DataService.refUsers) (uid device))
    (addressed : Addressed firebase database) (storage : String → Option Data)
    (forms : Device → FeedVC Image) (texts : Device → String) (images : Device → Image)
    {actions : List (Action Device Image)}
    {finish : State Device Image Data}
    (run : (machine firebase uid jpeg decode placeholder).Run
      (initial uid database storage forms texts images) actions finish)
    (newestLast : (machine firebase uid jpeg decode placeholder).Guarded
      (NewestLast decode device) (initial uid database storage forms texts images) actions)
    (stores : ∀ action ∈ actions, ∀ url ∈ uploadedURL action, firebase.isStorageURL url = true) :
    ((finish.screens device).events ≠ [] →
        (handle firebase uid jpeg decode placeholder finish (.usersEvent device)).isSome) ∧
      (Idle (finish.screens device) →
        pictureOf decode finish.storage (finish.community.likes.view device) (uid device) =
            some (finish.screens device).profileImage ∧
          (finish.community.likes.inFlight = [] →
            pictureOf decode finish.storage finish.community.likes.database (uid device) =
              some (finish.screens device).profileImage)) := by
  have following : Following firebase decode uid device finish :=
    run.invariant_along (newestLast.and (Machine.Along.of_actions stores))
      (fun _ _ _ following step along => following.step step along.1 along.2)
      (following_initial storage named addressed forms texts images)
  have follows := following.screen
  refine ⟨fun waiting => ?_, fun idle => ?_⟩
  · obtain ⟨snapshot, rest, events⟩ := List.exists_cons_of_ne_nil waiting
    obtain ⟨result, shown⟩ := Option.isSome_iff_exists.mp
      ((follows.loadable snapshot (events ▸ List.mem_cons_self)).usersEvent_isSome follows.user)
    simp only [handle, events, shown, Option.bind_eq_bind, Option.bind_some]
    rfl
  · obtain ⟨url, has, found⟩ := follows.shown idle
    have picture : pictureOf decode finish.storage (finish.community.likes.view device)
        (uid device) = some (finish.screens device).profileImage :=
      (congrArg (Option.bind · (Pictures.picture decode finish.storage)) has).trans found
    refine ⟨picture, fun applied => ?_⟩
    rw [Likes.State.view_of_applied applied] at picture
    exact picture

section Pick

instance (state : State Device Image Data) (action : Action Device Image) :
    Decidable ((machine firebase uid jpeg decode placeholder).enabled state action) :=
  inferInstanceAs (Decidable (Enabled state action))

/-- The picture that Ann had. -/
def annPicture (url : String) : Option Nat :=
  if url = "gs://ann" then some 0 else none

/-- Ann picks another picture while the one she had is still asked for. -/
def annPicks : List (Action Bool Nat) :=
  [.usersEvent true, .imagePickerController true (some 7), .uploadSucceeded true 0 "gs://new",
    .community (.likes (.serve true)), .usersEvent true]

/-- A device on which everything was just loaded. -/
def annStarts : State Bool Nat Nat :=
  initial Likes.twoUsers Profiles.bothNamed annPicture (fun _ => .cleared none) (fun _ => "")
    fun _ => 1

/-- The old picture comes first, and Ann's profile shows the one she picked. -/
theorem ann_picture_shown :
    ∃ finish, (machine Firebase.byKey Likes.twoUsers some some none).execute annStarts
        (annPicks ++ [.getDataCompletion true 0 false, .getDataCompletion true 0 false]) =
          some finish ∧
      (finish.screens true).profileImage = 7 ∧
      pictureOf some finish.storage finish.community.likes.database "ann" =
        some (finish.screens true).profileImage := by
  have reached : ((machine Firebase.byKey Likes.twoUsers some some none).execute annStarts
      (annPicks ++ [.getDataCompletion true 0 false, .getDataCompletion true 0 false])).map
        (fun finish => (finish.community.likes.inFlight.length,
          (finish.screens true).events.length, (finish.screens true).downloads.length,
          (finish.screens true).picked, (finish.screens true).profileImage)) =
      some (0, 0, 0, false, 7) := by
    decide
  obtain ⟨finish, executed, shape⟩ := Option.map_eq_some_iff.mp reached
  obtain ⟨applied, shape⟩ := Prod.mk.inj shape
  obtain ⟨events, shape⟩ := Prod.mk.inj shape
  obtain ⟨downloads, shape⟩ := Prod.mk.inj shape
  obtain ⟨unpicked, image⟩ := Prod.mk.inj shape
  have idle : Idle (finish.screens true) :=
    ⟨List.eq_nil_of_length_eq_zero events, List.eq_nil_of_length_eq_zero downloads, unpicked⟩
  have shown := (pictures_shown Firebase.byKey some some none ⟨by decide, by decide⟩ (by decide)
    annPicture (fun _ => .cleared none) (fun _ => "") (fun _ => 1)
    (Machine.run_of_execute executed) (Machine.guarded_of_respects (by decide))
    (by decide)).2 idle
  exact ⟨finish, executed, image, shown.2 (List.eq_nil_of_length_eq_zero applied)⟩

/-- When the old picture comes last, the profile goes on showing it. -/
example : ((machine Firebase.byKey Likes.twoUsers some some none).execute annStarts
    (annPicks ++ [.getDataCompletion true 1 false, .getDataCompletion true 0 false])).map
      (fun finish => (finish.screens true).profileImage) = some 0 := by
  decide

end Pick

end Pictures

end MyFundi
