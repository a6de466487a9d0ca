import MyFundi.Community.Decoding
import MyFundi.Community.Profiles
import MyFundi.Community.Searching
import MyFundi.Profile.History

/-!
# Profile histories beside the feeds

A profile that a device opens lists the fundraisers of its user. Every users event, and so
every like of anyone, empties the list and registers one more observer, and every observer
appends to it. No write of the app changes which fundraisers are a user's, or more of a
fundraiser than its count, so an open profile with no event to come misses none of them and
lists no others, each row as its fundraiser is now.
-/

namespace MyFundi

open Foundation

/-- The row of a fundraiser does not depend on its count. -/
theorem ProfileHistoryCell.configureCell_congr {first second : Post}
    (title : first.title = second.title) (donationGoal : first.donationGoal = second.donationGoal) :
    ProfileHistoryCell.configureCell first = ProfileHistoryCell.configureCell second := by
  rw [configureCell, configureCell, title, donationGoal]

namespace Histories

open Community

variable {Device Image Data : Type} [DecidableEq Device]

/-- A profile with its observers and its undelivered users events. -/
structure Screen where
  history : ProfileHistory.State
  events : List Node

/-- The devices, each with its profile while it is open. -/
structure State (Device Image Data : Type) where
  community : Community.State Device Image Data
  screens : Device → Option Screen

/-- A profile is opened from the feed; its users observer or one of its fundraisers
observers is given the next event; it is left for the feed. -/
inductive Action (Device Image : Type) where
  | community (action : Community.Action Device Image)
  | profileImageTapped (device : Device) (text : String)
  | usersEvent (device : Device)
  | fundraisersEvent (device : Device) (observer : Nat)
  | homeImageTapped (device : Device)

/-- Every fundraisers observer of the profile is to be given a change. -/
def Screen.changed (screen : Screen) (fundraisers : Node) : Screen :=
  { screen with
    history := { screen.history with
      observers := screen.history.observers.map (· ++ [fundraisers])
      fundraisers := fundraisers } }

/-- Raise an event on a profile for each part that changed of what its device sees. -/
def Screen.notified (screen : Screen) (before after : Community.State Device Image Data)
    (device : Device) : Screen :=
  let told :=
    if Searching.fundraisers before device = Searching.fundraisers after device then screen
    else screen.changed (Searching.fundraisers after device)
  if Profiles.users before device = Profiles.users after device then told
  else { told with events := told.events ++ [Profiles.users after device] }

/-- Raise the events of the users and of the fundraisers on every open profile. -/
def notify (before after : Community.State Device Image Data) (screens : Device → Option Screen) :
    Device → Option Screen := fun device =>
  (screens device).map fun screen => screen.notified before after device

variable (firebase : Firebase) (uid : Device → String) (jpeg : Image → Option Data)
  (placeholder : Option Image)

/-- A profile just loaded, with the first users event on its way. -/
def opened (community : Community.State Device Image Data) (device : Device)
    (owner text : String) : Screen where
  history := ProfileHistory.initial owner text (Searching.fundraisers community device)
  events := [Profiles.users community device]

/-- The users observer is given its next event. The download it starts may raise. -/
def deliver (screen : Screen) : Option Screen :=
  match screen.events with
  | [] => none
  | snapshot :: rest => do
      let _ ← screen.history.vc.usersEvent firebase snapshot
      let history ← ProfileHistory.handle firebase screen.history (.usersEvent snapshot)
      return { history := history, events := rest }

/-- A profile that is left is dropped. The source never removes its observers, which go on
filling a list that no one sees. -/
def handle (state : State Device Image Data) :
    Action Device Image → Option (State Device Image Data)
  | .community action => do
      let community ← Community.handle firebase uid jpeg placeholder state.community action
      return {
        community := community
        screens := notify state.community community state.screens }
  | .profileImageTapped device text =>
      some { state with
        screens := Function.update state.screens device
          (some (opened state.community device (uid device) text)) }
  | .usersEvent device => do
      let screen ← state.screens device
      let next ← deliver firebase screen
      return { state with screens := Function.update state.screens device (some next) }
  | .fundraisersEvent device observer => do
      let screen ← state.screens device
      let history ← ProfileHistory.handle firebase screen.history (.fundraisersEvent observer)
      return { state with
        screens := Function.update state.screens device (some { screen with history := history }) }
  | .homeImageTapped device =>
      some { state with screens := Function.update state.screens device none }

/-- A profile is opened once and used until it is left. -/
def Enabled (state : State Device Image Data) : Action Device Image → Prop
  | .community action => Community.Enabled state.community action
  | .profileImageTapped device _ => (state.screens device).isNone
  | .usersEvent device => ∃ screen ∈ state.screens device, screen.events ≠ []
  | .fundraisersEvent device observer =>
      ∃ screen ∈ state.screens device, ProfileHistory.Pending screen.history observer
  | .homeImageTapped device => (state.screens device).isSome

instance (state : State Device Image Data) :
    (action : Action Device Image) → Decidable (Enabled state action)
  | .community action => inferInstanceAs (Decidable (Community.Enabled state.community action))
  | .profileImageTapped _ _ => inferInstanceAs (Decidable (_ = true))
  | .usersEvent _ => inferInstanceAs (Decidable (∃ _ ∈ _, _ ≠ []))
  | .fundraisersEvent _ _ => inferInstanceAs (Decidable (∃ _ ∈ _, ProfileHistory.Pending _ _))
  | .homeImageTapped _ => inferInstanceAs (Decidable (_ = true))

/-- The devices with their open profiles. -/
def machine : Machine (State Device Image Data) (Action Device Image) where
  enabled := Enabled
  handle := handle firebase uid jpeg placeholder

/-- Devices that have just opened the feed. -/
def initial (database : Node) (forms : Device → FeedVC Image) : State Device Image Data where
  community := Community.initial database forms
  screens := fun _ => none

/-- Where the fundraisers of a user are listed. -/
def ownRef (owner : String) : DatabaseReference :=
  (DataService.refUsers.child owner).child "fundraisers"

/-- This is what lists the fundraisers of a user. -/
def Owns (own : Node) (owner : String) (database : Node) : Prop :=
  database.sub (ownRef owner) = own

/-- The keys that a user's list of fundraisers has; none unless it comes as a dictionary. -/
def ownKeys (own : Node) : List String :=
  ((firebase.asDictionary own).map firebase.dictionaryKeys).getD []

/-- The row that a history has for a fundraiser. -/
def row (database : Node) (key : String) : Option ProfileHistoryCell :=
  ProfileHistoryCell.configureCell (Post.init key (fundraiser database key))

/-- A snapshot of fundraisers is of what a device sees now: there are no others, and they are
the same but for the counts. -/
def Earlier (snapshot seen : Node) : Prop :=
  ∀ key ∈ firebase.childKeys snapshot, key ∈ firebase.childKeys seen ∧
    SameStory (seen.sub [key]) (snapshot.sub [key])

/-- A post of a history is one of these fundraisers, is seen, and has the row of what is seen. -/
structure Listed (keys : List String) (seen : Node) (post : Post) : Prop where
  own : post.postKey ∈ keys
  stored : post.postKey ∈ firebase.childKeys seen
  row : ProfileHistoryCell.configureCell post =
    ProfileHistoryCell.configureCell (Post.init post.postKey (seen.sub [post.postKey]))

variable {firebase uid jpeg placeholder} {before after : State Device Image Data}
  {screen next : Screen} {snapshot seen now users own : Node} {owner : String}

theorem Earlier.refl (seen : Node) : Earlier firebase seen seen :=
  fun _ member => ⟨member, fun _ _ => rfl⟩

theorem Earlier.trans (first : Earlier firebase snapshot seen) (second : Earlier firebase seen now) :
    Earlier firebase snapshot now := by
  intro key member
  obtain ⟨kept, story⟩ := first key member
  exact ⟨(second key kept).1, (second key kept).2.trans story⟩

/-- A row shows nothing of a fundraiser that changes. -/
theorem row_of_sameStory {first second : Node} (same : SameStory first second) (key : String) :
    ProfileHistoryCell.configureCell (Post.init key first) =
      ProfileHistoryCell.configureCell (Post.init key second) :=
  ProfileHistoryCell.configureCell_congr (congrArg Node.asString (same "title" (by decide)))
    (congrArg Node.asFloat (same "donationGoal" (by decide)))

theorem Listed.mono {keys : List String} {post : Post} (listed : Listed firebase keys seen post)
    (earlier : Earlier firebase seen now) : Listed firebase keys now post := by
  obtain ⟨kept, story⟩ := earlier _ listed.stored
  exact ⟨listed.own, kept, listed.row.trans (row_of_sameStory story _).symm⟩

/-- What an observer finds in a snapshot is listed. -/
theorem listed_of_found {keys : List String} (nodup : keys.Nodup)
    (earlier : Earlier firebase snapshot seen) {post : Post}
    (found : post ∈ ProfileVC.foundPosts firebase keys snapshot) :
    Listed firebase keys seen post := by
  rw [ProfileHistory.foundPosts_eq nodup, List.mem_filter] at found
  obtain ⟨loaded, own⟩ := found
  obtain ⟨key, present, rfl⟩ := Likes.Client.of_mem_loadedPosts loaded
  obtain ⟨kept, story⟩ := earlier key ((firebase.mem_childKeys snapshot key).mpr present)
  exact ⟨of_decide_eq_true own, kept, (row_of_sameStory story key).symm⟩

/-- An observer misses none of the fundraisers asked for. -/
theorem exists_found {keys : List String} (nodup : keys.Nodup) {key : String} (own : key ∈ keys)
    (stored : key ∈ firebase.childKeys seen)
    (titled : (SearchedDetailsTableViewController.postTitle (seen.sub [key])).isSome) :
    ∃ post ∈ ProfileVC.foundPosts firebase keys seen, post.postKey = key := by
  refine ⟨Post.init key (seen.sub [key]), ?_, rfl⟩
  rw [ProfileHistory.foundPosts_eq nodup, List.mem_filter]
  refine ⟨List.mem_filterMap.mpr ⟨⟨key, seen.sub [key]⟩, ?_, ?_⟩, decide_eq_true own⟩
  · exact List.mem_map.mpr ⟨key, stored, rfl⟩
  · rw [Searching.asDictionary_of_title titled]
    rfl

/-- No write of the app changes which fundraisers are a user's. -/
theorem Owns.set {database : Node} {write : Assignment String Scalar}
    (owns : Owns own owner database) (fits : growing.Fits database write) :
    Owns own owner (database.set write.path write.placed) := by
  obtain ⟨other, deed, rfl, _⟩ := fits
  refine (Tree.sub_set_of_incomparable database _ ?_).trans owns
  cases deed with
  | count postKey likes => exact incomparable_append_cons [] (by decide) _ _
  | publish key captionField imgUrl => exact incomparable_append_cons [] (by decide) _ _
  | user write =>
      obtain ⟨key, rest, path, written⟩ := write.child.exists_path
      have different : key ≠ "fundraisers" := by
        rintro rfl
        exact absurd written (by decide)
      by_cases same : other = owner
      · subst same
        change Incomparable (DataService.refUsers.child other ++ write.child.path) _
        rw [path]
        exact incomparable_append_cons ["users", other] different rest []
      · exact incomparable_append_cons ["users"] same _ _

/-- A user with a name has the map stored for her, if there is one. -/
theorem fundraisersMap_of_named (named : Profiles.Named users owner) :
    ProfileHistory.fundraisersMap firebase owner users =
      firebase.asDictionary (users.sub [owner, "fundraisers"]) := by
  rw [ProfileHistory.fundraisersMap, ProfileHistory.userRecord, named.asDictionary firebase,
    Option.bind_some, Node.entry, ← Tree.sub_append]
  rfl

/-- How a profile stands to what its device sees of the fundraisers, when `own` lists those
of its user: its events bring a loadable user with this list; its observers look for these
fundraisers only, and are given what the device saw, the newest last; and its history has
listed posts only, and with nothing undelivered misses none. -/
structure Follows (firebase : Firebase) (own seen : Node) (owner : String) (screen : Screen) :
    Prop where
  coherent : ProfileHistory.Coherent firebase screen.history
  user : screen.history.vc.userID = owner
  latest : screen.history.fundraisers = seen
  events : ∀ snapshot ∈ screen.events,
    Profiles.Loadable firebase snapshot owner ∧ snapshot.sub [owner, "fundraisers"] = own
  keys : ∀ key ∈ screen.history.vc.fundraiserKeys, key ∈ ownKeys firebase own
  loaded : screen.events = [] → screen.history.vc.fundraiserKeys = ownKeys firebase own
  observed : screen.history.vc.fundraiserKeys ≠ [] → screen.history.observers ≠ []
  queues : ∀ queue ∈ screen.history.observers, ∀ snapshot ∈ queue, Earlier firebase snapshot seen
  listed : ∀ post ∈ screen.history.vc.posts, Listed firebase (ownKeys firebase own) seen post
  complete : ProfileHistory.Settled screen.history → ∀ key ∈ screen.history.vc.fundraiserKeys,
    key ∈ firebase.childKeys seen → ∃ post ∈ screen.history.vc.posts, post.postKey = key

/-- A profile just opened lists nothing and has both events on the way. -/
theorem follows_opened (community : Community.State Device Image Data) (device : Device)
    (text : String) (loadable : Profiles.Loadable firebase (Profiles.users community device) owner)
    (same : (Profiles.users community device).sub [owner, "fundraisers"] = own) :
    Follows firebase own (Searching.fundraisers community device) owner
      (opened community device owner text) where
  coherent := ProfileHistory.coherent_initial owner text _
  user := rfl
  latest := rfl
  events := by
    intro snapshot member
    cases List.mem_singleton.mp member
    exact ⟨loadable, same⟩
  keys := by
    intro key member
    cases member
  loaded := fun none => (List.cons_ne_nil _ _ none).elim
  observed := fun none => (none rfl).elim
  queues := by
    intro queue member
    cases member
  listed := by
    intro post member
    cases member
  complete := by
    intro _ key member
    cases member

/-- The fundraisers that the device sees change. -/
theorem Follows.changed (follows : Follows firebase own seen owner screen)
    (earlier : Earlier firebase seen now) : Follows firebase own now owner (screen.changed now) where
  coherent := by
    have step : (ProfileHistory.machine firebase).Step screen.history (.fundraisersChange now)
        (screen.changed now).history := ⟨trivial, rfl⟩
    exact follows.coherent.step step
  user := follows.user
  latest := rfl
  events := follows.events
  keys := follows.keys
  loaded := follows.loaded
  observed := fun some none => follows.observed some (List.map_eq_nil_iff.mp none)
  queues := by
    intro queue member snapshot inside
    obtain ⟨old, registered, rfl⟩ := List.mem_map.mp member
    rcases List.mem_append.mp inside with waiting | new
    · exact (follows.queues old registered snapshot waiting).trans earlier
    · cases List.mem_singleton.mp new
      exact .refl now
  listed := fun post member => (follows.listed post member).mono earlier
  complete := by
    intro settled key member _
    -- With an observer registered, the change is undelivered.
    obtain ⟨queue, registered⟩ := List.exists_mem_of_ne_nil _
      (follows.observed (List.ne_nil_of_mem member))
    have waiting := settled _ (List.mem_map_of_mem registered)
    exact absurd waiting (List.append_ne_nil_of_right_ne_nil _ (List.cons_ne_nil _ _))

/-- A users event is raised. -/
theorem Follows.raised (follows : Follows firebase own seen owner screen)
    (loadable : Profiles.Loadable firebase users owner)
    (same : users.sub [owner, "fundraisers"] = own) :
    Follows firebase own seen owner { screen with events := screen.events ++ [users] } :=
  { follows with
    events := by
      intro snapshot member
      rcases List.mem_append.mp member with old | new
      · exact follows.events snapshot old
      · cases List.mem_singleton.mp new
        exact ⟨loadable, same⟩
    loaded := fun none =>
      absurd none (List.append_ne_nil_of_right_ne_nil _ (List.cons_ne_nil _ _)) }

/-- The profile is told of what its device comes to see. -/
theorem Follows.notified {earlier later : Community.State Device Image Data} {device : Device}
    (follows : Follows firebase own (Searching.fundraisers earlier device) owner screen)
    (kept : Earlier firebase (Searching.fundraisers earlier device)
      (Searching.fundraisers later device))
    (loadable : Profiles.Loadable firebase (Profiles.users later device) owner)
    (same : (Profiles.users later device).sub [owner, "fundraisers"] = own) :
    Follows firebase own (Searching.fundraisers later device) owner
      (screen.notified earlier later device) := by
  have told : Follows firebase own (Searching.fundraisers later device) owner
      (if Searching.fundraisers earlier device = Searching.fundraisers later device then screen
        else screen.changed (Searching.fundraisers later device)) := by
    split
    · rename_i unchanged
      rw [← unchanged]
      exact follows
    · exact follows.changed kept
  unfold Screen.notified
  dsimp only
  split
  · exact told
  · exact told.raised loadable same

/-- A users event is delivered in order. -/
theorem deliver_cases (done : deliver firebase screen = some next) :
    ∃ snapshot rest, screen.events = snapshot :: rest ∧ next.events = rest ∧
      (ProfileHistory.machine firebase).Step screen.history (.usersEvent snapshot)
        next.history := by
  unfold deliver at done
  split at done
  · cases done
  · rename_i snapshot rest waiting
    obtain ⟨_, _, done⟩ := Option.bind_eq_some_iff.mp done
    obtain ⟨history, handled, done⟩ := Option.bind_eq_some_iff.mp done
    cases done
    exact ⟨snapshot, rest, waiting, rfl, trivial, handled⟩

/-- A users event returns, because the user has a name and an image that can be loaded. -/
theorem Follows.deliver_isSome (follows : Follows firebase own seen owner screen)
    (waiting : screen.events ≠ []) : (deliver firebase screen).isSome := by
  obtain ⟨snapshot, rest, events⟩ := List.exists_cons_of_ne_nil waiting
  obtain ⟨loadable, _⟩ := follows.events snapshot (events ▸ List.mem_cons_self)
  obtain ⟨result, returns⟩ :=
    Option.isSome_iff_exists.mp (loadable.usersEvent_isSome follows.user)
  have shown := ProfileVC.usersObserver_of_usersEvent returns
  simp only [deliver, events, returns, ProfileHistory.handle, shown, Option.bind_eq_bind,
    Option.bind_some]
  rfl

/-- A users event leaves the profile following its owner's fundraisers. -/
theorem Follows.usersEvent (follows : Follows firebase own seen owner screen)
    (done : deliver firebase screen = some next) : Follows firebase own seen owner next := by
  obtain ⟨snapshot, rest, waiting, events, step⟩ := deliver_cases done
  obtain ⟨user, _, fundraisers, cases⟩ := ProfileHistory.step_usersEvent step
  rw [follows.user] at user cases
  have bringing : ∀ snapshot ∈ next.events,
      Profiles.Loadable firebase snapshot owner ∧
        snapshot.sub [owner, "fundraisers"] = own := by
    rw [events]
    exact fun other member => follows.events other (waiting ▸ List.mem_cons_of_mem _ member)
  obtain ⟨loadable, same⟩ := follows.events snapshot (waiting ▸ List.mem_cons_self)
  have named := loadable.toNamed
  rw [fundraisersMap_of_named named, same] at cases
  rcases cases with ⟨absent, _⟩ | ⟨_, ⟨noMap, keys, posts, observers⟩ |
    ⟨map, hasMap, keys, posts, observers⟩⟩
  · rw [ProfileHistory.userRecord, named.asDictionary firebase] at absent
    cases absent
  · have none : ownKeys firebase own = [] := by
      rw [ownKeys, noMap]
      rfl
    refine ⟨follows.coherent.step step, user, fundraisers.trans follows.latest, bringing, ?_, ?_,
      ?_, ?_, ?_, ?_⟩
    · rw [keys]
      intro key member
      cases member
    · exact fun _ => keys.trans none.symm
    · exact fun some => (some keys).elim
    · rw [observers]
      exact follows.queues
    · rw [posts]
      exact follows.listed
    · rw [keys]
      intro _ key member
      cases member
  · have all : next.history.vc.fundraiserKeys = ownKeys firebase own := by
      rw [keys, ownKeys, hasMap]
      rfl
    have registered : [screen.history.fundraisers] ∈ next.history.observers := by
      rw [observers]
      exact List.mem_append_right _ List.mem_cons_self
    refine ⟨follows.coherent.step step, user, fundraisers.trans follows.latest, bringing, ?_, ?_,
      ?_, ?_, ?_, ?_⟩
    · rw [all]
      exact fun _ => id
    · exact fun _ => all
    · exact fun _ => List.ne_nil_of_mem registered
    · rw [observers]
      intro queue member snapshot inside
      rcases List.mem_append.mp member with old | new
      · exact follows.queues queue old snapshot inside
      · cases List.mem_singleton.mp new
        cases List.mem_singleton.mp inside
        rw [follows.latest]
        exact .refl seen
    · rw [posts]
      intro post member
      cases member
    · intro settled
      cases settled _ registered

/-- An observer is given its next event. If that leaves nothing undelivered, it was given what
the device sees now. -/
theorem Follows.fundraisersEvent (follows : Follows firebase own seen owner screen)
    (titled : ∀ key ∈ firebase.childKeys seen,
      (SearchedDetailsTableViewController.postTitle (seen.sub [key])).isSome)
    {observer : Nat} {history : ProfileHistory.State}
    (step : (ProfileHistory.machine firebase).Step screen.history (.fundraisersEvent observer)
      history) : Follows firebase own seen owner { screen with history := history } := by
  obtain ⟨snapshot, rest, registered, rfl⟩ := ProfileHistory.step_fundraisersEvent step
  have inside := List.mem_of_getElem? registered
  have nodup := follows.coherent.nodup
  refine ⟨follows.coherent.step step, follows.user, follows.latest, follows.events, follows.keys,
    follows.loaded, ?_, ?_, ?_, ?_⟩
  · exact fun some none => follows.observed some ((List.set_eq_nil_iff _ _).mp none)
  · intro queue member
    rcases List.mem_or_eq_of_mem_set member with old | rfl
    · exact follows.queues queue old
    · exact fun other waiting => follows.queues _ inside other (List.mem_cons_of_mem _ waiting)
  · intro post member
    rcases List.mem_append.mp member with old | new
    · exact follows.listed post old
    · obtain ⟨listed, stored, row⟩ := listed_of_found nodup
        (follows.queues _ inside snapshot List.mem_cons_self) new
      exact ⟨follows.keys _ listed, stored, row⟩
  · intro settled key member stored
    have nothing : rest = [] := by
      obtain ⟨bound, _⟩ := List.getElem?_eq_some_iff.mp registered
      exact settled rest (List.mem_set bound rest)
    subst nothing
    have newest := (follows.coherent.newest _ inside snapshot rfl).trans follows.latest
    subst newest
    obtain ⟨post, found, here⟩ := exists_found nodup member stored (titled key stored)
    exact ⟨post, List.mem_append_right _ found, here⟩

/-- The address that an upload came back with, if the action stores one. -/
def uploadedURL : Action Device Image → Option String
  | .community action => Community.uploadedURL action
  | _ => none

/-- What every step keeps, where uploads come back with addresses of the storage. -/
structure Following (firebase : Firebase) (uid : Device → String) (own : Device → Node)
    (state : State Device Image Data) : Prop where
  queued : Queued uid state.community.likes
  addressed : state.community.likes.replica.Everywhere (StorageURL firebase)
  decodable : Decodable state.community.likes.database
  named : ∀ device,
    Profiles.Named (state.community.likes.database.sub DataService.refUsers) (uid device)
  owns : ∀ device, Owns (own device) (uid device) state.community.likes.database
  screens : ∀ device, ∀ screen ∈ state.screens device,
    Follows firebase (own device) (Searching.fundraisers state.community device) (uid device)
      screen

/-- A device sees the lists of fundraisers that are stored. -/
theorem sub_users {community : Community.State Device Image Data}
    (supported : Supported uid community.likes)
    (owns : Owns own owner community.likes.database) (device : Device) :
    (Profiles.users community device).sub [owner, "fundraisers"] = own := by
  rw [Profiles.users, ← Tree.sub_append, ← Likes.State.view_replica]
  exact supported.ordered.invariant_view (fun _ _ held fits => Owns.set held fits) owns device

/-- Every fundraiser that a device sees has a title. -/
theorem titled_of_decodable {community : Community.State Device Image Data}
    (supported : Supported uid community.likes)
    (decodable : Decodable community.likes.database) (device : Device) :
    ∀ key ∈ firebase.childKeys (Searching.fundraisers community device),
      (SearchedDetailsTableViewController.postTitle
        ((Searching.fundraisers community device).sub [key])).isSome := by
  intro key member
  rw [Searching.mem_childKeys_iff] at member
  rw [Searching.sub_fundraisers]
  exact (supported.decodable_view decodable device key member).title

/-- Every step leaves the open profiles following. -/
theorem Following.step {own : Device → Node} {action : Action Device Image}
    (following : Following firebase uid own before)
    (step : (machine firebase uid jpeg placeholder).Step before action after)
    (stores : ∀ url ∈ uploadedURL action, firebase.isStorageURL url = true) :
    Following firebase uid own after := by
  obtain ⟨queued, addressed, decodable, named, owns, screens⟩ := following
  have replaced {device : Device} {next : Option Screen}
      (follows : ∀ screen ∈ next, Follows firebase (own device)
        (Searching.fundraisers before.community device) (uid device) screen) :
      Following firebase uid own
        { before with screens := Function.update before.screens device next } :=
    ⟨queued, addressed, decodable, named, owns, (Function.forall_update_iff before.screens
      fun other found => ∀ screen ∈ found, Follows firebase (own other)
        (Searching.fundraisers before.community other) (uid other) screen).mpr
          ⟨follows, fun other _ => screens other⟩⟩
  obtain ⟨enabled, handled⟩ := step
  cases action with
  | community action =>
      obtain ⟨community, done, handled⟩ := Option.bind_eq_some_iff.mp handled
      cases handled
      have inner : (Community.machine firebase uid jpeg placeholder).Step before.community action
        community := ⟨enabled, done⟩
      have moves := traffic queued.supported.coherent inner
      have supported := queued.supported.step inner
      have addressed := addressed_step addressed moves stores
      have named (device : Device) : Profiles.Named
          (community.likes.database.sub DataService.refUsers) (uid device) :=
        queued.supported.invariant moves (fun _ _ held fits => Profiles.Named.set held fits)
          (named device)
      have owns (device : Device) : Owns (own device) (uid device) community.likes.database :=
        queued.supported.invariant moves (fun _ _ held fits => Owns.set held fits) (owns device)
      refine ⟨queued.step inner, addressed, ?_, named, owns, ?_⟩
      · exact queued.supported.invariant moves (fun _ _ held fits => held.set fits) decodable
      · intro device screen shown
        obtain ⟨old, opened, rfl⟩ := Option.map_eq_some_iff.mp shown
        exact (screens device old opened).notified (Searching.kept_of_step queued inner device)
          (Profiles.loadable_users supported addressed (named device) device)
          (sub_users supported (owns device) device)
  | profileImageTapped device text =>
      cases handled
      refine replaced fun screen same => ?_
      cases same
      exact follows_opened _ _ _
        (Profiles.loadable_users queued.supported addressed (named device) device)
        (sub_users queued.supported (owns device) device)
  | usersEvent device =>
      obtain ⟨screen, opened, handled⟩ := Option.bind_eq_some_iff.mp handled
      obtain ⟨next, done, handled⟩ := Option.bind_eq_some_iff.mp handled
      cases handled
      refine replaced fun screen same => ?_
      cases same
      exact (screens device _ opened).usersEvent done
  | fundraisersEvent device observer =>
      obtain ⟨screen, opened, handled⟩ := Option.bind_eq_some_iff.mp handled
      obtain ⟨history, done, handled⟩ := Option.bind_eq_some_iff.mp handled
      cases handled
      obtain ⟨found, same, pending⟩ := enabled
      cases same.symm.trans opened
      refine replaced fun screen same => ?_
      cases same
      exact (screens device _ opened).fundraisersEvent
        (titled_of_decodable queued.supported decodable device) ⟨pending, done⟩
  | homeImageTapped device =>
      cases handled
      refine replaced fun screen none => ?_
      cases none

theorem following_initial (firebase : Firebase) {uid : Device → String} {database : Node}
    (named : ∀ device, Profiles.Named (database.sub DataService.refUsers) (uid device))
    (addressed : Addressed firebase database) (decodable : Decodable database)
    (forms : Device → FeedVC Image) :
    Following firebase uid (fun device => database.sub (ownRef (uid device)))
      (initial database forms : State Device Image Data) where
  queued := queued_initial uid database
  addressed := addressed_initial addressed
  decodable := decodable
  named := named
  owns := fun _ => rfl
  screens := by
    intro device screen opened
    cases opened

/-- **Histories list the user's fundraisers.** From a database in which every user has a name
and an image, every fundraiser decodes and the image addresses are of the app's storage, in
every run of any number of devices that like, publish, edit profiles, open and leave them, and
whose uploads come back with such addresses, no users event of an open profile traps, and its
history lists only fundraisers that its user's record listed at the start and that the device
sees, each in a row that is that of the fundraiser now; and with no event to come it misses
none of them. -/
theorem histories_list_own (firebase : Firebase) {uid : Device → String}
    (jpeg : Image → Option Data) (placeholder : Option Image) {database : Node}
    (named : ∀ device, Profiles.Named (database.sub DataService.refUsers) (uid device))
    (addressed : Addressed firebase database) (decodable : Decodable database)
    (forms : Device → FeedVC Image) {actions : List (Action Device Image)}
    {finish : State Device Image Data}
    (run : (machine firebase uid jpeg placeholder).Run (initial database forms) actions finish)
    (stores : ∀ action ∈ actions, ∀ url ∈ uploadedURL action, firebase.isStorageURL url = true)
    {device : Device} {screen : Screen} (opened : finish.screens device = some screen) :
    (screen.events ≠ [] →
        (handle firebase uid jpeg placeholder finish (.usersEvent device)).isSome) ∧
      (∀ post ∈ screen.history.vc.posts,
        post.postKey ∈ ownKeys firebase (database.sub (ownRef (uid device))) ∧
          Present (finish.community.likes.view device) post.postKey ∧
          ∃ cell, ProfileHistoryCell.configureCell post = some cell ∧
            row (finish.community.likes.view device) post.postKey = some cell) ∧
      (screen.events = [] → ProfileHistory.Settled screen.history →
        ∀ key ∈ ownKeys firebase (database.sub (ownRef (uid device))),
          Present (finish.community.likes.view device) key →
            ∃ post ∈ screen.history.vc.posts, post.postKey = key) := by
  have following : Following firebase uid (fun device => database.sub (ownRef (uid device)))
      finish :=
    run.invariant_along (Machine.Along.of_actions stores)
      (fun _ _ _ following step stores => following.step step stores)
      (following_initial firebase named addressed decodable forms)
  have follows := following.screens device screen opened
  simp only [← Likes.State.view_replica]
  refine ⟨fun waiting => ?_, fun post member => ?_, fun nothing settled key own present => ?_⟩
  · obtain ⟨next, done⟩ := Option.isSome_iff_exists.mp (follows.deliver_isSome waiting)
    simp only [handle, opened, done, Option.bind_eq_bind, Option.bind_some]
    rfl
  · obtain ⟨own, stored, same⟩ := follows.listed post member
    rw [Searching.mem_childKeys_iff] at stored
    rw [Searching.sub_fundraisers] at same
    have complete := following.queued.supported.decodable_view following.decodable device _ stored
    obtain ⟨title, hasTitle⟩ := Option.isSome_iff_exists.mp complete.title
    obtain ⟨goal, hasGoal⟩ := Option.isSome_iff_exists.mp complete.donationGoal
    have shown : row (finish.community.likes.replica.view device) post.postKey =
        some ⟨title, goal, "11/11/2011"⟩ := by
      simp only [row, fundraiser, ProfileHistoryCell.configureCell, hasTitle, hasGoal,
        Option.bind_eq_bind, Option.bind_some]
      rfl
    exact ⟨own, stored, _, same.trans shown, shown⟩
  · rw [← follows.loaded nothing] at own
    exact follows.complete settled key own ((Searching.mem_childKeys_iff _ _ _).mpr present)

section Walk

instance (state : State Device Image Data) (action : Action Device Image) :
    Decidable ((machine firebase uid jpeg placeholder).enabled state action) :=
  inferInstanceAs (Decidable (Enabled state action))

/-- Ann's record lists the only fundraiser. -/
def annOwnsWalk : Node :=
  Profiles.bothNamed.applyAll [⟨["users", "ann", "fundraisers", "walk"], .leaf (.bool true)⟩,
    ⟨["fundraisers", "walk"], Node.ofFields (FeedVC.post "A walk" "gs://walk")⟩]

/-- Ann opens her profile, and Bob publishes another fundraiser. -/
def annLooks : List (Action Bool Unit) :=
  [.profileImageTapped true "", .usersEvent true, .fundraisersEvent true 0] ++
    bobPublishes.map .community ++ [.fundraisersEvent true 0]

/-- Ann's history lists her fundraiser, and none that Bob published. -/
theorem ann_history_lists_walk :
    ∃ finish screen,
      (machine Firebase.byKey Likes.twoUsers (fun _ : Unit => some ()) none).execute
        (initial annOwnsWalk emptyForms) annLooks = some finish ∧
      finish.screens true = some screen ∧
      Present (finish.community.likes.view true) "run" ∧
      (∃ post ∈ screen.history.vc.posts, post.postKey = "walk") ∧
      ∀ post ∈ screen.history.vc.posts, post.postKey = "walk" := by
  have named (device : Bool) :
      Profiles.Named (annOwnsWalk.sub DataService.refUsers) (Likes.twoUsers device) := by
    cases device <;> exact ⟨by decide, by decide⟩
  have reached : ((machine Firebase.byKey Likes.twoUsers (fun _ : Unit => some ()) none).execute
      (initial annOwnsWalk emptyForms : State Bool Unit Unit) annLooks).map (fun finish =>
        ((finish.screens true).map fun screen =>
          (screen.events.length, decide (∀ queue ∈ screen.history.observers, queue = [])),
          decide (Present (finish.community.likes.view true) "run"),
          decide (Present (finish.community.likes.view true) "walk"))) =
      some (some (0, true), true, true) := by
    decide
  obtain ⟨finish, executed, shape⟩ := Option.map_eq_some_iff.mp reached
  obtain ⟨opened, shape⟩ := Prod.mk.inj shape
  obtain ⟨run, walk⟩ := Prod.mk.inj shape
  obtain ⟨screen, opened, shape⟩ := Option.map_eq_some_iff.mp opened
  obtain ⟨nothing, settled⟩ := Prod.mk.inj shape
  obtain ⟨_, listed, complete⟩ := histories_list_own Firebase.byKey (fun _ => some ()) none named
    (by decide) (by decide) emptyForms (Machine.run_of_execute executed) (by decide) opened
  have own : ownKeys Firebase.byKey (annOwnsWalk.sub (ownRef (Likes.twoUsers true))) =
      ["walk"] := by
    decide
  rw [own] at listed complete
  refine ⟨finish, screen, executed, opened, of_decide_eq_true run, ?_, ?_⟩
  · exact complete (List.eq_nil_of_length_eq_zero nothing) (of_decide_eq_true settled) "walk"
      (List.mem_singleton_self _) (of_decide_eq_true walk)
  · exact fun post member => List.mem_singleton.mp (listed post member).1

end Walk

end Histories

end MyFundi
