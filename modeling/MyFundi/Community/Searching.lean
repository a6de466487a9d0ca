import MyFundi.Community.Publication
import MyFundi.Search.QueryOrder

/-!
# Search screens beside the feeds

A search screen that a device opens is given every fundraiser the device sees, and later
each one that the device comes to see, but it is told of no change. No write of the app
changes a title or a caption, so a screen with no child to come shows every fundraiser that
its device sees once, as it is now, and a search finds exactly the matching ones. It traps
only where a child arrives during a search.
-/

namespace MyFundi

open Foundation

namespace SearchedDetailsTableViewController

/-- The text and the detail text of a post's cell. -/
def texts (post : Option Node) : Option String × Option String :=
  (post.bind postTitle, post.bind fun dictionary => Node.asString (Node.entry dictionary "caption"))

/-- The cells the table shows, from its first row to its last. -/
def cells (vc : SearchedDetailsTableViewController) : List (Option String × Option String) :=
  (List.range vc.numberOfRowsInSection).filterMap vc.cellForRowAt

variable {vc : SearchedDetailsTableViewController}

/-- The rows show the posts offered. -/
theorem Offers.cells {posts : List (Option Node)} (offers : vc.Offers posts) :
    vc.cells = posts.map texts := by
  obtain ⟨rows, shown⟩ := offers
  have each : ∀ row ∈ List.range vc.numberOfRowsInSection,
      vc.cellForRowAt row = (posts[row]?).map texts := by
    intro row member
    rw [← shown row (List.mem_range.mp member)]
    rfl
  have listed : (List.range posts.length).map (fun row => posts[row]?) = posts.map some :=
    List.ext_getElem (by simp) (by simp)
  calc vc.cells
      = (List.range posts.length).filterMap fun row => (posts[row]?).map texts := by
        rw [SearchedDetailsTableViewController.cells, List.filterMap_congr each, rows]
    _ = ((List.range posts.length).map fun row => posts[row]?).filterMap (Option.map texts) := by
        rw [List.filterMap_map]
        rfl
    _ = (posts.map some).filterMap (Option.map texts) := by rw [listed]
    _ = posts.map texts := by
        rw [List.filterMap_map]
        exact congrFun List.filterMap_eq_map posts

end SearchedDetailsTableViewController

namespace Community

variable {Device Image Data : Type}

/-- Every fundraiser stored has a title. -/
def Titled (database : Node) : Prop :=
  ∀ key, Present database key →
    (SearchedDetailsTableViewController.postTitle (fundraiser database key)).isSome

instance (database : Node) : Decidable (Titled database) :=
  decidable_of_iff _ forall_present_iff.symm

theorem SameStory.symm {first second : Node} (same : SameStory first second) :
    SameStory second first :=
  fun name different => (same name different).symm

/-- A write keeps what two databases agree on. -/
theorem SameStory.applyAll {first second : Node} {key : String}
    (same : SameStory (fundraiser first key) (fundraiser second key))
    (writes : List (Assignment String Scalar)) :
    SameStory (fundraiser (first.applyAll writes) key)
      (fundraiser (second.applyAll writes) key) := by
  intro name different
  have here := same name different
  unfold fundraiser Node.entry at here ⊢
  rw [← Tree.sub_append, ← Tree.sub_append] at here ⊢
  exact Tree.sub_applyAll_congr here writes

/-- Deeds that do not publish a fundraiser keep everything of it but the count. -/
theorem sameStory_applyAll (owner : String) {deeds : List Deed} (database : Node) {key : String}
    (others : ∀ deed ∈ deeds, deed.fundraiser = some key → ¬ deed.Publishes) :
    SameStory (fundraiser (database.applyAll
        (deeds.map fun deed => [deed.assignment owner]).flatten) key)
      (fundraiser database key) := by
  induction deeds generalizing database with
  | nil => exact fun _ _ => rfl
  | cons deed deeds ih =>
      rw [List.forall_mem_cons] at others
      exact (ih _ others.2).trans (sameStory_set owner others.1)

/-- Every deed keeps the fundraisers titled. -/
theorem Titled.set {database : Node} {write : Assignment String Scalar}
    (titled : Titled database) (fits : growing.Fits database write) :
    Titled (database.set write.path write.placed) := by
  obtain ⟨owner, deed, rfl, allowed⟩ := fits
  intro key present
  by_cases publishes : deed.fundraiser = some key ∧ deed.Publishes
  · obtain ⟨here, publishes⟩ := publishes
    cases deed with
    | publish postKey captionField imgUrl =>
        cases here
        have title := Node.value_entry_ofFields
          (RecordWriter.post_keys_nodup (.feedVC captionField imgUrl)) "title"
        rw [fundraiser, Deed.assignment, Tree.sub_set_self]
        exact Option.isSome_of_eq_some (congrArg (Option.bind · Scalar.asString) title)
    | count postKey likes => exact publishes.elim
    | user write => exact publishes.elim
  · have stored : Present database key := by
      rcases (Deed.present_set_iff owner deed database key).mp present with here | old
      · cases deed with
        | publish postKey captionField imgUrl => exact (publishes ⟨here, trivial⟩).elim
        | count postKey likes =>
            cases here
            exact allowed.1
        | user write => cases here
      · exact old
    have story : SameStory (fundraiser (database.set (deed.assignment owner).path
        (deed.assignment owner).placed) key) (fundraiser database key) :=
      sameStory_set owner fun here publishing => publishes ⟨here, publishing⟩
    have title := story "title" (by decide)
    rw [SearchedDetailsTableViewController.postTitle, title]
    exact titled key stored

variable [DecidableEq Device] {firebase : Firebase} {uid : Device → String}
  {jpeg : Image → Option Data} {placeholder : Option Image}
  {before after : State Device Image Data}

/-- No device sees a fundraiser under a new key. -/
theorem NewKey.not_seen {state : Likes.State Device Image} {key : String}
    (fresh : NewKey state key) (performing : Performing uid state.replica) (device : Device) :
    ¬ Present (state.replica.view device) key := by
  have away : ∀ write ∈ state.replica.own device,
      Incomparable write.path (DataService.refFundraisers.child key) := by
    intro write issued
    obtain ⟨entry, found, inside⟩ := List.mem_flatMap.mp issued
    exact fresh.incomparable performing entry (List.mem_filter.mp found).1 write inside
  rw [Present, Replica.view, Tree.sub_applyAll_of_incomparable _ away]
  exact fresh.not_present

/-- A step changes nothing but the count of a fundraiser that a device sees. -/
theorem Queued.story {action : Action Device Image} (queued : Queued uid before.likes)
    (traffic : Traffic uid before after action) {device : Device} {key : String}
    (present : Present (before.likes.replica.view device) key) :
    SameStory (fundraiser (after.likes.replica.view device) key)
      (fundraiser (before.likes.replica.view device) key) := by
  have issued {issuer : Device} {deeds : List Deed}
      (performed : after.likes.replica = perform uid before.likes.replica issuer deeds)
      (others : ∀ deed ∈ deeds, deed.fundraiser = some key → ¬ deed.Publishes) :
      SameStory (fundraiser (after.likes.replica.view device) key)
        (fundraiser (before.likes.replica.view device) key) := by
    rw [performed, perform, Replica.view_issue]
    split
    · exact sameStory_applyAll _ _ others
    · exact fun _ _ => rfl
  cases traffic with
  | like given object held checked performed records =>
      exact issued performed (by simp [likeDeeds, Deed.Publishes])
  | publish fresh unused performed records =>
      refine issued performed ?_
      intro deed member here
      cases List.mem_singleton.mp member
      cases here
      exact (fresh.not_seen queued.performing device present).elim
  | user profile performed records =>
      exact issued performed (by simp [Deed.Publishes])
  | quiet silent same records =>
      rw [same]
      exact fun _ _ => rfl
  | @serve server batch serves records =>
      by_cases own : device = server
      · subst own
        rw [serves.view_self]
        exact fun _ _ => rfl
      · obtain ⟨deed, rfl, tree⟩ := queued.deed_of_serves serves
        rw [Replica.view, Replica.view, serves.own_other own]
        apply SameStory.applyAll
        rw [serves.tree]
        refine sameStory_set _ fun here publishes => ?_
        cases deed with
        | publish postKey captionField imgUrl =>
            cases here
            -- Before it is applied, a new fundraiser is seen by its publisher only.
            exact present (queued.creating.view_isNull serves.mem (List.mem_singleton_self _)
              ⟨key, rfl⟩ (Ne.symm own))
        | count postKey likes => exact publishes
        | user write => exact publishes

end Community

namespace Searching

open Community SearchedDetailsTableViewController

variable {Device Image Data : Type} [DecidableEq Device]

/-- The devices, each with its search screen while one is open. -/
structure State (Device Image Data : Type) where
  community : Community.State Device Image Data
  screens : Device → Option SearchList.State

/-- A search screen is opened, with the children that its query lists at first; its observer
is given the next child; the search is activated, edited or cancelled; it is dismissed. -/
inductive Action (Device Image : Type) where
  | community (action : Community.Action Device Image)
  | searchButtonTapped (device : Device) (children : List DataSnapshot)
  | childAdded (device : Device)
  | updateSearchResults (device : Device) (isActive : Bool) (searchText : String)
  | dissmissResultsView (device : Device)

/-- The fundraisers that a device sees. -/
def fundraisers (community : Community.State Device Image Data) (device : Device) : Node :=
  (community.likes.view device).sub DataService.refFundraisers

variable (firebase : Firebase) (text : SwiftText) (uid : Device → String)
  (jpeg : Image → Option Data) (placeholder : Option Image)

/-- The children of one snapshot that another does not have. -/
def added (before after : Node) : List DataSnapshot :=
  (firebase.allObjects after).filter fun child => child.key ∉ firebase.childKeys before

/-- Every search screen is to be given the fundraisers that its device comes to see. -/
def notify (before after : Community.State Device Image Data)
    (screens : Device → Option SearchList.State) : Device → Option SearchList.State := fun device =>
  (screens device).map fun screen => { screen with
    awaited := screen.awaited ++
      added firebase (fundraisers before device) (fundraisers after device) }

/-- The observer is given the next child. The table raises an exception if its rows do not
grow by the rows inserted. -/
def deliver (screen : SearchList.State) : Option SearchList.State :=
  match screen.awaited with
  | [] => none
  | child :: rest =>
      let next := { screen.deliver firebase child with awaited := rest }
      if next.vc.numberOfRowsInSection = screen.vc.numberOfRowsInSection +
          (screen.vc.childAdded firebase child.value).2.length then
        some next
      else none

/-- The screen is opened with the children there are and given those added since. One that is
left is dropped: the source never removes its observer, which goes on filling a list that no
one sees. -/
def handle (state : State Device Image Data) :
    Action Device Image → Option (State Device Image Data)
  | .community action => do
      let community ← Community.handle firebase uid jpeg placeholder state.community action
      return {
        community := community
        screens := notify firebase state.community community state.screens }
  | .searchButtonTapped device children =>
      some { state with
        screens := Function.update state.screens device
          (some { vc := {}, awaited := children, delivered := [] }) }
  | .childAdded device => do
      let screen ← state.screens device
      let next ← deliver firebase screen
      return { state with screens := Function.update state.screens device (some next) }
  | .updateSearchResults device isActive searchText => do
      let screen ← state.screens device
      let vc ← SearchedDetailsTableViewController.handle firebase text screen.vc
        (.setActive isActive searchText)
      return { state with
        screens := Function.update state.screens device (some { screen with vc := vc }) }
  | .dissmissResultsView device =>
      some { state with screens := Function.update state.screens device none }

/-- The children that the search screen of a device is still to be given. -/
def awaited (state : State Device Image Data) (device : Device) : List DataSnapshot :=
  ((state.screens device).map SearchList.State.awaited).getD []

/-- A search is opened once and used until it is left. -/
def Enabled (state : State Device Image Data) : Action Device Image → Prop
  | .community action => Community.Enabled state.community action
  | .searchButtonTapped device children => (state.screens device).isNone ∧
      children.Perm (firebase.allObjects (fundraisers state.community device))
  | .childAdded device => awaited state device ≠ []
  | .updateSearchResults device _ _ => (state.screens device).isSome
  | .dissmissResultsView device => (state.screens device).isSome

instance : DecidableEq DataSnapshot := fun first second =>
  decidable_of_iff (first.key = second.key ∧ first.value = second.value) (by
    cases first
    cases second
    rw [DataSnapshot.mk.injEq])

instance (state : State Device Image Data) :
    (action : Action Device Image) → Decidable (Enabled firebase state action)
  | .community action => inferInstanceAs (Decidable (Community.Enabled state.community action))
  | .searchButtonTapped _ _ => inferInstanceAs (Decidable (_ = true ∧ List.Perm _ _))
  | .childAdded _ => inferInstanceAs (Decidable (_ ≠ []))
  | .updateSearchResults _ _ _ => inferInstanceAs (Decidable (_ = true))
  | .dissmissResultsView _ => inferInstanceAs (Decidable (_ = true))

/-- The devices with their open searches. -/
def machine : Machine (State Device Image Data) (Action Device Image) where
  enabled := Enabled firebase
  handle := handle firebase text uid jpeg placeholder

/-- Devices that have just opened the feed. -/
def initial (database : Node) (forms : Device → FeedVC Image) : State Device Image Data where
  community := Community.initial database forms
  screens := fun _ => none

/-- The cells of the fundraisers that a device sees. -/
def seenCells (community : Community.State Device Image Data) (device : Device) :
    Multiset (Option String × Option String) :=
  (firebase.allObjects (fundraisers community device)).map fun child =>
    texts (firebase.asDictionary child.value)

/-- A search shows a cell. -/
def Sought (isActive : Bool) (searchText : String) (cell : Option String × Option String) : Prop :=
  isActive = true → searchText ≠ "" → cell.1.any fun title =>
    text.contains (text.lowercased title) (text.lowercased searchText)

instance (isActive : Bool) (searchText : String) :
    DecidablePred (Sought text isActive searchText) := fun _ =>
  inferInstanceAs (Decidable (_ = true → _ ≠ "" → _ = true))

variable {firebase text uid jpeg placeholder} {before after : State Device Image Data}
  {screen next : SearchList.State} {seen now : Node}

/-- A titled child is delivered as a dictionary. -/
theorem asDictionary_of_title {value : Node} (titled : (postTitle value).isSome) :
    firebase.asDictionary value = some value := by
  have present : ¬ (value.sub ["title"]).IsNull := by
    intro absent
    rw [postTitle, Node.entry, Node.asString, (Tree.isNull_iff_value _).mp absent []] at titled
    cases titled
  exact firebase.asDictionary_of_key present (by decide)

/-- The cell of a fundraiser does not depend on its count. -/
theorem texts_of_sameStory (firebase : Firebase) {first second : Node}
    (same : SameStory first second) (titled : (postTitle second).isSome) :
    texts (firebase.asDictionary first) = texts (firebase.asDictionary second) := by
  have title : postTitle first = postTitle second :=
    congrArg Node.asString (same "title" (by decide))
  have caption := same "caption" (by decide)
  rw [asDictionary_of_title titled, asDictionary_of_title (title ▸ titled)]
  simp only [texts, Option.bind_some, title, caption]

/-- The children arrive in order. -/
theorem deliver_cases (done : deliver firebase screen = some next) :
    ∃ child rest, screen.awaited = child :: rest ∧
      next = { screen.deliver firebase child with awaited := rest } := by
  unfold deliver at done
  split at done
  · cases done
  · rename_i child rest waiting
    dsimp only at done
    split at done
    · exact ⟨child, rest, waiting, (Option.some.inj done).symm⟩
    · cases done

/-- A delivery returns exactly when no search is shown. -/
theorem deliver_isSome_iff (firebase : Firebase) (waiting : screen.awaited ≠ []) :
    (deliver firebase screen).isSome ↔ screen.vc.showsFilterResults = false := by
  obtain ⟨child, rest, waiting⟩ := List.exists_cons_of_ne_nil waiting
  have still : (screen.vc.childAdded firebase child.value).1.showsFilterResults =
      screen.vc.showsFilterResults := rfl
  simp only [deliver, waiting, SearchList.State.deliver, numberOfRowsInSection, still]
  cases screen.vc.showsFilterResults <;> simp [childAdded]

/-- How a search screen stands to the fundraisers that its device sees: it shows what it
was given, and is given every fundraiser once, as it is but for the count. -/
structure Follows (firebase : Firebase) (seen : Node) (screen : SearchList.State) : Prop where
  shown : screen.vc.postArray =
    screen.delivered.map fun child => firebase.asDictionary child.value
  keys : ((screen.delivered ++ screen.awaited).map DataSnapshot.key).Perm
    (firebase.childKeys seen)
  stories : ∀ child ∈ screen.delivered ++ screen.awaited,
    SameStory child.value (seen.sub [child.key])

/-- A child has what is stored under its key. -/
theorem sub_of_mem_allObjects {child : DataSnapshot} (member : child ∈ firebase.allObjects seen) :
    child.value = seen.sub [child.key] := by
  obtain ⟨key, _, rfl⟩ := List.mem_map.mp member
  rfl

/-- A search just opened is to be given every child there is. -/
theorem Follows.opened {children : List DataSnapshot}
    (listed : children.Perm (firebase.allObjects seen)) :
    Follows firebase seen { vc := {}, awaited := children, delivered := [] } where
  shown := rfl
  keys := by
    rw [← firebase.allObjects_map_key]
    exact listed.map _
  stories := by
    intro child member _ _
    rw [sub_of_mem_allObjects (listed.mem_iff.mp member)]

/-- The screen is to be given what its device comes to see. -/
theorem Follows.notify (follows : Follows firebase seen screen)
    (kept : ∀ key ∈ firebase.childKeys seen, key ∈ firebase.childKeys now ∧
      SameStory (now.sub [key]) (seen.sub [key])) :
    Follows firebase now { screen with awaited := screen.awaited ++ added firebase seen now } where
  shown := follows.shown
  keys := by
    have keys : (added firebase seen now).map DataSnapshot.key =
        (firebase.childKeys now).filter (· ∉ firebase.childKeys seen) := by
      rw [added, ← firebase.allObjects_map_key now, List.filter_map]
      rfl
    rw [← List.append_assoc, List.map_append, keys]
    refine (follows.keys.append_right _).trans ?_
    refine (List.perm_ext_iff_of_nodup ?_ (firebase.childKeys_nodup now)).mpr fun key => ?_
    · refine (firebase.childKeys_nodup seen).append ((firebase.childKeys_nodup now).filter _) ?_
      intro key old new
      exact of_decide_eq_true (List.mem_filter.mp new).2 old
    · rw [List.mem_append, List.mem_filter, decide_eq_true_iff]
      by_cases old : key ∈ firebase.childKeys seen
      · exact iff_of_true (Or.inl old) (kept key old).1
      · exact ⟨fun either => (either.resolve_left old).1, fun new => Or.inr ⟨new, old⟩⟩
  stories := by
    rw [← List.append_assoc]
    intro child member
    rcases List.mem_append.mp member with old | new
    · have known := follows.keys.mem_iff.mp (List.mem_map_of_mem old)
      exact (follows.stories child old).trans (kept _ known).2.symm
    · rw [sub_of_mem_allObjects (List.mem_filter.mp new).1]
      exact fun _ _ => rfl

/-- A child delivered is one of those to be shown. -/
theorem Follows.deliver (follows : Follows firebase seen screen)
    (done : deliver firebase screen = some next) : Follows firebase seen next := by
  obtain ⟨child, rest, waiting, rfl⟩ := deliver_cases done
  have regroup : screen.delivered ++ [child] ++ rest = screen.delivered ++ screen.awaited := by
    rw [waiting, List.append_assoc, List.singleton_append]
  refine ⟨?_, regroup.symm ▸ follows.keys, regroup.symm ▸ follows.stories⟩
  change screen.vc.postArray ++ [firebase.asDictionary child.value] =
    (screen.delivered ++ [child]).map fun child => firebase.asDictionary child.value
  rw [List.map_append, follows.shown]
  rfl

/-- A search leaves what the screen was given. -/
theorem Follows.search (follows : Follows firebase seen screen)
    {vc : SearchedDetailsTableViewController} (same : vc.postArray = screen.vc.postArray) :
    Follows firebase seen { screen with vc := vc } :=
  ⟨same.trans follows.shown, follows.keys, follows.stories⟩

/-- What every step keeps. -/
structure Following (firebase : Firebase) (uid : Device → String)
    (state : State Device Image Data) : Prop where
  queued : Queued uid state.community.likes
  titled : Titled state.community.likes.database
  screens : ∀ device, ∀ screen ∈ state.screens device,
    Follows firebase (fundraisers state.community device) screen

/-- The fundraisers a device sees are those of its view. -/
theorem sub_fundraisers (community : Community.State Device Image Data) (device : Device)
    (key : String) :
    (fundraisers community device).sub [key] =
      fundraiser (community.likes.replica.view device) key := by
  rw [fundraisers, ← Tree.sub_append, Likes.State.view_replica]
  rfl

/-- The children of the query are the fundraisers there are. -/
theorem mem_childKeys_iff (community : Community.State Device Image Data) (device : Device)
    (key : String) : key ∈ firebase.childKeys (fundraisers community device) ↔
      Present (community.likes.replica.view device) key := by
  rw [firebase.mem_childKeys, sub_fundraisers]
  rfl

/-- What a device sees of the fundraisers stays but for the counts. -/
theorem kept_of_step {earlier later : Community.State Device Image Data}
    (queued : Queued uid earlier.likes) {action : Community.Action Device Image}
    (step : (Community.machine firebase uid jpeg placeholder).Step earlier action later)
    (device : Device) :
    ∀ key ∈ firebase.childKeys (fundraisers earlier device),
      key ∈ firebase.childKeys (fundraisers later device) ∧
      SameStory ((fundraisers later device).sub [key]) ((fundraisers earlier device).sub [key]) := by
  intro key member
  rw [mem_childKeys_iff] at member
  have moves := traffic queued.supported.coherent step
  rw [mem_childKeys_iff, sub_fundraisers, sub_fundraisers]
  exact ⟨(queued.supported.grows moves).2 device key member, queued.story moves member⟩

/-- Every step leaves the open searches following. -/
theorem Following.step {action : Action Device Image} (following : Following firebase uid before)
    (step : (machine firebase text uid jpeg placeholder).Step before action after) :
    Following firebase uid after := by
  obtain ⟨queued, titled, screens⟩ := following
  have replaced {device : Device} {next : Option SearchList.State}
      (follows : ∀ screen ∈ next, Follows firebase (fundraisers before.community device) screen) :
      Following firebase uid
        { before with screens := Function.update before.screens device next } :=
    ⟨queued, titled, (Function.forall_update_iff before.screens fun other found =>
      ∀ screen ∈ found, Follows firebase (fundraisers before.community other) screen).mpr
        ⟨follows, fun other _ => screens other⟩⟩
  obtain ⟨enabled, handled⟩ := step
  cases action with
  | community action =>
      obtain ⟨community, done, handled⟩ := Option.bind_eq_some_iff.mp handled
      cases handled
      have inner : (Community.machine firebase uid jpeg placeholder).Step before.community action
        community := ⟨enabled, done⟩
      refine ⟨queued.step inner, ?_, ?_⟩
      · exact queued.supported.invariant (traffic queued.supported.coherent inner)
          (fun _ _ held fits => held.set fits) titled
      · intro device screen shown
        obtain ⟨old, opened, rfl⟩ := Option.map_eq_some_iff.mp shown
        exact (screens device old opened).notify (kept_of_step queued inner device)
  | searchButtonTapped device children =>
      cases handled
      refine replaced fun screen same => ?_
      cases same
      exact Follows.opened enabled.2
  | childAdded device =>
      obtain ⟨screen, opened, handled⟩ := Option.bind_eq_some_iff.mp handled
      obtain ⟨next, done, handled⟩ := Option.bind_eq_some_iff.mp handled
      cases handled
      refine replaced fun screen same => ?_
      cases same
      exact (screens device _ opened).deliver done
  | updateSearchResults device isActive searchText =>
      obtain ⟨screen, opened, handled⟩ := Option.bind_eq_some_iff.mp handled
      obtain ⟨vc, done, handled⟩ := Option.bind_eq_some_iff.mp handled
      cases handled
      refine replaced fun screen same => ?_
      cases same
      refine (screens device _ opened).search ?_
      rw [updateSearchResults_eq done]
  | dissmissResultsView device =>
      cases handled
      exact replaced fun screen none => nomatch none

theorem following_initial {database : Node} (titled : Titled database)
    (forms : Device → FeedVC Image) :
    Following firebase uid (initial database forms : State Device Image Data) where
  queued := queued_initial uid database
  titled := titled
  screens := by
    intro device screen opened
    cases opened

/-- Every fundraiser that a device sees is titled. -/
theorem Following.title (following : Following firebase uid before) (device : Device) :
    ∀ key ∈ firebase.childKeys (fundraisers before.community device),
      (postTitle ((fundraisers before.community device).sub [key])).isSome := by
  intro key member
  rw [mem_childKeys_iff] at member
  rw [sub_fundraisers]
  exact following.queued.supported.ordered.invariant_view (fun _ _ held fits => held.set fits)
    following.titled device key member

/-- A child that a screen was given shows what the device sees of the fundraiser. -/
theorem Follows.texts_eq (follows : Follows firebase seen screen)
    (titled : ∀ key ∈ firebase.childKeys seen, (postTitle (seen.sub [key])).isSome)
    {child : DataSnapshot} (member : child ∈ screen.delivered) :
    ((firebase.asDictionary child.value).bind postTitle).isSome ∧
      texts (firebase.asDictionary child.value) =
        texts (firebase.asDictionary (seen.sub [child.key])) := by
  have given := List.mem_append_left screen.awaited member
  have title := titled child.key (follows.keys.mem_iff.mp (List.mem_map_of_mem given))
  have same := texts_of_sameStory firebase (follows.stories child given) title
  refine ⟨?_, same⟩
  have shown : (texts (firebase.asDictionary child.value)).1.isSome := by
    rw [same, asDictionary_of_title title]
    exact title
  exact shown

/-- With nothing to come, the screen holds what its device sees. -/
theorem Follows.perm (follows : Follows firebase seen screen)
    (titled : ∀ key ∈ firebase.childKeys seen, (postTitle (seen.sub [key])).isSome)
    (nothing : screen.awaited = []) :
    (screen.vc.postArray.map texts).Perm
      ((firebase.allObjects seen).map fun child => texts (firebase.asDictionary child.value)) := by
  have keys := follows.keys
  rw [nothing, List.append_nil] at keys
  have given : screen.vc.postArray.map texts = (screen.delivered.map DataSnapshot.key).map
      fun key => texts (firebase.asDictionary (seen.sub [key])) := by
    rw [follows.shown, List.map_map, List.map_map]
    exact List.map_congr_left fun child member => (follows.texts_eq titled member).2
  have listed : ((firebase.allObjects seen).map fun child =>
      texts (firebase.asDictionary child.value)) = (firebase.childKeys seen).map
        fun key => texts (firebase.asDictionary (seen.sub [key])) := by
    rw [Firebase.allObjects, List.map_map]
    rfl
  rw [given, listed]
  exact keys.map _

/-- The posts that a search keeps are those with a cell that it shows. -/
theorem map_texts_wanted (vc : SearchedDetailsTableViewController) :
    (vc.wanted text).map texts =
      (vc.postArray.map texts).filter (Sought text vc.isActive vc.searchText) := by
  rw [List.filter_map, wanted]
  split
  · rename_i active
    refine congrArg (List.map texts) (List.filter_congr fun post _ => ?_)
    rw [Bool.eq_iff_iff, Function.comp_apply, decide_eq_true_iff]
    exact ⟨fun kept _ _ => kept, fun sought => sought active.1 active.2⟩
  · rename_i inactive
    rw [List.filter_eq_self.mpr]
    intro post _
    exact decide_eq_true fun active some => (inactive ⟨active, some⟩).elim

/-- A search of a screen whose posts are titled returns, and shows the matching ones. -/
theorem exists_search (firebase : Firebase) (text : SwiftText) (screen : SearchList.State)
    (isActive : Bool) (searchText : String)
    (titled : ∀ post ∈ screen.vc.postArray, (post.bind postTitle).isSome) :
    ∃ vc, SearchedDetailsTableViewController.handle firebase text screen.vc
        (.setActive isActive searchText) = some vc ∧
      vc.cells = (screen.vc.postArray.map texts).filter (Sought text isActive searchText) := by
  obtain ⟨vc, done, same⟩ := exists_updateSearchResults text
    { screen.vc with isActive := isActive, searchText := searchText } titled
  refine ⟨vc, done, ?_⟩
  rw [(offers_wanted_of_update done).cells, map_texts_wanted, same]
  cases updateSearchResults_eq done
  rfl

/-- **Searches find every fundraiser.** From a database whose fundraisers are titled, in
every run of any number of devices that like, publish, edit profiles and search, an open
search screen has been or is to be given every fundraiser that its device sees, each once;
a delivery traps exactly during a search; every search returns; and with no child to come
the cells shown are those of the fundraisers that the device sees, and those that a search
leaves are the matching ones. -/
theorem searches_find_all (firebase : Firebase) (text : SwiftText) (uid : Device → String)
    (jpeg : Image → Option Data) (placeholder : Option Image) {database : Node}
    (titled : Titled database) (forms : Device → FeedVC Image)
    {actions : List (Action Device Image)} {finish : State Device Image Data}
    (run : (machine firebase text uid jpeg placeholder).Run (initial database forms) actions
      finish)
    {device : Device} {screen : SearchList.State} (opened : finish.screens device = some screen) :
    ((screen.delivered ++ screen.awaited).map DataSnapshot.key).Perm
        (firebase.childKeys (fundraisers finish.community device)) ∧
      (screen.awaited ≠ [] →
        ((handle firebase text uid jpeg placeholder finish (.childAdded device)).isSome ↔
          screen.vc.showsFilterResults = false)) ∧
      (screen.awaited = [] → screen.vc.showsFilterResults = false →
        (screen.vc.cells : Multiset _) = seenCells firebase finish.community device) ∧
      ∀ isActive searchText, ∃ next searched,
        handle firebase text uid jpeg placeholder finish
            (.updateSearchResults device isActive searchText) = some next ∧
          next.screens device = some searched ∧
          (screen.awaited = [] → (searched.vc.cells : Multiset _) =
            (seenCells firebase finish.community device).filter
              (Sought text isActive searchText)) := by
  have following : Following firebase uid finish :=
    run.invariant (fun _ _ _ following step => following.step step)
      (following_initial titled forms)
  have follows := following.screens device screen opened
  have titles := following.title device
  refine ⟨follows.keys, fun waiting => ?_, fun nothing away => ?_, fun isActive searchText => ?_⟩
  · rw [← deliver_isSome_iff firebase waiting]
    simp only [handle, opened, Option.bind_eq_bind, Option.bind_some]
    cases deliver firebase screen <;> rfl
  · rw [(offers_postArray (by simp [away])).cells]
    exact Multiset.coe_eq_coe.mpr (follows.perm titles nothing)
  · have held : ∀ post ∈ screen.vc.postArray, (post.bind postTitle).isSome := by
      rw [follows.shown, List.forall_mem_map]
      exact fun child member => (follows.texts_eq titles member).1
    obtain ⟨vc, done, cells⟩ := exists_search firebase text screen isActive searchText held
    refine ⟨{ finish with
      screens := Function.update finish.screens device (some { screen with vc := vc }) },
      { screen with vc := vc }, ?_, Function.update_self _ _ _, fun nothing => ?_⟩
    · simp only [handle, opened, done, Option.bind_eq_bind, Option.bind_some]
      rfl
    · rw [cells, seenCells, Multiset.filter_coe, Multiset.coe_eq_coe]
      exact (follows.perm titles nothing).filter _

section Found

instance (state : State Device Image Data) (action : Action Device Image) :
    Decidable ((machine firebase text uid jpeg placeholder).enabled state action) :=
  inferInstanceAs (Decidable (Enabled firebase state action))

/-- A fundraiser with a title of its own. -/
def walkFundraiser : Node :=
  Node.ofFields [("title", .string "Walk"), ("caption", .string "A walk")]

/-- Ann opens the search, and is given the fundraiser that was there and the one that Bob
publishes. -/
def annSearches : List (Action Bool Unit) :=
  [.searchButtonTapped true [⟨"walk", walkFundraiser⟩]] ++
    bobPublishes.map .community ++ [.childAdded true, .childAdded true]

/-- Ann's search shows both fundraisers, and finds the one with the title she asks for. -/
theorem ann_finds_fundraiser :
    ∃ finish screen next searched,
      (machine Firebase.byKey plainText Likes.twoUsers (fun _ : Unit => some ()) none).execute
        (initial (Tree.null.set (DataService.refFundraisers.child "walk") walkFundraiser)
          emptyForms) annSearches = some finish ∧
      finish.screens true = some screen ∧
      (screen.vc.cells : Multiset _) = {(some "Walk", some "A walk"), (some "Test", some "A run")} ∧
      handle Firebase.byKey plainText Likes.twoUsers (fun _ => some ()) none finish
        (.updateSearchResults true true "WALK") = some next ∧
      next.screens true = some searched ∧
      (searched.vc.cells : Multiset _) = {(some "Walk", some "A walk")} := by
  have reached : ((machine Firebase.byKey plainText Likes.twoUsers (fun _ : Unit => some ())
      none).execute (initial (Tree.null.set (DataService.refFundraisers.child "walk")
        walkFundraiser) emptyForms) annSearches).map (fun finish =>
          ((finish.screens true).map fun screen =>
            (screen.awaited.length, screen.vc.showsFilterResults),
            decide (seenCells Firebase.byKey finish.community true =
              {(some "Walk", some "A walk"), (some "Test", some "A run")}))) =
      some (some (0, false), true) := by
    decide
  obtain ⟨finish, executed, shape⟩ := Option.map_eq_some_iff.mp reached
  obtain ⟨opened, seen⟩ := Prod.mk.inj shape
  obtain ⟨screen, opened, shape⟩ := Option.map_eq_some_iff.mp opened
  obtain ⟨nothing, away⟩ := Prod.mk.inj shape
  have nothing := List.eq_nil_of_length_eq_zero nothing
  obtain ⟨_, _, shown, search⟩ := searches_find_all Firebase.byKey plainText Likes.twoUsers
    (fun _ => some ()) none (by decide) emptyForms (Machine.run_of_execute executed) opened
  obtain ⟨next, searched, done, there, found⟩ := search true "WALK"
  have cells := found nothing
  rw [of_decide_eq_true seen] at cells
  refine ⟨finish, screen, next, searched, executed, opened, ?_, done, there, cells.trans ?_⟩
  · rw [shown nothing away, of_decide_eq_true seen]
  · decide

end Found

end Searching

end MyFundi
