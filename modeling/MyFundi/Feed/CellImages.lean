import MyFundi.Feed.Likes
import MyFundi.Foundation.InFlight

/-!
# Images and hearts of reused cells

A configuration of a cell starts a read of the like record and, unless an image was
given, a download of the post's image. Their callbacks write to the cell without asking
which post it shows by then, and a downloaded image is also put in the cache that all
feeds share, under the address held by the post object the closure captured.
-/

namespace MyFundi

open Foundation

namespace CellImages

/-- A download: the cell to show the image, the object whose configuration started it,
and the address asked for. -/
structure Download where
  cell : Nat
  object : PostObject
  url : String

/-- A read of a like record for a cell. -/
structure RecordRead where
  cell : Nat
  ref : DatabaseReference

/-- The last configuration of a cell: the image address of its post, the image it was
given, the tickets of the download and of the read it started, whether that download has
succeeded since, and the answer of the read, once it is there. -/
structure Configuration (Image : Type) where
  imageUrl : Option String
  given : Option Image
  download : Option Nat
  read : Nat
  succeeded : Bool
  record : Option Node
  deriving DecidableEq

/-- The post objects and cells of all feeds, the cache, and the requests in flight;
`latest` records the last configuration of each cell, which no handler looks at. -/
structure State (Image : Type) where
  objects : List Post
  cells : Nat → PostCell Image
  imageCache : String → Option Image
  downloads : InFlight Download
  reads : InFlight RecordRead
  latest : Nat → Option (Configuration Image)

/-- The keychain may hold another user at every configuration, and a direct
configuration may be given any image. -/
inductive Action (Image : Type) where
  | initPost (postKey : String) (postData : Node)
  | adjustLikes (object : PostObject) (addLike : Bool)
  | cellForRowAt (keychain : Option String) (cell : Nat) (object : PostObject)
  | configureCell (keychain : Option String) (cell : Nat) (object : PostObject)
      (img : Option Image)
  | downloadSucceeded (ticket : Nat)
  | downloadFailed (ticket : Nat)
  | recordRead (ticket : Nat) (snapshot : Node)
  | evict (url : String)

variable {Image Data : Type}

/-- Note whether a download succeeded, if this configuration started it. -/
def Configuration.downloaded (configuration : Configuration Image) (ticket : Nat)
    (failed : Bool) : Configuration Image :=
  if configuration.download = some ticket then { configuration with succeeded := !failed }
  else configuration

/-- Note the record that was read, if this configuration started the read. -/
def Configuration.answered (configuration : Configuration Image) (ticket : Nat)
    (snapshot : Node) : Configuration Image :=
  if configuration.read = ticket then { configuration with record := some snapshot }
  else configuration

namespace State

/-- A cell has been configured, with the download to start. -/
def configured (state : State Image) (cell : Nat) (object : PostObject) (img : Option Image)
    (result : PostCell Image × Option String) : Option (State Image) := do
  let ref ← result.1.likesRef
  return { state with
    cells := Function.update state.cells cell result.1
    downloads :=
      match result.2 with
      | some url => state.downloads.start ⟨cell, object, url⟩
      | none => state.downloads
    reads := state.reads.start ⟨cell, ref⟩
    latest := Function.update state.latest cell (some {
      imageUrl := state.objects[object]?.bind Post.imageUrl
      given := img
      download := result.2.map fun _ => state.downloads.issued
      read := state.reads.issued
      succeeded := false
      record := none }) }

/-- A download has been answered. -/
def downloaded (decode : Data → Option Image) (state : State Image) (ticket : Nat)
    (data : String → Option Data) (failed : Bool) : Option (State Image) := do
  let download ← state.downloads.find ticket
  let post ← state.objects[download.object]?
  let (cell, entry) ← (state.cells download.cell).getDataCompletion decode post
    (data download.url) failed
  return { state with
    cells := Function.update state.cells download.cell cell
    imageCache :=
      match entry with
      | some (url, img) => Function.update state.imageCache url (some img)
      | none => state.imageCache
    downloads := state.downloads.finish ticket
    latest := Function.update state.latest download.cell
      ((state.latest download.cell).map fun configuration =>
        configuration.downloaded ticket failed) }

end State

variable (firebase : Firebase) (storage : String → Option Data) (decode : Data → Option Image)

/-- A download that succeeds delivers the data stored at its address. -/
def handle (state : State Image) : Action Image → Option (State Image)
  | .initPost postKey postData =>
      some { state with objects := state.objects ++ [Post.init postKey postData] }
  | .adjustLikes object addLike => do
      let post ← state.objects[object]?
      let (adjusted, _) ← post.adjustLikes addLike
      return { state with objects := state.objects.set object adjusted }
  | .cellForRowAt keychain cell object => do
      let post ← state.objects[object]?
      let img := post.imageUrl.bind state.imageCache
      let result ← FeedVC.cellForRowAt firebase (state.cells cell) keychain object post img
      state.configured cell object img result
  | .configureCell keychain cell object img => do
      let post ← state.objects[object]?
      let result ← (state.cells cell).configureCell firebase keychain object post img
      state.configured cell object img result
  | .downloadSucceeded ticket => state.downloaded decode ticket storage false
  | .downloadFailed ticket => state.downloaded decode ticket (fun _ => none) true
  | .recordRead ticket snapshot => do
      let read ← state.reads.find ticket
      return { state with
        cells := Function.update state.cells read.cell
          ((state.cells read.cell).configureCellCallback snapshot)
        reads := state.reads.finish ticket
        latest := Function.update state.latest read.cell
          ((state.latest read.cell).map fun configuration =>
            configuration.answered ticket snapshot) }
  | .evict url => some { state with imageCache := Function.update state.imageCache url none }

/-- An action needs the object or the request it is about. -/
def Enabled (state : State Image) : Action Image → Prop
  | .adjustLikes object _ | .cellForRowAt _ _ object | .configureCell _ _ object _ =>
      object < state.objects.length
  | .downloadSucceeded ticket | .downloadFailed ticket => (state.downloads.find ticket).isSome
  | .recordRead ticket _ => (state.reads.find ticket).isSome
  | .initPost _ _ | .evict _ => True

instance (state : State Image) : (action : Action Image) → Decidable (Enabled state action)
  | .adjustLikes _ _ | .cellForRowAt _ _ _ | .configureCell _ _ _ _ =>
      inferInstanceAs (Decidable (_ < _))
  | .downloadSucceeded _ | .downloadFailed _ | .recordRead _ _ =>
      inferInstanceAs (Decidable (_ = true))
  | .initPost _ _ | .evict _ => .isTrue trivial

/-- The cells of all feeds and the images they download. -/
def machine : Machine (State Image) (Action Image) where
  enabled := Enabled
  handle := handle firebase storage decode

instance (state : State Image) (action : Action Image) :
    Decidable ((machine firebase storage decode).enabled state action) :=
  inferInstanceAs (Decidable (Enabled state action))

/-- No post has been loaded and the cache is empty. -/
def initial : State Image where
  objects := []
  cells := fun _ => {}
  imageCache := fun _ => none
  downloads := .empty
  reads := .empty
  latest := fun _ => none

/-- The image that the data stored at an address decodes to. -/
def imageAt (url : String) : Option Image :=
  (storage url).bind decode

variable {firebase storage decode} {before after : State Image}

/-- What an answered download does: the image it brings, if it brings one, is shown in
its cell and put in the cache under the address of the captured object. -/
theorem State.downloaded_eq_some {ticket : Nat} {data : String → Option Data} {failed : Bool}
    (done : before.downloaded decode ticket data failed = some after) :
    ∃ download post, before.downloads.find ticket = some download ∧
      before.objects[download.object]? = some post ∧ after.objects = before.objects ∧
      after.downloads = before.downloads.finish ticket ∧ after.reads = before.reads ∧
      after.latest = Function.update before.latest download.cell
        ((before.latest download.cell).map (·.downloaded ticket failed)) ∧
      ((∃ img url, failed = false ∧ (data download.url).bind decode = some img ∧
          post.imageUrl = some url ∧
          after.imageCache = Function.update before.imageCache url (some img) ∧
          after.cells = Function.update before.cells download.cell
            { before.cells download.cell with postImg := some img }) ∨
        (failed = true ∨ (data download.url).bind decode = none) ∧
          after.imageCache = before.imageCache ∧ after.cells = before.cells) := by
  obtain ⟨download, found, done⟩ := Option.bind_eq_some_iff.mp done
  obtain ⟨post, present, done⟩ := Option.bind_eq_some_iff.mp done
  obtain ⟨⟨cell, entry⟩, completed, done⟩ := Option.bind_eq_some_iff.mp done
  cases done
  refine ⟨download, post, found, present, rfl, rfl, rfl, rfl, ?_⟩
  unfold PostCell.getDataCompletion at completed
  split at completed
  · rename_i error
    cases completed
    exact Or.inr ⟨Or.inl error, rfl, Function.update_eq_self _ _⟩
  · rename_i noError
    split at completed
    · rename_i img decoded
      obtain ⟨url, stored, completed⟩ := Option.bind_eq_some_iff.mp completed
      cases completed
      exact Or.inl ⟨img, url, Bool.eq_false_of_not_eq_true noError, decoded, stored, rfl, rfl⟩
    · rename_i undecodable
      cases completed
      exact Or.inr ⟨Or.inr undecodable, rfl, Function.update_eq_self _ _⟩

section Steps

variable {keychain : Option String} {cell ticket : Nat} {object : PostObject}

/-- A row is configured with the cached image of its post, if there is one. -/
theorem step_cellForRowAt
    (step : (machine firebase storage decode).Step before (.cellForRowAt keychain cell object)
      after) :
    ∃ post result, before.objects[object]? = some post ∧
      (before.cells cell).configureCell firebase keychain object post
        (post.imageUrl.bind before.imageCache) = some result ∧
      before.configured cell object (post.imageUrl.bind before.imageCache) result = some after := by
  obtain ⟨post, present, handled⟩ := Option.bind_eq_some_iff.mp step.2
  obtain ⟨result, shown, done⟩ := Option.bind_eq_some_iff.mp handled
  obtain ⟨_, _, showing⟩ := Option.bind_eq_some_iff.mp shown
  exact ⟨post, result, present, showing, done⟩

/-- A configuration is one on the object named. -/
theorem step_configureCell {img : Option Image}
    (step : (machine firebase storage decode).Step before
      (.configureCell keychain cell object img) after) :
    ∃ post result, before.objects[object]? = some post ∧
      (before.cells cell).configureCell firebase keychain object post img = some result ∧
      before.configured cell object img result = some after := by
  obtain ⟨post, present, handled⟩ := Option.bind_eq_some_iff.mp step.2
  obtain ⟨result, showing, done⟩ := Option.bind_eq_some_iff.mp handled
  exact ⟨post, result, present, showing, done⟩

/-- A download that succeeds brings what is stored at its address. -/
theorem step_downloadSucceeded
    (step : (machine firebase storage decode).Step before (.downloadSucceeded ticket) after) :
    before.downloaded decode ticket storage false = some after :=
  step.2

/-- A download that fails brings nothing. -/
theorem step_downloadFailed
    (step : (machine firebase storage decode).Step before (.downloadFailed ticket) after) :
    before.downloaded decode ticket (fun _ => none) true = some after :=
  step.2

end Steps

end CellImages

end MyFundi
