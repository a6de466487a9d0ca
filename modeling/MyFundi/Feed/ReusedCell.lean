import MyFundi.Feed.ImageCache

/-!
# What a reused cell shows

A callback that was started for an earlier post of the cell may run after those of the
last one and then has the last word. A cell shows the image and the heart of its last
post in every run in which such a late callback brings what the cell shows already
(`reused_cell_shows_own`).
-/

namespace MyFundi

open Foundation

namespace CellImages

variable {Image Data : Type}

/-- No callback is pending for a cell. -/
def Idle (state : State Image) (cell : Nat) : Prop :=
  (∀ entry ∈ state.downloads.waiting, entry.2.cell ≠ cell) ∧
    ∀ entry ∈ state.reads.waiting, entry.2.cell ≠ cell

instance (state : State Image) (cell : Nat) : Decidable (Idle state cell) :=
  inferInstanceAs (Decidable ((∀ entry ∈ _, _) ∧ ∀ entry ∈ _, _))

/-- The image that a configuration was given, or the one at the address of its post, once its
own download has succeeded. -/
def Configuration.image (storage : String → Option Data) (decode : Data → Option Image)
    (configuration : Configuration Image) : Option Image :=
  configuration.given.or
    (if configuration.succeeded then configuration.imageUrl.bind (imageAt storage decode) else none)

/-- A cell shows the image of its last configuration, if it has one by now, and the heart of
the record read for it. -/
structure ShowsOwn (storage : String → Option Data) (decode : Data → Option Image)
    (shown : PostCell Image) (configuration : Configuration Image) : Prop where
  image : ∀ img, configuration.image storage decode = some img → shown.postImg = some img
  heart : ∃ record, configuration.record = some record ∧
    shown.likeImage = some (if record.IsNull then .emptyHeart else .filledHeart)

/-- What a callback brings for an earlier configuration of its cell comes before what
the last configuration brought, or is the same. -/
def InTime (storage : String → Option Data) (decode : Data → Option Image)
    (before : State Image) : Action Image → Prop
  | .downloadSucceeded ticket => ∀ download ∈ before.downloads.find ticket,
      ∀ configuration ∈ before.latest download.cell, ∀ img ∈ imageAt storage decode download.url,
        configuration.download = some ticket ∨ configuration.image storage decode = none ∨
          configuration.image storage decode = some img
  | .recordRead ticket snapshot => ∀ read ∈ before.reads.find ticket,
      ∀ configuration ∈ before.latest read.cell,
        configuration.read = ticket ∨
          ∀ record ∈ configuration.record, (record.IsNull ↔ snapshot.IsNull)
  | _ => True

instance [DecidableEq Image] (storage : String → Option Data) (decode : Data → Option Image)
    (before : State Image) : (action : Action Image) → Decidable (InTime storage decode before action)
  | .downloadSucceeded ticket =>
      inferInstanceAs (Decidable (∀ download ∈ before.downloads.find ticket,
        ∀ configuration ∈ before.latest download.cell,
          ∀ img ∈ imageAt storage decode download.url, _ ∨ _ ∨ _))
  | .recordRead ticket snapshot =>
      inferInstanceAs (Decidable (∀ read ∈ before.reads.find ticket,
        ∀ configuration ∈ before.latest read.cell,
          _ ∨ ∀ record ∈ configuration.record, (record.IsNull ↔ snapshot.IsNull)))
  | .initPost _ _ | .adjustLikes _ _ | .cellForRowAt _ _ _ | .configureCell _ _ _ _
  | .downloadFailed _ | .evict _ => .isTrue trivial

/-- The cell shows what the last configuration has brought so far. The read of its record is
answered or pending, and its download, which no image was given for, asks for the address of
its post. -/
structure Follows (storage : String → Option Data) (decode : Data → Option Image)
    (downloads : InFlight Download) (reads : InFlight RecordRead) (cell : Nat)
    (shown : PostCell Image) (configuration : Configuration Image) : Prop where
  image : ∀ img, configuration.image storage decode = some img → shown.postImg = some img
  heart : ∀ record, configuration.record = some record →
    shown.likeImage = some (if record.IsNull then .emptyHeart else .filledHeart)
  pending : configuration.record = none →
    ∃ read, reads.find configuration.read = some read ∧ read.cell = cell
  asked : ∀ ticket, configuration.download = some ticket → configuration.given = none ∧
    ticket < downloads.issued ∧ ∀ download, downloads.find ticket = some download →
      configuration.imageUrl = some download.url

/-- What holds in every run whose late callbacks change nothing. -/
def Following (storage : String → Option Data) (decode : Data → Option Image)
    (state : State Image) : Prop :=
  ∀ cell configuration, state.latest cell = some configuration →
    Follows storage decode state.downloads state.reads cell (state.cells cell) configuration

variable {firebase : Firebase} {storage : String → Option Data} {decode : Data → Option Image}
  {before after : State Image}

theorem following_initial : Following storage decode (initial : State Image) := by
  intro cell configuration last
  cases last

/-- Once no callback is pending, what the last configuration brought is all there is. -/
theorem Following.showsOwn (following : Following storage decode before) {cell : Nat}
    (idle : Idle before cell) {configuration : Configuration Image}
    (last : before.latest cell = some configuration) :
    ShowsOwn storage decode (before.cells cell) configuration := by
  have follows := following cell configuration last
  refine ⟨follows.image, ?_⟩
  cases answered : configuration.record with
  | none =>
      obtain ⟨read, found, own⟩ := follows.pending answered
      exact (idle.2 _ (InFlight.find_eq_some_iff.mp found) own).elim
  | some record => exact ⟨record, rfl, follows.heart record answered⟩

/-- Requests that are started later leave a configuration's own alone. -/
theorem Follows.start {downloads : InFlight Download} {reads : InFlight RecordRead} {cell : Nat}
    {shown : PostCell Image} {configuration : Configuration Image}
    (follows : Follows storage decode downloads reads cell shown configuration)
    (download : Option Download) (read : RecordRead) :
    Follows storage decode (download.elim downloads downloads.start) (reads.start read) cell shown
      configuration := by
  refine ⟨follows.image, follows.heart, fun waiting => ?_, fun ticket own => ?_⟩
  · obtain ⟨other, found, here⟩ := follows.pending waiting
    refine ⟨other, ?_, here⟩
    rw [InFlight.find_start, if_neg (Nat.ne_of_lt (InFlight.lt_issued_of_find found)), found]
  · obtain ⟨ungiven, earlier, asked⟩ := follows.asked ticket own
    cases download with
    | none => exact ⟨ungiven, earlier, asked⟩
    | some download =>
        refine ⟨ungiven, Nat.lt_succ_of_lt earlier, fun other found => asked other ?_⟩
        rwa [Option.elim_some, InFlight.find_start, if_neg (Nat.ne_of_lt earlier)] at found

/-- A configuration replaces the last one of its cell and has brought only the image it
was given. -/
theorem Following.configured (following : Following storage decode before) {cell : Nat}
    {object : PostObject} {keychain : Option String} {post : Post} {img : Option Image}
    {result : PostCell Image × Option String} (present : before.objects[object]? = some post)
    (showing : (before.cells cell).configureCell firebase keychain object post img = some result)
    (done : before.configured cell object img result = some after) :
    Following storage decode after := by
  obtain ⟨shown, download⟩ := result
  obtain ⟨ref, _, done⟩ := Option.bind_eq_some_iff.mp done
  cases done
  intro other configuration last
  by_cases same : other = cell
  · subst same
    simp only [Function.update_self] at last ⊢
    cases last
    refine ⟨?_, by simp, fun _ => ⟨⟨other, ref⟩, ?_, rfl⟩, ?_⟩
    · intro image given
      have given : img = some image := by simpa [Configuration.image] using given
      rcases PostCell.configureCell_image showing with ⟨_, was, shows, _⟩ | ⟨_, missing, _⟩
      · rw [shows, ← was, given]
      · rw [missing] at given
        cases given
    · rw [InFlight.find_start, if_pos rfl]
    · intro ticket own
      rcases PostCell.configureCell_image showing with ⟨_, _, _, rfl⟩ | ⟨url, rfl, _, stored, rfl⟩
      · cases own
      · cases own
        refine ⟨rfl, Nat.lt_succ_self _, fun asked found => ?_⟩
        simp only [InFlight.find_start, ↓reduceIte] at found
        cases found
        rw [present]
        exact stored
  · simp only [Function.update_of_ne same] at last ⊢
    have follows := following other configuration last
    cases download with
    | none => exact follows.start none ⟨cell, ref⟩
    | some url => exact follows.start (some ⟨cell, object, url⟩) ⟨cell, ref⟩

/-- A download that is answered is pending no more. -/
theorem Follows.finish {downloads : InFlight Download} {reads : InFlight RecordRead} {cell : Nat}
    {shown : PostCell Image} {configuration : Configuration Image}
    (follows : Follows storage decode downloads reads cell shown configuration) (ticket : Nat) :
    Follows storage decode (downloads.finish ticket) reads cell shown configuration := by
  refine ⟨follows.image, follows.heart, follows.pending, fun own started => ?_⟩
  obtain ⟨ungiven, earlier, asked⟩ := follows.asked own started
  exact ⟨ungiven, earlier, fun download found => asked download (InFlight.find_of_find_finish found).1⟩

/-- The image of a configuration after a download for its cell: the one at the address if the
download was its own and succeeded, and no other than before else. -/
theorem Follows.image_downloaded {downloads : InFlight Download} {reads : InFlight RecordRead}
    {cell ticket : Nat} {shown : PostCell Image} {configuration : Configuration Image}
    {download : Download} (failed : Bool)
    (follows : Follows storage decode downloads reads cell shown configuration)
    (found : downloads.find ticket = some download) :
    (configuration.downloaded ticket failed).image storage decode =
      if configuration.download = some ticket then
        if failed then none else imageAt storage decode download.url
      else configuration.image storage decode := by
  unfold Configuration.downloaded
  split
  · rename_i own
    obtain ⟨ungiven, _, asked⟩ := follows.asked ticket own
    simp only [Configuration.image, ungiven, asked download found, Option.none_or]
    cases failed <;> rfl
  · rfl

/-- The answer of a download notes nothing but whether it succeeded. -/
theorem Configuration.downloaded_eq (configuration : Configuration Image) (ticket : Nat)
    (failed : Bool) : ∃ succeeded,
      configuration.downloaded ticket failed = { configuration with succeeded := succeeded } := by
  unfold downloaded
  split
  · exact ⟨!failed, rfl⟩
  · exact ⟨configuration.succeeded, rfl⟩

/-- A download for a cell is answered: what the cell shows then has to be the image that the
configuration has by then. -/
theorem Follows.downloaded {downloads : InFlight Download} {reads : InFlight RecordRead}
    {cell ticket : Nat} {shown : PostCell Image} {configuration : Configuration Image}
    {failed : Bool} {image : Option Image}
    (follows : Follows storage decode downloads reads cell shown configuration)
    (shows : ∀ img, (configuration.downloaded ticket failed).image storage decode = some img →
      image = some img) :
    Follows storage decode (downloads.finish ticket) reads cell { shown with postImg := image }
      (configuration.downloaded ticket failed) := by
  have finished := follows.finish ticket
  obtain ⟨succeeded, same⟩ := configuration.downloaded_eq ticket failed
  rw [same] at shows ⊢
  exact ⟨shows, finished.heart, finished.pending, finished.asked⟩

/-- A download that brings an image in time is the last configuration's, comes before it,
or brings the same image. -/
theorem Following.downloaded (following : Following storage decode before) {ticket : Nat}
    {data : String → Option Data} {failed : Bool} (delivered : failed = false → data = storage)
    (inTime : failed = false → ∀ download ∈ before.downloads.find ticket,
      ∀ configuration ∈ before.latest download.cell, ∀ img ∈ imageAt storage decode download.url,
        configuration.download = some ticket ∨ configuration.image storage decode = none ∨
          configuration.image storage decode = some img)
    (done : before.downloaded decode ticket data failed = some after) :
    Following storage decode after := by
  obtain ⟨download, post, found, _, _, downloads, reads, latest, outcome⟩ :=
    State.downloaded_eq_some done
  intro other configuration last
  rw [reads, downloads]
  rw [latest] at last
  by_cases same : other = download.cell
  · subst same
    rw [Function.update_self] at last
    obtain ⟨previous, held, rfl⟩ := Option.map_eq_some_iff.mp last
    have follows := following _ previous held
    have image := follows.image_downloaded failed found
    rcases outcome with ⟨img, url, succeeded, decoded, _, _, cells⟩ | ⟨nothing, _, cells⟩
    · rw [delivered succeeded] at decoded
      rw [cells, Function.update_self]
      refine follows.downloaded fun brought expected => ?_
      rw [image, succeeded] at expected
      split at expected
      · exact decoded.symm.trans expected
      · rename_i earlier
        rcases inTime succeeded download found previous held img decoded with own | unset | equal
        · exact (earlier own).elim
        · rw [unset] at expected
          cases expected
        · exact equal.symm.trans expected
    · rw [cells]
      refine follows.downloaded fun brought expected => ?_
      rw [image] at expected
      split at expected
      · split at expected
        · cases expected
        · rename_i succeeded
          have undecodable := nothing.resolve_left succeeded
          rw [delivered (Bool.eq_false_of_not_eq_true succeeded)] at undecodable
          cases undecodable.symm.trans expected
      · exact follows.image brought expected
  · rw [Function.update_of_ne same] at last
    have finished := (following other configuration last).finish ticket
    rcases outcome with ⟨_, _, _, _, _, _, cells⟩ | ⟨_, _, cells⟩
    · rw [cells, Function.update_of_ne same]
      exact finished
    · rw [cells]
      exact finished

/-- A record read in time is the last configuration's, comes before it, or brings the same
icon. -/
theorem Follows.answered {downloads : InFlight Download} {reads : InFlight RecordRead}
    {cell ticket : Nat} {shown : PostCell Image} {configuration : Configuration Image}
    {snapshot : Node} (follows : Follows storage decode downloads reads cell shown configuration)
    (inTime : configuration.read = ticket ∨
      ∀ record ∈ configuration.record, (record.IsNull ↔ snapshot.IsNull)) :
    Follows storage decode downloads (reads.finish ticket) cell
      (shown.configureCellCallback snapshot) (configuration.answered ticket snapshot) := by
  unfold Configuration.answered
  split
  · refine ⟨follows.image, fun record brought => ?_, fun missing => ?_, follows.asked⟩
    · cases brought
      rfl
    · cases missing
  · rename_i earlier
    refine ⟨follows.image, fun record brought => ?_, fun waiting => ?_, follows.asked⟩
    · have alike := inTime.resolve_left earlier record brought
      simp only [PostCell.configureCellCallback, PostCell.heartIcon, alike]
    · obtain ⟨read, found, own⟩ := follows.pending waiting
      refine ⟨read, ?_, own⟩
      rw [InFlight.find_finish, if_neg earlier, found]

/-- A record read in time sets the icon of the cell's own post. -/
theorem Following.recordRead (following : Following storage decode before) {ticket : Nat}
    {snapshot : Node} (inTime : InTime storage decode before (.recordRead ticket snapshot))
    (step : (machine firebase storage decode).Step before (.recordRead ticket snapshot) after) :
    Following storage decode after := by
  obtain ⟨_, handled⟩ := step
  obtain ⟨read, found, handled⟩ := Option.bind_eq_some_iff.mp handled
  cases handled
  intro other configuration last
  by_cases same : other = read.cell
  · subst same
    simp only [Function.update_self] at last ⊢
    obtain ⟨previous, held, rfl⟩ := Option.map_eq_some_iff.mp last
    exact (following _ previous held).answered (inTime read found previous held)
  · simp only [Function.update_of_ne same] at last ⊢
    have follows := following other configuration last
    refine ⟨follows.image, follows.heart, fun waiting => ?_, follows.asked⟩
    obtain ⟨own, pending, here⟩ := follows.pending waiting
    refine ⟨own, ?_, here⟩
    -- The read just answered is that of another cell.
    have different : configuration.read ≠ ticket := by
      intro equal
      rw [equal, found] at pending
      cases pending
      exact same here.symm
    rw [InFlight.find_finish, if_neg different, pending]

/-- Every step in time leaves the cells showing their own posts. -/
theorem Following.step {action : Action Image} (following : Following storage decode before)
    (step : (machine firebase storage decode).Step before action after)
    (inTime : InTime storage decode before action) : Following storage decode after := by
  cases action with
  | recordRead ticket snapshot => exact following.recordRead inTime step
  | downloadSucceeded ticket =>
      exact following.downloaded (fun _ => rfl) (fun _ => inTime) (step_downloadSucceeded step)
  | downloadFailed ticket =>
      refine following.downloaded (fun succeeded => ?_) (fun succeeded => ?_)
        (step_downloadFailed step)
      · cases succeeded
      · cases succeeded
  | cellForRowAt keychain cell object =>
      obtain ⟨_, _, present, showing, done⟩ := step_cellForRowAt step
      exact following.configured present showing done
  | configureCell keychain cell object img =>
      obtain ⟨_, _, present, showing, done⟩ := step_configureCell step
      exact following.configured present showing done
  | initPost postKey postData =>
      cases step.2
      exact following
  | adjustLikes object addLike =>
      obtain ⟨post, _, handled⟩ := Option.bind_eq_some_iff.mp step.2
      obtain ⟨adjusted, _, handled⟩ := Option.bind_eq_some_iff.mp handled
      cases handled
      exact following
  | evict url =>
      cases step.2
      exact following

/-- No image is given to a cell but one from the cache. -/
def FromCache : Action Image → Prop
  | .configureCell _ _ _ (some _) => False
  | _ => True

instance : (action : Action Image) → Decidable (FromCache action)
  | .configureCell _ _ _ (some _) => .isFalse id
  | .configureCell _ _ _ none | .initPost _ _ | .adjustLikes _ _ | .cellForRowAt _ _ _
  | .downloadSucceeded _ | .downloadFailed _ | .recordRead _ _ | .evict _ => .isTrue trivial

/-- The image that each last configuration was given is the one at the address of its post. -/
def Given (storage : String → Option Data) (decode : Data → Option Image) (state : State Image) :
    Prop :=
  ∀ cell configuration, state.latest cell = some configuration → ∀ img,
    configuration.given = some img →
      configuration.imageUrl.bind (imageAt storage decode) = some img

theorem given_initial : Given storage decode (initial : State Image) := by
  intro cell configuration last
  cases last

/-- With images from the cache only, a configuration's image is the one at its address. -/
theorem Given.image_eq (given : Given storage decode before) {cell : Nat}
    {configuration : Configuration Image} (last : before.latest cell = some configuration)
    {img : Image} (image : configuration.image storage decode = some img) :
    configuration.imageUrl.bind (imageAt storage decode) = some img := by
  rcases Option.or_eq_some_iff.mp image with shown | ⟨_, downloaded⟩
  · exact given cell configuration last img shown
  · split at downloaded
    · exact downloaded
    · cases downloaded

/-- What is noted of an answer changes neither the address nor the image given. -/
theorem Given.noted (given : Given storage decode before) {cell : Nat}
    (note : Configuration Image → Configuration Image)
    (kept : ∀ configuration, (note configuration).given = configuration.given ∧
      (note configuration).imageUrl = configuration.imageUrl)
    (latest : after.latest = Function.update before.latest cell ((before.latest cell).map note)) :
    Given storage decode after := by
  intro other configuration last img shown
  rw [latest] at last
  by_cases same : other = cell
  · subst same
    rw [Function.update_self] at last
    obtain ⟨previous, held, rfl⟩ := Option.map_eq_some_iff.mp last
    rw [(kept previous).1] at shown
    rw [(kept previous).2]
    exact given other previous held img shown
  · rw [Function.update_of_ne same] at last
    exact given other configuration last img shown

/-- A configuration with an image from the cache was given the image at its address. -/
theorem Given.configured (given : Given storage decode before) {cell : Nat} {object : PostObject}
    {post : Post} {img : Option Image} {result : PostCell Image × Option String}
    (present : before.objects[object]? = some post)
    (own : ∀ image, img = some image → post.imageUrl.bind (imageAt storage decode) = some image)
    (done : before.configured cell object img result = some after) :
    Given storage decode after := by
  obtain ⟨ref, _, done⟩ := Option.bind_eq_some_iff.mp done
  cases done
  intro other configuration last image shown
  by_cases same : other = cell
  · subst same
    simp only [Function.update_self] at last
    cases last
    rw [present]
    exact own image shown
  · simp only [Function.update_of_ne same] at last
    exact given other configuration last image shown

/-- A download changes no image that was given. -/
theorem Given.downloaded (given : Given storage decode before) {ticket : Nat}
    {data : String → Option Data} {failed : Bool}
    (done : before.downloaded decode ticket data failed = some after) :
    Given storage decode after := by
  obtain ⟨_, _, _, _, _, _, _, latest, _⟩ := State.downloaded_eq_some done
  refine given.noted (·.downloaded ticket failed) (fun configuration => ?_) latest
  obtain ⟨succeeded, same⟩ := configuration.downloaded_eq ticket failed
  rw [same]
  exact ⟨rfl, rfl⟩

/-- Images that come from the cache are those at the addresses of their posts. -/
theorem Given.step {action : Action Image} (given : Given storage decode before)
    (cached : Cached storage decode before)
    (step : (machine firebase storage decode).Step before action after)
    (fromCache : FromCache action) : Given storage decode after := by
  cases action with
  | cellForRowAt keychain cell object =>
      obtain ⟨post, _, present, _, done⟩ := step_cellForRowAt step
      refine given.configured present (fun image hit => ?_) done
      obtain ⟨url, stored, entry⟩ := Option.bind_eq_some_iff.mp hit
      rw [stored]
      exact cached.entries url image entry
  | configureCell keychain cell object img =>
      obtain ⟨_, _, present, _, done⟩ := step_configureCell step
      cases img with
      | some image => exact fromCache.elim
      | none => exact given.configured present (fun image missing => by cases missing) done
  | downloadSucceeded ticket => exact given.downloaded (step_downloadSucceeded step)
  | downloadFailed ticket => exact given.downloaded (step_downloadFailed step)
  | recordRead ticket snapshot =>
      obtain ⟨read, _, handled⟩ := Option.bind_eq_some_iff.mp step.2
      cases handled
      refine given.noted (·.answered ticket snapshot) (fun configuration => ?_) rfl
      unfold Configuration.answered
      split <;> exact ⟨rfl, rfl⟩
  | initPost postKey postData =>
      cases step.2
      exact given
  | adjustLikes object addLike =>
      obtain ⟨post, _, handled⟩ := Option.bind_eq_some_iff.mp step.2
      obtain ⟨adjusted, _, handled⟩ := Option.bind_eq_some_iff.mp handled
      cases handled
      exact given
  | evict url =>
      cases step.2
      exact given

/-- **When a reused cell shows its own post.** In every run of configurations of any
cells with any posts, and answers to the downloads and reads they start in any order,
whose callbacks all come in time, every configured cell with no callback pending shows
the image its last configuration was given or, if its own download succeeded, the image at
the address of its post, and the heart of the record read for that configuration. If cells
are given images from the cache only, then in both cases it is the image at that address. -/
theorem reused_cell_shows_own (firebase : Firebase) (storage : String → Option Data)
    (decode : Data → Option Image) (actions : List (Action Image)) (finish : State Image)
    (run : (machine firebase storage decode).Run initial actions finish)
    (inTime : (machine firebase storage decode).Guarded (InTime storage decode) initial actions)
    (cell : Nat) (idle : Idle finish cell) (configuration : Configuration Image)
    (last : finish.latest cell = some configuration) :
    ShowsOwn storage decode (finish.cells cell) configuration ∧
      ((∀ action ∈ actions, FromCache action) → ∀ img,
        configuration.image storage decode = some img →
          configuration.imageUrl.bind (imageAt storage decode) = some img) := by
  have following : Following storage decode finish :=
    run.invariant_along inTime (fun _ _ _ held step fine => held.step step fine) following_initial
  refine ⟨following.showsOwn idle last, fun fromCache img image => ?_⟩
  have given : Cached storage decode finish ∧ Given storage decode finish :=
    run.invariant_along (Machine.Along.of_actions fromCache)
      (fun before _ _ (held : Cached storage decode before ∧ Given storage decode before) step
        fine => ⟨held.1.step step, held.2.step held.1 step fine⟩)
      ⟨cached_initial, given_initial⟩
  exact given.2.image_eq last image

section OneCell

/-- A record of the feed with an image of its own. -/
def pictured (imageUrl : String) : Node :=
  Node.ofFields [("caption", .string "A walk"), ("imageUrl", .string imageUrl),
    ("likes", .int 0), ("currentDonation", .int 0), ("donationGoal", .int 0),
    ("title", .string "Test")]

/-- A cell shows a first post and then a second, whose image and record arrive. The data
at an address is taken to be the image itself. -/
def reuse : List (Action String) :=
  [.initPost "run" (pictured "gs://run"), .initPost "walk" (pictured "gs://walk"),
    .cellForRowAt (some "ann") 0 0, .cellForRowAt (some "ann") 0 1]

/-- What the cell shows, and what its last configuration has brought. -/
def outline (state : State String) : Bool × Option String × Option (Option String × Option Bool) :=
  (decide (Idle state 0), (state.cells 0).postImg, (state.latest 0).map fun configuration =>
    (configuration.image some some, configuration.record.map fun record => decide record.IsNull))

/-- The second post is shown when its callbacks come last. -/
theorem second_post_last :
    ∃ finish configuration, (machine Firebase.byKey some some).execute initial
        (reuse ++ [.downloadSucceeded 0, .recordRead 0 (.leaf (.bool true)),
          .downloadSucceeded 1, .recordRead 1 .null]) = some finish ∧
      finish.latest 0 = some configuration ∧
      configuration.image some some = some "gs://walk" ∧
      ShowsOwn some some (finish.cells 0) configuration ∧
      configuration.imageUrl.bind (imageAt some some) = some "gs://walk" := by
  have reached : ((machine Firebase.byKey some some).execute initial
      (reuse ++ [.downloadSucceeded 0, .recordRead 0 (.leaf (.bool true)),
        .downloadSucceeded 1, .recordRead 1 .null])).map outline =
      some (true, some "gs://walk", some (some "gs://walk", some true)) := by
    decide
  obtain ⟨finish, executed, result⟩ := Option.map_eq_some_iff.mp reached
  obtain ⟨idle, result⟩ := Prod.mk.inj result
  obtain ⟨_, latest⟩ := Prod.mk.inj result
  obtain ⟨configuration, last, shape⟩ := Option.map_eq_some_iff.mp latest
  obtain ⟨image, _⟩ := Prod.mk.inj shape
  have shows := reused_cell_shows_own Firebase.byKey some some _ finish
    (Machine.run_of_execute executed) (Machine.guarded_of_respects (by decide)) 0
    (of_decide_eq_true idle) configuration last
  exact ⟨finish, configuration, executed, last, image, shows.1, shows.2 (by decide) _ image⟩

/-- The first post's download arrives last, and its image stays in a cell that shows the
second post. -/
theorem late_download_shows_other_image :
    ¬ ∀ (firebase : Firebase) (storage : String → Option String)
        (decode : String → Option String) (actions : List (Action String))
        (finish : State String),
      (machine firebase storage decode).Run initial actions finish →
      ∀ cell, Idle finish cell → ∀ configuration, finish.latest cell = some configuration →
        ShowsOwn storage decode (finish.cells cell) configuration := by
  intro all
  have reached : ((machine Firebase.byKey some some).execute initial
      (reuse ++ [.downloadSucceeded 1, .recordRead 1 .null, .recordRead 0 .null,
        .downloadSucceeded 0])).map outline =
      some (true, some "gs://run", some (some "gs://walk", some true)) := by
    decide
  obtain ⟨finish, executed, result⟩ := Option.map_eq_some_iff.mp reached
  obtain ⟨idle, result⟩ := Prod.mk.inj result
  obtain ⟨shown, latest⟩ := Prod.mk.inj result
  obtain ⟨configuration, last, shape⟩ := Option.map_eq_some_iff.mp latest
  obtain ⟨image, _⟩ := Prod.mk.inj shape
  have shows := all Firebase.byKey some some _ finish (Machine.run_of_execute executed) 0
    (of_decide_eq_true idle) configuration last
  exact absurd (shown.symm.trans (shows.image _ image)) (by decide)

end OneCell

end CellImages

end MyFundi
