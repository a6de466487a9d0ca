import MyFundi.Feed.CellImages

/-!
# The image cache

A closure puts the image it downloaded under the address of the object it captured, and
that address is fixed when the object is created. The cache therefore only holds what
its addresses hold, whichever cells have been reused meanwhile (`cache_right`).
-/

namespace MyFundi

open Foundation

namespace CellImages

variable {Image Data : Type}

/-- What the cache needs of a step. Every entry is the image at its address; a download
that fails or brings no image changes nothing; and a row configured from the cache shows
the image at its post's address. -/
def CacheRight (storage : String → Option Data) (decode : Data → Option Image)
    (before : State Image) (action : Action Image) (after : State Image) : Prop :=
  (∀ url img, after.imageCache url = some img → imageAt storage decode url = some img) ∧
    match action with
    | .downloadFailed _ => after.imageCache = before.imageCache
    | .downloadSucceeded ticket => ∀ download ∈ before.downloads.find ticket,
        imageAt storage decode download.url = none → after.imageCache = before.imageCache
    | .cellForRowAt _ cell object => ∀ post ∈ before.objects[object]?, ∀ url ∈ post.imageUrl,
        (before.imageCache url).isSome →
          (after.cells cell).postImg = imageAt storage decode url
    | _ => True

/-- The object a download captured has the address that was asked for. -/
def Captured (objects : List Post) (download : Download) : Prop :=
  ∃ post, objects[download.object]? = some post ∧ post.imageUrl = some download.url

/-- New objects leave the download's own object as it was. -/
theorem Captured.append {objects : List Post} {download : Download}
    (captured : Captured objects download) (loaded : List Post) :
    Captured (objects ++ loaded) download := by
  obtain ⟨post, present, stored⟩ := captured
  refine ⟨post, ?_, stored⟩
  rw [List.getElem?_append_left (List.getElem?_eq_some_iff.mp present).1, present]

/-- An adjusted count leaves the address alone. -/
theorem Captured.adjustLikes {objects : List Post} {download : Download} {object : PostObject}
    {post adjusted : Post} {addLike : Bool} {write : Write}
    (captured : Captured objects download) (held : objects[object]? = some post)
    (adjusting : post.adjustLikes addLike = some (adjusted, write)) :
    Captured (objects.set object adjusted) download := by
  obtain ⟨other, present, stored⟩ := captured
  obtain ⟨likes, _, _, rfl, _⟩ := Post.adjustLikes_eq_some adjusting
  by_cases same : object = download.object
  · subst same
    rw [held] at present
    cases present
    refine ⟨_, List.getElem?_set_self (List.getElem?_eq_some_iff.mp held).1, stored⟩
  · exact ⟨other, by rw [List.getElem?_set_ne same, present], stored⟩

/-- What holds in every run: the cache holds what its addresses hold, and a download
asks for the address of the object it captured. -/
structure Cached (storage : String → Option Data) (decode : Data → Option Image)
    (state : State Image) : Prop where
  entries : ∀ url img, state.imageCache url = some img → imageAt storage decode url = some img
  captured : ∀ ticket download, state.downloads.find ticket = some download →
    Captured state.objects download

variable {firebase : Firebase} {storage : String → Option Data} {decode : Data → Option Image}
  {before after : State Image}

theorem cached_initial : Cached storage decode (initial : State Image) where
  entries := by
    intro url img entry
    cases entry
  captured := by
    intro ticket download found
    cases found

/-- A configuration starts at most a download of its post's image. -/
theorem Cached.configured (cached : Cached storage decode before) {cell : Nat}
    {object : PostObject} {keychain : Option String} {post : Post} {img : Option Image}
    {result : PostCell Image × Option String} (present : before.objects[object]? = some post)
    (showing : (before.cells cell).configureCell firebase keychain object post img = some result)
    (done : before.configured cell object img result = some after) :
    Cached storage decode after := by
  obtain ⟨ref, _, done⟩ := Option.bind_eq_some_iff.mp done
  cases done
  refine ⟨cached.entries, ?_⟩
  intro ticket download found
  rcases PostCell.configureCell_image showing with ⟨_, _, _, none⟩ | ⟨url, _, _, stored, asked⟩
  · rw [none] at found
    exact cached.captured ticket download found
  · rw [asked] at found
    simp only [InFlight.find_start] at found
    split at found
    · cases found
      exact ⟨post, present, stored⟩
    · exact cached.captured ticket download found

/-- An answered download changes the cache only by the image at the address it asked
for. -/
theorem Cached.downloaded (cached : Cached storage decode before) {ticket : Nat}
    {data : String → Option Data} {failed : Bool}
    (delivered : failed = false → data = storage)
    (done : before.downloaded decode ticket data failed = some after) :
    Cached storage decode after := by
  obtain ⟨download, post, found, present, objects, downloads, _, _, outcome⟩ :=
    State.downloaded_eq_some done
  refine ⟨?_, ?_⟩
  · intro url img entry
    rcases outcome with ⟨image, address, succeeded, decoded, stored, cache, _⟩ | ⟨_, cache, _⟩
    · obtain ⟨captured, same, asked⟩ := cached.captured ticket download found
      rw [present] at same
      cases same
      rw [stored] at asked
      cases asked
      rw [cache] at entry
      by_cases here : url = download.url
      · subst here
        rw [Function.update_self] at entry
        cases entry
        rw [delivered succeeded] at decoded
        exact decoded
      · rw [Function.update_of_ne here] at entry
        exact cached.entries url img entry
    · rw [cache] at entry
      exact cached.entries url img entry
  · intro other waiting still
    rw [downloads] at still
    rw [objects]
    exact cached.captured other waiting (InFlight.find_of_find_finish still).1

/-- Every step leaves in the cache only images of their addresses. -/
theorem Cached.step {action : Action Image} (cached : Cached storage decode before)
    (step : (machine firebase storage decode).Step before action after) :
    Cached storage decode after := by
  cases action with
  | initPost postKey postData =>
      cases step.2
      refine ⟨cached.entries, ?_⟩
      intro ticket download found
      exact (cached.captured ticket download found).append _
  | adjustLikes object addLike =>
      obtain ⟨post, present, handled⟩ := Option.bind_eq_some_iff.mp step.2
      obtain ⟨⟨adjusted, write⟩, adjusting, handled⟩ := Option.bind_eq_some_iff.mp handled
      cases handled
      refine ⟨cached.entries, ?_⟩
      intro ticket download found
      exact (cached.captured ticket download found).adjustLikes present adjusting
  | cellForRowAt keychain cell object =>
      obtain ⟨post, result, present, showing, done⟩ := step_cellForRowAt step
      exact cached.configured present showing done
  | configureCell keychain cell object img =>
      obtain ⟨post, result, present, showing, done⟩ := step_configureCell step
      exact cached.configured present showing done
  | downloadSucceeded ticket => exact cached.downloaded (fun _ => rfl) (step_downloadSucceeded step)
  | downloadFailed ticket =>
      apply cached.downloaded _ (step_downloadFailed step)
      intro succeeded
      cases succeeded
  | recordRead ticket snapshot =>
      obtain ⟨read, _, handled⟩ := Option.bind_eq_some_iff.mp step.2
      cases handled
      exact ⟨cached.entries, cached.captured⟩
  | evict url =>
      cases step.2
      refine ⟨?_, cached.captured⟩
      intro other img entry
      by_cases same : other = url
      · subst same
        simp only [Function.update_self] at entry
        cases entry
      · simp only [Function.update_of_ne same] at entry
        exact cached.entries other img entry

/-- A row configured from the cache shows the cached image. -/
theorem postImg_of_cellForRowAt {keychain : Option String} {cell : Nat} {object : PostObject}
    (step : (machine firebase storage decode).Step before (.cellForRowAt keychain cell object)
      after)
    {post : Post} (present : before.objects[object]? = some post) {url : String}
    (stored : post.imageUrl = some url) {img : Image} (entry : before.imageCache url = some img) :
    (after.cells cell).postImg = some img := by
  obtain ⟨found, result, same, showing, done⟩ := step_cellForRowAt step
  rw [present] at same
  cases same
  rw [stored, Option.bind_some, entry] at showing done
  obtain ⟨ref, _, done⟩ := Option.bind_eq_some_iff.mp done
  cases done
  simp only [Function.update_self]
  rcases PostCell.configureCell_image showing with ⟨image, given, shows, _⟩ | ⟨_, missing, _⟩
  · rw [shows, ← given]
  · cases missing

/-- What a step takes from the cache and puts into it is right. -/
theorem Cached.cacheRight {action : Action Image} (cached : Cached storage decode before)
    (step : (machine firebase storage decode).Step before action after) :
    CacheRight storage decode before action after := by
  refine ⟨(cached.step step).entries, ?_⟩
  cases action with
  | downloadFailed ticket =>
      obtain ⟨_, _, _, _, _, _, _, _, outcome⟩ :=
        State.downloaded_eq_some (step_downloadFailed step)
      rcases outcome with ⟨_, _, succeeded, _⟩ | ⟨_, cache, _⟩
      · cases succeeded
      · exact cache
  | downloadSucceeded ticket =>
      intro download found undecodable
      obtain ⟨other, _, same, _, _, _, _, _, outcome⟩ :=
        State.downloaded_eq_some (step_downloadSucceeded step)
      rw [found] at same
      cases same
      rcases outcome with ⟨img, _, _, decoded, _⟩ | ⟨_, cache, _⟩
      · rw [show (storage download.url).bind decode = none from undecodable] at decoded
        cases decoded
      · exact cache
  | cellForRowAt keychain cell object =>
      intro post present url stored hit
      obtain ⟨img, entry⟩ := Option.isSome_iff_exists.mp hit
      rw [postImg_of_cellForRowAt step present stored entry, cached.entries url img entry]
  | initPost _ _ | adjustLikes _ _ | configureCell _ _ _ _ | recordRead _ _ | evict _ => trivial

/-- **The cache agrees with the downloads.** Along every sequence of configurations of any
cells with any posts, answers to the downloads and reads they start in any order, and
evictions, every entry of the cache is the image at its address, a download that fails or
cannot be decoded changes no entry, and a row configured from the cache is given the image
its own download would give it. -/
theorem cache_right (firebase : Firebase) (storage : String → Option Data)
    (decode : Data → Option Image) (actions : List (Action Image)) :
    (machine firebase storage decode).Along (CacheRight storage decode) initial actions :=
  Machine.Along.of_invariant
    (fun _ _ _ cached step => ⟨Cached.cacheRight cached step, Cached.step cached step⟩)
    cached_initial

end CellImages

end MyFundi
