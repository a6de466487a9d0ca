import MyFundi.Model.Post

/-!
# Table cells

`Post` is a class, so a cell shares its post object with the feed that created it.
Objects are named by their position in the order of creation; functions that use a
cell's post are given the object's current contents.
-/

namespace MyFundi

open Foundation

/-- The name of a `Post` object. -/
abbrev PostObject := Nat

/-- The two images of the heart. -/
inductive HeartIcon where
  | emptyHeart
  | filledHeart
  deriving DecidableEq

/-- A reusable cell of the feed. Nothing is set before its first configuration. -/
structure PostCell (Image : Type) where
  post : Option PostObject := none
  likesRef : Option DatabaseReference := none
  caption : Option String := none
  likesLbl : Option Int := none
  currentDonationLbl : Option SwiftFloat := none
  donationGoalLbl : Option SwiftFloat := none
  fundraiserLbl : Option String := none
  postImg : Option Image := none
  likeImage : Option HeartIcon := none

namespace PostCell

variable {Image : Type} (firebase : Firebase)

/-- Show a post. The second result is the address of the image download started
when no image was given; the reference for it raises unless the address is one of the
app's storage. A read of the new `likesRef` is started as well. -/
def configureCell (cell : PostCell Image) (keychain : Option String) (object : PostObject)
    (post : Post) (img : Option Image) : Option (PostCell Image × Option String) := do
  let user ← DataService.refUserCurrent keychain
  let caption ← post.caption
  let likes ← post.likes
  let currentDonation ← post.currentDonation
  let donationGoal ← post.donationGoal
  let title ← post.title
  let configured : PostCell Image :=
    { cell with
      post := some object
      likesRef := some ((user.child "likes").child post.postKey)
      caption := some caption
      likesLbl := some likes
      currentDonationLbl := some currentDonation
      donationGoalLbl := some donationGoal
      fundraiserLbl := some title }
  match img with
  | some img => return ({ configured with postImg := some img }, none)
  | none =>
      let imageUrl ← post.imageUrl
      let ref ← firebase.referenceForURL imageUrl
      return (configured, some ref)

variable {firebase}

/-- A configured cell shows the given object and refers to the current user's like
record for it. -/
theorem configureCell_eq_some {cell configured : PostCell Image} {keychain : Option String}
    {object : PostObject} {post : Post} {img : Option Image} {download : Option String}
    (done : cell.configureCell firebase keychain object post img = some (configured, download)) :
    ∃ user, DataService.refUserCurrent keychain = some user ∧ configured.post = some object ∧
      configured.likesRef = some ((user.child "likes").child post.postKey) := by
  simp only [configureCell, Option.bind_eq_bind, Option.bind_eq_some_iff] at done
  obtain ⟨user, current, caption, _, likes, _, donation, _, goal, _, title, _, done⟩ := done
  refine ⟨user, current, ?_⟩
  cases img with
  | some img =>
      cases done
      exact ⟨rfl, rfl⟩
  | none =>
      obtain ⟨imageUrl, _, done⟩ := Option.bind_eq_some_iff.mp done
      obtain ⟨ref, _, done⟩ := Option.bind_eq_some_iff.mp done
      cases done
      exact ⟨rfl, rfl⟩

/-- A given image is shown at once; without one the post's image is downloaded and
the cell keeps the image it had. -/
theorem configureCell_image {cell configured : PostCell Image} {keychain : Option String}
    {object : PostObject} {post : Post} {img : Option Image} {download : Option String}
    (done : cell.configureCell firebase keychain object post img = some (configured, download)) :
    (∃ image, img = some image ∧ configured.postImg = some image ∧ download = none) ∨
      ∃ imageUrl, img = none ∧ configured.postImg = cell.postImg ∧
        post.imageUrl = some imageUrl ∧ download = some imageUrl := by
  simp only [configureCell, Option.bind_eq_bind, Option.bind_eq_some_iff] at done
  obtain ⟨user, current, caption, _, likes, _, donation, _, goal, _, title, _, done⟩ := done
  cases img with
  | some image =>
      cases done
      exact Or.inl ⟨image, rfl, rfl, rfl⟩
  | none =>
      obtain ⟨imageUrl, stored, done⟩ := Option.bind_eq_some_iff.mp done
      obtain ⟨ref, referred, done⟩ := Option.bind_eq_some_iff.mp done
      obtain ⟨_, same⟩ := firebase.referenceForURL_eq_some_iff.mp referred
      cases done
      exact Or.inr ⟨imageUrl, rfl, rfl, stored, congrArg some same⟩

/-- The completion of the download `configureCell` starts. It writes to the cell whatever
the cell shows by then. The second result is the entry put in the image cache. -/
def getDataCompletion {Data : Type} (decode : Data → Option Image) (cell : PostCell Image)
    (post : Post) (data : Option Data) (failed : Bool) :
    Option (PostCell Image × Option (String × Image)) :=
  if failed then some (cell, none)
  else
    match data.bind decode with
    | some img => do
        let imageUrl ← post.imageUrl
        return ({ cell with postImg := some img }, some (imageUrl, img))
    | none => some (cell, none)

/-- The icon for a like record. -/
def heartIcon (snapshot : Node) : HeartIcon :=
  if snapshot.IsNull then .emptyHeart else .filledHeart

/-- The callback of the read `configureCell` starts. -/
def configureCellCallback (cell : PostCell Image) (snapshot : Node) : PostCell Image :=
  { cell with likeImage := some (heartIcon snapshot) }

/-- The single-event read a tap on the heart starts. -/
def likeTapped (cell : PostCell Image) : Option DatabaseReference :=
  cell.likesRef

/-- The callback of that read. It uses the cell's post and reference as they are
when the answer arrives. -/
def likeTappedCallback (cell : PostCell Image) (post : Post) (snapshot : Node) :
    Option (PostCell Image × Post × List Write) := do
  let likesRef ← cell.likesRef
  if snapshot.IsNull then
    let (adjusted, count) ← post.adjustLikes true
    return ({ cell with likeImage := some .filledHeart }, adjusted,
      [count, .setValue likesRef (.leaf (.bool true))])
  else
    let (adjusted, count) ← post.adjustLikes false
    return ({ cell with likeImage := some .emptyHeart }, adjusted,
      [count, .removeValue likesRef])

/-- A callback keeps which post the cell shows, changes the post's count by one and
writes the new count and the record, adding on an empty answer and removing otherwise. -/
theorem likeTappedCallback_eq_some {cell shown : PostCell Image} {post adjusted : Post}
    {snapshot : Node} {writes : List Write}
    (done : cell.likeTappedCallback post snapshot = some (shown, adjusted, writes)) :
    shown.post = cell.post ∧ shown.likesRef = cell.likesRef ∧
      ∃ likesRef likes, cell.likesRef = some likesRef ∧ post.likes = some likes ∧
        checkedInt (if snapshot.IsNull then likes + 1 else likes - 1) =
          some (if snapshot.IsNull then likes + 1 else likes - 1) ∧
        adjusted.postKey = post.postKey ∧
        adjusted.likes = some (if snapshot.IsNull then likes + 1 else likes - 1) ∧
        writes = [.setValue (post.postRef.child "likes")
            (.leaf (.int (if snapshot.IsNull then likes + 1 else likes - 1))),
          if snapshot.IsNull then .setValue likesRef (.leaf (.bool true))
          else .removeValue likesRef] := by
  unfold likeTappedCallback at done
  obtain ⟨likesRef, current, done⟩ := Option.bind_eq_some_iff.mp done
  by_cases absent : snapshot.IsNull
  · simp only [absent, ↓reduceIte] at done ⊢
    obtain ⟨⟨changed, count⟩, adjusting, done⟩ := Option.bind_eq_some_iff.mp done
    obtain ⟨likes, held, checked, rfl, rfl⟩ := Post.adjustLikes_eq_some adjusting
    cases done
    exact ⟨rfl, rfl, likesRef, likes, current, held, checked, rfl, rfl, rfl⟩
  · simp only [absent, ↓reduceIte] at done ⊢
    obtain ⟨⟨changed, count⟩, adjusting, done⟩ := Option.bind_eq_some_iff.mp done
    obtain ⟨likes, held, checked, rfl, rfl⟩ := Post.adjustLikes_eq_some adjusting
    cases done
    exact ⟨rfl, rfl, likesRef, likes, current, held, checked, rfl, rfl, rfl⟩

/-- A callback returns if the new count is in the range of `Int`. -/
theorem likeTappedCallback_isSome {cell : PostCell Image} {post : Post} {snapshot : Node}
    {likesRef : DatabaseReference} {likes : Int} (refers : cell.likesRef = some likesRef)
    (counted : post.likes = some likes)
    (inRange : (checkedInt (if snapshot.IsNull then likes + 1 else likes - 1)).isSome) :
    (cell.likeTappedCallback post snapshot).isSome := by
  obtain ⟨adjusted, checked⟩ := Option.isSome_iff_exists.mp inRange
  by_cases absent : snapshot.IsNull
  · rw [if_pos absent] at checked
    simp [likeTappedCallback, Post.adjustLikes, refers, counted, absent, checked]
  · rw [if_neg absent] at checked
    simp [likeTappedCallback, Post.adjustLikes, refers, counted, absent, checked]

end PostCell

/-- A row of the profile history. -/
structure ProfileHistoryCell where
  titleLabel : String
  amountLabel : SwiftFloat
  dateLabel : String

/-- Show a fundraiser of the history. The date is a fixed text. -/
def ProfileHistoryCell.configureCell (post : Post) : Option ProfileHistoryCell := do
  let title ← post.title
  let donationGoal ← post.donationGoal
  return { titleLabel := title, amountLabel := donationGoal, dateLabel := "11/11/2011" }

end MyFundi
