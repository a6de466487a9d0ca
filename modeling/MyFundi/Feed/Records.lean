import MyFundi.View.Cells

/-!
# Fundraiser records

Two screens store fundraisers and one initializer decodes them. The dictionary of
`FeedVC` has every field the decoder expects, with the type it expects. The
dictionary of `FeedAddVC` has no title and a string as its goal, so a post decoded
from it lacks both, and no cell can show it (`record_roundTrips_iff`).
-/

namespace MyFundi

open Foundation

/-- The dictionary `FeedVC.postToFirebase` builds. -/
def FeedVC.post (captionField imgUrl : String) : List (String × Scalar) :=
  [("caption", .string captionField),
    ("imageUrl", .string imgUrl),
    ("likes", .int 0),
    ("currentDonation", .int 0),
    ("donationGoal", .int 0),
    ("title", .string "Test")]

/-- The write of `FeedVC.postToFirebase`, under the key `childByAutoId` generated. -/
def FeedVC.postToFirebase (key captionField imgUrl : String) : Write :=
  .setValue (DataService.refFundraisers.child key) (.ofFields (FeedVC.post captionField imgUrl))

/-- The dictionary `FeedAddVC` builds. -/
def FeedAddVC.post (titleTxt numOfRequest imgUrl : String) : List (String × Scalar) :=
  [("caption", .string titleTxt),
    ("imageUrl", .string imgUrl),
    ("likes", .int 0),
    ("currentDonation", .int 0),
    ("donationGoal", .string numOfRequest)]

/-- The record is written under the key as a whole. -/
def FeedAddVC.postToFirebase (key titleTxt numOfRequest imgUrl : String) : Write :=
  .setValue (DataService.refFundraisers.child key)
    (.ofFields (FeedAddVC.post titleTxt numOfRequest imgUrl))

/-- A record writer with the texts it was given. -/
inductive RecordWriter where
  | feedVC (captionField imgUrl : String)
  | feedAddVC (titleTxt numOfRequest imgUrl : String)

namespace RecordWriter

/-- The record each writer makes of its arguments. -/
def post : RecordWriter → List (String × Scalar)
  | feedVC captionField imgUrl => FeedVC.post captionField imgUrl
  | feedAddVC titleTxt numOfRequest imgUrl => FeedAddVC.post titleTxt numOfRequest imgUrl

/-- The write each writer issues. -/
def postToFirebase (key : String) : RecordWriter → Write
  | feedVC captionField imgUrl => FeedVC.postToFirebase key captionField imgUrl
  | feedAddVC titleTxt numOfRequest imgUrl =>
      FeedAddVC.postToFirebase key titleTxt numOfRequest imgUrl

/-- The post that the writer was given: the texts of its screen, the image address and its
own constants. `float` reads the text of a goal as a number. No caption is entered for
`FeedAddVC`. -/
def given (float : String → Option SwiftFloat) (key : String) : RecordWriter → Post
  | feedVC captionField imgUrl =>
      { postKey := key
        caption := some captionField
        imageUrl := some imgUrl
        likes := some 0
        currentDonation := some 0
        donationGoal := some 0
        title := some "Test" }
  | feedAddVC titleTxt numOfRequest imgUrl =>
      { postKey := key
        caption := none
        imageUrl := some imgUrl
        likes := some 0
        currentDonation := some 0
        donationGoal := float numOfRequest
        title := some titleTxt }

theorem post_keys_nodup (writer : RecordWriter) : (writer.post.map Prod.fst).Nodup := by
  cases writer with
  | feedVC captionField imgUrl =>
      change ["caption", "imageUrl", "likes", "currentDonation", "donationGoal", "title"].Nodup
      decide
  | feedAddVC titleTxt numOfRequest imgUrl =>
      change ["caption", "imageUrl", "likes", "currentDonation", "donationGoal"].Nodup
      decide

/-- Either writer writes its record under the new key, and nothing else. -/
theorem postToFirebase_eq (writer : RecordWriter) (key : String) :
    writer.postToFirebase key =
      .setValue (DataService.refFundraisers.child key) (.ofFields writer.post) := by
  cases writer <;> rfl

/-- The record a writer stored, read back from the database and decoded. -/
def readBack (firebase : Firebase) (database : Node) (key : String) (writer : RecordWriter) :
    Option Post :=
  (firebase.asDictionary ((applyWrites database [writer.postToFirebase key]).sub
    (DataService.refFundraisers.child key))).map (Post.init key)

/-- A stored record is delivered as it was written. -/
theorem readBack_eq (firebase : Firebase) (database : Node) (key : String)
    (writer : RecordWriter) :
    writer.readBack firebase database key = some (Post.init key (Node.ofFields writer.post)) := by
  have stored : (applyWrites database [writer.postToFirebase key]).sub
      (DataService.refFundraisers.child key) = Node.ofFields writer.post := by
    rw [postToFirebase_eq, applyWrites_cons, applyWrites_nil]
    exact Tree.sub_set_self database _ _
  have present : ¬ ((Node.ofFields writer.post).entry "caption").IsNull := by
    rw [Node.entry_ofFields writer.post_keys_nodup]
    cases writer <;> exact Tree.not_isNull_leaf _
  rw [readBack, stored, firebase.asDictionary_of_key present (by decide)]
  rfl

end RecordWriter

/-- A getter returns, and returns what the writer was given for the field. -/
def Returns {Field : Type} (getter given : Option Field) : Prop :=
  ∃ value, getter = some value ∧ ∀ entered ∈ given, value = entered

/-- Every getter of a post returns what was given for the field. -/
structure RoundTrips (given post : Post) : Prop where
  postKey : post.postKey = given.postKey
  caption : Returns post.caption given.caption
  imageUrl : Returns post.imageUrl given.imageUrl
  likes : Returns post.likes given.likes
  currentDonation : Returns post.currentDonation given.currentDonation
  donationGoal : Returns post.donationGoal given.donationGoal
  title : Returns post.title given.title

/-- Neither cell traps on the post, whatever the cell showed before. -/
def Showable (firebase : Firebase) (post : Post) : Prop :=
  (∀ (Image : Type) (cell : PostCell Image) (uid : String) (object : PostObject)
      (img : Option Image), (cell.configureCell firebase (some uid) object post img).isSome) ∧
    (ProfileHistoryCell.configureCell post).isSome

/-- A post that came back can be shown when its image is in the app's storage. -/
theorem RoundTrips.showable {firebase : Firebase} {given post : Post}
    (trips : RoundTrips given post)
    (stored : ∀ imageUrl ∈ post.imageUrl, firebase.isStorageURL imageUrl = true) :
    Showable firebase post := by
  obtain ⟨caption, hasCaption, _⟩ := trips.caption
  obtain ⟨imageUrl, hasImageUrl, _⟩ := trips.imageUrl
  obtain ⟨likes, hasLikes, _⟩ := trips.likes
  obtain ⟨donation, hasDonation, _⟩ := trips.currentDonation
  obtain ⟨goal, hasGoal, _⟩ := trips.donationGoal
  obtain ⟨title, hasTitle, _⟩ := trips.title
  have referred : firebase.referenceForURL imageUrl = some imageUrl :=
    firebase.referenceForURL_eq_some_iff.mpr ⟨stored imageUrl hasImageUrl, rfl⟩
  refine ⟨?_, ?_⟩
  · intro Image cell uid object img
    simp only [PostCell.configureCell, DataService.refUserCurrent_some, hasCaption, hasLikes,
      hasDonation, hasGoal, hasTitle, hasImageUrl, referred, Option.bind_eq_bind,
      Option.bind_some]
    cases img <;> rfl
  · simp only [ProfileHistoryCell.configureCell, hasTitle, hasGoal, Option.bind_eq_bind,
      Option.bind_some, Option.pure_def, Option.isSome_some]

/-- A cell without an image traps on an address outside the app's storage. -/
theorem Showable.isStorageURL {firebase : Firebase} {post : Post} (showable : Showable firebase post)
    {imageUrl : String} (has : post.imageUrl = some imageUrl) :
    firebase.isStorageURL imageUrl = true := by
  obtain ⟨⟨configured, download⟩, done⟩ :=
    Option.isSome_iff_exists.mp (showable.1 Unit {} "" 0 none)
  rw [← firebase.referenceForURL_isSome_iff]
  simp only [PostCell.configureCell, has, Option.bind_eq_bind, Option.bind_eq_some_iff] at done
  obtain ⟨_, _, _, _, _, _, _, _, _, _, _, _, _, same, ref, referred, _⟩ := done
  cases same
  exact Option.isSome_of_eq_some referred

/-- Each getter casts the scalar stored for its field. -/
theorem init_ofFields (writer : RecordWriter) (key : String) :
    Post.init key (Node.ofFields writer.post) =
      { postKey := key
        caption := (writer.post.lookup "caption").bind Scalar.asString
        imageUrl := (writer.post.lookup "imageUrl").bind Scalar.asString
        likes := (writer.post.lookup "likes").bind Scalar.asInt
        currentDonation := (writer.post.lookup "currentDonation").bind Scalar.asFloat
        donationGoal := (writer.post.lookup "donationGoal").bind Scalar.asFloat
        title := (writer.post.lookup "title").bind Scalar.asString } := by
  simp only [Post.init, Node.asString, Node.asInt, Node.asFloat,
    Node.value_entry_ofFields writer.post_keys_nodup]

/-- The records of the feed decode to what they were made of. -/
theorem init_feedVC (key captionField imgUrl : String) :
    Post.init key (Node.ofFields (FeedVC.post captionField imgUrl)) =
      { postKey := key, caption := some captionField, imageUrl := some imgUrl, likes := some 0
        currentDonation := some 0, donationGoal := some 0, title := some "Test" } :=
  init_ofFields (.feedVC captionField imgUrl) key

/-- The records of `FeedAddVC` decode with the title as caption, without a title, and without
the goal, which is stored as a text. -/
theorem init_feedAddVC (key titleTxt numOfRequest imgUrl : String) :
    Post.init key (Node.ofFields (FeedAddVC.post titleTxt numOfRequest imgUrl)) =
      { postKey := key, caption := some titleTxt, imageUrl := some imgUrl, likes := some 0
        currentDonation := some 0, donationGoal := none, title := none } :=
  init_ofFields (.feedAddVC titleTxt numOfRequest imgUrl) key

/-- The records of the feed come back whole. -/
theorem feedVC_roundTrips (float : String → Option SwiftFloat) (captionField imgUrl key : String) :
    RoundTrips ((RecordWriter.feedVC captionField imgUrl).given float key)
      (Post.init key (Node.ofFields (RecordWriter.feedVC captionField imgUrl).post)) := by
  rw [RecordWriter.post, init_feedVC]
  have same {Field : Type} (value : Field) : Returns (some value) (some value) :=
    ⟨value, rfl, fun _ entered => Option.some.inj entered⟩
  exact ⟨rfl, same _, same _, same _, same _, same _, same _⟩

/-- **When a record round-trips.** A record read back from any database has getters
that all return what its writer was given, and can be shown by both cells, exactly
when the feed wrote it with an image address of the app's storage. -/
theorem record_roundTrips_iff (firebase : Firebase) (float : String → Option SwiftFloat)
    (database : Node) (key : String) (writer : RecordWriter) :
    (∃ post, writer.readBack firebase database key = some post ∧
        RoundTrips (writer.given float key) post ∧ Showable firebase post) ↔
      ∃ captionField imgUrl, writer = .feedVC captionField imgUrl ∧
        firebase.isStorageURL imgUrl = true := by
  rw [RecordWriter.readBack_eq]
  constructor
  · rintro ⟨post, read, trips, showable⟩
    cases read
    cases writer with
    | feedVC captionField imgUrl =>
        refine ⟨captionField, imgUrl, rfl, showable.isStorageURL ?_⟩
        rw [RecordWriter.post, init_feedVC]
    | feedAddVC titleTxt numOfRequest imgUrl =>
        obtain ⟨goal, returned, _⟩ := trips.donationGoal
        rw [RecordWriter.post, init_feedAddVC] at returned
        cases returned
  · rintro ⟨captionField, imgUrl, rfl, stored⟩
    have trips := feedVC_roundTrips float captionField imgUrl key
    refine ⟨_, rfl, trips, trips.showable fun imageUrl has => ?_⟩
    rw [RecordWriter.post, init_feedVC] at has
    cases has
    exact stored

/-- A cell traps on a record of `FeedAddVC`. -/
theorem feedAddVC_record_traps :
    ¬ ∀ (firebase : Firebase) (float : String → Option SwiftFloat) (database : Node)
        (key : String) (writer : RecordWriter),
      ∃ post, writer.readBack firebase database key = some post ∧
        RoundTrips (writer.given float key) post ∧ Showable firebase post := by
  intro all
  obtain ⟨post, read, _, _, history⟩ :=
    all Firebase.byKey (fun _ => some 0) .null "walk" (.feedAddVC "A walk" "100" "gs://pic")
  rw [RecordWriter.readBack_eq] at read
  cases read
  rw [RecordWriter.post, init_feedAddVC] at history
  cases history

end MyFundi
