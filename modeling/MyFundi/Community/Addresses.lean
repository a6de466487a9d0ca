import MyFundi.Community.System

/-!
# Image addresses

The screens download the images at the addresses that fundraisers and users have, and the
reference a download starts with raises for an address outside the app's storage. The app
itself stores only addresses that uploads to its storage came back with: if those are what
the storage says they are, every image address that is stored or seen stays one of its own.
-/

namespace MyFundi.Community

open Foundation

variable {Device Image Data : Type}

/-- Where the image address of a fundraiser or of a user is stored. -/
def IsImageUrl : DatabaseReference → Prop
  | [node, _, field] => (node = "fundraisers" ∨ node = "users") ∧ field = "imageUrl"
  | _ => False

instance : (path : DatabaseReference) → Decidable (IsImageUrl path)
  | [] | [_] | [_, _] | _ :: _ :: _ :: _ :: _ => .isFalse id
  | [node, _, field] =>
      inferInstanceAs (Decidable ((node = "fundraisers" ∨ node = "users") ∧ field = "imageUrl"))

variable (firebase : Firebase)

/-- A text stored as an image address is one of the app's storage. -/
def StorageURL (path : DatabaseReference) (scalar : Scalar) : Prop :=
  IsImageUrl path → ∀ url ∈ scalar.asString, firebase.isStorageURL url = true

instance (path : DatabaseReference) (scalar : Scalar) : Decidable (StorageURL firebase path scalar) :=
  inferInstanceAs (Decidable (_ → ∀ _ ∈ _, _))

/-- Every image address in a database is one of the app's storage. -/
def Addressed (database : Node) : Prop :=
  database.Everywhere (StorageURL firebase)

instance (database : Node) : Decidable (Addressed firebase database) :=
  decidable_of_iff (∀ path ∈ database.support, ∀ scalar ∈ database.value path,
      StorageURL firebase path scalar)
    ⟨fun all path scalar stored => all path ((database.mem_support path).mpr
      (Option.isSome_of_eq_some stored)) scalar stored, fun all path _ scalar => all path scalar⟩

/-- The address that an upload came back with, if the action stores one. -/
def uploadedURL : Action Device Image → Option String
  | .publishing _ (.uploadSucceeded _ url _) => some url
  | .userWrite _ (.updateFirebaseProfileImage url) => some url
  | _ => none

/-- The image address that a deed stores. -/
def Deed.imageUrl : Deed → Option String
  | .publish _ _ imgUrl => some imgUrl
  | .user (.updateFirebaseProfileImage url) => some url
  | _ => none

variable {firebase}

/-- The image address of a fundraiser that is stored. -/
theorem Addressed.fundraiser {database : Node} (addressed : Addressed firebase database)
    {key imageUrl : String}
    (has : (Post.init key (database.sub (DataService.refFundraisers.child key))).imageUrl =
      some imageUrl) : firebase.isStorageURL imageUrl = true := by
  obtain ⟨scalar, stored, text⟩ := Option.bind_eq_some_iff.mp has
  exact addressed ["fundraisers", key, "imageUrl"] scalar stored ⟨Or.inl rfl, rfl⟩ imageUrl text

/-- The image address of a user that is stored. -/
theorem Addressed.user {database : Node} (addressed : Addressed firebase database)
    {owner imageUrl : String}
    (has : Node.asString (database.sub (UserChild.imageUrl.ref owner)) = some imageUrl) :
    firebase.isStorageURL imageUrl = true := by
  obtain ⟨scalar, stored, text⟩ := Option.bind_eq_some_iff.mp has
  rw [Tree.value_sub, List.append_nil] at stored
  exact addressed _ scalar stored ⟨Or.inr rfl, rfl⟩ imageUrl text

/-- A record that `FeedVC` publishes has its image address in one place. -/
theorem places_publish (key captionField : String) {imgUrl : String}
    (own : firebase.isStorageURL imgUrl = true) (owner : String) :
    (Deed.assignment owner (.publish key captionField imgUrl)).Places (StorageURL firebase) := by
  intro rest scalar stored image url text
  match rest with
  | [field] =>
      obtain ⟨_, rfl⟩ := image
      have value := Node.value_entry_ofFields
        (RecordWriter.post_keys_nodup (.feedVC captionField imgUrl)) "imageUrl"
      cases value.symm.trans stored
      cases text
      exact own
  | [] | _ :: _ :: _ => exact image.elim

/-- Only the image of a user is stored as an image address. -/
theorem places_user (owner : String) {write : UserWrite}
    (own : ∀ url ∈ Deed.imageUrl (.user write), firebase.isStorageURL url = true) :
    (UserWrite.assignment (owner, write)).Places (StorageURL firebase) := by
  cases write with
  | createFirebaseDBUser provider =>
      refine Tree.everywhere_leaf_iff.mpr fun image => ?_
      exact absurd image.2 (by decide)
  | updateFirebaseProfileName name =>
      refine Tree.everywhere_leaf_iff.mpr fun image => ?_
      exact absurd image.2 (by decide)
  | updateFirebaseProfileImage imgUrl =>
      refine Tree.everywhere_leaf_iff.mpr fun _ url text => ?_
      cases text
      exact own imgUrl rfl
  | setLike postKey => exact Tree.everywhere_leaf_iff.mpr fun image => image.elim
  | removeLike postKey => exact Tree.Everywhere.null

/-- A deed places the addresses of its uploads and no other. -/
theorem Deed.places {deed : Deed}
    (own : ∀ url ∈ deed.imageUrl, firebase.isStorageURL url = true) (owner : String) :
    (deed.assignment owner).Places (StorageURL firebase) := by
  cases deed with
  | count postKey likes =>
      refine Tree.everywhere_leaf_iff.mpr fun image => ?_
      exact absurd image.2 (by decide)
  | publish key captionField imgUrl => exact places_publish key captionField (own imgUrl rfl) owner
  | user write => exact places_user owner own

/-- Deeds with addresses of the storage leave only such addresses. -/
theorem everywhere_perform {uid : Device → String} {replica : Replica Device String Scalar}
    (all : replica.Everywhere (StorageURL firebase)) {device : Device} {deeds : List Deed}
    (own : ∀ deed ∈ deeds, ∀ url ∈ deed.imageUrl, firebase.isStorageURL url = true) :
    (perform uid replica device deeds).Everywhere (StorageURL firebase) := by
  refine all.issue fun batch member write inside => ?_
  obtain ⟨deed, performed, rfl⟩ := List.mem_map.mp member
  cases List.mem_singleton.mp inside
  exact deed.places (own deed performed) (uid device)

variable [DecidableEq Device] {uid : Device → String} {jpeg : Image → Option Data}
  {placeholder : Option Image} {before after : State Device Image Data}

/-- **No image address leaves the storage**, along every step that stores addresses of
uploads. -/
theorem addressed_step {action : Action Device Image}
    (all : before.likes.replica.Everywhere (StorageURL firebase))
    (traffic : Traffic uid before after action)
    (own : ∀ url ∈ uploadedURL action, firebase.isStorageURL url = true) :
    after.likes.replica.Everywhere (StorageURL firebase) := by
  cases traffic with
  | like given object held checked performed records =>
      rw [performed]
      refine everywhere_perform all fun deed member url stores => ?_
      rcases List.mem_pair.mp member with rfl | rfl
      · cases stores
      · split at stores <;> cases stores
  | publish fresh unused performed records =>
      rw [performed]
      exact everywhere_perform all (List.forall_mem_singleton.mpr own)
  | @user _ write profile performed records =>
      rw [performed]
      refine everywhere_perform all (List.forall_mem_singleton.mpr ?_)
      cases write <;> exact own
  | serve serves records => exact all.serves serves
  | quiet silent same records =>
      rw [same]
      exact all

omit [DecidableEq Device] in
theorem addressed_initial {database : Node} (addressed : Addressed firebase database) :
    (Likes.initial database : Likes.State Device Image).replica.Everywhere (StorageURL firebase) :=
  ⟨addressed, fun _ member => by cases member⟩

end MyFundi.Community
