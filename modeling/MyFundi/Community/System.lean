import MyFundi.Feed.LikeAgreement
import MyFundi.Feed.Publish
import MyFundi.Foundation.Replica

/-!
# The whole app on any number of devices

Every device shows the feed to its own user, who stays signed in, likes posts and publishes
new ones; other screens of the device write the user's name, image address and provider. The
outlets that the feed publishes with are taken to be connected. All writes of a device wait
in one queue, and reach the server some time after they were issued.
`Traffic` says once what a step can do to the database and the queues.
-/

namespace MyFundi

open Foundation

variable {Device Image Data : Type}

namespace Likes.State

/-- The database as a tree that the devices write to. -/
def replica (state : Likes.State Device Image) : Replica Device String Scalar where
  tree := state.database
  pending := state.inFlight.map fun entry => (entry.1, entry.2.assignments)

/-- The replica settles where the like system does. -/
theorem settled_replica (state : Likes.State Device Image) :
    state.replica.settled = state.settled := by
  unfold replica Replica.settled settled applyWrites
  rw [List.flatMap_map, List.flatMap_map]

variable [DecidableEq Device]

/-- A device sees the same of the replica. -/
theorem view_replica (state : Likes.State Device Image) (device : Device) :
    state.replica.view device = state.view device := by
  unfold replica Replica.view Replica.own view applyWrites
  rw [List.filter_map, List.flatMap_map, List.flatMap_map]
  rfl

/-- With all writes applied a device sees the database. -/
theorem view_of_applied {state : Likes.State Device Image} {device : Device}
    (applied : state.inFlight = []) : state.view device = state.database := by
  rw [view, applied]
  rfl

/-- A device issues writes. -/
def issue (state : Likes.State Device Image) (device : Device) (writes : List Write) :
    Likes.State Device Image :=
  state.notify { state with inFlight := state.inFlight ++ writes.map (device, ·) }

/-- Writes are issued to the replica as batches of assignments. -/
theorem replica_issue (state : Likes.State Device Image) (device : Device) (writes : List Write) :
    (state.issue device writes).replica =
      state.replica.issue device (writes.map Write.assignments) := by
  simp only [issue, notify, replica, Replica.issue, List.map_append, List.map_map,
    Function.comp_def]

end Likes.State

namespace Community

/-- The like system with the publishing form of every device. -/
structure State (Device Image Data : Type) where
  likes : Likes.State Device Image
  publishing : Device → Publishing.State Image Data

/-- The records a device has written, with their keys. -/
def State.records (state : State Device Image Data) (device : Device) : List (String × Write) :=
  (state.publishing device).records

/-- What a device can do: an action of the feed, of the publishing form, or a write of its
profile to its user's node. -/
inductive Action (Device Image : Type) where
  | likes (action : Likes.Action Device Image)
  | publishing (device : Device) (action : Publishing.Action Image)
  | userWrite (device : Device) (write : UserWrite)

/-- A path in the part of the database that belongs to a fundraiser: its record, or a like
record for it. -/
def Concerns (key : String) (path : List String) : Prop :=
  path.take 2 = ["fundraisers", key] ∨
    path.head? = some "users" ∧ (path.drop 2).take 2 = ["likes", key]

instance (key : String) (path : List String) : Decidable (Concerns key path) :=
  inferInstanceAs (Decidable (_ ∨ _ ∧ _))

/-- `childByAutoId` generates a key that no fundraiser and no like record uses, neither
stored nor in flight. The map `users/u/fundraisers`, which the app only reads, is not looked
at: it may name a key before the fundraiser is published. -/
def NewKey (state : Likes.State Device Image) (key : String) : Prop :=
  (∀ path ∈ state.database.support, ¬ Concerns key path) ∧
    ∀ entry ∈ state.inFlight, ∀ assignment ∈ entry.2.assignments, ¬ Concerns key assignment.path

instance (state : Likes.State Device Image) (key : String) : Decidable (NewKey state key) :=
  inferInstanceAs (Decidable ((∀ path ∈ _, _) ∧ ∀ entry ∈ _, ∀ assignment ∈ _, _))

/-- The key an action generates is new. -/
def GeneratesNew (state : Likes.State Device Image) : Publishing.Action Image → Prop
  | .uploadSucceeded _ _ key => NewKey state key
  | _ => True

instance (state : Likes.State Device Image) :
    (action : Publishing.Action Image) → Decidable (GeneratesNew state action)
  | .uploadSucceeded _ _ key => inferInstanceAs (Decidable (NewKey state key))
  | .editCaption _ | .pickImage _ | .postBtnTapped | .uploadFailed _ => .isTrue trivial

/-- A write of another screen; like records are written by the feed's cells only. -/
def OfProfile : UserWrite → Prop
  | .setLike _ | .removeLike _ => False
  | _ => True

instance : (write : UserWrite) → Decidable (OfProfile write)
  | .setLike _ | .removeLike _ => .isFalse id
  | .createFirebaseDBUser _ | .updateFirebaseProfileName _ | .updateFirebaseProfileImage _ =>
      .isTrue trivial

variable [DecidableEq Device]

/-- A feed and its form do what they can do alone; a key generated is new to the database. -/
def Enabled (state : State Device Image Data) : Action Device Image → Prop
  | .likes action => Likes.Enabled state.likes action
  | .publishing device action =>
      Publishing.Enabled (state.publishing device) action ∧ GeneratesNew state.likes action
  | .userWrite _ write => OfProfile write

instance (state : State Device Image Data) :
    (action : Action Device Image) → Decidable (Enabled state action)
  | .likes action => inferInstanceAs (Decidable (Likes.Enabled state.likes action))
  | .publishing _ _ => inferInstanceAs (Decidable (_ ∧ _))
  | .userWrite _ write => inferInstanceAs (Decidable (OfProfile write))

variable (firebase : Firebase) (uid : Device → String) (jpeg : Image → Option Data)
  (placeholder : Option Image)

/-- A record written on a device is issued to the database. -/
def handle (state : State Device Image Data) :
    Action Device Image → Option (State Device Image Data)
  | .likes action => do
      let likes ← Likes.handle firebase uid state.likes action
      return { state with likes := likes }
  | .publishing device action => do
      let form ← Publishing.handle jpeg placeholder (state.publishing device) action
      let recorded := form.records.drop (state.publishing device).records.length
      return {
        likes := state.likes.issue device (recorded.map Prod.snd)
        publishing := Function.update state.publishing device form }
  | .userWrite device write => do
      let issued ← write.issue (uid device)
      return { state with likes := state.likes.issue device [issued] }

/-- Any number of devices and the server. -/
def machine : Machine (State Device Image Data) (Action Device Image) where
  enabled := Enabled
  handle := handle firebase uid jpeg placeholder

/-- Devices that have just opened the feed. -/
def initial (database : Node) (forms : Device → FeedVC Image) : State Device Image Data where
  likes := Likes.initial database
  publishing := fun device => Publishing.initial (forms device)

/-- Two devices whose forms are empty. -/
def emptyForms (_ : Bool) : FeedVC Unit :=
  .cleared none

/-- A write of the app, by what it is for. -/
inductive Deed where
  | count (postKey : String) (likes : Int)
  | publish (key captionField imgUrl : String)
  | user (write : UserWrite)

/-- The part of the database that a deed of a user replaces. -/
def Deed.assignment (uid : String) : Deed → Assignment String Scalar
  | .count postKey likes => ⟨likesCountRef postKey, .leaf (.int likes)⟩
  | .publish key captionField imgUrl =>
      ⟨DataService.refFundraisers.child key, Node.ofFields (FeedVC.post captionField imgUrl)⟩
  | .user write => UserWrite.assignment (uid, write)

/-- The deeds of a like or of its removal, when the count was `likes`. -/
def likeDeeds (postKey : String) (likes : Int) (add : Bool) : List Deed :=
  [.count postKey (if add then likes + 1 else likes - 1),
    .user (if add then .setLike postKey else .removeLike postKey)]

/-- A user performs deeds, one write each. -/
def perform (uid : Device → String) (replica : Replica Device String Scalar) (device : Device)
    (deeds : List Deed) : Replica Device String Scalar :=
  replica.issue device (deeds.map fun deed => [deed.assignment (uid device)])

variable {firebase uid jpeg placeholder}

instance (state : State Device Image Data) (action : Action Device Image) :
    Decidable ((machine firebase uid jpeg placeholder).enabled state action) :=
  inferInstanceAs (Decidable (Enabled state action))

/-- The writes of a like are its two deeds, and the record is written as the user's own. -/
theorem likeWrites_deeds (owner postKey : String) (likes : Int) (add : Bool) :
    (likeWrites owner postKey likes add).map Write.assignments =
      (likeDeeds postKey likes add).map fun deed => [deed.assignment owner] := by
  obtain ⟨record, issued, writes⟩ := issue_likeRecord owner postKey likes add
  obtain ⟨other, same, assigned⟩ := UserWrite.issue_assignments owner
    (if add then .setLike postKey else .removeLike postKey)
  cases issued.symm.trans same
  rw [writes, List.map_cons, List.map_singleton, assigned]
  rfl

/-- The action issues no write and has none applied. -/
def Silent : Action Device Image → Prop
  | .likes (.callback _ _) | .likes (.serve _) => False
  | .publishing _ (.uploadSucceeded _ _ _) => False
  | .userWrite _ _ => False
  | _ => True

/-- What a step does to the database, to the writes in flight and to the records written. -/
inductive Traffic (uid : Device → String) (before after : State Device Image Data) :
    Action Device Image → Prop where
  | like {device : Device} {index : Nat} {snapshot : Node} {post : Post} {likes : Int}
      (given : (before.likes.clients device).pendingLike index = some (snapshot, post))
      (object : post ∈ (before.likes.clients device).objects)
      (held : post.likes = some likes)
      (checked : checkedInt (if snapshot.IsNull then likes + 1 else likes - 1) =
        some (if snapshot.IsNull then likes + 1 else likes - 1))
      (performed : after.likes.replica = perform uid before.likes.replica device
        (likeDeeds post.postKey likes snapshot.IsNull))
      (records : after.records = before.records) :
      Traffic uid before after (.likes (.callback device index))
  | publish {device : Device} {ticket : Nat} {url key : String}
      (fresh : NewKey before.likes key) (unused : key ∉ (before.records device).map Prod.fst)
      (performed : after.likes.replica = perform uid before.likes.replica device
        [.publish key (before.publishing device).vc.captionField url])
      (records : after.records = Function.update before.records device (before.records device ++
        [(key, FeedVC.postToFirebase key (before.publishing device).vc.captionField url)])) :
      Traffic uid before after (.publishing device (.uploadSucceeded ticket url key))
  | user {device : Device} {write : UserWrite} (profile : OfProfile write)
      (performed : after.likes.replica =
        perform uid before.likes.replica device [.user write])
      (records : after.records = before.records) :
      Traffic uid before after (.userWrite device write)
  | serve {device : Device} {batch : List (Assignment String Scalar)}
      (serves : Replica.Serves device batch before.likes.replica after.likes.replica)
      (records : after.records = before.records) :
      Traffic uid before after (.likes (.serve device))
  | quiet {action : Action Device Image} (silent : Silent action)
      (same : after.likes.replica = before.likes.replica)
      (records : after.records = before.records) : Traffic uid before after action

variable {before after : State Device Image Data}

/-- An action of the feed is a step of the like system. -/
theorem step_likes {action : Likes.Action Device Image}
    (step : (machine firebase uid jpeg placeholder).Step before (.likes action) after) :
    (Likes.machine firebase uid).Step before.likes action after.likes ∧
      after.publishing = before.publishing := by
  obtain ⟨enabled, handled⟩ := step
  obtain ⟨likes, done, handled⟩ := Option.bind_eq_some_iff.mp handled
  cases handled
  exact ⟨⟨enabled, done⟩, rfl⟩

/-- An action of the form is a step of the form, whose records are written. -/
theorem step_publishing {device : Device} {action : Publishing.Action Image}
    (step : (machine firebase uid jpeg placeholder).Step before (.publishing device action) after) :
    ∃ form, (Publishing.machine jpeg placeholder).Step (before.publishing device) action form ∧
      GeneratesNew before.likes action ∧
      after.publishing = Function.update before.publishing device form ∧
      after.likes = before.likes.issue device
        ((form.records.drop (before.publishing device).records.length).map Prod.snd) := by
  obtain ⟨⟨enabled, fresh⟩, handled⟩ := step
  obtain ⟨form, done, handled⟩ := Option.bind_eq_some_iff.mp handled
  cases handled
  exact ⟨form, ⟨enabled, done⟩, fresh, rfl, rfl⟩

/-- A write of the profile is issued as one assignment to its user's child. -/
theorem step_userWrite {device : Device} {write : UserWrite}
    (step : (machine firebase uid jpeg placeholder).Step before (.userWrite device write) after) :
    OfProfile write ∧ after.publishing = before.publishing ∧ ∃ issued,
      issued.assignments = [UserWrite.assignment (uid device, write)] ∧
      after.likes = before.likes.issue device [issued] := by
  obtain ⟨profile, handled⟩ := step
  obtain ⟨issued, done, handled⟩ := Option.bind_eq_some_iff.mp handled
  cases handled
  obtain ⟨other, same, assigned⟩ := UserWrite.issue_assignments (uid device) write
  cases done.symm.trans same
  exact ⟨profile, rfl, issued, assigned, rfl⟩

/-- A step of the app is a step of the feeds, or issues writes on one device. -/
theorem step_cases {action : Action Device Image}
    (step : (machine firebase uid jpeg placeholder).Step before action after) :
    (∃ inner, action = .likes inner ∧
        (Likes.machine firebase uid).Step before.likes inner after.likes) ∨
      ∃ device writes, after.likes = before.likes.issue device writes := by
  cases action with
  | likes inner => exact Or.inl ⟨inner, rfl, (step_likes step).1⟩
  | publishing device action =>
      obtain ⟨form, _, _, _, same⟩ := step_publishing step
      exact Or.inr ⟨device, _, same⟩
  | userWrite device write =>
      obtain ⟨_, _, issued, _, same⟩ := step_userWrite step
      exact Or.inr ⟨device, _, same⟩

/-- The server applies a batch of the replica. -/
theorem serves_of_step {device : Device} {before after : Likes.State Device Image}
    (step : (Likes.machine firebase uid).Step before (.serve device) after) :
    ∃ batch, Replica.Serves device batch before.replica after.replica := by
  obtain ⟨front, write, rest, first, others, database, inFlight⟩ := Likes.step_serve step
  refine ⟨write.assignments, front.map fun entry => (entry.1, entry.2.assignments),
    rest.map fun entry => (entry.1, entry.2.assignments), ?_, ?_, ?_, ?_⟩
  · simp only [Likes.State.replica, first, List.map_append, List.map_cons]
  · intro entry member
    obtain ⟨old, inside, rfl⟩ := List.mem_map.mp member
    exact others old inside
  · simp only [Likes.State.replica, database, applyWrites, List.flatMap_cons, List.flatMap_nil,
      List.append_nil]
  · simp only [Likes.State.replica, inFlight, List.map_append]

/-- Every step of the app issues the writes of a few deeds, has one write applied, or
leaves the database and the queues as they are. -/
theorem traffic {action : Action Device Image} (coherent : Likes.Coherent uid before.likes)
    (step : (machine firebase uid jpeg placeholder).Step before action after) :
    Traffic uid before after action := by
  have unwritten (same : after.publishing = before.publishing) : after.records = before.records :=
    funext fun device => congrArg Publishing.State.records (congrFun same device)
  cases action with
  | userWrite device write =>
      obtain ⟨profile, form, issued, assigned, same⟩ := step_userWrite step
      refine .user profile ?_ (unwritten form)
      rw [same, Likes.State.replica_issue, List.map_singleton, assigned]
      rfl
  | publishing device action =>
      obtain ⟨form, inner, fresh, publishing, same⟩ := step_publishing step
      by_cases success : ∃ ticket url key, action = .uploadSucceeded ticket url key
      · obtain ⟨ticket, url, key, rfl⟩ := success
        obtain ⟨upload, _, unused, rfl⟩ := Publishing.step_uploadSucceeded inner
        refine .publish fresh unused ?_ ?_
        · rw [same, Likes.State.replica_issue, List.drop_left]
          rfl
        · funext other
          rw [State.records, publishing]
          by_cases equal : other = device
          · subst equal
            rw [Function.update_self, Function.update_self]
            rfl
          · rw [Function.update_of_ne equal, Function.update_of_ne equal]
            rfl
      · push Not at success
        have none := (Publishing.step_other inner success).2
        refine .quiet ?_ ?_ ?_
        · cases action with
          | uploadSucceeded ticket url key => exact (success ticket url key rfl).elim
          | _ => trivial
        · rw [same, Likes.State.replica_issue, none, List.drop_length]
          simp only [List.map_nil, Replica.issue, List.append_nil]
        · funext other
          rw [State.records, publishing]
          by_cases equal : other = device
          · subst equal
            rw [Function.update_self]
            exact none
          · rw [Function.update_of_ne equal]
            rfl
  | likes action =>
      obtain ⟨inner, forms⟩ := step_likes step
      have records := unwritten forms
      cases action with
      | serve device =>
          obtain ⟨batch, serves⟩ := serves_of_step inner
          exact .serve serves records
      | callback device index =>
          obtain ⟨read, snapshot, object, post, likes, pending, held, present, counted, checked,
            database, issued⟩ := Likes.step_callback coherent inner
          refine Traffic.like ?_ (List.mem_of_getElem? present) counted checked ?_ records
          · simp only [Likes.Client.pendingLike, pending, held, present, Option.bind_eq_bind,
              Option.bind_some, Option.pure_def]
          · unfold perform Replica.issue Likes.State.replica
            rw [← likeWrites_deeds, issued, database, List.map_append, List.map_map, List.map_map]
            rfl
      | tap device cell =>
          obtain ⟨database, inFlight⟩ := Likes.step_other inner (by simp) (by simp)
          exact .quiet trivial (by rw [Likes.State.replica, database, inFlight]; rfl) records
      | answer device index =>
          obtain ⟨database, inFlight⟩ := Likes.step_other inner (by simp) (by simp)
          exact .quiet trivial (by rw [Likes.State.replica, database, inFlight]; rfl) records
      | event device =>
          obtain ⟨database, inFlight⟩ := Likes.step_other inner (by simp) (by simp)
          exact .quiet trivial (by rw [Likes.State.replica, database, inFlight]; rfl) records
      | configure device cell row img =>
          obtain ⟨database, inFlight⟩ := Likes.step_other inner (by simp) (by simp)
          exact .quiet trivial (by rw [Likes.State.replica, database, inFlight]; rfl) records

end Community

end MyFundi
