import MyFundi.Feed.Posts
import MyFundi.Foundation.Machine
import MyFundi.Users.Writes
import MyFundi.View.Cells

/-!
# Likes on any number of devices

Every device shows the feed to its own user. A tap on a heart starts a read of the
user's like record; the callback of the answer changes the count of the post object
its cell holds and issues two writes, which the server applies some time later. A
device sees the database with its own unapplied writes on top, and is sent a
fundraisers event whenever what it sees of the fundraisers changes.
-/

namespace MyFundi

open Foundation

/-- Where a post's count is stored. -/
def likesCountRef (postKey : String) : DatabaseReference :=
  (DataService.refFundraisers.child postKey).child "likes"

/-- Where a user's like record for a post is stored. -/
def likeRecordRef (uid postKey : String) : DatabaseReference :=
  (UserChild.like postKey).ref uid

/-- A place where like data is stored. -/
inductive LikeData where
  | count (postKey : String)
  | record (uid postKey : String)

namespace LikeData

/-- Where like data is stored: with the fundraiser or with the user. -/
def ref : LikeData → DatabaseReference
  | count postKey => likesCountRef postKey
  | record uid postKey => likeRecordRef uid postKey

/-- Different like data is stored at places of which neither contains the other. -/
theorem ref_separate (left right : LikeData) :
    left = right ∨ Incomparable left.ref right.ref := by
  cases left with
  | count left =>
      cases right with
      | count right =>
          by_cases same : left = right
          · exact Or.inl (congrArg count same)
          · exact Or.inr (incomparable_append_cons ["fundraisers"] same ["likes"] ["likes"])
      | record uid right =>
          exact Or.inr (incomparable_append_cons [] (by decide) [left, "likes"]
            [uid, "likes", right])
  | record leftUid left =>
      cases right with
      | count right =>
          exact Or.inr (incomparable_append_cons [] (by decide) [leftUid, "likes", left]
            [right, "likes"])
      | record rightUid right =>
          rcases UserChild.ref_separate (leftUid, .like left) (rightUid, .like right) with
            same | apart
          · cases same
            exact Or.inl rfl
          · exact Or.inr apart

/-- A place tells what like data it holds. -/
theorem ref_injective {left right : LikeData} (same : left.ref = right.ref) : left = right := by
  rcases ref_separate left right with equal | apart
  · exact equal
  · exact (apart.1 (same ▸ List.prefix_rfl)).elim

end LikeData

/-- The two writes of a like (`add`) or of its removal. -/
def likeWrites (uid postKey : String) (likes : Int) (add : Bool) : List Write :=
  [.setValue (likesCountRef postKey) (.leaf (.int (if add then likes + 1 else likes - 1))),
    if add then .setValue (likeRecordRef uid postKey) (.leaf (.bool true))
    else .removeValue (likeRecordRef uid postKey)]

/-- The record of a like is written as `setLike` of the user's node, that of its removal as
`removeLike`. -/
theorem issue_likeRecord (uid postKey : String) (likes : Int) (add : Bool) :
    ∃ record, (if add then UserWrite.setLike postKey else .removeLike postKey).issue uid =
        some record ∧
      likeWrites uid postKey likes add = [.setValue (likesCountRef postKey)
        (.leaf (.int (if add then likes + 1 else likes - 1))), record] := by
  cases add <;> exact ⟨_, rfl, rfl⟩

/-- The cell for a row. The image comes from the cache, which is asked with the
post's image address. -/
def FeedVC.cellForRowAt {Image : Type} (firebase : Firebase) (cell : PostCell Image)
    (keychain : Option String) (object : PostObject) (post : Post) (img : Option Image) :
    Option (PostCell Image × Option String) := do
  let _ ← post.imageUrl
  cell.configureCell firebase keychain object post img

namespace Likes

variable {Device Image : Type}

/-- A read started by a tap: the cell, the reference read, and the key of the post
the cell showed. -/
structure Read where
  cell : Nat
  ref : DatabaseReference
  tapped : Option String

/-- One device: its post objects in the order of creation, the objects its feed lists,
its cells, the reads not yet answered, the answers whose callback has not run, and
the undelivered fundraisers events. -/
structure Client (Image : Type) where
  objects : List Post
  posts : List PostObject
  cells : Nat → PostCell Image
  reads : List Read
  callbacks : List (Read × Node)
  events : List Node

/-- The server's database, the devices, and the writes issued and not yet applied, in
the order in which they were issued. -/
structure State (Device Image : Type) where
  database : Node
  clients : Device → Client Image
  inFlight : List (Device × Write)

/-- What a user, the server and the table view can do on a device: tap a heart, answer a read,
run the callback of an answer, apply a write, deliver an event, configure a cell for a row. -/
inductive Action (Device Image : Type) where
  | tap (device : Device) (cell : Nat)
  | answer (device : Device) (index : Nat)
  | callback (device : Device) (index : Nat)
  | serve (device : Device)
  | event (device : Device)
  | configure (device : Device) (cell row : Nat) (img : Option Image)

namespace Client

/-- The key of the post a cell shows. -/
def shownKey (client : Client Image) (cell : Nat) : Option String :=
  (client.cells cell).post.bind fun object => client.objects[object]?.map Post.postKey

/-- The feed's observer: new objects for the posts of the snapshot. -/
def receive (firebase : Firebase) (client : Client Image) (snapshot : Node) : Client Image :=
  let loaded := FeedVC.loadedPosts firebase snapshot
  { client with
    objects := client.objects ++ loaded
    posts := (List.range loaded.length).map (client.objects.length + ·) }

/-- A tap starts the read of `likeTapped`. Nothing else changes until it is answered. -/
def tap (client : Client Image) (cell : Nat) : Option (Client Image) := do
  let ref ← (client.cells cell).likeTapped
  return { client with reads := client.reads ++ [⟨cell, ref, client.shownKey cell⟩] }

/-- A read is answered with what the device sees at that time; its callback waits. -/
def answer (client : Client Image) (view : Node) (index : Nat) : Option (Client Image) := do
  let read ← client.reads[index]?
  return { client with
    reads := client.reads.eraseIdx index
    callbacks := client.callbacks ++ [(read, view.sub read.ref)] }

/-- The callback of an answer runs, on the object its cell holds by now. -/
def callback (client : Client Image) (index : Nat) : Option (Client Image × List Write) := do
  let (read, snapshot) ← client.callbacks[index]?
  let object ← (client.cells read.cell).post
  let post ← client.objects[object]?
  let (shown, adjusted, writes) ← (client.cells read.cell).likeTappedCallback post snapshot
  return ({ client with
    objects := client.objects.set object adjusted
    cells := Function.update client.cells read.cell shown
    callbacks := client.callbacks.eraseIdx index }, writes)

/-- A cell is configured for a row of the feed, on the object listed there. -/
def configure (firebase : Firebase) (client : Client Image) (keychain : Option String)
    (cell row : Nat) (img : Option Image) : Option (Client Image) := do
  let object ← client.posts[row]?
  let post ← client.objects[object]?
  let (configured, _) ← FeedVC.cellForRowAt firebase (client.cells cell) keychain object post img
  return { client with cells := Function.update client.cells cell configured }

end Client

variable [DecidableEq Device]

namespace State

/-- What a device sees: the database with its own unapplied writes on top. -/
def view (state : State Device Image) (device : Device) : Node :=
  applyWrites state.database ((state.inFlight.filter (·.1 = device)).map Prod.snd)

/-- One device changes and no other. -/
def setClient (state : State Device Image) (device : Device) (client : Client Image) :
    State Device Image :=
  { state with clients := Function.update state.clients device client }

/-- Raise a fundraisers event on every device whose view of them changed. -/
def notify (before after : State Device Image) : State Device Image :=
  { after with
    clients := fun device =>
      let shown := (after.view device).sub DataService.refFundraisers
      if (before.view device).sub DataService.refFundraisers = shown then after.clients device
      else { after.clients device with events := (after.clients device).events ++ [shown] } }

end State

/-- Unapplied writes of a device reach the server in the order in which they were
issued. -/
def handle (firebase : Firebase) (uid : Device → String) (state : State Device Image) :
    Action Device Image → Option (State Device Image)
  | .tap device cell => do
      let client ← (state.clients device).tap cell
      return state.setClient device client
  | .answer device index => do
      let client ← (state.clients device).answer (state.view device) index
      return state.setClient device client
  | .callback device index => do
      let (client, writes) ← (state.clients device).callback index
      let issued := { state.setClient device client with
        inFlight := state.inFlight ++ writes.map fun write => (device, write) }
      return state.notify issued
  | .serve device =>
      match state.inFlight.find? (·.1 = device) with
      | some (_, write) =>
          some (state.notify { state with
            database := applyWrites state.database [write]
            inFlight := state.inFlight.eraseP (·.1 = device) })
      | none => none
  | .event device =>
      match (state.clients device).events with
      | [] => none
      | snapshot :: rest =>
          some (state.setClient device
            { (state.clients device).receive firebase snapshot with events := rest })
  | .configure device cell row img => do
      let client ← (state.clients device).configure firebase (some (uid device)) cell row img
      return state.setClient device client

/-- An action is possible on what it is about: a configured cell, a read not yet
answered, an answer whose callback has not run, an unapplied write, an undelivered
event, a listed row. -/
def Enabled (state : State Device Image) : Action Device Image → Prop
  | .tap device cell => ((state.clients device).cells cell).likesRef.isSome
  | .answer device index => index < (state.clients device).reads.length
  | .callback device index => index < (state.clients device).callbacks.length
  | .serve device => ∃ entry ∈ state.inFlight, entry.1 = device
  | .event device => (state.clients device).events ≠ []
  | .configure device _ row _ => row < (state.clients device).posts.length

instance (state : State Device Image) :
    (action : Action Device Image) → Decidable (Enabled state action)
  | .tap _ _ => inferInstanceAs (Decidable (_ = true))
  | .answer _ _ | .callback _ _ | .configure _ _ _ _ => inferInstanceAs (Decidable (_ < _))
  | .serve _ => inferInstanceAs (Decidable (∃ entry ∈ state.inFlight, _))
  | .event _ => inferInstanceAs (Decidable (_ ≠ []))

/-- The devices and the server: any of them takes the next step. -/
def machine (firebase : Firebase) (uid : Device → String) :
    Machine (State Device Image) (Action Device Image) where
  enabled := Enabled
  handle := handle firebase uid

/-- Devices that have just opened the feed: the first event is on its way. -/
def initial (database : Node) : State Device Image where
  database := database
  clients := fun _ => {
    objects := []
    posts := []
    cells := fun _ => {}
    reads := []
    callbacks := []
    events := [database.sub DataService.refFundraisers] }
  inFlight := []

end Likes

end MyFundi
