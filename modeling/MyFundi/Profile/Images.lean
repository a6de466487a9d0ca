import MyFundi.Foundation.InFlight
import MyFundi.Foundation.Machine
import MyFundi.Users.Writes

/-!
# Profile image uploads

A pick in the profile starts an upload, and the address is stored when the upload
succeeds, in the node of the user whom the keychain holds by then. Nothing stops an
upload at a sign-out or orders the uploads of one user. Every address reaches the user
who picked the image, and the last pick wins, in every run in which each upload
succeeds while its user is signed in and before any later pick of that user has
succeeded (`images_reach_their_users`).
-/

namespace MyFundi

open Foundation

/-- The image view and the upload a pick leaves. Without an edited image the image
shown before is uploaded again. -/
def ProfileVC.imagePickerController {Image Data : Type} (jpeg : Image → Option Data)
    (profileImage : Image) (editedImage : Option Image) : Image × Option Data :=
  let shown := editedImage.getD profileImage
  (shown, jpeg shown)

namespace ProfileImages

/-- An upload, with the user who was signed in at the pick. -/
structure Upload (Data : Type) where
  owner : String
  imgData : Data

/-- An upload that succeeded: the ticket of its pick, its user and its address. -/
structure Success where
  ticket : Nat
  owner : String
  url : String
  deriving DecidableEq

/-- The user signed in, who is both Firebase's current user and the uid in the
keychain; the uploads in flight; those that succeeded, in the order in which they did;
the address writes issued; the database; and whether a completion trapped. -/
structure State (Data : Type) where
  signedIn : Option String
  uploads : InFlight (Upload Data)
  succeeded : List Success
  writes : List Write
  database : Node
  trapped : Bool

/-- A pick is made in a profile that shows some image already. A success without a
download address counts as a failure: neither writes anything. -/
inductive Action (Image : Type) where
  | signIn (uid : String)
  | signOutTapped
  | pickImage (profileImage : Image) (editedImage : Option Image)
  | uploadSucceeded (ticket : Nat) (url : String)
  | uploadFailed (ticket : Nat)

variable {Image Data : Type} (jpeg : Image → Option Data)

/-- A success writes the address to the node of the user signed in by then, and traps if there
is none. -/
def handle (state : State Data) : Action Image → Option (State Data)
  | .signIn uid => some { state with signedIn := some uid }
  | .signOutTapped => some { state with signedIn := none }
  | .pickImage profileImage editedImage => do
      let owner ← state.signedIn
      match (ProfileVC.imagePickerController jpeg profileImage editedImage).2 with
      | some imgData =>
          return { state with
            uploads := state.uploads.start { owner := owner, imgData := imgData } }
      | none => return state
  | .uploadSucceeded ticket url => do
      let upload ← state.uploads.find ticket
      match ProfileVC.updateFirebaseProfileImage state.signedIn url with
      | some write =>
          return { state with
            uploads := state.uploads.finish ticket
            succeeded := state.succeeded ++ [⟨ticket, upload.owner, url⟩]
            writes := state.writes ++ [write]
            database := applyWrites state.database [write] }
      | none => return { state with trapped := true }
  | .uploadFailed ticket => some { state with uploads := state.uploads.finish ticket }

/-- Nothing happens after a trap; a pick needs a signed-in user, and an answer an
upload in flight. -/
def Enabled (state : State Data) (action : Action Image) : Prop :=
  state.trapped = false ∧
    match action with
    | .pickImage _ _ => state.signedIn.isSome
    | .uploadSucceeded ticket _ | .uploadFailed ticket => (state.uploads.find ticket).isSome
    | _ => True

instance (state : State Data) : (action : Action Image) → Decidable (Enabled state action)
  | .signIn _ | .signOutTapped => inferInstanceAs (Decidable (_ ∧ True))
  | .pickImage _ _ | .uploadSucceeded _ _ | .uploadFailed _ =>
      inferInstanceAs (Decidable (_ ∧ _ = true))

/-- The profile's uploads, with sign-ins and sign-outs in between. -/
def machine : Machine (State Data) (Action Image) where
  enabled := Enabled
  handle := handle jpeg

instance (state : State Data) (action : Action Image) :
    Decidable ((machine jpeg).enabled state action) :=
  inferInstanceAs (Decidable (Enabled state action))

/-- No pick has been made. -/
def initial (signedIn : Option String) (database : Node) : State Data where
  signedIn := signedIn
  uploads := .empty
  succeeded := []
  writes := []
  database := database
  trapped := false

/-- The write that stores the address of an upload in its user's node. -/
def Success.write (success : Success) : Write :=
  .updateChildValues (DataService.refUsers.child success.owner)
    [("imageUrl", .leaf (.string success.url))]

/-- The same write, as one to the user's own image address. -/
def Success.userWrite (success : Success) : String × UserWrite :=
  (success.owner, .updateFirebaseProfileImage success.url)

/-- The most recently picked image of a user among those whose upload succeeded. -/
def LatestPick (state : State Data) (uid : String) (success : Success) : Prop :=
  success ∈ state.succeeded ∧ success.owner = uid ∧
    ∀ other ∈ state.succeeded, other.owner = uid → other.ticket ≤ success.ticket

/-- No completion has trapped, every address went to the user who picked its image,
and unless an upload is in flight each user has the address of the latest pick. -/
structure Reached (state : State Data) : Prop where
  untrapped : state.trapped = false
  writes : state.writes = state.succeeded.map Success.write
  latest : state.uploads.waiting = [] → ∀ uid success, LatestPick state uid success →
    Node.asString (state.database.sub (UserChild.imageUrl.ref uid)) = some success.url

/-- An upload succeeds while its user is signed in and before any later pick of that
user has. -/
def InOrder (before : State Data) : Action Image → Prop
  | .uploadSucceeded ticket _ => ∀ upload ∈ before.uploads.find ticket,
      before.signedIn = some upload.owner ∧
        ∀ other ∈ before.succeeded, other.owner = upload.owner → other.ticket < ticket
  | _ => True

instance (before : State Data) : (action : Action Image) → Decidable (InOrder before action)
  | .uploadSucceeded ticket _ =>
      inferInstanceAs (Decidable (∀ upload ∈ before.uploads.find ticket, _ ∧ _))
  | .signIn _ | .signOutTapped | .pickImage _ _ | .uploadFailed _ => .isTrue trivial

/-- What holds in every ordered run. -/
structure Ordered (database : Node) (state : State Data) : Prop where
  untrapped : state.trapped = false
  writes : state.writes = state.succeeded.map Success.write
  database : state.database =
    database.applyAll ((state.succeeded.map Success.userWrite).map UserWrite.assignment)
  ordered : state.succeeded.Pairwise fun first second =>
    first.owner = second.owner → first.ticket < second.ticket

theorem ordered_initial (signedIn : Option String) (database : Node) :
    Ordered database (initial signedIn database : State Data) where
  untrapped := rfl
  writes := rfl
  database := rfl
  ordered := .nil

/-- A success in order writes to its own user, after all earlier picks. -/
theorem Ordered.step {database : Node} {before after : State Data} {action : Action Image}
    (ordered : Ordered database before) (inOrder : InOrder before action)
    (step : (machine jpeg).Step before action after) : Ordered database after := by
  obtain ⟨_, handled⟩ := step
  cases action with
  | signIn uid =>
      cases handled
      exact ⟨ordered.untrapped, ordered.writes, ordered.database, ordered.ordered⟩
  | signOutTapped =>
      cases handled
      exact ⟨ordered.untrapped, ordered.writes, ordered.database, ordered.ordered⟩
  | pickImage profileImage editedImage =>
      obtain ⟨owner, _, handled⟩ := Option.bind_eq_some_iff.mp handled
      split at handled <;> cases handled
      · exact ⟨ordered.untrapped, ordered.writes, ordered.database, ordered.ordered⟩
      · exact ordered
  | uploadSucceeded ticket url =>
      obtain ⟨upload, found, handled⟩ := Option.bind_eq_some_iff.mp handled
      obtain ⟨signedIn, earlier⟩ := inOrder upload found
      rw [signedIn] at handled
      cases handled
      refine ⟨ordered.untrapped, ?_, ?_, ?_⟩
      · rw [List.map_append, ← ordered.writes]
        rfl
      · rw [List.map_append, List.map_append, Tree.applyAll_append, ← ordered.database]
        rfl
      · rw [List.pairwise_append]
        refine ⟨ordered.ordered, List.pairwise_singleton _ _, ?_⟩
        intro first member second new same
        cases List.mem_singleton.mp new
        exact earlier first member same
  | uploadFailed ticket =>
      cases handled
      exact ⟨ordered.untrapped, ordered.writes, ordered.database, ordered.ordered⟩

/-- The greatest element of an ordered list is its last. -/
theorem getLast?_of_pairwise {α : Type} {before : α → α → Prop} {list : List α}
    (ordered : list.Pairwise before) {last : α} (member : last ∈ list)
    (greatest : ∀ other ∈ list, ¬ before last other) : list.getLast? = some last := by
  induction list using List.reverseRecOn with
  | nil => cases member
  | append_singleton front final _ =>
      rw [List.getLast?_concat]
      rcases List.mem_append.mp member with inside | same
      · have below := (List.pairwise_append.mp ordered).2.2 last inside final
          (List.mem_singleton_self final)
        exact (greatest final (List.mem_append_right _ (List.mem_singleton_self final)) below).elim
      · rw [List.mem_singleton.mp same]

/-- In an ordered run every user's node has the address of the latest pick. -/
theorem Ordered.latest {database : Node} {state : State Data} (ordered : Ordered database state)
    {uid : String} {success : Success} (latest : LatestPick state uid success) :
    Node.asString (state.database.sub (UserChild.imageUrl.ref uid)) = some success.url := by
  obtain ⟨member, rfl, last⟩ := latest
  have own : writesTo success.owner .imageUrl (state.succeeded.map Success.userWrite) =
      (state.succeeded.filter (·.owner = success.owner)).map
        fun other => .updateFirebaseProfileImage other.url := by
    rw [writesTo, List.filter_map, List.map_map]
    simp only [Function.comp_def, Success.userWrite, UserWrite.child, and_true]
  have final : (state.succeeded.filter (·.owner = success.owner)).getLast? = some success := by
    apply getLast?_of_pairwise (ordered.ordered.filter _)
    · exact List.mem_filter.mpr ⟨member, decide_eq_true rfl⟩
    · intro other kept before
      obtain ⟨present, owner⟩ := List.mem_filter.mp kept
      have same : other.owner = success.owner := of_decide_eq_true owner
      exact absurd (before same.symm) (Nat.not_lt.mpr (last other present same))
  have performed : performUserWrites database (state.succeeded.map Success.userWrite) =
      some state.database := by
    rw [performUserWrites_eq, ordered.database]
  rw [sub_ref_performUserWrites performed, lastWritten, own, List.getLast?_map, final]
  rfl

/-- **Images reach their users and the last pick wins.** In every run in which each
upload succeeds in order, no completion traps, every address goes to the user who was
signed in when the image was picked, and whenever no upload is in flight each user's
record has the address of the most recently picked image whose upload succeeded. -/
theorem images_reach_their_users (signedIn : Option String) (database : Node)
    (actions : List (Action Image)) (finish : State Data)
    (run : (machine jpeg).Run (initial signedIn database) actions finish)
    (inOrder : (machine jpeg).Guarded InOrder (initial signedIn database) actions) :
    Reached finish := by
  have ordered : Ordered database finish :=
    run.invariant_along inOrder (fun _ _ _ held step fine => held.step jpeg fine step)
      (ordered_initial signedIn database)
  exact ⟨ordered.untrapped, ordered.writes, fun _ _ _ latest => ordered.latest latest⟩

/-- Two picks whose uploads succeed in order. -/
theorem two_picks_in_order :
    ∃ finish : State Unit, (machine some).execute (initial none .null)
        [.signIn "ann", .pickImage () none, .pickImage () (some ()), .uploadSucceeded 0 "gs://one",
          .uploadSucceeded 1 "gs://two"] = some finish ∧ Reached finish := by
  obtain ⟨finish, executed⟩ := Option.isSome_iff_exists.mp (show ((machine some).execute
    (initial none .null : State Unit) [.signIn "ann", .pickImage () none, .pickImage () (some ()),
      .uploadSucceeded 0 "gs://one", .uploadSucceeded 1 "gs://two"]).isSome by decide)
  exact ⟨finish, executed, images_reach_their_users some none .null _ finish
    (Machine.run_of_execute executed) (Machine.guarded_of_respects (by decide))⟩

/-- An upload that succeeds after another user has signed in changes that user's
image. -/
theorem upload_after_sign_out_reaches_other_user :
    ¬ ∀ (jpeg : Unit → Option Unit) (signedIn : Option String) (database : Node)
        (actions : List (Action Unit)) (finish : State Unit),
      (machine jpeg).Run (initial signedIn database) actions finish → Reached finish := by
  intro all
  have reached : ((machine some).execute (initial none .null : State Unit)
      [.signIn "ann", .pickImage () none, .signOutTapped, .signIn "bob",
        .uploadSucceeded 0 "gs://ann"]).map (fun finish =>
          (finish.succeeded, finish.writes.flatMap fun write =>
            write.assignments.map Assignment.path)) =
        some ([⟨0, "ann", "gs://ann"⟩], [UserChild.imageUrl.ref "bob"]) := by
    decide
  obtain ⟨finish, executed, result⟩ := Option.map_eq_some_iff.mp reached
  rw [Prod.mk.injEq] at result
  have writes := (all some none .null _ finish (Machine.run_of_execute executed)).writes
  rw [writes, result.1] at result
  exact absurd result.2 (by decide)

end ProfileImages

end MyFundi
