import MyFundi.Model.Post
import MyFundi.Model.User

/-!
# Observers of the profile screen

The users observer finds the signed-in user's record, shows the name and image,
collects the keys of the user's fundraisers and registers a fundraisers observer.
Each fundraisers observer appends the user's fundraisers to the shared list of posts.
-/

namespace MyFundi

open Foundation

/-- A text field: its text, and whether it accepts typing. -/
structure TextField where
  text : String
  isEnabled : Bool

/-- The state of a profile screen that its observers read and change. -/
structure ProfileVC where
  userID : String
  posts : List Post
  fundraiserKeys : List String
  nameTextField : TextField

/-- What a handler starts: an image download, or a new observer of the fundraisers. -/
inductive ProfileEffect where
  | getData (imageUrl : String)
  | observeFundraisers
  deriving DecidableEq

/-- The address of the download that an effect starts. -/
def ProfileEffect.address : ProfileEffect → Option String
  | .getData imageUrl => some imageUrl
  | .observeFundraisers => none

namespace ProfileVC

/-- A profile screen as `viewDidLoad` leaves it for a user, with `text` in the name
field. -/
def loaded (uid text : String) : ProfileVC where
  userID := uid
  posts := []
  fundraiserKeys := []
  nameTextField := { text := text, isEnabled := false }

/-- `viewDidLoad`: the forced unwrap of the current user traps when there is none. -/
def viewDidLoad (currentUser : Option String) (text : String) : Option ProfileVC :=
  currentUser.map fun uid => loaded uid text

variable (firebase : Firebase)

/-- Show the name and start the download of the image. Its reference raises for an address
outside the app's storage, which `usersEvent` accounts for. -/
def configureUser (vc : ProfileVC) (userName imageUrl : String) :
    ProfileVC × List ProfileEffect :=
  ({ vc with nameTextField := { text := userName, isEnabled := true } }, [.getData imageUrl])

/-- Empty the list and register an observer that fills it. -/
def loadFundraisers (vc : ProfileVC) : ProfileVC × List ProfileEffect :=
  ({ vc with posts := [] }, [.observeFundraisers])

/-- What the users observer does with the signed-in user's record. The getters of
the name and the image address trap when the record lacks them. -/
def showUser (vc : ProfileVC) (value : Node) : Option (ProfileVC × List ProfileEffect) :=
  match firebase.asDictionary value with
  | none => some (vc, [])
  | some userDict => do
      let user := User.init firebase vc.userID userDict
      let name ← user.name
      let imageUrl ← user.imageUrl
      let (shown, download) := { vc with fundraiserKeys := [] }.configureUser name imageUrl
      match firebase.asDictionary (Node.entry userDict "fundraisers") with
      | none => return (shown, download)
      | some fundraisers =>
          let (loading, observe) :=
            { shown with fundraiserKeys := firebase.dictionaryKeys fundraisers }.loadFundraisers
          return (loading, download ++ observe)

/-- One round of the users observer's loop, with the effects collected so far. -/
def visitUser (current : ProfileVC × List ProfileEffect) (snap : DataSnapshot) :
    Option (ProfileVC × List ProfileEffect) :=
  if current.1.userID = snap.key then do
    let (shown, effects) ← current.1.showUser firebase snap.value
    return (shown, current.2 ++ effects)
  else some current

/-- The users observer that `viewDidLoad` registers. -/
def usersObserver (vc : ProfileVC) (snapshot : Node) : Option (ProfileVC × List ProfileEffect) :=
  (firebase.allObjects snapshot).foldlM (visitUser firebase) (vc, [])

/-- A users event as a whole: the observer runs, and the download it starts makes a reference
of the address, which raises unless the address is one of the app's storage. -/
def usersEvent (vc : ProfileVC) (snapshot : Node) : Option (ProfileVC × List ProfileEffect) :=
  (vc.usersObserver firebase snapshot).filter fun result =>
    (result.2.filterMap ProfileEffect.address).all fun url => (firebase.referenceForURL url).isSome

/-- The posts a fundraisers observer finds for the given keys. -/
def foundPosts (keys : List String) (snapshot : Node) : List Post :=
  (firebase.allObjects snapshot).flatMap fun snap =>
    keys.flatMap fun fundKey =>
      if snap.key = fundKey then
        ((firebase.asDictionary snap.value).map (Post.init snap.key)).toList
      else []

/-- The fundraisers observer that `loadFundraisers` registers. -/
def fundraisersObserver (vc : ProfileVC) (snapshot : Node) : ProfileVC :=
  { vc with posts := vc.posts ++ foundPosts firebase vc.fundraiserKeys snapshot }

variable {firebase}

/-- What showing a record does: nothing unless it comes as a dictionary; otherwise
the keys are replaced, and if there is a fundraisers map the posts are emptied and one
observer is registered. -/
theorem showUser_cases {vc shown : ProfileVC} {value : Node} {effects : List ProfileEffect}
    (done : vc.showUser firebase value = some (shown, effects)) :
    shown.userID = vc.userID ∧
      ((firebase.asDictionary value = none ∧ shown = vc ∧ effects = []) ∨
        ∃ record, firebase.asDictionary value = some record ∧
          ((firebase.asDictionary (Node.entry record "fundraisers") = none ∧
              shown.fundraiserKeys = [] ∧ shown.posts = vc.posts ∧
              effects.count .observeFundraisers = 0) ∨
            ∃ fundraisers,
              firebase.asDictionary (Node.entry record "fundraisers") = some fundraisers ∧
              shown.fundraiserKeys = firebase.dictionaryKeys fundraisers ∧ shown.posts = [] ∧
              effects.count .observeFundraisers = 1)) := by
  unfold showUser at done
  cases delivered : firebase.asDictionary value with
  | none =>
      rw [delivered] at done
      cases done
      exact ⟨rfl, Or.inl ⟨rfl, rfl, rfl⟩⟩
  | some record =>
      simp only [delivered, Option.bind_eq_bind, Option.bind_eq_some_iff] at done
      obtain ⟨name, _, imageUrl, _, done⟩ := done
      cases mapped : firebase.asDictionary (Node.entry record "fundraisers") with
      | none =>
          rw [mapped] at done
          cases done
          exact ⟨rfl, Or.inr ⟨record, rfl, Or.inl ⟨mapped, rfl, rfl, rfl⟩⟩⟩
      | some fundraisers =>
          rw [mapped] at done
          cases done
          exact ⟨rfl, Or.inr ⟨record, rfl, Or.inr ⟨fundraisers, mapped, rfl, rfl, rfl⟩⟩⟩

/-- What showing a record does to the name field: nothing unless the record comes as a
dictionary; otherwise the field gets the record's name and is enabled. -/
theorem showUser_nameTextField {vc shown : ProfileVC} {value : Node} {effects : List ProfileEffect}
    (done : vc.showUser firebase value = some (shown, effects)) :
    (firebase.asDictionary value = none ∧ shown.nameTextField = vc.nameTextField) ∨
      ∃ record name, firebase.asDictionary value = some record ∧
        Node.asString (Node.entry record "name") = some name ∧
        shown.nameTextField = { text := name, isEnabled := true } := by
  unfold showUser at done
  cases delivered : firebase.asDictionary value with
  | none =>
      rw [delivered] at done
      cases done
      exact Or.inl ⟨rfl, rfl⟩
  | some record =>
      simp only [delivered, Option.bind_eq_bind, Option.bind_eq_some_iff] at done
      obtain ⟨name, named, imageUrl, _, done⟩ := done
      refine Or.inr ⟨record, name, rfl, named, ?_⟩
      split at done <;> cases done <;> rfl

/-- A record that comes as a dictionary starts the download of its image, others start none. -/
theorem showUser_downloads {vc shown : ProfileVC} {value : Node} {effects : List ProfileEffect}
    (done : vc.showUser firebase value = some (shown, effects)) :
    (firebase.asDictionary value = none ∧ effects = []) ∨
      ∃ record url, firebase.asDictionary value = some record ∧
        Node.asString (Node.entry record "imageUrl") = some url ∧
        effects.filterMap ProfileEffect.address = [url] := by
  unfold showUser at done
  cases delivered : firebase.asDictionary value with
  | none =>
      rw [delivered] at done
      cases done
      exact Or.inl ⟨rfl, rfl⟩
  | some record =>
      simp only [delivered, Option.bind_eq_bind, Option.bind_eq_some_iff] at done
      obtain ⟨name, _, imageUrl, stored, done⟩ := done
      refine Or.inr ⟨record, imageUrl, rfl, stored, ?_⟩
      split at done <;> cases done <;> rfl

theorem visitUser_of_ne {current : ProfileVC × List ProfileEffect} {snap : DataSnapshot}
    (other : current.1.userID ≠ snap.key) : visitUser firebase current snap = some current :=
  if_neg other

theorem visitUser_of_eq {vc : ProfileVC} {snap : DataSnapshot} (same : vc.userID = snap.key) :
    visitUser firebase (vc, []) snap = vc.showUser firebase snap.value := by
  rw [visitUser, if_pos same]
  cases vc.showUser firebase snap.value <;> rfl

/-- Visiting other users changes nothing. -/
theorem foldlM_visitUser_of_absent {snapshots : List DataSnapshot}
    {current : ProfileVC × List ProfileEffect}
    (absent : current.1.userID ∉ snapshots.map DataSnapshot.key) :
    snapshots.foldlM (visitUser firebase) current = some current := by
  induction snapshots with
  | nil => rfl
  | cons snap rest ih =>
      rw [List.map_cons, List.mem_cons, not_or] at absent
      rw [List.foldlM_cons, visitUser_of_ne absent.1]
      exact ih absent.2

/-- Visiting users with distinct keys shows the signed-in one. -/
theorem foldlM_visitUser_of_mem {snapshots : List DataSnapshot} {key : String} {value : Node}
    (nodup : (snapshots.map DataSnapshot.key).Nodup) (present : ⟨key, value⟩ ∈ snapshots)
    {vc : ProfileVC} (same : vc.userID = key) :
    snapshots.foldlM (visitUser firebase) (vc, []) = vc.showUser firebase value := by
  induction snapshots with
  | nil => cases present
  | cons snap rest ih =>
      rw [List.map_cons, List.nodup_cons] at nodup
      rw [List.foldlM_cons]
      rcases List.mem_cons.mp present with rfl | later
      · rw [visitUser_of_eq same]
        cases shown : vc.showUser firebase value with
        | none => rfl
        | some result =>
            apply foldlM_visitUser_of_absent
            rw [(showUser_cases shown).1, same]
            exact nodup.1
      · have different : vc.userID ≠ snap.key := by
          intro equal
          exact nodup.1 (List.mem_map.mpr ⟨⟨key, value⟩, later, same.symm.trans equal⟩)
        rw [visitUser_of_ne different]
        exact ih nodup.2 later

/-- The users observer acts on the signed-in user's node only. -/
theorem usersObserver_eq (vc : ProfileVC) (snapshot : Node) :
    vc.usersObserver firebase snapshot = vc.showUser firebase (snapshot.sub [vc.userID]) := by
  have keys := firebase.allObjects_map_key snapshot
  by_cases absent : (snapshot.sub [vc.userID]).IsNull
  · have unchanged : vc.showUser firebase (snapshot.sub [vc.userID]) = some (vc, []) := by
      rw [showUser, firebase.asDictionary_of_isNull absent]
    rw [unchanged]
    apply foldlM_visitUser_of_absent
    rw [keys, firebase.mem_childKeys, not_not]
    exact absent
  · refine foldlM_visitUser_of_mem ?_ ?_ rfl
    · rw [keys]
      exact firebase.childKeys_nodup snapshot
    · exact List.mem_map.mpr ⟨vc.userID, (firebase.mem_childKeys _ _).mpr absent, rfl⟩

/-- Showing a record that is not a dictionary changes nothing; showing a dictionary
succeeds exactly when it has a name and an image address. -/
theorem showUser_isSome_iff (vc : ProfileVC) (value : Node) :
    (vc.showUser firebase value).isSome ↔
      (firebase.isDictionary value = true →
        (Node.asString (Node.entry value "name")).isSome ∧
          (Node.asString (Node.entry value "imageUrl")).isSome) := by
  unfold showUser Firebase.asDictionary
  by_cases delivered : firebase.isDictionary value = true
  · simp only [delivered, ↓reduceIte, User.init, forall_const]
    cases Node.asString (Node.entry value "name") with
    | none => simp
    | some name =>
        cases Node.asString (Node.entry value "imageUrl") with
        | none => simp
        | some imageUrl =>
            simp only [Option.bind_eq_bind, Option.bind_some, Option.isSome_some, and_self,
              iff_true]
            split <;> rfl
  · simp only [delivered, Bool.false_eq_true, ↓reduceIte, Option.isSome_some, false_implies]

/-- Delivering the users of a database traps exactly when the user's record comes as
a dictionary that lacks the name or the image address. -/
theorem usersObserver_isSome_iff (vc : ProfileVC) (database : Node) :
    (vc.usersObserver firebase (database.sub DataService.refUsers)).isSome ↔
      (firebase.isDictionary (database.sub (DataService.refUsers.child vc.userID)) = true →
        (Node.asString (database.sub
          ((DataService.refUsers.child vc.userID).child "name"))).isSome ∧
        (Node.asString (database.sub
          ((DataService.refUsers.child vc.userID).child "imageUrl"))).isSome) := by
  rw [usersObserver_eq, showUser_isSome_iff]
  simp only [Node.entry, ← Tree.sub_append]
  rfl

/-- An event that returns is what the observer makes of it. -/
theorem usersObserver_of_usersEvent {vc : ProfileVC} {snapshot : Node}
    {result : ProfileVC × List ProfileEffect}
    (done : vc.usersEvent firebase snapshot = some result) :
    vc.usersObserver firebase snapshot = some result :=
  (Option.filter_eq_some_iff.mp done).1

/-- A users event returns exactly when the user's record does not come as a dictionary, or
has a name and an image address of the app's storage. -/
theorem usersEvent_isSome_iff (vc : ProfileVC) (snapshot : Node) :
    (vc.usersEvent firebase snapshot).isSome ↔
      (firebase.isDictionary (snapshot.sub [vc.userID]) = true →
        (Node.asString (Node.entry (snapshot.sub [vc.userID]) "name")).isSome ∧
          ∃ imageUrl, Node.asString (Node.entry (snapshot.sub [vc.userID]) "imageUrl") =
            some imageUrl ∧ firebase.isStorageURL imageUrl = true) := by
  have returns : (vc.showUser firebase (snapshot.sub [vc.userID])).isSome ↔ _ :=
    vc.showUser_isSome_iff _
  rw [usersEvent, usersObserver_eq]
  cases shown : vc.showUser firebase (snapshot.sub [vc.userID]) with
  | none =>
      rw [shown] at returns
      refine iff_of_false Bool.false_ne_true fun record => Bool.false_ne_true (returns.mpr ?_)
      intro delivered
      obtain ⟨name, imageUrl, has, _⟩ := record delivered
      exact ⟨name, Option.isSome_of_eq_some has⟩
  | some result =>
      obtain ⟨next, effects⟩ := result
      rw [shown] at returns
      rcases showUser_downloads shown with ⟨absent, rfl⟩ | ⟨record, url, delivered, has, downloads⟩
      · refine iff_of_true rfl fun delivered => ?_
        rw [Firebase.asDictionary, if_pos delivered] at absent
        cases absent
      · unfold Firebase.asDictionary at delivered
        split at delivered <;> cases delivered
        rename_i delivered
        have named := (returns.mp rfl delivered).1
        simp only [Option.filter_some, downloads, List.all_cons, List.all_nil, Bool.and_true,
          firebase.referenceForURL_isSome_iff, Option.isSome_ite, delivered, named, has, true_and,
          forall_const, Option.some.injEq, exists_eq_left']

end ProfileVC

end MyFundi
