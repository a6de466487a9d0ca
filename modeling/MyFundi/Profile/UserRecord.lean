import MyFundi.Profile.Observers
import MyFundi.Users.Writes

/-!
# Showing the records the app writes

The profile screen needs a name and an image address in the signed-in user's
record. A sign-in writes neither: only the profile screen itself does. So a record
built by the app's writes can be shown exactly when both were saved
(`profile_shows_record_iff`), and the first visit of a new user traps.
-/

namespace MyFundi

open Foundation

/-- The record of a user that the app has written to has a key naming a field. -/
theorem exists_key_of_performUserWrites {database : Node} {writes : List (String × UserWrite)}
    (performed : performUserWrites .null writes = some database) {uid : String}
    (present : ¬ (database.sub (DataService.refUsers.child uid)).IsNull) :
    ∃ key, key ∈ ["provider", "name", "imageUrl", "likes"] ∧
      ¬ ((database.sub (DataService.refUsers.child uid)).sub [key]).IsNull := by
  rw [performUserWrites_eq] at performed
  cases performed
  rw [Tree.isNull_iff_value, not_forall] at present
  obtain ⟨path, scalar⟩ := present
  obtain ⟨write, member, rest, split⟩ := Tree.exists_write_of_value scalar
  obtain ⟨⟨owner, write⟩, _, rfl⟩ := List.mem_map.mp member
  obtain ⟨key, tail, child, written⟩ := write.child.exists_path
  have whole : "users" :: owner :: (key :: tail ++ rest) = "users" :: uid :: path := by
    rw [← child]
    exact split
  obtain ⟨rfl, rfl⟩ : owner = uid ∧ key :: tail ++ rest = path := by simpa using whole
  refine ⟨key, written, fun empty => scalar ?_⟩
  exact (Tree.isNull_iff_value _).mp empty (tail ++ rest)

/-- The children the app writes are named by words, not by numbers. -/
theorem written_key_is_word : ∀ key ∈ ["provider", "name", "imageUrl", "likes"],
    (key.toList.any fun char => !char.isDigit) = true := by decide

/-- A string child can be read exactly when the app has written it. -/
theorem asString_child_isSome_iff {database : Node} {writes : List (String × UserWrite)}
    (performed : performUserWrites .null writes = some database) (uid : String)
    {child : UserChild}
    (strings : ∀ write : UserWrite, write.child = child →
      ∃ value, write.placed = .leaf (.string value)) :
    (Node.asString (database.sub (child.ref uid))).isSome ↔
      ∃ write, (uid, write) ∈ writes ∧ write.child = child := by
  rw [sub_ref_performUserWrites performed, lastWritten]
  cases last : (writesTo uid child writes).getLast? with
  | none =>
      have empty := List.getLast?_eq_none_iff.mp last
      simp only [Option.map_none, Option.getD_none, Tree.sub_null]
      constructor
      · intro impossible
        cases impossible
      · rintro ⟨write, present⟩
        have member := mem_writesTo.mpr present
        rw [empty] at member
        cases member
  | some write =>
      have present := mem_writesTo.mp (List.mem_of_getLast? last)
      obtain ⟨value, placed⟩ := strings write present.2
      simp only [Option.map_some, Option.getD_some, placed, Node.asString, Tree.value_leaf_nil,
        Option.bind_some, Scalar.asString, Option.isSome_some, true_iff]
      exact ⟨write, present⟩

/-- A user has a name if one was saved. -/
theorem name_isSome_iff {database : Node} {writes : List (String × UserWrite)}
    (performed : performUserWrites .null writes = some database) (uid : String) :
    (Node.asString (database.sub (UserChild.name.ref uid))).isSome ↔
      ∃ name, (uid, .updateFirebaseProfileName name) ∈ writes := by
  have strings (write : UserWrite) (here : write.child = .name) :
      ∃ value, write.placed = .leaf (.string value) := by
    cases write <;> cases here
    exact ⟨_, rfl⟩
  rw [asString_child_isSome_iff performed uid strings]
  constructor
  · rintro ⟨write, present, here⟩
    cases write <;> cases here
    exact ⟨_, present⟩
  · rintro ⟨name, present⟩
    exact ⟨_, present, rfl⟩

/-- A user has an image address if one was saved. -/
theorem imageUrl_isSome_iff {database : Node} {writes : List (String × UserWrite)}
    (performed : performUserWrites .null writes = some database) (uid : String) :
    (Node.asString (database.sub (UserChild.imageUrl.ref uid))).isSome ↔
      ∃ imgUrl, (uid, .updateFirebaseProfileImage imgUrl) ∈ writes := by
  have strings (write : UserWrite) (here : write.child = .imageUrl) :
      ∃ value, write.placed = .leaf (.string value) := by
    cases write <;> cases here
    exact ⟨_, rfl⟩
  rw [asString_child_isSome_iff performed uid strings]
  constructor
  · rintro ⟨write, present, here⟩
    cases write <;> cases here
    exact ⟨_, present⟩
  · rintro ⟨imgUrl, present⟩
    exact ⟨_, present, rfl⟩

/-- **When a record can be shown.** In any database the app's writes to user nodes
build from nothing, delivering the users to the profile of `uid` does not trap
exactly when nothing is stored for `uid`, so that no record is delivered, or both
a name and a profile image have been saved for `uid`. -/
theorem profile_shows_record_iff (firebase : Firebase) (writes : List (String × UserWrite))
    (database : Node) (performed : performUserWrites .null writes = some database)
    (vc : ProfileVC) :
    (vc.usersObserver firebase (database.sub DataService.refUsers)).isSome ↔
      (database.sub (DataService.refUsers.child vc.userID)).IsNull ∨
        (∃ name, (vc.userID, .updateFirebaseProfileName name) ∈ writes) ∧
          ∃ imgUrl, (vc.userID, .updateFirebaseProfileImage imgUrl) ∈ writes := by
  rw [ProfileVC.usersObserver_isSome_iff]
  by_cases absent : (database.sub (DataService.refUsers.child vc.userID)).IsNull
  · have undelivered := firebase.asDictionary_of_isNull absent
    simp only [Firebase.asDictionary, ite_eq_right_iff, reduceCtorEq, imp_false,
      Bool.not_eq_true] at undelivered
    simp only [absent, true_or, undelivered, Bool.false_eq_true, false_implies]
  · obtain ⟨key, written, present⟩ := exists_key_of_performUserWrites performed absent
    have delivered := firebase.isDictionary_of_key _ key present (written_key_is_word key written)
    simp only [absent, false_or, delivered, forall_const]
    exact and_congr (name_isSome_iff performed vc.userID) (imageUrl_isSome_iff performed vc.userID)

/-- A user who saved a name and an image can be shown. -/
theorem profile_shows_saved_record :
    ((ProfileVC.loaded "ann" "").usersObserver Firebase.byKey
      ((Tree.null.applyAll
        ([("ann", .createFirebaseDBUser "Firebase"), ("ann", .updateFirebaseProfileName "Ann"),
          ("ann", .updateFirebaseProfileImage "gs://pic")].map UserWrite.assignment)).sub
            DataService.refUsers)).isSome :=
  (profile_shows_record_iff Firebase.byKey
    [("ann", .createFirebaseDBUser "Firebase"), ("ann", .updateFirebaseProfileName "Ann"),
      ("ann", .updateFirebaseProfileImage "gs://pic")] _ (performUserWrites_eq _ _)
    (ProfileVC.loaded "ann" "")).mpr (Or.inr ⟨⟨"Ann", by simp [ProfileVC.loaded]⟩,
      ⟨"gs://pic", by simp [ProfileVC.loaded]⟩⟩)

/-- The first e-mail sign-in of a user stores the provider alone, and showing that
record traps. -/
theorem first_profile_visit_traps :
    ¬ ∀ (firebase : Firebase) (writes : List (String × UserWrite)) (database : Node),
      performUserWrites .null writes = some database → ∀ vc : ProfileVC,
        (vc.usersObserver firebase (database.sub DataService.refUsers)).isSome := by
  intro shows
  have shown := shows Firebase.byKey [("ann", .createFirebaseDBUser "Firebase")] _
    (performUserWrites_eq _ _) (ProfileVC.loaded "ann" "")
  rw [ProfileVC.usersObserver_isSome_iff] at shown
  have name := (shown (Firebase.byKey.isDictionary_of_key _ "provider" (by decide)
    (by decide))).1
  revert name
  decide

end MyFundi
