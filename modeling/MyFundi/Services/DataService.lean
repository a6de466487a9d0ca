import MyFundi.Firebase.Database

/-! # Database references -/

namespace MyFundi.DataService

open Foundation

/-- `REF_FUNDRAISERS` -/
def refFundraisers : DatabaseReference := ["fundraisers"]

/-- `REF_USERS` -/
def refUsers : DatabaseReference := ["users"]

/-- `REF_USER_CURRENT`: the node of the user whose uid the keychain stores under
`KEY_UID`. The forced unwrap traps when the keychain holds none. -/
def refUserCurrent (keychain : Option String) : Option DatabaseReference :=
  keychain.map refUsers.child

/-- The user's data is merged into the node of the user. -/
def createFirebaseDBUser (uid : String) (userData : List (String × String)) : Write :=
  .updateChildValues (refUsers.child uid)
    (userData.map fun field => (field.1, .leaf (.string field.2)))

/-- With a uid in the keychain the reference is the user's node. -/
@[simp] theorem refUserCurrent_some (uid : String) :
    refUserCurrent (some uid) = some (refUsers.child uid) := rfl

end MyFundi.DataService
