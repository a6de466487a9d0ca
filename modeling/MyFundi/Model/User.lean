import MyFundi.Services.DataService

/-! # Users -/

namespace MyFundi

/-- A decoded user record. The getter of an absent field traps. -/
structure User where
  userKey : String
  fundraiserKeys : Option (List String)
  name : Option String
  imageUrl : Option String

/-- `init(userKey:userData:)` -/
def User.init (firebase : Firebase) (userKey : String) (userData : Node) : User where
  userKey := userKey
  fundraiserKeys := firebase.asStringArray (Node.entry userData "fundraisers")
  imageUrl := Node.asString (Node.entry userData "imageUrl")
  name := Node.asString (Node.entry userData "name")

end MyFundi
