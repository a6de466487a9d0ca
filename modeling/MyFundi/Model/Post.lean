import MyFundi.Services.DataService

/-! # Fundraiser posts -/

namespace MyFundi

/-- A decoded fundraiser. A field is absent when the stored record has no value of
the expected type; its getter then traps. -/
structure Post where
  postKey : String
  caption : Option String
  imageUrl : Option String
  likes : Option Int
  currentDonation : Option SwiftFloat
  donationGoal : Option SwiftFloat
  title : Option String
  deriving DecidableEq

namespace Post

/-- `init(postKey:postData:)` -/
def init (postKey : String) (postData : Node) : Post where
  postKey := postKey
  caption := Node.asString (Node.entry postData "caption")
  imageUrl := Node.asString (Node.entry postData "imageUrl")
  likes := Node.asInt (Node.entry postData "likes")
  currentDonation := Node.asFloat (Node.entry postData "currentDonation")
  donationGoal := Node.asFloat (Node.entry postData "donationGoal")
  title := Node.asString (Node.entry postData "title")

/-- Where the fundraiser is stored. -/
def postRef (post : Post) : DatabaseReference :=
  DataService.refFundraisers.child post.postKey

/-- Change the count of this object and write it over the stored one. -/
def adjustLikes (post : Post) (addLike : Bool) : Option (Post × Write) := do
  let likes ← post.likes
  let adjusted ← checkedInt (if addLike then likes + 1 else likes - 1)
  return ({ post with likes := some adjusted },
    .setValue (post.postRef.child "likes") (.leaf (.int adjusted)))

/-- What a successful adjustment does to the object and what it writes. -/
theorem adjustLikes_eq_some {post adjusted : Post} {addLike : Bool} {write : Write}
    (done : post.adjustLikes addLike = some (adjusted, write)) :
    ∃ likes, post.likes = some likes ∧
      checkedInt (if addLike then likes + 1 else likes - 1) =
        some (if addLike then likes + 1 else likes - 1) ∧
      adjusted = { post with likes := some (if addLike then likes + 1 else likes - 1) } ∧
      write = .setValue (post.postRef.child "likes")
        (.leaf (.int (if addLike then likes + 1 else likes - 1))) := by
  simp only [adjustLikes, Option.bind_eq_bind, Option.bind_eq_some_iff, Option.pure_def,
    Option.some.injEq, Prod.mk.injEq] at done
  obtain ⟨likes, held, result, checked, rfl, rfl⟩ := done
  have same := checkedInt_eq_some checked
  subst same
  exact ⟨likes, held, checked, rfl, rfl⟩

end Post

end MyFundi
