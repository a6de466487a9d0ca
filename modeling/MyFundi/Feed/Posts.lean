import MyFundi.Model.Post

/-! # The posts of the feed -/

namespace MyFundi.FeedVC

open Foundation

/-- The list the feed's fundraisers observer builds from a snapshot. -/
def loadedPosts (firebase : Firebase) (snapshot : Node) : List Post :=
  (firebase.allObjects snapshot).filterMap fun snap =>
    (firebase.asDictionary snap.value).map (Post.init snap.key)

/-- A post of the list is a dictionary of the snapshot and has the count stored in it. -/
theorem of_mem_loadedPosts {firebase : Firebase} {snapshot : Node} {post : Post}
    (member : post ∈ loadedPosts firebase snapshot) :
    (firebase.asDictionary (snapshot.sub [post.postKey])).isSome ∧
      post.likes = Node.asInt (snapshot.sub [post.postKey, "likes"]) := by
  obtain ⟨snap, child, decoded⟩ := List.mem_filterMap.mp member
  obtain ⟨key, _, rfl⟩ := List.mem_map.mp child
  obtain ⟨record, delivered, rfl⟩ := Option.map_eq_some_iff.mp decoded
  refine ⟨Option.isSome_of_eq_some delivered, ?_⟩
  have same : snapshot.sub [key] = record := by
    unfold Firebase.asDictionary at delivered
    split at delivered <;> cases delivered
    rfl
  subst same
  exact congrArg Node.asInt (Tree.sub_append snapshot [key] ["likes"]).symm

end MyFundi.FeedVC
