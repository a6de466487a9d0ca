import MyFundi.Community.NewKeys

/-!
# A user's node is the user's own

The rules of the database are not part of the app, so what keeps a user's node from being
written by others is where the app writes. In every run the node holds what the user's own
devices wrote there, in the order in which the server applied it.
-/

namespace MyFundi.Community

open Foundation

variable {Device Image Data : Type} [DecidableEq Device]

/-- The write that an action has the server apply, with its device. -/
def applied (before : State Device Image Data) : Action Device Image → Option (Device × Write)
  | .likes (.serve device) => before.likes.inFlight.find? (·.1 = device)
  | _ => none

variable {firebase : Firebase} {uid : Device → String} {jpeg : Image → Option Data}
  {placeholder : Option Image} {before after : State Device Image Data}

/-- A deed of another user changes nothing in a user's node. -/
theorem Deed.incomparable_user {owner other : String} (different : other ≠ owner) (deed : Deed) :
    Incomparable (deed.assignment other).path (DataService.refUsers.child owner) := by
  cases deed with
  | count postKey likes => exact incomparable_append_cons [] (by decide) _ _
  | publish key captionField imgUrl => exact incomparable_append_cons [] (by decide) _ _
  | user write => exact incomparable_append_cons ["users"] different _ []

/-- The database changes by the write applied, which is in flight. -/
theorem database_step {action : Action Device Image}
    (step : (machine firebase uid jpeg placeholder).Step before action after) :
    after.likes.database =
        applyWrites before.likes.database ((applied before action).toList.map Prod.snd) ∧
      ∀ entry ∈ applied before action, entry ∈ before.likes.inFlight := by
  have unserved (database : after.likes.database = before.likes.database)
      (none : applied before action = none) :
      after.likes.database =
          applyWrites before.likes.database ((applied before action).toList.map Prod.snd) ∧
        ∀ entry ∈ applied before action, entry ∈ before.likes.inFlight := by
    rw [none]
    exact ⟨database, by simp⟩
  cases action with
  | publishing device action =>
      obtain ⟨form, _, _, _, same⟩ := step_publishing step
      exact unserved (by rw [same]; rfl) rfl
  | userWrite device write =>
      obtain ⟨_, _, issued, _, same⟩ := step_userWrite step
      exact unserved (by rw [same]; rfl) rfl
  | likes action =>
      obtain ⟨inner, _⟩ := step_likes step
      cases action with
      | serve device =>
          obtain ⟨_, handled⟩ := inner
          simp only [Likes.machine, Likes.handle] at handled
          split at handled
          · rename_i owner write found
            have same := Option.some.inj handled
            rw [← same, applied, found]
            exact ⟨rfl, fun entry member => List.mem_of_find?_eq_some (member ▸ found)⟩
          · cases handled
      | callback device index =>
          obtain ⟨_, handled⟩ := inner
          obtain ⟨result, _, handled⟩ := Option.bind_eq_some_iff.mp handled
          have same := Option.some.inj handled
          exact unserved (by rw [← same]; rfl) rfl
      | tap device cell => exact unserved (Likes.step_other inner (by simp) (by simp)).1 rfl
      | answer device index => exact unserved (Likes.step_other inner (by simp) (by simp)).1 rfl
      | event device => exact unserved (Likes.step_other inner (by simp) (by simp)).1 rfl
      | configure device cell row img =>
          exact unserved (Likes.step_other inner (by simp) (by simp)).1 rfl

/-- What holds after the writes `seen` were applied. -/
structure AppliedTo (uid : Device → String) (database : Node) (state : State Device Image Data)
    (seen : List (Device × Write)) : Prop where
  queued : Queued uid state.likes
  database : state.likes.database = applyWrites database (seen.map Prod.snd)
  deeds : ∀ entry ∈ seen, ∃ deed, entry.2.assignments = [Deed.assignment (uid entry.1) deed]

/-- Every step applies the write it serves and no other. -/
theorem AppliedTo.step {database : Node} {action : Action Device Image}
    {seen : List (Device × Write)} (held : AppliedTo uid database before seen)
    (step : (machine firebase uid jpeg placeholder).Step before action after) :
    AppliedTo uid database after (seen ++ (applied before action).toList) := by
  obtain ⟨changed, inFlight⟩ := database_step step
  refine ⟨held.queued.step step, ?_, ?_⟩
  · rw [changed, held.database, List.map_append, applyWrites_append]
  · intro entry member
    rcases List.mem_append.mp member with old | new
    · exact held.deeds entry old
    · have pending := inFlight entry (Option.mem_toList.mp new)
      exact held.queued.performing _ (List.mem_map.mpr ⟨entry, pending, rfl⟩)

/-- **A user's node holds what the user's own devices wrote.** In every run of any number
of devices that each keep one signed-in user, the database is what the writes applied make
of it, and a user's node depends on the writes of that user's devices only: it is what those
alone would have made of it. (Where the user of a device changes, a late upload may reach
the node of the next user.) -/
theorem userNode_is_own (firebase : Firebase) (uid : Device → String)
    (jpeg : Image → Option Data) (placeholder : Option Image) (database : Node)
    (forms : Device → FeedVC Image) {actions : List (Action Device Image)}
    {finish : State Device Image Data}
    (run : (machine firebase uid jpeg placeholder).Run (initial database forms) actions finish) :
    let writes := (machine firebase uid jpeg placeholder).observed applied
      (initial database forms) actions
    finish.likes.database = applyWrites database (writes.map Prod.snd) ∧
      ∀ owner, finish.likes.database.sub (DataService.refUsers.child owner) =
        (applyWrites database ((writes.filter (uid ·.1 = owner)).map Prod.snd)).sub
          (DataService.refUsers.child owner) := by
  intro writes
  have unguarded : (machine firebase uid jpeg placeholder).Along (fun _ _ _ => True)
      (initial database forms) actions := fun _ _ _ _ _ _ _ _ => trivial
  have held := run.invariant_observed unguarded
    (fun before _ _ seen (held : AppliedTo uid database before seen) step _ => held.step step)
    ⟨queued_initial uid database, rfl, by simp⟩
  refine ⟨held.database, fun owner => ?_⟩
  rw [held.database, applyWrites, applyWrites, List.flatMap_map, List.flatMap_map]
  refine (Tree.sub_applyAll_flatMap_filter database ?_).symm
  intro entry member foreign write inside
  obtain ⟨deed, assigned⟩ := held.deeds entry member
  rw [assigned] at inside
  cases List.mem_singleton.mp inside
  exact Deed.incomparable_user (of_decide_eq_false foreign) deed

/-- Bob names himself, and Ann her image. -/
def bothEditProfiles : List (Action Bool Unit) :=
  [.userWrite false (.updateFirebaseProfileName "Bob"),
    .userWrite true (.updateFirebaseProfileImage "gs://ann"),
    .likes (.serve true), .likes (.serve false)]

/-- Ann's node is what her write alone would have made of it. -/
theorem ann_node_is_own :
    ∃ finish, (machine Firebase.byKey Likes.twoUsers (fun _ : Unit => some ()) none).execute
        (initial Likes.oneFundraiser emptyForms) bothEditProfiles = some finish ∧
      finish.likes.database.sub (DataService.refUsers.child "ann") =
        (applyWrites Likes.oneFundraiser (((machine Firebase.byKey Likes.twoUsers
          (fun _ : Unit => some ()) none).observed applied
            (initial Likes.oneFundraiser emptyForms) bothEditProfiles).filter
              (Likes.twoUsers ·.1 = "ann") |>.map Prod.snd)).sub
          (DataService.refUsers.child "ann") := by
  have reached : ((machine Firebase.byKey Likes.twoUsers (fun _ : Unit => some ()) none).execute
      (initial Likes.oneFundraiser emptyForms) bothEditProfiles).isSome := by decide
  obtain ⟨finish, executed⟩ := Option.isSome_iff_exists.mp reached
  exact ⟨finish, executed, (userNode_is_own Firebase.byKey Likes.twoUsers
    (fun _ : Unit => some ()) none Likes.oneFundraiser emptyForms
    (Machine.run_of_execute executed)).2 "ann"⟩

end MyFundi.Community
