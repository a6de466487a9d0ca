import MyFundi.Community.NewKeys

/-!
# Every record is published once and kept

A record written on a device is either in flight, once, with nothing stored under its key,
or stored and never written again. Once stored it keeps every field but its count, as do
the fundraisers that were there before, and no two records share a key.
-/

namespace MyFundi.Community

open Foundation

variable {Device Image Data : Type}

/-- The two records agree in everything but the count. -/
def SameStory (stored written : Node) : Prop :=
  ∀ name, name ≠ "likes" → Node.entry stored name = Node.entry written name

/-- What the fundraiser under a key holds. -/
def fundraiser (database : Node) (key : String) : Node :=
  database.sub (DataService.refFundraisers.child key)

/-- The record is stored as it was written, its count apart. -/
def Held (database : Node) (record : String × Write) : Prop :=
  Present database record.1 ∧ ∃ post,
    record.2.assignments = [⟨DataService.refFundraisers.child record.1, post⟩] ∧
    SameStory (fundraiser database record.1) post

/-- The record is in flight, as the only write to its key, and nothing is stored there. -/
def Waiting (state : Likes.State Device Image) (device : Device) (record : String × Write) :
    Prop :=
  ¬ Present state.database record.1 ∧ ∃ front rest,
    state.replica.pending = front ++ (device, record.2.assignments) :: rest ∧
    ∀ entry ∈ front ++ rest, ∀ write ∈ entry.2,
      write.path ≠ DataService.refFundraisers.child record.1

/-- No write in flight replaces the fundraiser under a key. -/
def Unwritten (state : Likes.State Device Image) (key : String) : Prop :=
  ∀ entry ∈ state.replica.pending, ∀ write ∈ entry.2,
    write.path ≠ DataService.refFundraisers.child key

/-- A write elsewhere, or to the count, keeps the rest of a fundraiser. -/
theorem sameStory_set (owner : String) {deed : Deed} {database : Node} {key : String}
    (other : deed.fundraiser = some key → ¬ deed.Publishes) :
    SameStory (fundraiser (database.set (deed.assignment owner).path
      (deed.assignment owner).placed) key) (fundraiser database key) := by
  intro name different
  unfold fundraiser
  by_cases here : deed.fundraiser = some key
  · cases deed with
    | count postKey likes =>
        cases here
        rw [Node.entry, Node.entry, ← Tree.sub_append, ← Tree.sub_append]
        exact Tree.sub_set_of_incomparable database _
          (incomparable_append_cons ["fundraisers", key] (Ne.symm different) [] [])
    | publish postKey captionField imgUrl => exact (other here trivial).elim
    | user write => cases here
  · rw [Tree.sub_set_of_incomparable database _ (Deed.incomparable_fundraiser owner here)]

theorem SameStory.trans {first second third : Node} (left : SameStory first second)
    (right : SameStory second third) : SameStory first third :=
  fun name different => (left name different).trans (right name different)

variable [DecidableEq Device] {firebase : Firebase} {uid : Device → String}
  {jpeg : Image → Option Data} {placeholder : Option Image}
  {before after : State Device Image Data} {origin : Node}

/-- The write applied by the server is a deed of its device. -/
theorem Queued.deed_of_serves {earlier later : Likes.State Device Image}
    (queued : Queued uid earlier) {device : Device} {batch : List (Assignment String Scalar)}
    (serves : Replica.Serves device batch earlier.replica later.replica) :
    ∃ deed, batch = [Deed.assignment (uid device) deed] ∧
      later.database = earlier.database.set (Deed.assignment (uid device) deed).path
        (Deed.assignment (uid device) deed).placed := by
  obtain ⟨deed, same⟩ := queued.performing _ serves.mem
  refine ⟨deed, same, ?_⟩
  have tree := serves.tree
  rw [show batch = [Deed.assignment (uid device) deed] from same] at tree
  exact tree

/-- A fundraiser that is stored is not replaced. -/
theorem Queued.kept_of_serves {earlier later : Likes.State Device Image}
    (queued : Queued uid earlier) {device : Device} {batch : List (Assignment String Scalar)}
    (serves : Replica.Serves device batch earlier.replica later.replica) {key : String}
    (present : Present earlier.database key) :
    Present later.database key ∧
      SameStory (fundraiser later.database key) (fundraiser earlier.database key) := by
  obtain ⟨deed, same, tree⟩ := queued.deed_of_serves serves
  rw [tree]
  refine ⟨(Deed.present_set_iff _ deed _ key).mpr (Or.inr present), sameStory_set _ ?_⟩
  intro here publishes
  cases deed with
  | publish postKey captionField imgUrl =>
      cases here
      have vacant := queued.creating.vacant _ serves.mem
      rw [same] at vacant
      exact present (vacant _ (List.mem_singleton_self _) ⟨key, rfl⟩)
  | count postKey likes => exact publishes
  | user write => exact publishes

/-- What every step keeps of the records written since the fundraisers were `origin`. -/
structure Publications (origin : Node) (state : State Device Image Data) : Prop where
  kept : ∀ key, Present origin key → Present state.likes.database key ∧
    SameStory (fundraiser state.likes.database key) (fundraiser origin key)
  records : ∀ device, ∀ record ∈ state.records device, Held state.likes.database record ∨
    (device, record.2.assignments) ∈ state.likes.replica.pending ∧
      ∃ post, record.2.assignments = [⟨DataService.refFundraisers.child record.1, post⟩]
  recorded : ∀ entry ∈ state.likes.replica.pending, ∀ write ∈ entry.2, ∀ key,
    write.path = DataService.refFundraisers.child key →
      ∃ record ∈ state.records entry.1, record.1 = key
  known : ∀ key, Present state.likes.database key → Present origin key ∨
    ∃ device, ∃ record ∈ state.records device, record.1 = key
  fresh : ∀ device, ∀ record ∈ state.records device, ¬ Present origin record.1
  keys : ∀ device, ((state.records device).map Prod.fst).Nodup
  distinct : ∀ first second, ∀ left ∈ state.records first, ∀ right ∈ state.records second,
    left.1 = right.1 → first = second

/-- What a record has stored stays when later writes are applied. -/
theorem Held.serves {earlier later : Likes.State Device Image} (queued : Queued uid earlier)
    {device : Device} {batch : List (Assignment String Scalar)} {record : String × Write}
    (held : Held earlier.database record)
    (serves : Replica.Serves device batch earlier.replica later.replica) :
    Held later.database record := by
  obtain ⟨present, post, assigned, story⟩ := held
  obtain ⟨still, same⟩ := queued.kept_of_serves serves present
  exact ⟨still, post, assigned, same.trans story⟩

omit [DecidableEq Device] in
/-- Nothing is applied: only the queue and the records may have grown. -/
theorem Publications.of_pending (publications : Publications origin before)
    (database : after.likes.database = before.likes.database)
    (records : after.records = before.records)
    (pending : ∀ entry, entry ∈ before.likes.replica.pending →
      entry ∈ after.likes.replica.pending)
    (plain : ∀ entry ∈ after.likes.replica.pending, entry ∈ before.likes.replica.pending ∨
      ∀ write ∈ entry.2, ¬ Creates write) : Publications origin after := by
  refine ⟨?_, ?_, ?_, ?_, ?_, ?_, ?_⟩
  · rw [database]
    exact publications.kept
  · rw [database, records]
    intro device record member
    exact (publications.records device record member).imp_right fun inFlight =>
      ⟨pending _ inFlight.1, inFlight.2⟩
  · rw [records]
    intro entry member write inside key path
    rcases plain entry member with old | away
    · exact publications.recorded entry old write inside key path
    · exact (away write inside ⟨key, path⟩).elim
  · rw [database, records]
    exact publications.known
  · rw [records]
    exact publications.fresh
  · rw [records]
    exact publications.keys
  · rw [records]
    exact publications.distinct

omit [DecidableEq Device] in
/-- Deeds that publish nothing record nothing. -/
theorem Publications.perform [DecidableEq Device] (publications : Publications origin before)
    {device : Device} {deeds : List Deed} (others : ∀ deed ∈ deeds, ¬ deed.Publishes)
    (performed : after.likes.replica = perform uid before.likes.replica device deeds)
    (records : after.records = before.records) : Publications origin after := by
  refine publications.of_pending (congrArg Replica.tree performed) records ?_ ?_
  · intro entry member
    rw [performed]
    exact List.mem_append_left _ member
  · intro entry member
    rw [performed] at member
    rcases List.mem_append.mp member with old | new
    · exact Or.inl old
    · right
      obtain ⟨batch, inside, rfl⟩ := List.mem_map.mp new
      obtain ⟨deed, listed, rfl⟩ := List.mem_map.mp inside
      intro write single
      cases List.mem_singleton.mp single
      exact Deed.not_creates _ (others deed listed)

/-- A key in use is not new. -/
theorem Publications.key_ne (publications : Publications origin before)
    (queued : Queued uid before.likes) {key : String} (fresh : NewKey before.likes key)
    {device : Device} {record : String × Write} (member : record ∈ before.records device) :
    record.1 ≠ key := by
  rintro rfl
  rcases publications.records device record member with held | ⟨inFlight, post, assigned⟩
  · exact fresh.not_present held.1
  · have apart := fresh.incomparable queued.performing _ inFlight
    rw [assigned] at apart
    exact (apart _ (List.mem_singleton_self _)).1 List.prefix_rfl

/-- A publication under a new key is one more. -/
theorem Publications.publish (publications : Publications origin before)
    (queued : Queued uid before.likes) {device : Device} {key captionField imgUrl : String}
    (fresh : NewKey before.likes key) (unused : key ∉ (before.records device).map Prod.fst)
    (performed : after.likes.replica = Community.perform uid before.likes.replica device
      [.publish key captionField imgUrl])
    (records : after.records = Function.update before.records device (before.records device ++
      [(key, FeedVC.postToFirebase key captionField imgUrl)])) : Publications origin after := by
  have database : after.likes.database = before.likes.database := congrArg Replica.tree performed
  have cases {other : Device} {record : String × Write} (member : record ∈ after.records other) :
      record ∈ before.records other ∨
        other = device ∧ record = (key, FeedVC.postToFirebase key captionField imgUrl) := by
    rw [records] at member
    by_cases same : other = device
    · subst same
      rw [Function.update_self] at member
      exact (List.mem_append.mp member).imp_right fun new => ⟨rfl, List.mem_singleton.mp new⟩
    · rw [Function.update_of_ne same] at member
      exact Or.inl member
  have still {other : Device} {record : String × Write} (member : record ∈ before.records other) :
      record ∈ after.records other := by
    rw [records]
    by_cases same : other = device
    · subst same
      rw [Function.update_self]
      exact List.mem_append_left _ member
    · rwa [Function.update_of_ne same]
  have written : (key, FeedVC.postToFirebase key captionField imgUrl) ∈ after.records device := by
    rw [records, Function.update_self]
    exact List.mem_append_right _ (List.mem_singleton_self _)
  refine ⟨?_, ?_, ?_, ?_, ?_, ?_, ?_⟩
  · rw [database]
    exact publications.kept
  · rw [database, performed]
    intro other record member
    rcases cases member with old | ⟨rfl, rfl⟩
    · exact (publications.records other record old).imp_right fun inFlight =>
        ⟨List.mem_append_left _ inFlight.1, inFlight.2⟩
    · exact Or.inr ⟨List.mem_append_right _ (List.mem_singleton_self _), _, rfl⟩
  · rw [performed]
    intro entry member write inside other path
    rcases List.mem_append.mp member with old | new
    · obtain ⟨record, present, same⟩ := publications.recorded entry old write inside other path
      exact ⟨record, still present, same⟩
    · cases List.mem_singleton.mp new
      cases List.mem_singleton.mp inside
      cases path
      exact ⟨_, written, rfl⟩
  · rw [database]
    intro other present
    refine (publications.known other present).imp_right ?_
    rintro ⟨writer, record, member, same⟩
    exact ⟨writer, record, still member, same⟩
  · intro other record member
    rcases cases member with old | ⟨_, rfl⟩
    · exact publications.fresh other record old
    · exact fun present => fresh.not_present (publications.kept key present).1
  · intro other
    rw [records]
    by_cases same : other = device
    · subst same
      rw [Function.update_self, List.map_append, List.nodup_append]
      refine ⟨publications.keys other, List.nodup_singleton _, ?_⟩
      rintro old member new added rfl
      cases List.mem_singleton.mp added
      exact unused member
    · rw [Function.update_of_ne same]
      exact publications.keys other
  · intro first second left leftMember right rightMember same
    rcases cases leftMember with leftOld | ⟨rfl, rfl⟩
    · rcases cases rightMember with rightOld | ⟨rfl, rfl⟩
      · exact publications.distinct first second left leftOld right rightOld same
      · exact (publications.key_ne queued fresh leftOld same).elim
    · rcases cases rightMember with rightOld | ⟨rfl, rfl⟩
      · exact (publications.key_ne queued fresh rightOld same.symm).elim
      · rfl

/-- A record applied is stored under its key. -/
theorem Publications.serve (publications : Publications origin before)
    (queued : Queued uid before.likes) {device : Device}
    {batch : List (Assignment String Scalar)}
    (serves : Replica.Serves device batch before.likes.replica after.likes.replica)
    (records : after.records = before.records) : Publications origin after := by
  obtain ⟨deed, same, tree⟩ := queued.deed_of_serves serves
  refine ⟨?_, ?_, ?_, ?_, ?_, ?_, ?_⟩
  · intro key present
    obtain ⟨there, story⟩ := publications.kept key present
    obtain ⟨still, kept⟩ := queued.kept_of_serves serves there
    exact ⟨still, kept.trans story⟩
  · rw [records]
    intro other record member
    rcases publications.records other record member with held | ⟨inFlight, post, assigned⟩
    · exact Or.inl (held.serves queued serves)
    · obtain ⟨front, rest, first, _, applied, left⟩ := serves
      rw [first] at inFlight
      rw [left]
      rcases List.mem_append.mp inFlight with inFront | later
      · exact Or.inr ⟨List.mem_append_left _ inFront, post, assigned⟩
      · rcases List.mem_cons.mp later with served | inRest
        · left
          -- The write of this very record is applied.
          have issued : record.2.assignments = batch := (Prod.mk.inj served).2
          have placed := assigned.symm.trans (issued.trans same)
          rw [← (List.cons.inj placed).1] at tree
          obtain ⟨captionField, imgUrl, rfl⟩ :=
            Deed.eq_publish_of_path (congrArg Assignment.path (List.cons.inj placed).1).symm
          cases placed
          refine ⟨?_, _, assigned, ?_⟩
          · rw [Present, tree, Tree.sub_set_self]
            exact Deed.present_publish captionField imgUrl
          · intro name _
            rw [fundraiser, tree, Tree.sub_set_self]
        · exact Or.inr ⟨List.mem_append_right _ inRest, post, assigned⟩
  · rw [records]
    intro entry member
    exact publications.recorded entry (serves.mem_of_mem member)
  · rw [records, tree]
    intro key present
    rcases (Deed.present_set_iff _ deed _ key).mp present with here | old
    · cases deed with
      | publish postKey captionField imgUrl =>
          cases here
          right
          obtain ⟨record, member, named⟩ := publications.recorded _ serves.mem _
            (by rw [same]; exact List.mem_singleton_self _) key rfl
          exact ⟨device, record, member, named⟩
      | count postKey likes =>
          cases here
          have admits := queued.supported.ordered.admits serves
          rw [same] at admits
          exact publications.known key (present_of_fits admits.1)
      | user write => cases here
    · exact publications.known key old
  · rw [records]
    exact publications.fresh
  · rw [records]
    exact publications.keys
  · rw [records]
    exact publications.distinct

/-- Every step keeps account of what was published. -/
theorem Publications.step {action : Action Device Image}
    (publications : Publications origin before) (queued : Queued uid before.likes)
    (step : (machine firebase uid jpeg placeholder).Step before action after) :
    Publications origin after := by
  cases traffic queued.supported.coherent step with
  | like given object held checked performed records =>
      exact publications.perform (by simp [likeDeeds, Deed.Publishes]) performed records
  | publish fresh unused performed records =>
      exact publications.publish queued fresh unused performed records
  | user profile performed records =>
      exact publications.perform (by simp [Deed.Publishes]) performed records
  | serve serves records => exact publications.serve queued serves records
  | quiet silent same records =>
      refine publications.of_pending (congrArg Replica.tree same) records ?_ ?_
      · rw [same]
        exact fun _ => id
      · rw [same]
        exact fun _ => Or.inl

omit [DecidableEq Device] in
theorem publications_initial (database : Node) (forms : Device → FeedVC Image) :
    Publications database (initial database forms : State Device Image Data) where
  kept := fun _ present => ⟨present, fun _ _ => rfl⟩
  records := by
    intro device record member
    cases member
  recorded := by
    intro entry member
    cases member
  known := fun _ => Or.inl
  fresh := by
    intro device record member
    cases member
  keys := fun _ => List.nodup_nil
  distinct := by
    intro first second left member
    cases member

/-- A record in flight is in flight once. -/
theorem Queued.waiting {state : Likes.State Device Image} (queued : Queued uid state)
    {device : Device} {record : String × Write} {post : Node}
    (inFlight : (device, record.2.assignments) ∈ state.replica.pending)
    (assigned : record.2.assignments = [⟨DataService.refFundraisers.child record.1, post⟩]) :
    Waiting state device record := by
  have single : ⟨DataService.refFundraisers.child record.1, post⟩ ∈ record.2.assignments := by
    rw [assigned]
    exact List.mem_singleton_self _
  refine ⟨not_not.mpr (queued.creating.vacant _ inFlight _ single ⟨_, rfl⟩), ?_⟩
  obtain ⟨front, rest, split⟩ := List.append_of_mem inFlight
  have alone := queued.creating.alone
  rw [split, List.pairwise_append, List.pairwise_cons] at alone
  refine ⟨front, rest, split, ?_⟩
  intro entry member write inside path
  rcases List.mem_append.mp member with earlier | later
  · have apart := alone.2.2 entry earlier _ List.mem_cons_self write inside _ single
      (Or.inl ⟨_, rfl⟩)
    exact apart.1 (path ▸ List.prefix_rfl)
  · have apart := alone.2.1.1 entry later _ single write inside (Or.inl ⟨_, path⟩)
    exact apart.1 (path ▸ List.prefix_rfl)

/-- **Every record is published exactly once and kept.** In every run of any number of
devices, the fundraisers that were there keep everything but their counts; every record
written on a device is either in flight once, with nothing stored under its key, or stored
as it was written, its count apart, and not to be written again; every other fundraiser
stored was there before; and no two records share a key, nor has one the key of a
fundraiser that was there. -/
theorem published_once (firebase : Firebase) (uid : Device → String)
    (jpeg : Image → Option Data) (placeholder : Option Image) (database : Node)
    (forms : Device → FeedVC Image) {actions : List (Action Device Image)}
    {finish : State Device Image Data}
    (run : (machine firebase uid jpeg placeholder).Run (initial database forms) actions finish) :
    (∀ key, Present database key → Present finish.likes.database key ∧
        SameStory (fundraiser finish.likes.database key) (fundraiser database key)) ∧
      (∀ device, ∀ record ∈ finish.records device, ¬ Present database record.1 ∧
        (Waiting finish.likes device record ∨
          Held finish.likes.database record ∧ Unwritten finish.likes record.1)) ∧
      (∀ key, Present finish.likes.database key → Present database key ∨
        ∃ device, ∃ record ∈ finish.records device, record.1 = key) ∧
      (∀ device, ((finish.records device).map Prod.fst).Nodup) ∧
      ∀ first second, ∀ left ∈ finish.records first, ∀ right ∈ finish.records second,
        left.1 = right.1 → first = second := by
  have reached : Queued uid finish.likes ∧ Publications database finish := by
    refine run.invariant (fun before _ _
      (held : Queued uid before.likes ∧ Publications database before) step =>
        ⟨held.1.step step, held.2.step held.1 step⟩) ?_
    exact ⟨queued_initial uid database, publications_initial database forms⟩
  obtain ⟨queued, publications⟩ := reached
  refine ⟨publications.kept, fun device record member => ⟨publications.fresh device record member,
    ?_⟩, publications.known, publications.keys, publications.distinct⟩
  rcases publications.records device record member with held | ⟨inFlight, post, assigned⟩
  · refine Or.inr ⟨held, ?_⟩
    intro entry pending write inside path
    refine held.1 ?_
    rw [← path]
    exact queued.creating.vacant entry pending write inside ⟨_, path⟩
  · exact Or.inl (queued.waiting inFlight assigned)

/-- Bob publishes a run. -/
def bobPublishes : List (Action Bool Unit) :=
  [.publishing false (.editCaption "A run"), .publishing false (.pickImage (some ())),
    .publishing false .postBtnTapped, .publishing false (.uploadSucceeded 0 "gs://run" "run"),
    .likes (.serve false)]

/-- The record that Bob wrote is stored beside the fundraiser that was there. -/
theorem bob_published_once :
    ∃ finish, (machine Firebase.byKey Likes.twoUsers (fun _ : Unit => some ()) none).execute
        (initial Likes.oneFundraiser emptyForms) bobPublishes = some finish ∧
      (finish.records false).map Prod.fst = ["run"] ∧
      (∀ record ∈ finish.records false, Held finish.likes.database record) ∧
      Present finish.likes.database "walk" := by
  have reached : ((machine Firebase.byKey Likes.twoUsers (fun _ : Unit => some ()) none).execute
      (initial Likes.oneFundraiser emptyForms) bobPublishes).map (fun finish =>
        (finish.likes.inFlight.length, (finish.records false).map Prod.fst)) =
          some (0, ["run"]) := by
    decide
  obtain ⟨finish, executed, shape⟩ := Option.map_eq_some_iff.mp reached
  obtain ⟨applied, keys⟩ := Prod.mk.inj shape
  obtain ⟨kept, written, _⟩ := published_once Firebase.byKey Likes.twoUsers
    (fun _ : Unit => some ()) none Likes.oneFundraiser emptyForms (Machine.run_of_execute executed)
  refine ⟨finish, executed, keys, fun record member => ?_, (kept "walk" (by decide)).1⟩
  rcases (written false record member).2 with ⟨_, front, rest, waiting, _⟩ | ⟨held, _⟩
  · rw [Likes.State.replica, List.eq_nil_of_length_eq_zero applied] at waiting
    exact absurd waiting (by simp)
  · exact held

end MyFundi.Community
