import MyFundi.Community.Presence

/-!
# A published fundraiser has its place to itself

The key of a new fundraiser is in use nowhere, and until the record reaches the database
only its publisher can see the fundraiser, so nobody else writes there.
-/

namespace MyFundi.Community

open Foundation

variable {Device Image Data : Type}

/-- The write places a whole fundraiser. -/
def Creates (write : Assignment String Scalar) : Prop :=
  ∃ key, write.path = DataService.refFundraisers.child key

/-- Every write in flight is a deed of its owner. -/
def Performing (uid : Device → String) (replica : Replica Device String Scalar) : Prop :=
  ∀ entry ∈ replica.pending, ∃ deed, entry.2 = [Deed.assignment (uid entry.1) deed]

/-- The deed publishes a fundraiser. -/
def Deed.Publishes : Deed → Prop
  | .publish _ _ _ => True
  | .count _ _ | .user _ => False

/-- Counts and user nodes are no places of whole fundraisers. -/
theorem Deed.not_creates (owner : String) {deed : Deed} (other : ¬ deed.Publishes) :
    ¬ Creates (deed.assignment owner) := by
  rintro ⟨key, path⟩
  obtain ⟨captionField, imgUrl, rfl⟩ := Deed.eq_publish_of_path path
  exact other trivial

/-- A write that goes to no place of a fundraiser goes elsewhere. -/
theorem fundraiser_ne_of_not_concerns {owner key : String} {deed : Deed}
    (away : ¬ Concerns key (deed.assignment owner).path) : deed.fundraiser ≠ some key := by
  intro here
  cases deed with
  | count postKey likes =>
      cases here
      exact away (Or.inl rfl)
  | publish postKey captionField imgUrl =>
      cases here
      exact away (Or.inl rfl)
  | user write => cases here

/-- A new key is the key of no fundraiser. -/
theorem NewKey.not_present {state : Likes.State Device Image} {key : String}
    (fresh : NewKey state key) : ¬ Present state.database key := by
  intro present
  apply present
  rw [Tree.isNull_iff_value]
  intro rest
  rw [Tree.value_sub]
  by_contra stored
  refine fresh.1 (DataService.refFundraisers.child key ++ rest) ?_ (Or.inl rfl)
  rw [Tree.mem_support]
  exact Option.isSome_iff_ne_none.mpr stored

/-- No write in flight goes to a fundraiser with a new key. -/
theorem NewKey.incomparable {state : Likes.State Device Image} {uid : Device → String}
    {key : String} (fresh : NewKey state key) (performing : Performing uid state.replica) :
    ∀ entry ∈ state.replica.pending, ∀ write ∈ entry.2,
      Incomparable write.path (DataService.refFundraisers.child key) := by
  intro entry member write inside
  obtain ⟨deed, issued⟩ := performing entry member
  obtain ⟨old, present, rfl⟩ := List.mem_map.mp member
  have away := fresh.2 old present write inside
  rw [issued] at inside
  cases List.mem_singleton.mp inside
  exact Deed.incomparable_fundraiser _ (fundraiser_ne_of_not_concerns away)

variable [DecidableEq Device] {firebase : Firebase} {uid : Device → String}
  {jpeg : Image → Option Data} {placeholder : Option Image}
  {before after : State Device Image Data}

/-- What every step keeps of the writes in flight. -/
structure Queued (uid : Device → String) (state : Likes.State Device Image) : Prop where
  supported : Supported uid state
  performing : Performing uid state.replica
  creating : state.replica.Creating Creates

/-- Deeds that publish nothing leave the places that others create alone, if no count is
that of a fundraiser another device is about to publish. -/
theorem Queued.follows {state : Likes.State Device Image} (queued : Queued uid state)
    {device : Device} {deed : Deed} (other : ¬ deed.Publishes)
    (seen : ∀ key, deed.fundraiser = some key → Present (state.replica.view device) key)
    {entry : Device × List (Assignment String Scalar)} (member : entry ∈ state.replica.pending) :
    Replica.MayFollow Creates entry (device, [deed.assignment (uid device)]) := by
  intro left leftInside right rightInside creation
  cases List.mem_singleton.mp rightInside
  rcases creation with creates | ⟨creates, different⟩
  · exact (Deed.not_creates _ other creates).elim
  · obtain ⟨key, path⟩ := creates
    have vacant := queued.creating.view_isNull member leftInside ⟨key, path⟩ different
    rw [path] at vacant ⊢
    exact (Deed.incomparable_fundraiser _ fun here => seen key here vacant).symm

/-- What is queued can be performed with new deeds behind it. -/
theorem Queued.performing_perform {state : Likes.State Device Image} (queued : Queued uid state)
    (device : Device) (deeds : List Deed) :
    Performing uid (perform uid state.replica device deeds) := by
  intro entry member
  rcases List.mem_append.mp member with old | new
  · exact queued.performing entry old
  · obtain ⟨batch, inside, rfl⟩ := List.mem_map.mp new
    obtain ⟨deed, _, rfl⟩ := List.mem_map.mp inside
    exact ⟨deed, rfl⟩

/-- Deeds that publish nothing, each on a fundraiser its user sees. -/
theorem Queued.creating_perform {state : Likes.State Device Image} (queued : Queued uid state)
    {device : Device} {deeds : List Deed} (others : ∀ deed ∈ deeds, ¬ deed.Publishes)
    (seen : ∀ deed ∈ deeds, ∀ key, deed.fundraiser = some key →
      Present (state.replica.view device) key) :
    (perform uid state.replica device deeds).Creating Creates := by
  refine queued.creating.issue ?_ ?_ ?_
  · rw [List.map_map, List.pairwise_map]
    refine List.pairwise_of_forall_mem_list fun first _ second member => ?_
    intro left _ right inside creation
    cases List.mem_singleton.mp inside
    rcases creation with creates | ⟨_, different⟩
    · exact (Deed.not_creates _ (others second member) creates).elim
    · exact (different rfl).elim
  · intro entry member batch inside
    obtain ⟨deed, listed, rfl⟩ := List.mem_map.mp inside
    exact queued.follows (others deed listed) (seen deed listed) member
  · intro batch inside write member creates
    obtain ⟨deed, listed, rfl⟩ := List.mem_map.mp inside
    cases List.mem_singleton.mp member
    exact (Deed.not_creates _ (others deed listed) creates).elim

/-- A fundraiser is published under a new key. -/
theorem Queued.creating_publish {state : Likes.State Device Image} (queued : Queued uid state)
    (device : Device) {key : String} (fresh : NewKey state key) (captionField imgUrl : String) :
    (perform uid state.replica device [.publish key captionField imgUrl]).Creating Creates := by
  refine queued.creating.issue ?_ ?_ ?_
  · exact List.pairwise_singleton _ _
  · intro entry member batch inside
    cases List.mem_singleton.mp inside
    intro left leftInside right rightInside _
    cases List.mem_singleton.mp rightInside
    exact fresh.incomparable queued.performing entry member left leftInside
  · intro batch inside write member _
    cases List.mem_singleton.mp inside
    cases List.mem_singleton.mp member
    exact not_not.mp fresh.not_present

/-- Every step keeps the pending deeds in the order of their performance. -/
theorem Queued.step {action : Action Device Image} (queued : Queued uid before.likes)
    (step : (machine firebase uid jpeg placeholder).Step before action after) :
    Queued uid after.likes := by
  refine ⟨queued.supported.step step, ?_, ?_⟩
  · cases traffic queued.supported.coherent step with
    | like _ _ _ _ performed _ => rw [performed]; exact queued.performing_perform _ _
    | publish _ _ performed _ => rw [performed]; exact queued.performing_perform _ _
    | user _ performed _ => rw [performed]; exact queued.performing_perform _ _
    | serve serves records => exact fun entry member => queued.performing entry (serves.mem_of_mem member)
    | quiet _ same _ => rw [same]; exact queued.performing
  · cases traffic queued.supported.coherent step with
    | like given object held checked performed records =>
        rw [performed]
        refine queued.creating_perform ?_ ?_
        · simp [likeDeeds, Deed.Publishes]
        · have present := (queued.supported.seen _).objects _ object
          simpa [likeDeeds, Deed.fundraiser] using present
    | publish fresh _ performed _ => rw [performed]; exact queued.creating_publish _ fresh _ _
    | user profile performed records =>
        rw [performed]
        refine queued.creating_perform ?_ ?_
        · simp [Deed.Publishes]
        · simp [Deed.fundraiser]
    | serve serves records => exact queued.creating.serves serves
    | quiet _ same _ => rw [same]; exact queued.creating

theorem queued_initial (uid : Device → String) (database : Node) :
    Queued uid (Likes.initial database : Likes.State Device Image) where
  supported := supported_initial uid database
  performing := by
    intro entry member
    cases member
  creating := by
    refine ⟨?_, List.Pairwise.nil⟩
    intro entry member
    cases member

end MyFundi.Community
