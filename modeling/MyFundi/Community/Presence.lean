import MyFundi.Community.System
import MyFundi.Feed.PostObjects

/-!
# Fundraisers are never lost

No write of the app removes a fundraiser, and a count is written only over that of a
fundraiser its writer sees. So what a device sees only grows, and a count never reaches
the database before the fundraiser it belongs to.
-/

namespace MyFundi.Community

open Foundation

variable {Device Image Data : Type}

/-- The fundraiser is stored. -/
def Present (database : Node) (key : String) : Prop :=
  ¬ (database.sub (DataService.refFundraisers.child key)).IsNull

instance (database : Node) (key : String) : Decidable (Present database key) :=
  inferInstanceAs (Decidable (¬ _))

/-- Only the keys stored have to be looked at. -/
theorem forall_present_iff {database : Node} {property : String → Prop} :
    (∀ key, Present database key → property key) ↔
      ∀ key ∈ Firebase.keySet (database.sub DataService.refFundraisers), property key := by
  refine forall_congr' fun key => ?_
  rw [Firebase.mem_keySet, ← Tree.sub_append]
  rfl

namespace Deed

/-- The fundraiser a deed writes to. -/
def fundraiser : Deed → Option String
  | count postKey _ => some postKey
  | publish key _ _ => some key
  | user _ => none

/-- The deed can be performed on a database: a count is that of a fundraiser stored, and an
integer the app can hold. -/
def Allowed (database : Node) : Deed → Prop
  | count postKey likes => Present database postKey ∧ checkedInt likes = some likes
  | publish _ _ _ | user _ => True

/-- Only publishing places a whole fundraiser. -/
theorem eq_publish_of_path {owner key : String} {deed : Deed}
    (path : (deed.assignment owner).path = DataService.refFundraisers.child key) :
    ∃ captionField imgUrl, deed = .publish key captionField imgUrl := by
  cases deed with
  | count postKey likes =>
      exact (List.cons_ne_nil _ _ (List.cons.inj (List.cons.inj path).2).2).elim
  | publish postKey captionField imgUrl =>
      cases (List.cons.inj (List.cons.inj path).2).1
      exact ⟨captionField, imgUrl, rfl⟩
  | user write => exact absurd (List.cons.inj path).1 (by decide)

/-- Only a count is written where counts are stored. -/
theorem eq_count_of_path {owner postKey : String} {deed : Deed}
    (path : (deed.assignment owner).path = likesCountRef postKey) :
    ∃ likes, deed = .count postKey likes := by
  cases deed with
  | count other likes =>
      cases (List.cons.inj (List.cons.inj path).2).1
      exact ⟨likes, rfl⟩
  | publish other captionField imgUrl =>
      exact (List.cons_ne_nil _ _ (List.cons.inj (List.cons.inj path).2).2.symm).elim
  | user write => exact absurd (List.cons.inj path).1 (by decide)

/-- A deed leaves the fundraisers it does not write to as they are. -/
theorem incomparable_fundraiser (owner : String) {deed : Deed} {key : String}
    (other : deed.fundraiser ≠ some key) :
    Incomparable (deed.assignment owner).path (DataService.refFundraisers.child key) := by
  cases deed with
  | count postKey likes =>
      exact incomparable_append_cons ["fundraisers"] (fun same => other (congrArg some same))
        ["likes"] []
  | publish postKey captionField imgUrl =>
      exact incomparable_append_cons ["fundraisers"] (fun same => other (congrArg some same)) [] []
  | user write =>
      exact incomparable_append_cons [] (by decide) (owner :: write.child.path) [key]

/-- A deed of another user goes elsewhere than a user's like record, and so does one of the
user that is no like of the post. -/
theorem incomparable_record {other owner key : String} {deed : Deed}
    (away : other = owner → ∀ write, deed = .user write → write.child ≠ .like key) :
    Incomparable (deed.assignment other).path (likeRecordRef owner key) := by
  cases deed with
  | count postKey likes => exact incomparable_append_cons [] (by decide) _ _
  | publish postKey captionField imgUrl => exact incomparable_append_cons [] (by decide) _ _
  | user write =>
      rcases UserChild.ref_separate (other, write.child) (owner, .like key) with same | apart
      · obtain ⟨user, child⟩ := Prod.mk.inj same
        exact (away user write rfl child).elim
      · exact apart

variable {owner : String} {deed : Deed} {database : Node}

/-- A published record holds something. -/
theorem present_publish (captionField imgUrl : String) :
    ¬ (Node.ofFields (FeedVC.post captionField imgUrl)).IsNull := by
  intro empty
  have caption := Node.entry_ofFields
    (RecordWriter.post_keys_nodup (.feedVC captionField imgUrl)) "caption"
  have none : ((Node.ofFields (FeedVC.post captionField imgUrl)).entry "caption").IsNull :=
    empty.sub ["caption"]
  rw [show FeedVC.post captionField imgUrl = (RecordWriter.feedVC captionField imgUrl).post from rfl,
    caption] at none
  exact Tree.not_isNull_leaf _ none

/-- What is stored after a deed. -/
theorem present_set_iff (owner : String) (deed : Deed) (database : Node) (key : String) :
    Present (database.set (deed.assignment owner).path (deed.assignment owner).placed) key ↔
      deed.fundraiser = some key ∨ Present database key := by
  by_cases here : deed.fundraiser = some key
  · refine iff_of_true ?_ (Or.inl here)
    cases deed with
    | count postKey likes =>
        cases here
        apply Likes.fundraiser_of_count
        rw [assignment, Tree.sub_set_self]
        exact Tree.not_isNull_leaf _
    | publish postKey captionField imgUrl =>
        cases here
        rw [Present, assignment, Tree.sub_set_self]
        exact present_publish captionField imgUrl
    | user write => cases here
  · rw [Present, Tree.sub_set_of_incomparable database _ (incomparable_fundraiser owner here),
      or_iff_right here, Present]

end Deed

/-- Deeds that are allowed; a database grows when no fundraiser is lost. -/
def growing : WriteRule String Scalar where
  Fits := fun tree write => ∃ owner deed, write = Deed.assignment owner deed ∧ deed.Allowed tree
  Grows := fun first second => ∀ key, Present first key → Present second key
  grows_refl := fun _ _ => id
  grows_trans := fun left right key present => right key (left key present)
  fits_of_grows := by
    rintro tree grown write grows ⟨owner, deed, rfl, allowed⟩
    refine ⟨owner, deed, rfl, ?_⟩
    cases deed with
    | count postKey likes => exact ⟨grows postKey allowed.1, allowed.2⟩
    | publish key captionField imgUrl => trivial
    | user write => trivial
  grows_set := by
    rintro tree write ⟨owner, deed, rfl, _⟩ key present
    exact (Deed.present_set_iff owner deed tree key).mpr (Or.inr present)
  set_grows := by
    rintro tree grown write grows ⟨owner, deed, rfl, _⟩ key present
    exact (Deed.present_set_iff owner deed grown key).mpr
      (((Deed.present_set_iff owner deed tree key).mp present).imp_right (grows key))

/-- An allowed deed fits the growing database. -/
theorem growing_fits {database : Node} {deed : Deed} (owner : String)
    (allowed : deed.Allowed database) : growing.Fits database (deed.assignment owner) :=
  ⟨owner, deed, rfl, allowed⟩

/-- A count fits where its fundraiser is stored. -/
theorem present_of_fits {database : Node} {owner postKey : String} {likes : Int}
    (fits : growing.Fits database (Deed.assignment owner (.count postKey likes))) :
    Present database postKey := by
  obtain ⟨other, deed, same, allowed⟩ := fits
  obtain ⟨count, rfl⟩ := Deed.eq_count_of_path (congrArg Assignment.path same).symm
  exact allowed.1

variable [DecidableEq Device] {firebase : Firebase} {uid : Device → String}
  {jpeg : Image → Option Data} {placeholder : Option Image}
  {before after : State Device Image Data}

/-- What every step keeps: the writes in flight fit in order, and every post of a device is
a fundraiser that it sees. -/
structure Supported (uid : Device → String) (state : Likes.State Device Image) : Prop where
  coherent : Likes.Coherent uid state
  armed : Likes.Armed state
  ordered : state.replica.Ordered growing
  seen : Likes.AllPosts (fun device post => Present (state.replica.view device) post.postKey) state

omit [DecidableEq Device] in
/-- The deeds of a like are allowed where its fundraiser is stored. -/
theorem admits_like {database : Node} (owner : String) {postKey : String} {likes : Int}
    {add : Bool} (present : Present database postKey)
    (checked : checkedInt (if add then likes + 1 else likes - 1) =
      some (if add then likes + 1 else likes - 1)) :
    growing.Admits database
      ((likeDeeds postKey likes add).map fun deed => [deed.assignment owner]).flatten :=
  ⟨growing_fits owner ⟨present, checked⟩, growing_fits owner trivial, trivial⟩

omit [DecidableEq Device] in
/-- A deed is admitted alone if it is allowed. -/
theorem admits_singleton {database : Node} (owner : String) {deed : Deed}
    (allowed : deed.Allowed database) :
    growing.Admits database ([deed].map fun deed => [deed.assignment owner]).flatten :=
  ⟨growing_fits owner allowed, trivial⟩

/-- Every step keeps the writes in flight in order, and takes nothing from what a device
sees. -/
theorem Supported.grows {action : Action Device Image} (supported : Supported uid before.likes)
    (traffic : Traffic uid before after action) :
    after.likes.replica.Ordered growing ∧
      ∀ device, growing.Grows (before.likes.replica.view device)
        (after.likes.replica.view device) := by
  have issued {device : Device} {deeds : List Deed}
      (performed : after.likes.replica = perform uid before.likes.replica device deeds)
      (admits : growing.Admits (before.likes.replica.view device)
        (deeds.map fun deed => [deed.assignment (uid device)]).flatten) :
      after.likes.replica.Ordered growing ∧
        ∀ device, growing.Grows (before.likes.replica.view device)
          (after.likes.replica.view device) := by
    rw [performed]
    exact ⟨supported.ordered.issue admits, Replica.view_grows_issue admits⟩
  cases traffic with
  | like given object held checked performed records =>
      refine issued performed (admits_like _ ?_ (by simpa using checked))
      exact (supported.seen _).objects _ object
  | publish fresh unused performed records => exact issued performed (admits_singleton _ trivial)
  | user profile performed records => exact issued performed (admits_singleton _ trivial)
  | serve serves records =>
      exact ⟨supported.ordered.serves serves, supported.ordered.view_grows_serves serves⟩
  | quiet silent same records =>
      rw [same]
      exact ⟨supported.ordered, fun device => growing.grows_refl _⟩

/-- Every step of the app keeps the devices coherent. -/
theorem coherent_step {action : Action Device Image} (coherent : Likes.Coherent uid before.likes)
    (step : (machine firebase uid jpeg placeholder).Step before action after) :
    Likes.Coherent uid after.likes := by
  rcases step_cases step with ⟨inner, rfl, inside⟩ | ⟨device, writes, same⟩
  · exact coherent.step inside
  · rw [same]
    exact Likes.Coherent.notify coherent

/-- Every step of the app keeps the devices armed. -/
theorem armed_step {action : Action Device Image} (armed : Likes.Armed before.likes)
    (coherent : Likes.Coherent uid before.likes)
    (step : (machine firebase uid jpeg placeholder).Step before action after) :
    Likes.Armed after.likes := by
  rcases step_cases step with ⟨inner, rfl, inside⟩ | ⟨device, writes, same⟩
  · exact armed.step coherent inside
  · rw [same]
    have issued : Likes.Armed { before.likes with
        inFlight := before.likes.inFlight ++ writes.map (device, ·) } := armed
    exact issued.notify

/-- Posts stay good if a change of the count keeps them good and every fundraiser the
devices see makes a good post. -/
theorem allPosts_step {good : Device → Post → Prop} {action : Action Device Image}
    (all : Likes.AllPosts good before.likes) (coherent : Likes.Coherent uid before.likes)
    (step : (machine firebase uid jpeg placeholder).Step before action after)
    (adjusted : ∀ device post (likes : Int), good device post →
      good device { post with likes := some likes })
    (shown : ∀ device key, Present (after.likes.replica.view device) key →
      good device (Post.init key ((after.likes.replica.view device).sub
        (DataService.refFundraisers.child key)))) : Likes.AllPosts good after.likes := by
  simp only [Likes.State.view_replica] at shown
  rcases step_cases step with ⟨inner, rfl, inside⟩ | ⟨device, writes, same⟩
  · exact all.step coherent inside adjusted shown
  · rw [same] at shown ⊢
    have issued : Likes.AllPosts good { before.likes with
        inFlight := before.likes.inFlight ++ writes.map (device, ·) } := all
    exact issued.notify shown

/-- **No device loses a fundraiser**, along every step. -/
theorem Supported.step {action : Action Device Image} (supported : Supported uid before.likes)
    (step : (machine firebase uid jpeg placeholder).Step before action after) :
    Supported uid after.likes := by
  obtain ⟨ordered, grows⟩ := supported.grows (traffic supported.coherent step)
  refine ⟨coherent_step supported.coherent step, armed_step supported.armed supported.coherent step,
    ordered, ?_⟩
  refine allPosts_step (fun device => (supported.seen device).mono fun post => grows device _)
    supported.coherent step (fun _ _ _ seen => seen) ?_
  intro device key present
  exact present

/-- What every fitting write keeps is kept of the database. -/
theorem Supported.invariant {property : Node → Prop} {action : Action Device Image}
    (supported : Supported uid before.likes) (traffic : Traffic uid before after action)
    (keeps : ∀ database write, property database → growing.Fits database write →
      property (database.set write.path write.placed))
    (held : property before.likes.database) : property after.likes.database := by
  have unserved {device : Device} {deeds : List Deed}
      (performed : after.likes.replica = perform uid before.likes.replica device deeds) :
      after.likes.database = before.likes.database :=
    congrArg Replica.tree performed
  cases traffic with
  | like given object held checked performed records => rwa [unserved performed]
  | publish fresh unused performed records => rwa [unserved performed]
  | user profile performed records => rwa [unserved performed]
  | quiet silent same records =>
      rwa [show after.likes.database = _ from congrArg Replica.tree same]
  | serve serves records => exact supported.ordered.invariant_serves serves keeps held

theorem supported_initial (uid : Device → String) (database : Node) :
    Supported uid (Likes.initial database : Likes.State Device Image) := by
  refine ⟨Likes.coherent_initial database, Likes.armed_initial database, fun device => trivial, ?_⟩
  intro device
  refine ⟨?_, ?_⟩
  · intro post member
    cases member
  · intro snapshot member key present
    cases List.mem_singleton.mp member
    rw [← Tree.sub_append] at present
    exact present

end MyFundi.Community
