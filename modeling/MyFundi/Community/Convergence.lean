import Mathlib.Algebra.Order.BigOperators.Group.Finset
import MyFundi.Community.System
import MyFundi.Feed.Screens

/-!
# Devices converge

Whatever the users do on any number of devices, a device with no event to come lists
exactly the fundraisers it sees. Once the users pause, the server's writes and events end
after finitely many steps, in whichever order they come, and then all devices list the
same posts: those of the database.
-/

namespace MyFundi.Community

open Foundation

variable {Device Image Data : Type} [DecidableEq Device] {firebase : Firebase}
  {uid : Device → String} {jpeg : Image → Option Data} {placeholder : Option Image}
  {before after : State Device Image Data}

/-- What every step keeps of what the devices hold and show. -/
structure Told (firebase : Firebase) (uid : Device → String)
    (state : Likes.State Device Image) : Prop where
  coherent : Likes.Coherent uid state
  informed : Likes.Informed firebase state
  current : Likes.Current firebase state

/-- A write is seen by its own device at once, which is told of it. -/
theorem Told.issue {likes : Likes.State Device Image} (told : Told firebase uid likes)
    (device : Device) (writes : List Write) : Told firebase uid (likes.issue device writes) where
  coherent := Likes.Coherent.notify told.coherent
  informed := told.informed.notify (fun _ => rfl) fun _ lists => lists
  current := Likes.Current.notify fun other _ => told.current other

/-- Every step keeps the devices told. -/
theorem Told.step {action : Action Device Image} (told : Told firebase uid before.likes)
    (step : (machine firebase uid jpeg placeholder).Step before action after) :
    Told firebase uid after.likes := by
  rcases step_cases step with ⟨inner, rfl, moved⟩ | ⟨device, writes, same⟩
  · exact ⟨told.coherent.step moved, told.informed.step told.coherent moved,
      told.current.step told.coherent told.informed moved⟩
  · rw [same]
    exact told.issue device writes

/-- In every run the devices have been told of what they see. -/
theorem told_run {database : Node} {forms : Device → FeedVC Image}
    {actions : List (Action Device Image)} {finish : State Device Image Data}
    (run : (machine firebase uid jpeg placeholder).Run (initial database forms) actions finish) :
    Told firebase uid finish.likes := by
  refine run.invariant (fun before _ _ (told : Told firebase uid before.likes) step =>
    told.step step) ?_
  exact ⟨Likes.coherent_initial database, Likes.informed_initial firebase database,
    Likes.current_initial firebase database⟩

/-- The server applies a write, or a device is sent an event. -/
def IsDelivery : Action Device Image → Prop
  | .likes (.serve _) | .likes (.event _) => True
  | _ => False

/-- The device lists the fundraisers of a node, and the cells of listed posts show them. -/
structure Lists (firebase : Firebase) (client : Likes.Client Image) (fundraisers : Node) :
    Prop where
  listed : client.listed = (FeedVC.loadedPosts firebase fundraisers).map some
  shown : ∀ cell, ∀ object ∈ client.posts, (client.cells cell).post = some object →
    ∀ post, client.objects[object]? = some post → (client.cells cell).Shows post

/-- How many deliveries can follow. -/
def deliveries [Fintype Device] (state : State Device Image Data) : Nat :=
  state.likes.inFlight.length * (Fintype.card Device + 1) +
    ∑ device, (state.likes.clients device).events.length

/-- A delivered event is one delivery less. -/
theorem deliveries_event [Fintype Device] {device : Device}
    (step : (machine firebase uid jpeg placeholder).Step before (.likes (.event device)) after) :
    deliveries after < deliveries before := by
  obtain ⟨⟨_, handled⟩, _⟩ := step_likes step
  simp only [Likes.machine, Likes.handle] at handled
  split at handled
  · cases handled
  · rename_i snapshot rest waiting
    have after_eq := Option.some.inj handled
    unfold deliveries
    rw [← after_eq]
    apply Nat.add_lt_add_left
    apply Finset.sum_lt_sum
    · intro other _
      by_cases same : other = device
      · subst same
        simp only [Likes.State.setClient, Function.update_self, waiting, List.length_cons]
        exact Nat.le_succ _
      · simp only [Likes.State.setClient, Function.update_of_ne same, le_refl]
    · refine ⟨device, Finset.mem_univ _, ?_⟩
      simp only [Likes.State.setClient, Function.update_self, waiting, List.length_cons]
      exact Nat.lt_succ_self _

/-- A change raises at most one event on each device. -/
theorem events_notify [Fintype Device] (earlier later : Likes.State Device Image) :
    ∑ device, ((earlier.notify later).clients device).events.length ≤
      ∑ device, (later.clients device).events.length + Fintype.card Device := by
  have one (device : Device) : ((earlier.notify later).clients device).events.length ≤
      (later.clients device).events.length + 1 := by
    simp only [Likes.State.notify]
    split
    · exact Nat.le_succ _
    · simp only [List.length_append, List.length_singleton, le_refl]
  refine (Finset.sum_le_sum fun device _ => one device).trans ?_
  rw [Finset.sum_add_distrib, ← Finset.card_eq_sum_ones, Finset.card_univ]

/-- A write applied is fewer deliveries, whatever events it raises. -/
theorem deliveries_serve [Fintype Device] {device : Device}
    (step : (machine firebase uid jpeg placeholder).Step before (.likes (.serve device)) after) :
    deliveries after < deliveries before := by
  obtain ⟨inner, _⟩ := step_likes step
  obtain ⟨front, write, rest, first, _, _, left⟩ := Likes.step_serve inner
  obtain ⟨_, handled⟩ := inner
  simp only [Likes.machine, Likes.handle] at handled
  split at handled
  · rename_i owner issued found
    have after_eq := Option.some.inj handled
    have events := events_notify before.likes { before.likes with
      database := applyWrites before.likes.database [issued]
      inFlight := before.likes.inFlight.eraseP (·.1 = device) }
    rw [after_eq] at events
    change _ ≤ ∑ device, (before.likes.clients device).events.length + _ at events
    have shorter : before.likes.inFlight.length = after.likes.inFlight.length + 1 := by
      rw [first, left, List.length_append, List.length_append, List.length_cons]
      omega
    unfold deliveries
    rw [shorter, Nat.add_mul, Nat.one_mul]
    omega
  · cases handled

/-- Every delivery makes the deliveries left fewer. -/
theorem deliveries_lt [Fintype Device] {action : Action Device Image}
    (step : (machine firebase uid jpeg placeholder).Step before action after)
    (delivery : IsDelivery action) : deliveries after < deliveries before := by
  cases action with
  | likes action =>
      cases action with
      | serve device => exact deliveries_serve step
      | event device => exact deliveries_event step
      | tap device cell => exact delivery.elim
      | answer device index => exact delivery.elim
      | callback device index => exact delivery.elim
      | configure device cell row img => exact delivery.elim
  | publishing device action => exact delivery.elim
  | userWrite device write => exact delivery.elim

/-- A write or an event that is under way can be delivered. -/
theorem exists_delivery {state : State Device Image Data}
    (pending : state.likes.inFlight ≠ [] ∨
      ∃ device, (state.likes.clients device).events ≠ []) :
    ∃ action next, IsDelivery action ∧
      (machine firebase uid jpeg placeholder).Step state action next := by
  rcases pending with writes | ⟨device, events⟩
  · obtain ⟨entry, member⟩ := List.exists_mem_of_ne_nil _ writes
    have enabled : Likes.Enabled state.likes (.serve entry.1) := ⟨entry, member, rfl⟩
    have found : (state.likes.inFlight.find? (·.1 = entry.1)).isSome := by
      rw [List.find?_isSome]
      exact ⟨entry, member, decide_eq_true rfl⟩
    obtain ⟨first, found⟩ := Option.isSome_iff_exists.mp found
    have handled : ((machine firebase uid jpeg placeholder).handle state
        (.likes (.serve entry.1))).isSome := by
      simp only [machine, handle, Likes.handle, found]
      rfl
    obtain ⟨next, same⟩ := Option.isSome_iff_exists.mp handled
    exact ⟨.likes (.serve entry.1), next, trivial, enabled, same⟩
  · obtain ⟨snapshot, rest, waiting⟩ := List.exists_cons_of_ne_nil events
    have handled : ((machine firebase uid jpeg placeholder).handle state
        (.likes (.event device))).isSome := by
      simp only [machine, handle, Likes.handle, waiting]
      rfl
    obtain ⟨next, same⟩ := Option.isSome_iff_exists.mp handled
    exact ⟨.likes (.event device), next, trivial, events, same⟩

/-- Nothing else can be delivered. -/
theorem not_exists_delivery {state : State Device Image Data} (writes : state.likes.inFlight = [])
    (events : ∀ device, (state.likes.clients device).events = []) :
    ¬ ∃ action next, IsDelivery action ∧
      (machine firebase uid jpeg placeholder).Step state action next := by
  rintro ⟨action, next, delivery, enabled, _⟩
  cases action with
  | likes action =>
      cases action with
      | serve device =>
          obtain ⟨entry, member, _⟩ := enabled
          rw [writes] at member
          cases member
      | event device => exact enabled (events device)
      | tap device cell => exact delivery.elim
      | answer device index => exact delivery.elim
      | callback device index => exact delivery.elim
      | configure device cell row img => exact delivery.elim
  | publishing device action => exact delivery.elim
  | userWrite device write => exact delivery.elim

/-- **A device with no event to come shows what it sees.** -/
theorem Told.lists {likes : Likes.State Device Image} (told : Told firebase uid likes)
    {device : Device} (none : (likes.clients device).events = []) :
    Lists firebase (likes.clients device)
      ((likes.view device).sub DataService.refFundraisers) :=
  ⟨(told.current device).listed none, (told.current device).shown none⟩

/-- **Devices converge.** In every run a device with no event to come lists the
fundraisers it sees, its own unapplied writes included. However the run went, the server's
writes and the events that follow it end after a bounded number of steps, and when none is
left every device lists the fundraisers of the database. -/
theorem devices_converge [Fintype Device] (firebase : Firebase) (uid : Device → String)
    (jpeg : Image → Option Data) (placeholder : Option Image) (database : Node)
    (forms : Device → FeedVC Image) {actions : List (Action Device Image)}
    {finish : State Device Image Data}
    (run : (machine firebase uid jpeg placeholder).Run (initial database forms) actions finish) :
    (∀ device, (finish.likes.clients device).events = [] →
        Lists firebase (finish.likes.clients device)
          ((finish.likes.view device).sub DataService.refFundraisers)) ∧
      ∀ further settled, (machine firebase uid jpeg placeholder).Run finish further settled →
        (∀ action ∈ further, IsDelivery action) →
          further.length ≤ deliveries finish ∧
          ((¬ ∃ action next, IsDelivery action ∧
              (machine firebase uid jpeg placeholder).Step settled action next) →
            ∀ device, Lists firebase (settled.likes.clients device)
              (settled.likes.database.sub DataService.refFundraisers)) := by
  have told := told_run run
  refine ⟨fun device none => told.lists none, fun further settled later delivering => ⟨?_, ?_⟩⟩
  · have bound := later.length_add_le (Machine.Along.of_actions delivering)
      fun _ _ _ step delivery => deliveries_lt step delivery
    exact (Nat.le_add_right _ _).trans bound
  · intro ended device
    have still : Told firebase uid settled.likes :=
      later.invariant (fun before _ _ (told : Told firebase uid before.likes) step =>
        told.step step) told
    have noWrites : settled.likes.inFlight = [] := by
      by_contra writes
      exact ended (exists_delivery (Or.inl writes))
    have noEvents : (settled.likes.clients device).events = [] := by
      by_contra events
      exact ended (exists_delivery (Or.inr ⟨device, events⟩))
    have lists := still.lists noEvents
    rwa [Likes.State.view_of_applied noWrites] at lists

section Liked

/-- Ann likes the post, and both devices end up listing it with one like. -/
theorem devices_converge_liked :
    ∃ settled : State Bool Unit Unit,
      (∀ device, (settled.likes.clients device).listed = [some {
        postKey := "walk", caption := some "A walk", imageUrl := some "gs://pic", likes := some 1
        currentDonation := some 0, donationGoal := some 0, title := some "Test" }]) ∧
      ∀ device, Lists Firebase.byKey (settled.likes.clients device)
        (settled.likes.database.sub DataService.refFundraisers) := by
  have liking : ((machine Firebase.byKey Likes.twoUsers (fun _ : Unit => some ()) none).execute
      (initial Likes.oneFundraiser emptyForms) [.likes (.event true), .likes (.configure true 0 0 none),
        .likes (.tap true 0), .likes (.answer true 0), .likes (.callback true 0)]).isSome := by
    decide
  obtain ⟨finish, liked⟩ := Option.isSome_iff_exists.mp liking
  have delivering : (((machine Firebase.byKey Likes.twoUsers (fun _ : Unit => some ()) none).execute
      (initial Likes.oneFundraiser emptyForms) [.likes (.event true), .likes (.configure true 0 0 none),
        .likes (.tap true 0), .likes (.answer true 0), .likes (.callback true 0)]).bind
      fun finish => (machine Firebase.byKey Likes.twoUsers (fun _ : Unit => some ()) none).execute
        finish [.likes (.event true), .likes (.serve true), .likes (.serve true),
          .likes (.event false), .likes (.event false)]).map (fun settled =>
      (settled.likes.inFlight.length, fun device : Bool =>
        ((settled.likes.clients device).events.length,
          (settled.likes.clients device).listed))) = some (0, fun _ => (0, [some {
        postKey := "walk", caption := some "A walk", imageUrl := some "gs://pic", likes := some 1
        currentDonation := some 0, donationGoal := some 0, title := some "Test" }])) := by
    decide
  obtain ⟨settled, delivered, shape⟩ := Option.map_eq_some_iff.mp delivering
  rw [liked, Option.bind_some] at delivered
  obtain ⟨writes, shown⟩ := Prod.mk.inj shape
  refine ⟨settled, fun device => (Prod.mk.inj (congrFun shown device)).2, ?_⟩
  have converge := devices_converge Firebase.byKey Likes.twoUsers (fun _ : Unit => some ()) none
    Likes.oneFundraiser emptyForms (Machine.run_of_execute liked)
  refine (converge.2 _ settled (Machine.run_of_execute delivered) ?_).2 ?_
  · simp [IsDelivery]
  · exact not_exists_delivery (List.eq_nil_of_length_eq_zero writes)
      fun device => List.eq_nil_of_length_eq_zero (Prod.mk.inj (congrFun shown device)).1

end Liked

end MyFundi.Community
