import MyFundi.Feed.Screens

/-!
# The post objects of a device

Post objects come from events and change only in their count, and a cell that has shown a
post goes on showing one. So what holds of every post stored in the database holds of
every object (`AllPosts.step`), and what an answered read needs is there when its
callback runs (`Armed.step`).
-/

namespace MyFundi.Likes

open Foundation

variable {Device Image : Type}

namespace Client

/-- Every post object is good, and so is every post an undelivered event holds. -/
structure AllPosts (good : Post → Prop) (client : Client Image) : Prop where
  objects : ∀ post ∈ client.objects, good post
  events : ∀ snapshot ∈ client.events, ∀ key, ¬ (snapshot.sub [key]).IsNull →
    good (Post.init key (snapshot.sub [key]))

/-- The cell of a read in flight shows a post, and every listed object exists. -/
structure Armed (client : Client Image) : Prop where
  reads : ∀ read ∈ client.reads, (client.cells read.cell).post.isSome
  callbacks : ∀ pending ∈ client.callbacks, (client.cells pending.1.cell).post.isSome
  posts : ∀ object ∈ client.posts, object < client.objects.length

variable {good better : Post → Prop} {firebase : Firebase} {uid : String}
  {client next : Client Image}

theorem AllPosts.mono (all : client.AllPosts good) (imp : ∀ post, good post → better post) :
    client.AllPosts better where
  objects := fun post member => imp post (all.objects post member)
  events := fun snapshot member key present => imp _ (all.events snapshot member key present)

/-- A listed fundraiser is stored in the snapshot. -/
theorem of_mem_loadedPosts {snapshot : Node} {post : Post}
    (member : post ∈ FeedVC.loadedPosts firebase snapshot) :
    ∃ key, ¬ (snapshot.sub [key]).IsNull ∧ post = Post.init key (snapshot.sub [key]) := by
  obtain ⟨snap, child, decoded⟩ := List.mem_filterMap.mp member
  obtain ⟨key, inside, rfl⟩ := List.mem_map.mp child
  obtain ⟨record, delivered, rfl⟩ := Option.map_eq_some_iff.mp decoded
  refine ⟨key, (firebase.mem_childKeys snapshot key).mp inside, ?_⟩
  unfold Firebase.asDictionary at delivered
  split at delivered <;> cases delivered
  rfl

/-- The posts of an event delivered become objects. -/
theorem AllPosts.event (all : client.AllPosts good) {snapshot : Node} {rest : List Node}
    (waiting : client.events = snapshot :: rest) :
    ({ client.receive firebase snapshot with events := rest } : Client Image).AllPosts good := by
  refine ⟨?_, ?_⟩
  · intro post member
    rcases List.mem_append.mp member with old | new
    · exact all.objects post old
    · obtain ⟨key, present, rfl⟩ := of_mem_loadedPosts new
      exact all.events snapshot (by rw [waiting]; exact List.mem_cons_self) key present
  · intro other member
    exact all.events other (by rw [waiting]; exact List.mem_cons_of_mem _ member)

/-- A post changed in place has to be good itself. -/
theorem AllPosts.set (all : client.AllPosts good) {object : PostObject} {adjusted : Post}
    {cells : Nat → PostCell Image} {callbacks : List (Read × Node)} (still : good adjusted) :
    ({ client with
      objects := client.objects.set object adjusted
      cells := cells
      callbacks := callbacks } : Client Image).AllPosts good := by
  refine ⟨?_, all.events⟩
  intro post member
  rcases List.mem_or_eq_of_mem_set member with old | rfl
  · exact all.objects post old
  · exact still

/-- Replacing a cell by one that shows a post leaves no cell without one. -/
theorem isSome_update {cells : Nat → PostCell Image} {cell other : Nat} {shown : PostCell Image}
    (holds : (cells cell).post.isSome → shown.post.isSome)
    (some : (cells other).post.isSome) :
    (Function.update cells cell shown other).post.isSome := by
  by_cases same : other = cell
  · subst same
    rw [Function.update_self]
    exact holds some
  · rwa [Function.update_of_ne same]

/-- A tap is on a cell that shows a post. -/
theorem Armed.tap {cell : Nat} (armed : client.Armed) (coherent : client.Coherent uid)
    (done : client.tap cell = some next) : next.Armed := by
  obtain ⟨ref, refers, done⟩ := Option.bind_eq_some_iff.mp done
  cases done
  refine ⟨?_, armed.callbacks, armed.posts⟩
  intro read member
  rcases List.mem_append.mp member with old | new
  · exact armed.reads read old
  · cases List.mem_singleton.mp new
    have shown := coherent.cells cell
    rw [show (client.cells cell).likesRef = some ref from refers] at shown
    obtain ⟨key, shows, _⟩ := Option.map_eq_some_iff.mp shown.symm
    obtain ⟨object, held, _⟩ := Option.bind_eq_some_iff.mp shows
    exact Option.isSome_of_eq_some held

/-- The callback of an answer has the cell of its read. -/
theorem Armed.answer {view : Node} {index : Nat} (armed : client.Armed)
    (done : client.answer view index = some next) : next.Armed := by
  obtain ⟨read, present, done⟩ := Option.bind_eq_some_iff.mp done
  cases done
  refine ⟨fun other member => armed.reads other (List.mem_of_mem_eraseIdx member), ?_, armed.posts⟩
  intro pending member
  rcases List.mem_append.mp member with old | new
  · exact armed.callbacks pending old
  · cases List.mem_singleton.mp new
    exact armed.reads read (List.mem_of_getElem? present)

/-- A callback leaves every cell the post it shows. -/
theorem Armed.callback {index : Nat} {writes : List Write} (armed : client.Armed)
    (coherent : client.Coherent uid) (done : client.callback index = some (next, writes)) :
    next.Armed := by
  obtain ⟨read, snapshot, object, post, likes, heart, _, _, _, _, _, _, rfl⟩ :=
    callback_spec coherent done
  refine ⟨?_, ?_, ?_⟩
  · intro other member
    exact isSome_update id (armed.reads other member)
  · intro pending member
    exact isSome_update id (armed.callbacks pending (List.mem_of_mem_eraseIdx member))
  · intro listed member
    rw [List.length_set]
    exact armed.posts listed member

/-- A configured cell shows an object there is. -/
theorem Armed.configure {cell row : Nat} {img : Option Image} (armed : client.Armed)
    (done : client.configure firebase (some uid) cell row img = some next) : next.Armed := by
  obtain ⟨object, _, done⟩ := Option.bind_eq_some_iff.mp done
  obtain ⟨post, _, done⟩ := Option.bind_eq_some_iff.mp done
  obtain ⟨⟨configured, download⟩, showing, done⟩ := Option.bind_eq_some_iff.mp done
  cases done
  obtain ⟨imageUrl, _, showing⟩ := Option.bind_eq_some_iff.mp showing
  have holds : configured.post.isSome :=
    Option.isSome_of_eq_some (PostCell.shows_configureCell showing).1
  exact ⟨fun read member => isSome_update (fun _ => holds) (armed.reads read member),
    fun pending member => isSome_update (fun _ => holds) (armed.callbacks pending member),
    armed.posts⟩

/-- The objects an event lists are there. -/
theorem Armed.event (armed : client.Armed) (snapshot : Node) (rest : List Node) :
    ({ client.receive firebase snapshot with events := rest } : Client Image).Armed := by
  refine ⟨armed.reads, armed.callbacks, ?_⟩
  intro object member
  obtain ⟨index, inside, rfl⟩ := List.mem_map.mp member
  have bound := List.mem_range.mp inside
  change client.objects.length + index < (client.objects ++ _).length
  rw [List.length_append]
  omega

end Client

/-- Every post of every device is good. -/
def AllPosts (good : Device → Post → Prop) (state : State Device Image) : Prop :=
  ∀ device, (state.clients device).AllPosts (good device)

/-- Every device is armed. -/
def Armed (state : State Device Image) : Prop :=
  ∀ device, (state.clients device).Armed

theorem armed_initial (database : Node) : Armed (initial database : State Device Image) := by
  intro device
  refine ⟨?_, ?_, ?_⟩
  · intro read member
    cases member
  · intro pending member
    cases member
  · intro object member
    cases member

variable [DecidableEq Device] {good : Device → Post → Prop} {firebase : Firebase}
  {uid : Device → String} {before after : State Device Image}

/-- A property of each client that a change to one client keeps. -/
theorem forall_setClient {property : Device → Client Image → Prop}
    (held : ∀ device, property device (before.clients device)) {device : Device}
    {client : Client Image} (changed : property device client) (other : Device) :
    property other ((before.setClient device client).clients other) := by
  by_cases same : other = device
  · subst same
    simp only [State.setClient, Function.update_self]
    exact changed
  · simp only [State.setClient, Function.update_of_ne same]
    exact held other

/-- The posts of the events raised are those the devices see. -/
theorem AllPosts.notify (all : AllPosts good after)
    (shown : ∀ device key, ¬ ((after.view device).sub
        (DataService.refFundraisers.child key)).IsNull →
      good device (Post.init key ((after.view device).sub
        (DataService.refFundraisers.child key)))) :
    AllPosts good (before.notify after) := by
  intro device
  simp only [State.notify]
  split
  · exact all device
  · refine ⟨(all device).objects, ?_⟩
    intro snapshot member key present
    rcases List.mem_append.mp member with old | new
    · exact (all device).events snapshot old key present
    · cases List.mem_singleton.mp new
      rw [← Tree.sub_append] at present ⊢
      exact shown device key present

theorem Armed.notify (armed : Armed after) : Armed (before.notify after) := by
  intro device
  simp only [State.notify]
  split
  · exact armed device
  · exact ⟨(armed device).reads, (armed device).callbacks, (armed device).posts⟩

/-- Posts stay good if a change of the count keeps them good and every fundraiser the
devices see makes a good post. -/
theorem AllPosts.step {action : Action Device Image} (all : AllPosts good before)
    (coherent : Coherent uid before) (step : (machine firebase uid).Step before action after)
    (adjusted : ∀ device post (likes : Int), good device post →
      good device { post with likes := some likes })
    (shown : ∀ device key, ¬ ((after.view device).sub
        (DataService.refFundraisers.child key)).IsNull →
      good device (Post.init key ((after.view device).sub
        (DataService.refFundraisers.child key)))) : AllPosts good after := by
  obtain ⟨_, handled⟩ := step
  cases action with
  | tap device cell =>
      obtain ⟨client, done, handled⟩ := Option.bind_eq_some_iff.mp handled
      cases handled
      obtain ⟨ref, _, done⟩ := Option.bind_eq_some_iff.mp done
      cases done
      exact forall_setClient all ⟨(all device).objects, (all device).events⟩
  | answer device index =>
      obtain ⟨client, done, handled⟩ := Option.bind_eq_some_iff.mp handled
      cases handled
      obtain ⟨read, _, done⟩ := Option.bind_eq_some_iff.mp done
      cases done
      exact forall_setClient all ⟨(all device).objects, (all device).events⟩
  | configure device cell row img =>
      obtain ⟨client, done, handled⟩ := Option.bind_eq_some_iff.mp handled
      cases handled
      obtain ⟨object, _, done⟩ := Option.bind_eq_some_iff.mp done
      obtain ⟨post, _, done⟩ := Option.bind_eq_some_iff.mp done
      obtain ⟨result, _, done⟩ := Option.bind_eq_some_iff.mp done
      cases done
      exact forall_setClient all ⟨(all device).objects, (all device).events⟩
  | event device =>
      simp only [machine, handle] at handled
      split at handled <;> cases handled
      rename_i snapshot rest waiting
      exact forall_setClient all ((all device).event waiting)
  | serve device =>
      simp only [machine, handle] at handled
      split at handled <;> cases handled
      exact AllPosts.notify all shown
  | callback device index =>
      obtain ⟨⟨client, writes⟩, done, handled⟩ := Option.bind_eq_some_iff.mp handled
      cases handled
      obtain ⟨read, snapshot, object, post, likes, heart, _, _, present, _, _, _, rfl⟩ :=
        Client.callback_spec (coherent device) done
      have held := (all device).objects post (List.mem_of_getElem? present)
      refine AllPosts.notify ?_ shown
      exact forall_setClient all ((all device).set (adjusted device post _ held))

/-- Every step keeps the devices armed. -/
theorem Armed.step {action : Action Device Image} (armed : Armed before)
    (coherent : Coherent uid before) (step : (machine firebase uid).Step before action after) :
    Armed after := by
  obtain ⟨_, handled⟩ := step
  cases action with
  | tap device cell =>
      obtain ⟨client, done, handled⟩ := Option.bind_eq_some_iff.mp handled
      cases handled
      exact forall_setClient armed ((armed device).tap (coherent device) done)
  | answer device index =>
      obtain ⟨client, done, handled⟩ := Option.bind_eq_some_iff.mp handled
      cases handled
      exact forall_setClient armed ((armed device).answer done)
  | configure device cell row img =>
      obtain ⟨client, done, handled⟩ := Option.bind_eq_some_iff.mp handled
      cases handled
      exact forall_setClient armed ((armed device).configure done)
  | event device =>
      simp only [machine, handle] at handled
      split at handled <;> cases handled
      exact forall_setClient armed ((armed device).event _ _)
  | serve device =>
      simp only [machine, handle] at handled
      split at handled <;> cases handled
      exact Armed.notify armed
  | callback device index =>
      obtain ⟨⟨client, writes⟩, done, handled⟩ := Option.bind_eq_some_iff.mp handled
      cases handled
      exact Armed.notify (forall_setClient armed ((armed device).callback (coherent device) done))

end MyFundi.Likes
