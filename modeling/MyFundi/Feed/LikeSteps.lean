import MyFundi.Feed.Likes

/-!
# What the steps of the like system keep and do

A cell always refers to its user's record for the post it shows, so a callback issues
exactly the two writes of a like for that post, and nothing else issues a write.
-/

namespace MyFundi

open Foundation

namespace Likes

variable {Device Image : Type}

namespace Client

/-- What every step keeps on a device of the user `uid`: a cell refers to the user's
record for the post it shows, and a pending read was started on the record for the
post shown at the tap. -/
structure Coherent (uid : String) (client : Client Image) : Prop where
  valid : ∀ cell object, (client.cells cell).post = some object → object < client.objects.length
  cells : ∀ cell, (client.cells cell).likesRef = (client.shownKey cell).map (likeRecordRef uid)
  reads : ∀ read ∈ client.reads, ∃ key, read.tapped = some key ∧ read.ref = likeRecordRef uid key
  callbacks : ∀ pending ∈ client.callbacks,
    ∃ key, pending.1.tapped = some key ∧ pending.1.ref = likeRecordRef uid key

variable {uid : String} {client next : Client Image}

/-- A tap reads the record for the post its cell shows. -/
theorem Coherent.tap {cell : Nat} (coherent : client.Coherent uid)
    (done : client.tap cell = some next) : next.Coherent uid := by
  obtain ⟨ref, refers, done⟩ := Option.bind_eq_some_iff.mp done
  cases done
  refine ⟨coherent.valid, coherent.cells, ?_, coherent.callbacks⟩
  intro read member
  rcases List.mem_append.mp member with old | new
  · exact coherent.reads read old
  · cases List.mem_singleton.mp new
    have shown := coherent.cells cell
    rw [show (client.cells cell).likesRef = some ref from refers] at shown
    obtain ⟨key, shows, same⟩ := Option.map_eq_some_iff.mp shown.symm
    exact ⟨key, shows, same.symm⟩

/-- An answer is what the device sees at the record for the tapped post. -/
theorem answer_eq_some {view : Node} {index : Nat} (coherent : client.Coherent uid)
    (done : client.answer view index = some next) :
    ∃ read key, client.reads[index]? = some read ∧ read.tapped = some key ∧
      next = { client with
        reads := client.reads.eraseIdx index
        callbacks := client.callbacks ++ [(read, view.sub (likeRecordRef uid key))] } := by
  obtain ⟨read, present, done⟩ := Option.bind_eq_some_iff.mp done
  cases done
  obtain ⟨key, tapped, ref⟩ := coherent.reads read (List.mem_of_getElem? present)
  exact ⟨read, key, present, tapped, by rw [ref]⟩

/-- An answer belongs to the read it answers. -/
theorem Coherent.answer {view : Node} {index : Nat} (coherent : client.Coherent uid)
    (done : client.answer view index = some next) : next.Coherent uid := by
  obtain ⟨read, present, done⟩ := Option.bind_eq_some_iff.mp done
  cases done
  refine ⟨coherent.valid, coherent.cells, ?_, ?_⟩
  · intro other member
    exact coherent.reads other (List.mem_of_mem_eraseIdx member)
  · intro pending member
    rcases List.mem_append.mp member with old | new
    · exact coherent.callbacks pending old
    · cases List.mem_singleton.mp new
      exact coherent.reads read (List.mem_of_getElem? present)

/-- What a callback does: it issues the two writes of a like for the post its cell
shows now, adding on an empty answer and removing otherwise. -/
theorem callback_eq_some {index : Nat} {writes : List Write} (coherent : client.Coherent uid)
    (done : client.callback index = some (next, writes)) :
    ∃ read snapshot object post likes,
      client.callbacks[index]? = some (read, snapshot) ∧
      (client.cells read.cell).post = some object ∧ client.objects[object]? = some post ∧
      post.likes = some likes ∧
      checkedInt (if snapshot.IsNull then likes + 1 else likes - 1) =
        some (if snapshot.IsNull then likes + 1 else likes - 1) ∧
      writes = likeWrites uid post.postKey likes snapshot.IsNull ∧
      ∃ shown adjusted, shown.post = some object ∧
        shown.likesRef = (client.cells read.cell).likesRef ∧ adjusted.postKey = post.postKey ∧
        adjusted.likes = some (if snapshot.IsNull then likes + 1 else likes - 1) ∧
        next = { client with
          objects := client.objects.set object adjusted
          cells := Function.update client.cells read.cell shown
          callbacks := client.callbacks.eraseIdx index } := by
  obtain ⟨⟨read, snapshot⟩, pending, done⟩ := Option.bind_eq_some_iff.mp done
  obtain ⟨object, held, done⟩ := Option.bind_eq_some_iff.mp done
  obtain ⟨post, present, done⟩ := Option.bind_eq_some_iff.mp done
  obtain ⟨⟨shown, adjusted, issued⟩, called, done⟩ := Option.bind_eq_some_iff.mp done
  cases done
  obtain ⟨samePost, sameRef, likesRef, likes, refers, counted, checked, sameKey, changed, rfl⟩ :=
    PostCell.likeTappedCallback_eq_some called
  have ref := coherent.cells read.cell
  simp only [shownKey, held, Option.bind_some, present, Option.map_some, refers,
    Option.some.injEq] at ref
  refine ⟨read, snapshot, object, post, likes, pending, held, present, counted, checked, ?_, shown,
    adjusted, samePost.trans held, sameRef, sameKey, changed, rfl⟩
  rw [ref]
  simp only [likeWrites, decide_eq_true_eq]
  rfl

/-- A callback returns exactly if the post has a count and the new one is in the range of
`Int`. -/
theorem callback_isSome_iff {index : Nat} {read : Read} {snapshot : Node} {object : PostObject}
    {post : Post} (coherent : client.Coherent uid)
    (pending : client.callbacks[index]? = some (read, snapshot))
    (held : (client.cells read.cell).post = some object)
    (present : client.objects[object]? = some post) :
    (client.callback index).isSome ↔ ∃ likes, post.likes = some likes ∧
      (checkedInt (if snapshot.IsNull then likes + 1 else likes - 1)).isSome := by
  constructor
  · intro returns
    obtain ⟨⟨next, writes⟩, done⟩ := Option.isSome_iff_exists.mp returns
    obtain ⟨_, _, _, _, likes, again, holds, found, counted, checked, _⟩ :=
      callback_eq_some coherent done
    cases pending.symm.trans again
    cases held.symm.trans holds
    cases present.symm.trans found
    exact ⟨likes, counted, Option.isSome_of_eq_some checked⟩
  · rintro ⟨likes, counted, inRange⟩
    have ref := coherent.cells read.cell
    simp only [shownKey, held, Option.bind_some, present, Option.map_some] at ref
    obtain ⟨result, called⟩ := Option.isSome_iff_exists.mp
      (PostCell.likeTappedCallback_isSome ref counted inRange)
    simp only [Client.callback, pending, held, present, called, Option.bind_eq_bind,
      Option.bind_some]
    rfl

/-- Replacing an object by one with the same key and a cell by one with the same
object and reference keeps coherence. -/
private theorem Coherent.replace {object cell : Nat} {post adjusted : Post}
    {shown : PostCell Image} (coherent : client.Coherent uid)
    (present : client.objects[object]? = some post) (sameKey : adjusted.postKey = post.postKey)
    (samePost : shown.post = (client.cells cell).post)
    (sameRef : shown.likesRef = (client.cells cell).likesRef) :
    ({ client with
      objects := client.objects.set object adjusted
      cells := Function.update client.cells cell shown } : Client Image).Coherent uid := by
  have posts (other : Nat) :
      (Function.update client.cells cell shown other).post = (client.cells other).post := by
    by_cases same : other = cell
    · subst same
      rw [Function.update_self, samePost]
    · rw [Function.update_of_ne same]
  have refs (other : Nat) :
      (Function.update client.cells cell shown other).likesRef =
        (client.cells other).likesRef := by
    by_cases same : other = cell
    · subst same
      rw [Function.update_self, sameRef]
    · rw [Function.update_of_ne same]
  have keys (other : PostObject) :
      (client.objects.set object adjusted)[other]?.map Post.postKey =
        client.objects[other]?.map Post.postKey := by
    rw [List.getElem?_set]
    by_cases same : object = other
    · subst same
      have bound := (List.getElem?_eq_some_iff.mp present).1
      simp only [↓reduceIte, bound, Option.map_some, sameKey, present]
    · simp only [same, ↓reduceIte]
  refine ⟨?_, ?_, coherent.reads, coherent.callbacks⟩
  · intro other held holds
    rw [List.length_set]
    exact coherent.valid other held ((posts other).symm.trans holds)
  · intro other
    refine (refs other).trans ((coherent.cells other).trans ?_)
    simp only [shownKey, posts, keys]

/-- A callback changes neither what its cell shows nor what it refers to. -/
theorem Coherent.callback {index : Nat} {writes : List Write} (coherent : client.Coherent uid)
    (done : client.callback index = some (next, writes)) : next.Coherent uid := by
  obtain ⟨read, snapshot, object, post, likes, pending, held, present, counted, _, rfl, shown,
    adjusted, samePost, sameRef, sameKey, _, rfl⟩ := callback_eq_some coherent done
  have replaced := coherent.replace present sameKey (samePost.trans held.symm) sameRef
  refine ⟨replaced.valid, replaced.cells, coherent.reads, ?_⟩
  intro other member
  exact coherent.callbacks other (List.mem_of_mem_eraseIdx member)

/-- An event makes new objects and leaves the old ones. -/
theorem Coherent.receive (coherent : client.Coherent uid) (firebase : Firebase)
    (snapshot : Node) : (client.receive firebase snapshot).Coherent uid := by
  refine ⟨?_, ?_, coherent.reads, coherent.callbacks⟩
  · intro cell object held
    simp only [Client.receive, List.length_append]
    exact Nat.lt_add_right _ (coherent.valid cell object held)
  · intro cell
    refine (coherent.cells cell).trans (congrArg (Option.map (likeRecordRef uid)) ?_)
    cases held : (client.cells cell).post with
    | none => simp only [shownKey, Client.receive, held, Option.bind_none]
    | some object =>
        simp only [shownKey, Client.receive, held, Option.bind_some,
          List.getElem?_append_left (coherent.valid cell object held)]

/-- A configured cell refers to the record for the post it now shows. -/
theorem Coherent.configure {firebase : Firebase} {cell row : Nat} {img : Option Image}
    (coherent : client.Coherent uid)
    (done : client.configure firebase (some uid) cell row img = some next) :
    next.Coherent uid := by
  obtain ⟨object, listed, done⟩ := Option.bind_eq_some_iff.mp done
  obtain ⟨post, present, done⟩ := Option.bind_eq_some_iff.mp done
  obtain ⟨⟨configured, download⟩, showing, done⟩ := Option.bind_eq_some_iff.mp done
  cases done
  obtain ⟨imageUrl, _, showing⟩ := Option.bind_eq_some_iff.mp showing
  obtain ⟨user, current, shows, refers⟩ := PostCell.configureCell_eq_some showing
  cases current
  refine ⟨?_, ?_, coherent.reads, coherent.callbacks⟩
  · intro other held holds
    by_cases same : other = cell
    · subst same
      simp only [Function.update_self, shows] at holds
      cases holds
      exact (List.getElem?_eq_some_iff.mp present).1
    · simp only [Function.update_of_ne same] at holds
      exact coherent.valid other held holds
  · intro other
    by_cases same : other = cell
    · subst same
      simp only [shownKey, Function.update_self, shows, refers, Option.bind_some, present,
        Option.map_some]
      rfl
    · simp only [shownKey, Function.update_of_ne same]
      exact coherent.cells other

end Client

variable [DecidableEq Device]

omit [DecidableEq Device] in
/-- Every device is coherent for its own user. -/
def Coherent (uid : Device → String) (state : State Device Image) : Prop :=
  ∀ device, (state.clients device).Coherent (uid device)

variable {firebase : Firebase} {uid : Device → String} {before after : State Device Image}

omit [DecidableEq Device] in
theorem coherent_initial (database : Node) :
    Coherent uid (initial database : State Device Image) := by
  intro device
  refine ⟨?_, ?_, ?_, ?_⟩
  · intro cell object held
    cases held
  · intro cell
    rfl
  · intro read member
    cases member
  · intro pending member
    cases member

theorem Coherent.setClient (coherent : Coherent uid before) {device : Device}
    {client : Client Image} (changed : client.Coherent (uid device)) :
    Coherent uid (before.setClient device client) := by
  intro other
  by_cases same : other = device
  · subst same
    simp only [State.setClient, Function.update_self]
    exact changed
  · simp only [State.setClient, Function.update_of_ne same]
    exact coherent other

theorem Coherent.notify (coherent : Coherent uid after) : Coherent uid (before.notify after) := by
  intro device
  simp only [State.notify]
  split
  · exact coherent device
  · have here := coherent device
    exact ⟨here.valid, here.cells, here.reads, here.callbacks⟩

/-- Every step keeps the devices coherent. -/
theorem Coherent.step {action : Action Device Image} (coherent : Coherent uid before)
    (step : (machine firebase uid).Step before action after) : Coherent uid after := by
  obtain ⟨_, handled⟩ := step
  cases action with
  | tap device cell =>
      obtain ⟨client, done, handled⟩ := Option.bind_eq_some_iff.mp handled
      cases handled
      exact coherent.setClient ((coherent device).tap done)
  | answer device index =>
      obtain ⟨client, done, handled⟩ := Option.bind_eq_some_iff.mp handled
      cases handled
      exact coherent.setClient ((coherent device).answer done)
  | callback device index =>
      obtain ⟨⟨client, writes⟩, done, handled⟩ := Option.bind_eq_some_iff.mp handled
      cases handled
      exact Coherent.notify (coherent.setClient ((coherent device).callback done))
  | serve device =>
      simp only [machine, handle] at handled
      split at handled <;> cases handled
      exact Coherent.notify coherent
  | event device =>
      simp only [machine, handle] at handled
      split at handled <;> cases handled
      have received := (coherent device).receive firebase
      apply coherent.setClient
      rename_i snapshot rest _
      exact ⟨(received snapshot).valid, (received snapshot).cells, (received snapshot).reads,
        (received snapshot).callbacks⟩
  | configure device cell row img =>
      obtain ⟨client, done, handled⟩ := Option.bind_eq_some_iff.mp handled
      cases handled
      exact coherent.setClient ((coherent device).configure done)

omit [DecidableEq Device] in
/-- A callback that is possible has its answer. -/
theorem Enabled.pending {state : State Device Image} {device : Device} {index : Nat}
    (enabled : Enabled state (.callback device index)) :
    ∃ read snapshot, (state.clients device).callbacks[index]? = some (read, snapshot) :=
  ⟨_, _, List.getElem?_eq_getElem enabled⟩

/-- The handler of an answered read returns if its callback does. -/
theorem handle_callback_isSome (state : State Device Image) (device : Device) (index : Nat) :
    (handle firebase uid state (.callback device index)).isSome =
      ((state.clients device).callback index).isSome := by
  cases called : (state.clients device).callback index with
  | none =>
      simp only [handle, called, Option.bind_eq_bind, Option.bind_none]
      rfl
  | some result =>
      simp only [handle, called, Option.bind_eq_bind, Option.bind_some]
      rfl

/-- The handlers that use no post return. -/
theorem isSome_handle {state : State Device Image} {action : Action Device Image}
    (enabled : Enabled state action) (noCallback : ∀ device index, action ≠ .callback device index)
    (noConfigure : ∀ device cell row img, action ≠ .configure device cell row img) :
    (handle firebase uid state action).isSome := by
  cases action with
  | tap device cell =>
      obtain ⟨ref, refers⟩ := Option.isSome_iff_exists.mp enabled
      simp only [handle, Client.tap, PostCell.likeTapped, refers, Option.bind_eq_bind,
        Option.bind_some]
      rfl
  | answer device index =>
      simp only [handle, Client.answer, List.getElem?_eq_getElem enabled, Option.bind_eq_bind,
        Option.bind_some]
      rfl
  | callback device index => exact (noCallback device index rfl).elim
  | serve device =>
      obtain ⟨entry, member, own⟩ := enabled
      have found : (state.inFlight.find? (·.1 = device)).isSome := by
        rw [List.find?_isSome]
        exact ⟨entry, member, decide_eq_true own⟩
      obtain ⟨first, found⟩ := Option.isSome_iff_exists.mp found
      simp only [handle, found]
      rfl
  | event device =>
      obtain ⟨snapshot, rest, waiting⟩ := List.exists_cons_of_ne_nil enabled
      simp only [handle, waiting]
      rfl
  | configure device cell row img => exact (noConfigure device cell row img rfl).elim

/-- What the callback step does: the two writes of a like for the post its cell shows
now are issued. -/
theorem step_callback {device : Device} {index : Nat} (coherent : Coherent uid before)
    (step : (machine firebase uid).Step before (.callback device index) after) :
    ∃ read snapshot object post likes,
      (before.clients device).callbacks[index]? = some (read, snapshot) ∧
      ((before.clients device).cells read.cell).post = some object ∧
      (before.clients device).objects[object]? = some post ∧ post.likes = some likes ∧
      checkedInt (if snapshot.IsNull then likes + 1 else likes - 1) =
        some (if snapshot.IsNull then likes + 1 else likes - 1) ∧
      after.database = before.database ∧
      after.inFlight = before.inFlight ++
        (likeWrites (uid device) post.postKey likes snapshot.IsNull).map (device, ·) := by
  obtain ⟨_, handled⟩ := step
  obtain ⟨⟨client, writes⟩, done, handled⟩ := Option.bind_eq_some_iff.mp handled
  cases handled
  obtain ⟨read, snapshot, object, post, likes, pending, held, present, counted, checked, rfl, _⟩ :=
    Client.callback_eq_some (coherent device) done
  exact ⟨read, snapshot, object, post, likes, pending, held, present, counted, checked, rfl, rfl⟩

/-- The server applies the first unapplied write of the device. -/
theorem step_serve {device : Device}
    (step : (machine firebase uid).Step before (.serve device) after) :
    ∃ front write rest, before.inFlight = front ++ (device, write) :: rest ∧
      (∀ entry ∈ front, entry.1 ≠ device) ∧
      after.database = applyWrites before.database [write] ∧ after.inFlight = front ++ rest := by
  obtain ⟨_, handled⟩ := step
  simp only [machine, handle] at handled
  split at handled <;> cases handled
  rename_i owner write found
  obtain ⟨own, front, rest, split, others⟩ := List.find?_eq_some_iff_append.mp found
  obtain rfl : owner = device := of_decide_eq_true own
  have apart : ∀ entry ∈ front, entry.1 ≠ owner := by
    intro entry member
    simpa using others entry member
  refine ⟨front, write, rest, split, apart, rfl, ?_⟩
  change before.inFlight.eraseP (·.1 = owner) = front ++ rest
  rw [split, List.eraseP_append_right _ (by simpa using apart)]
  simp only [decide_true, List.eraseP_cons_of_pos]

/-- Nothing else changes the database or issues a write. -/
theorem step_other {action : Action Device Image}
    (step : (machine firebase uid).Step before action after)
    (noCallback : ∀ device index, action ≠ .callback device index)
    (noServe : ∀ device, action ≠ .serve device) :
    after.database = before.database ∧ after.inFlight = before.inFlight := by
  obtain ⟨_, handled⟩ := step
  cases action with
  | tap device cell =>
      obtain ⟨client, _, handled⟩ := Option.bind_eq_some_iff.mp handled
      cases handled
      exact ⟨rfl, rfl⟩
  | answer device index =>
      obtain ⟨client, _, handled⟩ := Option.bind_eq_some_iff.mp handled
      cases handled
      exact ⟨rfl, rfl⟩
  | callback device index => exact (noCallback device index rfl).elim
  | serve device => exact (noServe device rfl).elim
  | event device =>
      simp only [machine, handle] at handled
      split at handled <;> cases handled
      exact ⟨rfl, rfl⟩
  | configure device cell row img =>
      obtain ⟨client, _, handled⟩ := Option.bind_eq_some_iff.mp handled
      cases handled
      exact ⟨rfl, rfl⟩

end Likes

end MyFundi
