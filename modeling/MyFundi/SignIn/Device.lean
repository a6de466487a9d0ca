import MyFundi.Services.KeychainTable
import MyFundi.SignIn.Agreement

/-!
# Sessions on a device

The app keeps the uid under `KEY_UID` in the wrapper of the system's keychain, which may
refuse a call. While no read is refused, a session goes as one that only keeps a uid, with
the results of the wrapper for its keychain writes; and when nothing is refused at all, no
keychain write or removal of the app fails to take effect.
-/

namespace MyFundi.Device

open Foundation SecItem

/-- `KEY_UID`, the key under which the uid is stored. -/
def keyUid : String := "uid"

/-- A session and the items of the keychain. -/
structure State where
  session : Session.State
  items : Keychain

/-- What the user and the environment can do, with what the system refuses: the read, the
removal, and the addition or the update of the item. -/
inductive Action where
  | launch
  | viewDidAppear (refused : Bool)
  | facebookButtonTapped
  | loginTapped
  | answerFacebook (authenticated : Bool)
  | answerAuth (index : Nat) (user : Option Session.FirebaseUser)
  | callback (index : Nat) (refused refusedUpdate : Bool)
  | signOutTapped (refused throws : Bool)
  | openProfile
  | openFeed
  | useCurrentUser (refused : Bool)

variable (wrapper : KeychainWrapper)

/-- What a read of the uid answers. -/
def readUid (refused : Bool) (items : Keychain) : Option String :=
  wrapper.string refused items keyUid none

/-- The keychain call of an action, with its result. A callback that completes a sign-in
sets the uid; other actions leave the items as they are. -/
def keychainResult (state : State) : Action → Bool × Keychain
  | .callback index refused refusedUpdate =>
      match (state.session.callbacks[index]?).bind Session.Callback.user with
      | some user => wrapper.set refused refusedUpdate state.items user.uid keyUid none
      | none => (true, state.items)
  | .signOutTapped refused _ => wrapper.removeObject refused state.items keyUid none
  | _ => (true, state.items)

/-- A read of the action is refused. -/
def readRefused : Action → Bool
  | .viewDidAppear refused | .useCurrentUser refused => refused
  | _ => false

/-- The action with the result of its keychain call. -/
def sessionAction (state : State) : Action → Session.Action
  | .launch => .launch
  | .viewDidAppear _ => .viewDidAppear
  | .facebookButtonTapped => .facebookButtonTapped
  | .loginTapped => .loginTapped
  | .answerFacebook authenticated => .answerFacebook authenticated
  | .answerAuth index user => .answerAuth index user
  | .callback index refused refusedUpdate =>
      .callback index (keychainResult wrapper state (.callback index refused refusedUpdate)).1
  | .signOutTapped refused throws =>
      .signOutTapped (keychainResult wrapper state (.signOutTapped refused throws)).1 throws
  | .openProfile => .openProfile
  | .openFeed => .openFeed
  | .useCurrentUser _ => .useCurrentUser

/-- The session with the uid that a read answers. -/
def seen (refused : Bool) (state : State) : Session.State :=
  { state.session with keychain := readUid wrapper refused state.items }

/-- The handlers of the session on what they read, with the keychain call they make. -/
def handle (state : State) (action : Action) : Option State := do
  let session ← Session.handle (seen wrapper (readRefused action) state)
    (sessionAction wrapper state action)
  return { session := session, items := (keychainResult wrapper state action).2 }

/-- The app on one device whose uid is kept by the keychain wrapper. -/
def machine : Machine State Action where
  enabled := fun state action => Session.Enabled state.session (sessionAction wrapper state action)
  handle := handle wrapper

/-- A device whose keychain and Firebase agree on who is signed in. -/
def initial (items : Keychain) : State where
  session := Session.initial (readUid wrapper false items)
  items := items

variable {wrapper} {before after : State}

/-- A segue does not touch the keychain. -/
theorem performSegue_keychain (session : Session.State) (destination : Session.Screen) :
    (session.performSegue destination).keychain = session.keychain := by
  rw [Session.State.performSegue]
  split <;> rfl

/-- The uid that a session keeps after an action. -/
def keptUid (session : Session.State) : Session.Action → Option String
  | .callback index keychainResult =>
      match (session.callbacks[index]?).bind Session.Callback.user with
      | some user => if keychainResult then some user.uid else session.keychain
      | none => session.keychain
  | .signOutTapped keychainResult _ => if keychainResult then none else session.keychain
  | _ => session.keychain

/-- Only a sign-in and a sign-out change the uid kept. -/
theorem keychain_of_handle {session next : Session.State} {action : Session.Action}
    (handled : Session.handle session action = some next) :
    next.keychain = keptUid session action := by
  cases action with
  | callback index keychainResult =>
      obtain ⟨callback, queued, handled⟩ := Option.bind_eq_some_iff.mp handled
      cases handled
      simp only [keptUid, queued, Option.bind_some]
      cases completes : callback.user with
      | none =>
          obtain ⟨calls, unchanged⟩ :=
            Session.run_of_user_none (session.dequeue index) completes keychainResult
          rw [unchanged]
          rfl
      | some user =>
          obtain ⟨provider, completed⟩ :=
            Session.run_of_user_some (session.dequeue index) completes keychainResult
          rw [completed, Session.State.compeleteSignIn, performSegue_keychain]
          rfl
  | signOutTapped keychainResult throws =>
      cases handled
      cases throws <;> rfl
  | answerAuth index user =>
      obtain ⟨call, _, handled⟩ := Option.bind_eq_some_iff.mp handled
      cases handled
      rfl
  | viewDidAppear =>
      cases handled
      unfold Session.State.viewDidAppear
      split
      · exact performSegue_keychain session .feed
      · rfl
  | useCurrentUser =>
      cases handled
      unfold Session.State.useCurrentUser
      split <;> rfl
  | openProfile =>
      cases handled
      exact performSegue_keychain session .profile
  | openFeed =>
      cases handled
      exact performSegue_keychain session .feed
  | launch => cases handled; rfl
  | facebookButtonTapped => cases handled; rfl
  | loginTapped => cases handled; rfl
  | answerFacebook authenticated => cases handled; rfl

/-- The wrapper keeps its items in form. -/
theorem own_keychainResult (own : wrapper.Own before.items) (action : Action) :
    wrapper.Own (keychainResult wrapper before action).2 := by
  cases action with
  | callback index refused refusedUpdate =>
      rw [keychainResult]
      split
      · exact (own.setData refused refusedUpdate _ keyUid none).own
      · exact own
  | signOutTapped refused throws => exact (own.removeObject refused keyUid none).own
  | launch => exact own
  | viewDidAppear refused => exact own
  | facebookButtonTapped => exact own
  | loginTapped => exact own
  | answerFacebook authenticated => exact own
  | answerAuth index user => exact own
  | openProfile => exact own
  | openFeed => exact own
  | useCurrentUser refused => exact own

/-- Every action keeps the items of the service the wrapper's own. -/
theorem own_step {action : Action} (own : wrapper.Own before.items)
    (step : (machine wrapper).Step before action after) : wrapper.Own after.items := by
  obtain ⟨session, _, handled⟩ := Option.bind_eq_some_iff.mp step.2
  cases handled
  exact own_keychainResult own action

/-- **A step of the device is one of the session**, with the results of the wrapper. -/
theorem session_step {action : Action} (own : wrapper.Own before.items)
    (granted : readRefused action = false) (step : (machine wrapper).Step before action after) :
    Session.machine.Step (seen wrapper false before) (sessionAction wrapper before action)
      (seen wrapper false after) := by
  obtain ⟨enabled, handled⟩ := step
  obtain ⟨session, done, handled⟩ := Option.bind_eq_some_iff.mp handled
  cases handled
  rw [granted] at done
  have kept : session.keychain = readUid wrapper false (keychainResult wrapper before action).2 := by
    rw [keychain_of_handle done]
    cases action with
    | callback index refused refusedUpdate =>
        simp only [sessionAction, keychainResult, keptUid, seen]
        cases (before.session.callbacks[index]?).bind Session.Callback.user with
        | none => rfl
        | some user => exact (own.string_set refused refusedUpdate user.uid keyUid).symm
    | signOutTapped refused throws => exact (own.string_removeObject refused keyUid).symm
    | launch => rfl
    | viewDidAppear refused => rfl
    | facebookButtonTapped => rfl
    | loginTapped => rfl
    | answerFacebook authenticated => rfl
    | answerAuth index user => rfl
    | openProfile => rfl
    | openFeed => rfl
    | useCurrentUser refused => rfl
  have same : seen wrapper false ⟨session, (keychainResult wrapper before action).2⟩ = session := by
    rw [seen, ← kept]
  rw [same]
  refine ⟨?_, done⟩
  cases action <;> exact enabled

/-- What a step needs besides a keychain that refuses nothing: the app is not ended while a
successful sign-in is unfinished, a sign-in callback runs while someone is signed in, and
if it is the last one queued, while its own user is, and signing out does not throw. -/
def Orderly (wrapper : KeychainWrapper) (before : State) : Action → Prop
  | .launch =>
      Session.Settled before.session ∨
        readUid wrapper false before.items = before.session.currentUser
  | .viewDidAppear refused | .useCurrentUser refused => refused = false
  | .callback index refused refusedUpdate => (refused = false ∧ refusedUpdate = false) ∧
      ∀ user ∈ (before.session.callbacks[index]?).bind Session.Callback.user,
        before.session.currentUser.isSome ∧
          (Session.Settled (before.session.dequeue index) →
            before.session.currentUser = some user.uid)
  | .signOutTapped refused throws => refused = false ∧ throws = false
  | _ => True

instance (before : State) : (action : Action) → Decidable (Orderly wrapper before action)
  | .launch => inferInstanceAs (Decidable (_ ∨ _))
  | .viewDidAppear _ | .useCurrentUser _ => inferInstanceAs (Decidable (_ = false))
  | .callback index _ _ => inferInstanceAs (Decidable (_ ∧
      ∀ user ∈ (before.session.callbacks[index]?).bind Session.Callback.user, _ ∧ _))
  | .signOutTapped _ _ => inferInstanceAs (Decidable (_ ∧ _))
  | .facebookButtonTapped | .loginTapped | .answerFacebook _ | .answerAuth _ _ | .openProfile
  | .openFeed => .isTrue trivial

/-- In an orderly run no read of the keychain is refused. -/
theorem Orderly.granted {action : Action} (orderly : Orderly wrapper before action) :
    readRefused action = false := by
  cases action with
  | viewDidAppear refused => exact orderly
  | useCurrentUser refused => exact orderly
  | _ => rfl

/-- A keychain that refuses nothing does all that an orderly session needs of it. -/
theorem Orderly.session {action : Action} (own : wrapper.Own before.items)
    (orderly : Orderly wrapper before action) :
    Session.Orderly (seen wrapper false before) (sessionAction wrapper before action) := by
  cases action with
  | launch => exact orderly
  | callback index refused refusedUpdate =>
      obtain ⟨⟨rfl, rfl⟩, fine⟩ := orderly
      intro user completes
      have result : (keychainResult wrapper before (.callback index false false)).1 = true := by
        rw [keychainResult, show (before.session.callbacks[index]?).bind Session.Callback.user =
          some user from completes]
        exact own.set_granted user.uid keyUid
      exact ⟨Or.inl result, fine user completes⟩
  | signOutTapped refused throws =>
      obtain ⟨rfl, rfl⟩ := orderly
      exact Or.inl ⟨rfl, own.removeObject_granted keyUid⟩
  | _ => trivial

/-- What a session has in common with the device that it runs on. -/
structure Shadows (wrapper : KeychainWrapper) (state : State) (session : Session.State) : Prop where
  own : wrapper.Own state.items
  seen : session = seen wrapper false state

/-- **The keychain keeps the session.** While no read of the uid is refused, every run on a
device is a run of a session that keeps the uid itself, its keychain calls having the
results of the wrapper. If besides no keychain call is refused, no sign-out throws, and the
sign-ins are orderly, then whenever no sign-in is unfinished the keychain holds the uid of
Firebase's current user, and no forced unwrap of either has trapped. (Going back from the
sign-in screen to the feed under it is not an action.) -/
theorem keychain_keeps_session (wrapper : KeychainWrapper) {items : Keychain}
    (own : wrapper.Own items) {actions : List Action} {finish : State}
    (run : (machine wrapper).Run (initial wrapper items) actions finish)
    (granted : ∀ action ∈ actions, readRefused action = false) :
    Session.machine.Run (Session.initial (readUid wrapper false items))
        ((machine wrapper).observed (fun before action => some (sessionAction wrapper before action))
          (initial wrapper items) actions)
        (seen wrapper false finish) ∧
      ((machine wrapper).Guarded (Orderly wrapper) (initial wrapper items) actions →
        (Session.Settled finish.session →
          readUid wrapper false finish.items = finish.session.currentUser) ∧
        finish.session.trap ≠ some .currentUser ∧ finish.session.trap ≠ some .keychainUid) := by
  constructor
  · obtain ⟨last, followed, shadows⟩ := run.simulate
      (Machine.Along.of_actions granted)
      (fun before action after shadow (shadows : Shadows wrapper before shadow) step fine => by
        obtain ⟨held, rfl⟩ := shadows
        refine ⟨seen wrapper false after, session_step held fine step, ?_, rfl⟩
        exact own_step held step)
      ⟨own, rfl⟩
    obtain ⟨_, rfl⟩ := shadows
    exact followed
  · intro orderly
    have reached : wrapper.Own finish.items ∧ Session.Held (seen wrapper false finish) := by
      refine run.invariant_along orderly
        (fun before action after (held : wrapper.Own before.items ∧
          Session.Held (seen wrapper false before)) step fine => ?_)
        ⟨own, Session.held_initial (readUid wrapper false items)⟩
      exact ⟨own_step held.1 step,
        held.2.step (fine.session held.1) (session_step held.1 fine.granted step)⟩
    exact ⟨reached.2.agree, reached.2.untrapped⟩

section SignIn

instance (state : State) (action : Action) : Decidable ((machine wrapper).enabled state action) :=
  inferInstanceAs (Decidable (Session.Enabled _ _))

/-- A first sign-in with an e-mail address, a use of the current user, and a sign-out. -/
def signsInAndOut : List Action :=
  [.launch, .viewDidAppear false, .loginTapped, .answerAuth 0 none, .callback 0 false false,
    .answerAuth 0 (some Session.ann), .callback 0 false false, .useCurrentUser false,
    .signOutTapped false false]

/-- The keychain keeps a session up to the sign-out. -/
theorem keychain_keeps_sign_in :
    ∃ finish, (machine ⟨"MyFundi"⟩).execute (initial ⟨"MyFundi"⟩ .empty) signsInAndOut =
        some finish ∧
      readUid ⟨"MyFundi"⟩ false finish.items = finish.session.currentUser := by
  have reached : ((machine ⟨"MyFundi"⟩).execute (initial ⟨"MyFundi"⟩ .empty) signsInAndOut).map
      (fun finish => decide (Session.Settled finish.session)) = some true := by
    decide
  obtain ⟨finish, executed, settled⟩ := Option.map_eq_some_iff.mp reached
  have own : (KeychainWrapper.mk "MyFundi").Own .empty := fun item member => by cases member
  have kept := (keychain_keeps_session _ own (Machine.run_of_execute executed) (by decide)).2
    (Machine.guarded_of_respects (by decide))
  exact ⟨finish, executed, kept.1 (of_decide_eq_true settled)⟩

end SignIn

end MyFundi.Device
