import MyFundi.SignIn.Session

/-!
# The two records of who is signed in

The app ignores the result of every keychain write and removal, forces Firebase's
`signOut`, and runs the callbacks of sign-ins in any order. The keychain and the
current user agree in every run in which these keychain calls take effect, no
`signOut` throws, and the last sign-in callback to run is that of the current user
(`session_agrees`).
-/

namespace MyFundi.Session

/-- The user whose sign-in a callback completes. -/
def Callback.user : Callback → Option FirebaseUser
  | .facebookLogin _ => none
  | .auth _ user => user

/-- No callback of a successful sign-in is queued. -/
def Settled (state : State) : Prop :=
  ∀ callback ∈ state.callbacks, callback.user = none

instance (state : State) : Decidable (Settled state) :=
  inferInstanceAs (Decidable (∀ callback ∈ state.callbacks, _))

/-- What a step needs. The app is not ended while a successful sign-in is unfinished. A
sign-in callback leaves its uid in the keychain and runs while someone is signed in,
and if it is the last one queued, while its own user is. Signing out empties the
keychain and does not throw; or it throws and both records stay. -/
def Orderly (before : State) : Action → Prop
  | .launch => Settled before ∨ before.keychain = before.currentUser
  | .callback index keychainResult =>
      ∀ user ∈ (before.callbacks[index]?).bind Callback.user,
        (keychainResult = true ∨ before.keychain = some user.uid) ∧ before.currentUser.isSome ∧
          (Settled (before.dequeue index) → before.currentUser = some user.uid)
  | .signOutTapped keychainResult throws =>
      (throws = false ∧ (keychainResult = true ∨ before.keychain = none)) ∨
        (throws = true ∧ keychainResult = false ∧
          (Settled before ∨ before.keychain = before.currentUser))
  | _ => True

instance (before : State) : (action : Action) → Decidable (Orderly before action)
  | .launch => inferInstanceAs (Decidable (_ ∨ _))
  | .callback index _ =>
      inferInstanceAs (Decidable (∀ user ∈ (before.callbacks[index]?).bind Callback.user, _ ∧ _ ∧ _))
  | .signOutTapped _ _ => inferInstanceAs (Decidable ((_ ∧ _) ∨ (_ ∧ _ ∧ _)))
  | .viewDidAppear | .facebookButtonTapped | .loginTapped | .answerFacebook _ | .answerAuth _ _
  | .openProfile | .openFeed | .useCurrentUser => .isTrue trivial

/-- What orderly steps keep. -/
structure Held (state : State) : Prop where
  current : state.keychain.isSome → state.currentUser.isSome
  shown : state.SignedIn → state.keychain.isSome
  agree : Settled state → state.keychain = state.currentUser
  untrapped : state.trap ≠ some .currentUser ∧ state.trap ≠ some .keychainUid

variable {before after : State}

/-- With a user signed in a segue shows its screen. -/
theorem performSegue_eq (state : State) (signedIn : state.currentUser.isSome)
    (destination : Screen) :
    state.performSegue destination = { state with screen := some destination } := by
  obtain ⟨user, current⟩ := Option.isSome_iff_exists.mp signedIn
  rw [State.performSegue, current]

/-- With a user signed in the sign-in is completed without a trap. -/
theorem compeleteSignIn_eq (state : State) (signedIn : state.currentUser.isSome)
    (id provider : String) (keychainResult : Bool) :
    state.compeleteSignIn id provider keychainResult = { state with
      writes := state.writes ++ [DataService.createFirebaseDBUser id [("provider", provider)]]
      keychain := if keychainResult then some id else state.keychain
      screen := some .feed } := by
  obtain ⟨user, current⟩ := Option.isSome_iff_exists.mp signedIn
  simp only [State.compeleteSignIn, State.performSegue, current]

/-- A callback that completes no sign-in only changes the requests in flight. -/
theorem run_of_user_none (state : State) {callback : Callback} (none : callback.user = none)
    (keychainResult : Bool) :
    ∃ calls, state.run keychainResult callback = { state with calls := calls } := by
  cases callback with
  | facebookLogin authenticated => cases authenticated <;> exact ⟨_, rfl⟩
  | auth call user =>
      cases none
      cases call <;> exact ⟨_, rfl⟩

/-- The callback of a request that signed in a user completes the sign-in. -/
theorem run_of_user_some (state : State) {callback : Callback} {user : FirebaseUser}
    (some : callback.user = some user) (keychainResult : Bool) :
    ∃ provider, state.run keychainResult callback =
      state.compeleteSignIn user.uid provider keychainResult := by
  cases callback with
  | facebookLogin authenticated => cases some
  | auth call answer =>
      cases some
      cases call <;> exact ⟨_, rfl⟩

/-- A stopped app and the sign-in screen show nothing that needs a user. -/
theorem not_signedIn {state : State} (away : state.screen = none ∨ state.screen = some .signIn) :
    ¬ state.SignedIn := by
  unfold State.SignedIn
  rcases away with stopped | signIn
  · rw [stopped]
    decide
  · rw [signIn]
    decide

theorem held_initial (user : Option String) : Held (initial user) where
  current := id
  shown := fun signedIn => (not_signedIn (Or.inl rfl) signedIn).elim
  agree := fun _ => rfl
  untrapped := ⟨nofun, nofun⟩

/-- Showing a signed-in screen to a signed-in user keeps what holds. -/
theorem Held.performSegue (held : Held before) (signedIn : before.keychain.isSome)
    (destination : Screen) : Held (before.performSegue destination) := by
  rw [performSegue_eq before (held.current signedIn)]
  exact ⟨held.current, fun _ => signedIn, held.agree, held.untrapped⟩

/-- Ending the app, at a launch or at a trap in `signOut`, keeps what holds when the
two records agree. -/
theorem Held.stop (held : Held before) (agree : before.keychain = before.currentUser)
    {trap : Option Trap} (other : trap ≠ some .currentUser ∧ trap ≠ some .keychainUid) :
    Held (before.stop trap) where
  current := held.current
  shown := fun signedIn => (not_signedIn (Or.inl rfl) signedIn).elim
  agree := fun _ => agree
  untrapped := other

/-- The records agree when no sign-in is under way. -/
theorem Held.agree_of_settled_or (held : Held before)
    (fine : Settled before ∨ before.keychain = before.currentUser) :
    before.keychain = before.currentUser :=
  fine.elim held.agree id

/-- A callback of an orderly run completes its own sign-in. -/
theorem Held.callback {index : Nat} {keychainResult : Bool} (held : Held before)
    (orderly : Orderly before (.callback index keychainResult))
    (step : machine.Step before (.callback index keychainResult) after) : Held after := by
  obtain ⟨callback, queued, handled⟩ := Option.bind_eq_some_iff.mp step.2
  cases handled
  cases completes : callback.user with
  | none =>
      obtain ⟨calls, unchanged⟩ :=
        run_of_user_none (before.dequeue index) completes keychainResult
      rw [unchanged]
      refine ⟨held.current, held.shown, fun settled => held.agree ?_, held.untrapped⟩
      intro other member
      obtain ⟨position, bound, rfl⟩ := List.mem_iff_getElem.mp member
      by_cases same : position = index
      · subst same
        rw [List.getElem?_eq_getElem bound] at queued
        cases queued
        exact completes
      · exact settled _ (List.mem_eraseIdx_iff_getElem.mpr ⟨position, bound, same, rfl⟩)
  | some user =>
      obtain ⟨provider, completed⟩ :=
        run_of_user_some (before.dequeue index) completes keychainResult
      obtain ⟨written, signedIn, last⟩ := orderly user (by rw [queued]; exact completes)
      have keychain : (if keychainResult = true then some user.uid else before.keychain) =
          some user.uid := by
        rcases written with rfl | same
        · rfl
        · rw [same, ite_self]
      rw [completed, compeleteSignIn_eq (before.dequeue index) signedIn]
      refine ⟨fun _ => signedIn, fun _ => ?_, fun settled => ?_, held.untrapped⟩
      · exact Option.isSome_of_eq_some keychain
      · exact keychain.trans (last settled).symm

/-- A sign-out of an orderly run clears both records. -/
theorem Held.signOutTapped {keychainResult throws : Bool} (held : Held before)
    (orderly : Orderly before (.signOutTapped keychainResult throws)) :
    Held (before.signOutTapped keychainResult throws) := by
  rcases orderly with ⟨rfl, removed⟩ | ⟨rfl, rfl, fine⟩
  · have keychain : (if keychainResult = true then none else before.keychain) = none := by
      rcases removed with rfl | empty
      · rfl
      · rw [empty, ite_self]
    have absent : ¬ (if keychainResult = true then none else before.keychain).isSome := by
      rw [keychain]
      exact Bool.false_ne_true
    exact ⟨fun present => (absent present).elim,
      fun signedIn => (not_signedIn (Or.inr rfl) signedIn).elim, fun _ => keychain, held.untrapped⟩
  · exact held.stop (held.agree_of_settled_or fine) ⟨nofun, nofun⟩

/-- Every orderly step keeps the records in agreement. -/
theorem Held.step {action : Action} (held : Held before) (orderly : Orderly before action)
    (step : machine.Step before action after) : Held after := by
  obtain ⟨enabled, handled⟩ := id step
  cases action with
  | callback index keychainResult => exact held.callback orderly step
  | launch =>
      cases handled
      have stopped : Held (before.stop none) :=
        held.stop (held.agree_of_settled_or orderly) ⟨nofun, nofun⟩
      exact ⟨stopped.current, fun signedIn => (not_signedIn (Or.inr rfl) signedIn).elim,
        stopped.agree, stopped.untrapped⟩
  | viewDidAppear =>
      cases handled
      rw [State.viewDidAppear]
      split
      · rename_i uid keychain
        exact held.performSegue (Option.isSome_of_eq_some keychain) .feed
      · exact held
  | facebookButtonTapped =>
      cases handled
      exact ⟨held.current, held.shown, held.agree, held.untrapped⟩
  | loginTapped =>
      cases handled
      exact ⟨held.current, held.shown, held.agree, held.untrapped⟩
  | answerFacebook authenticated =>
      cases handled
      refine ⟨held.current, held.shown, fun settled => held.agree ?_, held.untrapped⟩
      exact fun callback member => settled callback (List.mem_append_left _ member)
  | answerAuth index user =>
      obtain ⟨call, waiting, handled⟩ := Option.bind_eq_some_iff.mp handled
      cases handled
      cases user with
      | none =>
          refine ⟨held.current, held.shown, fun settled => held.agree ?_, held.untrapped⟩
          exact fun callback member => settled callback (List.mem_append_left _ member)
      | some user =>
          refine ⟨fun _ => rfl, held.shown, fun settled => ?_, held.untrapped⟩
          cases settled (.auth call (some user))
            (List.mem_append_right _ (List.mem_singleton_self _))
  | signOutTapped keychainResult throws =>
      cases handled
      exact held.signOutTapped orderly
  | openProfile =>
      cases handled
      exact held.performSegue (held.shown (Or.inl enabled)) .profile
  | openFeed =>
      cases handled
      exact held.performSegue (held.shown (Or.inr enabled)) .feed
  | useCurrentUser =>
      cases handled
      obtain ⟨uid, keychain⟩ := Option.isSome_iff_exists.mp (held.shown enabled)
      rw [State.useCurrentUser, keychain]
      exact held

/-- **The two records agree.** In every run whose steps are orderly, the keychain and
Firebase agree on who is signed in whenever no sign-in is unfinished, and no forced
unwrap of the current user or of the keychain's uid traps. -/
theorem session_agrees (user : Option String) (actions : List Action) (finish : State)
    (run : machine.Run (initial user) actions finish)
    (orderly : machine.Guarded Orderly (initial user) actions) :
    (Settled finish → finish.keychain = finish.currentUser) ∧
      finish.trap ≠ some .currentUser ∧ finish.trap ≠ some .keychainUid := by
  have held : Held finish :=
    run.invariant_along orderly (fun _ _ _ held step fine => held.step fine step)
      (held_initial user)
  exact ⟨held.agree, held.untrapped⟩

section SignOut

/-- A user who signs in with her e-mail address. -/
def ann : FirebaseUser where
  uid := "ann"
  providerID := "Firebase"

/-- A first sign-in with an e-mail address, up to the feed. -/
def signsIn : List Action :=
  [.launch, .viewDidAppear, .loginTapped, .answerAuth 0 none, .callback 0 false,
    .answerAuth 0 (some ann), .callback 0 true]

/-- Signing in and out again with a working keychain is orderly. -/
theorem sign_in_and_out_agrees :
    ∃ finish, machine.execute (initial none) (signsIn ++ [.signOutTapped true false]) =
      some finish ∧ finish.keychain = finish.currentUser := by
  have reached : (machine.execute (initial none) (signsIn ++ [.signOutTapped true false])).map
      (fun finish => decide (Settled finish)) = some true := by
    decide
  obtain ⟨finish, executed, settled⟩ := Option.map_eq_some_iff.mp reached
  exact ⟨finish, executed, (session_agrees none _ finish (Foundation.Machine.run_of_execute executed)
    (Foundation.Machine.guarded_of_respects (by decide))).1 (of_decide_eq_true settled)⟩

/-- When the keychain fails to remove the uid at a sign-out, the app no longer agrees
on who is signed in, and traps as soon as the sign-in screen appears. -/
theorem failed_removal_traps :
    ¬ ∀ (user : Option String) (actions : List Action) (finish : State),
      machine.Run (initial user) actions finish →
        (Settled finish → finish.keychain = finish.currentUser) ∧
          finish.trap ≠ some .currentUser ∧ finish.trap ≠ some .keychainUid := by
  intro all
  have reached : (machine.execute (initial none)
      (signsIn ++ [.signOutTapped false false, .viewDidAppear])).map
        (fun finish => (finish.keychain, finish.currentUser, finish.trap)) =
          some (some "ann", none, some .currentUser) := by
    decide
  obtain ⟨finish, executed, records⟩ := Option.map_eq_some_iff.mp reached
  have untrapped := (all none _ finish (Foundation.Machine.run_of_execute executed)).2.1
  exact untrapped (congrArg (fun records => records.2.2) records)

end SignOut

end MyFundi.Session
