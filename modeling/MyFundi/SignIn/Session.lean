import MyFundi.Foundation.Machine
import MyFundi.Services.DataService

/-!
# Sessions

Who is signed in is recorded twice: by Firebase, as its current user, and by the app,
as a uid in the keychain. The sign-in screen and the database references go by the
keychain, the feed and the profile by the current user. Both records survive the
process, which ends at a trap or when the app is closed and takes the attempts and the
queued callbacks with it.
-/

namespace MyFundi.Session

/-- The screens of the app that sign in, ask for the user signed in, or sign out. -/
inductive Screen where
  | signIn
  | feed
  | profile
  deriving DecidableEq

/-- A Firebase request of the sign-in screen. -/
inductive AuthCall where
  | firebaseAuth
  | emailSignIn
  | emailCreate
  deriving DecidableEq

/-- The user a Firebase request has signed in. -/
structure FirebaseUser where
  uid : String
  providerID : String
  deriving DecidableEq

/-- A queued callback with its answer: whether Facebook authenticated the user, and
the user a request signed in, if it succeeded. -/
inductive Callback where
  | facebookLogin (authenticated : Bool)
  | auth (call : AuthCall) (user : Option FirebaseUser)
  deriving DecidableEq

/-- Where a forced unwrap or a forced try fails. -/
inductive Trap where
  | currentUser
  | keychainUid
  | signOut
  deriving DecidableEq

/-- `screen` is absent while the app is not running, and `trap` is what ended it. -/
structure State where
  keychain : Option String
  currentUser : Option String
  screen : Option Screen
  facebookLogins : Nat
  calls : List AuthCall
  callbacks : List Callback
  writes : List Write
  trap : Option Trap

/-- What the user and the environment can do: launch the app, which ends it first if
it runs; let the sign-in screen appear; tap its buttons; answer an attempt; run a
queued callback, whose keychain write may fail; sign out, where the removal from the
keychain may fail and Firebase may throw; move between the signed-in screens; and do
there anything that asks for the current user's node. Going back from the sign-in screen,
which the storyboard shows over the feed, is not among them. -/
inductive Action where
  | launch
  | viewDidAppear
  | facebookButtonTapped
  | loginTapped
  | answerFacebook (authenticated : Bool)
  | answerAuth (index : Nat) (user : Option FirebaseUser)
  | callback (index : Nat) (keychainResult : Bool)
  | signOutTapped (keychainResult throws : Bool)
  | openProfile
  | openFeed
  | useCurrentUser

namespace State

/-- The process ends, and takes the attempts and the queued callbacks with it. -/
def stop (state : State) (trap : Option Trap) : State :=
  { state with screen := none, facebookLogins := 0, calls := [], callbacks := [], trap := trap }

/-- A segue to the feed or the profile, whose `viewDidLoad` unwraps the current user. -/
def performSegue (state : State) (destination : Screen) : State :=
  match state.currentUser with
  | some _ => { state with screen := some destination }
  | none => state.stop (some .currentUser)

/-- The sign-in screen goes to the feed when the keychain holds a uid. -/
def viewDidAppear (state : State) : State :=
  match state.keychain with
  | some _ => state.performSegue .feed
  | none => state

/-- The user's node is written and the uid stored in the keychain, whose answer is not looked
at, before the app goes to the feed. -/
def compeleteSignIn (state : State) (id provider : String) (keychainResult : Bool) : State :=
  { state with
    writes := state.writes ++ [DataService.createFirebaseDBUser id [("provider", provider)]]
    keychain := if keychainResult then some id else state.keychain }.performSegue .feed

/-- The callbacks of the sign-in screen. A failed e-mail sign-in tries to create the
user; the provider of a Facebook credential is Facebook's. -/
def run (state : State) (keychainResult : Bool) : Callback → State
  | .facebookLogin true => { state with calls := state.calls ++ [.firebaseAuth] }
  | .facebookLogin false => state
  | .auth .firebaseAuth (some user) =>
      state.compeleteSignIn user.uid "facebook.com" keychainResult
  | .auth .firebaseAuth none => state
  | .auth .emailSignIn (some user) =>
      state.compeleteSignIn user.uid user.providerID keychainResult
  | .auth .emailSignIn none => { state with calls := state.calls ++ [.emailCreate] }
  | .auth .emailCreate (some user) =>
      state.compeleteSignIn user.uid user.providerID keychainResult
  | .auth .emailCreate none => state

/-- `signOutTapped` of the feed and of the profile: the uid is removed from the
keychain before the forced try of Firebase's `signOut`. -/
def signOutTapped (state : State) (keychainResult throws : Bool) : State :=
  let removed : State :=
    { state with keychain := if keychainResult then none else state.keychain }
  if throws then removed.stop (some .signOut)
  else { removed with currentUser := none, screen := some .signIn }

/-- `REF_USER_CURRENT`, wherever a signed-in screen asks for it. -/
def useCurrentUser (state : State) : State :=
  match DataService.refUserCurrent state.keychain with
  | some _ => state
  | none => state.stop (some .keychainUid)

/-- A queued callback is taken from the queue to be run. -/
def dequeue (state : State) (index : Nat) : State :=
  { state with callbacks := state.callbacks.eraseIdx index }

end State

/-- A successful request makes its user the current one before its callback is
queued. -/
def handle (state : State) : Action → Option State
  | .launch => some { state.stop none with screen := some .signIn }
  | .viewDidAppear => some state.viewDidAppear
  | .facebookButtonTapped => some { state with facebookLogins := state.facebookLogins + 1 }
  | .loginTapped => some { state with calls := state.calls ++ [.emailSignIn] }
  | .answerFacebook authenticated => some { state with
      facebookLogins := state.facebookLogins - 1
      callbacks := state.callbacks ++ [.facebookLogin authenticated] }
  | .answerAuth index user => do
      let call ← state.calls[index]?
      return { state with
        currentUser := (user.map FirebaseUser.uid).or state.currentUser
        calls := state.calls.eraseIdx index
        callbacks := state.callbacks ++ [.auth call user] }
  | .callback index keychainResult => do
      let callback ← state.callbacks[index]?
      return (state.dequeue index).run keychainResult callback
  | .signOutTapped keychainResult throws => some (state.signOutTapped keychainResult throws)
  | .openProfile => some (state.performSegue .profile)
  | .openFeed => some (state.performSegue .feed)
  | .useCurrentUser => some state.useCurrentUser

/-- A screen that only signed-in users should see. -/
def State.SignedIn (state : State) : Prop :=
  state.screen = some .feed ∨ state.screen = some .profile

instance (state : State) : Decidable state.SignedIn := inferInstanceAs (Decidable (_ ∨ _))

/-- An action is possible on its screen, and on an attempt or a callback there is. -/
def Enabled (state : State) : Action → Prop
  | .launch => True
  | .viewDidAppear | .facebookButtonTapped | .loginTapped => state.screen = some .signIn
  | .answerFacebook _ => 0 < state.facebookLogins
  | .answerAuth index _ => index < state.calls.length
  | .callback index _ => index < state.callbacks.length
  | .signOutTapped _ _ | .useCurrentUser => state.SignedIn
  | .openProfile => state.screen = some .feed
  | .openFeed => state.screen = some .profile

instance (state : State) : (action : Action) → Decidable (Enabled state action)
  | .launch => .isTrue trivial
  | .viewDidAppear | .facebookButtonTapped | .loginTapped | .openProfile | .openFeed =>
      inferInstanceAs (Decidable (_ = some _))
  | .answerFacebook _ | .answerAuth _ _ | .callback _ _ => inferInstanceAs (Decidable (_ < _))
  | .signOutTapped _ _ | .useCurrentUser => inferInstanceAs (Decidable state.SignedIn)

/-- The app on one device, started and ended any number of times. -/
def machine : Foundation.Machine State Action where
  enabled := Enabled
  handle := handle

instance (state : State) (action : Action) : Decidable (machine.enabled state action) :=
  inferInstanceAs (Decidable (Enabled state action))

/-- The app before it is launched, with both records of who is signed in equal. -/
def initial (user : Option String) : State where
  keychain := user
  currentUser := user
  screen := none
  facebookLogins := 0
  calls := []
  callbacks := []
  writes := []
  trap := none

end MyFundi.Session
