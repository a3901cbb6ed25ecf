import Gdm.Session.Handlers

/-!
# The state of the manager

`GdmManager` creates a session for every display that gets a greeter, hands the
display on when a user has logged in, and opens channels for reauthentication.
Displays and sessions are GObjects that point at each other.  The record keeps all
that have been created, in lists that the pointers are indices of, with the number
of references to each.
-/

namespace Gdm

/-! ## Displays and sessions -/

/-- `GdmDisplayStatus` -/
inductive GdmDisplayStatus
  | unmanaged
  | prepared
  | managed
  | waitingToFinish
  | finished
  | failed
  deriving DecidableEq, Repr

/-- A `GdmDisplay`, with the object data `gdm-user-session` and
`reauth-pid-of-caller`.  The manager is told of the status of a display as long as
it is `stored`, which means in the display store.  A display without references has
been disposed of. -/
structure GdmDisplay where
  status : GdmDisplayStatus := .unmanaged
  isRemoteDisplay : Bool := false
  remoteId : Option String := none
  remoteHostname : Option String := none
  isLocal : Bool := true
  seatId : Option String := none
  sessionId : Option String := none
  sessionClass : String := "greeter"
  autologinUser : Option String := none
  allowTimedLogin : Bool := true
  doingInitialSetup : Bool := false
  sessionRegistered : Bool := false
  userSession : Option Nat := none
  reauthPidOfCaller : Int := 0
  stored : Bool := false
  refs : Nat := 0
  deriving DecidableEq, Repr

/-- A session that the manager has created, with the object data that it keeps with
it.  `refs` counts the references that are not held by conversations of the
session. -/
structure ManagedSession where
  session : GdmSession
  allowedUser : Nat
  serverAddress : String
  remoteId : Option String := none
  gdmDisplay : Option Nat := none
  startWhenReady : Bool := false
  waitingToStart : Bool := false
  /-- `reset-session-operation` is not `NULL` -/
  resetSessionOperation : Bool := false
  callerSessionId : Option String := none
  userSession : Option Nat := none
  callerPid : Int := 0
  refs : Nat := 1
  disposed : Bool := false
  deriving DecidableEq, Repr

/-- A function that runs when the main loop is idle. -/
inductive IdleOperation
  | startUserSession (session : Nat) (serviceName : String)
  | resetSession (session : Nat)
  deriving DecidableEq, Repr

/-- The session that an operation holds a reference to. -/
def IdleOperation.session : IdleOperation → Nat
  | startUserSession session _ => session
  | resetSession session => session

/-! ## What the manager does -/

/-- What a call of a D-Bus method of the manager is completed with. -/
inductive ManagerReply
  | accessDenied (message : String)
  | done
  | address (address : String)
  deriving DecidableEq, Repr

/-- What the manager does, for the record.

`requested` is a call of OpenReauthenticationChannel with what has been found out
about the caller.  `listed` and `unlisted` are changes of `user_sessions`.
`activated` and `unlocked` are what logind is asked for: they have the session on
whose behalf it is, the session that is looked at for the identifier, and the
identifier. `startedSession` is a call of `gdm_session_start_session`. -/
inductive ManagerEffect
  | requested (invocation : Nat) (pid : Int) (uid : Nat)
  | returned (invocation : Nat) (reply : ManagerReply)
  | listed (session : Nat)
  | unlisted (session : Nat)
  | startedSession (session : Nat) (serviceName : String)
  | activated (behalf session : Nat) (seatId sessionId : String)
  | unlocked (behalf : Nat) (session : Option Nat) (sessionId : String)
  | terminated (sessionId : String)
  deriving DecidableEq, Repr

/-- `struct _GdmManager`.  The two hash tables have process numbers as keys;
`lookups` has the displays of the automatic logins whose users are being looked
up. -/
structure GdmManager where
  sessions : List ManagedSession := []
  displays : List GdmDisplay := []
  userSessions : List Nat := []
  transientSessions : List (Int × Nat) := []
  openReauthenticationRequests : List (Int × Nat) := []
  automaticLoginDisplay : Option Nat := none
  didAutomaticLogin : Bool := false
  idle : List IdleOperation := []
  lookups : List Nat := []
  nextInvocation : Nat := 0
  crashed : Bool := false
  log : List ManagerEffect := []
  deriving DecidableEq, Repr

/-! ## The outside -/

/-- The keys of the configuration that the manager reads; a value is `none` when it
is malformed. -/
structure Settings where
  automaticLoginEnable : Option Bool := some false
  automaticLogin : String := ""
  timedLoginEnable : Option Bool := some false
  timedLogin : String := ""
  timedLoginDelay : Option Int := some 30
  deriving DecidableEq, Repr

/-- What a callback of the manager meets outside of it. -/
structure ManagerSurroundings where
  session : Surroundings := {}
  settings : Settings := {}
  /-- the address of the server of a new session -/
  serverAddress : String := ""
  /-- the user that a greeter is to run as, `none` when there is none to be had -/
  greeterUid : Option Nat := some 120
  /-- whether the user of the automatic login exists, when the users are loaded -/
  userExists : Option Bool := some true
  /-- logind activates a session -/
  activates : Bool := true
  /-- the session that is asked to reauthenticate is frozen -/
  isFrozen : Bool := false
  /-- the session of a rejected client -/
  clientSessionId : Option String := none
  /-- the other graphical sessions of a user -/
  conflictingSessions : List String := []
  deriving DecidableEq, Repr

/-- What the bus and logind know about the sender of a call; what cannot be found
out is `none`. -/
structure BusSender where
  pid : Option Int := none
  uid : Option Nat := none
  sessionId : Option String := none
  isLoginScreen : Option Bool := none
  sessionUid : Option Nat := none
  seatId : Option String := none
  isRemote : Bool := false
  tty : Option String := none
  deriving DecidableEq, Repr

namespace GdmManager

def emit (self : GdmManager) (effect : ManagerEffect) : GdmManager :=
  { self with log := self.log ++ [effect] }

def crash (self : GdmManager) : GdmManager :=
  { self with crashed := true }

def modifySession (self : GdmManager) (k : Nat) (f : ManagedSession → ManagedSession) :
    GdmManager :=
  { self with sessions := self.sessions.modify k f }

def modifyDisplay (self : GdmManager) (d : Nat) (f : GdmDisplay → GdmDisplay) : GdmManager :=
  { self with displays := self.displays.modify d f }

/-- `get_display_for_user_session` -/
def getDisplayForUserSession (self : GdmManager) (k : Nat) : Option Nat :=
  self.sessions[k]?.bind ManagedSession.gdmDisplay

/-- `get_user_session_for_display` -/
def getUserSessionForDisplay (self : GdmManager) (d : Nat) : Option Nat :=
  self.displays[d]?.bind GdmDisplay.userSession

/-- `gdm_display_store_find` -/
def findDisplay (self : GdmManager) (predicate : GdmDisplay → Bool) : Option Nat :=
  self.displays.findIdx? fun x => x.stored && predicate x

/-- The process runs: no function of the manager or of a session has ended it. -/
def running (self : GdmManager) : Bool :=
  !self.crashed && self.sessions.all fun s => s.session.status = .running

end GdmManager

end Gdm
