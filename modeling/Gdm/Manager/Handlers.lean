import Gdm.Library.EventMachine
import Gdm.Manager.Objects

/-!
# The handlers of the manager

The callbacks of `gdm-manager.c`: for the displays, for the signals of its sessions,
for what it has queued, and for the calls of its D-Bus methods.  A handler that does
something to the session whose signal it gets has that part among the reactions of
the session, and the rest of it here.
-/

namespace Gdm

namespace GdmManager

/-- A function of a session that the manager calls. -/
def callSession (self : GdmManager) (k : Nat) (around : ManagerSurroundings)
    (call : OwnerCall) : GdmManager :=
  self.modifySession k fun s =>
    { s with session := s.session.step (.owner call, around.session) }

/-- What is done to a display: nothing but a warning when it is `NULL`. -/
def onDisplay (self : GdmManager) (display : Option Nat)
    (act : GdmManager → Nat → GdmManager) : GdmManager :=
  match display with
  | none => self
  | some d => act self d

/-! ## Setting up displays -/

/-- `get_timed_login_details`: a timed login without a user is enabled all the same. -/
def getTimedLoginDetails (settings : Settings) : Option (Option String × Int) :=
  if settings.timedLoginEnable = some true then
    if settings.timedLogin.isEmpty then some (none, 0)
    else
      some (some settings.timedLogin,
        (settings.timedLoginDelay.map fun delay => if delay ≤ 0 then 10 else delay).getD 0)
  else none

/-- `get_automatic_login_details` -/
def getAutomaticLoginDetails (self : GdmManager) (settings : Settings) (x : GdmDisplay) :
    Option String :=
  match x.autologinUser with
  | some username => some username
  | none =>
    if x.seatId = some "seat0" ∧ self.didAutomaticLogin = false ∧
        self.automaticLoginDisplay = none ∧ settings.automaticLoginEnable = some true ∧
        settings.automaticLogin.isEmpty = false then
      some settings.automaticLogin
    else none

/-- `set_up_automatic_login_session`: the conversation is for the session that has
just been created. -/
def setUpAutomaticLoginSession (self : GdmManager) (around : ManagerSurroundings) (d : Nat) :
    GdmManager :=
  ((self.createUserSessionForDisplay around (some d) 0).callSession self.sessions.length around
    (.setDisplayIsInitial false)).callSession self.sessions.length around
      (.startConversation "gdm-autologin")

/-- `set_up_greeter_session` -/
def setUpGreeterSession (self : GdmManager) (around : ManagerSurroundings) (d : Nat) :
    GdmManager :=
  match around.greeterUid with
  | none => (self.unmanageDisplay d).finishDisplay d
  | some greeterUid => self.createUserSessionForDisplay around (some d) greeterUid

/-- `set_up_automatic_login_session_if_user_exists` -/
def setUpAutomaticLoginSessionIfUserExists (self : GdmManager) (around : ManagerSurroundings)
    (d : Nat) (userExists : Bool) : GdmManager :=
  if userExists then self.setUpAutomaticLoginSession around d
  else self.setUpGreeterSession around d

/-- The display is kept until its user has been looked up. -/
def lookUpUser (self : GdmManager) (d : Nat) : GdmManager :=
  { self with lookups := self.lookups ++ [d] }.modifyDisplay d fun x =>
    { x with refs := x.refs + 1 }

/-- `set_up_session` -/
def setUpSession (self : GdmManager) (around : ManagerSurroundings) (d : Nat) : GdmManager :=
  match (self.displays[d]?).bind (self.getAutomaticLoginDetails around.settings) with
  | none => self.setUpGreeterSession around d
  | some _ =>
    match around.userExists with
    | some userExists => self.setUpAutomaticLoginSessionIfUserExists around d userExists
    | none => self.lookUpUser d

/-- `on_user_is_loaded_changed` -/
def onUserIsLoadedChanged (self : GdmManager) (around : ManagerSurroundings) (d : Nat)
    (userExists : Bool) : GdmManager :=
  if d ∈ self.lookups then
    ({ self with
        lookups := self.lookups.erase d }.setUpAutomaticLoginSessionIfUserExists around d
      userExists).unrefDisplay d
  else self

/-- `on_display_status_changed` -/
def onDisplayStatusChanged (self : GdmManager) (around : ManagerSurroundings) (d : Nat)
    (x : GdmDisplay) : GdmDisplayStatus → GdmManager
  | .prepared => if x.sessionClass = "greeter" then self.setUpSession around d else self
  | .failed | .unmanaged | .finished => self.onDisplayEnded d
  | .managed | .waitingToFinish => self

/-- A display gets a status: the manager is told when it changes. -/
def setDisplayStatus (self : GdmManager) (around : ManagerSurroundings) (d : Nat)
    (status : GdmDisplayStatus) : GdmManager :=
  match self.displays[d]? with
  | none => self
  | some x =>
    if x.status = status then self
    else
      let changed := self.modifyDisplay d fun x => { x with status := status }
      if x.stored then changed.onDisplayStatusChanged around d x status else changed

/-- A display factory adds a display to the store, with `on_display_added`; the
reference of the store is the only one that is left. -/
def addDisplay (self : GdmManager) (x : GdmDisplay) : GdmManager :=
  { self with displays := self.displays ++
    [{ x with
        status := .unmanaged
        sessionRegistered := false
        userSession := none
        reauthPidOfCaller := 0
        stored := true
        refs := 1 }] }

/-! ## Switching to a session -/

/-- `find_session_for_user` -/
def findSessionForUser (self : GdmManager) (username : Option String)
    (dontCountSession : Option Nat) : Option Nat :=
  self.userSessions.find? fun k =>
    some k ≠ dontCountSession ∧
      (self.sessions[k]?).any fun s =>
        s.session.isRunning && s.session.getUsername = username

/-- `session_unlock`: without an identifier there is nothing to ask for. -/
def sessionUnlock (self : GdmManager) (behalf : Nat) (session : Option Nat)
    (sessionId : Option String) : GdmManager :=
  match sessionId with
  | some sessionId => self.emit (.unlocked behalf session sessionId)
  | none => self

/-- The session of a user is activated on the seat, if there is one, and unlocked;
the result says whether it came so far. -/
def jumpToSession (self : GdmManager) (around : ManagerSurroundings) (behalf : Nat)
    (seatId : Option String) (existing : Nat) (sessionId : Option String) : GdmManager × Bool :=
  match seatId, sessionId with
  | none, _ => (self.sessionUnlock behalf (some existing) sessionId, true)
  | some _, none => (self, false)
  | some seatId, some sessionId =>
    let activated := self.emit (.activated behalf existing seatId sessionId)
    if around.activates then
      (activated.sessionUnlock behalf (some existing) (some sessionId), true)
    else (activated, false)

/-- `switch_to_compatible_user_session`, on behalf of a session for the user of
another one. -/
def switchToCompatibleUserSession (self : GdmManager) (around : ManagerSurroundings)
    (behalf k : Nat) (failIfAlreadySwitched : Bool) : GdmManager × Bool :=
  match self.sessions[k]? with
  | none => (self, false)
  | some s =>
    match self.findSessionForUser s.session.getUsername
        (if failIfAlreadySwitched then some k else none) with
    | none => (self, false)
    | some existing =>
      match (self.sessions[existing]?).bind fun s => s.session.getSessionId with
      | none => (self.crash, false)
      | some sessionId =>
        self.jumpToSession around behalf s.session.displaySeatId existing sessionId

/-! ## Starting a session -/

/-- `queue_start_user_session` -/
def queueStartUserSession (self : GdmManager) (k : Nat) (serviceName : String) : GdmManager :=
  { self with idle := self.idle ++ [IdleOperation.startUserSession k serviceName] }.refSession k

/-- `start_user_session_if_ready` -/
def startUserSessionIfReady (self : GdmManager) (k : Nat) (serviceName : String) : GdmManager :=
  match self.sessions[k]? with
  | none => self
  | some s =>
    let noted := self.modifySession k fun s => { s with waitingToStart := !s.startWhenReady }
    if s.startWhenReady then noted.queueStartUserSession k serviceName else noted

/-- Whether there is nobody to wait for before the session is started. -/
def isUnattendedAutologin (self : GdmManager) (k : Nat) (serviceName : String) : Bool :=
  serviceName = "gdm-autologin" &&
    (self.sessions[k]?).any fun s => !s.session.clientIsConnected

/-- The display of a session whose own display is created in its place: it is kept,
and told to finish when it was there for the initial setup. -/
def keepDisplay (self : GdmManager) (around : ManagerSurroundings) (d : Nat) : GdmManager :=
  match self.displays[d]? with
  | none => self
  | some x =>
    let kept := self.modifyDisplay d fun x => { x with refs := x.refs + 1 }
    if x.doingInitialSetup then kept.setDisplayStatus around d .waitingToFinish else kept

/-- The session and its display let go of each other. -/
def untieSession (self : GdmManager) (k : Nat) (display : Option Nat) : GdmManager :=
  (self.onDisplay display fun self d => self.setUserSession d none).modifySession k fun s =>
    { s with gdmDisplay := none }

/-- The display that was prepared for a greeter goes when there is not going to be one. -/
def dropGreeterDisplay (self : GdmManager) (k : Nat) (serviceName : String)
    (display : Option Nat) : GdmManager :=
  if self.isUnattendedAutologin k serviceName then
    { self.onDisplay display removeDisplay with
      automaticLoginDisplay := self.getDisplayForUserSession k }
  else self

/-- The part of `on_start_user_session` that unties the session from its display,
which gets a new session, and gives it a display of its own. -/
def moveToOwnDisplay (self : GdmManager) (around : ManagerSurroundings) (k : Nat)
    (serviceName : String) : GdmManager :=
  match self.sessions[k]? with
  | none => self
  | some s =>
    let kept := self.onDisplay s.gdmDisplay fun self d => self.keepDisplay around d
    let given := ((kept.untieSession k s.gdmDisplay).createUserSessionForDisplay around
      s.gdmDisplay s.allowedUser).createDisplayForUserSession k
        (s.session.getConversationSessionId serviceName)
    (given.dropGreeterDisplay k serviceName s.gdmDisplay).onDisplay s.gdmDisplay unrefDisplay

/-- `on_start_user_session`, with `start_user_session`. -/
def onStartUserSession (self : GdmManager) (around : ManagerSurroundings) (k : Nat)
    (serviceName : String) : GdmManager :=
  let (switched, migrated) := self.switchToCompatibleUserSession around k k true
  if switched.crashed then switched
  else if migrated then (switched.callSession k around .reset).unrefSession k
  else
    (((switched.moveToOwnDisplay around k serviceName).emit
      (.startedSession k serviceName)).callSession k around
        (.startSession serviceName)).unrefSession k

/-- `on_user_session_opened` -/
def onUserSessionOpened (self : GdmManager) (k : Nat) (serviceName : String) : GdmManager :=
  let listed := ({ self with userSessions := self.userSessions ++ [k] }.emit
    (.listed k)).refSession k
  let unattended :=
    if listed.isUnattendedAutologin k serviceName then
      listed.modifySession k fun s => { s with startWhenReady := true }
    else listed
  unattended.startUserSessionIfReady k serviceName

/-- `on_session_client_ready_for_session_to_start` -/
def onSessionClientReadyForSessionToStart (self : GdmManager) (k : Nat) (serviceName : String)
    (clientIsReady : Bool) : GdmManager :=
  match self.sessions[k]? with
  | none => self
  | some s =>
    let noted := self.modifySession k fun s => { s with startWhenReady := clientIsReady }
    if clientIsReady ∧ s.waitingToStart then noted.startUserSessionIfReady k serviceName
    else noted

/-! ## The end of a session -/

/-- The display of a session that ends: `unmanage`, and `finish` unless that makes it
fail. -/
def endDisplay (self : GdmManager) (d : Nat) : GdmManager :=
  let unmanaged := self.unmanageDisplay d
  if (unmanaged.displays[d]?).any fun x => x.status ≠ .failed then unmanaged.finishDisplay d
  else unmanaged

/-- `remove_user_session`; the session itself is closed by its reaction. -/
def removeUserSession (self : GdmManager) (k : Nat) : GdmManager :=
  let ended := self.onDisplay (self.getDisplayForUserSession k) endDisplay
  if k ∈ ended.userSessions then
    ({ ended with userSessions := ended.userSessions.erase k }.emit
      (.unlisted k)).unrefSession k
  else ended

/-- `queue_session_reset` -/
def queueSessionReset (self : GdmManager) (k : Nat) : GdmManager :=
  match self.sessions[k]? with
  | none => self
  | some s =>
    if s.resetSessionOperation then self
    else
      ({ self with idle := self.idle ++ [IdleOperation.resetSession k] }.refSession k).modifySession
        k fun s => { s with resetSessionOperation := true }

/-- `on_reset_session` -/
def onResetSession (self : GdmManager) (around : ManagerSurroundings) (k : Nat) : GdmManager :=
  ((self.callSession k around .reset).modifySession k fun s =>
    { s with resetSessionOperation := false }).unrefSession k

/-- `on_stop_conflicting_session` -/
def onStopConflictingSession (self : GdmManager) (around : ManagerSurroundings) : GdmManager :=
  around.conflictingSessions.foldl (fun self sessionId => self.emit (.terminated sessionId)) self

/-! ## Reauthentication -/

/-- The remote identifier of the display of a login screen goes to the display of the
user, if both are remote. -/
def redirectRemoteDisplay (self : GdmManager) (login : Nat) (sessionId : Option String) :
    GdmManager :=
  match self.displays[login]? with
  | none => self
  | some x =>
    if x.isRemoteDisplay then
      self.onDisplay (self.findDisplay fun y => y.sessionId = sessionId) fun self user =>
        self.modifyDisplay user fun y =>
          if y.isRemoteDisplay then { y with remoteId := x.remoteId } else y
    else self

/-- `on_session_reauthenticated` -/
def onSessionReauthenticated (self : GdmManager) (around : ManagerSurroundings) (k : Nat)
    (pidOfCaller : Int) : GdmManager :=
  match (self.sessions[k]?).bind fun s => s.session.getSessionId with
  | none => self.crash
  | some sessionId =>
    let login := self.findDisplay fun x => pidOfCaller ≠ 0 ∧ x.reauthPidOfCaller = pidOfCaller
    ((self.onDisplay login fun self d =>
      self.redirectRemoteDisplay d sessionId).switchToCompatibleUserSession around k k false).1

/-- `on_session_reauthentication_started` -/
def onSessionReauthenticationStarted (self : GdmManager) (pidOfCaller : Int)
    (address : String) : GdmManager :=
  match self.openReauthenticationRequests.lookup pidOfCaller with
  | none => self
  | some invocation =>
    { self with
      openReauthenticationRequests := self.openReauthenticationRequests.filter fun request =>
        request.1 ≠ pidOfCaller }.emit (.returned invocation (.address address))

/-- An entry leaves `transient_sessions`, and its session is let go of. -/
def dropTransientSession (self : GdmManager) (pid : Int) : GdmManager :=
  match self.transientSessions.lookup pid with
  | none => self
  | some j =>
    { self with
      transientSessions := self.transientSessions.filter fun entry =>
        entry.1 ≠ pid }.unrefSession j

/-- `close_transient_session`; the session itself is closed by its reaction. -/
def closeTransientSession (self : GdmManager) (k : Nat) : GdmManager :=
  match self.sessions[k]? with
  | none => self
  | some s => self.dropTransientSession s.callerPid

/-- `on_reauthentication_client_rejected` -/
def onReauthenticationClientRejected (self : GdmManager) (k : Nat) (isOwnClient : Bool) :
    GdmManager :=
  if (self.sessions[k]?).any fun s => s.session.clientIsConnected then self
  else if isOwnClient then self.closeTransientSession k
  else self

/-- `on_reauthentication_verification_complete` -/
def onReauthenticationVerificationComplete (self : GdmManager) (around : ManagerSurroundings)
    (k : Nat) : GdmManager :=
  match self.sessions[k]? with
  | none => self
  | some s =>
    let unlocked :=
      match s.userSession with
      | some j => (self.switchToCompatibleUserSession around k j false).1
      | none => self.sessionUnlock k none s.callerSessionId
    unlocked.closeTransientSession k

/-- `open_temporary_reauthentication_channel` -/
def openTemporaryReauthenticationChannel (self : GdmManager) (around : ManagerSurroundings)
    (userSession : Option Nat) (seatId : Option String) (callerSessionId : String) (pid : Int)
    (uid : Nat) (isRemote : Bool) : GdmManager :=
  let session : ManagedSession :=
    { session := .new .transient none none seatId (!isRemote)
      allowedUser := uid
      serverAddress := around.serverAddress
      callerSessionId := some callerSessionId
      userSession := userSession
      callerPid := pid }
  let created := { self with sessions := self.sessions ++ [session] }
  let kept :=
    match userSession with
    | some j => created.refSession j
    | none => created
  let dropped := kept.dropTransientSession pid
  { dropped with transientSessions := (pid, self.sessions.length) :: dropped.transientSessions }

/-! ## The signals of a session -/

/-- A rejected client is the process that the channel was opened for, or from its
session. -/
def isOwnClient (s : ManagedSession) (around : ManagerSurroundings) : SessionEvent → Bool
  | .clientRejected pid => s.callerPid = pid || s.callerSessionId = around.clientSessionId
  | _ => true

/-- What an event of a session meets outside of it. -/
def surroundings (self : GdmManager) (around : ManagerSurroundings) (k : Nat)
    (s : ManagedSession) (event : SessionEvent) : Surroundings :=
  let display := s.gdmDisplay.bind fun d => self.displays[d]?
  { around.session with
    automaticLogin := display.bind (self.getAutomaticLoginDetails around.settings)
    timedLogin := if display.any fun x => x.seatId = some "seat0" && x.allowTimedLogin then
      getTimedLoginDetails around.settings else none
    inUserSessions := k ∈ self.userSessions
    isOwnClient := isOwnClient s around event }

/-- The handlers for the session of a display. -/
def handleUserSession (self : GdmManager) (around : ManagerSurroundings) (k : Nat) :
    SessionSignal → GdmManager
  | .reauthenticationStarted pidOfCaller address =>
    self.onSessionReauthenticationStarted pidOfCaller address
  | .reauthenticated _ pidOfCaller _ => self.onSessionReauthenticated around k pidOfCaller
  | .stopConflictingSession _ => self.onStopConflictingSession around
  | .clientReadyForSessionToStart serviceName clientIsReady =>
    self.onSessionClientReadyForSessionToStart k serviceName clientIsReady
  | .cancelled => self.queueSessionReset k
  | .sessionOpened serviceName _ => self.onUserSessionOpened k serviceName
  | .sessionStartFailed _ _ | .sessionExited _ _ | .sessionDied _ _ => self.removeUserSession k
  | _ => self

/-- The handlers for a session for reauthentication. -/
def handleTransient (self : GdmManager) (around : ManagerSurroundings) (k : Nat)
    (isOwnClient : Bool) : SessionSignal → GdmManager
  | .clientDisconnected _ | .cancelled => self.closeTransientSession k
  | .clientRejected _ => self.onReauthenticationClientRejected k isOwnClient
  | .verificationComplete _ => self.onReauthenticationVerificationComplete around k
  | _ => self

/-- What the manager does on an entry in the history of a session. -/
def handleEffect (around : ManagerSurroundings) (k : Nat) (owner : Owner) (isOwnClient : Bool)
    (self : GdmManager) : SessionEffect → GdmManager
  | .signal signal =>
    match owner with
    | .userSession => self.handleUserSession around k signal
    | .transient => self.handleTransient around k isOwnClient signal
    | .launchEnvironment | .reauthenticationRequest => self
  | _ => self

/-- An event reaches a session: it does its part, and the manager gets its signals, the
emission of which refers to the session. -/
def receive (self : GdmManager) (around : ManagerSurroundings) (k : Nat)
    (event : SessionEvent) : GdmManager :=
  match self.sessions[k]? with
  | none => self
  | some s =>
    if s.disposed then self
    else
      let session := s.session.step (event, self.surroundings around k s event)
      ((session.log.drop s.session.log.length).foldl
        (handleEffect around k s.session.owner (isOwnClient s around event))
        ((self.modifySession k fun s => { s with session := session }).refSession k)).unrefSession k

/-- The oldest operation that has been queued. -/
def handleIdle (self : GdmManager) (around : ManagerSurroundings) : GdmManager :=
  match self.idle with
  | [] => self
  | .startUserSession k serviceName :: rest =>
    { self with idle := rest }.onStartUserSession around k serviceName
  | .resetSession k :: rest => { self with idle := rest }.onResetSession around k

end GdmManager

end Gdm
