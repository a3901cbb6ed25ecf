import Gdm.Manager.Handlers

/-!
# The D-Bus methods of the manager, and the machine

A call is answered after the manager has found out who is calling.  The function
that does so fills in what it finds until a lookup fails, and the callers tell from
what is there how far it has come.
-/

namespace Gdm

/-- `(uid_t) -1` -/
def noUid : Nat :=
  4294967295

/-- The variables that `get_display_and_details_for_bus_sender` writes to, with the
values that its callers give them before. -/
structure SenderDetails where
  display : Option Nat := none
  seatId : Option String := none
  sessionId : Option String := none
  tty : Option String := none
  pid : Int := 0
  uid : Nat := noUid
  isLoginScreen : Bool := false
  isRemote : Bool := false
  deriving DecidableEq, Repr

/-- What happens in the main loop of the manager. -/
inductive ManagerEvent
  | session (k : Nat) (event : SessionEvent)
  | idle
  | displayAdded (display : GdmDisplay)
  | displayStatus (d : Nat) (status : GdmDisplayStatus)
  | displaySessionId (d : Nat) (sessionId : Option String)
  | displayRemoved (d : Nat)
  | userLoaded (d : Nat) (userExists : Bool)
  | registerDisplay (sender : BusSender)
  | registerSession (sender : BusSender)
  | openSession (sender : BusSender)
  | openReauthenticationChannel (sender : BusSender) (username : String)

namespace GdmManager

/-! ## The sender of a call -/

/-- `get_display_and_details_for_bus_sender`; only one of its callers asks whether the
sender is a login screen. -/
def getDisplayAndDetailsForBusSender (self : GdmManager) (sender : BusSender)
    (asksForLoginScreen : Bool) : SenderDetails :=
  match sender.pid with
  | none => {}
  | some pid =>
    match sender.uid with
    | none => { pid := pid }
    | some callerUid =>
      match sender.sessionId with
      | none => { pid := pid }
      | some sessionId =>
        match if asksForLoginScreen then sender.isLoginScreen else some false with
        | none => { pid := pid, sessionId := some sessionId }
        | some isLoginScreen =>
          match sender.sessionUid with
          | none =>
            { pid := pid, sessionId := some sessionId, isLoginScreen := isLoginScreen }
          | some sessionUid =>
            if callerUid ≠ sessionUid then
              { pid := pid, sessionId := some sessionId, isLoginScreen := isLoginScreen
                uid := callerUid }
            else
              { display := self.findDisplay fun x => x.sessionId = some sessionId
                seatId := sender.seatId
                sessionId := some sessionId
                tty := sender.tty
                pid := pid
                uid := callerUid
                isLoginScreen := isLoginScreen
                isRemote := sender.isRemote }

/-! ## The methods -/

/-- The reply to a call. -/
def reply (self : GdmManager) (invocation : Nat) (reply : ManagerReply) : GdmManager :=
  self.emit (.returned invocation reply)

def returnAccessDenied (self : GdmManager) (invocation : Nat) (message : String) : GdmManager :=
  self.reply invocation (.accessDenied message)

/-- `gdm_manager_handle_register_display` -/
def handleRegisterDisplay (self : GdmManager) (around : ManagerSurroundings)
    (invocation : Nat) (sender : BusSender) : GdmManager :=
  match (self.getDisplayAndDetailsForBusSender sender false).display with
  | none => self.returnAccessDenied invocation "No display available"
  | some d => (self.setDisplayStatus around d .managed).reply invocation .done

/-- `find_user_session_for_display` -/
def findUserSessionForDisplay (self : GdmManager) (d : Nat) : Option Nat :=
  self.userSessions.find? fun k => self.getDisplayForUserSession k = some d

/-- `gdm_manager_handle_register_session` -/
def handleRegisterSession (self : GdmManager) (around : ManagerSurroundings)
    (invocation : Nat) (sender : BusSender) : GdmManager :=
  let details := self.getDisplayAndDetailsForBusSender sender false
  match details.display with
  | none => self.returnAccessDenied invocation "No display available"
  | some d =>
    let named :=
      match self.findUserSessionForDisplay d, details.tty with
      | some k, some tty => self.callSession k around (.setDisplayDevice tty)
      | _, _ => self
    (named.modifyDisplay d fun x => { x with sessionRegistered := true }).reply invocation .done

/-- `gdm_manager_handle_open_session`: the session of the display is not missing in
what follows, or the process ends. -/
def handleOpenSession (self : GdmManager) (invocation : Nat) (sender : BusSender) :
    GdmManager :=
  let details := self.getDisplayAndDetailsForBusSender sender false
  match details.display with
  | none => self.returnAccessDenied invocation "No session available"
  | some d =>
    match (self.getUserSessionForDisplay d).bind fun k => self.sessions[k]? with
    | none => self.crash
    | some s =>
      if s.session.isRunning then
        self.returnAccessDenied invocation "Can only be called before user is logged in"
      else if details.uid ≠ s.allowedUser then
        self.returnAccessDenied invocation "Caller not GDM"
      else self.reply invocation (.address s.serverAddress)

/-- `are_sessions_compatible` -/
def areSessionsCompatible (a b : GdmSession) : Bool :=
  if a.displayIsLocal ≠ b.displayIsLocal then false
  else if !a.displayIsLocal && !b.displayIsLocal then true
  else a.displaySeatId = b.displaySeatId

/-- The session that a caller wants to reauthenticate, and for a login screen its own. -/
def sessionsToReauthenticate (self : GdmManager) (details : SenderDetails)
    (username : String) : Option Nat × Option Nat :=
  let ofDisplay := details.display.bind self.getUserSessionForDisplay
  if details.isLoginScreen then (self.findSessionForUser (some username) none, ofDisplay)
  else (ofDisplay, none)

/-- A login screen is remembered by the process that asks. -/
def rememberCaller (self : GdmManager) (details : SenderDetails) : GdmManager :=
  if details.isLoginScreen then
    self.onDisplay details.display fun self d =>
      self.modifyDisplay d fun x => { x with reauthPidOfCaller := details.pid }
  else self

/-- The sessions are there and do not go together. -/
def areIncompatible (self : GdmManager) : Option Nat × Option Nat → Bool
  | (some k, some login) =>
    match self.sessions[k]?, self.sessions[login]? with
    | some s, some t => !areSessionsCompatible s.session t.session
    | _, _ => false
  | _ => false

/-- The session of a user is asked to reauthenticate; the invocation waits in the
table, in the place of one that is there for the same process. -/
def startReauthentication (self : GdmManager) (around : ManagerSurroundings) (invocation k : Nat)
    (pid : Int) (uid : Nat) : GdmManager :=
  let started := self.callSession k around (.startReauthentication pid uid)
  { started with
    openReauthenticationRequests := (pid, invocation) ::
      started.openReauthenticationRequests.filter fun request => request.1 ≠ pid }

/-- The last part of `gdm_manager_handle_open_reauthentication_channel`, for a caller
whose session, process and user are known. -/
def openReauthenticationChannel (self : GdmManager) (around : ManagerSurroundings)
    (invocation : Nat) (details : SenderDetails) (sessionId username : String) : GdmManager :=
  let sessions := self.sessionsToReauthenticate details username
  let self := self.rememberCaller details
  let running := sessions.1.any fun k =>
    (self.sessions[k]?).any fun s => s.session.isRunning
  if self.areIncompatible sessions then
    self.returnAccessDenied invocation "Login session is not compatible with user session"
  else
    match if running ∧ around.isFrozen = false then sessions.1 else none with
    | some k => self.startReauthentication around invocation k details.pid details.uid
    | none =>
      if running = false ∧ details.isLoginScreen then
        self.returnAccessDenied invocation
          "Login screen only allowed to open reauthentication channels for running sessions"
      else
        (self.openTemporaryReauthenticationChannel around
          (if details.isLoginScreen then sessions.1 else none) details.seatId sessionId
          details.pid details.uid details.isRemote).reply invocation
            (.address around.serverAddress)

/-- `gdm_manager_handle_open_reauthentication_channel` -/
def handleOpenReauthenticationChannel (self : GdmManager) (around : ManagerSurroundings)
    (invocation : Nat) (sender : BusSender) (username : String) : GdmManager :=
  let details := self.getDisplayAndDetailsForBusSender sender true
  let requested := self.emit (.requested invocation details.pid details.uid)
  match if details.pid = 0 ∨ details.uid = noUid then none else details.sessionId with
  | none => requested.returnAccessDenied invocation "No session available"
  | some sessionId =>
    requested.openReauthenticationChannel around invocation details sessionId username

/-! ## The machine -/

/-- Only the manager itself calls the functions of its sessions. -/
def isOwnerCall : SessionEvent → Bool
  | .owner _ => true
  | _ => false

/-- A call gets a number. -/
def call (self : GdmManager) (handle : GdmManager → Nat → GdmManager) : GdmManager :=
  handle { self with nextInvocation := self.nextInvocation + 1 } self.nextInvocation

def handleEvent (self : GdmManager) (around : ManagerSurroundings) : ManagerEvent → GdmManager
  | .session k event => if isOwnerCall event then self else self.receive around k event
  | .idle => self.handleIdle around
  | .displayAdded display => self.addDisplay display
  | .displayStatus d status => self.setDisplayStatus around d status
  | .displaySessionId d sessionId =>
    self.modifyDisplay d fun x => { x with sessionId := sessionId }
  | .displayRemoved d => self.removeDisplay d
  | .userLoaded d userExists => self.onUserIsLoadedChanged around d userExists
  | .registerDisplay sender =>
    self.call fun self invocation => self.handleRegisterDisplay around invocation sender
  | .registerSession sender =>
    self.call fun self invocation => self.handleRegisterSession around invocation sender
  | .openSession sender =>
    self.call fun self invocation => self.handleOpenSession invocation sender
  | .openReauthenticationChannel sender username =>
    self.call fun self invocation =>
      self.handleOpenReauthenticationChannel around invocation sender username

/-- One event of the main loop, as long as the process runs. -/
def step (self : GdmManager) (event : ManagerEvent × ManagerSurroundings) : GdmManager :=
  if self.running then self.handleEvent event.2 event.1 else self

/-- The manager from `gdm_manager_init` on. -/
def machine : EventMachine GdmManager (ManagerEvent × ManagerSurroundings) where
  Start self := self = {}
  step := step

/-- Events of the session `k`. -/
def ofSession (k : Nat) (events : List SessionEvent) : List (ManagerEvent × ManagerSurroundings) :=
  events.map fun event => (.session k event, {})

/-- The oldest operation that has been queued runs. -/
def runIdle : List (ManagerEvent × ManagerSurroundings) :=
  [(.idle, {})]

/-- A display on the seat gets a greeter. -/
def greeterOnSeat : List (ManagerEvent × ManagerSurroundings) :=
  [(.displayAdded { seatId := some "seat0" }, {}), (.displayStatus 0 .prepared, {})]

/-- A login with a password in the session of a greeter on the seat, as far as the
opening of the session for the user. -/
def passwordLogin (id : Nat) : List SessionEvent :=
  [.clientConnected 700,
    .client (.beginVerificationForUser "gdm-password" "alice"),
    .hello 1000,
    .workerAnswers id (.Initialize [.service "gdm-password", .extensions [], .username "alice",
      .displayIsLocal true, .seatId "seat0"]) (.Initialize (some "alice")),
    .deliver id,
    .workerAnswers id .Authenticate (.Authenticate (some "alice")),
    .deliver id,
    .workerAnswers id .Authorize .Authorize,
    .deliver id,
    .workerAnswers id .EstablishCredentials .EstablishCredentials,
    .deliver id,
    .workerAnswers id .Open (.Open "c2"),
    .deliver id]

end GdmManager

end Gdm
