import Gdm.Library.EventMachine
import Gdm.Session.Callbacks

/-!
# The main loop around a session

The handlers for the calls of clients and for the queries of workers, and the
session as an event machine: every callback, every step of a worker that its
session can notice, and every call of the owner is an event.
-/

namespace Gdm

/-- The queries of a worker. -/
inductive QueryKind
  | choiceList
  | customJson
  | info
  | secretInfo
  deriving DecidableEq, Repr

/-- The names of the interfaces that a client can enable. -/
def choiceListInterface : String := "org.gnome.DisplayManager.UserVerifier.ChoiceList"

def customJsonInterface : String := "org.gnome.DisplayManager.UserVerifier.CustomJSON"

/-- The calls of a client.  A custom JSON reply comes with what the parser makes
of it: the text, or the message of an error. -/
inductive ClientCall
  | enableExtensions (extensions : List String)
  | beginVerification (serviceName : String)
  | beginVerificationForUser (serviceName username : String)
  | answerQuery (serviceName answer : String)
  | cancel
  | selectChoice (serviceName answer : String)
  | customJsonReply (serviceName : String) (json : Except String String)
  | customJsonReportError (serviceName message : String)
  | selectSession (session : String)
  | selectUser (username : String)
  | startSessionWhenReady (serviceName : String) (clientIsReady : Bool)
  | getTimedLoginDetails
  | stopConflictingSession
  | beginAutoLogin (username : String)

/-- The interface that a call belongs to. -/
inductive ClientInterface
  | userVerifier
  | choiceList
  | customJson
  | greeter
  deriving DecidableEq, Repr

def ClientCall.interface : ClientCall → ClientInterface
  | enableExtensions _ | beginVerification _ | beginVerificationForUser _ _ | answerQuery _ _
  | cancel => .userVerifier
  | selectChoice _ _ => .choiceList
  | customJsonReply _ _ | customJsonReportError _ _ => .customJson
  | selectSession _ | selectUser _ | startSessionWhenReady _ _ | getTimedLoginDetails
  | stopConflictingSession | beginAutoLogin _ => .greeter

/-- What the owner asks the session for. -/
inductive OwnerCall
  | startConversation (serviceName : String)
  | selectSession (text : String)
  | setDisplayIsInitial (isInitial : Bool)
  | setDisplayDevice (device : String)
  | startSession (serviceName : String)
  | startReauthentication (pidOfCaller : Int) (uidOfCaller : Nat)
  | reset
  | close

/-- The events of the main loop.  The four that begin with `worker` and do not
end the process are what a worker does at its end of the connection: it answers a
call, refuses it, fails in it and goes back to NONE, or sends a signal. -/
inductive SessionEvent
  | clientConnected (pid : Int)
  | clientDisconnected (pid : Int)
  | clientRejected (pid : Int)
  | client (call : ClientCall)
  | owner (call : OwnerCall)
  | hello (pid : Int)
  | query (kind : QueryKind) (serviceName : String)
  | workerAnswers (id : Nat) (call : WorkerCall) (answer : Answer)
  | workerRefuses (id : Nat) (call : WorkerCall) (error : WorkerError)
  | workerFails (id : Nat) (call : WorkerCall) (error : WorkerError)
  | workerSends (id : Nat) (signal : WorkerSignal)
  | deliver (id : Nat)
  | workerExited (id code : Nat)
  | workerDied (id signum : Nat)

namespace GdmSession

/-! ## Queries of a worker -/

/-- `gdm_session_handle_choice_list_query` and
`gdm_session_handle_custom_json_request`: a query that goes to an extension of
the client. -/
def handleExtensionQuery (self : GdmSession) (interface message serviceName : String) :
    GdmSession :=
  let received := self.receiveQuery serviceName
  if interface ∈ self.userVerifierExtensions then
    received.setPendingQuery serviceName self.nextQuery
  else
    received.completeQuery (some self.nextQuery) (.notSupported message)

/-- `gdm_session_handle_info_query` and `gdm_session_handle_secret_info_query`:
without a client they are not handled, and the caller is told that there is no
such method. -/
def handleVerifierQuery (self : GdmSession) (serviceName : String) : GdmSession :=
  let received := self.receiveQuery serviceName
  if self.userVerifierInterface then
    received.setPendingQuery serviceName self.nextQuery
  else
    received.completeQuery (some self.nextQuery) .unknownMethod

def handleChoiceListQuery (self : GdmSession) (serviceName : String) : GdmSession :=
  self.handleExtensionQuery choiceListInterface
    "ChoiceList interface not supported by client" serviceName

def handleCustomJsonRequest (self : GdmSession) (serviceName : String) : GdmSession :=
  self.handleExtensionQuery customJsonInterface
    "custom JSON interface not supported by client" serviceName

def handleInfoQuery (self : GdmSession) (serviceName : String) : GdmSession :=
  self.handleVerifierQuery serviceName

def handleSecretInfoQuery (self : GdmSession) (serviceName : String) : GdmSession :=
  self.handleVerifierQuery serviceName

def handleQuery (self : GdmSession) (kind : QueryKind) (serviceName : String) : GdmSession :=
  match kind with
  | .choiceList => self.handleChoiceListQuery serviceName
  | .customJson => self.handleCustomJsonRequest serviceName
  | .info => self.handleInfoQuery serviceName
  | .secretInfo => self.handleSecretInfoQuery serviceName

/-! ## Calls of a client -/

/-- Completing a call of a client. -/
def complete (self : GdmSession) (invocation : Nat) : GdmSession :=
  self.emit (.returned (some invocation) none)

def returnError (self : GdmSession) (invocation : Nat) (code : ClientErrorCode)
    (message : String) : GdmSession :=
  self.emit (.returned (some invocation) (some ⟨code, message⟩))

/-- `gdm_session_handle_client_enable_extensions`: of the known interfaces, the
ones that are asked for. -/
def handleClientEnableExtensions (self : GdmSession) (invocation : Nat)
    (extensions : List String) : GdmSession :=
  { self with userVerifierExtensions :=
      [choiceListInterface, customJsonInterface].filter fun name =>
        name ∈ extensions }.complete invocation

/-- `begin_verification_conversation`, and what its two callers store in the
conversation. -/
def beginVerificationConversation (self : GdmSession) (around : Surroundings)
    (invocation : Nat) (serviceName : String) (username : Option String) : GdmSession :=
  let (started, conversationStarted) := self.startConversation around.spawn serviceName
  started.andThen fun self =>
    match if conversationStarted then self.findConversationByName serviceName else none with
    | some conversation =>
      (self.emit (.began conversation.id invocation)).modifyConversation conversation.id fun c =>
        { c with startingInvocation := some invocation, startingUsername := username }
    | none =>
      self.returnError invocation .spawnFailed "Could not create authentication helper process"

def handleClientBeginVerification (self : GdmSession) (around : Surroundings)
    (invocation : Nat) (serviceName : String) : GdmSession :=
  self.beginVerificationConversation around invocation serviceName none

def handleClientBeginVerificationForUser (self : GdmSession) (around : Surroundings)
    (invocation : Nat) (serviceName username : String) : GdmSession :=
  self.beginVerificationConversation around invocation serviceName (some username)

def handleClientAnswerQuery (self : GdmSession) (invocation : Nat)
    (serviceName answer : String) : GdmSession :=
  (self.complete invocation).answerQuery serviceName answer

def handleClientSelectChoice (self : GdmSession) (invocation : Nat)
    (serviceName answer : String) : GdmSession :=
  (self.complete invocation).answerQuery serviceName answer

def handleClientCustomJsonReply (self : GdmSession) (invocation : Nat) (serviceName : String)
    (json : Except String String) : GdmSession :=
  match json with
  | .ok text => (self.complete invocation).answerQuery serviceName text
  | .error error =>
    let message := "JSON reply is not valid: " ++ error
    (self.returnError invocation .notSupported message).reportError serviceName .notSupported
      message

def handleClientCustomJsonReportError (self : GdmSession) (invocation : Nat)
    (serviceName message : String) : GdmSession :=
  (self.complete invocation).reportError serviceName .accessDenied message

/-- `gdm_session_handle_client_cancel`, with `gdm_session_cancel`. -/
def handleClientCancel (self : GdmSession) (around : Surroundings) (invocation : Nat) :
    GdmSession :=
  (self.complete invocation).signal around .cancelled

/-- The handlers of the greeter interface refuse when the session runs.  A
username that is not set is printed the way `printf` prints `NULL`. -/
def unlessRunning (self : GdmSession) (invocation : Nat) (text : String)
    (handle : GdmSession → GdmSession) : GdmSession :=
  if self.isRunning then
    self.returnError invocation .invalidArgs (text ++ self.getUsername.getD "(null)")
  else handle (self.complete invocation)

def handleClientSelectSession (self : GdmSession) (invocation : Nat) (session : String) :
    GdmSession :=
  self.unlessRunning invocation "Session already running for user " fun self =>
    self.selectSession session

def handleClientSelectUser (self : GdmSession) (invocation : Nat) (username : String) :
    GdmSession :=
  self.unlessRunning invocation "Session already running for user " fun self =>
    self.selectUser (some username)

def handleClientStartSessionWhenReady (self : GdmSession) (around : Surroundings)
    (invocation : Nat) (serviceName : String) (clientIsReady : Bool) : GdmSession :=
  self.unlessRunning invocation "Session already running for user " fun self =>
    self.signal around (.clientReadyForSessionToStart serviceName clientIsReady)

def handleGetTimedLoginDetails (self : GdmSession) (invocation : Nat) : GdmSession :=
  self.unlessRunning invocation "Session already running for user " id

/-- `gdm_session_handle_client_stop_conflicting_session` asks for an opened
session, not for one that does not run. -/
def handleClientStopConflictingSession (self : GdmSession) (around : Surroundings)
    (invocation : Nat) : GdmSession :=
  if self.isOpened then
    (self.signal around (.stopConflictingSession self.sessionOpened)).complete invocation
  else
    self.returnError invocation .accessDenied
      "Can't stop conflicting session if this session is not opened yet"

def handleClientBeginAutoLogin (self : GdmSession) (invocation : Nat) (username : String) :
    GdmSession :=
  self.unlessRunning invocation "Session already owned by user " fun self =>
    self.setupForUser "gdm-autologin" username

/-- The interface is exported to the clients. -/
def exports (self : GdmSession) : ClientInterface → Bool
  | .userVerifier => self.userVerifierInterface
  | .greeter => self.greeterInterface
  | .choiceList => self.userVerifierExtensions.contains choiceListInterface
  | .customJson => self.userVerifierExtensions.contains customJsonInterface

def handleClient (self : GdmSession) (around : Surroundings) (invocation : Nat) :
    ClientCall → GdmSession
  | .enableExtensions extensions => self.handleClientEnableExtensions invocation extensions
  | .beginVerification serviceName =>
    self.handleClientBeginVerification around invocation serviceName
  | .beginVerificationForUser serviceName username =>
    self.handleClientBeginVerificationForUser around invocation serviceName username
  | .answerQuery serviceName answer =>
    self.handleClientAnswerQuery invocation serviceName answer
  | .cancel => self.handleClientCancel around invocation
  | .selectChoice serviceName answer =>
    self.handleClientSelectChoice invocation serviceName answer
  | .customJsonReply serviceName json =>
    self.handleClientCustomJsonReply invocation serviceName json
  | .customJsonReportError serviceName message =>
    self.handleClientCustomJsonReportError invocation serviceName message
  | .selectSession session => self.handleClientSelectSession invocation session
  | .selectUser username => self.handleClientSelectUser invocation username
  | .startSessionWhenReady serviceName clientIsReady =>
    self.handleClientStartSessionWhenReady around invocation serviceName clientIsReady
  | .getTimedLoginDetails => self.handleGetTimedLoginDetails invocation
  | .stopConflictingSession => self.handleClientStopConflictingSession around invocation
  | .beginAutoLogin username => self.handleClientBeginAutoLogin invocation username

/-- A call arrives on an interface that is exported. -/
def receiveCall (self : GdmSession) (around : Surroundings) (call : ClientCall) : GdmSession :=
  if self.exports call.interface then
    { self with nextInvocation := self.nextInvocation + 1 }.handleClient around
      self.nextInvocation call
  else self

/-! ## Connections of clients -/

/-- `handle_connection_from_outside`, with the two interfaces it exports. -/
def handleConnectionFromOutside (self : GdmSession) (around : Surroundings) (pid : Int) :
    GdmSession :=
  { self with
    outsideConnections := pid :: self.outsideConnections
    userVerifierInterface := true
    greeterInterface := self.greeterInterface ||
      self.verificationMode = VerificationMode.login }.signal around (.clientConnected pid)

/-- `on_outside_connection_closed` -/
def onOutsideConnectionClosed (self : GdmSession) (around : Surroundings) (pid : Int) :
    GdmSession :=
  if pid ∈ self.outsideConnections then
    { self with outsideConnections := self.outsideConnections.erase pid }.signal around
      (.clientDisconnected pid)
  else self

/-- `allow_user_function`, for a client that is not allowed. -/
def rejectClient (self : GdmSession) (around : Surroundings) (pid : Int) : GdmSession :=
  self.signal around (.clientRejected pid)

/-! ## The other end of the connection to a worker -/

/-- A call that the worker is done with, and its reply on the way. -/
def reply (self : GdmSession) (id : Nat) (call : WorkerCall) (worker : WorkerView)
    (message : WorkerMessage) : GdmSession :=
  self.modifyConversation id fun c =>
    { c with
      outstanding := c.outstanding.erase call
      worker := worker
      inbox := c.inbox ++ [message] }

/-- The conversation whose worker has a call to reply to. -/
def awaiting (self : GdmSession) (id : Nat) (call : WorkerCall) : Option Conversation :=
  (self.conversationAt id).filter fun c => c.connected ∧ call ∈ c.outstanding

/-- The worker does what it has been called for and says so. -/
def workerAnswers (self : GdmSession) (id : Nat) (call : WorkerCall) (answer : Answer) :
    GdmSession :=
  match self.awaiting id call with
  | none => self
  | some conversation =>
    match conversation.worker.perform call answer with
    | none => self
    | some worker => (self.emit (.answered id call answer)).reply id call worker (.success answer)

/-- The worker returns an error and stays as it is. -/
def workerRefuses (self : GdmSession) (id : Nat) (call : WorkerCall) (error : WorkerError) :
    GdmSession :=
  match self.awaiting id call with
  | none => self
  | some conversation => self.reply id call conversation.worker (.failure call.method error)

/-- The worker returns an error and goes back to NONE. -/
def workerFails (self : GdmSession) (id : Nat) (call : WorkerCall) (error : WorkerError) :
    GdmSession :=
  match self.awaiting id call with
  | none => self
  | some conversation =>
    self.reply id call { conversation.worker with state := .none } (.failure call.method error)

/-- The worker sends a signal. -/
def workerSends (self : GdmSession) (id : Nat) (signal : WorkerSignal) : GdmSession :=
  match (self.conversationAt id).filter fun c => c.connected with
  | none => self
  | some conversation =>
    match conversation.worker.send signal with
    | none => self
    | some worker =>
      self.modifyConversation id fun c =>
        { c with worker := worker, inbox := c.inbox ++ [.signal signal] }

/-! ## The machine -/

def handleOwner (self : GdmSession) (around : Surroundings) : OwnerCall → GdmSession
  | .startConversation serviceName => (self.startConversation around.spawn serviceName).1
  | .selectSession text => self.selectSession text
  | .setDisplayIsInitial isInitial => { self with displayIsInitial := isInitial }
  | .setDisplayDevice device => { self with displayDevice := some device }
  | .startSession serviceName => self.startSession around serviceName
  | .startReauthentication pidOfCaller uidOfCaller =>
    self.startReauthentication pidOfCaller uidOfCaller
  | .reset => self.reset
  | .close => self.close

/-- The end of a worker whose conversation is in the table. -/
def whenPresent (self : GdmSession) (id : Nat) (handle : Conversation → GdmSession) :
    GdmSession :=
  match self.conversationAt id with
  | none => self
  | some conversation => handle conversation

def handleEvent (self : GdmSession) (around : Surroundings) : SessionEvent → GdmSession
  | .clientConnected pid => self.handleConnectionFromOutside around pid
  | .clientDisconnected pid => self.onOutsideConnectionClosed around pid
  | .clientRejected pid => self.rejectClient around pid
  | .client call => self.receiveCall around call
  | .owner call => self.handleOwner around call
  | .hello pid => self.registerWorker around pid
  | .query kind serviceName => self.handleQuery kind serviceName
  | .workerAnswers id call answer => self.workerAnswers id call answer
  | .workerRefuses id call error => self.workerRefuses id call error
  | .workerFails id call error => self.workerFails id call error
  | .workerSends id signal => self.workerSends id signal
  | .deliver id => self.deliver around id
  | .workerExited id code => self.whenPresent id fun c => self.workerExited around c code
  | .workerDied id signum => self.whenPresent id fun c => self.workerDied around c signum

/-- One event of the main loop, as long as the process runs. -/
def step (self : GdmSession) (event : SessionEvent × Surroundings) : GdmSession :=
  if self.status = .running then self.handleEvent event.2 event.1 else self

end GdmSession

/-- The verification mode that an owner creates its session with. -/
def Owner.verificationMode : Owner → VerificationMode
  | userSession | launchEnvironment => .login
  | transient | reauthenticationRequest => .reauthenticate

namespace GdmSession

/-- `gdm_session_new` -/
def new (owner : Owner) (displayHostname displayDevice displaySeatId : Option String)
    (displayIsLocal : Bool) : GdmSession :=
  { verificationMode := owner.verificationMode
    owner := owner
    displayHostname := displayHostname
    displayDevice := displayDevice
    displaySeatId := displaySeatId
    displayIsLocal := displayIsLocal }

/-- The session of a greeter on the seat. -/
def greeterSession : GdmSession :=
  new .userSession none none none true

/-- A login with a password, as far as the start of the session. -/
def passwordLogin : List (SessionEvent × Surroundings) :=
  [.clientConnected 700,
    .client (.beginVerificationForUser "gdm-password" "alice"),
    .hello 1000,
    .workerAnswers 0 (.Initialize [.service "gdm-password", .extensions [], .username "alice",
      .displayIsLocal true]) (.Initialize (some "alice")),
    .deliver 0,
    .workerAnswers 0 .Authenticate (.Authenticate (some "alice")),
    .deliver 0,
    .workerAnswers 0 .Authorize .Authorize,
    .deliver 0,
    .workerAnswers 0 .EstablishCredentials .EstablishCredentials,
    .deliver 0,
    .workerAnswers 0 .Open (.Open "c2"),
    .deliver 0,
    .client (.startSessionWhenReady "gdm-password" true),
    .owner (.startSession "gdm-password"),
    .workerAnswers 0 .StartProgram (.StartProgram 1200),
    .deliver 0].map fun event => (event, {})

/-- The session from its construction on. -/
def machine : EventMachine GdmSession (SessionEvent × Surroundings) where
  Start self := ∃ owner hostname device seatId isLocal,
    self = new owner hostname device seatId isLocal
  step := step

theorem start_greeterSession : machine.Start greeterSession :=
  ⟨.userSession, none, none, none, true, rfl⟩

end GdmSession

end Gdm
