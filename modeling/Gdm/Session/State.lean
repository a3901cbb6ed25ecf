import Gdm.Worker.State

/-!
# The state of a session

`GdmSession` is the daemon's side of an exchange with a client.  It runs one
conversation for each authentication service, and each conversation talks to a
worker process over a connection of its own.  The record holds what the modelled
functions read or write, what is under way on the connections, and the history
of what the session did.
-/

namespace Gdm

/-- `GdmSessionVerificationMode` -/
inductive VerificationMode
  | login
  | reauthenticate
  deriving DecidableEq, Repr

/-- Who has created the session and connected to its signals: the manager for a
login, the manager for a temporary reauthentication channel, the launch
environment of a greeter, or a worker for reauthentication in its session. -/
inductive Owner
  | userSession
  | transient
  | launchEnvironment
  | reauthenticationRequest
  deriving DecidableEq, Repr

/-! ## The worker at the other end -/

/-- The worker methods that a session calls and waits for. -/
inductive WorkerMethod
  | Initialize
  | Authenticate
  | Authorize
  | EstablishCredentials
  | Open
  | StartProgram
  | StartReauthentication
  deriving DecidableEq, Repr

/-- A call of a worker method. -/
inductive WorkerCall
  | Initialize (details : List Detail)
  | Authenticate
  | Authorize
  | EstablishCredentials
  | Open
  | StartProgram
  | StartReauthentication (pidOfCaller : Int) (uidOfCaller : Nat)
  deriving DecidableEq, Repr

def WorkerCall.method : WorkerCall → WorkerMethod
  | Initialize _ => .Initialize
  | Authenticate => .Authenticate
  | Authorize => .Authorize
  | EstablishCredentials => .EstablishCredentials
  | Open => .Open
  | StartProgram => .StartProgram
  | StartReauthentication _ _ => .StartReauthentication

/-- A reply that reports success.  The users are not sent: that of `Initialize`
records the username the worker has then, and that of `Authenticate` for whom it
has authenticated. -/
inductive Answer
  | Initialize (user : Option String)
  | Authenticate (user : Option String)
  | Authorize
  | EstablishCredentials
  | Open (sessionId : String)
  | StartProgram (pid : Int)
  | StartReauthentication (address : String)
  deriving DecidableEq, Repr

def Answer.method : Answer → WorkerMethod
  | Initialize _ => .Initialize
  | Authenticate _ => .Authenticate
  | Authorize => .Authorize
  | EstablishCredentials => .EstablishCredentials
  | Open _ => .Open
  | StartProgram _ => .StartProgram
  | StartReauthentication _ => .StartReauthentication

/-- How a process ended. -/
inductive ExitStatus
  | exited (code : Nat)
  | signaled (signum : Nat)
  deriving DecidableEq, Repr

/-- The D-Bus signals of a worker that concern the session.  The user of
`reauthenticated` is not sent: it records whom the reauthentication session in
the worker has verified. -/
inductive WorkerSignal
  | usernameChanged (username : String)
  | sessionExited (serviceName : String) (status : ExitStatus)
  | reauthenticated (serviceName : String) (reauthPid : Int) (user : Option String)
  | savedLanguageNameRead (languageName : String)
  | savedSessionNameRead (sessionName : String)
  | savedSessionTypeRead (sessionType : String)
  | cancelPendingQuery
  deriving DecidableEq, Repr

/-- What a worker puts on its connection. -/
inductive WorkerMessage
  | success (answer : Answer)
  | failure (method : WorkerMethod) (error : WorkerError)
  | signal (signal : WorkerSignal)
  deriving DecidableEq, Repr

/-- What the worker process is up to: the state it is in and the username it has.
It is no data of the daemon's. -/
structure WorkerView where
  state : GdmSessionWorkerState := .none
  username : Option String := none
  deriving DecidableEq, Repr

/-- The username in the details of an `Initialize` call. -/
def detailsUsername (details : List Detail) : Option String :=
  details.findSome? fun
    | .username value => some value
    | _ => none

/-- The service in the details of an `Initialize` call. -/
def detailsService (details : List Detail) : Option String :=
  details.findSome? fun
    | .service value => some value
    | _ => none

/-- The username that an announcement of a worker stands for: none for the empty
text. -/
def announcedUser (username : String) : Option String :=
  if username.isEmpty then none else some username

/-- The worker does what a call asks for.  It has to be in the state before;
Open goes on to the open session by itself. -/
def WorkerView.perform (view : WorkerView) : WorkerCall → Answer → Option WorkerView
  | .Initialize details, .Initialize user =>
    if view.state = .none ∧ user = (detailsUsername details <|> view.username) then
      some { state := .setupComplete, username := user }
    else none
  | .Authenticate, .Authenticate user =>
    if view.state = .setupComplete ∧ user = view.username then
      some { view with state := .authenticated }
    else none
  | .Authorize, .Authorize =>
    if view.state = .authenticated then some { view with state := .authorized } else none
  | .EstablishCredentials, .EstablishCredentials =>
    if view.state = .authorized then some { view with state := .accredited } else none
  | .Open, .Open _ =>
    if view.state = .accredited then some { view with state := .sessionOpened } else none
  | .StartProgram, .StartProgram _ =>
    if view.state = .sessionOpened then some { view with state := .sessionStarted } else none
  | .StartReauthentication _ _, .StartReauthentication _ =>
    if view.state = .sessionStarted then some view else none
  | _, _ => none

/-- The worker after a signal that it sends: a session that exits takes it back to
NONE, and only a worker with a session reauthenticates. -/
def WorkerView.send (view : WorkerView) : WorkerSignal → Option WorkerView
  | .usernameChanged username => some { view with username := announcedUser username }
  | .sessionExited _ _ =>
    if view.state = .sessionStarted then some { view with state := .none } else none
  | .reauthenticated _ _ _ => if view.state = .sessionStarted then some view else none
  | .savedLanguageNameRead _ | .savedSessionNameRead _ | .savedSessionTypeRead _
  | .cancelPendingQuery => some view

/-! ## Conversations -/

/-- `GdmSessionConversation`, with the calls its worker has not answered yet and
the messages of the worker that the main loop has not dispatched yet.

`connected` says that the connection to the worker is open, which is when
`worker_manager_interface` is set.  The last three fields are history: the state
of the worker, the username that the daemon knows the worker to have, from its
initialization or from what it has announced since, and the user whose
authentication the worker has reported while it was connected. -/
structure Conversation where
  id : Nat
  serviceName : String
  workerPid : Int
  /-- `job` is not `NULL` -/
  job : Bool := true
  startingInvocation : Option Nat := none
  startingUsername : Option String := none
  pendingInvocation : Option Nat := none
  /-- `worker_proxy` is not `NULL` -/
  workerProxy : Bool := false
  sessionId : Option String := none
  isStopping : Bool := false
  reauthPidOfCaller : Int := 0
  connected : Bool := false
  outstanding : List WorkerCall := []
  inbox : List WorkerMessage := []
  worker : WorkerView := {}
  name : Option String := none
  verified : Option (Option String) := none
  deriving DecidableEq, Repr

/-! ## What a session does -/

/-- The GObject signals of a session.  The user of `reauthenticated` is that of
the signal of the worker, and the number in the signals for the start and the end
of a session records on behalf of which conversation they are emitted. -/
inductive SessionSignal
  | conversationStarted (serviceName : String)
  | conversationStopped (serviceName : String)
  | setupComplete (serviceName : String)
  | cancelled
  | clientRejected (pid : Int)
  | clientConnected (pid : Int)
  | clientDisconnected (pid : Int)
  | clientReadyForSessionToStart (serviceName : String) (clientIsReady : Bool)
  | authenticationFailed (serviceName : String) (workerPid : Int)
  | credentialsEstablished (serviceName : String) (workerPid : Int)
  | verificationComplete (serviceName : String)
  | sessionOpened (serviceName sessionId : String)
  | sessionOpenedFailed (serviceName message : String)
  | sessionStarted (serviceName : String) (pid : Int) (id : Nat)
  | sessionStartFailed (serviceName message : String)
  | sessionExited (code : Nat) (id : Nat)
  | sessionDied (signum : Nat) (id : Nat)
  | reauthenticationStarted (pidOfCaller : Int) (address : String)
  | reauthenticated (serviceName : String) (reauthPid : Int) (user : Option String)
  | stopConflictingSession (sessionId : Option String)
  deriving DecidableEq, Repr

/-- The errors a client gets. -/
inductive ClientErrorCode
  | spawnFailed
  | invalidArgs
  | accessDenied
  | notSupported
  | worker (code : ErrorCode)
  deriving DecidableEq, Repr

structure ClientError where
  code : ClientErrorCode
  message : String
  deriving DecidableEq, Repr

/-- What a query of a worker is completed with. -/
inductive QueryReply
  | answer (text : String)
  | cancelled
  | notSupported (message : String)
  | unknownMethod
  | reported (code : ClientErrorCode) (message : String)
  deriving DecidableEq, Repr

/-- What a session does, and what happens at its workers, for the record.

`started` and `freed` are the creation and the end of a conversation, the latter
with the invocations it leaves pending; `registered` says that the Hello of its
worker has come, `began` that it keeps the invocation of a client until its worker
is set up.  `called` is a call on a worker proxy and
`calledNull` one on a proxy that is `NULL`; `answered` says that a worker has done
what it was called for, `delivered` that the main loop dispatches one of its
messages; `reset` is the end of `do_reset`. -/
inductive SessionEffect
  | signal (signal : SessionSignal)
  | started (id : Nat) (serviceName : String) (workerPid : Int)
  | freed (id : Nat) (pendingInvocation startingInvocation : Option Nat)
  | registered (id : Nat)
  | began (id invocation : Nat)
  | killed (pid : Int)
  | called (id : Nat) (call : WorkerCall)
  | calledNull (serviceName : String) (call : WorkerCall)
  | answered (id : Nat) (call : WorkerCall) (answer : Answer)
  | delivered (id : Nat) (message : WorkerMessage)
  | queryReceived (query : Nat) (serviceName : String)
  | queryCompleted (query : Option Nat) (reply : QueryReply)
  | returned (invocation : Option Nat) (error : Option ClientError)
  | selectedUser (username : String)
  | reset
  deriving DecidableEq, Repr

/-- The main loop runs, or the process has ended: a failed assertion, the use of a
`NULL` or freed conversation, or no command for the session to start. -/
inductive SessionStatus
  | running
  | abortedSetPendingQuery
  | crashed
  | exited
  deriving DecidableEq, Repr

/-- `struct _GdmSession`.

`conversations` is the hash table; an entry whose value is `NULL`, which is left
by a worker that could not be started, is in `nullConversations` instead.
`sessionConversation` points to a conversation by its number.  `opened` is
history: the conversations that have opened a session which has been neither
started nor reset since, with the users whom their workers have authenticated. -/
structure GdmSession where
  verificationMode : VerificationMode
  owner : Owner
  selectedSession : Option String := none
  savedSession : Option String := none
  savedSessionType : Option String := none
  savedLanguage : Option String := none
  selectedUser : Option String := none
  timedLoginUsername : Option String := none
  timedLoginDelay : Int := 0
  conversations : List Conversation := []
  nullConversations : List String := []
  sessionConversation : Option Nat := none
  userVerifierInterface : Bool := false
  greeterInterface : Bool := false
  /-- the keys of `user_verifier_extensions` -/
  userVerifierExtensions : List String := []
  /-- the process numbers of the clients -/
  outsideConnections : List Int := []
  environment : List (String × String) := []
  sessionPid : Int := 0
  displayHostname : Option String := none
  displayDevice : Option String := none
  displaySeatId : Option String := none
  displayIsLocal : Bool := true
  displayIsInitial : Bool := false
  isProgramSession : Bool := false
  isOpened : Bool := false
  sessionOpened : Option String := none
  opened : List (Nat × Option String) := []
  nextConversation : Nat := 0
  nextQuery : Nat := 0
  nextInvocation : Nat := 0
  status : SessionStatus := .running
  log : List SessionEffect := []
  deriving DecidableEq, Repr

/-- What a callback of the session meets outside of it. -/
structure Surroundings where
  /-- the process number of a new worker, `none` when it cannot be started -/
  spawn : Option Int := some 1000
  /-- iterating over the conversations, a `NULL` one comes before the one sought -/
  nullFirst : Bool := false
  /-- the user that `get_automatic_login_details` of the manager finds -/
  automaticLogin : Option String := none
  /-- what `get_timed_login_details` finds for a display that allows it: an enabled
  timed login can come without a username -/
  timedLogin : Option (Option String × Int) := none
  /-- the session is in `user_sessions` of the manager -/
  inUserSessions : Bool := false
  /-- a rejected or disconnected client is the one that the session is for -/
  isOwnClient : Bool := true
  /-- the greeter user and the log file of the launch environment -/
  launchUser : Option String := none
  launchLogFile : Option String := none
  /-- the launch environment has not let go of its session yet -/
  launchHasSession : Bool := true
  /-- there is a command for the session name and type in question -/
  sessionCommandExists : Bool := true
  fallbackSessionName : String := "gnome"
  /-- the `DesktopNames` of the session file -/
  desktopNames : Option String := none
  /-- the variables of the daemon that set a language -/
  languageVariables : List (String × String) := []
  /-- what `setlocale` returns for `LC_MESSAGES` -/
  locale : Option String := none
  windowPath : Option String := none
  deriving DecidableEq, Repr

namespace GdmSession

def emit (self : GdmSession) (effect : SessionEffect) : GdmSession :=
  { self with log := self.log ++ [effect] }

def crash (self : GdmSession) : GdmSession :=
  { self with status := .crashed }

/-- `find_conversation_by_name` -/
def findConversationByName (self : GdmSession) (serviceName : String) :
    Option Conversation :=
  self.conversations.find? fun c => c.serviceName = serviceName

/-- The conversation that a pointer points to. -/
def conversationAt (self : GdmSession) (id : Nat) : Option Conversation :=
  self.conversations.find? fun c => c.id = id

/-- A change of the conversation `id` in place. -/
def modifyConversation (self : GdmSession) (id : Nat) (f : Conversation → Conversation) :
    GdmSession :=
  { self with conversations := self.conversations.map fun c => if c.id = id then f c else c }

/-- `gdm_session_is_running` -/
def isRunning (self : GdmSession) : Bool :=
  0 < self.sessionPid

/-- `gdm_session_get_username` -/
def getUsername (self : GdmSession) : Option String :=
  self.selectedUser

/-- `gdm_session_get_session_id`: `none` when it looks into a conversation that has
been freed. -/
def getSessionId (self : GdmSession) : Option (Option String) :=
  match self.sessionConversation with
  | none => some none
  | some id => (self.conversationAt id).map Conversation.sessionId

/-- `gdm_session_get_conversation_session_id` -/
def getConversationSessionId (self : GdmSession) (serviceName : String) : Option String :=
  (self.findConversationByName serviceName).bind Conversation.sessionId

/-- `gdm_session_client_is_connected` -/
def clientIsConnected (self : GdmSession) : Bool :=
  !self.outsideConnections.isEmpty

end GdmSession

end Gdm
