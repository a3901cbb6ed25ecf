import Gdm.Session.TendingSteps
import Gdm.Worker.Speech

/-!
# A session and its workers

A session of the daemon together with the worker processes of its conversations.  The
calls of the session reach a worker one after another, and what the worker says on its
connection while it performs them reaches the session.  Every event is one callback of
one of the processes, in any order.
-/

namespace Gdm

/-! ## The calls -/

/-- The method of a worker that a call is for.  StartReauthentication is served beside
the state machine of the worker. -/
def WorkerCall.method? : WorkerCall → Option Method
  | Initialize _ => some .Initialize
  | Authenticate => some .Authenticate
  | Authorize => some .Authorize
  | EstablishCredentials => some .EstablishCredentials
  | Open => some .Open
  | StartProgram => some .StartProgram
  | StartReauthentication _ _ => none

/-- The call as it arrives.  Whether seat0 has VTs is asked by the handler of
Initialize, and the command line comes with StartProgram. -/
def WorkerCall.request (seat0HasVts : Bool) (argv : Except String (List String)) :
    WorkerCall → Option Request
  | Initialize details => some (.Initialize details seat0HasVts)
  | Authenticate => some .Authenticate
  | Authorize => some .Authorize
  | EstablishCredentials => some .EstablishCredentials
  | Open => some .Open
  | StartProgram => some (.StartProgram argv)
  | StartReauthentication _ _ => none

/-- The username that a call names. -/
def WorkerCall.username : WorkerCall → Option String
  | Initialize details => detailsUsername details
  | _ => none

/-- The calls to the state machine of a worker, in their order. -/
def plainCalls (id : Nat) (log : List SessionEffect) : List WorkerCall :=
  (calledTo id log).filter fun call => call.method?.isSome

theorem plainCalls_append (id : Nat) (log new : List SessionEffect) :
    plainCalls id (log ++ new) = plainCalls id log ++ plainCalls id new := by
  rw [plainCalls, calledTo_append, List.filter_append, plainCalls, plainCalls]

/-! ## The messages -/

/-- What goes over a connection from a worker to the session. -/
inductive Word
  | reply (method : Method) (reply : Reply)
  | signal (signal : WorkerSignal)
  deriving DecidableEq, Repr

/-- `WIFEXITED`, `WEXITSTATUS` and `WTERMSIG` of the status of a process that has ended. -/
def ExitStatus.ofStatus (status : Nat) : ExitStatus :=
  if status % 128 = 0 then .exited (status / 256 % 256) else .signaled (status % 128)

/-- The signal that an entry in the history of a worker stands for.  D-Bus has no `NULL`
string. -/
def Effect.signal? : Effect → Option WorkerSignal
  | usernameChanged username => some (.usernameChanged (username.getD ""))
  | savedLanguageNameRead name => some (.savedLanguageNameRead (name.getD ""))
  | savedSessionNameRead name => some (.savedSessionNameRead (name.getD ""))
  | savedSessionTypeRead type => some (.savedSessionTypeRead (type.getD ""))
  | sessionExited service status =>
    some (.sessionExited (service.getD "") (.ofStatus status))
  | _ => none

/-- The word of an entry in the history of a worker. -/
def Effect.word : Effect → Option Word
  | completed (some invocation) reply => some (.reply invocation.method reply)
  | effect => effect.signal?.map .signal

/-- What a worker has said. -/
def words (log : List Effect) : List Word :=
  log.filterMap Effect.word

/-- The signals of a worker that are about a conversation with PAM or a session for
reauthentication, which run beside the state machine. -/
def WorkerSignal.isAside : WorkerSignal → Bool
  | reauthenticated _ _ _ | cancelPendingQuery => true
  | _ => false

def WorkerMethod.method? : WorkerMethod → Option Method
  | Initialize => some .Initialize
  | Authenticate => some .Authenticate
  | Authorize => some .Authorize
  | EstablishCredentials => some .EstablishCredentials
  | Open => some .Open
  | StartProgram => some .StartProgram
  | StartReauthentication => none

/-- The word that has made a message.  The users in a message are not sent. -/
def WorkerMessage.word : WorkerMessage → Option Word
  | success (.Initialize _) => some (.reply .Initialize .Initialize)
  | success (.Authenticate _) => some (.reply .Authenticate .Authenticate)
  | success .Authorize => some (.reply .Authorize .Authorize)
  | success .EstablishCredentials => some (.reply .EstablishCredentials .EstablishCredentials)
  | success (.Open sessionId) => some (.reply .Open (.Open sessionId))
  | success (.StartProgram pid) => some (.reply .StartProgram (.StartProgram pid))
  | success (.StartReauthentication _) => none
  | failure method error => method.method?.map fun method => .reply method (.error error)
  | signal sent => if sent.isAside then none else some (.signal sent)

/-- What a session has heard, in its words. -/
def heardWords (messages : List WorkerMessage) : List Word :=
  messages.filterMap WorkerMessage.word

/-! ## The processes -/

/-- A worker process.  `taken` has the calls that it has received and not replied to, by
their serial numbers and the last one first; `heard` all calls that it has received. -/
structure WorkerProcess where
  worker : GdmSessionWorker
  taken : List (Nat × WorkerCall) := []
  heard : List WorkerCall := []

/-- A call arrives.  It has the next serial number. -/
def WorkerProcess.takes (p : WorkerProcess) (call : WorkerCall) : WorkerProcess :=
  { p with
    taken := (p.worker.nextSerial, call) :: p.taken
    heard := p.heard ++ [call] }

/-- A session and the processes of its conversations, by their numbers. -/
structure Dialogue where
  session : GdmSession
  processes : Nat → WorkerProcess

/-- What happens in one of the processes: an event of the session, with what it meets; the
arrival of the next call at a worker; or another callback of a worker. -/
inductive DialogueEvent
  | session (event : SessionEvent) (around : Surroundings)
  | receive (id : Nat) (seat0HasVts : Bool) (argv : Except String (List String))
  | worker (id : Nat) (event : WorkerEvent)

/-- The worker that the reauthentication in it or its conversation with PAM makes say
something. -/
def SessionEvent.asideOf : SessionEvent → Option Nat
  | workerAnswers id (.StartReauthentication _ _) (.StartReauthentication _) => some id
  | workerRefuses id (.StartReauthentication _ _) _ => some id
  | workerSends id signal => if signal.isAside then some id else none
  | _ => none

namespace Dialogue

def modifyProcess (self : Dialogue) (id : Nat) (f : WorkerProcess → WorkerProcess) :
    Dialogue :=
  { self with processes := fun i => if i = id then f (self.processes i) else self.processes i }

/-- The calls that are on their way to a worker.  Those behind the close of the connection
are among them, whether or not it gets them. -/
def unread (self : Dialogue) (id : Nat) : List WorkerCall :=
  (plainCalls id self.session.log).drop (self.processes id).heard.length

/-- The worker has said Hello, which it does before its main loop runs. -/
def listens (self : Dialogue) (id : Nat) : Bool :=
  id < self.session.nextConversation &&
    self.session.conversations.all fun c => c.id ≠ id || c.workerProxy

/-- What the session has on record about the worker. -/
def view (self : Dialogue) (id : Nat) : WorkerView :=
  ((self.session.conversationAt id).map Conversation.worker).getD {}

/-! ## What a worker says -/

/-- A reply at the end of the session.  The users, which are not sent, are those that the
session has on record. -/
def replyEvent (self : Dialogue) (id : Nat) (call : WorkerCall) : Reply → SessionEvent
  | .Initialize =>
    .workerAnswers id call (.Initialize (call.username <|> (self.view id).username))
  | .Authenticate => .workerAnswers id call (.Authenticate (self.view id).username)
  | .Authorize => .workerAnswers id call .Authorize
  | .EstablishCredentials => .workerAnswers id call .EstablishCredentials
  | .Open sessionId => .workerAnswers id call (.Open sessionId)
  | .StartProgram pid => .workerAnswers id call (.StartProgram pid)
  | .error error =>
    if (self.processes id).worker.state = .none then .workerFails id call error
    else .workerRefuses id call error

/-- The session takes what a worker has put on the connection. -/
def hears (self : Dialogue) (event : SessionEvent) : Dialogue :=
  { self with session := self.session.step (event, {}) }

/-- An entry in the history of a worker goes over its connection, if it is to.  A reply
goes to the call that has the serial number of its invocation. -/
def post (self : Dialogue) (id : Nat) (effect : Effect) : Dialogue :=
  match effect with
  | .completed (some invocation) reply =>
    match (self.processes id).taken.find? fun entry => entry.1 = invocation.serial with
    | none => self
    | some entry =>
      (self.hears (self.replyEvent id entry.2 reply)).modifyProcess id fun p =>
        { p with taken := p.taken.eraseP fun entry => entry.1 = invocation.serial }
  | effect =>
    match effect.signal? with
    | none => self
    | some signal => self.hears (.workerSends id signal)

/-- One entry after another. -/
def posts (self : Dialogue) (id : Nat) (log : List Effect) : Dialogue :=
  log.foldl (fun self effect => self.post id effect) self

/-- A callback of a worker, and what it says in it. -/
def act (self : Dialogue) (id : Nat) (event : WorkerEvent) : Dialogue :=
  let worker := (self.processes id).worker
  (self.modifyProcess id fun p => { p with worker := worker.step event }).posts id
    ((worker.step event).log.drop worker.log.length)

/-! ## The machine -/

/-- A worker gets the next call. -/
def receive (self : Dialogue) (id : Nat) (seat0HasVts : Bool)
    (argv : Except String (List String)) : Dialogue :=
  match self.unread id with
  | [] => self
  | call :: _ =>
    match call.request seat0HasVts argv with
    | none => self
    | some request =>
      (self.modifyProcess id fun p => p.takes call).act id (.call request)

/-- The main loop of the worker runs. -/
def runs (self : Dialogue) (id : Nat) : Bool :=
  self.listens id && (self.processes id).worker.status = .running

def step (self : Dialogue) : DialogueEvent → Dialogue
  | .session event around =>
    if event.isOfDaemon || event.asideOf.any self.runs then
      { self with session := self.session.step (event, around) }
    else self
  | .receive id seat0HasVts argv =>
    if self.runs id then self.receive id seat0HasVts argv else self
  | .worker id event =>
    if self.runs id && !event.isCall then self.act id event else self

/-- A new session.  Its workers are for reauthentication if it is, and the accounts service
knows some users when they begin. -/
def new (owner : Owner) (displayHostname displayDevice displaySeatId : Option String)
    (displayIsLocal : Bool) (accounts : Nat → String → Option Account) : Dialogue where
  session := .new owner displayHostname displayDevice displaySeatId displayIsLocal
  processes id :=
    { worker := .new (owner.verificationMode = VerificationMode.reauthenticate) (accounts id) }

/-- The session and its workers as a machine. -/
def machine : EventMachine Dialogue DialogueEvent where
  Start self := ∃ owner hostname device seatId isLocal accounts,
    self = new owner hostname device seatId isLocal accounts
  step := step

end Dialogue

end Gdm
