import Gdm.Worker.Pam

/-!
# The state of a session worker

`GdmSessionWorker` is the private structure of the worker process as far as the
modelled functions read or write it, together with the history of what the
process did, which the properties of the later modules are about.
-/

namespace Gdm

/-- `GdmSessionWorkerState`, in the order of its numbers. -/
inductive GdmSessionWorkerState
  | none
  | setupComplete
  | authenticated
  | authorized
  | accredited
  | accountDetailsSaved
  | sessionOpened
  | sessionStarted
  deriving DecidableEq, Repr

namespace GdmSessionWorkerState

/-- The number of a state in the C enumeration. -/
def toNat : GdmSessionWorkerState → Nat
  | none => 0
  | setupComplete => 1
  | authenticated => 2
  | authorized => 3
  | accredited => 4
  | accountDetailsSaved => 5
  | sessionOpened => 6
  | sessionStarted => 7

/-- The state with a given number. -/
def ofNat? : Nat → Option GdmSessionWorkerState
  | 0 => some none
  | 1 => some setupComplete
  | 2 => some authenticated
  | 3 => some authorized
  | 4 => some accredited
  | 5 => some accountDetailsSaved
  | 6 => some sessionOpened
  | 7 => some sessionStarted
  | _ => Option.none

instance : LE GdmSessionWorkerState := ⟨fun s t => s.toNat ≤ t.toNat⟩

instance (s t : GdmSessionWorkerState) : Decidable (s ≤ t) :=
  inferInstanceAs (Decidable (s.toNat ≤ t.toNat))

theorem ofNat?_toNat (s : GdmSessionWorkerState) : ofNat? s.toNat = some s := by
  cases s <;> rfl

/-- Different states have different numbers. -/
theorem toNat_injective {s t : GdmSessionWorkerState} (h : s.toNat = t.toNat) : s = t := by
  have hsame : some s = some t := by rw [← ofNat?_toNat s, ← ofNat?_toNat t, h]
  exact Option.some.inj hsame

end GdmSessionWorkerState

/-- The D-Bus methods that ask the worker for a state change. -/
inductive Method
  | Initialize
  | Authenticate
  | Authorize
  | EstablishCredentials
  | Open
  | StartProgram
  deriving DecidableEq, Repr

/-- The state a method asks for: the `new_state` its handler passes to
`validate_state_change`. -/
def Method.newState : Method → GdmSessionWorkerState
  | Initialize => .setupComplete
  | Authenticate => .authenticated
  | Authorize => .authorized
  | EstablishCredentials => .accredited
  | Open => .accountDetailsSaved
  | StartProgram => .sessionStarted

/-- A `GDBusMethodInvocation`: one received call.  The serial number is the
identity of the object. -/
structure Invocation where
  serial : Nat
  method : Method
  deriving DecidableEq, Repr

/-- The members of `GdmSessionWorkerError` that the worker returns, and the errors
of the shell parser. -/
inductive ErrorCode
  | serviceUnavailable
  | tooManyRetries
  | authenticating
  | authorizing
  | openingSession
  | givingCredentials
  | wrongState
  | outstandingRequest
  | inReauthSession
  | shellParse
  deriving DecidableEq, Repr

structure WorkerError where
  code : ErrorCode
  message : String
  deriving DecidableEq, Repr

/-- What an invocation is completed with. -/
inductive Reply
  | Initialize
  | Authenticate
  | Authorize
  | EstablishCredentials
  | Open (sessionId : String)
  | StartProgram (pid : Int)
  | error (error : WorkerError)
  deriving DecidableEq, Repr

/-- `reply` is what a caller of `method` may get: the reply of that very method,
or an error. -/
def Reply.Answers : Reply → Method → Prop
  | .Initialize, m => m = .Initialize
  | .Authenticate, m => m = .Authenticate
  | .Authorize, m => m = .Authorize
  | .EstablishCredentials, m => m = .EstablishCredentials
  | .Open _, m => m = .Open
  | .StartProgram _, m => m = .StartProgram
  | .error _, _ => True

instance : ∀ (r : Reply) (m : Method), Decidable (r.Answers m)
  | .Initialize, _ | .Authenticate, _ | .Authorize, _ | .EstablishCredentials, _
  | .Open _, _ | .StartProgram _, _ => inferInstanceAs (Decidable (_ = _))
  | .error _, _ => inferInstanceAs (Decidable True)

/-- The places where the worker process can abort. -/
inductive Assertion
  | initializePam
  | getUsername
  | saveAccountDetailsNow
  | doSaveAccountDetailsWhenReady
  | openSession
  | setUpForNewVt
  | getStateName
  | stateChangeIdle
  | nullArguments
  deriving DecidableEq, Repr

/-- The assertions of the state-change code: `state_change_idle`,
`get_state_name`, the two functions that save account details and
`gdm_session_worker_open_session`. -/
def Assertion.ofStateChange : Assertion → Bool
  | saveAccountDetailsNow | doSaveAccountDetailsWhenReady | openSession
  | getStateName | stateChangeIdle => true
  | initializePam | getUsername | setUpForNewVt | nullArguments => false

/-- The main loop runs, or the process has ended. -/
inductive WorkerStatus
  | running
  | aborted (assertion : Assertion)
  | finalized
  deriving DecidableEq, Repr

/-- The saved choices of a user that the accounts service has loaded. -/
structure Account where
  sessionName : String := ""
  sessionType : String := ""
  language : String := ""
  deriving DecidableEq, Repr

/-- What the worker does that others can see, what its debug log says, and the
return of `validate_state_change` (`accepted`). -/
inductive Effect
  | received (invocation : Invocation)
  | accepted (invocation : Invocation)
  | completed (invocation : Option Invocation) (reply : Reply)
  | attempting (newState : GdmSessionWorkerState)
  | notifyState (state : GdmSessionWorkerState)
  | pam (call : PamCall) (handle : Option Nat) (code : PamCode)
  | usernameChanged (username : Option String)
  | savedLanguageNameRead (name : Option String)
  | savedSessionNameRead (name : Option String)
  | savedSessionTypeRead (type : Option String)
  | accountSaved (username : String) (sessionName sessionType language : Option String)
  | forked (pid : Int) (arguments : List String)
  | sessionExited (service : Option String) (status : Nat)
  | killed (pid : Int)
  deriving DecidableEq, Repr

/-- A `GdmSessionSettings` object.  `watchesUser` says that
`on_user_is_loaded_changed` is connected to its user; the other two count the
handlers that the worker has connected to the object itself. -/
structure GdmSessionSettings where
  user : Option String := none
  sessionName : Option String := none
  sessionType : Option String := none
  languageName : Option String := none
  watchesUser : Bool := false
  savedNameHandlers : Bool := true
  isLoadedHandlers : Nat := 0
  deriving DecidableEq, Repr

/-- `struct _GdmSessionWorker`.

A settings object that the worker replaces is not freed, and its handlers stay
connected, so all of them are kept in `settings`; `userSettings` is the index of
the one the worker uses.  A failing `pam_start` leaves `pamHandle` as it was:
`gdm_session_worker_uninitialize_pam` tests the handle for `NULL` right after. -/
structure GdmSessionWorker where
  state : GdmSessionWorkerState := .none
  pamHandle : Option Nat := none
  childPid : Int := 0
  childWatch : Option Int := none
  service : Option String := none
  displayDevice : Option String := none
  displaySeatId : Option String := none
  hostname : Option String := none
  username : Option String := none
  logFile : Option String := none
  sessionId : Option String := none
  passwordIsRequired : Bool := false
  extensions : Option (List String) := none
  credFlags : CredFlags := .unset
  arguments : Option (List String) := none
  isProgramSession : Bool := false
  isReauthSession : Bool := false
  displayIsLocal : Bool := false
  displayIsInitial : Bool := false
  seat0HasVts : Bool := false
  /-- `state_change_idle_id > 0` -/
  stateChangeIdle : Bool := false
  userSettings : Option Nat := none
  pendingInvocation : Option Invocation := none
  euid : Nat := 0
  fsuid : Nat := 0
  settings : List GdmSessionSettings := []
  /-- the users that the accounts service has loaded -/
  accounts : String → Option Account := fun _ => none
  nextHandle : Nat := 0
  nextSerial : Nat := 0
  status : WorkerStatus := .running
  log : List Effect := []

/-- One entry of the `a{sv}` dictionary of an `Initialize` call. -/
inductive Detail
  | service (value : String)
  | extensions (value : List String)
  | username (value : String)
  | isProgramSession (value : Bool)
  | logFile (value : String)
  | console (value : String)
  | seatId (value : String)
  | hostname (value : String)
  | displayIsLocal (value : Bool)
  | displayIsInitial (value : Bool)
  | unknown (key : String)
  deriving DecidableEq, Repr

/-- A method call with its arguments.  `Initialize` comes with what
`sd_seat_can_tty` says of seat0, and `StartProgram` with what
`g_shell_parse_argv` makes of its text: the argument vector or an error
message. -/
inductive Request
  | Initialize (details : List Detail) (seat0HasVts : Bool)
  | Authenticate
  | Authorize
  | EstablishCredentials
  | Open
  | StartProgram (argv : Except String (List String))

def Request.method : Request → Method
  | Initialize _ _ => .Initialize
  | Authenticate => .Authenticate
  | Authorize => .Authorize
  | EstablishCredentials => .EstablishCredentials
  | Open => .Open
  | StartProgram _ => .StartProgram

/-- The callbacks of the worker's main loop. -/
inductive WorkerEvent
  | call (request : Request)
  | stateChangeIdle (outcomes : Outcomes)
  | accountLoaded (user : String) (account : Account)
  | accountUnloaded (user : String)
  | setSessionName (name : String)
  | setLanguageName (name : String)
  | childExited (status : Nat) (outcomes : Outcomes)
  | finalize (outcomes : Outcomes)

namespace GdmSessionWorker

def emit (worker : GdmSessionWorker) (effect : Effect) : GdmSessionWorker :=
  { worker with log := worker.log ++ [effect] }

def abort (worker : GdmSessionWorker) (assertion : Assertion) : GdmSessionWorker :=
  { worker with status := .aborted assertion }

/-- `gdm_session_worker_set_state` -/
def setState (worker : GdmSessionWorker) (state : GdmSessionWorkerState) :
    GdmSessionWorker :=
  if worker.state = state then worker
  else { worker with state := state }.emit (.notifyState state)

/-- `queue_state_change`: at most one idle source is queued. -/
def queueStateChange (worker : GdmSessionWorker) : GdmSessionWorker :=
  { worker with stateChangeIdle := true }

end GdmSessionWorker

end Gdm
