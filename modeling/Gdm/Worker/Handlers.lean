import Gdm.Library.EventMachine
import Gdm.Worker.Steps

/-!
# The worker's main loop

The D-Bus method handlers, the idle callback that performs a state change and
the other callbacks, put together as an event machine.
-/

namespace Gdm

/-- `get_state_name`: it asserts that it is given the number of a state. -/
def getStateName (state : Nat) : Option String :=
  match GdmSessionWorkerState.ofNat? state with
  | some .none => some "NONE"
  | some .setupComplete => some "SETUP_COMPLETE"
  | some .authenticated => some "AUTHENTICATED"
  | some .authorized => some "AUTHORIZED"
  | some .accredited => some "ACCREDITED"
  | some .accountDetailsSaved => some "ACCOUNT_DETAILS_SAVED"
  | some .sessionOpened => some "SESSION_OPENED"
  | some .sessionStarted => some "SESSION_STARTED"
  | none => none

namespace GdmSessionWorker

/-- Completing a given invocation with an error. -/
def returnError (worker : GdmSessionWorker) (invocation : Invocation)
    (code : ErrorCode) (message : String) : GdmSessionWorker :=
  worker.emit (.completed (some invocation) (.error ⟨code, message⟩))

/-! ## The idle callback -/

/-- The worker when the idle callback has announced the step to `newState`. -/
def dispatched (worker : GdmSessionWorker) (newState : GdmSessionWorkerState) :
    GdmSessionWorker :=
  { worker.emit (.attempting newState) with stateChangeIdle := false }

/-- The `switch` of `state_change_idle`. -/
def performStateChange (worker : GdmSessionWorker) (o : Outcomes) :
    GdmSessionWorkerState → GdmSessionWorker
  | .setupComplete => worker.doSetup o
  | .authenticated => worker.doAuthenticate o
  | .authorized => worker.doAuthorize o
  | .accredited => worker.doAccredit o
  | .accountDetailsSaved => worker.doSaveAccountDetailsWhenReady
  | .sessionOpened => worker.doOpenSession o
  | .sessionStarted => worker.doStartSession o
  | .none => worker.abort .stateChangeIdle

/-- `state_change_idle`: the name of the new state is looked up for the debug
log first, and that asserts that there is such a state. -/
def stateChangeIdleCallback (worker : GdmSessionWorker) (o : Outcomes) :
    GdmSessionWorker :=
  match GdmSessionWorkerState.ofNat? (worker.state.toNat + 1) with
  | none => worker.abort .getStateName
  | some newState => (worker.dispatched newState).performStateChange o newState

/-! ## Method handlers -/

/-- `validate_state_change`, with its return value. -/
def validateStateChange (worker : GdmSessionWorker) (invocation : Invocation)
    (newState : GdmSessionWorkerState) : GdmSessionWorker × Bool :=
  if worker.pendingInvocation.isSome then
    match getStateName newState.toNat, getStateName (worker.state.toNat + 1) with
    | some new, some outstanding =>
      (worker.returnError invocation .outstandingRequest
        ("Cannot process state change to " ++ new ++
          ", as there is already an outstanding request to move to state " ++ outstanding),
        false)
    | _, _ => (worker.abort .getStateName, false)
  else if worker.state.toNat + 1 ≠ newState.toNat then
    match getStateName newState.toNat, getStateName worker.state.toNat,
        getStateName (newState.toNat - 1) with
    | some new, some current, some needed =>
      (worker.returnError invocation .wrongState
        ("Cannot move to state " ++ new ++ ", in state " ++ current ++ ", not " ++ needed),
        false)
    | _, _, _ => (worker.abort .getStateName, false)
  else (worker.emit (.accepted invocation), true)

def validateAndQueueStateChange (worker : GdmSessionWorker) (invocation : Invocation)
    (newState : GdmSessionWorkerState) : GdmSessionWorker :=
  match worker.validateStateChange invocation newState with
  | (worker, true) =>
    { worker with pendingInvocation := some invocation }.queueStateChange
  | (worker, false) => worker

def handleAuthenticate (worker : GdmSessionWorker) (invocation : Invocation) :
    GdmSessionWorker :=
  worker.validateAndQueueStateChange invocation .authenticated

def handleAuthorize (worker : GdmSessionWorker) (invocation : Invocation) :
    GdmSessionWorker :=
  worker.validateAndQueueStateChange invocation .authorized

/-- The credential flags are set even when the request has been refused. -/
def handleEstablishCredentials (worker : GdmSessionWorker) (invocation : Invocation) :
    GdmSessionWorker :=
  let worker := worker.validateAndQueueStateChange invocation .accredited
  if worker.status ≠ .running then worker
  else { worker with
    credFlags := if worker.isReauthSession then .reinitializeCred else .establishCred }

def handleOpen (worker : GdmSessionWorker) (invocation : Invocation) :
    GdmSessionWorker :=
  worker.validateAndQueueStateChange invocation .accountDetailsSaved

/-- `gdm_supported_pam_extensions` -/
def supportedPamExtensions : List String :=
  ["org.gnome.DisplayManager.UserVerifier.ChoiceList",
    "org.gnome.DisplayManager.UserVerifier.CustomJSON"]

def filterExtensions (extensions : List String) : List String :=
  extensions.filter fun extension => extension ∈ supportedPamExtensions

/-- One round of the loop over the details of an `Initialize` call. -/
def applyDetail (worker : GdmSessionWorker) : Detail → GdmSessionWorker
  | .service value => { worker with service := some value }
  | .extensions value => { worker with extensions := some (filterExtensions value) }
  | .username value => { worker with username := some value }
  | .isProgramSession value => { worker with isProgramSession := value }
  | .logFile value => { worker with logFile := some value }
  | .console value => { worker with displayDevice := some value }
  | .seatId value => { worker with displaySeatId := some value }
  | .hostname value => { worker with hostname := some value }
  | .displayIsLocal value => { worker with displayIsLocal := value }
  | .displayIsInitial value => { worker with displayIsInitial := value }
  | .unknown _ => worker

/-- `gdm_session_settings_new` and the handlers for the saved names: the new
object becomes the current one, the old one stays where it is. -/
def newUserSettings (worker : GdmSessionWorker) : GdmSessionWorker :=
  { worker with
    settings := worker.settings ++ [{}]
    userSettings := some worker.settings.length }

/-- The settings part of `Initialize`; the result says whether to wait for
them. -/
def loadInitialSettings (worker : GdmSessionWorker) : GdmSessionWorker × Bool :=
  if worker.isProgramSession then (worker, false)
  else
    let i := worker.settings.length
    let worker := worker.newUserSettings
    match worker.username with
    | none => (worker, false)
    | some user =>
      let (worker, loaded) := worker.settingsLoad i (some user)
      (worker, !loaded)

def handleInitialize (worker : GdmSessionWorker) (invocation : Invocation)
    (details : List Detail) (seat0HasVts : Bool) : GdmSessionWorker :=
  match worker.validateStateChange invocation .setupComplete with
  | (worker, false) => worker
  | (worker, true) =>
    let worker := details.foldl applyDetail worker
    let worker := { worker with
      seat0HasVts := seat0HasVts
      pendingInvocation := some invocation }
    let i := worker.settings.length
    match worker.loadInitialSettings with
    | (worker, true) =>
      worker.modifySettings i fun s => { s with isLoadedHandlers := s.isLoadedHandlers + 1 }
    | (worker, false) => worker.queueStateChange

/-- The return value of `validate_state_change` is not looked at. -/
def handleStartProgram (worker : GdmSessionWorker) (invocation : Invocation)
    (argv : Except String (List String)) : GdmSessionWorker :=
  let worker := (worker.validateStateChange invocation .sessionStarted).1
  if worker.status ≠ .running then worker
  else if worker.isReauthSession then
    worker.returnError invocation .inReauthSession
      "Cannot start a program while in a reauth session"
  else
    let worker := { worker with arguments := none }
    match argv with
    | .error message => worker.returnError invocation .shellParse message
    | .ok arguments =>
      { worker with
        arguments := some arguments
        pendingInvocation := some invocation }.queueStateChange

/-- A method call arrives on the worker's connection. -/
def receive (worker : GdmSessionWorker) (request : Request) : GdmSessionWorker :=
  let invocation : Invocation := ⟨worker.nextSerial, request.method⟩
  let worker := { worker.emit (.received invocation) with
    nextSerial := worker.nextSerial + 1 }
  match request with
  | .Initialize details seat0HasVts =>
    worker.handleInitialize invocation details seat0HasVts
  | .Authenticate => worker.handleAuthenticate invocation
  | .Authorize => worker.handleAuthorize invocation
  | .EstablishCredentials => worker.handleEstablishCredentials invocation
  | .Open => worker.handleOpen invocation
  | .StartProgram argv => worker.handleStartProgram invocation argv

/-! ## The other callbacks -/

def handleSetSessionName (worker : GdmSessionWorker) (name : String) : GdmSessionWorker :=
  match worker.userSettings with
  | none => worker
  | some i => worker.settingsSetSessionName i name

def handleSetLanguageName (worker : GdmSessionWorker) (name : String) : GdmSessionWorker :=
  match worker.userSettings with
  | none => worker
  | some i => worker.settingsSetLanguageName i name

/-- `session_worker_child_watch` -/
def sessionWorkerChildWatch (worker : GdmSessionWorker) (pid : Int) (status : Nat)
    (o : Outcomes) : GdmSessionWorker :=
  let worker := worker.uninitializePam .success o
  let worker := { worker with childPid := -1, childWatch := none }
  (worker.emit (.sessionExited worker.service status)).emit (.killed pid)

/-- `gdm_session_worker_finalize` -/
def finalize (worker : GdmSessionWorker) (o : Outcomes) : GdmSessionWorker :=
  let worker := { worker with childWatch := none }
  let worker := if 0 < worker.childPid then worker.emit (.killed worker.childPid) else worker
  { worker.uninitializePam .success o with status := .finalized }

/-! ## The machine -/

/-- One event of the main loop.  A callback that is not installed does not
happen, and nothing happens once the process has ended. -/
def step (worker : GdmSessionWorker) (event : WorkerEvent) : GdmSessionWorker :=
  if worker.status ≠ .running then worker
  else match event with
    | .call request => worker.receive request
    | .stateChangeIdle o =>
      if worker.stateChangeIdle then worker.stateChangeIdleCallback o else worker
    | .accountLoaded user account => worker.accountLoaded user account
    | .accountUnloaded user => worker.accountUnloaded user
    | .setSessionName name => worker.handleSetSessionName name
    | .setLanguageName name => worker.handleSetLanguageName name
    | .childExited status o =>
      match worker.childWatch with
      | none => worker
      | some pid => worker.sessionWorkerChildWatch pid status o
    | .finalize o => worker.finalize o

/-- A worker that has just been constructed, with what the accounts service
knows by then. -/
def new (isReauthSession : Bool) (accounts : String → Option Account) : GdmSessionWorker :=
  { isReauthSession := isReauthSession, accounts := accounts }

/-- The worker process as a machine. -/
def machine : EventMachine GdmSessionWorker WorkerEvent where
  Start := fun worker => ∃ isReauthSession accounts, worker = new isReauthSession accounts
  step := step

/-- The calls and idle callbacks that start a program. -/
def programLogin : List WorkerEvent :=
  [.call (.Initialize [.service "gdm-launch-environment", .username "gdm",
      .isProgramSession true, .displayIsLocal true] false), .stateChangeIdle {},
    .call .Authenticate, .stateChangeIdle {},
    .call .Authorize, .stateChangeIdle {},
    .call .EstablishCredentials, .stateChangeIdle {},
    .call .Open, .stateChangeIdle {}, .stateChangeIdle {},
    .call (.StartProgram (.ok ["gnome-session"])), .stateChangeIdle {}]

end GdmSessionWorker

end Gdm
