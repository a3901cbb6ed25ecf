import Gdm.Worker.Settings

/-!
# The steps of the worker

One function for each step of the worker towards a running session, the
clean-up of PAM that each of them falls back to, and the `do_*` functions that
run a step for the pending invocation and answer it.
-/

namespace Gdm

/-- How a step ends: with `TRUE`, with `FALSE` and an error, or not at all. -/
inductive StepResult
  | success
  | failure (error : WorkerError)
  | aborted
  deriving DecidableEq, Repr

namespace GdmSessionWorker

/-! ## PAM -/

/-- The conversation function looks up the username at every message. -/
def converse (worker : GdmSessionWorker) (items : List UserItem) : GdmSessionWorker :=
  items.foldl updateUsername worker

/-- A PAM call on the worker's handle; without a handle PAM refuses it. -/
def pamCall (worker : GdmSessionWorker) (call : PamCall) (reply : PamReply) :
    GdmSessionWorker × PamCode :=
  match worker.pamHandle with
  | none => (worker.emit (.pam call none .systemErr), .systemErr)
  | some handle =>
    ((worker.converse reply.userItems).emit (.pam call (some handle) reply.code), reply.code)

/-- `gdm_session_worker_uninitialize_pam` -/
def uninitializePam (worker : GdmSessionWorker) (status : PamCode) (o : Outcomes) :
    GdmSessionWorker :=
  match worker.pamHandle with
  | none => worker
  | some handle =>
    let worker :=
      if .sessionOpened ≤ worker.state then (worker.pamCall .closeSession o.closeSession).1
      else worker
    let worker :=
      if .accredited ≤ worker.state then
        (worker.pamCall (.setcred .deleteCred) o.deleteCred).1
      else worker
    let worker := worker.emit (.pam .pamEnd (some handle) status)
    { worker with pamHandle := none }.setState .none

/-! ## Error messages -/

def getMaxRetriesErrorMessage (worker : GdmSessionWorker) : String :=
  if worker.service = some "gdm-password" then
    "You reached the maximum password authentication attempts, please try another method"
  else if worker.service = some "gdm-autologin" then
    "You reached the maximum auto login attempts, please try another authentication method"
  else if worker.service = some "gdm-fingerprint" then
    "You reached the maximum fingerprint authentication attempts, please try another method"
  else if worker.service = some "gdm-smartcard" then
    "You reached the maximum smart card authentication attempts, please try another method"
  else
    "You reached the maximum authentication attempts, please try another method"

def getGenericErrorMessage (worker : GdmSessionWorker) : String :=
  if worker.service = some "gdm-password" then
    "Sorry, password authentication didn’t work. Please try again."
  else if worker.service = some "gdm-autologin" then
    "Sorry, auto login didn’t work. Please try again."
  else if worker.service = some "gdm-fingerprint" then
    "Sorry, fingerprint authentication didn’t work. Please try again."
  else if worker.service = some "gdm-smartcard" then
    "Sorry, smart card authentication didn’t work. Please try again."
  else
    "Sorry, that didn’t work. Please try again."

def getFriendlyErrorMessage (worker : GdmSessionWorker) (code : PamCode) : String :=
  match code with
  | .success | .ignore => ""
  | .acctExpired | .authtokExpired =>
    "Your account was given a time limit that’s now passed."
  | .maxtries => worker.getMaxRetriesErrorMessage
  | _ => worker.getGenericErrorMessage

/-! ## The steps -/

/-- `gdm_session_worker_initialize_pam` -/
def initializePam (worker : GdmSessionWorker) (o : Outcomes) :
    GdmSessionWorker × StepResult :=
  if worker.service = none ∨ worker.pamHandle ≠ none then
    (worker.abort .initializePam, .aborted)
  else if o.startCode ≠ .success then
    let worker := worker.emit (.pam .start none o.startCode)
    (worker.uninitializePam o.startCode o, .failure ⟨.serviceUnavailable, ""⟩)
  else
    let handle := worker.nextHandle
    let worker := { worker with pamHandle := some handle, nextHandle := handle + 1 }.emit
      (.pam .start (some handle) .success)
    if worker.username = none ∧ o.setUserPromptCode ≠ .success then
      (worker.uninitializePam o.setUserPromptCode o, .failure ⟨.authenticating, ""⟩)
    else if worker.displayIsLocal = false ∧ o.setRhostCode ≠ .success then
      (worker.uninitializePam o.setRhostCode o, .failure ⟨.authenticating, ""⟩)
    else
      let worker := worker.setState .setupComplete
      ({ worker with
          passwordIsRequired := worker.passwordIsRequired || !worker.displayIsLocal },
        .success)

/-- `gdm_session_worker_authenticate_user` -/
def authenticateUser (worker : GdmSessionWorker) (o : Outcomes) :
    GdmSessionWorker × StepResult :=
  let (worker, code) :=
    worker.pamCall (.authenticate worker.passwordIsRequired) o.authenticate
  match code with
  | .success => (worker.setState .authenticated, .success)
  | .authinfoUnavail | .moduleUnknown =>
    (worker.uninitializePam code o, .failure ⟨.serviceUnavailable, ""⟩)
  | .maxtries =>
    (worker.uninitializePam code o,
      .failure ⟨.tooManyRetries, worker.getFriendlyErrorMessage code⟩)
  | _ =>
    -- an unknown user must look like a failed password
    let code := if code = .userUnknown then .authErr else code
    (worker.uninitializePam code o,
      .failure ⟨.authenticating, worker.getFriendlyErrorMessage code⟩)

/-- The two PAM calls of `gdm_session_worker_authorize_user` with the code they
leave: account management and, when a new token is required, its change. -/
def manageAccount (worker : GdmSessionWorker) (o : Outcomes) :
    GdmSessionWorker × PamCode :=
  let (worker, code) := worker.pamCall (.acctMgmt worker.passwordIsRequired) o.acctMgmt
  if code = .newAuthtokReqd ∧ worker.isProgramSession = false then
    worker.pamCall .chauthtok o.chauthtok
  else (worker, code)

/-- `gdm_session_worker_authorize_user`; a reauthenticating user is authorized
whatever PAM says. -/
def authorizeUser (worker : GdmSessionWorker) (o : Outcomes) :
    GdmSessionWorker × StepResult :=
  let (worker, code) := worker.manageAccount o
  let code := if worker.isReauthSession then .success else code
  if code ≠ .success then
    (worker.uninitializePam code o,
      .failure ⟨.authorizing, worker.getFriendlyErrorMessage code⟩)
  else (worker.setState .authorized, .success)

/-- `gdm_session_worker_accredit_user` -/
def accreditUser (worker : GdmSessionWorker) (o : Outcomes) :
    GdmSessionWorker × StepResult :=
  if worker.username = none then
    (worker.uninitializePam .userUnknown o,
      .failure ⟨.givingCredentials, "no user account available"⟩)
  else if o.lookupPasswdInfo = false then
    (worker.uninitializePam .authinfoUnavail o,
      .failure ⟨.givingCredentials, "no user account available"⟩)
  else if o.changeUser = false then
    (worker.uninitializePam .systemErr o,
      .failure ⟨.givingCredentials, "Unable to change to user"⟩)
  else
    let (worker, code) := worker.pamCall (.setcred worker.credFlags) o.setcred
    let code := if worker.isReauthSession then .success else code
    if code ≠ .success then
      (worker.uninitializePam code o, .failure ⟨.givingCredentials, o.strerror⟩)
    else (worker.setState .accredited, .success)

/-- `set_up_for_new_vt`: only its outcome matters to the callers. -/
def setUpForNewVt (worker : GdmSessionWorker) (o : Outcomes) : StepResult :=
  let failure := .failure ⟨.openingSession, "Unable to open VT"⟩
  if o.openInitialVt = false then failure
  else if worker.displayIsInitial then .success
  else match o.queryVt with
    | none => failure
    | some vt => if 0 < vt then .success else .aborted

/-- Whether `gdm_session_worker_open_session` sets up a VT first. -/
def needsVt (worker : GdmSessionWorker) : Bool :=
  worker.displaySeatId = some "seat0" && worker.seat0HasVts

/-- The part of `gdm_session_worker_open_session` after the VT is there. -/
def openSessionOnVt (worker : GdmSessionWorker) (o : Outcomes) :
    GdmSessionWorker × StepResult :=
  let (worker, code) := worker.pamCall (.openSession worker.isProgramSession) o.openSession
  if code ≠ .success then
    (worker.uninitializePam code o, .failure ⟨.openingSession, o.strerror⟩)
  else
    let worker := worker.setState .sessionOpened
    ({ worker with sessionId := o.sessionIdVariable <|> worker.sessionId }, .success)

/-- `gdm_session_worker_open_session`; it leaves PAM as it is when there is no
VT. -/
def openSession (worker : GdmSessionWorker) (o : Outcomes) :
    GdmSessionWorker × StepResult :=
  if worker.state ≠ .accountDetailsSaved ∨ worker.euid ≠ 0 ∨ worker.fsuid ≠ 0 then
    (worker.abort .openSession, .aborted)
  else if worker.needsVt then
    match worker.setUpForNewVt o with
    | .success => worker.openSessionOnVt o
    | .failure error => (worker, .failure error)
    | .aborted => (worker.abort .setUpForNewVt, .aborted)
  else worker.openSessionOnVt o

/-- `gdm_session_worker_start_session`; the program is `arguments[0]`. -/
def startSession (worker : GdmSessionWorker) (o : Outcomes) :
    GdmSessionWorker × StepResult :=
  match worker.arguments with
  | none => (worker.abort .nullArguments, .aborted)
  | some arguments =>
    match o.fork with
    | none =>
      (worker.uninitializePam .abort o, .failure ⟨.openingSession, o.strerror⟩)
    | some pid =>
      let worker := { worker.emit (.forked pid arguments) with childPid := pid }
      ({ worker.setState .sessionStarted with childWatch := some pid }, .success)

/-! ## Running a step for the pending invocation -/

/-- Completing whatever invocation is pending, `NULL` included. -/
def answer (worker : GdmSessionWorker) (reply : Reply) : GdmSessionWorker :=
  { worker.emit (.completed worker.pendingInvocation reply) with pendingInvocation := none }

/-- The common end of the `do_*` functions. -/
def finishRequest (result : GdmSessionWorker × StepResult)
    (reply : GdmSessionWorker → Reply) : GdmSessionWorker :=
  match result with
  | (worker, .success) => worker.answer (reply worker)
  | (worker, .failure error) => worker.answer (.error error)
  | (worker, .aborted) => worker

def doSetup (worker : GdmSessionWorker) (o : Outcomes) : GdmSessionWorker :=
  finishRequest (worker.initializePam o) fun _ => .Initialize

/-- The username is looked up once more after the authentication of a user
session. -/
def doAuthenticate (worker : GdmSessionWorker) (o : Outcomes) : GdmSessionWorker :=
  match worker.authenticateUser o with
  | (worker, .success) =>
    let worker := if worker.isProgramSession then worker else worker.updateUsername o.userItem
    if worker.status ≠ .running then worker else worker.answer .Authenticate
  | result => finishRequest result fun _ => .Authenticate

def doAuthorize (worker : GdmSessionWorker) (o : Outcomes) : GdmSessionWorker :=
  finishRequest (worker.authorizeUser o) fun _ => .Authorize

def doAccredit (worker : GdmSessionWorker) (o : Outcomes) : GdmSessionWorker :=
  finishRequest (worker.accreditUser o) fun _ => .EstablishCredentials

/-- The request stays pending: either the worker waits for the settings, or the
next step is queued at once. -/
def doSaveAccountDetailsWhenReady (worker : GdmSessionWorker) : GdmSessionWorker :=
  if worker.state ≠ .accredited then worker.abort .doSaveAccountDetailsWhenReady
  else match worker.userSettings with
    | none => worker.saveAccountDetailsNow
    | some i =>
      if worker.settingsIsLoaded i then worker.saveAccountDetailsNow
      else
        let worker := worker.modifySettings i fun s =>
          { s with isLoadedHandlers := s.isLoadedHandlers + 1 }
        (worker.settingsLoad i worker.username).1

def doOpenSession (worker : GdmSessionWorker) (o : Outcomes) : GdmSessionWorker :=
  finishRequest (worker.openSession o) fun worker => .Open (worker.sessionId.getD "")

def doStartSession (worker : GdmSessionWorker) (o : Outcomes) : GdmSessionWorker :=
  finishRequest (worker.startSession o) fun worker => .StartProgram worker.childPid

end GdmSessionWorker

end Gdm
