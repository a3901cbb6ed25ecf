import Gdm.Session.Api

/-!
# Signals and callbacks

The signals of a session with what its owner does when it gets them, and the
callbacks for what comes from a worker: the replies to calls, the signals, the
first message and the end of the process.
-/

namespace Gdm

namespace GdmSession

/-! ## The owners -/

/-- The handlers of the manager for the session of a display:
`on_session_conversation_started`, `on_session_client_connected`,
`on_session_start_failed`, `on_user_session_exited` and `on_user_session_died`.
The other handlers do not touch the session. -/
def reactUserSession (self : GdmSession) (around : Surroundings) : SessionSignal → GdmSession
  | .conversationStarted serviceName =>
    match around.automaticLogin with
    | some username =>
      if serviceName = "gdm-autologin" then self.setupForUser serviceName username else self
    | none => self
  | .clientConnected _ =>
    if self.isRunning then self
    else
      match around.timedLogin with
      | some (username, delay) =>
        ((self.setTimedLoginDetails username delay).startConversation around.spawn
          "gdm-autologin").1
      | none => self
  | .sessionStartFailed _ _ | .sessionExited _ _ | .sessionDied _ _ =>
    if around.inUserSessions then self.close else self
  | _ => self

/-- The handlers of the manager for a temporary reauthentication channel:
`on_reauthentication_client_disconnected`, `on_reauthentication_client_rejected`,
`on_reauthentication_cancelled` and `on_reauthentication_verification_complete`. -/
def reactTransient (self : GdmSession) (around : Surroundings) : SessionSignal → GdmSession
  | .clientDisconnected _ | .cancelled | .verificationComplete _ => self.close
  | .clientRejected _ =>
    if self.clientIsConnected then self else if around.isOwnClient then self.close else self
  | _ => self

/-- The handlers of `GdmLaunchEnvironment`, as long as it has the session. -/
def reactLaunchEnvironment (self : GdmSession) (around : Surroundings) :
    SessionSignal → GdmSession
  | .conversationStarted _ =>
    if around.launchHasSession then
      self.setupForProgram "gdm-launch-environment" around.launchUser around.launchLogFile
    else self
  | .sessionOpened serviceName _ =>
    if around.launchHasSession then self.startSession around serviceName else self
  | .sessionExited _ _ | .sessionDied _ _ =>
    if around.launchHasSession then self.stopConversation "gdm-launch-environment" else self
  | .conversationStopped _ => if around.launchHasSession then self.close else self
  | _ => self

/-- The handlers of a worker for reauthentication in its session.  A client that
disconnects takes its request with it, and the session is disposed of. -/
def reactReauthenticationRequest (self : GdmSession) (around : Surroundings) :
    SessionSignal → GdmSession
  | .cancelled | .verificationComplete _ => self.reset
  | .clientDisconnected _ => if around.isOwnClient then self.close else self
  | _ => self

/-- What the owner of the session does on a signal. -/
def react (self : GdmSession) (around : Surroundings) (signal : SessionSignal) : GdmSession :=
  match self.owner with
  | .userSession => self.reactUserSession around signal
  | .transient => self.reactTransient around signal
  | .launchEnvironment => self.reactLaunchEnvironment around signal
  | .reauthenticationRequest => self.reactReauthenticationRequest around signal

/-- The emission of a signal; the handlers run before it returns. -/
def signal (self : GdmSession) (around : Surroundings) (signal : SessionSignal) : GdmSession :=
  (self.emit (.signal signal)).react around signal

/-! ## Replies of a worker -/

/-- `on_initialization_complete_cb` -/
def onInitializationCompleteCb (self : GdmSession) (around : Surroundings)
    (conversation : Conversation) (error : Option WorkerError) : GdmSession :=
  let answered :=
    match error with
    | none =>
      let returned := if conversation.startingInvocation.isSome then
        self.emit (.returned conversation.startingInvocation none) else self
      (returned.signal around (.setupComplete conversation.serviceName)).authenticate
        conversation.serviceName
    | some error =>
      (self.emit (.returned conversation.startingInvocation
        (some ⟨.worker error.code, error.message⟩))).stopConversation conversation.serviceName
  answered.modifyConversation conversation.id fun c => { c with startingInvocation := none }

/-- `on_authenticate_cb` -/
def onAuthenticateCb (self : GdmSession) (around : Surroundings)
    (conversation : Conversation) (error : Option WorkerError) : GdmSession :=
  match error with
  | none => self.authorize conversation.serviceName
  | some error =>
    let failed := if error.code ≠ .serviceUnavailable then
      self.signal around
        (.authenticationFailed conversation.serviceName conversation.workerPid) else self
    failed.stopConversation conversation.serviceName

/-- `on_authorize_cb` -/
def onAuthorizeCb (self : GdmSession) (conversation : Conversation)
    (error : Option WorkerError) : GdmSession :=
  match error with
  | none => self.accredit conversation.serviceName
  | some _ => self.stopConversation conversation.serviceName

/-- `on_establish_credentials_cb` -/
def onEstablishCredentialsCb (self : GdmSession) (around : Surroundings)
    (conversation : Conversation) (error : Option WorkerError) : GdmSession :=
  match error with
  | none =>
    let established := self.signal around
      (.credentialsEstablished conversation.serviceName conversation.workerPid)
    match established.verificationMode with
    | .login => established.openSession conversation.serviceName
    | .reauthenticate =>
      if established.userVerifierInterface then
        established.signal around (.verificationComplete conversation.serviceName)
      else established
  | some _ => self.stopConversation conversation.serviceName

/-- `on_opened` -/
def onOpened (self : GdmSession) (around : Surroundings) (conversation : Conversation)
    (result : Except WorkerError String) : GdmSession :=
  match result with
  | .ok sessionId =>
    let opened := { self.modifyConversation conversation.id
        (fun c => { c with sessionId := some sessionId }) with
      sessionOpened := some sessionId }
    let verified := if opened.userVerifierInterface then
      opened.signal around (.verificationComplete conversation.serviceName) else opened
    { verified.signal around (.sessionOpened conversation.serviceName sessionId) with
      isOpened := true }
  | .error error =>
    (self.stopConversation conversation.serviceName).signal around
      (.sessionOpenedFailed conversation.serviceName error.message)

/-- `on_start_program_cb` -/
def onStartProgramCb (self : GdmSession) (around : Surroundings) (conversation : Conversation)
    (result : Except WorkerError Int) : GdmSession :=
  match result with
  | .ok pid =>
    { self with
      sessionPid := pid
      sessionConversation := some conversation.id
      opened := self.opened.filter fun entry => entry.1 ≠ conversation.id }.signal around
        (.sessionStarted conversation.serviceName pid conversation.id)
  | .error error =>
    (self.stopConversation conversation.serviceName).signal around
      (.sessionStartFailed conversation.serviceName error.message)

/-- `on_reauthentication_started_cb` -/
def onReauthenticationStartedCb (self : GdmSession) (around : Surroundings)
    (conversation : Conversation) (result : Except WorkerError String) : GdmSession :=
  let started :=
    match result with
    | .ok address =>
      self.signal around (.reauthenticationStarted conversation.reauthPidOfCaller address)
    | .error _ => self
  started.modifyConversation conversation.id fun c => { c with reauthPidOfCaller := 0 }

/-- The callback for a reply that reports success. -/
def onSuccess (self : GdmSession) (around : Surroundings) (conversation : Conversation) :
    Answer → GdmSession
  | .Initialize _ => self.onInitializationCompleteCb around conversation none
  | .Authenticate _ => self.onAuthenticateCb around conversation none
  | .Authorize => self.onAuthorizeCb conversation none
  | .EstablishCredentials => self.onEstablishCredentialsCb around conversation none
  | .Open sessionId => self.onOpened around conversation (.ok sessionId)
  | .StartProgram pid => self.onStartProgramCb around conversation (.ok pid)
  | .StartReauthentication address =>
    self.onReauthenticationStartedCb around conversation (.ok address)

/-- The callback for a reply that reports an error. -/
def onFailure (self : GdmSession) (around : Surroundings) (conversation : Conversation)
    (error : WorkerError) : WorkerMethod → GdmSession
  | .Initialize => self.onInitializationCompleteCb around conversation (some error)
  | .Authenticate => self.onAuthenticateCb around conversation (some error)
  | .Authorize => self.onAuthorizeCb conversation (some error)
  | .EstablishCredentials => self.onEstablishCredentialsCb around conversation (some error)
  | .Open => self.onOpened around conversation (.error error)
  | .StartProgram => self.onStartProgramCb around conversation (.error error)
  | .StartReauthentication => self.onReauthenticationStartedCb around conversation (.error error)

/-! ## Signals of a worker -/

/-- `worker_on_username_changed` -/
def workerOnUsernameChanged (self : GdmSession) (username : String) : GdmSession :=
  self.selectUser (announcedUser username)

/-- `worker_on_session_exited` -/
def workerOnSessionExited (self : GdmSession) (around : Surroundings)
    (conversation : Conversation) (status : ExitStatus) : GdmSession :=
  let self := { self with sessionConversation := none }
  match status with
  | .exited code => self.signal around (.sessionExited code conversation.id)
  | .signaled signum => self.signal around (.sessionDied signum conversation.id)

/-- `worker_on_reauthenticated` -/
def workerOnReauthenticated (self : GdmSession) (around : Surroundings) (serviceName : String)
    (reauthPid : Int) (user : Option String) : GdmSession :=
  self.signal around (.reauthenticated serviceName reauthPid user)

/-- `worker_on_saved_language_name_read` -/
def workerOnSavedLanguageNameRead (self : GdmSession) (languageName : String) : GdmSession :=
  if languageName.isEmpty then self else { self with savedLanguage := some languageName }

/-- `worker_on_saved_session_name_read`: a session that does not exist is ignored,
and one that is the default already is not saved. -/
def workerOnSavedSessionNameRead (self : GdmSession) (around : Surroundings)
    (sessionName : String) : GdmSession :=
  if around.sessionCommandExists then
    if sessionName = self.getDefaultSessionName around then self
    else { self with savedSession := some sessionName }
  else { self with savedSession := none }

/-- `worker_on_saved_session_type_read` -/
def workerOnSavedSessionTypeRead (self : GdmSession) (sessionType : String) : GdmSession :=
  { self with savedSessionType := some sessionType }

/-- The callback for a signal of a worker; the last one is
`worker_on_cancel_pending_query`. -/
def onWorkerSignal (self : GdmSession) (around : Surroundings) (conversation : Conversation) :
    WorkerSignal → GdmSession
  | .usernameChanged username => self.workerOnUsernameChanged username
  | .sessionExited _ status => self.workerOnSessionExited around conversation status
  | .reauthenticated serviceName reauthPid user =>
    self.workerOnReauthenticated around serviceName reauthPid user
  | .savedLanguageNameRead languageName => self.workerOnSavedLanguageNameRead languageName
  | .savedSessionNameRead sessionName => self.workerOnSavedSessionNameRead around sessionName
  | .savedSessionTypeRead sessionType => self.workerOnSavedSessionTypeRead sessionType
  | .cancelPendingQuery => self.cancelPendingQuery conversation

/-- The callback for a message of a worker. -/
def onMessage (self : GdmSession) (around : Surroundings) (conversation : Conversation) :
    WorkerMessage → GdmSession
  | .success answer => self.onSuccess around conversation answer
  | .failure method error => self.onFailure around conversation error method
  | .signal signal => self.onWorkerSignal around conversation signal

end GdmSession

/-! ## Delivery -/

/-- The username that the daemon knows a worker to have after a message. -/
def WorkerMessage.announces (name : Option String) : WorkerMessage → Option String
  | .success (.Initialize user) => user
  | .signal (.usernameChanged username) => announcedUser username
  | _ => name

/-- The user whose authentication has been reported, after a message. -/
def WorkerMessage.verifies (conversation : Conversation) :
    WorkerMessage → Option (Option String)
  | .success (.Authenticate user) =>
    if conversation.connected then some user else conversation.verified
  | _ => conversation.verified

/-- The conversation and the user of a session that a message reports to be open. -/
def WorkerMessage.opens (conversation : Conversation) :
    WorkerMessage → List (Nat × Option String)
  | .success (.Open _) => [(conversation.id, conversation.verified.join)]
  | _ => []

/-- A conversation whose first message is taken from the queue. -/
def Conversation.take (conversation : Conversation) (message : WorkerMessage) : Conversation :=
  { conversation with
    inbox := conversation.inbox.tail
    name := message.announces conversation.name
    verified := message.verifies conversation }

namespace GdmSession

/-- The session when a message is taken from the queue of a conversation. -/
def taken (self : GdmSession) (conversation : Conversation) (message : WorkerMessage) :
    GdmSession :=
  { (self.emit (.delivered conversation.id message)).modifyConversation conversation.id
      (fun c => c.take message) with
    opened := self.opened ++ message.opens conversation }

/-- The main loop dispatches the oldest message of a worker. -/
def deliver (self : GdmSession) (around : Surroundings) (id : Nat) : GdmSession :=
  match self.conversationAt id with
  | none => self
  | some conversation =>
    match conversation.inbox with
    | [] => self
    | message :: _ =>
      (self.taken conversation message).onMessage around (conversation.take message) message

/-! ## The first message and the end of a worker -/

/-- `register_worker`, for a worker that has not said Hello before: its
conversation is sought by process number, and a `NULL` one on the way crashes. -/
def registerWorker (self : GdmSession) (around : Surroundings) (pid : Int) : GdmSession :=
  match self.conversations.find? fun c => c.workerPid = pid with
  | none => if self.nullConversations = [] then self else self.crash
  | some conversation =>
    if around.nullFirst ∧ self.nullConversations ≠ [] then self.crash
    else if conversation.workerProxy then self
    else
      let registered := (self.emit (.registered conversation.id)).modifyConversation
        conversation.id fun c => { c with workerProxy := true, connected := true }
      let started := registered.signal around (.conversationStarted conversation.serviceName)
      match conversation.startingInvocation, conversation.startingUsername with
      | none, _ => started
      | some _, none => started.setup conversation.serviceName
      | some _, some username =>
        (started.setupForUser conversation.serviceName username).modifyConversation
          conversation.id fun c => { c with startingUsername := none }

/-- `g_hash_table_steal`: the entry leaves the table and is not freed. -/
def stealConversation (self : GdmSession) (id : Nat) : GdmSession :=
  { self with conversations := self.conversations.filter fun c => c.id ≠ id }

/-- The end of `worker_exited` and `worker_died`. -/
def concludeConversation (self : GdmSession) (around : Surroundings)
    (conversation : Conversation) : GdmSession :=
  (self.signal around (.conversationStopped conversation.serviceName)).emit
    (.freed conversation.id conversation.pendingInvocation conversation.startingInvocation)

/-- `worker_exited` -/
def workerExited (self : GdmSession) (around : Surroundings) (conversation : Conversation)
    (code : Nat) : GdmSession :=
  let stolen := self.stealConversation conversation.id
  let exited :=
    if stolen.sessionConversation = some conversation.id then
      { stolen.signal around (.sessionExited code conversation.id) with
        sessionConversation := none }
    else stolen
  exited.concludeConversation around conversation

/-- `worker_died`: a session that still runs is terminated. -/
def workerDied (self : GdmSession) (around : Surroundings) (conversation : Conversation)
    (signum : Nat) : GdmSession :=
  let stolen := self.stealConversation conversation.id
  let died :=
    if stolen.sessionConversation = some conversation.id then
      let terminated :=
        if stolen.sessionPid ≠ -1 then stolen.emit (.killed stolen.sessionPid) else stolen
      { terminated.signal around (.sessionDied signum conversation.id) with
        sessionConversation := none }
    else stolen
  died.concludeConversation around conversation

end GdmSession

end Gdm
