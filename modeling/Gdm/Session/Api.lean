import Gdm.Session.State

/-!
# The functions of a session

The functions of `gdm-session.c` that the manager, the launch environment and the
callbacks of the session itself call.  None of them emits a signal, so no
function of this module leads to a handler of the owner.

What the session type decides is left out, and so are the calls that only pass
the environment and the display mode on to a worker: they go to the conversation
of the call that follows them.
-/

namespace Gdm

/-! ## One conversation -/

namespace Conversation

/-- `close_conversation`: the calls under way end with `CLOSED`, but what the
worker has sent before is still dispatched. -/
def close (conversation : Conversation) : Conversation :=
  { conversation with connected := false, outstanding := [] }

/-- `stop_conversation`, up to the signal to the worker process. -/
def stop (conversation : Conversation) : Conversation :=
  { conversation.close with isStopping := true }

end Conversation

namespace GdmSession

/-- Going on, unless the process has come to its end. -/
def andThen (self : GdmSession) (next : GdmSession → GdmSession) : GdmSession :=
  if self.status = .running then next self else self

/-! ## Calls of the worker -/

/-- A call on the proxy of a conversation.  On a closed connection it fails with
`CLOSED`, which the callbacks ignore. -/
def callWorker (self : GdmSession) (conversation : Conversation) (call : WorkerCall) :
    GdmSession :=
  if conversation.workerProxy then
    (self.emit (.called conversation.id call)).modifyConversation conversation.id fun c =>
      if c.connected then { c with outstanding := c.outstanding ++ [call] } else c
  else
    self.emit (.calledNull conversation.serviceName call)

/-- A call for the conversation of a service, if there is one. -/
def callByName (self : GdmSession) (serviceName : String) (call : WorkerCall) : GdmSession :=
  match self.findConversationByName serviceName with
  | some conversation => self.callWorker conversation call
  | none => self

/-- `gdm_session_authenticate` -/
def authenticate (self : GdmSession) (serviceName : String) : GdmSession :=
  self.callByName serviceName .Authenticate

/-- `gdm_session_authorize` -/
def authorize (self : GdmSession) (serviceName : String) : GdmSession :=
  self.callByName serviceName .Authorize

/-- `gdm_session_accredit` -/
def accredit (self : GdmSession) (serviceName : String) : GdmSession :=
  self.callByName serviceName .EstablishCredentials

/-- `gdm_session_open_session` -/
def openSession (self : GdmSession) (serviceName : String) : GdmSession :=
  self.callByName serviceName .Open

/-- The `a{sv}` dictionary that `initialize` builds. -/
def initializeDetails (self : GdmSession) (serviceName : String)
    (username logFile : Option String) : List Detail :=
  [.service serviceName, .extensions self.userVerifierExtensions] ++
  (username.map Detail.username).toList ++
  (logFile.map Detail.logFile).toList ++
  (if self.isProgramSession then [.isProgramSession true] else []) ++
  (self.displayHostname.map Detail.hostname).toList ++
  (if self.displayIsLocal then [.displayIsLocal true] else []) ++
  (if self.displayIsInitial then [.displayIsInitial true] else []) ++
  (self.displayDevice.map Detail.console).toList ++
  (self.displaySeatId.map Detail.seatId).toList

/-- `initialize` -/
def callInitialize (self : GdmSession) (serviceName : String)
    (username logFile : Option String) : GdmSession :=
  self.callByName serviceName (.Initialize (self.initializeDetails serviceName username logFile))

/-! ## Setting up -/

/-- `gdm_session_select_user`: without a text it does nothing. -/
def selectUser (self : GdmSession) (text : Option String) : GdmSession :=
  match text with
  | some username =>
    { self with
      selectedUser := some username
      savedSession := none
      savedSessionType := none
      savedLanguage := none }.emit (.selectedUser username)
  | none => self

/-- `gdm_session_setup` -/
def setup (self : GdmSession) (serviceName : String) : GdmSession :=
  self.callInitialize serviceName none none

/-- `gdm_session_setup_for_user` -/
def setupForUser (self : GdmSession) (serviceName username : String) : GdmSession :=
  let selected := { self.selectUser (some username) with isProgramSession := false }
  selected.callInitialize serviceName selected.selectedUser none

/-- `gdm_session_setup_for_program` -/
def setupForProgram (self : GdmSession) (serviceName : String)
    (username logFile : Option String) : GdmSession :=
  { self with isProgramSession := true }.callInitialize serviceName username logFile

/-- `gdm_session_set_timed_login_details`: without a username it does nothing. -/
def setTimedLoginDetails (self : GdmSession) (username : Option String) (delay : Int) :
    GdmSession :=
  match username with
  | some username => { self with timedLoginUsername := some username, timedLoginDelay := delay }
  | none => self

/-- `gdm_session_select_session`: it looks into every conversation, also where
there is none. -/
def selectSession (self : GdmSession) (text : String) : GdmSession :=
  if self.nullConversations = [] then { self with selectedSession := some text }
  else { self with selectedSession := some text }.crash

/-! ## Starting and stopping conversations -/

/-- The conversations that `gone` holds of leave the hash table and are freed. -/
def freeConversations (self : GdmSession) (gone : Conversation → Bool) : GdmSession :=
  { self with
    conversations := self.conversations.filter fun c => !gone c
    log := self.log ++ (self.conversations.filter gone).map fun c =>
      SessionEffect.freed c.id c.pendingInvocation c.startingInvocation }

/-- A new worker is started for a service: `start_conversation`. -/
def spawnWorker (self : GdmSession) (serviceName : String) (pid : Int) : GdmSession :=
  { self with nextConversation := self.nextConversation + 1 }.emit
    (.started self.nextConversation serviceName pid)

/-- The insertion of a new conversation into the hash table, in the place of an
entry that is freed. -/
def inserted (self : GdmSession) (serviceName : String) (pid : Int) : GdmSession :=
  let freed := (self.spawnWorker serviceName pid).freeConversations fun c =>
    c.serviceName = serviceName
  { freed with conversations := freed.conversations ++
      [{ id := self.nextConversation, serviceName := serviceName, workerPid := pid }] }

/-- The insertion of `NULL`, which is what `start_conversation` returns when the
worker cannot be started. -/
def insertedNull (self : GdmSession) (serviceName : String) : GdmSession :=
  let freed := self.freeConversations fun c => c.serviceName = serviceName
  { freed with nullConversations := serviceName :: freed.nullConversations }

/-- `start_conversation`, and the insertion of what it returns into the hash
table.  An entry that is there is freed, and freeing `NULL` crashes. -/
def insertConversation (self : GdmSession) (spawn : Option Int) (serviceName : String) :
    GdmSession :=
  if serviceName ∈ self.nullConversations then self.crash
  else
    match spawn with
    | some pid => self.inserted serviceName pid
    | none => self.insertedNull serviceName

/-- `gdm_session_start_conversation`, with its return value. -/
def startConversation (self : GdmSession) (spawn : Option Int) (serviceName : String) :
    GdmSession × Bool :=
  match self.findConversationByName serviceName with
  | some old =>
    if old.isStopping then
      (((self.emit (.killed old.workerPid)).modifyConversation old.id fun c =>
        { c with job := false }).insertConversation spawn serviceName, true)
    else (self, false)
  | none => (self.insertConversation spawn serviceName, true)

/-- `gdm_session_stop_conversation` -/
def stopConversation (self : GdmSession) (serviceName : String) : GdmSession :=
  match self.findConversationByName serviceName with
  | some conversation =>
    (self.modifyConversation conversation.id Conversation.stop).emit
      (.killed conversation.workerPid)
  | none => self

/-- `stop_all_other_conversations`, not at once: every entry that is not kept is
stopped, and stopping `NULL` crashes. -/
def stopAllOtherConversations (self : GdmSession) (keep : Nat) : GdmSession :=
  if self.nullConversations = [] then
    { self with
      conversations := self.conversations.map fun c => if c.id = keep then c else c.stop
      log := self.log ++
        (self.conversations.filter fun c => c.id ≠ keep).map fun c =>
          SessionEffect.killed c.workerPid }
  else self.crash

/-- `stop_all_conversations`: they are stopped at once and freed. -/
def stopAllConversations (self : GdmSession) : GdmSession :=
  { self with
    nullConversations := []
    sessionConversation := none
    log := self.log ++ self.conversations.map fun (c : Conversation) =>
      SessionEffect.killed c.workerPid }.freeConversations fun _ => true

/-- `do_reset` -/
def doReset (self : GdmSession) : GdmSession :=
  { self.stopAllConversations with
    selectedUser := none
    selectedSession := none
    savedSession := none
    savedLanguage := none
    environment := []
    sessionOpened := none
    sessionPid := -1
    opened := [] }.emit .reset

/-- `gdm_session_reset` -/
def reset (self : GdmSession) : GdmSession :=
  self.doReset

/-- `gdm_session_close` -/
def close (self : GdmSession) : GdmSession :=
  { self.doReset with outsideConnections := [] }

/-! ## The session itself -/

/-- `get_default_session_name` -/
def getDefaultSessionName (self : GdmSession) (around : Surroundings) : String :=
  self.savedSession.getD around.fallbackSessionName

/-- `get_session_name` -/
def getSessionName (self : GdmSession) (around : Surroundings) : String :=
  self.selectedSession.getD (self.getDefaultSessionName around)

/-- `get_default_language_name` -/
def getDefaultLanguageName (self : GdmSession) (around : Surroundings) : Option String :=
  self.savedLanguage <|> self.environment.lookup "LANG" <|> around.locale

/-- `gdm_session_set_environment_variable` -/
def setEnvironmentVariable (self : GdmSession) (key value : String) : GdmSession :=
  { self with environment := (key, value) :: self.environment.filter fun v => v.1 ≠ key }

/-- The variables of a list are set one after the other. -/
def setEnvironmentVariables (self : GdmSession) (entries : List (String × String)) :
    GdmSession :=
  entries.foldl (fun self v => self.setEnvironmentVariable v.1 v.2) self

/-- `set_up_session_environment` -/
def setUpSessionEnvironment (self : GdmSession) (around : Surroundings) : GdmSession :=
  let name := self.getSessionName around
  let named := (self.setEnvironmentVariables
    ([("GDMSESSION", name), ("DESKTOP_SESSION", name), ("XDG_SESSION_DESKTOP", name)] ++
      (around.desktopNames.map fun names => ("XDG_CURRENT_DESKTOP", names)).toList ++
      around.languageVariables))
  let language := (named.getDefaultLanguageName around).filter fun locale => !locale.isEmpty
  named.setEnvironmentVariables
    ((language.map fun locale => [("LANG", locale), ("GDM_LANG", locale)]).getD [] ++
      (around.windowPath.map fun path => ("WINDOWPATH", path)).toList)

/-- `gdm_session_start_session`: without a command for the session the process
exits. -/
def startSession (self : GdmSession) (around : Surroundings) (serviceName : String) :
    GdmSession :=
  if self.sessionConversation ≠ none then self
  else
    match self.findConversationByName serviceName with
    | some conversation =>
      (self.stopAllOtherConversations conversation.id).andThen fun self =>
        if around.sessionCommandExists then
          (self.setUpSessionEnvironment around).callByName serviceName .StartProgram
        else { self with status := .exited }
    | none => self

/-- `gdm_session_start_reauthentication`: the conversation of the session can
have been freed. -/
def startReauthentication (self : GdmSession) (pidOfCaller : Int) (uidOfCaller : Nat) :
    GdmSession :=
  match self.sessionConversation with
  | none => self
  | some id =>
    match self.conversationAt id with
    | none => self.crash
    | some conversation =>
      (self.modifyConversation id fun c => { c with reauthPidOfCaller := pidOfCaller }).callWorker
        conversation (.StartReauthentication pidOfCaller uidOfCaller)

/-! ## Queries -/

/-- A query invocation is completed; completing `NULL` does nothing but warn. -/
def completeQuery (self : GdmSession) (query : Option Nat) (reply : QueryReply) : GdmSession :=
  self.emit (.queryCompleted query reply)

/-- `cancel_pending_query` -/
def cancelPendingQuery (self : GdmSession) (conversation : Conversation) : GdmSession :=
  if conversation.pendingInvocation = none then self
  else
    (self.completeQuery conversation.pendingInvocation .cancelled).modifyConversation
      conversation.id fun c => { c with pendingInvocation := none }

/-- `gdm_session_answer_query`, with `answer_pending_query`. -/
def answerQuery (self : GdmSession) (serviceName text : String) : GdmSession :=
  match self.findConversationByName serviceName with
  | some conversation =>
    (self.completeQuery conversation.pendingInvocation (.answer text)).modifyConversation
      conversation.id fun c => { c with pendingInvocation := none }
  | none => self

/-- `gdm_session_report_error` -/
def reportError (self : GdmSession) (serviceName : String) (code : ClientErrorCode)
    (message : String) : GdmSession :=
  match self.findConversationByName serviceName with
  | some conversation =>
    (self.completeQuery conversation.pendingInvocation (.reported code message)).modifyConversation
      conversation.id fun c => { c with pendingInvocation := none }
  | none => self

/-- The number that the next query of a worker gets, and its arrival. -/
def receiveQuery (self : GdmSession) (serviceName : String) : GdmSession :=
  { self with nextQuery := self.nextQuery + 1 }.emit (.queryReceived self.nextQuery serviceName)

/-- `set_pending_query`, for the conversation of a service if there is one: it
asserts that no query is pending. -/
def setPendingQuery (self : GdmSession) (serviceName : String) (query : Nat) : GdmSession :=
  match self.findConversationByName serviceName with
  | some conversation =>
    if conversation.pendingInvocation = none then
      self.modifyConversation conversation.id fun c => { c with pendingInvocation := some query }
    else { self with status := .abortedSetPendingQuery }
  | none => self

end GdmSession

end Gdm
