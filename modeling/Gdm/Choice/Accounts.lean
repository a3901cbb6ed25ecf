import Gdm.Choice.Names
import Gdm.Worker.Handlers

/-!
# The session that is saved with an account

The worker of a conversation reads what is saved with the account of the user, and tells
the daemon; the daemon tells the worker which session has been selected; and what the
worker has by then it saves with the account, before the session is opened.  The messages
arrive in the order in which they were sent.  Of the rest of the worker only its state is
kept here.
-/

namespace Gdm

/-- The calls of the daemon that concern the account. -/
inductive AccountCall
  | setSessionName (name : String)
  | openSession
  deriving DecidableEq, Repr

/-- What the worker tells the daemon; `opened` is the reply to Open. -/
inductive AccountSignal
  | savedSessionTypeRead (type : String)
  | savedSessionNameRead (name : String)
  | opened
  deriving DecidableEq, Repr

/-- The message for an effect of the worker.  Open is answered once the account details
have been saved. -/
def Effect.signal : Effect → Option AccountSignal
  | savedSessionTypeRead type => type.map .savedSessionTypeRead
  | savedSessionNameRead name => name.map .savedSessionNameRead
  | accountSaved _ _ _ _ => some .opened
  | _ => none

/-- What the accounts service stores: a value that is not set is left as it is. -/
def Account.store (account : Account) : Effect → Account
  | .accountSaved _ sessionName sessionType language =>
    { sessionName := sessionName.getD account.sessionName
      sessionType := sessionType.getD account.sessionType
      language := language.getD account.language }
  | _ => account

namespace SessionChoice

/-- The session that is run when one is started now, and its type. -/
def chosen (self : SessionChoice) (installed : Installed) : Option (String × Option String) :=
  (self.getSessionName installed).map fun (name, named) => (name, named.sessionType)

end SessionChoice

/-- A login of a user: the daemon, the worker of the conversation, what is stored with the
account, and the messages that are under way.  `ran` is the session that was started; the
conversation is `stopped` when the session of the daemon is reset. -/
structure UserLogin where
  username : String
  serviceName : String
  choice : SessionChoice
  worker : GdmSessionWorker
  account : Account
  toWorker : List AccountCall := []
  toDaemon : List AccountSignal := []
  calledOpen : Bool := false
  opened : Bool := false
  stopped : Bool := false
  ran : Option (String × Option String) := none

/-- What happens during a login.  `choice` is what the daemon does, or hears from other
conversations; the other events are of the worker and the messages. -/
inductive LoginEvent
  | choice (event : SessionChoice.ChoiceEvent)
  | workerCall
  | workerSignal
  | pamStep
  | accountLoaded
  deriving DecidableEq, Repr

/-- The worker after `Initialize`, with settings that are not loaded yet.  When the call
names the user, it waits for them. -/
def initializedWorker (username : String) (waits : Bool) : GdmSessionWorker :=
  { username := some username
    settings := [{ user := some username
                   watchesUser := true
                   isLoadedHandlers := if waits then 1 else 0 }]
    userSettings := some 0 }

namespace UserLogin

variable (self : UserLogin)

/-- The accounts service has told the worker of the account. -/
def loaded : Bool :=
  (self.worker.accounts self.username).isSome

/-- The worker has done something: its messages are sent, and what it saves is stored. -/
def workerActs (worker : GdmSessionWorker) : UserLogin :=
  let effects := worker.log.drop self.worker.log.length
  { self with
    worker := worker
    account := effects.foldl Account.store self.account
    toDaemon := self.toDaemon ++ effects.filterMap Effect.signal }

/-- The worker gets the next call.  Open is refused in other states. -/
def workerCall : UserLogin :=
  match self.toWorker with
  | [] => self
  | .setSessionName name :: rest =>
    { self with toWorker := rest }.workerActs (self.worker.handleSetSessionName name)
  | .openSession :: rest =>
    { self with toWorker := rest }.workerActs
      (if self.worker.state = GdmSessionWorkerState.accredited then
        self.worker.doSaveAccountDetailsWhenReady
      else self.worker)

/-- The steps up to ACCREDITED; the first one waits until `Initialize` has been done. -/
def pamStep : UserLogin :=
  if self.worker.state = .none ∧ (self.worker.settingsObject 0).isLoadedHandlers ≠ 0 then self
  else match self.worker.state with
    | .none => { self with worker := { self.worker with state := .setupComplete } }
    | .setupComplete => { self with worker := { self.worker with state := .authenticated } }
    | .authenticated => { self with worker := { self.worker with state := .authorized } }
    | .authorized => { self with worker := { self.worker with state := .accredited } }
    | _ => self

/-- The accounts service has loaded the user, which it tells the worker once. -/
def accountLoaded : UserLogin :=
  if self.loaded then self
  else self.workerActs (self.worker.accountLoaded self.username self.account)

/-- The conversation is there. -/
def hasConversation : Bool :=
  (self.choice.conversations.lookup self.serviceName).isSome

/-- An event of the daemon, with the calls that it makes to the worker. -/
def choose (installed : Installed) (event : SessionChoice.ChoiceEvent) : UserLogin :=
  match self.choice.handleEvent installed event with
  | none => { self with choice := { self.choice with terminated := true } }
  | some choice =>
    match event with
    | .selectSession name =>
      if self.choice.isRunning = false ∧ self.hasConversation then
        { self with choice := choice, toWorker := self.toWorker ++ [.setSessionName name] }
      else { self with choice := choice }
    | .openSession serviceName =>
      if serviceName = self.serviceName ∧ self.hasConversation then
        { self with
          choice := choice
          toWorker := self.toWorker ++ [.openSession]
          calledOpen := true }
      else { self with choice := choice }
    | .startSession _ =>
      if self.choice.started.length < choice.started.length then
        { self with choice := choice, ran := self.choice.chosen installed }
      else { self with choice := choice }
    | .reset => { self with choice := choice, stopped := true }
    | _ => { self with choice := choice }

/-- The daemon gets the next message of the worker. -/
def workerSignal (installed : Installed) : UserLogin :=
  match self.toDaemon with
  | [] => self
  | .savedSessionTypeRead type :: rest =>
    { self with toDaemon := rest }.choose installed (.savedSessionTypeRead type)
  | .savedSessionNameRead name :: rest =>
    { self with toDaemon := rest }.choose installed (.savedSessionNameRead name)
  | .opened :: rest => { self with toDaemon := rest, opened := true }

/-- An event, as long as the daemon and the conversation are there.  The daemon starts the
session that it has opened. -/
def step (input : LoginEvent × Installed) : UserLogin :=
  if self.choice.terminated ∨ self.stopped then self
  else match input.1 with
    | .choice (.startSession serviceName) =>
      if self.opened ∧ serviceName = self.serviceName then
        self.choose input.2 (.startSession serviceName)
      else self
    | .choice event => self.choose input.2 event
    | .workerCall => self.workerCall
    | .workerSignal => self.workerSignal input.2
    | .pamStep => self.pamStep
    | .accountLoaded => self.accountLoaded

/-- The conversation of a user with an account has been initialized. -/
def initially (username serviceName : String) (account : Account) (choice : SessionChoice)
    (waits : Bool) : UserLogin :=
  { username := username
    serviceName := serviceName
    choice := choice
    worker := initializedWorker username waits
    account := account }

/-- A login as a machine.  The session has just been created. -/
def machine : EventMachine UserLogin (LoginEvent × Installed) where
  Start self := ∃ username serviceName account waits choice,
    SessionChoice.machine.Start choice ∧ self = initially username serviceName account choice waits
  step := step

end UserLogin

end Gdm
