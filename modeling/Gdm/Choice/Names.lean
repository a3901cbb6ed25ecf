import Gdm.Choice.Files
import Gdm.Library.EventMachine

/-!
# The session that is chosen

What a user is going to run is put together from the session that was selected in the
greeter, the one that was saved with the account, and a fallback.  The type of the
session, Wayland or X11, is a variable of its own.  The name is looked up again each time
that it is used.
-/

namespace Gdm

/-- The program that runs a session. -/
inductive Wrapper
  | wayland (handlesRegistration : Bool)
  | x11
  deriving DecidableEq, Repr

/-- A session that has been started: the type that was in the environment when it was
opened, the type at the start, the path of the file that the command is from, and the
program. -/
structure StartedSession where
  serviceName : String
  sentType : Option String
  sessionType : Option String
  path : String
  wrapper : Wrapper
  command : String
  deriving DecidableEq, Repr

/-- The fields of `struct _GdmSession` that the choice depends on.  `conversations` has
those that have been set up, each with the `XDG_SESSION_TYPE` that it has been sent. -/
structure SessionChoice where
  supportedSessionTypes : List String := ["wayland", "x11"]
  displayIsLocal : Bool := true
  greeterInterface : Bool := true
  sessionType : Option String := none
  selectedUser : Option String := none
  selectedSession : Option String := none
  savedSession : Option String := none
  savedSessionType : Option String := none
  fallbackSessionName : Option String := none
  conversations : List (String × Option String) := []
  sessionConversation : Option String := none
  isRunning : Bool := false
  terminated : Bool := false
  started : List StartedSession := []
  deriving DecidableEq, Repr

namespace SessionChoice

variable {self self' : SessionChoice} {installed : Installed}

/-! ## Looking up a session -/

/-- `supports_session_type` -/
def supportsSessionType (self : SessionChoice) (type : Option String) : Bool :=
  type.all fun type => decide (type ∈ self.supportedSessionTypes)

/-- `is_wayland_headless` -/
def isWaylandHeadless (self : SessionChoice) : Bool :=
  self.sessionType = some "wayland" && !self.displayIsLocal

/-- `get_session_command_for_file` -/
def getSessionCommandForFile (self : SessionChoice) (installed : Installed) (file : String)
    (type : Option String) : Option String :=
  if self.supportsSessionType type then
    match installed.loadKeyFileForFile self.supportedSessionTypes file type with
    | none => none
    | some (keyFile, _) =>
      if keyFile.hidden = some true then none
      else if self.isWaylandHeadless ∧ keyFile.canRunHeadless ≠ some true then none
      else if keyFile.tryExec.any fun program => !installed.programInPath program then none
      else keyFile.exec
  else none

/-- `get_session_command_for_name` -/
def getSessionCommandForName (self : SessionChoice) (installed : Installed) (name : String)
    (type : Option String) : Option String :=
  self.getSessionCommandForFile installed (name ++ ".desktop") type

/-- There is a command for the name. -/
def isUsable (self : SessionChoice) (installed : Installed) (name : String)
    (type : Option String) : Bool :=
  (self.getSessionCommandForName installed name type).isSome

/-- The sessions with a command that are found in the directories. -/
def discoveredSessions (self : SessionChoice) (installed : Installed) : List String :=
  ((installed.getSystemSessionDirs self.supportedSessionTypes none).flatMap
    installed.listing).filterMap fun baseName =>
      (desktopName baseName).filter fun _ =>
        (self.getSessionCommandForFile installed baseName none).isSome

/-- `get_fallback_session_name`: the process is aborted when there is no session. -/
def getFallbackSessionName (self : SessionChoice) (installed : Installed) :
    Option (String × SessionChoice) :=
  match self.fallbackSessionName.filter fun name => self.isUsable installed name none with
  | some name => some (name, self)
  | none =>
    (if self.isUsable installed installed.fallbackName none then some installed.fallbackName
    else leastName (self.discoveredSessions installed)).map fun name =>
      (name, { self with fallbackSessionName := some name })

/-- `get_default_session_name` -/
def getDefaultSessionName (self : SessionChoice) (installed : Installed) :
    Option (String × SessionChoice) :=
  match self.savedSession with
  | some name => some (name, self)
  | none => self.getFallbackSessionName installed

/-- `get_session_name` -/
def getSessionName (self : SessionChoice) (installed : Installed) :
    Option (String × SessionChoice) :=
  match self.selectedSession with
  | some name => some (name, self)
  | none => self.getDefaultSessionName installed

/-- The file that is found for the name of a session. -/
def loadSessionFile (self : SessionChoice) (installed : Installed) (name : String) :
    Option (KeyFile × String) :=
  installed.loadKeyFileForFile self.supportedSessionTypes (name ++ ".desktop") none

/-! ## The type of the session -/

/-- `gdm_session_is_wayland_session`, for the name of the session. -/
def isWaylandSession (self : SessionChoice) (installed : Installed) (name : String) : Bool :=
  (self.loadSessionFile installed name).any fun file => isWaylandPath file.2

/-- `set_session_type` -/
def setSessionType (self : SessionChoice) (type : String) : SessionChoice :=
  { self with sessionType := some type }

/-- `update_session_type` -/
def updateSessionType (self : SessionChoice) (installed : Installed) : Option SessionChoice :=
  if self.supportsSessionType (some "wayland") then
    (self.getSessionName installed).map fun (name, self) =>
      self.setSessionType (if self.isWaylandSession installed name then "wayland" else "x11")
  else some (self.setSessionType "x11")

/-- `gdm_session_defaults_changed`: the greeter is told of the default session. -/
def defaultsChanged (self : SessionChoice) (installed : Installed) : Option SessionChoice :=
  (self.updateSessionType installed).bind fun self =>
    if self.greeterInterface then (self.getDefaultSessionName installed).map Prod.snd
    else some self

/-! ## Messages -/

/-- `gdm_session_select_user` -/
def selectUser (self : SessionChoice) (username : String) : SessionChoice :=
  { self with selectedUser := some username, savedSession := none, savedSessionType := none }

/-- A conversation is there and is initialized. -/
def initializeConversation (self : SessionChoice) (serviceName : String) : SessionChoice :=
  { self with conversations :=
    (serviceName, none) :: self.conversations.filter fun entry => entry.1 ≠ serviceName }

/-- `gdm_session_setup` -/
def setup (self : SessionChoice) (installed : Installed) (serviceName : String) :
    Option SessionChoice :=
  (self.updateSessionType installed).bind fun self =>
    (self.initializeConversation serviceName).defaultsChanged installed

/-- `gdm_session_setup_for_user` -/
def setupForUser (self : SessionChoice) (installed : Installed) (serviceName username : String) :
    Option SessionChoice :=
  (self.updateSessionType installed).bind fun self =>
    ((self.selectUser username).initializeConversation serviceName).defaultsChanged installed

/-- `worker_on_username_changed` -/
def workerOnUsernameChanged (self : SessionChoice) (installed : Installed) (username : String) :
    Option SessionChoice :=
  (if username.isEmpty then self else self.selectUser username).defaultsChanged installed

/-- `worker_on_saved_session_type_read` -/
def workerOnSavedSessionTypeRead (self : SessionChoice) (type : String) : SessionChoice :=
  { self with savedSessionType := some type }

/-- `worker_on_saved_session_name_read` -/
def workerOnSavedSessionNameRead (self : SessionChoice) (installed : Installed) (name : String) :
    Option SessionChoice :=
  if self.isUsable installed name self.savedSessionType then
    (self.getDefaultSessionName installed).bind fun (default, self) =>
      let self := if name ≠ default then { self with savedSession := some name } else self
      match self.savedSessionType with
      | some type => some (self.setSessionType type)
      | none => self.updateSessionType installed
  else { self with savedSession := none }.updateSessionType installed

/-- `gdm_session_select_session`; the name goes to the workers as well. -/
def selectSession (self : SessionChoice) (installed : Installed) (name : String) :
    Option SessionChoice :=
  { self with selectedSession := some name }.updateSessionType installed

/-- `gdm_session_handle_client_select_session`: a session that runs is left alone. -/
def handleClientSelectSession (self : SessionChoice) (installed : Installed) (name : String) :
    Option SessionChoice :=
  if self.isRunning then some self else self.selectSession installed name

/-- `do_reset`; the types are kept. -/
def doReset (self : SessionChoice) : SessionChoice :=
  { self with
    conversations := []
    selectedUser := none
    selectedSession := none
    savedSession := none
    isRunning := false
    sessionConversation := none }

/-! ## Opening and starting -/

/-- `gdm_session_open_session`, with `send_session_type`. -/
def openSession (self : SessionChoice) (serviceName : String) : SessionChoice :=
  { self with conversations := self.conversations.map fun entry =>
      if entry.1 = serviceName then (entry.1, some (self.sessionType.getD "wayland"))
      else entry }

/-- `get_session_command`: without a command the process exits. -/
def getSessionCommand (self : SessionChoice) (installed : Installed) :
    Option (String × SessionChoice) :=
  (self.getSessionName installed).bind fun (name, self) =>
    (self.getSessionCommandForName installed name none).map fun command => (command, self)

/-- `gdm_session_session_registers` -/
def sessionRegisters (self : SessionChoice) (installed : Installed) :
    Option (Bool × SessionChoice) :=
  (self.getSessionName installed).map fun (name, self) =>
    ((self.loadSessionFile installed name).any fun file =>
      file.1.sessionRegisters = some true, self)

/-- The wrapper that goes with the type of the session. -/
def chooseWrapper (self : SessionChoice) (installed : Installed) :
    Option (Wrapper × SessionChoice) :=
  if self.sessionType = some "wayland" then
    (self.sessionRegisters installed).map fun (registers, self) =>
      (.wayland (!registers), self)
  else some (.x11, self)

/-- The path of the file that the command is from. -/
def commandPath (self : SessionChoice) (installed : Installed) : String :=
  ((self.getSessionName installed).bind fun (name, self) =>
    (self.loadSessionFile installed name).map Prod.snd).getD ""

/-- The part of `gdm_session_start_session` that builds the program, for a conversation
that is there. -/
def startProgram (self : SessionChoice) (installed : Installed) (serviceName : String)
    (sentType : Option String) : Option SessionChoice :=
  (self.getSessionCommand installed).bind fun (command, named) =>
    (named.chooseWrapper installed).map fun (wrapper, named) =>
      { named with
        conversations := named.conversations.filter fun entry => entry.1 = serviceName
        started := named.started ++
          [{ serviceName := serviceName
             sentType := sentType
             sessionType := named.sessionType
             path := self.commandPath installed
             wrapper := wrapper
             command := command }] }

/-- `gdm_session_start_session` -/
def startSession (self : SessionChoice) (installed : Installed) (serviceName : String) :
    Option SessionChoice :=
  if self.sessionConversation = none then
    match self.conversations.lookup serviceName with
    | none => some self
    | some sentType => self.startProgram installed serviceName sentType
  else some self

/-! ## The machine -/

/-- What happens to a session that concerns the choice.  `selectUser` is the method of
the greeter's client. -/
inductive ChoiceEvent
  | setup (serviceName : String)
  | setupForUser (serviceName username : String)
  | selectUser (username : String)
  | usernameChanged (username : String)
  | savedSessionTypeRead (type : String)
  | savedSessionNameRead (name : String)
  | selectSession (name : String)
  | openSession (serviceName : String)
  | startSession (serviceName : String)
  | programStarted (serviceName : String)
  | sessionExited
  | reset
  deriving DecidableEq, Repr

def handleEvent (self : SessionChoice) (installed : Installed) :
    ChoiceEvent → Option SessionChoice
  | .setup serviceName => self.setup installed serviceName
  | .setupForUser serviceName username => self.setupForUser installed serviceName username
  | .selectUser username => some (self.selectUser username)
  | .usernameChanged username => self.workerOnUsernameChanged installed username
  | .savedSessionTypeRead type => some (self.workerOnSavedSessionTypeRead type)
  | .savedSessionNameRead name => self.workerOnSavedSessionNameRead installed name
  | .selectSession name => self.handleClientSelectSession installed name
  | .openSession serviceName => some (self.openSession serviceName)
  | .startSession serviceName => self.startSession installed serviceName
  | .programStarted serviceName =>
    some { self with sessionConversation := some serviceName, isRunning := true }
  | .sessionExited => some { self with sessionConversation := none }
  | .reset => some self.doReset

/-- One event of the main loop, as long as the process is there. -/
def step (self : SessionChoice) (event : ChoiceEvent × Installed) : SessionChoice :=
  if self.terminated then self
  else (self.handleEvent event.2 event.1).getD { self with terminated := true }

/-- Any session that has just been created. -/
def machine : EventMachine SessionChoice (ChoiceEvent × Installed) where
  Start self := ∃ types isLocal greeter,
    self = { supportedSessionTypes := types, displayIsLocal := isLocal
             greeterInterface := greeter }
  step := step

/-- A session for Wayland and one of the same name for X11. -/
def gnomeFiles : Installed :=
  .ofFiles [("/usr/share/wayland-sessions", "gnome.desktop", { exec := some "gnome-session" }),
    ("/usr/share/xsessions", "gnome.desktop", { exec := some "gnome-session" })]

/-- A login with a password, with the events that come before the session is opened. -/
def loginEvents (events : List ChoiceEvent) : List ChoiceEvent :=
  ChoiceEvent.setupForUser "gdm-password" "alice" :: events ++
    [ChoiceEvent.openSession "gdm-password", ChoiceEvent.startSession "gdm-password"]

/-- The files are the same all the time. -/
def login (events : List ChoiceEvent) : List (ChoiceEvent × Installed) :=
  (loginEvents events).map fun event => (event, gnomeFiles)

end SessionChoice

end Gdm
