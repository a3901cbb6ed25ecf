import Gdm.Common.WaitOnPid
import Gdm.Library.EventMachine
import Gdm.Library.ShellWords
import Gdm.Wrapper.SpawnSession
import Mathlib.Logic.Function.Basic

/-!
# The programs around a session

A session runs in `gdm-x-session` or in `gdm-wayland-session`.  The program starts the processes
that the session needs, and the session, waits in its main loop until one of them has ended or it
is told to end, and then ends those that are left.
-/

namespace Gdm

open Environ WrapperState

/-- What the programs start processes for. -/
inductive SubprocessRole
  | xServer
  | bus
  | session
  deriving DecidableEq, Repr

/-- A process that has been started. -/
structure Subprocess where
  argv : List (List Char)
  environment : Environ
  /-- The line that has been read from it; nothing is read from a session. -/
  line : Option (List Char) := none
  ending : Option ProcessEnding := none
  /-- A `SIGTERM` has been sent to it while it ran. -/
  terminated : Bool := false
  deriving DecidableEq, Repr

structure WrapperConfig where
  /-- `gdm_find_x_server` -/
  xServer : List Char := "/usr/bin/Xorg".toList
  gdmConfDir : List Char := "/etc/gdm".toList
  /-- The environment that the program itself has. -/
  own : Environ := []

inductive WrapperProgram
  | gdmXSession
  | gdmWaylandSession (handleRegistration : Bool)
  deriving DecidableEq, Repr

/-- The calls that `main` makes before its main loop. -/
inductive StartCall
  | takeArguments
  | readSettings
  | spawnXServer
  | spawnBus
  | importEnvironment
  | updateBusEnvironment
  | connectToDisplayManager
  | spawnSession
  | registerSession
  deriving DecidableEq, Repr

/-- What comes of a process that is to write a line to a pipe. -/
inductive Launch
  | noPipe
  | notStarted
  | silent
  | wrote (line : List Char)
  deriving DecidableEq, Repr

/-- What comes of one of the calls of `main`. -/
inductive StartResult
  | takeArguments (arguments : List (List Char))
  | readSettings (initialized debug disallowTcp : Bool)
  | spawnXServer (authFile : Option (List Char)) (launch : Launch)
  | spawnBus (running : Bool) (launch : Launch) (connected : Bool)
  | importEnvironment (reply : Option Environ)
  | updateBusEnvironment (updated : Bool)
  | connectToDisplayManager (connected : Bool)
  | spawnSession (started : Bool)
  | registerSession (registered : Bool)
  deriving DecidableEq, Repr

namespace StartResult

/-- The call that it comes of. -/
def call : StartResult → StartCall
  | takeArguments _ => .takeArguments
  | readSettings _ _ _ => .readSettings
  | spawnXServer _ _ => .spawnXServer
  | spawnBus _ _ _ => .spawnBus
  | importEnvironment _ => .importEnvironment
  | updateBusEnvironment _ => .updateBusEnvironment
  | connectToDisplayManager _ => .connectToDisplayManager
  | spawnSession _ => .spawnSession
  | registerSession _ => .registerSession

end StartResult

def exOk : Nat := 0
def exUsage : Nat := 64
def exDataerr : Nat := 65
def exSoftware : Nat := 70

/-- What `main` ends with when a call fails; the environment need not be there. -/
def StartCall.failureStatus : StartCall → Option Nat
  | takeArguments => some exUsage
  | readSettings => some exDataerr
  | importEnvironment => none
  | connectToDisplayManager => some exOk
  | spawnXServer | spawnBus | updateBusEnvironment | spawnSession | registerSession =>
    some exSoftware

namespace WrapperProgram

/-- The calls of `main`, in their order. -/
def startCalls : WrapperProgram → List StartCall
  | gdmXSession =>
    [.takeArguments, .readSettings, .spawnXServer, .spawnBus, .importEnvironment,
      .updateBusEnvironment, .connectToDisplayManager, .spawnSession, .registerSession]
  | gdmWaylandSession true =>
    [.takeArguments, .readSettings, .spawnBus, .importEnvironment, .spawnSession,
      .connectToDisplayManager, .registerSession]
  | gdmWaylandSession false =>
    [.takeArguments, .readSettings, .spawnBus, .importEnvironment, .spawnSession,
      .connectToDisplayManager]

/-- `BUS_ADDRESS_FILENO`; the X server has the number before it. -/
def busAddressFileno : WrapperProgram → List Char
  | gdmXSession => "4".toList
  | gdmWaylandSession _ => "3".toList

end WrapperProgram

/-- `atoi`: `strtol` ends at the largest number that it can say, and an `int` has its lower half. -/
def atoi (text : List Char) : Int :=
  let digits (text : List Char) : Nat :=
    (text.takeWhile Char.isDigit).foldl (fun n c => 10 * n + (c.toNat - '0'.toNat)) 0
  let value : Int :=
    match text.dropWhile (fun c => c = ' ' ∨ ('\t' ≤ c ∧ c ≤ '\r')) with
    | '-' :: rest => max (-(digits rest : Int)) (-2 ^ 63)
    | '+' :: rest => min (digits rest : Int) (2 ^ 63 - 1)
    | rest => min (digits rest : Int) (2 ^ 63 - 1)
  value.bmod (2 ^ 32)

/-- The terminal that the X server is told to use. -/
def vtArgument (own : Environ) : Option (List Char) :=
  (getenv own xdgVtnr).bind fun text =>
    if 0 < atoi text ∧ atoi text < 64 then some ("vt" ++ toString (atoi text)).toList else none

/-- What is asked of others.  A `NULL` is not put into the dictionary for the bus, nor is its
name. -/
inductive WrapperCall
  | updateActivationEnvironment (displayName : List Char) (authFile : Option (List Char))
  | registerSession
  | registerDisplay
  deriving DecidableEq, Repr

/-- Where `main` is: before its main loop, with the calls that are left; in the loop; or behind
it, with the processes that it still waits for. -/
inductive MainStage
  | starting (calls : List StartCall)
  | looping
  | waiting (roles : List SubprocessRole)
  | returned
  deriving DecidableEq, Repr

/-- Either program with the processes that it has started. -/
structure WrapperProcess extends XWrapperState where
  debugEnabled : Bool := false
  disallowTcp : Bool := true
  sessionCommand : List Char := []
  /-- `x_subprocess`, `bus_subprocess` and `session_subprocess` are set. -/
  held : SubprocessRole → Bool := fun _ => false
  /-- `g_subprocess_wait_async` has been called for it, and not called back. -/
  watched : SubprocessRole → Bool := fun _ => false
  /-- The `cancellable` is cancelled. -/
  cancelled : Bool := false
  sessionExitStatus : Nat := 0
  /-- The source of `register_display_id` has not been called. -/
  displayTimeout : Bool := false
  loopRunning : Bool := false
  stage : MainStage
  exitStatus : Nat := exOk
  processes : SubprocessRole → Option Subprocess := fun _ => none
  calls : List WrapperCall := []
  /-- What the bus has taken over into its activation environment. -/
  activationEnvironment : Option (List Char × Option (List Char)) := none
  /-- The call that `main` has given up at. -/
  failed : Option StartCall := none
  /-- How the session has ended, once this has been seen. -/
  seen : Option ProcessEnding := none

/-- The callbacks of the main loop. -/
inductive MainCallback
  | onXServerFinished
  | onBusFinished
  | onSessionFinished
  | onSigterm
  | registerDisplayTimeoutCb
  deriving DecidableEq, Repr

inductive WrapperEvent
  /-- A process ends. -/
  | ends (role : SubprocessRole) (ending : ProcessEnding)
  /-- The next call of `main` returns. -/
  | call (result : StartResult)
  /-- The main loop goes round once. -/
  | iterate (callbacks : List MainCallback)
  /-- `main` waits for the next process. -/
  | wait

namespace Subprocess

/-- The process ends, once. -/
def finish (self : Subprocess) (ending : ProcessEnding) : Subprocess :=
  { self with ending := some (self.ending.getD ending) }

/-- `g_subprocess_send_signal`, which does nothing when the process has ended. -/
def sendSigterm (self : Subprocess) : Subprocess :=
  if self.ending.isSome then self else { self with terminated := true }

end Subprocess

namespace WrapperProcess

variable (program : WrapperProgram) (config : WrapperConfig) (self : WrapperProcess)

/-! ## The processes -/

def setProcess (role : SubprocessRole) (process : Subprocess) : WrapperProcess :=
  { self with processes := Function.update self.processes role (some process) }

/-- The program keeps a process, and asks to be told when it ends. -/
def keep (role : SubprocessRole) : WrapperProcess :=
  { self with
    held := Function.update self.held role true
    watched := Function.update self.watched role true }

/-- A process is started that is to write a line; without one it is left alone. -/
def spawnReading (role : SubprocessRole) (process : Subprocess) :
    Launch → WrapperProcess × Option (List Char)
  | .noPipe => (self, none)
  | .notStarted => (self, none)
  | .silent => (self.setProcess role process, none)
  | .wrote line => ((self.setProcess role { process with line := some line }).keep role, some line)

/-- The arguments of the X server behind its auth file. -/
def xServerOptions : List (List Char) :=
  (if self.disallowTcp then [] else ["-listen".toList, "tcp".toList]) ++
    ["-background".toList, "none".toList, "-noreset".toList, "-keeptty".toList,
      "-novtswitch".toList, "-verbose".toList, if self.debugEnabled then ['7'] else ['3']] ++
    (if self.debugEnabled then ["-core".toList] else [])

/-- The arguments of the X server.  They end where the name of the auth file is `NULL`. -/
def xServerArguments (authFile : Option (List Char)) : List (List Char) :=
  config.xServer :: (vtArgument config.own).toList ++
    ["-displayfd".toList, "3".toList, "-auth".toList] ++
    match authFile with
    | none => []
    | some authFile => authFile :: self.xServerOptions

/-- `spawn_x_server`, with what `prepare_auth_file` has returned, which is not looked at. -/
def spawnXServer (authFile : Option (List Char)) (launch : Launch) : WrapperProcess × Bool :=
  let process : Subprocess :=
    { argv := self.xServerArguments config authFile
      environment := launcherSetenv config.own "XORG_RUN_AS_USER_OK".toList ['1'] true }
  match self.spawnReading .xServer process launch with
  | (next, none) => (next, false)
  | (next, some number) => ({ next with displayName := ':' :: number, authFile := authFile }, true)

/-- `spawn_bus`: nothing is started when there is a bus already. -/
def spawnBus (running : Bool) (launch : Launch) (connected : Bool) : WrapperProcess × Bool :=
  let process : Subprocess :=
    { argv := ["dbus-daemon".toList, "--print-address".toList, program.busAddressFileno,
        "--session".toList]
      environment := config.own }
  if running then (self, true)
  else
    match self.spawnReading .bus process launch with
    | (next, none) => (next, false)
    | (next, some address) => ({ next with busAddress := some address }, connected)

/-- What the session is started with: its words, and its environment. -/
def sessionArguments : Option (List (List Char)) :=
  match program with
  | .gdmXSession => some [config.gdmConfDir ++ "/Xsession".toList, self.sessionCommand]
  | .gdmWaylandSession _ => ShellWords.parseArgv self.sessionCommand

def sessionEnvironment : Environ :=
  match program with
  | .gdmXSession => self.toXWrapperState.spawnSession config.own
  | .gdmWaylandSession _ => self.toWrapperState.spawnSession config.own

/-- `spawn_session` -/
def spawnSession (started : Bool) : WrapperProcess × Bool :=
  match self.sessionArguments program config with
  | none => (self, false)
  | some argv =>
    if started then
      let process : Subprocess :=
        { argv := argv, environment := self.sessionEnvironment program config }
      ((self.setProcess .session process).keep .session, true)
    else (self, false)

/-! ## The start -/

/-- `import_environment` -/
def importEnvironment : Option Environ → WrapperProcess × Bool
  | none => (self, false)
  | some environment => ({ self with environment := some environment }, true)

/-- `update_bus_environment` -/
def updateBusEnvironment (updated : Bool) : WrapperProcess × Bool :=
  let next : WrapperProcess :=
    { self with
      calls := self.calls ++ [.updateActivationEnvironment self.displayName self.authFile] }
  if updated then
    ({ next with activationEnvironment := some (self.displayName, self.authFile) }, true)
  else (next, false)

/-- `register_session`; then the display is to be registered too. -/
def registerSession (registered : Bool) : WrapperProcess × Bool :=
  let next : WrapperProcess := { self with calls := self.calls ++ [.registerSession] }
  if registered then ({ next with displayTimeout := true }, true) else (next, false)

/-- What one call of `main` does, and what it returns. -/
def perform : StartResult → WrapperProcess × Bool
  | .takeArguments [command] => ({ self with sessionCommand := command }, true)
  | .takeArguments _ => (self, false)
  | .readSettings true debug disallowTcp =>
    ({ self with debugEnabled := debug, disallowTcp := disallowTcp }, true)
  | .readSettings false _ _ => (self, false)
  | .spawnXServer authFile launch => self.spawnXServer config authFile launch
  | .spawnBus running launch connected => self.spawnBus program config running launch connected
  | .importEnvironment reply => self.importEnvironment reply
  | .updateBusEnvironment updated => self.updateBusEnvironment updated
  | .connectToDisplayManager connected => (self, connected)
  | .spawnSession started => self.spawnSession program config started
  | .registerSession registered => self.registerSession registered

/-! ## The end -/

/-- A process that is kept is sent a `SIGTERM`. -/
def signalSubprocess (role : SubprocessRole) : WrapperProcess :=
  if self.held role then
    { self with
      processes :=
        Function.update self.processes role ((self.processes role).map Subprocess.sendSigterm) }
  else self

/-- `signal_subprocesses` -/
def signalSubprocesses : WrapperProcess :=
  ((self.signalSubprocess .session).signalSubprocess .bus).signalSubprocess .xServer

/-- What `main` does at `out`, up to the first process that it waits for.  When the arguments are
wrong there is no process yet. -/
def leave (status : Nat) : WrapperProcess :=
  { self.signalSubprocesses with
    exitStatus := status
    stage := .waiting [.xServer, .bus, .session] }

/-- `clear_state` -/
def clearState : WrapperProcess :=
  { self with
    held := Function.update (Function.update self.held .session false) .xServer false
    displayTimeout := false
    stage := .returned }

/-- One call of `wait_on_subprocesses` returns, if the process has ended or there is none. -/
def waitOnSubprocess : WrapperProcess :=
  match self.stage with
  | .waiting [] => self.clearState
  | .waiting (role :: roles) =>
    if self.held role then
      match self.processes role with
      | none => self
      | some process =>
        if process.ending.isSome then { self with stage := .waiting roles } else self
    else { self with stage := .waiting roles }
  | _ => self

/-! ## The main loop -/

/-- What the callbacks of `g_subprocess_wait_async` do when the process has ended or when the
wait has been cancelled; `noted` is what is done with the ending. -/
def onFinished (role : SubprocessRole) (noted : WrapperProcess → ProcessEnding → WrapperProcess) :
    WrapperProcess :=
  if self.watched role then
    if self.cancelled then
      { self with watched := Function.update self.watched role false, loopRunning := false }
    else
      match (self.processes role).bind Subprocess.ending with
      | none => self
      | some ending =>
        { noted self ending with
          watched := Function.update self.watched role false
          held := Function.update self.held role false
          loopRunning := false }
  else self

def onXServerFinished : WrapperProcess :=
  self.onFinished .xServer fun self _ => self

def onBusFinished : WrapperProcess :=
  self.onFinished .bus fun self _ => self

def onSessionFinished : WrapperProcess :=
  self.onFinished .session fun self ending =>
    match ending with
    | .exited status => { self with sessionExitStatus := status, seen := some ending }
    | .killed _ => { self with seen := some ending }

def onSigterm : WrapperProcess :=
  { self with cancelled := true, loopRunning := false }

/-- `register_display_timeout_cb`; a call that is cancelled beforehand is not made. -/
def registerDisplayTimeoutCb : WrapperProcess :=
  if self.displayTimeout then
    { self with
      displayTimeout := false
      calls := if self.cancelled then self.calls else self.calls ++ [.registerDisplay] }
  else self

def dispatch : MainCallback → WrapperProcess
  | .onXServerFinished => self.onXServerFinished
  | .onBusFinished => self.onBusFinished
  | .onSessionFinished => self.onSessionFinished
  | .onSigterm => self.onSigterm
  | .registerDisplayTimeoutCb => self.registerDisplayTimeoutCb

/-- The loop goes round: the sources that are ready are dispatched, and then it is seen whether
it has been quit. -/
def iterate (callbacks : List MainCallback) : WrapperProcess :=
  let next := callbacks.foldl dispatch self
  if next.loopRunning then next
  else next.leave (if next.held .session then exOk else next.sessionExitStatus)

/-! ## The machine -/

/-- `main` goes on with the calls that are left, or enters its loop. -/
def goOn (rest : List StartCall) : WrapperProcess :=
  if rest = [] then { self with stage := .looping, loopRunning := true }
  else { self with stage := .starting rest }

/-- A call has returned; if it has failed `main` may give up. -/
def proceed (call : StartCall) (rest : List StartCall) : WrapperProcess × Bool → WrapperProcess
  | (next, true) => next.goOn rest
  | (next, false) =>
    match call.failureStatus with
    | none => next.goOn rest
    | some status => { next.leave status with failed := some call }

def step (event : WrapperEvent) : WrapperProcess :=
  match event with
  | .ends role ending =>
    { self with
      processes :=
        Function.update self.processes role
          ((self.processes role).map fun process => process.finish ending) }
  | .call result =>
    match self.stage with
    | .starting (call :: rest) =>
      if result.call = call then proceed call rest (self.perform program config result) else self
    | _ => self
  | .iterate callbacks =>
    match self.stage with
    | .looping => self.iterate callbacks
    | _ => self
  | .wait => self.waitOnSubprocess

def init : WrapperProcess :=
  { displayName := [], authFile := none, stage := .starting program.startCalls }

/-- Either program from its start on. -/
def machine : EventMachine WrapperProcess WrapperEvent where
  Start self := self = init program
  step := step program config

end WrapperProcess

end Gdm
