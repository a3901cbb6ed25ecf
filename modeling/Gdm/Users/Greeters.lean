import Gdm.Library.Leases
import Gdm.Users.Enumeration

/-!
# Greeters and their users

Each display that has a greeter has a launch environment, which runs the greeter as a dynamic
user.  It gets the user when the display is prepared and gives it back when it is stopped, at the
latest when it is finalized.  The launch environments share one store.
-/

namespace Gdm

/-- What a launch environment is created for. -/
inductive GreeterKind
  | greeter
  | initialSetup
  deriving DecidableEq, Repr

/-- `struct _GdmLaunchEnvironment`, with what its user and its session have to do with each
other. -/
structure GdmLaunchEnvironment where
  preferredUserName : String
  userDispName : String
  userMemberOf : String
  /-- It has a session. -/
  session : Bool := false
  pid : Int := 0
  dynUserName : String := ""
  dynUid : Nat := 0
  dynUserHome : String := ""
  finalized : Bool := false
  deriving DecidableEq, Repr

namespace GdmLaunchEnvironment

/-- `gdm_create_greeter_launch_environment` and
`gdm_create_initial_setup_launch_environment`, with the group of the configuration. -/
def create (gdmGroupname : String) : GreeterKind → GdmLaunchEnvironment
  | .greeter =>
    { preferredUserName := "gdm-greeter"
      userDispName := "GDM Greeter"
      userMemberOf := gdmGroupname }
  | .initialSetup =>
    { preferredUserName := "gnome-initial-setup"
      userDispName := "GNOME Initial Setup"
      userMemberOf := "gnome-initial-setup" }

/-- What it asks the store for. -/
def request (self : GdmLaunchEnvironment) : UserRequest :=
  { preferredUsername := self.preferredUserName
    displayName := self.userDispName
    memberOf := self.userMemberOf }

/-- The user that it runs its greeter as. -/
def takeUser (user : DynamicUser) (self : GdmLaunchEnvironment) : GdmLaunchEnvironment :=
  { self with
    dynUserName := user.username
    dynUid := user.uid
    dynUserHome := user.home }

end GdmLaunchEnvironment

/-- What a launch environment emits, and the process groups that are sent a `SIGTERM`. -/
inductive GreeterEffect
  | opened (environment : Nat) (sessionId : String)
  | started (environment : Nat) (pid : Int)
  | exited (environment : Nat) (exitCode : Int)
  | died (environment : Nat) (signalNumber : Int)
  | stopped (environment : Nat)
  | terminated (environment : Nat) (target : Int)
  deriving DecidableEq, Repr

/-- The launch environments that there have been, by their numbers, with the store. -/
structure Greeters where
  process : UserStoreProcess
  environments : List GdmLaunchEnvironment := []
  log : List GreeterEffect := []

inductive GreeterEvent
  | create (kind : GreeterKind)
  | prepareGreeterSession (environment : Nat) (database : UserDatabase)
  | startGreeterSession (environment : Nat)
  | stopGreeterSession (environment : Nat)
  | onSessionOpened (environment : Nat) (sessionId : String)
  | onSessionStarted (environment : Nat) (pid : Int)
  | onSessionExited (environment : Nat) (exitCode : Int)
  | onSessionDied (environment : Nat) (signalNumber : Int)
  | onConversationStopped (environment : Nat)
  /-- The display drops its launch environment. -/
  | clear (environment : Nat)

namespace Greeters

variable (config : UserdbConfig) (gdmGroupname : String) (self : Greeters)

def modifyEnvironment (e : Nat) (f : GdmLaunchEnvironment → GdmLaunchEnvironment) : Greeters :=
  { self with environments := self.environments.modify e f }

def emit (effect : GreeterEffect) : Greeters :=
  { self with log := self.log ++ [effect] }

/-- `gdm_signal_pid` for the process group of the greeter, if it has been started. -/
def signalGreeter (e : Nat) (environment : GdmLaunchEnvironment) : Greeters :=
  if 1 < environment.pid then self.emit (.terminated e (-environment.pid)) else self

/-- `gdm_launch_environment_ensure_uid`; a creation that fails leaves the launch environment
without a user. -/
def ensureUid (e : Nat) (environment : GdmLaunchEnvironment) (database : UserDatabase) : Greeters :=
  if environment.dynUid ≠ 0 then self
  else
    match self.process.store.create config database environment.request with
    | none => { self with process := { self.process with aborted := true } }
    | some (store, .error _) => { self with process := { self.process with store := store } }
    | some (store, .ok user) =>
      { self with process := { self.process with store := store } }.modifyEnvironment e
        (GdmLaunchEnvironment.takeUser user)

/-- `gdm_launch_environment_start`, for one that has a user. -/
def start (e : Nat) (environment : GdmLaunchEnvironment) : Greeters :=
  if environment.dynUid ≠ 0 then
    self.modifyEnvironment e fun environment => { environment with session := true }
  else self

/-- The user is given back; the process may be aborted then. -/
def removeUser (e : Nat) (environment : GdmLaunchEnvironment) : Greeters :=
  if environment.dynUid ≠ 0 then
    match self.process.store.remove environment.dynUid with
    | none => { self with process := { self.process with aborted := true } }
    | some store =>
      { self with process := { self.process with store := store } }.modifyEnvironment e
        fun environment => { environment with dynUid := 0 }
  else self

/-- `gdm_launch_environment_stop` -/
def stop (e : Nat) (environment : GdmLaunchEnvironment) : Greeters :=
  let signalled := self.signalGreeter e environment
  let closed :=
    signalled.modifyEnvironment e fun environment => { environment with session := false }
  let removed := closed.removeUser e environment
  if removed.process.aborted then removed else removed.emit (.stopped e)

/-- `gdm_launch_environment_finalize` -/
def finalize (e : Nat) : Greeters :=
  match self.environments[e]? with
  | none => self
  | some environment =>
    let stopped := self.stop e environment
    if stopped.process.aborted then stopped
    else
      stopped.modifyEnvironment e fun environment =>
        { environment with session := false, finalized := true }

/-- What an event does to the launch environment that it is about. -/
def handle (e : Nat) (environment : GdmLaunchEnvironment) : GreeterEvent → Greeters
  | .create _ => self
  | .prepareGreeterSession _ database => self.ensureUid config e environment database
  | .startGreeterSession _ => self.start e environment
  | .stopGreeterSession _ =>
    let stopped := self.stop e environment
    if stopped.process.aborted then stopped else stopped.finalize e
  | .onSessionOpened _ sessionId => self.emit (.opened e sessionId)
  | .onSessionStarted _ pid =>
    (self.modifyEnvironment e fun environment => { environment with pid := pid }).emit
      (.started e pid)
  | .onSessionExited _ exitCode => self.emit (.exited e exitCode)
  | .onSessionDied _ signalNumber => self.emit (.died e signalNumber)
  | .onConversationStopped _ =>
    let closed := self.modifyEnvironment e fun environment => { environment with session := false }
    if 1 < environment.pid then
      (closed.emit (.terminated e (-environment.pid))).emit (.stopped e)
    else closed
  | .clear _ => self.finalize e

end Greeters

/-- The launch environment that an event is about. -/
def GreeterEvent.environment : GreeterEvent → Option Nat
  | create _ => none
  | prepareGreeterSession e _ => some e
  | startGreeterSession e => some e
  | stopGreeterSession e => some e
  | onSessionOpened e _ => some e
  | onSessionStarted e _ => some e
  | onSessionExited e _ => some e
  | onSessionDied e _ => some e
  | onConversationStopped e => some e
  | clear e => some e

namespace Greeters

variable (config : UserdbConfig) (gdmGroupname : String)

/-- Nothing happens to a launch environment that has been finalized. -/
def step (self : Greeters) (event : GreeterEvent) : Greeters :=
  if self.process.aborted then self
  else
    match event with
    | .create kind =>
      { self with
        environments := self.environments ++ [GdmLaunchEnvironment.create gdmGroupname kind] }
    | event =>
      match event.environment with
      | none => self
      | some e =>
        match self.environments[e]? with
        | none => self
        | some environment =>
          if environment.finalized then self else self.handle config e environment event

/-- The manager has been created. -/
def init : Greeters :=
  { process := UserStoreProcess.init config }

/-- The launch environments, from the creation of the manager on. -/
def machine : EventMachine Greeters GreeterEvent where
  Start self := self = init config
  step := step config gdmGroupname

end Greeters

end Gdm
