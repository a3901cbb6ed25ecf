import Gdm.Manager.Listing

/-!
# Records of logins and logouts

The manager writes a record to utmp and wtmp when a user session registers on the bus,
and another one when a session exits.  Who reads them matches the two by the number of the
process and by the line.  The call to register can come any number of times, and a session
comes to its end in other ways than by an exit.
-/

namespace Gdm

/-! ## `gdm-session-record.c` -/

/-- `GdmSessionRecordEvent` -/
inductive GdmSessionRecordEvent
  | login
  | logout
  | failed
  deriving DecidableEq, Repr

/-- `struct utmpx`, but for the time. -/
structure SessionRecord where
  event : GdmSessionRecordEvent
  username : List UInt8
  pid : Int
  host : List UInt8
  line : List UInt8
  deriving DecidableEq, Repr

/-- What the records of a login and of its logout have in common. -/
structure RecordMark where
  pid : Int
  line : List UInt8
  deriving DecidableEq, Repr

def SessionRecord.mark (record : SessionRecord) : RecordMark :=
  { pid := record.pid, line := record.line }

/-- The bytes of a text. -/
def recordBytes (text : String) : List UInt8 :=
  text.toUTF8.data.toList

/-- The line is the device without its directory, or the seat. -/
def recordLine (tty seatId : Option String) : List UInt8 :=
  match tty, seatId with
  | some tty, _ =>
    if (recordBytes "/dev/").isPrefixOf (recordBytes tty) then (recordBytes tty).drop 5
    else recordBytes tty
  | none, some seatId => recordBytes seatId
  | none, none => recordBytes "headless"

/-- `gdm_session_record`; a field has 32 bytes, and that of the host 256. -/
def gdmSessionRecord (event : GdmSessionRecordEvent) (session : GdmSession) (pid : Int) :
    Option SessionRecord :=
  match session.getUsername with
  | none => none
  | some username =>
    let pid := if pid < 0 then session.sessionPid else pid
    if pid < 0 then none
    else some {
      event := event
      username := (recordBytes username).take 32
      pid := pid
      host := (recordBytes (session.displayHostname.getD "local")).take 256
      line := (recordLine session.displayDevice session.displaySeatId).take 32 }

/-- The record that a handler of the manager for a signal of a user session writes:
`on_session_authentication_failed` or `on_user_session_exited`. -/
def SessionSignal.record (session : GdmSession) : SessionSignal → Option SessionRecord
  | authenticationFailed _ pid => gdmSessionRecord .failed session pid
  | sessionExited _ _ => gdmSessionRecord .logout session (-1)
  | _ => none

/-- The signal that an entry of the history says is emitted. -/
def SessionEffect.emits : SessionEffect → Option SessionSignal
  | .signal emitted => some emitted
  | _ => none

namespace GdmManager

variable (self : GdmManager) (around : ManagerSurroundings)

/-- The signals of a user session that the manager gets when an event reaches it. -/
def signalsOf (k : Nat) (event : SessionEvent) : List SessionSignal :=
  match self.sessions[k]? with
  | none => []
  | some s =>
    if s.disposed ∨ s.session.owner ≠ .userSession then []
    else ((s.session.step (event, self.surroundings around k s event)).log.drop
      s.session.log.length).filterMap SessionEffect.emits

/-- The records that are written when an event reaches a session.  What they say of the
session does not change before the signal. -/
def recordsOfSession (k : Nat) (event : SessionEvent) : List (Nat × SessionRecord) :=
  match self.sessions[k]? with
  | none => []
  | some s => ((self.signalsOf around k event).filterMap (·.record s.session)).map (k, ·)

/-- The session that RegisterSession finds, with the device that it is given. -/
def registeredSession (sender : BusSender) : Option (Nat × ManagedSession) :=
  let details := self.getDisplayAndDetailsForBusSender sender false
  (details.display.bind self.findUserSessionForDisplay).bind fun k =>
    let named :=
      match details.tty with
      | some tty => self.callSession k around (.setDisplayDevice tty)
      | none => self
    (named.sessions[k]?).map (k, ·)

/-- The record that RegisterSession writes. -/
def recordsOfRegistration (sender : BusSender) : List (Nat × SessionRecord) :=
  ((self.registeredSession around sender).bind fun (k, s) =>
    (gdmSessionRecord .login s.session (-1)).map (k, ·)).toList

/-- The records that an event makes the manager write. -/
def recordsOf : ManagerEvent → List (Nat × SessionRecord)
  | .session k event => if isOwnerCall event then [] else self.recordsOfSession around k event
  | .registerSession sender => self.recordsOfRegistration around sender
  | _ => []

/-- The part of `gdm_manager_dispose` for the user sessions. -/
def disposeUserSessions : GdmManager :=
  let closed := self.userSessions.foldl (fun self k => self.callSession k around .close) self
  { self.userSessions.foldl unrefSession closed with userSessions := [] }

end GdmManager

/-! ## The machine -/

/-- What happens to the manager: an event of its main loop, or its end. -/
inductive RecordedEvent
  | manager (event : ManagerEvent)
  | dispose

/-- The manager with the records that it has written, each with its session. -/
structure RecordedManager where
  manager : GdmManager := {}
  records : List (Nat × SessionRecord) := []
  disposed : Bool := false

namespace RecordedManager

variable (self : RecordedManager)

/-- There is a manager, and the process runs. -/
def running : Bool :=
  !self.disposed && self.manager.running

def handleEvent (around : ManagerSurroundings) : RecordedEvent → RecordedManager
  | .manager event =>
    { self with
      manager := self.manager.handleEvent around event
      records := self.records ++ self.manager.recordsOf around event }
  | .dispose => { self with manager := self.manager.disposeUserSessions around, disposed := true }

def step (input : RecordedEvent × ManagerSurroundings) : RecordedManager :=
  if self.running then self.handleEvent input.2 input.1 else self

/-- The records are written from `gdm_manager_init` on. -/
def machine : EventMachine RecordedManager (RecordedEvent × ManagerSurroundings) where
  Start self := self = {}
  step := step

end RecordedManager

end Gdm
