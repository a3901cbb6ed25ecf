import Gdm.Library.Calls
import Gdm.Manager.State
import Mathlib.Data.List.Sort

/-!
# The displays and their store

Local displays are created by their factory, which is told of every change of the status
of a display in the store, as the manager is.  Such a notification is a call: what the
handlers do is done before the function that has changed the status goes on.  So a
function of the daemon is cut where it notifies, and what is left of it is a call of its
own.
-/

namespace Gdm

/-- The launch environment of a display, which runs its greeter.  The display hears of
the end of the greeter when it has been started. -/
inductive LaunchEnvironment
  | created
  | started
  deriving DecidableEq, Repr

/-- A display, with its launch environment and whether `finish_idle_id` is set. -/
structure DisplayObject extends GdmDisplay where
  launchEnvironment : Option LaunchEnvironment := none
  finishIdle : Bool := false
  deriving DecidableEq, Repr

/-- `GdmLocalDisplayFactory`, with what it has of a `GdmDisplayFactory`.  The timeouts and
the idle function are there or not; `uevent` is whether the handler is connected. -/
structure GdmLocalDisplayFactory where
  initialVt : Nat := 1
  numFailures : Nat := 0
  seat0HasPlatformGraphics : Bool := false
  seat0HasBootUpGraphics : Bool := false
  seat0GraphicsCheckTimedOut : Bool := false
  seat0GraphicsCheckTimeout : Bool := false
  uevent : Bool := true
  activeVt : Nat := 0
  waitToFinishTimeout : Bool := false
  isStarted : Bool := false
  purgeDisplays : Bool := false
  deriving DecidableEq, Repr

/-- `MAX_DISPLAY_FAILURES` -/
def maxDisplayFailures : Nat := 5

/-- What the factory does, for the record.  A display is created `after` the end of
another one when the factory makes up for that. -/
inductive DisplayEffect
  | failed (display : Nat)
  | created (display : Nat) (seatId : Option String) (after : Option Nat)
  deriving DecidableEq, Repr

/-- The displays that there have been.  Those in the store are `stored`; `lookups` has
those of the automatic logins whose users are being looked up. -/
structure Displays where
  displays : List DisplayObject := []
  factory : GdmLocalDisplayFactory := {}
  lookups : List Nat := []
  log : List DisplayEffect := []
  deriving DecidableEq, Repr

/-- The callbacks of `gdm_display_store_foreach`. -/
inductive StoreCallback
  | finishDisplayOnSeatIfWaiting
  | listifyDisplayIds
  | unexportDisplay
  | finishDisplay
  deriving DecidableEq, Repr

/-- The callbacks of `gdm_display_store_foreach_remove`. -/
inductive StorePredicate
  | purgeDisplay
  | lookupBySeatId (seatId : Option String)
  | removeDisplay (display : Nat)
  deriving DecidableEq, Repr

/-- A call that is to be made.

`finish`, `queueFinish`, `finishUnlessFailed`, `createDisplayForUserSession` and
`storeRemove` are what is left of functions that have changed a status.  `foreach` and
`foreachRemove` are iterations that are under way, with the entries that they have not
come to. -/
inductive DisplayCall
  | managerStatusChanged (display : Nat)
  | factoryStatusChanged (display : Nat)
  | ensureDisplayForSeat (seatId : Option String) (after : Option Nat)
  | finish (display : Nat)
  | queueFinish (display : Nat)
  | finishUnlessFailed (display : Nat)
  | createDisplayForUserSession (seatId sessionId : Option String) (isLocal : Bool)
  | storeRemove (display : Nat)
  | storeForeach (callback : StoreCallback)
  | foreach (callback : StoreCallback) (rest : List Nat)
  | foreachRemove (predicate : StorePredicate) (rest : List Nat)
  | storeClear
  deriving DecidableEq, Repr

/-- What `get_automatic_login_details` and the accounts service say about a display that
has been prepared. -/
inductive AutomaticLogin
  | disabled
  | userExists
  | userNonexistent
  | userLoading
  deriving DecidableEq, Repr

/-- The graphics adapter that udev has found. -/
inductive PrimaryGraphics
  | platform
  | bootUp
  deriving DecidableEq, Repr

/-- What the functions on displays meet outside of them. -/
structure DisplaySurroundings where
  /-- where a display stands in the hash table -/
  position : Nat → Nat := id
  /-- the session of the login window on the seat in question -/
  loginWindow : Option String := none
  /-- the VT of that session -/
  loginWindowVt : Nat := 0
  /-- the sessions on the VT that has become active -/
  sessionsOnVt : List String := []
  primaryGraphics : Option PrimaryGraphics := some .bootUp
  /-- `none` when logind cannot be asked -/
  canGraphical : Option Bool := some true
  /-- the active session of the seat in question -/
  seatActiveSession : Option String := none
  wantsInitialSetup : Bool := false
  automaticLogin : AutomaticLogin := .disabled
  /-- there is a user for the greeter to run as -/
  greeterUser : Bool := true

/-- The status is one that `purge_display` looks for. -/
def GdmDisplayStatus.ended : GdmDisplayStatus → Bool
  | .finished => true
  | .failed => true
  | _ => false

namespace Displays

/-- A display in the store. -/
def storedDisplay (self : Displays) (d : Nat) : Option DisplayObject :=
  self.displays[d]?.filter fun x => x.stored

def modifyDisplay (self : Displays) (d : Nat) (f : DisplayObject → DisplayObject) : Displays :=
  { self with displays := self.displays.modify d f }

def emit (self : Displays) (effect : DisplayEffect) : Displays :=
  { self with log := self.log ++ [effect] }

/-- The entries of the hash table, in the order of the table. -/
def entries (self : Displays) (around : DisplaySurroundings) : List Nat :=
  ((List.range self.displays.length).filter fun d => (self.storedDisplay d).isSome).insertionSort
    fun d e => around.position d ≤ around.position e

/-- `gdm_display_store_find` -/
def storeFind (self : Displays) (around : DisplaySurroundings)
    (predicate : DisplayObject → Bool) : Option Nat :=
  (self.entries around).find? fun d => (self.storedDisplay d).any predicate

/-- `lookup_by_session_id` -/
def lookupBySessionId (sessionId : String) (x : DisplayObject) : Bool :=
  x.sessionId = some sessionId

end Displays

end Gdm
