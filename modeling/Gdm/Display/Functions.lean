import Gdm.Display.State
import Mathlib.Algebra.Order.Ring.Nat

/-!
# What the daemon does to displays

Each function gives the state when it returns or first notifies, and the calls that are
to be made then: those of the handlers, and what is left of the function itself.
-/

namespace Gdm

/-- The callback says that the entry is to be removed. -/
def StorePredicate.holds (predicate : StorePredicate) (d : Nat) (x : DisplayObject) : Bool :=
  match predicate with
  | .purgeDisplay => x.status.ended
  | .lookupBySeatId seatId => x.seatId = seatId
  | .removeDisplay display => d = display

namespace Displays

variable (self : Displays) (around : DisplaySurroundings)

/-! ## `gdm-display.c` -/

/-- The handlers of `notify::status` on a display.  They are connected while the display
is in the store; that of the manager has been connected first. -/
def notifyStatus (d : Nat) : WithCalls Displays DisplayCall :=
  ⟨self, if (self.storedDisplay d).isSome then [.managerStatusChanged d, .factoryStatusChanged d]
    else []⟩

/-- `_gdm_display_set_status` -/
def setStatus (d : Nat) (status : GdmDisplayStatus) : WithCalls Displays DisplayCall :=
  if (self.displays[d]?).any fun x => x.status ≠ status then
    (self.modifyDisplay d fun x => { x with status := status }).notifyStatus d
  else ⟨self, []⟩

/-- `g_object_set` of the status, which notifies even if the status stays as it is. -/
def setStatusProperty (d : Nat) (status : GdmDisplayStatus) : WithCalls Displays DisplayCall :=
  (self.modifyDisplay d fun x => { x with status := status }).notifyStatus d

/-- `gdm_display_finish` -/
def finish (d : Nat) : WithCalls Displays DisplayCall :=
  (self.modifyDisplay d fun x => { x with finishIdle := false }).setStatus d .finished

/-- The status that `gdm_display_unmanage` sets. -/
def unmanagedStatus (x : DisplayObject) : GdmDisplayStatus :=
  if x.sessionRegistered then .unmanaged else .failed

/-- `gdm_display_unmanage` -/
def unmanage (d : Nat) : WithCalls Displays DisplayCall :=
  match self.displays[d]? with
  | some x => self.setStatus d (unmanagedStatus x)
  | none => ⟨self, []⟩

/-- `queue_finish`, unless the display has finished: the end of `self_destruct`. -/
def queueFinish (d : Nat) : Displays :=
  self.modifyDisplay d fun x => { x with finishIdle := x.finishIdle || x.status ≠ .finished }

/-- `self_destruct` -/
def selfDestruct (d : Nat) : WithCalls Displays DisplayCall :=
  (self.unmanage d).andThen [.queueFinish d]

/-- `gdm_display_stop_greeter_session` -/
def stopGreeterSession (d : Nat) : Displays :=
  self.modifyDisplay d fun x => { x with launchEnvironment := none }

/-- `gdm_display_prepare`, of a display for a greeter.  It does not fail: when the users
cannot be listed the process exits. -/
def prepare (d : Nat) : WithCalls Displays DisplayCall :=
  (self.modifyDisplay d fun x => { x with
    doingInitialSetup := around.wantsInitialSetup
    launchEnvironment := some .created }).setStatus d .prepared

/-! ## `gdm-display-store.c` -/

/-- `gdm_display_store_add`; the display gets the next number. -/
def storeAdd (x : DisplayObject) : Displays :=
  { self with displays := self.displays ++ [{ x with stored := true }] }

/-- The entry is removed.  The handlers are disconnected, and the display goes with its
idle function and its launch environment, unless the lookup of a user refers to it. -/
def storedDisplayFree (d : Nat) : Displays :=
  self.modifyDisplay d fun x =>
    if d ∈ self.lookups then { x with stored := false }
    else { x with stored := false, launchEnvironment := none, finishIdle := false }

/-- `gdm_display_store_clear` -/
def storeClear : Displays :=
  { self with displays := self.displays.map fun x =>
      { x with stored := false, launchEnvironment := none, finishIdle := false } }

/-- `gdm_display_store_foreach` begins. -/
def storeForeach (callback : StoreCallback) : WithCalls Displays DisplayCall :=
  ⟨self, [.foreach callback (self.entries around)]⟩

/-- `gdm_display_store_foreach_remove` begins. -/
def storeForeachRemove (predicate : StorePredicate) : WithCalls Displays DisplayCall :=
  ⟨self, [.foreachRemove predicate (self.entries around)]⟩

/-! ## `gdm-display-factory.c` -/

/-- `gdm_display_factory_queue_purge_displays` -/
def queuePurgeDisplays : Displays :=
  { self with factory := { self.factory with purgeDisplays := true } }

/-! ## `gdm-local-display-factory.c` -/

/-- `finish_display_on_seat_if_waiting`; the seat is not looked at. -/
def finishDisplayOnSeatIfWaiting (d : Nat) : WithCalls Displays DisplayCall :=
  if (self.displays[d]?).any fun x => x.status = .waitingToFinish then
    ((self.stopGreeterSession d).unmanage d).andThen [.finish d]
  else ⟨self, []⟩

/-- The display has ended, and the factory makes sure that there is a login screen. -/
def FinishResets (factory : GdmLocalDisplayFactory) (around : DisplaySurroundings)
    (x : DisplayObject) : Prop :=
  x.isLocal ∧ (x.sessionClass ≠ "greeter" ∧
      (around.seatActiveSession = none ∨ x.sessionId = around.seatActiveSession) ∨
    factory.activeVt = factory.initialVt ∨ x.seatId ≠ some "seat0")

instance (factory : GdmLocalDisplayFactory) (x : DisplayObject) :
    Decidable (FinishResets factory around x) := by
  unfold FinishResets
  infer_instance

/-- `on_display_status_changed`, of the factory.  The counter has 32 bits. -/
def factoryStatusChanged (d : Nat) : WithCalls Displays DisplayCall :=
  match self.storedDisplay d with
  | none => ⟨self, []⟩
  | some x =>
    if ¬ self.factory.isStarted then ⟨self, []⟩
    else match x.status with
      | .finished =>
        let queued := self.queuePurgeDisplays
        if FinishResets self.factory around x then
          ⟨{ queued with factory := { queued.factory with numFailures := 0 } },
            [.ensureDisplayForSeat x.seatId (some d)]⟩
        else ⟨queued, []⟩
      | .failed =>
        let queued := self.queuePurgeDisplays
        if x.isLocal then
          let numFailures := (self.factory.numFailures + 1) % 2 ^ 32
          ⟨{ queued with factory := { queued.factory with numFailures := numFailures } }.emit
              (.failed d),
            if numFailures > maxDisplayFailures then []
            else [.ensureDisplayForSeat x.seatId (some d)]⟩
        else ⟨queued, []⟩
      | .managed => ⟨self, [.storeForeach .finishDisplayOnSeatIfWaiting]⟩
      | .unmanaged => ⟨self, []⟩
      | .prepared => ⟨self, []⟩
      | .waitingToFinish => ⟨self, []⟩

/-- `udev_is_settled`, with what is noted of the graphics. -/
def udevIsSettled : Bool × Displays :=
  let factory := self.factory
  if factory.seat0HasPlatformGraphics || factory.seat0HasBootUpGraphics then (true, self)
  else if factory.seat0GraphicsCheckTimedOut then
    (true, { self with factory := { factory with uevent := false } })
  else match around.primaryGraphics with
    | none => (false, self)
    | some .platform =>
      (true, { self with factory := { factory with
        seat0HasPlatformGraphics := true
        uevent := false } })
    | some .bootUp =>
      (true, { self with factory := { factory with
        seat0HasBootUpGraphics := true
        uevent := false } })

/-- The status of the display that `get_display_for_seat` looks for. -/
def statusForSeat (seatId : Option String) : GdmDisplayStatus :=
  if seatId = some "seat0" then .prepared else .managed

/-- `get_display_for_seat` -/
def getDisplayForSeat (seatId : Option String) : Option Nat :=
  self.storeFind around fun x => x.status = statusForSeat seatId ∧ x.seatId = seatId

/-- The display of the login window, if there is one that can be used. -/
def loginWindowDisplay : Option Nat :=
  around.loginWindow.bind fun sessionId =>
    (self.storeFind around (lookupBySessionId sessionId)).filter fun d =>
      (self.displays[d]?).any fun x => x.status = .managed ∨ x.status = .waitingToFinish

/-- A new display for a greeter on a seat is prepared. -/
def createDisplay (x : DisplayObject) : WithCalls Displays DisplayCall :=
  (self.storeAdd x).prepare around self.displays.length

/-- `ensure_display_for_seat` -/
def ensureDisplayForSeat (seatId : Option String) (after : Option Nat) :
    WithCalls Displays DisplayCall :=
  match self.loginWindowDisplay around with
  | some d => self.setStatusProperty d .managed
  | none =>
    let (isSettled, settled) := self.udevIsSettled around
    if ¬ isSettled then
      ⟨if seatId = some "seat0" then
          { settled with factory := { settled.factory with seat0GraphicsCheckTimeout := true } }
        else settled, []⟩
    else
      let cleared :=
        { settled with factory := { settled.factory with seat0GraphicsCheckTimeout := false } }
      if around.canGraphical ≠ some true then ⟨cleared, []⟩
      else match cleared.getDisplayForSeat around seatId with
        | some _ => ⟨cleared, []⟩
        | none =>
          (cleared.emit (.created cleared.displays.length seatId after)).createDisplay around
            { seatId := seatId }

/-- `maybe_stop_greeter_in_background` -/
def maybeStopGreeterInBackground (d : Nat) : WithCalls Displays DisplayCall :=
  if (self.displays[d]?).any fun x => x.status = .managed ∧ ¬ x.doingInitialSetup then
    self.setStatusProperty d .waitingToFinish
  else ⟨self, []⟩

/-! ## `gdm-manager.c` -/

/-- `set_up_greeter_session` -/
def setUpGreeterSession (d : Nat) : WithCalls Displays DisplayCall :=
  if around.greeterUser then
    ⟨self.modifyDisplay d fun x => { x with
      launchEnvironment := x.launchEnvironment.map fun _ => .started }, []⟩
  else (self.unmanage d).andThen [.finish d]

/-- `set_up_session` -/
def setUpSession (d : Nat) : WithCalls Displays DisplayCall :=
  match around.automaticLogin with
  | .disabled => self.setUpGreeterSession around d
  | .userExists => ⟨self, []⟩
  | .userNonexistent => self.setUpGreeterSession around d
  | .userLoading => ⟨{ self with lookups := self.lookups ++ [d] }, []⟩

/-- `on_display_status_changed`, of the manager, as far as displays are concerned. -/
def managerStatusChanged (d : Nat) : WithCalls Displays DisplayCall :=
  if (self.storedDisplay d).any fun x => x.status = .prepared ∧ x.sessionClass = "greeter" then
    self.setUpSession around d
  else ⟨self, []⟩

/-- `create_display_for_user_session` -/
def createDisplayForUserSession (seatId sessionId : Option String) (isLocal : Bool) : Displays :=
  self.storeAdd { seatId := seatId, sessionId := sessionId, sessionClass := "user"
                  isLocal := isLocal, isRemoteDisplay := !isLocal }

/-- `finish_display`, when the manager goes. -/
def finishDisplay (d : Nat) : WithCalls Displays DisplayCall :=
  let stopped := self.stopGreeterSession d
  if (self.displays[d]?).any fun x => x.status = .managed then
    (stopped.unmanage d).andThen [.finish d]
  else stopped.finish d

/-- The end of `remove_user_session`, for the display of the session. -/
def finishUnlessFailed (d : Nat) : WithCalls Displays DisplayCall :=
  if (self.displays[d]?).any fun x => x.status ≠ .failed then self.finish d
  else ⟨self, []⟩

/-! ## Calls -/

/-- A callback of an iteration is called for a display. -/
def callback (callback : StoreCallback) (d : Nat) : WithCalls Displays DisplayCall :=
  match callback with
  | .finishDisplayOnSeatIfWaiting => self.finishDisplayOnSeatIfWaiting d
  | .listifyDisplayIds => ⟨self, []⟩
  | .unexportDisplay => ⟨self, []⟩
  | .finishDisplay => self.finishDisplay d

/-- The entry is removed if the callback says so. -/
def removeIf (predicate : StorePredicate) (d : Nat) : Displays :=
  if (self.storedDisplay d).any (predicate.holds d) then self.storedDisplayFree d else self

/-- A call is made. -/
def exec (call : DisplayCall) : WithCalls Displays DisplayCall :=
  match call with
  | .managerStatusChanged d => self.managerStatusChanged around d
  | .factoryStatusChanged d => self.factoryStatusChanged around d
  | .ensureDisplayForSeat seatId after => self.ensureDisplayForSeat around seatId after
  | .finish d => self.finish d
  | .queueFinish d => ⟨self.queueFinish d, []⟩
  | .finishUnlessFailed d => self.finishUnlessFailed d
  | .createDisplayForUserSession seatId sessionId isLocal =>
    ⟨self.createDisplayForUserSession seatId sessionId isLocal, []⟩
  | .storeRemove d => self.storeForeachRemove around (.removeDisplay d)
  | .storeForeach callback => self.storeForeach around callback
  | .foreach _ [] => ⟨self, []⟩
  | .foreach callback (d :: rest) => (self.callback callback d).andThen [.foreach callback rest]
  | .foreachRemove _ [] => ⟨self, []⟩
  | .foreachRemove predicate (d :: rest) =>
    ⟨self.removeIf predicate d, [.foreachRemove predicate rest]⟩
  | .storeClear => ⟨self.storeClear, []⟩

end Displays

/-- The calls of the daemon. -/
def displayCalls : CallSemantics Displays DisplayCall DisplaySurroundings :=
  fun self call around => self.exec around call

end Gdm
