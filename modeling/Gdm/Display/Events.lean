import Gdm.Display.Functions
import Gdm.Library.EventMachine

/-!
# The main loop

The main loop calls the daemon when all the calls of the callback before have been made.
An event does nothing when its source is not there: a timeout that is not set, a display
without a greeter that could stop.
-/

namespace Gdm

/-- What the main loop calls the daemon for.

`activateGreeter` is SeatNew or SecureAttentionKey of logind.  The sender of
RegisterDisplay and RegisterSession is in a session.  `createDisplay` and
`createRemoteDisplay` are the calls on the factories.  `startUserSession` is the part of
`on_start_user_session` for a session that is not switched to: the user gets a display of
their own. -/
inductive DisplayEvent
  | start (seats : List String)
  | activateGreeter (seatId : String)
  | seatRemoved (seatId : String)
  | canGraphicalChanged (seatId : String)
  | graphicsCheckTimeout
  | uevent
  | vtChanged (vt : Nat)
  | finishWaitingTimeout
  | createDisplay (autologinUser : Option String)
  | createRemoteDisplay (autologinUser remoteHostname : Option String)
  | registerDisplay (sessionId : String)
  | registerSession (sessionId : String)
  | greeterOpened (display : Nat) (sessionId : Option String)
  | greeterGone (display : Nat)
  | finishIdle (display : Nat)
  | purgeDisplays
  | userLoaded (display : Nat)
  | startUserSession (display : Nat) (seatId sessionId : Option String)
    (isLocal automatic : Bool)
  | userSessionEnded (display : Nat)
  | getDisplays
  | dispose
  deriving DecidableEq, Repr

namespace Displays

variable (self : Displays) (around : DisplaySurroundings)

/-- `gdm_local_display_factory_start` and `gdm_local_display_factory_sync_seats` -/
def start (seats : List String) : WithCalls Displays DisplayCall :=
  ⟨{ self with factory := { self.factory with isStarted := true } },
    seats.map fun seat => .ensureDisplayForSeat (some seat) none⟩

/-- `delete_display` -/
def deleteDisplay (seatId : String) : WithCalls Displays DisplayCall :=
  self.storeForeachRemove around (.lookupBySeatId (some seatId))

/-- `on_seat_properties_changed`, for CanGraphical. -/
def onSeatPropertiesChanged (seatId : String) : WithCalls Displays DisplayCall :=
  match around.canGraphical with
  | none => ⟨self, []⟩
  | some true => ⟨self, [.ensureDisplayForSeat (some seatId) none]⟩
  | some false => self.deleteDisplay around seatId

/-- `on_seat0_graphics_check_timeout` -/
def onSeat0GraphicsCheckTimeout : WithCalls Displays DisplayCall :=
  if self.factory.seat0GraphicsCheckTimeout then
    ⟨{ self with factory := { self.factory with
        seat0GraphicsCheckTimeout := false
        seat0GraphicsCheckTimedOut := true } },
      [.ensureDisplayForSeat (some "seat0") none]⟩
  else ⟨self, []⟩

/-- `on_uevent`, for a device that is new or has changed. -/
def onUevent : WithCalls Displays DisplayCall :=
  if self.factory.uevent then
    let (isSettled, settled) := self.udevIsSettled around
    ⟨settled, if isSettled then [.ensureDisplayForSeat (some "seat0") none] else []⟩
  else ⟨self, []⟩

/-- The part of `on_vt_changed` for a VT that is not that of the login window: if the
session on it is registered, the login screen is reaped after a while. -/
def reapLoginScreen (loginWindowVt : Nat) : Displays :=
  if self.factory.activeVt ≠ loginWindowVt then
    let factory := { self.factory with seat0GraphicsCheckTimeout := false }
    let onVt := self.storeFind around fun x => x.sessionId.any fun id => id ∈ around.sessionsOnVt
    if onVt.any fun d => (self.displays[d]?).any fun x => x.sessionRegistered then
      { self with factory := { factory with waitToFinishTimeout := true } }
    else { self with factory := factory }
  else self

/-- The part of `on_vt_changed` for the VT that has been left: the login window on it is
stopped. -/
def leaveLoginWindow (previousVt loginWindowVt : Nat) : WithCalls Displays DisplayCall :=
  let loginWindow := around.loginWindow.bind fun sessionId =>
    self.storeFind around (lookupBySessionId sessionId)
  match loginWindow with
  | some d =>
    if loginWindowVt ≠ 0 ∧ loginWindowVt = previousVt then self.maybeStopGreeterInBackground d
    else ⟨self, []⟩
  | none => ⟨self, []⟩

/-- `on_vt_changed`; the VT of the login window is 0 when there is none.  The handlers of
a status that waits to finish do nothing, so the login window can be stopped last. -/
def onVtChanged (vt : Nat) : WithCalls Displays DisplayCall :=
  let previousVt := self.factory.activeVt
  let changed := { self with factory := { self.factory with activeVt := vt } }
  if vt = previousVt ∨ previousVt = 0 then ⟨changed, []⟩
  else
    let loginWindowVt := if around.loginWindow = none then 0 else around.loginWindowVt
    ((changed.reapLoginScreen around loginWindowVt).leaveLoginWindow around previousVt
      loginWindowVt).andThen <|
        if vt = self.factory.initialVt then [.ensureDisplayForSeat (some "seat0") none] else []

/-- `on_finish_waiting_for_seat0_displays_timeout` -/
def onFinishWaitingTimeout : WithCalls Displays DisplayCall :=
  if self.factory.waitToFinishTimeout then
    ⟨{ self with factory := { self.factory with waitToFinishTimeout := false } },
      [.storeForeach .finishDisplayOnSeatIfWaiting]⟩
  else ⟨self, []⟩

/-- `gdm_manager_handle_register_display` -/
def registerDisplay (sessionId : String) : WithCalls Displays DisplayCall :=
  match self.storeFind around (lookupBySessionId sessionId) with
  | some d => self.setStatusProperty d .managed
  | none => ⟨self, []⟩

/-- `gdm_manager_handle_register_session` -/
def registerSession (sessionId : String) : WithCalls Displays DisplayCall :=
  match self.storeFind around (lookupBySessionId sessionId) with
  | some d => ⟨self.modifyDisplay d fun x => { x with sessionRegistered := true }, []⟩
  | none => ⟨self, []⟩

/-- `on_launch_environment_session_opened` -/
def onGreeterOpened (d : Nat) (sessionId : Option String) : WithCalls Displays DisplayCall :=
  if (self.displays[d]?).any fun x => x.launchEnvironment = some .started then
    ⟨self.modifyDisplay d fun x => { x with sessionId := sessionId }, []⟩
  else ⟨self, []⟩

/-- `on_launch_environment_session_stopped`, `_exited` and `_died` -/
def onGreeterGone (d : Nat) : WithCalls Displays DisplayCall :=
  if (self.displays[d]?).any fun x => x.launchEnvironment = some .started then
    self.selfDestruct d
  else ⟨self, []⟩

/-- `finish_idle` -/
def onFinishIdle (d : Nat) : WithCalls Displays DisplayCall :=
  if (self.displays[d]?).any fun x => x.finishIdle then self.finish d else ⟨self, []⟩

/-- `purge_displays` -/
def onPurgeDisplays : WithCalls Displays DisplayCall :=
  if self.factory.purgeDisplays then
    { self with factory := { self.factory with purgeDisplays := false } }.storeForeachRemove
      around .purgeDisplay
  else ⟨self, []⟩

/-- `on_user_is_loaded_changed` -/
def onUserLoaded (d : Nat) : WithCalls Displays DisplayCall :=
  if d ∈ self.lookups then
    let loaded := { self with lookups := self.lookups.erase d }
    if around.automaticLogin = .userNonexistent then loaded.setUpGreeterSession around d
    else ⟨loaded, []⟩
  else ⟨self, []⟩

/-- `on_start_user_session`, for the display `d` of a session on a seat.  A login that is
automatic and has no client leaves the display of the greeter unused. -/
def onStartUserSession (d : Nat) (seatId sessionId : Option String) (isLocal automatic : Bool) :
    WithCalls Displays DisplayCall :=
  let closed :=
    if (self.displays[d]?).any fun x => x.doingInitialSetup then
      self.setStatusProperty d .waitingToFinish
    else ⟨self, []⟩
  closed.andThen
    (.createDisplayForUserSession seatId sessionId isLocal ::
      if automatic then [.storeRemove d] else [])

/-- `remove_user_session`, for the display of the session. -/
def onUserSessionEnded (d : Nat) : WithCalls Displays DisplayCall :=
  (self.unmanage d).andThen [.finishUnlessFailed d]

/-- `gdm_manager_dispose`, after the factory has been stopped. -/
def dispose : WithCalls Displays DisplayCall :=
  ⟨{ self with factory := { self.factory with isStarted := false } },
    [.storeForeach .unexportDisplay, .storeForeach .finishDisplay, .storeClear]⟩

/-- The callback for an event. -/
def handleEvent (event : DisplayEvent) : WithCalls Displays DisplayCall :=
  match event with
  | .start seats => self.start seats
  | .activateGreeter seatId => ⟨self, [.ensureDisplayForSeat (some seatId) none]⟩
  | .seatRemoved seatId => self.deleteDisplay around seatId
  | .canGraphicalChanged seatId => self.onSeatPropertiesChanged around seatId
  | .graphicsCheckTimeout => self.onSeat0GraphicsCheckTimeout
  | .uevent => self.onUevent around
  | .vtChanged vt => self.onVtChanged around vt
  | .finishWaitingTimeout => self.onFinishWaitingTimeout
  | .createDisplay autologinUser => self.createDisplay around
      { seatId := some "seat0", allowTimedLogin := false, autologinUser := autologinUser }
  | .createRemoteDisplay autologinUser remoteHostname => self.createDisplay around
      { isRemoteDisplay := true, isLocal := false, remoteHostname := remoteHostname
        autologinUser := autologinUser }
  | .registerDisplay sessionId => self.registerDisplay around sessionId
  | .registerSession sessionId => self.registerSession around sessionId
  | .greeterOpened d sessionId => self.onGreeterOpened d sessionId
  | .greeterGone d => self.onGreeterGone d
  | .finishIdle d => self.onFinishIdle d
  | .purgeDisplays => self.onPurgeDisplays around
  | .userLoaded d => self.onUserLoaded around d
  | .startUserSession d seatId sessionId isLocal automatic =>
    self.onStartUserSession d seatId sessionId isLocal automatic
  | .userSessionEnded d => self.onUserSessionEnded d
  | .getDisplays => ⟨self, [.storeForeach .listifyDisplayIds]⟩
  | .dispose => self.dispose

/-- A step of the process: an event, or the next call. -/
inductive Step
  | event (event : DisplayEvent)
  | call
  deriving DecidableEq, Repr

/-- The main loop gets an event when no call is to be made. -/
def step (c : WithCalls Displays DisplayCall) : Step × DisplaySurroundings →
    WithCalls Displays DisplayCall
  | (.call, around) => displayCalls.next c around
  | (.event event, around) => match c.calls with
    | [] => c.state.handleEvent around event
    | _ :: _ => c

/-- Nothing has been created, and the initial VT is `vt`. -/
def initially (vt : Nat) : WithCalls Displays DisplayCall :=
  ⟨{ factory := { initialVt := vt } }, []⟩

/-- The displays are driven by the events of the main loop. -/
def machine : EventMachine (WithCalls Displays DisplayCall) (Step × DisplaySurroundings) where
  Start c := ∃ vt, c = initially vt
  step := step

variable {self around} {c : WithCalls Displays DisplayCall}

/-- A step does nothing, or handles an event when all calls have been made, or makes the
first call. -/
theorem step_cases (c : WithCalls Displays DisplayCall) (input : Step × DisplaySurroundings) :
    machine.step c input = c ∨
      (∃ event around, input = (.event event, around) ∧ c.calls = [] ∧
        machine.step c input = c.state.handleEvent around event) ∨
      ∃ call rest around, input = (.call, around) ∧ c.calls = call :: rest ∧
        machine.step c input = (c.state.exec around call).andThen rest := by
  obtain ⟨state, calls⟩ := c
  rcases input with ⟨event | _, around⟩
  · cases calls with
    | nil => exact .inr (.inl ⟨event, around, rfl, rfl, rfl⟩)
    | cons call rest => exact .inl rfl
  · cases calls with
    | nil => exact .inl rfl
    | cons call rest => exact .inr (.inr ⟨call, rest, around, rfl, rfl, rfl⟩)

/-- An event, met with what is usual. -/
def happens (event : DisplayEvent) (around : DisplaySurroundings := {}) :
    Step × DisplaySurroundings :=
  (.event event, around)

/-- The first `n` calls are made. -/
def calls (n : Nat) (around : DisplaySurroundings := {}) : List (Step × DisplaySurroundings) :=
  List.replicate n (.call, around)

end Displays

end Gdm
