import Gdm.Manager.State

/-!
# Displays, sessions and their references

How the manager ties displays and sessions together and what becomes of them when
nothing refers to them any more.  A display holds a reference to the session that
its `gdm-user-session` points to, and the destroy notify of this data,
`clean_user_session`, clears the pointer of the session; the `gdm-display` of a
session holds no reference.  What a display is told to do, like to start its
greeter, leads to other events and is left out.
-/

namespace Gdm

/-- Nothing refers to the session, neither the manager and its displays nor a
conversation of its own. -/
def ManagedSession.isUnreferenced (s : ManagedSession) : Bool :=
  s.refs = 0 && s.session.conversations.isEmpty && !s.disposed

/-- `gdm_session_dispose`, and the end of the object data. -/
def ManagedSession.dispose (s : ManagedSession) : ManagedSession :=
  { s with
    session := s.session.step (.owner .close, {})
    gdmDisplay := none
    userSession := none
    disposed := true }

namespace GdmManager

/-! ## References to sessions -/

def refSession (self : GdmManager) (k : Nat) : GdmManager :=
  self.modifySession k fun s => { s with refs := s.refs + 1 }

def disposeIfUnreferenced (self : GdmManager) (k : Nat) : GdmManager :=
  self.modifySession k fun s => if s.isUnreferenced then s.dispose else s

/-- The end of a session that nothing refers to.  One for reauthentication holds a
reference to a user session, and a user session to none. -/
def collectSession (self : GdmManager) (k : Nat) : GdmManager :=
  match self.sessions[k]? with
  | none => self
  | some s =>
    match if s.isUnreferenced then s.userSession else none with
    | none => self.disposeIfUnreferenced k
    | some j =>
      ((self.disposeIfUnreferenced k).modifySession j fun s =>
        { s with refs := s.refs - 1 }).disposeIfUnreferenced j

/-- `g_object_unref`, for a session. -/
def unrefSession (self : GdmManager) (k : Nat) : GdmManager :=
  (self.modifySession k fun s => { s with refs := s.refs - 1 }).collectSession k

/-! ## The session of a display -/

/-- `clean_user_session` -/
def cleanUserSession (self : GdmManager) (k : Nat) : GdmManager :=
  (self.modifySession k fun s => { s with gdmDisplay := none }).unrefSession k

/-- `g_object_set_data_full` for `gdm-user-session` of a display: the session that
was there before is cleaned after the new one is in its place. -/
def setUserSession (self : GdmManager) (d : Nat) (session : Option Nat) : GdmManager :=
  let placed := self.modifyDisplay d fun x => { x with userSession := session }
  match self.getUserSessionForDisplay d with
  | none => placed
  | some old => placed.cleanUserSession old

/-- `create_user_session_for_display`: the display can be `NULL`. -/
def createUserSessionForDisplay (self : GdmManager) (around : ManagerSurroundings)
    (display : Option Nat) (allowedUser : Nat) : GdmManager :=
  let properties :=
    (display.bind fun d => self.displays[d]?).getD ({ isLocal := false } : GdmDisplay)
  let session : ManagedSession :=
    { session := .new .userSession properties.remoteHostname none properties.seatId
        properties.isLocal
      allowedUser := allowedUser
      serverAddress := around.serverAddress
      remoteId := if properties.isRemoteDisplay then properties.remoteId else none
      gdmDisplay := display }
  let created := { self with sessions := self.sessions ++ [session] }
  match display with
  | none => created
  | some d => created.setUserSession d (some self.sessions.length)

/-- `create_display_for_user_session`, for a session that has no display: the
reference that the new display is created with is never dropped. -/
def createDisplayForUserSession (self : GdmManager) (k : Nat) (sessionId : Option String) :
    GdmManager :=
  match self.sessions[k]? with
  | none => self
  | some s =>
    let isLocal := s.session.displayIsLocal
    let display : GdmDisplay :=
      { isRemoteDisplay := !isLocal
        remoteId := if isLocal then none else s.remoteId
        remoteHostname := if isLocal then none else s.session.displayHostname
        isLocal := isLocal
        seatId := s.session.displaySeatId
        sessionId := sessionId
        sessionClass := "user"
        userSession := some k
        stored := true
        refs := 2 }
    { self with displays := self.displays ++ [display] }.modifySession k fun s =>
      { s with gdmDisplay := some self.displays.length, refs := s.refs + 1 }

/-! ## The end of a display -/

/-- The end of a display that nothing refers to: its data go with it, and so does the
weak pointer to it. -/
def disposeDisplay (self : GdmManager) (d : Nat) : GdmManager :=
  { self with automaticLoginDisplay := self.automaticLoginDisplay.filter (· ≠ d) }.setUserSession
    d none

/-- `g_object_unref`, for a display. -/
def unrefDisplay (self : GdmManager) (d : Nat) : GdmManager :=
  match self.displays[d]? with
  | none => self
  | some x =>
    (if x.refs = 1 then self.disposeDisplay d else self).modifyDisplay d fun x =>
      { x with refs := x.refs - 1 }

/-- `gdm_display_store_remove`, with `on_display_removed`. -/
def removeDisplay (self : GdmManager) (d : Nat) : GdmManager :=
  match self.displays[d]? with
  | none => self
  | some x =>
    if x.stored then
      (self.modifyDisplay d fun x => { x with stored := false }).unrefDisplay d
    else self

/-- `on_display_status_changed` for a display that has failed, is no longer managed
or has finished. -/
def onDisplayEnded (self : GdmManager) (d : Nat) : GdmManager :=
  let cleaned := self.setUserSession d none
  if self.automaticLoginDisplay = some d then
    { cleaned with automaticLoginDisplay := none, didAutomaticLogin := true }
  else cleaned

/-- A status that ends a display: the manager is told when it changes. -/
def setEndStatus (self : GdmManager) (d : Nat) (status : GdmDisplayStatus) : GdmManager :=
  match self.displays[d]? with
  | none => self
  | some x =>
    if x.status = status then self
    else
      let changed := self.modifyDisplay d fun x => { x with status := status }
      if x.stored then changed.onDisplayEnded d else changed

/-- `gdm_display_unmanage` -/
def unmanageDisplay (self : GdmManager) (d : Nat) : GdmManager :=
  match self.displays[d]? with
  | none => self
  | some x => self.setEndStatus d (if x.sessionRegistered then .unmanaged else .failed)

/-- `gdm_display_finish` -/
def finishDisplay (self : GdmManager) (d : Nat) : GdmManager :=
  self.setEndStatus d .finished

end GdmManager

end Gdm
