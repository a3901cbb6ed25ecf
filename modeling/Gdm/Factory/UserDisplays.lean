import Gdm.Library.EventMachine
import Mathlib.Data.Finmap

/-!
# The displays of users

Both display factories create a display for a user on request, and destroy it again.  The
class they share has a hash table of the users for whom this has been done, which is looked
at and changed between steps that may fail.
-/

namespace Gdm

/-- The classes of display factories. -/
inductive FactoryClass
  | local
  | remote
  deriving DecidableEq, Repr

/-- The errors of the two methods, with their domains: `GDM_DISPLAY_ERROR_GENERAL`,
`G_IO_ERROR_FAILED` and `G_DBUS_ERROR_FAILED`. -/
inductive UserDisplayError
  | general (message : String)
  | ioFailed (message : String)
  | dbusFailed (message : String)
  deriving DecidableEq, Repr

/-- What the rest of the system answers while a request is handled. -/
structure UserDisplayOutcomes where
  /-- `polkit_authority_get_sync` -/
  authority : Except String Unit := .ok ()
  /-- `polkit_authority_check_authorization_sync` -/
  authorized : Except String Bool := .ok true
  /-- `gdm_get_pwent_for_name` -/
  pwent : Bool := true
  /-- `find_graphical_sessions` -/
  graphicalSessions : Option (List String) := some []
  /-- `gdm_display_prepare` -/
  prepares : Bool := true
  /-- `g_bus_get_sync` -/
  systemBus : Except String Unit := .ok ()
  /-- `gdm_terminate_session_by_id` -/
  terminates : String → Bool := fun _ => true

inductive UserDisplayMethod
  | createUserDisplay
  | destroyUserDisplay
  deriving DecidableEq, Repr

structure UserDisplayRequest where
  method : UserDisplayMethod
  user : String
  outcomes : UserDisplayOutcomes

/-- What a `GdmDisplayFactory` has to do with users.  The values of the table are pointers,
and `none` is `NULL`; `autologinUsers` is of the displays that have been put in the store. -/
structure GdmDisplayFactory where
  displayCreationUsers : Finmap fun _ : String => Option Unit := ∅
  autologinUsers : List String := []

/-- `gdm_find_graphical_sessions_for_username` -/
def findGraphicalSessionsForUsername (outcomes : UserDisplayOutcomes) (username : String) :
    Except UserDisplayError (List String) :=
  if outcomes.pwent then
    match outcomes.graphicalSessions with
    | some sessions => .ok sessions
    | none => .error (.ioFailed ("Couldn't find sessions for username " ++ username))
  else .error (.ioFailed ("Couldn't get pw entry for username " ++ username))

namespace GdmDisplayFactory

variable (self : GdmDisplayFactory)

/-- `GDM_DISPLAY_FACTORY_MANAGE_DISPLAYS_POLKIT_ACTION` -/
def manageDisplaysPolkitAction : String :=
  "org.gnome.displaymanager.displayfactory.manage-user-displays"

/-- `gdm_display_factory_authorize_manage_user_displays` -/
def authorizeManageUserDisplays (outcomes : UserDisplayOutcomes) :
    Except UserDisplayError Unit :=
  match outcomes.authority with
  | .error message => .error (.general ("Error getting polkit authority: " ++ message))
  | .ok _ =>
    match outcomes.authorized with
    | .error message => .error (.general ("Failed to check authorization: " ++ message))
    | .ok false => .error (.general ("Not authorized for action " ++ manageDisplaysPolkitAction))
    | .ok true => .ok ()

/-- `gdm_display_factory_on_user_display_creation` -/
def onUserDisplayCreation (outcomes : UserDisplayOutcomes) (user : String) :
    GdmDisplayFactory × Except UserDisplayError Unit :=
  -- what is looked up is the value, which is not there or `NULL`
  if (self.displayCreationUsers.lookup user).join ≠ none then
    (self, .error (.general ("A display for user " ++ user ++ " has already been created")))
  else
    match findGraphicalSessionsForUsername outcomes user with
    | .error error => (self, .error error)
    | .ok (_ :: _) =>
      (self, .error (.general ("There's already an opened session for user " ++ user)))
    | .ok [] =>
      ({ self with displayCreationUsers := self.displayCreationUsers.insert user none }, .ok ())

/-- The sessions are terminated one by one, until one is not. -/
def terminateSessions (outcomes : UserDisplayOutcomes) : List String → Except UserDisplayError Unit
  | [] => .ok ()
  | session :: sessions =>
    if outcomes.terminates session then terminateSessions outcomes sessions
    else .error (.general ("Failed to terminate session " ++ session))

/-- `gdm_display_factory_on_user_display_destruction` -/
def onUserDisplayDestruction (outcomes : UserDisplayOutcomes) (user : String) :
    GdmDisplayFactory × Except UserDisplayError Unit :=
  if (self.displayCreationUsers.lookup user).isNone then
    (self, .error (.general ("A display for user " ++ user ++ " wasn't created")))
  else
    let removed :=
      { self with displayCreationUsers := self.displayCreationUsers.erase user }
    match findGraphicalSessionsForUsername outcomes user with
    | .error error => (removed, .error error)
    | .ok [] => (removed, .error (.general ("There's no display for user " ++ user)))
    | .ok (session :: sessions) =>
      match outcomes.systemBus with
      | .error message => (removed, .error (.general ("Failed getting system bus " ++ message)))
      | .ok _ => (removed, terminateSessions outcomes (session :: sessions))

/-- What `handle_create_user_display` answers when a display is not prepared: the one of the
local factory, and that of the remote factory. -/
def preparationError : FactoryClass → UserDisplayError
  | .local => .general "Failed preparing display"
  | .remote => .dbusFailed "Error creating remote display"

/-- `gdm_local_display_factory_create_display`, and the one of the remote factory. -/
def createDisplay (cls : FactoryClass) (outcomes : UserDisplayOutcomes) (autologinUser : String) :
    GdmDisplayFactory × Except UserDisplayError Unit :=
  let stored := { self with autologinUsers := self.autologinUsers ++ [autologinUser] }
  if outcomes.prepares then (stored, .ok ()) else (stored, .error (preparationError cls))

/-- `handle_create_user_display` -/
def handleCreateUserDisplay (cls : FactoryClass) (outcomes : UserDisplayOutcomes)
    (user : String) : GdmDisplayFactory × Except UserDisplayError Unit :=
  match self.onUserDisplayCreation outcomes user with
  | (factory, .error error) => (factory, .error error)
  | (factory, .ok _) => factory.createDisplay cls outcomes user

/-- `handle_destroy_user_display` -/
def handleDestroyUserDisplay (outcomes : UserDisplayOutcomes) (user : String) :
    GdmDisplayFactory × Except UserDisplayError Unit :=
  self.onUserDisplayDestruction outcomes user

/-- A request is authorized, in `on_authorize_method`, before its handler has it. -/
def answer (cls : FactoryClass) (request : UserDisplayRequest) :
    GdmDisplayFactory × Except UserDisplayError Unit :=
  match authorizeManageUserDisplays request.outcomes with
  | .error error => (self, .error error)
  | .ok _ =>
    match request.method with
    | .createUserDisplay => self.handleCreateUserDisplay cls request.outcomes request.user
    | .destroyUserDisplay => self.handleDestroyUserDisplay request.outcomes request.user

end GdmDisplayFactory

/-! ## The machine -/

/-- A request that has been answered without an error. -/
structure UserDisplayRecord where
  method : UserDisplayMethod
  user : String
  deriving DecidableEq, Repr

/-- A factory, with the requests that have succeeded; the newest is the first. -/
structure UserDisplays where
  factory : GdmDisplayFactory := {}
  succeeded : List UserDisplayRecord := []

namespace UserDisplays

def step (cls : FactoryClass) (self : UserDisplays) (request : UserDisplayRequest) :
    UserDisplays :=
  match self.factory.answer cls request with
  | (factory, .ok _) =>
    { factory := factory
      succeeded := { method := request.method, user := request.user } :: self.succeeded }
  | (factory, .error _) => { self with factory := factory }

/-- A factory of the class from its creation on. -/
def machine (cls : FactoryClass) : EventMachine UserDisplays UserDisplayRequest where
  Start self := self = {}
  step := step cls

/-- The creations of a user that have succeeded and have not been followed by a destruction
that has. -/
def outstanding (user : String) : List UserDisplayRecord → Nat
  | [] => 0
  | record :: earlier =>
    if record.user = user then
      match record.method with
      | .createUserDisplay => outstanding user earlier + 1
      | .destroyUserDisplay => 0
    else outstanding user earlier

end UserDisplays

end Gdm
