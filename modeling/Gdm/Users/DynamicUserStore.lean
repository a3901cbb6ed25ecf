import Gdm.Choice.Files
import Gdm.Library.EventMachine
import Mathlib.Data.Finmap

/-!
# Dynamic users

A greeter runs as a user that exists only as long as it is needed.  With userdb its number
is picked from a range and told to the system; without, the user has to be in the password
database, and only the number is looked up.  The store has each user in two hash tables,
by name and by number.
-/

namespace Gdm

structure DynamicUser where
  username : String
  displayName : String
  home : String
  group : String
  uid : Nat
  gid : Nat
  deriving DecidableEq, Repr

/-- What is decided when the program is built. -/
structure UserdbConfig where
  haveUserdb : Bool := true
  greeterUidMin : Nat := 60578
  greeterUidMax : Nat := 60705
  ordered : greeterUidMin ≤ greeterUidMax := by decide
  dynHomeDir : String := "/run/gdm/home"

/-- `struct _GdmDynamicUserStore` -/
structure GdmDynamicUserStore where
  byName : Finmap fun _ : String => DynamicUser := ∅
  byUid : Finmap fun _ : Nat => DynamicUser := ∅
  nextAlloc : Nat

/-- What the system knows and does while a user is created. -/
structure UserDatabase where
  /-- `gdm_get_pwent_for_uid` -/
  pwentForUid : Nat → Bool := fun _ => false
  /-- `gdm_get_pwent_for_name`, with the number of the user -/
  pwentForName : String → Option Nat := fun _ => none
  /-- `gdm_get_grent_for_name` -/
  grentForName : String → Option (String × Nat) := fun name => some (name, 120)
  /-- `gdm_ensure_dir` for a user, or what it says has gone wrong -/
  ensureDir : String → Nat → Except String Unit := fun _ _ => .ok ()

/-- `GDM_DYNAMIC_USER_STORE_ERROR`, and the errors of `gdm_ensure_dir`. -/
inductive DynamicUserError
  | noFreeUid (message : String)
  | noSuchGroup (message : String)
  | ensureDir (message : String)
  deriving DecidableEq, Repr

/-- The parameters of `gdm_dynamic_user_store_create`. -/
structure UserRequest where
  preferredUsername : String
  displayName : String
  memberOf : String
  deriving DecidableEq, Repr

namespace UserdbConfig

/-- `GREETER_UID_COUNT` -/
def greeterUidCount (config : UserdbConfig) : Nat :=
  config.greeterUidMax - config.greeterUidMin + 1

end UserdbConfig

namespace GdmDynamicUserStore

variable (config : UserdbConfig) (store : GdmDynamicUserStore)

/-- The number is taken. -/
def alreadyUsed (database : UserDatabase) (uid : Nat) : Bool :=
  (store.byUid.lookup uid).isSome || database.pwentForUid uid

/-- The number after this one; the range starts again at its end. -/
def following (uid : Nat) : Nat :=
  if uid < config.greeterUidMax then uid + 1 else config.greeterUidMin

/-- The loop of `pick_uid`: it ends when it is back at `start`.  The last argument bounds
the rounds. -/
def pickUidFrom (database : UserDatabase) (start : Nat) :
    Nat → GdmDynamicUserStore → GdmDynamicUserStore × Option Nat
  | 0, store => (store, none)
  | rounds + 1, store =>
    let next := { store with nextAlloc := following config store.nextAlloc }
    if store.alreadyUsed database store.nextAlloc then
      if next.nextAlloc = start then (next, none) else pickUidFrom database start rounds next
    else (next, some store.nextAlloc)

/-- `pick_uid` -/
def pickUid (database : UserDatabase) (username : String) :
    GdmDynamicUserStore × Except DynamicUserError Nat :=
  if config.haveUserdb then
    match pickUidFrom config database store.nextAlloc config.greeterUidCount store with
    | (picked, some uid) => (picked, .ok uid)
    | (picked, none) => (picked, .error (.noFreeUid "No free UID found for dynamic user"))
  else
    match database.pwentForName username with
    | some uid => (store, .ok uid)
    | none =>
      (store, .error (.noFreeUid
        ("User '" ++ username ++ "' not preallocated and system lacks userdb")))

/-- The names of `pick_username`: the one that is preferred, and those with a number. -/
def candidates (preferred : String) : List String :=
  preferred :: (List.range (config.greeterUidCount - 1)).map fun i =>
    preferred ++ "-" ++ toString (i + 2)

/-- `pick_username`; when all names are taken the process is aborted. -/
def pickUsername (preferred : String) : Option String :=
  (candidates config preferred).find? fun name => (store.byName.lookup name).isNone

/-- A user goes into both tables. -/
def insertUser (user : DynamicUser) : GdmDynamicUserStore :=
  { store with
    byName := store.byName.insert user.username user
    byUid := store.byUid.insert user.uid user }

/-- The part of `gdm_dynamic_user_store_create` after the name has been picked. -/
def createNamed (database : UserDatabase) (request : UserRequest) (username : String) :
    GdmDynamicUserStore × Except DynamicUserError DynamicUser :=
  match store.pickUid config database username with
  | (picked, .error error) => (picked, .error error)
  | (picked, .ok uid) =>
    match database.grentForName request.memberOf with
    | none =>
      (picked, .error (.noSuchGroup ("Group '" ++ request.memberOf ++ "' doesn't exist")))
    | some (group, gid) =>
      let home := buildFilename config.dynHomeDir username
      match database.ensureDir home uid with
      | .error message => (picked, .error (.ensureDir message))
      | .ok _ =>
        let user : DynamicUser :=
          { username := username
            displayName := request.displayName
            home := home
            group := group
            uid := uid
            gid := gid }
        (picked.insertUser user, .ok user)

/-- `gdm_dynamic_user_store_create`: `none` when the process is aborted. -/
def create (database : UserDatabase) (request : UserRequest) :
    Option (GdmDynamicUserStore × Except DynamicUserError DynamicUser) :=
  (store.pickUsername config request.preferredUsername).map
    (store.createNamed config database request)

/-- `gdm_dynamic_user_store_remove`, with `dynamic_user_free`: the process is aborted
rather than that a home directory of the system is deleted. -/
def remove (uid : Nat) : Option GdmDynamicUserStore :=
  match store.byUid.lookup uid with
  | none => some store
  | some user =>
    if user.home = "/" ∨ user.home.startsWith "/home" then none
    else
      some { store with
        byUid := store.byUid.erase uid
        byName := store.byName.erase user.username }

end GdmDynamicUserStore

/-! ## The machine -/

/-- What is asked of the store. -/
inductive UserStoreEvent
  | create (database : UserDatabase) (request : UserRequest)
  | remove (uid : Nat)

/-- A store with the process it is in. -/
structure UserStoreProcess where
  store : GdmDynamicUserStore
  aborted : Bool := false

namespace UserStoreProcess

variable (config : UserdbConfig)

def step (self : UserStoreProcess) (event : UserStoreEvent) : UserStoreProcess :=
  if self.aborted then self
  else
    match event with
    | .create database request =>
      match self.store.create config database request with
      | none => { self with aborted := true }
      | some (store, _) => { self with store := store }
    | .remove uid =>
      match self.store.remove uid with
      | none => { self with aborted := true }
      | some store => { self with store := store }

/-- `gdm_dynamic_user_store_init` -/
def init : UserStoreProcess :=
  { store := { nextAlloc := config.greeterUidMin } }

/-- The store from its creation on. -/
def machine : EventMachine UserStoreProcess UserStoreEvent where
  Start self := self = init config
  step := step config

end UserStoreProcess

end Gdm
