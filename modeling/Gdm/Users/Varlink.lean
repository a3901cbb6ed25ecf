import Gdm.Users.Exhaustion

/-!
# Telling the system of dynamic users

The system asks for users and for memberships in groups over a socket.  A call is answered
with an error, or with one message for each user; the last message is told to be the last,
so each user is only sent when the next one has been found.
-/

namespace Gdm

/-- `GDM_SERVICE_ID` -/
def gdmServiceId : String := "org.gnome.DisplayManager"

/-- `UID_INVALID` -/
def uidInvalid : Nat := 2 ^ 32 - 1

/-- What `dynamic_user_build_record` has under `record`. -/
structure UserRecord where
  userName : String
  uid : Nat
  gid : Nat
  realName : String
  homeDirectory : String
  shell : String
  service : String
  disposition : String
  deriving DecidableEq, Repr

/-- What `reply_user_group` sends. -/
structure UserGroup where
  userName : String
  groupName : String
  deriving DecidableEq, Repr

/-- A message of a handler: `sd_varlink_notify`, after which more messages follow,
`sd_varlink_reply` and `sd_varlink_error`. -/
inductive VarlinkMessage (ρ : Type)
  | notify (record : ρ)
  | reply (record : ρ)
  | error (name : String)
  deriving DecidableEq, Repr

/-- A call as `libsystemd` has it: `notify` is what goes wrong, if anything, when a message is
to be sent after others. -/
structure SdVarlink (ρ : Type) where
  notify : List ρ → ρ → Option Int := fun _ _ => none

/-- What a handler has sent, and what it returns when it has gone wrong. -/
structure VarlinkAnswer (ρ : Type) where
  messages : List (VarlinkMessage ρ) := []
  failure : Option Int := none
  deriving DecidableEq, Repr

structure GetUserRecordParams where
  uid : Nat := uidInvalid
  username : Option String := none
  service : Option String := none
  deriving DecidableEq, Repr

structure GetMembershipsParams where
  username : Option String := none
  groupname : Option String := none
  service : Option String := none
  deriving DecidableEq, Repr

namespace VarlinkMessage

variable {ρ : Type}

/-- No message comes after it. -/
def isFinal : VarlinkMessage ρ → Bool
  | .notify _ => false
  | .reply _ => true
  | .error _ => true

/-- The record that is told. -/
def record : VarlinkMessage ρ → Option ρ
  | .notify record => some record
  | .reply record => some record
  | .error _ => none

end VarlinkMessage

/-- `"io.systemd.UserDatabase."` and the name of an error. -/
def userDatabaseError (name : String) : String := "io.systemd.UserDatabase." ++ name

namespace DynamicUser

variable (nologinPath : String)

/-- `dynamic_user_build_record` -/
def buildRecord (user : DynamicUser) : UserRecord where
  userName := user.username
  uid := user.uid
  gid := user.gid
  realName := user.displayName
  homeDirectory := user.home
  shell := nologinPath
  service := gdmServiceId
  disposition := "dynamic"

/-- The pair that `reply_user_group` sends. -/
def userGroup (user : DynamicUser) : UserGroup where
  userName := user.username
  groupName := user.group

/-- `test_group_membership`, for a user that is there. -/
def testGroupMembership (user : DynamicUser) (group : Option String) : Bool :=
  group.all fun group => decide (user.group = group)

end DynamicUser

namespace SdVarlink

variable {ρ : Type} (call : SdVarlink ρ) (build : DynamicUser → ρ) (test : DynamicUser → Bool)

/-- The loops of the handlers over the users of the table: a user that passes the test is kept
back until the next one is found.  What has been sent is last. -/
def keepBack : List DynamicUser → Option DynamicUser → List ρ →
    List ρ × Except Int (Option DynamicUser)
  | [], found, sent => (sent, .ok found)
  | next :: rest, found, sent =>
    if test next then
      match found with
      | none => keepBack rest (some next) sent
      | some user =>
        match call.notify sent (build user) with
        | some failure => (sent, .error failure)
        | none => keepBack rest (some next) (sent ++ [build user])
    else keepBack rest found sent

end SdVarlink

namespace GdmDynamicUserStore

variable (nologinPath : String)

/-- What follows in `vl_get_user_record` when a user has been found or not. -/
def answerFound (params : GetUserRecordParams) (found : Option DynamicUser) :
    VarlinkMessage UserRecord :=
  match found with
  | none => .error (userDatabaseError "NoRecordFound")
  | some user =>
    if (params.uid ≠ uidInvalid ∧ params.uid ≠ user.uid) ∨
        params.username.any fun username => username ≠ user.username then
      .error (userDatabaseError "ConflictingRecordFound")
    else .reply (user.buildRecord nologinPath)

/-- `vl_get_user_record`: the store may be gone, and `order` has the users as they come in an
iteration over `by_name`. -/
def vlGetUserRecord (call : SdVarlink UserRecord) (params : GetUserRecordParams)
    (store : Option GdmDynamicUserStore) (order : List DynamicUser) : VarlinkAnswer UserRecord :=
  if params.service ≠ some gdmServiceId then
    { messages := [.error (userDatabaseError "BadService")] }
  else
    match store with
    | none => { failure := some (-125) }
    | some store =>
      if params.uid ≠ uidInvalid then
        { messages := [answerFound nologinPath params (store.byUid.lookup params.uid)] }
      else
        match params.username with
        | some username =>
          { messages := [answerFound nologinPath params (store.byName.lookup username)] }
        | none =>
          match call.keepBack (DynamicUser.buildRecord nologinPath) (fun _ => true) order none []
            with
          | (sent, .error failure) =>
            { messages := sent.map .notify, failure := some failure }
          | (sent, .ok found) =>
            { messages := sent.map .notify ++ [answerFound nologinPath params found] }

/-- `vl_get_memberships` -/
def vlGetMemberships (call : SdVarlink UserGroup) (params : GetMembershipsParams)
    (store : Option GdmDynamicUserStore) (order : List DynamicUser) : VarlinkAnswer UserGroup :=
  if params.service ≠ some gdmServiceId then
    { messages := [.error (userDatabaseError "BadService")] }
  else
    match store with
    | none => { failure := some (-125) }
    | some store =>
      match params.username with
      | some username =>
        match store.byName.lookup username with
        | some user =>
          if user.testGroupMembership params.groupname then
            { messages := [.reply user.userGroup] }
          else { messages := [.error (userDatabaseError "NoRecordFound")] }
        | none => { messages := [.error (userDatabaseError "NoRecordFound")] }
      | none =>
        match call.keepBack DynamicUser.userGroup
            (fun user => user.testGroupMembership params.groupname) order none [] with
        | (sent, .error failure) => { messages := sent.map .notify, failure := some failure }
        | (sent, .ok (some user)) =>
          { messages := sent.map .notify ++ [.reply user.userGroup] }
        | (sent, .ok none) =>
          { messages := sent.map .notify ++ [.error (userDatabaseError "NoRecordFound")] }

end GdmDynamicUserStore

end Gdm
