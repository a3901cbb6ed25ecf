import Mathlib.Data.List.Basic

/-!
# What the worker asks of PAM and of the system

PAM, the passwd database, the consoles and `fork` are outside the worker.  What
they answer during one dispatch of the main loop is an `Outcomes` record, which
the events of the worker carry; nothing is assumed about the answers.
-/

namespace Gdm

/-- The PAM return codes the worker tells apart. -/
inductive PamCode
  | success
  | ignore
  | newAuthtokReqd
  | authinfoUnavail
  | moduleUnknown
  | maxtries
  | userUnknown
  | authErr
  | acctExpired
  | authtokExpired
  | systemErr
  | abort
  | other (code : Nat)
  deriving DecidableEq, Repr

/-- The values `worker->cred_flags` takes; `unset` is the zero it starts with. -/
inductive CredFlags
  | unset
  | establishCred
  | reinitializeCred
  | deleteCred
  deriving DecidableEq, Repr

/-- The PAM calls of the worker that need a handle or make one. -/
inductive PamCall
  | start
  | authenticate (disallowNullAuthtok : Bool)
  | acctMgmt (disallowNullAuthtok : Bool)
  | chauthtok
  | setcred (flags : CredFlags)
  | openSession (silent : Bool)
  | closeSession
  | pamEnd
  deriving DecidableEq, Repr

/-- One answer of `pam_get_item (PAM_USER)`: `none` when the call fails,
`some none` when no user is set. -/
abbrev UserItem := Option (Option String)

/-- How a PAM call goes: before it returns its code it may send any number of
messages through the conversation function, which looks up `PAM_USER` first at
each of them. -/
structure PamReply where
  userItems : List UserItem := []
  code : PamCode := .success
  deriving DecidableEq, Repr

/-- What the outside answers during one dispatch of the worker's main loop. -/
structure Outcomes where
  startCode : PamCode := .success
  setUserPromptCode : PamCode := .success
  setRhostCode : PamCode := .success
  authenticate : PamReply := {}
  acctMgmt : PamReply := {}
  chauthtok : PamReply := {}
  setcred : PamReply := {}
  openSession : PamReply := {}
  closeSession : PamReply := {}
  deleteCred : PamReply := {}
  /-- `PAM_USER` after a successful authentication -/
  userItem : UserItem := none
  /-- `_lookup_passwd_info` finds the user -/
  lookupPasswdInfo : Bool := true
  changeUser : Bool := true
  /-- opening the console of the initial VT -/
  openInitialVt : Bool := true
  /-- `VT_OPENQRY` -/
  queryVt : Option Int := some 2
  /-- `XDG_SESSION_ID` in the PAM environment -/
  sessionIdVariable : Option String := none
  /-- the child of `fork`, `none` when it fails -/
  fork : Option Int := some 1000
  /-- the text of `pam_strerror` and `g_strerror` -/
  strerror : String := ""
  deriving DecidableEq, Repr

end Gdm
