import Gdm.Library.Environ

/-!
# The environment of a session

`gdm-x-session` and `gdm-wayland-session` start the session that they are for.  It gets their own
environment, with what they have imported from the user's systemd instance, and with what they
have set up for it themselves.
-/

namespace Gdm

open Environ

/-- What `spawn_session` uses of the `State` of either program. -/
structure WrapperState where
  environment : Option Environ := none
  busAddress : Option (List Char) := none

/-- What the X program has as well: the server that it has started, and its auth file, if one
could be prepared. -/
structure XWrapperState extends WrapperState where
  displayName : List Char
  authFile : Option (List Char)

namespace WrapperState

def path : List Char := "PATH".toList
def display : List Char := "DISPLAY".toList
def xauthority : List Char := "XAUTHORITY".toList
def waylandDisplay : List Char := "WAYLAND_DISPLAY".toList
def waylandSocket : List Char := "WAYLAND_SOCKET".toList
def dbusSessionBusAddress : List Char := "DBUS_SESSION_BUS_ADDRESS".toList
def xdgVtnr : List Char := "XDG_VTNR".toList
def windowpath : List Char := "WINDOWPATH".toList

/-- `session_variables` -/
def sessionVariables : List (List Char) :=
  [display, xauthority, waylandDisplay, waylandSocket]

/-- `fallback_variables` -/
def fallbackVariables : List (List Char) :=
  [path]

/-- `g_subprocess_launcher_setenv`, which does nothing for what is not a name. -/
def launcherSetenv (envp : Environ) (name value : List Char) (overwrite : Bool) : Environ :=
  if IsName name then setenv name value overwrite envp else envp

/-- `g_strsplit` at the first equals sign: what is before it, and what is behind it. -/
def gStrsplitEquals (text : List Char) : List Char × Option (List Char) :=
  (text.takeWhile (· ≠ '='), (text.dropWhile (· ≠ '=')).tail?)

/-- What is done with one text of the imported environment. -/
def importEntry (envp : Environ) (text : List Char) : Environ :=
  if text = [] then envp
  else
    match gStrsplitEquals text with
    | (_, none) => envp
    | (name, some value) => launcherSetenv envp name value (name ∈ fallbackVariables)

/-- The variables that name something of the session and are not in the environment of the
program itself are dropped. -/
def dropSessionVariables (own envp : Environ) : Environ :=
  sessionVariables.foldl
    (fun envp name => if getenv own name = none then unsetenv envp name else envp) envp

/-- The first part of `spawn_session`, with the environment of the program. -/
def mergeEnvironment (self : WrapperState) (own : Environ) : Environ :=
  match self.environment with
  | none => own
  | some environment => dropSessionVariables own (environment.foldl importEntry own)

/-- A variable is set if there is a value for it; `g_subprocess_launcher_setenv` refuses `NULL`. -/
def setIfGiven (envp : Environ) (name : List Char) (value : Option (List Char)) : Environ :=
  match value with
  | none => envp
  | some value => launcherSetenv envp name value true

/-- The environment that `spawn_session` of `gdm-wayland-session` starts the session with. -/
def spawnSession (self : WrapperState) (own : Environ) : Environ :=
  setIfGiven (self.mergeEnvironment own) dbusSessionBusAddress self.busAddress

end WrapperState

open WrapperState

/-- The environment that `spawn_session` of `gdm-x-session` starts the session with. -/
def XWrapperState.spawnSession (self : XWrapperState) (own : Environ) : Environ :=
  let envp := self.mergeEnvironment own
  let envp := launcherSetenv envp display self.displayName true
  let envp := setIfGiven envp xauthority self.authFile
  let envp := setIfGiven envp dbusSessionBusAddress self.busAddress
  setIfGiven envp windowpath (getenv own xdgVtnr)

namespace WrapperState

/-! ## What is asked of it -/

end WrapperState

end Gdm
