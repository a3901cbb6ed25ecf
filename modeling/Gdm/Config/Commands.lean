import Gdm.Config.Dconf

/-!
# The commands of gdm-config

`gdm-config` writes each setting to a database that the greeter's profile names, and locks it
there.  The action on the removal of a smartcard is of the users' sessions as well, so that it is
written to a database of the users' profile too; where that profile has no database for it, the
tool adds one.  `reset` takes all this back.
-/

namespace Gdm.Config

def gdmDconfProfile : String := "gdm"
def gdmConfigDconfDb : String := dconfSystemDbPrefix ++ gdmDconfProfile
def gdmConfigDconfOverrideName : String := "01_gdm-config"
def gdmConfigDconfLocksName : String := gdmConfigDconfOverrideName ++ "-locks"
def dconfSystemDbDefaultName : String := "gdm_auth_config"

/-- `gdm_sys_db` -/
def gdmSysDb : String := dconfSystemDbPrefix ++ dconfSystemDbDefaultName

def loginSchema : String := "org.gnome.login-screen"
def gsdScSchema : String := "org.gnome.settings-daemon.peripherals.smartcard"
def gsdScRemovalActionKey : String := "removal-action"

def scRemovalActions : List String := ["none", "lock-screen", "force-logout", "user-defined"]

inductive GdmAuthType
  | password
  | fingerprint
  | smartcard
  deriving DecidableEq, Repr

/-- `auth_type_to_option_key` -/
def GdmAuthType.optionKey : GdmAuthType → String
  | .password => "enable-password-authentication"
  | .fingerprint => "enable-fingerprint-authentication"
  | .smartcard => "enable-smartcard-authentication"

/-- The options on the command line. -/
structure Options where
  help : Bool := false
  verbose : Bool := false
  debug : Bool := false
  enable : Bool := false
  disable : Bool := false
  required : Bool := false
  removalAction : Option String := none
  deriving DecidableEq, Repr

/-- A command that configures a way to authenticate. -/
structure Command where
  authType : GdmAuthType
  options : Options
  deriving DecidableEq, Repr

inductive GdmAuthAction
  | unset
  | invalid
  | enabled
  | disabled
  | required
  deriving DecidableEq, Repr

/-- `get_requested_action` -/
def Options.requestedAction (options : Options) : GdmAuthAction :=
  if options.enable && options.disable then .invalid
  else if options.required && options.disable then .invalid
  else if options.required then .required
  else if options.enable then .enabled
  else if options.disable then .disabled
  else .unset

/-- Whether anything follows the name of the command. -/
def Options.given (options : Options) : Bool :=
  options.help || options.verbose || options.debug || options.enable || options.disable ||
    options.required || options.removalAction.isSome

/-- Whether the parser takes the options: `toggle_option_check` and `smartcard_option_check`, and
the entries that a command has. -/
def Command.parses (command : Command) : Bool :=
  let options := command.options
  options.given && options.requestedAction != .invalid &&
    match command.authType with
    | .smartcard => options.removalAction.all (· ∈ scRemovalActions)
    | .password | .fingerprint => !options.required && options.removalAction.isNone

/-- What `try_run_distro_hook` fails with where there is no hook: no distribution is known, or it
has no such program. -/
inductive HookError
  | notFound
  | invalidData
  deriving DecidableEq, Repr

/-- Where the tool runs. -/
structure Env where
  sysconfig : String := "/etc"
  systemDataDirs : List String := ["/usr/local/share", "/usr/share"]
  /-- `GDM_DEFAULT_DCONF_PROFILE` -/
  gdmDefaultDconfProfile : String × String := ("/usr/share", gdmDconfProfile)
  /-- `$DCONF_PROFILE` -/
  dconfProfile : Option String := none
  prgname : String := "gdm-config"
  distro : String := "none"
  isRoot : Bool := true
  havePamModule : GdmAuthType → Bool := fun _ => true
  /-- Whether `dconf update` succeeds. -/
  dconfUpdates : Dconf → Bool := fun _ => true

/-- `schema_to_key` -/
def schemaToKey (schema : String) : String :=
  String.ofList (schema.toList.map fun c => if c = '.' then '/' else c)

namespace Env

variable (env : Env)

/-! ## The profiles -/

/-- `GDM_CONFIG_DCONF_PROFILE` -/
def gdmConfigDconfProfile : String × String := (env.sysconfig, gdmDconfProfile)

/-- `get_dconf_system_profile` -/
def getDconfSystemProfile : String :=
  env.dconfProfile.getD "user"

/-- The profile in the directory that the tool may write. -/
def configurableSystemProfile : String × String := (env.sysconfig, env.getDconfSystemProfile)

/-- `get_dconf_system_profile_file` -/
def getDconfSystemProfileFile (files : Dconf) : Option (String × String) :=
  ((env.sysconfig :: env.systemDataDirs).map (·, env.getDconfSystemProfile)).find?
    fun path => (files.profiles path).isSome

/-- `get_system_dconf_profile_contents` -/
def getSystemDconfProfileContents (files : Dconf) : Option (List String) :=
  (env.getDconfSystemProfileFile files).map files.profileLines

/-- `get_system_dconf_profile_db_name` -/
def getSystemDconfProfileDbName (files : Dconf) : Option String :=
  (env.getSystemDconfProfileContents files).bind
    (findDbName (some dconfSystemDbDefaultName) none)

/-- `ensure_dconf_configurable_system_profile` -/
def ensureDconfConfigurableSystemProfile (files : Dconf) : Dconf :=
  let profileFile := env.configurableSystemProfile
  match files.profiles profileFile with
  | none =>
    files.setProfile profileFile (some (writeArrayToFile ["user-db:user", gdmSysDb]))
  | some content =>
    let profileLines := readFileContentsToArray content
    if gdmSysDb ∈ profileLines then files
    else files.setProfile profileFile (some (writeArrayToFile (profileLines ++ [gdmSysDb])))

/-- `ensure_system_user_dconf_profile` -/
def ensureSystemUserDconfProfile (files : Dconf) : Option (String × Dconf) :=
  match env.getSystemDconfProfileDbName files with
  | some dbName => some (dbName, files)
  | none =>
    let files := env.ensureDconfConfigurableSystemProfile files
    (env.getSystemDconfProfileDbName files).map (·, files)

/-- `ensure_gdm_config_dconf_profile` -/
def ensureGdmConfigDconfProfile (files : Dconf) : Option Dconf :=
  if (files.profiles env.gdmConfigDconfProfile).any (gdmConfigDconfDb ∈ ·) then some files
  else
    (files.profiles env.gdmDefaultDconfProfile).map fun defaultContent =>
      files.setProfile env.gdmConfigDconfProfile
        (some (("# This profile is managed by " ++ env.prgname) :: defaultContent ++
          [gdmConfigDconfDb, ""]))

/-! ## Settings and locks -/

/-- `write_dconf_setting_to_key_file` -/
def writeDconfSettingToKeyFile (dbName fileName schema key : String) (value : Option String)
    (files : Dconf) : Dconf :=
  match files.keyFiles (dbName, fileName), value with
  | none, none => files
  | settings, value =>
    files.setKeyFile (dbName, fileName)
      (some (Function.update (settings.getD fun _ => none) (schemaToKey schema, key) value))

/-- `set_dconf_setting_lock_full` -/
def setDconfSettingLockFull (dbName lockName schema key : String) (add : Bool)
    (files : Dconf) : Dconf :=
  match files.lockFiles (dbName, lockName), add with
  | none, false => files
  | content, add =>
    let locksList :=
      match content with
      | none => ["# This file is managed by " ++ env.prgname, "# Do no edit!"]
      | some content => readFileContentsToArray content
    let fullKey := "/" ++ schemaToKey schema ++ "/" ++ key
    if decide (fullKey ∈ locksList) = add then files
    else
      files.setLockFile (dbName, lockName)
        (some (writeArrayToFile
          (if add then locksList ++ [fullKey] else locksList.erase fullKey)))

/-- `write_system_setting_to_db` -/
def writeSystemSettingToDb (dbName schema key : String) (value : Option String)
    (files : Dconf) : Dconf :=
  writeDconfSettingToKeyFile dbName gdmConfigDconfOverrideName schema key value files

/-- `update_dconf` -/
def updateDconf (files : Dconf) : Option Dconf :=
  if env.dconfUpdates files then some files else none

/-- `write_locked_setting_to_db`, before it updates dconf. -/
def writeLockedSettingToDb (dbName schema key : String) (value : Option String)
    (files : Dconf) : Dconf :=
  env.setDconfSettingLockFull dbName gdmConfigDconfLocksName schema key value.isSome
    (writeSystemSettingToDb dbName schema key value files)

/-- `write_locked_system_settings_to_db` -/
def writeLockedSystemSettingsToDb (schema key : String) (value : Option String)
    (files : Dconf) : Option Dconf :=
  match value with
  | some value => do
    let (dbName, files) ← env.ensureSystemUserDconfProfile files
    env.updateDconf (env.writeLockedSettingToDb dbName schema key (some value) files)
  | none =>
    match env.getSystemDconfProfileDbName files with
    | none => some files
    | some dbName => env.updateDconf (env.writeLockedSettingToDb dbName schema key none files)

/-- `write_locked_gdm_settings_to_db` -/
def writeLockedGdmSettingsToDb (authType : GdmAuthType) (value : Bool) (files : Dconf) :
    Option Dconf := do
  let files ← env.ensureGdmConfigDconfProfile files
  env.updateDconf
    (env.writeLockedSettingToDb gdmDconfProfile loginSchema authType.optionKey
      (some (if value then "true" else "false")) files)

/-- `toggle_smartcard_settings`.  A failure in the greeter's database is logged only. -/
def toggleSmartcardSettings (key : String) (value : Option String) (files : Dconf) :
    Option Dconf :=
  env.writeLockedSystemSettingsToDb gsdScSchema key value
    (env.writeLockedSettingToDb gdmDconfProfile gsdScSchema key value files)

/-! ## The commands -/

/-- `try_run_distro_hook`, where there is no hook. -/
def tryRunDistroHook : HookError :=
  if env.distro = "" ∨ env.distro = "none" then .notFound else .invalidData

/-- The value of a removal action, as a `GVariant` prints it.  The users choose it for themselves
where there is none. -/
def removalActionValue (action : String) : Option String :=
  if action = "user-defined" then none else some ("'" ++ action ++ "'")

/-- `handle_smartcard_options` -/
def handleSmartcardOptions (options : Options) (files : Dconf) : Option Dconf :=
  match options.removalAction with
  | none => some files
  | some action =>
    if env.tryRunDistroHook = .notFound then
      env.toggleSmartcardSettings gsdScRemovalActionKey (removalActionValue action) files
    else none

/-- `handle_toggle_command` -/
def handleToggleCommand (authType : GdmAuthType) (options : Options) (files : Dconf) :
    Option Dconf :=
  env.writeLockedGdmSettingsToDb authType (options.requestedAction == .enabled) files

/-- `handle_smartcard` -/
def handleSmartcard (options : Options) (files : Dconf) : Option Dconf := do
  let action := options.requestedAction
  let files ←
    if action = .unset then some files
    else do
      let files ← env.writeLockedGdmSettingsToDb .smartcard
        (action == .required || action == .enabled) files
      env.writeLockedGdmSettingsToDb .password (action != .required) files
  env.handleSmartcardOptions options files

/-- `check_distro_hook_is_required` -/
def checkDistroHookIsRequired (command : Command) : Bool :=
  match command.authType with
  | .smartcard => command.options.enable || command.options.required
  | .password | .fingerprint => false

/-- `handle_config_command`, where there is no hook. -/
def handleConfigCommand (command : Command) : Bool :=
  env.havePamModule command.authType && !checkDistroHookIsRequired command

/-- `handle_command`, for the commands that configure: what there is after it, if it succeeds. -/
def handleCommand (command : Command) (files : Dconf) : Option Dconf :=
  if !command.parses then none
  else if command.options.help then some files
  else if !env.isRoot then none
  else if !env.handleConfigCommand command then none
  else
    match command.authType with
    | .password | .fingerprint => env.handleToggleCommand command.authType command.options files
    | .smartcard => env.handleSmartcard command.options files

/-- The commands one after the other, if all succeed. -/
def handleCommands : List Command → Dconf → Option Dconf
  | [], files => some files
  | command :: commands, files => (env.handleCommand command files).bind (handleCommands commands)

/-! ## Resetting -/

/-- Whether a reset goes on: `--yes` is given, or the first answer that is one says so. -/
def confirms (yes : Bool) (replies : List String) : Bool :=
  yes || (replies.find? (· ∈ ["Y", "y", "N", "n"])).any (· ∈ ["Y", "y"])

/-- What `handle_reset` does for one way to authenticate. -/
def resetAuthType (files : Dconf) (authType : GdmAuthType) : Dconf :=
  env.setDconfSettingLockFull gdmDconfProfile gdmConfigDconfLocksName loginSchema
    authType.optionKey false
    (writeSystemSettingToDb gdmDconfProfile loginSchema authType.optionKey none files)

/-- What `handle_reset` does to the users' profile: while the line of the tool's own database is
found, it is removed. -/
def removeSystemDb (files : Dconf) : Dconf :=
  if env.getSystemDconfProfileDbName files = some dconfSystemDbDefaultName then
    match env.getDconfSystemProfileFile files with
    | none => files
    | some profileFile =>
      let profileContents := files.profileLines profileFile
      if gdmSysDb ∈ profileContents then
        files.setProfile profileFile
          (some (writeArrayToFile (profileContents.filter (· ≠ gdmSysDb))))
      else files
  else files

/-- `remove_dconf_setting_lock` and `remove_dconf_setting_key_file`, for the files of the tool.
The reset only logs a failure of theirs, which is taken to be that there was no file. -/
def removeSettingFiles (dbName : String) (files : Dconf) : Dconf :=
  (files.setLockFile (dbName, gdmConfigDconfLocksName) none).setKeyFile
    (dbName, gdmConfigDconfOverrideName) none

/-- `handle_reset` -/
def handleReset (yes : Bool) (replies : List String) (files : Dconf) : Option Dconf :=
  if !env.isRoot || !confirms yes replies || env.tryRunDistroHook != .notFound then none
  else do
    let files := [GdmAuthType.password, .fingerprint, .smartcard].foldl env.resetAuthType files
    let files ← env.toggleSmartcardSettings gsdScRemovalActionKey none files
    let systemDbName := env.getSystemDconfProfileDbName files
    let files := env.removeSystemDb files
    let files := systemDbName.elim files (removeSettingFiles · files)
    let files := removeSettingFiles gdmDconfProfile files
    env.updateDconf (files.setProfile env.gdmConfigDconfProfile none)

end Env

end Gdm.Config
