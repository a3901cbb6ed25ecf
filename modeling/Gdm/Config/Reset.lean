import Gdm.Config.Configured

/-!
# What a reset undoes

A reset removes the tool's files from the databases, the greeter's profile as a whole, and the
line of the tool's database from the users' profile.  That leaves the files as they were before
the first command, unless the greeter's profile had lines of its own, or the tool had to make a
profile for the users, which stays.
-/

namespace Gdm.Config

namespace Env

variable {env : Env} {before files after : Dconf} {set : Bool}

/-- What there is after a reset, told from what there was before the first command. -/
structure IsReset (env : Env) (before : Dconf) (set : Bool) (after : Dconf) : Prop where
  databases : KeepsDatabases (env.configuredDbs before set) before after
  keyFiles : ∀ dbName ∈ env.configuredDbs before set,
    after.keyFiles (dbName, gdmConfigDconfOverrideName) = none
  lockFiles : ∀ dbName ∈ env.configuredDbs before set,
    after.lockFiles (dbName, gdmConfigDconfLocksName) = none
  gdmProfile : after.profiles env.gdmConfigDconfProfile = none
  profiles : env.configuredDbName before set ≠ some dconfSystemDbDefaultName →
    ∀ path, path ≠ env.gdmConfigDconfProfile → after.profiles path = before.profiles path
  ownLine : env.getSystemDconfProfileDbName before = some dconfSystemDbDefaultName →
    ∃ path, gdmSysDb ∈ before.profileLines path ∧ gdmSysDb ∉ after.profileLines path
  systemProfile : set → env.getSystemDconfProfileDbName before = none →
    after.profiles env.configurableSystemProfile =
        some (writeArrayToFile (env.configurableLines before)) ∧
      ∀ path, path ≠ env.gdmConfigDconfProfile → path ≠ env.configurableSystemProfile →
        after.profiles path = before.profiles path

/-- The login settings are given up in the greeter's database only. -/
theorem Configured.resetAuthType (h : env.Configured before set files)
    (hprofile : env.getDconfSystemProfile ≠ gdmDconfProfile) (authType : GdmAuthType) :
    env.Configured before set (env.resetAuthType files authType) := by
  have hgdm : gdmDconfProfile ∈ env.configuredDbs before set := gdmDconfProfile_mem_configuredDbs
  have hkeeps :=
    (writeSystemSettingToDb_keeps hgdm loginSchema authType.optionKey none files).trans
      (env.setDconfSettingLockFull_keeps hgdm loginSchema authType.optionKey false _)
  exact h.keeps hprofile hkeeps fun path _ => by simp [Env.resetAuthType]

theorem removeSettingFiles_keyFiles (dbName other : String) (files : Dconf) :
    (removeSettingFiles dbName files).keyFiles (other, gdmConfigDconfOverrideName) =
      if other = dbName then none
      else files.keyFiles (other, gdmConfigDconfOverrideName) := by
  simp [removeSettingFiles, Dconf.setKeyFile, Function.update_apply]

theorem removeSettingFiles_lockFiles (dbName other : String) (files : Dconf) :
    (removeSettingFiles dbName files).lockFiles (other, gdmConfigDconfLocksName) =
      if other = dbName then none
      else files.lockFiles (other, gdmConfigDconfLocksName) := by
  simp [removeSettingFiles, Dconf.setLockFile, Function.update_apply]

theorem removeSystemDb_of_ne
    (h : env.getSystemDconfProfileDbName files ≠ some dconfSystemDbDefaultName) :
    env.removeSystemDb files = files :=
  if_neg h

/-- The line of the tool's database leaves the users' profile. -/
theorem removeSystemDb_of_eq
    (h : env.getSystemDconfProfileDbName files = some dconfSystemDbDefaultName) :
    ∃ path, env.getDconfSystemProfileFile files = some path ∧
      gdmSysDb ∈ files.profileLines path ∧
      env.removeSystemDb files = files.setProfile path
        (some (writeArrayToFile ((files.profileLines path).filter (· ≠ gdmSysDb)))) := by
  cases hfile : env.getDconfSystemProfileFile files with
  | none => simp [getSystemDconfProfileDbName, getSystemDconfProfileContents, hfile] at h
  | some path =>
    have hmem : gdmSysDb ∈ files.profileLines path :=
      (dbName_eq_default_iff (by simp [getSystemDconfProfileContents, hfile])).mp h
    exact ⟨path, rfl, hmem, by simp [removeSystemDb, h, hfile, hmem]⟩

variable (env) in
theorem removeSystemDb_keeps (dbs : Set String) (files : Dconf) :
    KeepsDatabases dbs files (env.removeSystemDb files) := by
  by_cases h : env.getSystemDconfProfileDbName files = some dconfSystemDbDefaultName
  · obtain ⟨path, -, -, hremove⟩ := removeSystemDb_of_eq h
    rw [hremove]
    exact .setProfile path _
  · rw [removeSystemDb_of_ne h]
    exact .refl dbs files

/-- The files at the end of a reset, from those that are still configured. -/
def removed (env : Env) (files : Dconf) : Dconf :=
  let systemDbName := env.getSystemDconfProfileDbName files
  let files := env.removeSystemDb files
  let files := systemDbName.elim files (removeSettingFiles · files)
  (removeSettingFiles gdmDconfProfile files).setProfile env.gdmConfigDconfProfile none

/-- A reset first takes the settings back one by one, which keeps the files configured. -/
theorem Configured.handleReset (h : env.Configured before set files)
    (hprofile : env.getDconfSystemProfile ≠ gdmDconfProfile) {yes : Bool}
    {replies : List String} (hreset : env.handleReset yes replies files = some after) :
    ∃ configured, env.Configured before set configured ∧ after = env.removed configured := by
  rw [Env.handleReset] at hreset
  split_ifs at hreset
  obtain ⟨configured, htoggle, hupdate⟩ := Option.bind_eq_some_iff.mp hreset
  refine ⟨configured, ?_, updateDconf_eq_some hupdate⟩
  have hpassword := h.resetAuthType hprofile .password
  have hfingerprint := hpassword.resetAuthType hprofile .fingerprint
  have hsmartcard := hfingerprint.resetAuthType hprofile .smartcard
  simpa using hsmartcard.toggleSmartcardSettings hprofile htoggle

section

variable (h : env.Configured before set files)
  (hprofile : env.getDconfSystemProfile ≠ gdmDconfProfile)

theorem removed_profiles {path : String × String} (hpath : path ≠ env.gdmConfigDconfProfile) :
    (env.removed files).profiles path = (env.removeSystemDb files).profiles path := by
  rw [removed, Dconf.setProfile_profiles, Function.update_of_ne hpath,
    removeSettingFiles_profiles]
  cases env.getSystemDconfProfileDbName files with
  | none => rfl
  | some dbName => rfl

include h hprofile

theorem Configured.removed_databases :
    KeepsDatabases (env.configuredDbs before set) before (env.removed files) := by
  have hfiles := h.databases.trans (removeSystemDb_keeps env _ files)
  have hsystem : KeepsDatabases (env.configuredDbs before set) before
      ((env.getSystemDconfProfileDbName files).elim (env.removeSystemDb files)
        (removeSettingFiles · (env.removeSystemDb files))) := by
    cases hname : env.getSystemDconfProfileDbName files with
    | none => exact hfiles
    | some dbName =>
      rw [h.dbName hprofile] at hname
      exact hfiles.trans (removeSettingFiles_keeps (.inr hname) _)
  exact (hsystem.trans (removeSettingFiles_keeps gdmDconfProfile_mem_configuredDbs _)).trans
    (.setProfile _ _)

theorem Configured.removed_files {dbName : String}
    (hmem : dbName ∈ env.configuredDbs before set) :
    (env.removed files).keyFiles (dbName, gdmConfigDconfOverrideName) = none ∧
      (env.removed files).lockFiles (dbName, gdmConfigDconfLocksName) = none := by
  simp only [removed, Dconf.setProfile_keyFiles, Dconf.setProfile_lockFiles,
    removeSettingFiles_keyFiles, removeSettingFiles_lockFiles]
  by_cases hgdm : dbName = gdmDconfProfile
  · simp [hgdm]
  · have hname : env.getSystemDconfProfileDbName files = some dbName :=
      (h.dbName hprofile).trans (hmem.resolve_left hgdm)
    simp [hgdm, hname, removeSettingFiles_keyFiles, removeSettingFiles_lockFiles]

/-- Where the tool's database was there before the first command, its line is lost. -/
theorem Configured.removed_ownLine
    (hname : env.getSystemDconfProfileDbName before = some dconfSystemDbDefaultName) :
    ∃ path, gdmSysDb ∈ before.profileLines path ∧
      gdmSysDb ∉ (env.removed files).profileLines path := by
  have hfilesName : env.getSystemDconfProfileDbName files = some dconfSystemDbDefaultName := by
    rw [h.dbName hprofile, configuredDbName, hname]
    rfl
  obtain ⟨path, hfile, hmem, hremove⟩ := removeSystemDb_of_eq hfilesName
  have hpath : path ≠ env.gdmConfigDconfProfile := by
    have hne := dconfSystemProfile_ne hprofile path.1
    rwa [← getDconfSystemProfileFile_snd hfile] at hne
  refine ⟨path, ?_, ?_⟩
  · rwa [Dconf.profileLines_congr (h.profiles_eq (by simp [hname]) hpath)] at hmem
  · have hafter : (env.removed files).profiles path =
        some (writeArrayToFile ((files.profileLines path).filter (· ≠ gdmSysDb))) := by
      rw [removed_profiles hpath, hremove, Dconf.setProfile_profiles, Function.update_self]
    rw [Dconf.profileLines_of_eq_some hafter, readFileContentsToArray_writeArrayToFile]
    intro hmem
    have hfiltered := (List.rdropWhile_prefix isTrailing _).subset hmem
    simp at hfiltered

/-- The lines that the tool found, or made, for its database are those that it leaves. -/
theorem Configured.removed_systemProfile (hset : set = true)
    (hname : env.getSystemDconfProfileDbName before = none) :
    (env.removed files).profiles env.configurableSystemProfile =
        some (writeArrayToFile (env.configurableLines before)) ∧
      ∀ path, path ≠ env.gdmConfigDconfProfile → path ≠ env.configurableSystemProfile →
        (env.removed files).profiles path = before.profiles path := by
  have hsystem := h.systemProfile
  rw [if_pos ⟨hset, hname⟩] at hsystem
  have hlines : files.profileLines env.configurableSystemProfile =
      env.configurableLines before ++ [gdmSysDb] := by
    rw [Dconf.profileLines_of_eq_some hsystem, readFileContentsToArray_writeArrayToFile,
      readFileContentsToArray_concat isTrailing_gdmSysDb]
  have hfilesName : env.getSystemDconfProfileDbName files = some dconfSystemDbDefaultName := by
    simp [h.dbName hprofile, configuredDbName, hname, hset]
  obtain ⟨path, hfile, -, hremove⟩ := removeSystemDb_of_eq hfilesName
  obtain rfl : env.configurableSystemProfile = path := by
    rw [getDconfSystemProfileFile_of_isSome (by simp [hsystem])] at hfile
    exact Option.some.inj hfile
  have hfilter : (env.configurableLines before ++ [gdmSysDb]).filter (· ≠ gdmSysDb) =
      env.configurableLines before := by
    rw [List.filter_append, List.filter_eq_self.mpr]
    · simp
    · intro line hline
      have hne : line ≠ gdmSysDb :=
        ne_of_mem_of_not_mem hline (gdmSysDb_notMem_configurableLines hname)
      simpa using hne
  rw [hlines, hfilter] at hremove
  constructor
  · rw [removed_profiles (configurableSystemProfile_ne hprofile), hremove,
      Dconf.setProfile_profiles, Function.update_self]
  · intro path hgdm hpath
    rw [removed_profiles hgdm, hremove, Dconf.setProfile_profiles, Function.update_of_ne hpath]
    exact h.profiles path hgdm hpath

/-- What a reset leaves of files that are still configured. -/
theorem Configured.isReset : env.IsReset before set (env.removed files) where
  databases := h.removed_databases hprofile
  keyFiles _ hmem := (h.removed_files hprofile hmem).1
  lockFiles _ hmem := (h.removed_files hprofile hmem).2
  gdmProfile := by simp [removed]
  profiles hname path hpath := by
    rw [removed_profiles hpath, removeSystemDb_of_ne (by rwa [h.dbName hprofile])]
    apply h.profiles_eq _ hpath
    rintro ⟨hset, hbefore⟩
    exact hname (by simp [configuredDbName, hset, hbefore])
  ownLine := h.removed_ownLine hprofile
  systemProfile := h.removed_systemProfile hprofile

end

end Env

/-- No key and no lock is in the files of a database that the tool writes. -/
structure Dconf.HoldsNothing (files : Dconf) (dbName : String) : Prop where
  setting : ∀ key, files.setting (dbName, gdmConfigDconfOverrideName) key = none
  locks : files.locks (dbName, gdmConfigDconfLocksName) = []

theorem Dconf.HoldsNothing.of_eq_none {files : Dconf} {dbName : String}
    (hkeyFile : files.keyFiles (dbName, gdmConfigDconfOverrideName) = none)
    (hlockFile : files.lockFiles (dbName, gdmConfigDconfLocksName) = none) :
    files.HoldsNothing dbName where
  setting key := by rw [Dconf.setting, hkeyFile, Option.bind_none]
  locks := by rw [Dconf.locks, hlockFile]

namespace Env

variable {env : Env} {before files after : Dconf} {commands : List Command}
  {database : String → Option String}

/-- The databases that dconf takes from the users' profile, by what it takes from a line. -/
def dconfDatabases (env : Env) (database : String → Option String) (files : Dconf) :
    Option (List String) :=
  (env.getSystemDconfProfileContents files).map (·.filterMap database)

/-- The databases that some commands write to. -/
def commandDbs (env : Env) (before : Dconf) (commands : List Command) : Set String :=
  env.configuredDbs before (commands.any Command.setsRemovalAction)

/-- Nothing is left of some commands: nothing in the files of the tool, no line of its database
in the users' profile, and all else as before. -/
structure Undone (env : Env) (database : String → Option String) (before : Dconf)
    (commands : List Command) (after : Dconf) : Prop where
  holdsNothing : ∀ dbName ∈ env.commandDbs before commands, after.HoldsNothing dbName
  gdmSysDb : ∀ lines, env.getSystemDconfProfileContents after = some lines → gdmSysDb ∉ lines
  setting : ∀ path key, after.setting path key = before.setting path key
  locks : ∀ path, after.locks path = before.locks path
  profileLines : ∀ path, after.profileLines path = before.profileLines path
  dconfDatabases : env.dconfDatabases database after = env.dconfDatabases database before

/-- When a reset undoes some commands.  The users' profile is not that of the greeter, which the
commands rewrite while they look the system database up in it.  The greeter's profile has no
line of its own.  The files and the database that the tool adds were not there, and where it
has to add its database, there is a profile that it can add it to. -/
structure UndoneWhen (env : Env) (before : Dconf) (commands : List Command) : Prop where
  dconfSystemProfile : env.getDconfSystemProfile ≠ gdmDconfProfile
  gdmProfile : before.profileLines env.gdmConfigDconfProfile = []
  holdsNothing : ∀ dbName ∈ env.commandDbs before commands, before.HoldsNothing dbName
  dbName : env.getSystemDconfProfileDbName before ≠ some dconfSystemDbDefaultName
  systemProfile : env.getSystemDconfProfileDbName before = none →
    commands.any Command.setsRemovalAction → (before.profiles env.configurableSystemProfile).isSome

section

variable (h : env.IsReset before (commands.any Command.setsRemovalAction) after)

include h

theorem IsReset.holdsNothing {dbName : String} (hmem : dbName ∈ env.commandDbs before commands) :
    after.HoldsNothing dbName :=
  .of_eq_none (h.keyFiles dbName hmem) (h.lockFiles dbName hmem)

/-- The keys are as before where the tool's files held none. -/
theorem IsReset.setting
    (hbefore : ∀ dbName ∈ env.commandDbs before commands, before.HoldsNothing dbName)
    (path key : String × String) : after.setting path key = before.setting path key := by
  obtain ⟨dbName, fileName⟩ := path
  by_cases hown : dbName ∈ env.commandDbs before commands ∧ fileName = gdmConfigDconfOverrideName
  · obtain ⟨hmem, rfl⟩ := hown
    rw [(h.holdsNothing hmem).setting key, (hbefore dbName hmem).setting key]
  · rw [Dconf.setting, Dconf.setting, h.databases.keyFiles dbName fileName (not_and.mp hown)]

/-- And so are the locks. -/
theorem IsReset.locks
    (hbefore : ∀ dbName ∈ env.commandDbs before commands, before.HoldsNothing dbName)
    (path : String × String) : after.locks path = before.locks path := by
  obtain ⟨dbName, fileName⟩ := path
  by_cases hown : dbName ∈ env.commandDbs before commands ∧ fileName = gdmConfigDconfLocksName
  · obtain ⟨hmem, rfl⟩ := hown
    rw [(h.holdsNothing hmem).locks, (hbefore dbName hmem).locks]
  · rw [Dconf.locks, Dconf.locks, h.databases.lockFiles dbName fileName (not_and.mp hown)]

/-- The users' profile is left alone, or what there was is written back. -/
theorem IsReset.profiles_cases (hwhen : env.UndoneWhen before commands) :
    (∀ path, path ≠ env.gdmConfigDconfProfile → after.profiles path = before.profiles path) ∨
    ∃ content, before.profiles env.configurableSystemProfile = some content ∧
      after.profiles env.configurableSystemProfile =
        some (writeArrayToFile (readFileContentsToArray content)) ∧
      ∀ path, path ≠ env.gdmConfigDconfProfile → path ≠ env.configurableSystemProfile →
        after.profiles path = before.profiles path := by
  by_cases hname : env.configuredDbName before (commands.any Command.setsRemovalAction) =
      some dconfSystemDbDefaultName
  · obtain ⟨hbefore, hset⟩ : env.getSystemDconfProfileDbName before = none ∧
        commands.any Command.setsRemovalAction = true := by
      rw [configuredDbName, Option.or_eq_some_iff] at hname
      obtain hown | ⟨hnone, hset⟩ := hname
      · exact absurd hown hwhen.dbName
      · exact ⟨hnone, by simpa using hset⟩
    obtain ⟨hsystem, hothers⟩ := h.systemProfile hset hbefore
    obtain ⟨content, hcontent⟩ := Option.isSome_iff_exists.mp (hwhen.systemProfile hbefore hset)
    refine .inr ⟨content, hcontent, ?_, hothers⟩
    rw [hsystem, configurableLines, hcontent]
  · exact .inl (h.profiles hname)

/-- The profiles but the greeter's have the lines that they had. -/
theorem IsReset.profileLines (hwhen : env.UndoneWhen before commands) {path : String × String}
    (hgdm : path ≠ env.gdmConfigDconfProfile) :
    after.profileLines path = before.profileLines path := by
  obtain hprofiles | ⟨content, hbefore, hafter, hothers⟩ := h.profiles_cases hwhen
  · exact Dconf.profileLines_congr (hprofiles path hgdm)
  · by_cases hsystem : path = env.configurableSystemProfile
    · rw [hsystem, Dconf.profileLines_of_eq_some hafter, Dconf.profileLines_of_eq_some hbefore]
      simp
    · exact Dconf.profileLines_congr (hothers path hgdm hsystem)

/-- The users' profile has the lines that it had. -/
theorem IsReset.contents (hwhen : env.UndoneWhen before commands) :
    env.getSystemDconfProfileContents after = env.getSystemDconfProfileContents before := by
  obtain hprofiles | ⟨content, hbefore, hafter, -⟩ := h.profiles_cases hwhen
  · exact getSystemDconfProfileContents_congr fun dir =>
      hprofiles _ (dconfSystemProfile_ne hwhen.dconfSystemProfile dir)
  · rw [getSystemDconfProfileContents_of_eq_some hafter,
      getSystemDconfProfileContents_of_eq_some hbefore]
    simp

/-- Where the condition holds, a reset undoes the commands. -/
theorem IsReset.undone (hwhen : env.UndoneWhen before commands) :
    env.Undone database before commands after where
  holdsNothing _ hmem := h.holdsNothing hmem
  gdmSysDb lines hlines hmem := by
    rw [h.contents hwhen] at hlines
    exact hwhen.dbName ((dbName_eq_default_iff hlines).mpr hmem)
  setting := h.setting hwhen.holdsNothing
  locks := h.locks hwhen.holdsNothing
  profileLines path := by
    by_cases hgdm : path = env.gdmConfigDconfProfile
    · rw [hgdm, hwhen.gdmProfile, Dconf.profileLines_of_eq_none h.gdmProfile]
    · exact h.profileLines hwhen hgdm
  dconfDatabases := by
    rw [dconfDatabases, dconfDatabases, h.contents hwhen]

/-- Where a reset undoes the commands, the condition holds. -/
theorem IsReset.undoneWhen (hprofile : env.getDconfSystemProfile ≠ gdmDconfProfile)
    (hundone : env.Undone database before commands after) : env.UndoneWhen before commands where
  dconfSystemProfile := hprofile
  gdmProfile := by
    rw [← hundone.profileLines, Dconf.profileLines_of_eq_none h.gdmProfile]
  holdsNothing dbName hmem := by
    have hholds := hundone.holdsNothing dbName hmem
    exact ⟨fun key => by rw [← hundone.setting, hholds.setting],
      by rw [← hundone.locks, hholds.locks]⟩
  dbName hname := by
    obtain ⟨path, hbefore, hafter⟩ := h.ownLine hname
    rw [hundone.profileLines] at hafter
    exact hafter hbefore
  systemProfile hname hset := by
    by_contra hnone
    rw [Bool.not_eq_true, Option.isSome_eq_false_iff, Option.isNone_iff_eq_none] at hnone
    have hafter := hundone.profileLines env.configurableSystemProfile
    rw [Dconf.profileLines_of_eq_some (h.systemProfile hset hname).1,
      Dconf.profileLines_of_eq_none hnone, readFileContentsToArray_writeArrayToFile,
      readFileContentsToArray_configurableLines] at hafter
    simp [configurableLines, hnone] at hafter

end

/-- A reset undoes the commands before it when the condition holds, and only then where the
users' profile is not that of the greeter, whatever dconf takes from a line of a profile. -/
theorem handleReset_undoes (database : String → Option String) {configured : Dconf} {yes : Bool}
    {replies : List String} (hcommands : env.handleCommands commands before = some configured)
    (hreset : env.handleReset yes replies configured = some after) :
    (env.UndoneWhen before commands → env.Undone database before commands after) ∧
      (env.getDconfSystemProfile ≠ gdmDconfProfile → env.Undone database before commands after →
        env.UndoneWhen before commands) := by
  have hisReset (hprofile : env.getDconfSystemProfile ≠ gdmDconfProfile) :
      env.IsReset before (commands.any Command.setsRemovalAction) after := by
    have hconfigured := (Configured.refl env before).handleCommands hprofile hcommands
    rw [Bool.false_or] at hconfigured
    obtain ⟨files, hfiles, rfl⟩ := hconfigured.handleReset hprofile hreset
    exact hfiles.isReset hprofile
  constructor
  · intro hwhen
    exact (hisReset hwhen.dconfSystemProfile).undone hwhen
  · intro hprofile hundone
    exact (hisReset hprofile).undoneWhen hprofile hundone

end Env

/-- `gdm-config smartcard --removal-action=lock-screen` -/
def lockScreen : Command where
  authType := .smartcard
  options := { removalAction := some "lock-screen" }

/-- The profiles as they are shipped, and one for the users in the directory `dir`. -/
def shippedFiles (dir : String) (userProfile : Content) : Dconf where
  profiles path :=
    if path = ("/usr/share", "gdm") then
      some ["user-db:user", "file-db:/usr/share/gdm/greeter-dconf-defaults", ""]
    else if path = (dir, "user") then some userProfile
    else none

/-- The administrator has given the users a database of the site. -/
def siteFiles : Dconf := shippedFiles "/etc" ["user-db:user", "system-db:site", ""]

/-- A package has the profile of the users, and no system database in it. -/
def packagedFiles : Dconf :=
  shippedFiles "/usr/share" ["user-db:user", "service-db:keyfile/user", ""]

theorem handleReset_undoes_siteFiles :
    ∃ configured after,
      Env.handleCommands {} [lockScreen] siteFiles = some configured ∧
      Env.handleReset {} true [] configured = some after ∧
      Env.Undone {} profileDatabase siteFiles [lockScreen] after := by
  refine ⟨_, _, rfl, rfl,
    (@Env.handleReset_undoes {} siteFiles _ [lockScreen] profileDatabase _ true [] rfl rfl).1 ?_⟩
  have hdbName : Env.getSystemDconfProfileDbName {} siteFiles = some "site" := by
    decide +kernel
  constructor
  · decide
  · decide +kernel
  · exact fun dbName _ => .of_eq_none rfl rfl
  · rw [hdbName]
    decide
  · intro hnone
    rw [hdbName] at hnone
    cases hnone

/-- The profile that the tool makes for the users of `packagedFiles` stays in the place of
theirs. -/
theorem handleReset_packagedFiles :
    (∀ dbName, packagedFiles.HoldsNothing dbName) ∧
    ∃ configured after,
      Env.handleCommands {} [lockScreen] packagedFiles = some configured ∧
      Env.handleReset {} true [] configured = some after ∧
      Env.dconfDatabases {} profileDatabase after = some ["user-db:user"] ∧
      ¬Env.Undone {} profileDatabase packagedFiles [lockScreen] after := by
  refine ⟨fun _ => .of_eq_none rfl rfl, _, _, rfl, rfl, by decide +kernel, ?_⟩
  intro hundone
  exact absurd hundone.dconfDatabases (by decide +kernel)

end Gdm.Config
