import Gdm.Config.Commands

/-!
# What the commands write

The commands write to files of their own in two databases, to the profile of the greeter and,
where the users' profile has no system database, to that one.  Nothing else changes, and which
database is that of the users depends only on whether a removal action was set.
-/

namespace Gdm.Config

/-! ## Databases -/

/-- The files of the databases that are not the tool's own in one of `dbs` are as before. -/
structure KeepsDatabases (dbs : Set String) (before after : Dconf) : Prop where
  keyFiles : ∀ dbName fileName, (dbName ∈ dbs → fileName ≠ gdmConfigDconfOverrideName) →
    after.keyFiles (dbName, fileName) = before.keyFiles (dbName, fileName)
  lockFiles : ∀ dbName fileName, (dbName ∈ dbs → fileName ≠ gdmConfigDconfLocksName) →
    after.lockFiles (dbName, fileName) = before.lockFiles (dbName, fileName)

namespace KeepsDatabases

variable {dbs dbs' : Set String} {before files after : Dconf}

theorem refl (dbs : Set String) (files : Dconf) : KeepsDatabases dbs files files :=
  ⟨fun _ _ _ => rfl, fun _ _ _ => rfl⟩

theorem trans (h : KeepsDatabases dbs before files) (h' : KeepsDatabases dbs files after) :
    KeepsDatabases dbs before after where
  keyFiles dbName fileName hname :=
    (h'.keyFiles dbName fileName hname).trans (h.keyFiles dbName fileName hname)
  lockFiles dbName fileName hname :=
    (h'.lockFiles dbName fileName hname).trans (h.lockFiles dbName fileName hname)

theorem mono (h : KeepsDatabases dbs before after) (hdbs : dbs ⊆ dbs') :
    KeepsDatabases dbs' before after where
  keyFiles dbName fileName hname := h.keyFiles dbName fileName fun hmem => hname (hdbs hmem)
  lockFiles dbName fileName hname := h.lockFiles dbName fileName fun hmem => hname (hdbs hmem)

theorem setProfile (path : String × String) (content : Option Content) :
    KeepsDatabases dbs files (files.setProfile path content) :=
  ⟨fun _ _ _ => rfl, fun _ _ _ => rfl⟩

theorem setKeyFile {dbName : String} (hname : dbName ∈ dbs) (settings : Option Settings) :
    KeepsDatabases dbs files
      (files.setKeyFile (dbName, gdmConfigDconfOverrideName) settings) where
  keyFiles other fileName hother := by
    apply Function.update_of_ne
    rintro ⟨⟩
    exact hother hname rfl
  lockFiles _ _ _ := rfl

theorem setLockFile {dbName : String} (hname : dbName ∈ dbs) (content : Option Content) :
    KeepsDatabases dbs files
      (files.setLockFile (dbName, gdmConfigDconfLocksName) content) where
  keyFiles _ _ _ := rfl
  lockFiles other fileName hother := by
    apply Function.update_of_ne
    rintro ⟨⟩
    exact hother hname rfl

end KeepsDatabases

namespace Env

variable (env : Env) {dbs : Set String}

/-- A key file is left alone or replaced. -/
theorem writeDconfSettingToKeyFile_cases (dbName fileName schema key : String)
    (value : Option String) (files : Dconf) :
    writeDconfSettingToKeyFile dbName fileName schema key value files = files ∨
      ∃ settings, writeDconfSettingToKeyFile dbName fileName schema key value files =
        files.setKeyFile (dbName, fileName) settings := by
  unfold writeDconfSettingToKeyFile
  split
  · exact .inl rfl
  · exact .inr ⟨_, rfl⟩

/-- A lock file is left alone or replaced. -/
theorem setDconfSettingLockFull_cases (dbName lockName schema key : String) (add : Bool)
    (files : Dconf) :
    env.setDconfSettingLockFull dbName lockName schema key add files = files ∨
      ∃ content, env.setDconfSettingLockFull dbName lockName schema key add files =
        files.setLockFile (dbName, lockName) content := by
  unfold setDconfSettingLockFull
  split
  · exact .inl rfl
  · dsimp only
    split_ifs
    · exact .inl rfl
    · exact .inr ⟨_, rfl⟩
    · exact .inr ⟨_, rfl⟩

theorem writeSystemSettingToDb_keeps {dbName : String} (hname : dbName ∈ dbs)
    (schema key : String) (value : Option String) (files : Dconf) :
    KeepsDatabases dbs files (writeSystemSettingToDb dbName schema key value files) := by
  rw [writeSystemSettingToDb]
  obtain h | ⟨settings, h⟩ := writeDconfSettingToKeyFile_cases dbName
    gdmConfigDconfOverrideName schema key value files
  · rw [h]
    exact .refl dbs files
  · rw [h]
    exact .setKeyFile hname settings

theorem setDconfSettingLockFull_keeps {dbName : String} (hname : dbName ∈ dbs)
    (schema key : String) (add : Bool) (files : Dconf) :
    KeepsDatabases dbs files
      (env.setDconfSettingLockFull dbName gdmConfigDconfLocksName schema key add files) := by
  obtain h | ⟨content, h⟩ := env.setDconfSettingLockFull_cases dbName gdmConfigDconfLocksName
    schema key add files
  · rw [h]
    exact .refl dbs files
  · rw [h]
    exact .setLockFile hname content

theorem writeLockedSettingToDb_keeps {dbName : String} (hname : dbName ∈ dbs)
    (schema key : String) (value : Option String) (files : Dconf) :
    KeepsDatabases dbs files (env.writeLockedSettingToDb dbName schema key value files) :=
  (writeSystemSettingToDb_keeps hname schema key value files).trans
    (env.setDconfSettingLockFull_keeps hname schema key value.isSome _)

theorem removeSettingFiles_keeps {dbName : String} (hname : dbName ∈ dbs) (files : Dconf) :
    KeepsDatabases dbs files (removeSettingFiles dbName files) :=
  (KeepsDatabases.setLockFile hname none).trans (.setKeyFile hname none)

@[simp]
theorem writeSystemSettingToDb_profiles (dbName schema key : String) (value : Option String)
    (files : Dconf) :
    (writeSystemSettingToDb dbName schema key value files).profiles = files.profiles := by
  rw [writeSystemSettingToDb]
  obtain h | ⟨settings, h⟩ := writeDconfSettingToKeyFile_cases dbName
    gdmConfigDconfOverrideName schema key value files
  · rw [h]
  · rw [h, Dconf.setKeyFile_profiles]

@[simp]
theorem setDconfSettingLockFull_profiles (dbName lockName schema key : String) (add : Bool)
    (files : Dconf) :
    (env.setDconfSettingLockFull dbName lockName schema key add files).profiles =
      files.profiles := by
  obtain h | ⟨content, h⟩ := env.setDconfSettingLockFull_cases dbName lockName schema key add files
  · rw [h]
  · rw [h, Dconf.setLockFile_profiles]

@[simp]
theorem writeLockedSettingToDb_profiles (dbName schema key : String) (value : Option String)
    (files : Dconf) :
    (env.writeLockedSettingToDb dbName schema key value files).profiles = files.profiles := by
  simp [writeLockedSettingToDb]

@[simp]
theorem removeSettingFiles_profiles (dbName : String) (files : Dconf) :
    (removeSettingFiles dbName files).profiles = files.profiles := rfl

/-! ## The users' profile -/

section

variable {env} {files files' : Dconf}

/-- Files that agree in the users' profiles have the same one. -/
theorem getDconfSystemProfileFile_congr
    (h : ∀ dir, files'.profiles (dir, env.getDconfSystemProfile) =
      files.profiles (dir, env.getDconfSystemProfile)) :
    env.getDconfSystemProfileFile files' = env.getDconfSystemProfileFile files := by
  simp only [getDconfSystemProfileFile, List.find?_map, Function.comp_def, h]

theorem getDconfSystemProfileFile_snd {path : String × String}
    (h : env.getDconfSystemProfileFile files = some path) :
    path.2 = env.getDconfSystemProfile := by
  have hpath := List.mem_of_find?_eq_some h
  obtain ⟨dir, -, rfl⟩ := List.mem_map.mp hpath
  rfl

theorem getSystemDconfProfileContents_congr
    (h : ∀ dir, files'.profiles (dir, env.getDconfSystemProfile) =
      files.profiles (dir, env.getDconfSystemProfile)) :
    env.getSystemDconfProfileContents files' = env.getSystemDconfProfileContents files := by
  rw [getSystemDconfProfileContents, getSystemDconfProfileContents,
    getDconfSystemProfileFile_congr h]
  cases hfile : env.getDconfSystemProfileFile files with
  | none => rfl
  | some path =>
    have hpath : path = (path.1, env.getDconfSystemProfile) :=
      Prod.ext rfl (getDconfSystemProfileFile_snd hfile)
    have hprofile : files'.profiles path = files.profiles path := by
      rw [hpath, h]
    simp [Dconf.profileLines, hprofile]

theorem getDconfSystemProfileFile_of_isSome
    (h : (files.profiles env.configurableSystemProfile).isSome) :
    env.getDconfSystemProfileFile files = some env.configurableSystemProfile := by
  rw [getDconfSystemProfileFile, List.map_cons]
  exact List.find?_cons_of_pos h

theorem getSystemDconfProfileContents_of_eq_some {content : Content}
    (h : files.profiles env.configurableSystemProfile = some content) :
    env.getSystemDconfProfileContents files = some (readFileContentsToArray content) := by
  have hfile : env.getDconfSystemProfileFile files = some env.configurableSystemProfile :=
    getDconfSystemProfileFile_of_isSome (by simp [h])
  rw [getSystemDconfProfileContents, hfile, Option.map_some, Dconf.profileLines_of_eq_some h]

/-- Where the users' profile has no system database, no line of it is the tool's. -/
theorem gdmSysDb_notMem_of_dbName_eq_none {lines : List String}
    (hcontents : env.getSystemDconfProfileContents files = some lines)
    (h : env.getSystemDconfProfileDbName files = none) :
    gdmSysDb ∉ lines := by
  rw [getSystemDconfProfileDbName, hcontents, Option.bind_some, findDbName_eq_none] at h
  intro hmem
  have hnone := h.2 gdmSysDb hmem
  rw [gdmSysDb, systemDbName_append (by decide)] at hnone
  cases hnone

/-- The tool's database is the one that counts where the profile has its line. -/
theorem dbName_eq_default_iff {lines : List String}
    (hcontents : env.getSystemDconfProfileContents files = some lines) :
    env.getSystemDconfProfileDbName files = some dconfSystemDbDefaultName ↔
      gdmSysDb ∈ lines := by
  rw [getSystemDconfProfileDbName, hcontents, Option.bind_some]
  exact findDbName_eq_preferred (by decide) (by simp)

end

/-! ## The commands -/

variable {env}

/-- What the tool adds its database to. -/
def configurableLines (env : Env) (files : Dconf) : List String :=
  match files.profiles env.configurableSystemProfile with
  | none => ["user-db:user"]
  | some content => readFileContentsToArray content

theorem isTrailing_gdmSysDb : isTrailing gdmSysDb = false := by decide +kernel

theorem readFileContentsToArray_configurableLines (env : Env) (files : Dconf) :
    readFileContentsToArray (env.configurableLines files) = env.configurableLines files := by
  rw [configurableLines]
  split
  · exact readFileContentsToArray_concat (by decide +kernel) []
  · exact readFileContentsToArray_idem _

theorem gdmSysDb_notMem_configurableLines {files : Dconf}
    (h : env.getSystemDconfProfileDbName files = none) :
    gdmSysDb ∉ env.configurableLines files := by
  rw [configurableLines]
  split
  · decide +kernel
  · next content hcontent =>
    exact gdmSysDb_notMem_of_dbName_eq_none (getSystemDconfProfileContents_of_eq_some hcontent) h

/-- The system database of the users, once a removal action may have been set. -/
def configuredDbName (env : Env) (files : Dconf) (set : Bool) : Option String :=
  (env.getSystemDconfProfileDbName files).or (if set then some dconfSystemDbDefaultName else none)

/-- The databases that the tool writes to. -/
def configuredDbs (env : Env) (files : Dconf) (set : Bool) : Set String :=
  {dbName | dbName = gdmDconfProfile ∨ env.configuredDbName files set = some dbName}

/-- What commands have made of the files: `set` tells whether a removal action was set. -/
structure Configured (env : Env) (before : Dconf) (set : Bool) (after : Dconf) : Prop where
  databases : KeepsDatabases (env.configuredDbs before set) before after
  profiles : ∀ path, path ≠ env.gdmConfigDconfProfile → path ≠ env.configurableSystemProfile →
    after.profiles path = before.profiles path
  systemProfile : after.profiles env.configurableSystemProfile =
    if set ∧ env.getSystemDconfProfileDbName before = none then
      some (writeArrayToFile (env.configurableLines before ++ [gdmSysDb]))
    else before.profiles env.configurableSystemProfile

section

variable {before files files' : Dconf} {set : Bool}

theorem Configured.refl (env : Env) (files : Dconf) : env.Configured files false files where
  databases := .refl _ files
  profiles _ _ _ := rfl
  systemProfile := by simp

theorem dconfSystemProfile_ne (hprofile : env.getDconfSystemProfile ≠ gdmDconfProfile)
    (dir : String) :
    (dir, env.getDconfSystemProfile) ≠ env.gdmConfigDconfProfile :=
  fun h => hprofile (congrArg Prod.snd h)

theorem configurableSystemProfile_ne
    (hprofile : env.getDconfSystemProfile ≠ gdmDconfProfile) :
    env.configurableSystemProfile ≠ env.gdmConfigDconfProfile :=
  dconfSystemProfile_ne hprofile env.sysconfig

/-- What neither touches the users' profile nor other databases keeps files configured. -/
theorem Configured.keeps (h : env.Configured before set files)
    (hprofile : env.getDconfSystemProfile ≠ gdmDconfProfile)
    (hdatabases : KeepsDatabases (env.configuredDbs before set) files files')
    (hprofiles : ∀ path, path ≠ env.gdmConfigDconfProfile →
      files'.profiles path = files.profiles path) :
    env.Configured before set files' where
  databases := h.databases.trans hdatabases
  profiles path hgdm hsystem := (hprofiles path hgdm).trans (h.profiles path hgdm hsystem)
  systemProfile := by
    rw [hprofiles _ (configurableSystemProfile_ne hprofile), h.systemProfile]

/-- Where no database was added, no profile but the greeter's has changed. -/
theorem Configured.profiles_eq (h : env.Configured before set files)
    (hset : ¬(set ∧ env.getSystemDconfProfileDbName before = none)) {path : String × String}
    (hpath : path ≠ env.gdmConfigDconfProfile) :
    files.profiles path = before.profiles path := by
  by_cases hsystem : path = env.configurableSystemProfile
  · rw [hsystem, h.systemProfile, if_neg hset]
  · exact h.profiles path hpath hsystem

/-- The system database that the users' profile has after some commands. -/
theorem Configured.dbName (h : env.Configured before set files)
    (hprofile : env.getDconfSystemProfile ≠ gdmDconfProfile) :
    env.getSystemDconfProfileDbName files = env.configuredDbName before set := by
  by_cases hset : set ∧ env.getSystemDconfProfileDbName before = none
  · have hsystem := h.systemProfile
    rw [if_pos hset] at hsystem
    have hcontents := getSystemDconfProfileContents_of_eq_some hsystem
    rw [readFileContentsToArray_writeArrayToFile,
      readFileContentsToArray_concat isTrailing_gdmSysDb] at hcontents
    rw [(dbName_eq_default_iff hcontents).mpr (by simp), configuredDbName, hset.2, hset.1]
    rfl
  · have hcontents : env.getSystemDconfProfileContents files =
        env.getSystemDconfProfileContents before :=
      getSystemDconfProfileContents_congr fun dir =>
        h.profiles_eq hset (dconfSystemProfile_ne hprofile dir)
    rw [getSystemDconfProfileDbName, hcontents, ← getSystemDconfProfileDbName, configuredDbName]
    cases hname : env.getSystemDconfProfileDbName before with
    | none =>
      have hunset : set = false := by simpa [hname] using hset
      simp [hunset]
    | some name => rfl

/-- Where there is a system database, a removal action does not change which it is. -/
theorem Configured.set_of_dbName (h : env.Configured before set files) {name : String}
    (hname : env.configuredDbName before set = some name) :
    env.configuredDbName before true = some name ∧ env.Configured before true files := by
  cases set with
  | true => exact ⟨hname, h⟩
  | false =>
    have hbefore : env.getSystemDconfProfileDbName before = some name := by
      simpa [configuredDbName] using hname
    have hset : env.configuredDbName before true = some name := by
      simp [configuredDbName, hbefore]
    refine ⟨hset, ?_, h.profiles, ?_⟩
    · apply h.databases.mono
      rintro dbName (hgdm | hdbName)
      · exact .inl hgdm
      · exact .inr (hset.trans (hname.symm.trans hdbName))
    · simpa [hbefore] using h.systemProfile

/-- Where there is none, the tool adds its own to the profile. -/
theorem Configured.ensureDconfConfigurableSystemProfile
    (h : env.Configured before set files)
    (hprofile : env.getDconfSystemProfile ≠ gdmDconfProfile)
    (hname : env.configuredDbName before set = none) :
    env.configuredDbName before true = some dconfSystemDbDefaultName ∧
      env.Configured before true (env.ensureDconfConfigurableSystemProfile files) := by
  obtain ⟨hbefore, hunset⟩ : env.getSystemDconfProfileDbName before = none ∧ set = false := by
    simpa [configuredDbName, Option.or_eq_none_iff] using hname
  have hset : env.configuredDbName before true = some dconfSystemDbDefaultName := by
    simp [configuredDbName, hbefore]
  have hsystem : files.profiles env.configurableSystemProfile =
      before.profiles env.configurableSystemProfile := by
    simpa [hunset] using h.systemProfile
  have hensured : env.ensureDconfConfigurableSystemProfile files =
      files.setProfile env.configurableSystemProfile
        (some (writeArrayToFile (env.configurableLines before ++ [gdmSysDb]))) := by
    unfold Env.ensureDconfConfigurableSystemProfile configurableLines
    rw [← hsystem]
    cases hcontent : files.profiles env.configurableSystemProfile with
    | none => simp [hcontent]
    | some content =>
      have hmem := gdmSysDb_notMem_of_dbName_eq_none
        (getSystemDconfProfileContents_of_eq_some hcontent) ((h.dbName hprofile).trans hname)
      simp [hcontent, hmem]
  refine ⟨hset, ?_⟩
  rw [hensured]
  constructor
  · have hdbs : env.configuredDbs before set ⊆ env.configuredDbs before true := by
      rintro dbName (hgdm | hdbName)
      · exact .inl hgdm
      · simp [hname] at hdbName
    exact (h.databases.mono hdbs).trans (.setProfile _ _)
  · intro path hgdm hpath
    rw [Dconf.setProfile_profiles, Function.update_of_ne hpath]
    exact h.profiles path hgdm hpath
  · simp [hbefore]

/-- Making sure of a system database for the users. -/
theorem Configured.ensureSystemUserDconfProfile (h : env.Configured before set files)
    (hprofile : env.getDconfSystemProfile ≠ gdmDconfProfile) {name : String}
    (hensure : env.ensureSystemUserDconfProfile files = some (name, files')) :
    env.configuredDbName before true = some name ∧ env.Configured before true files' := by
  rw [Env.ensureSystemUserDconfProfile, h.dbName hprofile] at hensure
  cases hfound : env.configuredDbName before set with
  | some found =>
    simp only [hfound, Option.some.injEq, Prod.mk.injEq] at hensure
    obtain ⟨rfl, rfl⟩ := hensure
    exact h.set_of_dbName hfound
  | none =>
    obtain ⟨hset, hensured⟩ := h.ensureDconfConfigurableSystemProfile hprofile hfound
    simp only [hfound, hensured.dbName hprofile, hset, Option.map_some, Option.some.injEq,
      Prod.mk.injEq] at hensure
    obtain ⟨rfl, rfl⟩ := hensure
    exact ⟨hset, hensured⟩

theorem updateDconf_eq_some (h : env.updateDconf files = some files') : files' = files := by
  rw [updateDconf] at h
  split_ifs at h
  exact (Option.some.inj h).symm

/-- A locked setting in a database of the tool. -/
theorem Configured.writeLockedSettingToDb (h : env.Configured before set files)
    (hprofile : env.getDconfSystemProfile ≠ gdmDconfProfile) {dbName : String}
    (hname : dbName ∈ env.configuredDbs before set) (schema key : String)
    (value : Option String) :
    env.Configured before set (env.writeLockedSettingToDb dbName schema key value files) :=
  h.keeps hprofile (env.writeLockedSettingToDb_keeps hname schema key value files)
    fun path _ => by simp

theorem gdmDconfProfile_mem_configuredDbs :
    gdmDconfProfile ∈ env.configuredDbs before set := .inl rfl

/-- The removal action, in the greeter's database and in that of the users. -/
theorem Configured.toggleSmartcardSettings (h : env.Configured before set files)
    (hprofile : env.getDconfSystemProfile ≠ gdmDconfProfile) {key : String}
    {value : Option String}
    (htoggle : env.toggleSmartcardSettings key value files = some files') :
    env.Configured before (set || value.isSome) files' := by
  have hgdm := h.writeLockedSettingToDb hprofile gdmDconfProfile_mem_configuredDbs gsdScSchema key
    value
  rw [Env.toggleSmartcardSettings] at htoggle
  cases value with
  | some value =>
    simp only [writeLockedSystemSettingsToDb, Option.bind_eq_bind, Option.bind_eq_some_iff,
      Prod.exists] at htoggle
    obtain ⟨dbName, ensured, hensure, hupdate⟩ := htoggle
    obtain ⟨hname, hensured⟩ := hgdm.ensureSystemUserDconfProfile hprofile hensure
    rw [updateDconf_eq_some hupdate]
    simpa using hensured.writeLockedSettingToDb hprofile (.inr hname) gsdScSchema key (some value)
  | none =>
    simp only [writeLockedSystemSettingsToDb] at htoggle
    split at htoggle
    · simpa [← Option.some.inj htoggle] using hgdm
    · next dbName hname =>
      rw [hgdm.dbName hprofile] at hname
      rw [updateDconf_eq_some htoggle]
      simpa using hgdm.writeLockedSettingToDb hprofile (.inr hname) gsdScSchema key none

/-- Making sure of the greeter's profile. -/
theorem Configured.ensureGdmConfigDconfProfile (h : env.Configured before set files)
    (hprofile : env.getDconfSystemProfile ≠ gdmDconfProfile)
    (hensure : env.ensureGdmConfigDconfProfile files = some files') :
    env.Configured before set files' := by
  rw [Env.ensureGdmConfigDconfProfile] at hensure
  split_ifs at hensure
  · rwa [← Option.some.inj hensure]
  · obtain ⟨defaultContent, -, rfl⟩ := Option.map_eq_some_iff.mp hensure
    exact h.keeps hprofile (.setProfile _ _) fun path hgdm => Function.update_of_ne hgdm _ _

theorem Configured.writeLockedGdmSettingsToDb (h : env.Configured before set files)
    (hprofile : env.getDconfSystemProfile ≠ gdmDconfProfile) {authType : GdmAuthType}
    {value : Bool}
    (hwrite : env.writeLockedGdmSettingsToDb authType value files = some files') :
    env.Configured before set files' := by
  simp only [Env.writeLockedGdmSettingsToDb, Option.bind_eq_bind, Option.bind_eq_some_iff]
    at hwrite
  obtain ⟨ensured, hensure, hupdate⟩ := hwrite
  rw [updateDconf_eq_some hupdate]
  exact (h.ensureGdmConfigDconfProfile hprofile hensure).writeLockedSettingToDb hprofile
    gdmDconfProfile_mem_configuredDbs _ _ _

theorem Configured.handleSmartcardOptions (h : env.Configured before set files)
    (hprofile : env.getDconfSystemProfile ≠ gdmDconfProfile) {options : Options}
    (hhandle : env.handleSmartcardOptions options files = some files') :
    env.Configured before (set || options.removalAction.any (· ≠ "user-defined")) files' := by
  rw [Env.handleSmartcardOptions] at hhandle
  cases haction : options.removalAction with
  | none =>
    simp only [haction, Option.some.injEq] at hhandle
    simpa [← hhandle] using h
  | some action =>
    simp only [haction] at hhandle
    split_ifs at hhandle
    have hvalue : (removalActionValue action).isSome = decide (action ≠ "user-defined") := by
      rw [removalActionValue]
      split_ifs with huser <;> simp [huser]
    simpa [hvalue] using h.toggleSmartcardSettings hprofile hhandle

theorem Configured.handleSmartcard (h : env.Configured before set files)
    (hprofile : env.getDconfSystemProfile ≠ gdmDconfProfile) {options : Options}
    (hhandle : env.handleSmartcard options files = some files') :
    env.Configured before (set || options.removalAction.any (· ≠ "user-defined")) files' := by
  simp only [Env.handleSmartcard, Option.bind_eq_bind] at hhandle
  split_ifs at hhandle
  · exact h.handleSmartcardOptions hprofile hhandle
  · obtain ⟨toggled, hsmartcard, hhandle⟩ := Option.bind_eq_some_iff.mp hhandle
    obtain ⟨written, hpassword, hoptions⟩ := Option.bind_eq_some_iff.mp hhandle
    have hwritten := (h.writeLockedGdmSettingsToDb hprofile hsmartcard).writeLockedGdmSettingsToDb
      hprofile hpassword
    exact hwritten.handleSmartcardOptions hprofile hoptions

end

end Env

/-- Whether a command gives the removal action a value. -/
def Command.setsRemovalAction (command : Command) : Bool :=
  decide (command.authType = .smartcard) && !command.options.help &&
    command.options.removalAction.any (· ≠ "user-defined")

namespace Env

section

variable {env : Env} {before files files' : Dconf} {set : Bool}

/-- One command keeps files configured. -/
theorem Configured.handleCommand (h : env.Configured before set files)
    (hprofile : env.getDconfSystemProfile ≠ gdmDconfProfile) {command : Command}
    (hhandle : env.handleCommand command files = some files') :
    env.Configured before (set || command.setsRemovalAction) files' := by
  rw [Env.handleCommand] at hhandle
  split_ifs at hhandle with hparses hhelp
  · simpa [Command.setsRemovalAction, hhelp, ← Option.some.inj hhandle] using h
  · cases htype : command.authType with
    | password =>
      rw [htype] at hhandle
      simpa [Command.setsRemovalAction, htype] using
        h.writeLockedGdmSettingsToDb hprofile hhandle
    | fingerprint =>
      rw [htype] at hhandle
      simpa [Command.setsRemovalAction, htype] using
        h.writeLockedGdmSettingsToDb hprofile hhandle
    | smartcard =>
      rw [htype] at hhandle
      simpa [Command.setsRemovalAction, htype, hhelp] using h.handleSmartcard hprofile hhandle

/-- And so does any sequence of them. -/
theorem Configured.handleCommands (h : env.Configured before set files)
    (hprofile : env.getDconfSystemProfile ≠ gdmDconfProfile) {commands : List Command}
    (hhandle : env.handleCommands commands files = some files') :
    env.Configured before (set || commands.any Command.setsRemovalAction) files' := by
  induction commands generalizing files set with
  | nil => simpa [← Option.some.inj hhandle] using h
  | cons command commands ih =>
    rw [Env.handleCommands, Option.bind_eq_some_iff] at hhandle
    obtain ⟨handled, hcommand, hcommands⟩ := hhandle
    rw [List.any_cons, ← Bool.or_assoc]
    exact ih (h.handleCommand hprofile hcommand) hcommands

end

end Env

end Gdm.Config
