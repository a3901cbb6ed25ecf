import Mathlib.Data.List.Infix

/-!
# Session files

The sessions that can be chosen are key files with the suffix `.desktop` in a number of
directories, which are searched in an order that depends on the types of sessions that
are supported.  The directories are outside of the daemon and may be different each time
that it looks.
-/

namespace Gdm

/-- What is read from the group `Desktop Entry` of a key file.  A value is `none` when
there is none or it is not of its type. -/
structure KeyFile where
  hidden : Option Bool := none
  canRunHeadless : Option Bool := none
  tryExec : Option String := none
  exec : Option String := none
  sessionRegisters : Option Bool := none
  deriving DecidableEq, Repr

/-- A file that can be opened, which need not be a key file. -/
structure SessionFile where
  path : String
  keyFile : Option KeyFile
  deriving DecidableEq, Repr

/-- What the daemon finds outside: `find` is the file that is found for a name in a directory
or below it, and `listing` the names in a directory. -/
structure Installed where
  dataDir : String := "/usr/share"
  dmConfDir : String := "/etc/dm"
  systemDataDirs : List String := ["/usr/local/share/", "/usr/share/"]
  find : String → String → Option SessionFile := fun _ _ => none
  listing : String → List String := fun _ => []
  programInPath : String → Bool := fun _ => true
  configuredFallback : Option String := none

/-- A directory without the slashes at its end. -/
def trimSlashes (dir : String) : String :=
  String.ofList (dir.toList.reverse.dropWhile (· = '/')).reverse

/-- `g_build_filename`, for a directory and a name: there is one slash between them. -/
def buildFilename (dir name : String) : String :=
  trimSlashes dir ++ "/" ++ name

/-- The path of a session file, seen as that of a Wayland session. -/
def isWaylandPath (path : String) : Bool :=
  decide ("/wayland-sessions/".toList <:+: path.toList)

/-- The name of the session whose file has this name. -/
def desktopName (baseName : String) : Option String :=
  (baseName.toList.dropSuffix? ".desktop".toList).map String.ofList

theorem desktopName_eq {baseName name : String} (h : desktopName baseName = some name) :
    baseName = name ++ ".desktop" := by
  obtain ⟨chars, hchars, rfl⟩ := Option.map_eq_some_iff.mp h
  rw [List.dropSuffix?_eq_some_iff] at hchars
  obtain ⟨suffix, hsplit, hsuffix⟩ := hchars
  rw [beq_iff_eq] at hsuffix
  rw [← String.toList_inj, hsplit, hsuffix]
  simp only [String.toList_append, String.toList_ofList]

/-- The first name in the order of `strcmp`. -/
def leastName : List String → Option String
  | [] => none
  | name :: rest =>
    match leastName rest with
    | none => some name
    | some least => if least < name then some least else some name

theorem mem_of_leastName {names : List String} {name : String} (h : leastName names = some name) :
    name ∈ names := by
  induction names with
  | nil => cases h
  | cons head rest ih =>
    unfold leastName at h
    split at h
    · obtain rfl := Option.some.inj h
      exact List.mem_cons_self
    · rename_i least hleast
      split at h
      · obtain rfl := Option.some.inj h
        exact List.mem_cons_of_mem _ (ih hleast)
      · obtain rfl := Option.some.inj h
        exact List.mem_cons_self

theorem leastName_isSome {names : List String} (h : names ≠ []) : (leastName names).isSome := by
  cases names with
  | nil => exact absurd rfl h
  | cons head rest =>
    unfold leastName
    split
    · rfl
    · split <;> rfl

namespace Installed

/-- `get_system_session_dirs` -/
def getSystemSessionDirs (installed : Installed) (supported : List String)
    (type : Option String) : List String :=
  supported.flatMap fun supportedType =>
    (if supportedType = "x11" ∧ (type = none ∨ type = some supportedType) then
      installed.systemDataDirs.map (fun dir => buildFilename dir "xsessions") ++
        ["/etc/X11/sessions/", installed.dmConfDir ++ "/Sessions/",
          installed.dataDir ++ "/gdm/BuiltInSessions/", installed.dataDir ++ "/xsessions/"]
    else []) ++
    (if supportedType = "wayland" ∧ (type = none ∨ type = some supportedType) then
      [installed.dataDir ++ "/gdm/greeter/wayland-sessions/"] ++
        installed.systemDataDirs.map (fun dir => buildFilename dir "wayland-sessions") ++
        [installed.dataDir ++ "/wayland-sessions/"]
    else [])

/-- `load_key_file_for_file`, with the full path: a file that is no key file hides those
in the directories after it. -/
def loadKeyFileForFile (installed : Installed) (supported : List String) (file : String)
    (type : Option String) : Option (KeyFile × String) :=
  ((installed.getSystemSessionDirs supported type).findSome? fun dir =>
    installed.find dir file).bind fun found =>
      found.keyFile.map fun keyFile => (keyFile, found.path)

/-- The fallback that is configured, or else the one that is built in. -/
def fallbackName (installed : Installed) : String :=
  match installed.configuredFallback with
  | some name => if name.isEmpty then "gnome" else name
  | none => "gnome"

/-- These files are in these directories, and no others. -/
def ofFiles (files : List (String × String × KeyFile)) : Installed where
  find dir file :=
    (files.find? fun entry => entry.1 = trimSlashes dir ∧ entry.2.1 = file).map fun entry =>
      { path := buildFilename dir file, keyFile := some entry.2.2 }
  listing dir :=
    (files.filter fun entry => entry.1 = trimSlashes dir).map fun entry => entry.2.1

end Installed

end Gdm
