import Gdm.Choice.Names
import Gdm.Common.EnvFile
import Mathlib.Data.List.AList
import Mathlib.Data.List.Sort

/-!
# The sessions that a greeter offers

A greeter collects the session files of the directories for itself.  It walks the directories
from the last to the first and lets the files of a directory replace those that it has found
before; a file that is not to be shown takes the session of its name away.  The daemon, in
contrast, searches the directories for one file, in an order of its own.
-/

namespace Gdm

/-- The group `Desktop Entry` of a session file, with what the greeter reads there as well.
A file whose `Name` is there but cannot be decoded is left out: with it the greeter hashes
`NULL` and returns nothing. -/
structure DesktopEntry extends KeyFile where
  name : Option String := none
  comment : Option String := none
  noDisplay : Option Bool := none
  deriving DecidableEq, Repr

/-- What a file of a session directory is: not a key file, one without the group, or one with
it. -/
inductive DesktopFile
  | unparsable
  | noGroup
  | entry (group : DesktopEntry)
  deriving DecidableEq, Repr

/-- What the daemon reads there. -/
def DesktopFile.keyFile : DesktopFile → Option KeyFile
  | .unparsable => none
  | .noGroup => some {}
  | .entry group => some group.toKeyFile

/-- The parts of a name at each of its dashes: what is before it, with slashes for the dashes,
and what is after it. -/
def splitsAtDash : List Char → List Char → List (String × String)
  | _, [] => []
  | before, c :: rest =>
    if c = '-' then
      (String.ofList before, String.ofList rest) :: splitsAtDash (before ++ ['/']) rest
    else splitsAtDash (before ++ [c]) rest

/-- `g_build_filename` with a directory below the first one: an empty one is passed over. -/
def buildFilenameBelow (dir subDir name : String) : String :=
  let subDir := String.ofList (subDir.toList.dropWhile (· = '/'))
  if trimSlashes subDir = "" then buildFilename dir name
  else buildFilename (buildFilename dir subDir) name

/-- The paths that `find_file_in_data_dirs` tries in a directory: that of the name, and then
each that has a directory for what comes before a dash of it. -/
def dataDirPaths (dir file : String) : List String :=
  buildFilename dir file ::
    (splitsAtDash [] file.toList).map fun (subDir, candidate) =>
      buildFilenameBelow dir subDir candidate

example : dataDirPaths "/usr/share/xsessions/" "a-b-c.desktop" =
    ["/usr/share/xsessions/a-b-c.desktop", "/usr/share/xsessions/a/b-c.desktop",
      "/usr/share/xsessions/a/b/c.desktop"] := by
  decide +kernel

/-- The content of the session directories: `read` has the files that can be opened by their
paths, `listing` the names in a directory. -/
structure SessionFiles where
  dataDir : String := "/usr/share"
  dmConfDir : String := "/etc/dm"
  systemDataDirs : List String := ["/usr/local/share/", "/usr/share/"]
  read : String → Option DesktopFile := fun _ => none
  listing : String → List String := fun _ => []
  programInPath : String → Bool := fun _ => true

namespace SessionFiles

variable (files : SessionFiles)

/-- The file that `find_file_in_data_dirs` opens in one directory. -/
def pathIn (dir file : String) : Option String :=
  (dataDirPaths dir file).find? fun path => (files.read path).isSome

/-- What the daemon finds. -/
def installed : Installed where
  dataDir := files.dataDir
  dmConfDir := files.dmConfDir
  systemDataDirs := files.systemDataDirs
  find dir file :=
    (files.pathIn dir file).bind fun path =>
      (files.read path).map fun found => { path := path, keyFile := found.keyFile }
  listing dir := files.listing (trimSlashes dir)
  programInPath := files.programInPath

end SessionFiles

/-- `GdmSessionFile` -/
structure GdmSessionFile where
  id : String
  path : String
  translatedName : String
  translatedComment : Option String
  deriving DecidableEq, Repr

/-- `gdm_available_sessions_map` -/
abbrev SessionMap := AList fun _ : String => GdmSessionFile

/-- What is not known of the process of the greeter: the order in which a hash table is walked and
the hashes in it, what is read as the name of a session that has been freed, and the text that the
bytes of the address of a copy of an id make. -/
structure GreeterMemory where
  order : SessionMap → List String
  order_perm : ∀ map, (order map).Perm map.keys
  nameHash : String → Nat
  freedName : String → String
  addressText : String → String

/-- A key of `names_seen_before`: the session whose name it is, and the name that it has been
hashed as. -/
structure NameKey where
  owner : String
  name : String
  deriving DecidableEq, Repr

/-- `g_strstrip` -/
def gStrstrip (str : String) : String :=
  String.ofList (gStrchomp (skipSpaces str.toList))

namespace SessionFiles

variable (files : SessionFiles)

/-- `key_file_is_relevant`, with a seat or without one. -/
def keyFileIsRelevant (seat : Bool) (entry : DesktopEntry) : Bool :=
  let noDisplay := entry.noDisplay.getD false
  let hidden := entry.hidden.getD false
  let onlyHeadlessAllowed := !seat
  let canRunHeadless := entry.canRunHeadless.getD false
  let tryexecFailed := entry.tryExec.any fun tryexec => !files.programInPath (gStrstrip tryexec)
  !(noDisplay || hidden || tryexecFailed || (onlyHeadlessAllowed && !canRunHeadless))

/-- `load_session_file` -/
def loadSessionFile (seat : Bool) (map : SessionMap) (id path : String) : SessionMap :=
  match files.read path with
  | none | some .unparsable | some .noGroup => map
  | some (.entry entry) =>
    match entry.name with
    | none => map
    | some name =>
      if files.keyFileIsRelevant seat entry then
        map.insert id
          { id := id, path := path, translatedName := name, translatedComment := entry.comment }
      else map.erase id

/-- One round of the loop in `collect_sessions_from_directory`. -/
def collectFile (seat : Bool) (dirname : String) (map : SessionMap) (filename : String) :
    SessionMap :=
  match desktopName filename with
  | none => map
  | some id => files.loadSessionFile seat map id (buildFilename dirname filename)

/-- `collect_sessions_from_directory` -/
def collectSessionsFromDirectory (seat : Bool) (map : SessionMap) (dirname : String) :
    SessionMap :=
  (files.listing (trimSlashes dirname)).foldl (files.collectFile seat dirname) map

/-- The search array of `collect_sessions`, for the types in `GDM_SUPPORTED_SESSION_TYPES`. -/
def dirsSearchArray (supported : Option (List String)) : List String :=
  (if supported.all ("x11" ∈ ·) then
    ["/etc/X11/sessions/", files.dmConfDir ++ "/Sessions/",
      files.dataDir ++ "/gdm/BuiltInSessions/"] ++
      files.systemDataDirs.map fun dir => buildFilename dir "xsessions"
  else []) ++
  (if supported.all ("wayland" ∈ ·) then
    files.systemDataDirs.map fun dir => buildFilename dir "wayland-sessions"
  else [])

/-- What the sessions are before duplicates are removed. -/
def sessionsFound (seat : Bool) (supported : Option (List String)) : SessionMap :=
  (files.dirsSearchArray supported).reverse.foldl (files.collectSessionsFromDirectory seat) ∅

end SessionFiles

namespace GreeterMemory

/-- A table that is walked from its newest entry on. -/
def newestFirst : GreeterMemory where
  order := AList.keys
  order_perm _ := .refl _
  nameHash := String.length
  freedName _ := ""
  addressText id := "@" ++ id

variable (around : GreeterMemory)

/-- The name that a key points to. -/
def nameAt (map : SessionMap) (key : NameKey) : String :=
  match map.lookup key.owner with
  | some session => session.translatedName
  | none => around.freedName key.owner

/-- `g_hash_table_add`: a key that is equal is replaced. -/
def gHashTableAdd (map : SessionMap) (key : NameKey) : List NameKey → List NameKey × Bool
  | [] => ([key], true)
  | seen :: names =>
    if around.nameHash seen.name = around.nameHash key.name ∧
        around.nameAt map seen = key.name then (key :: names, false)
    else
      let (names, added) := gHashTableAdd map key names
      (seen :: names, added)

/-- `remove_duplicate_sessions`, with the names seen before.  The session of a name that is
already known is freed, and its name with it. -/
def removeDuplicateSession (state : SessionMap × List NameKey) (id : String) :
    SessionMap × List NameKey :=
  match state.1.lookup id with
  | none => state
  | some session =>
    let (names, added) :=
      around.gHashTableAdd state.1 { owner := id, name := session.translatedName } state.2
    (if added then state.1 else state.1.erase id, names)

/-- The sessions and the names after the walk has come to these ids. -/
def walk (map : SessionMap) (ids : List String) : SessionMap × List NameKey :=
  ids.foldl around.removeDuplicateSession (map, [])

/-- The text at a cell of an array of ids: the bytes of the pointer in it.  Those of `NULL` are
zero. -/
def cellText : Option String → String
  | none => ""
  | some id => around.addressText id

end GreeterMemory

/-- `g_strcmp0` of two names. -/
def gStrcmp0 (a b : String) : Int :=
  if a < b then -1 else if a = b then 0 else 1

/-- `compare_session_ids` -/
def compareSessionIds (map : SessionMap) (a b : String) : Int :=
  match map.lookup a, map.lookup b with
  | none, _ => -1
  | some _, none => 1
  | some sessionA, some sessionB => gStrcmp0 sessionA.translatedName sessionB.translatedName

namespace SessionFiles

variable (files : SessionFiles)

/-- `collect_sessions` -/
def collectSessions (seat : Bool) (supported : Option (List String)) (around : GreeterMemory) :
    SessionMap :=
  (around.walk (files.sessionsFound seat supported)
    (around.order (files.sessionsFound seat supported))).1

/-- `gdm_get_session_ids`.  `g_ptr_array_sort` hands the addresses of the cells to the comparison,
which takes them for strings. -/
def gdmGetSessionIds (seat : Bool) (supported : Option (List String)) (around : GreeterMemory) :
    List (Option String) :=
  let map := files.collectSessions seat supported around
  ((around.order map).map some ++ [none]).mergeSort fun a b =>
    compareSessionIds map (around.cellText a) (around.cellText b) ≤ 0

end SessionFiles

end Gdm
