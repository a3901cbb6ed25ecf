import Mathlib.Data.List.DropRight
import Mathlib.Data.List.Infix
import Mathlib.Logic.Function.Basic

/-!
# The files that configure dconf

A dconf profile is a list of databases.  It is looked up in the system configuration first and
then in the data directories.  A system database is put together from the key files in a
directory of its own, and from lists of the keys that users may not change.
-/

namespace Gdm.Config

/-- The text of a file, as what stands between its newlines.  There is no NUL in a text; what a
NUL does to a line is in the model of the bytes. -/
abbrev Content := List String

/-- The values in a key file, by group and key. -/
abbrev Settings := String × String → Option String

/-- The files that dconf reads.  Profiles go by the directory that they are searched in and their
name, the others by their database and their name.  A key file that cannot be loaded is
absent. -/
structure Dconf where
  profiles : String × String → Option Content := fun _ => none
  keyFiles : String × String → Option Settings := fun _ => none
  lockFiles : String × String → Option Content := fun _ => none

/-! ## Files as arrays of lines -/

/-- `g_ascii_isgraph` -/
def gAsciiIsgraph (c : Char) : Bool :=
  decide (0x21 ≤ c.toNat ∧ c.toNat ≤ 0x7e)

/-- What `read_file_contents_to_array` removes from the end of a file. -/
def isTrailing (line : String) : Bool :=
  !(line.toList.head?.any gAsciiIsgraph || decide (1 < line.utf8ByteSize))

/-- `read_file_contents_to_array` -/
def readFileContentsToArray (content : Content) : List String :=
  content.rdropWhile isTrailing

/-- `write_array_to_file` -/
def writeArrayToFile (array : List String) : Content :=
  if array.getLast? = some "" then array else array ++ [""]

@[simp]
theorem readFileContentsToArray_writeArrayToFile (array : List String) :
    readFileContentsToArray (writeArrayToFile array) = readFileContentsToArray array := by
  rw [writeArrayToFile]
  split_ifs
  · rfl
  · exact List.rdropWhile_concat_pos isTrailing array "" (by decide)

@[simp]
theorem readFileContentsToArray_idem (content : Content) :
    readFileContentsToArray (readFileContentsToArray content) =
      readFileContentsToArray content :=
  List.rdropWhile_idempotent isTrailing content

theorem readFileContentsToArray_concat {line : String} (h : isTrailing line = false)
    (array : List String) :
    readFileContentsToArray (array ++ [line]) = array ++ [line] :=
  List.rdropWhile_concat_neg isTrailing array line (by simp [h])

/-! ## The databases of a profile -/

def dconfSystemDbPrefix : String := "system-db:"

/-- The name in a line that gives a system database one. -/
def systemDbName (line : String) : Option String :=
  if dconfSystemDbPrefix.toList <+: line.toList ∧
      dconfSystemDbPrefix.length < line.length then
    some (String.ofList (line.toList.drop dconfSystemDbPrefix.length))
  else none

/-- The loop of `get_system_dconf_profile_db_name`. -/
def findDbName (preferred : Option String) : Option String → List String → Option String
  | dbName, [] => dbName
  | dbName, line :: lines =>
    match systemDbName line with
    | none => findDbName preferred dbName lines
    | some name =>
      if preferred.all (· == name) then some name else findDbName preferred (some name) lines

theorem systemDbName_append {name : String} (h : name ≠ "") :
    systemDbName (dconfSystemDbPrefix ++ name) = some name := by
  have hlength : 0 < name.length := by
    rw [Nat.pos_iff_ne_zero]
    simpa using h
  rw [systemDbName, if_pos ⟨by simp, by rw [String.length_append]; omega⟩]
  simp [← String.length_toList]

theorem eq_of_systemDbName {line name : String} (h : systemDbName line = some name) :
    line = dconfSystemDbPrefix ++ name := by
  rw [systemDbName] at h
  split_ifs at h with hline
  obtain ⟨rest, hrest⟩ := hline.1
  have hname : name = String.ofList rest := by
    rw [← Option.some.inj h, ← hrest]
    simp [← String.length_toList]
  apply String.toList_injective
  simp [hname, hrest]

section

variable {preferred : String} {dbName : Option String} {lines : List String}

/-- Nothing is found where no line names a system database. -/
theorem findDbName_eq_none :
    findDbName (some preferred) dbName lines = none ↔
      dbName = none ∧ ∀ line ∈ lines, systemDbName line = none := by
  induction lines generalizing dbName with
  | nil => simp [findDbName]
  | cons line lines ih =>
    rw [findDbName]
    cases hline : systemDbName line with
    | none => simp [ih, hline]
    | some name =>
      simp only [Option.all_some]
      split_ifs
      · simp [hline]
      · simp [ih, hline]

/-- The preferred database is found where a line names it, whatever else there is. -/
theorem findDbName_eq_preferred (hpreferred : preferred ≠ "") (hname : dbName ≠ some preferred) :
    findDbName (some preferred) dbName lines = some preferred ↔
      dconfSystemDbPrefix ++ preferred ∈ lines := by
  induction lines generalizing dbName with
  | nil => simp [findDbName, hname]
  | cons line lines ih =>
    have hhead : dconfSystemDbPrefix ++ preferred = line ↔ systemDbName line = some preferred :=
      ⟨fun h => h ▸ systemDbName_append hpreferred, fun h => (eq_of_systemDbName h).symm⟩
    rw [findDbName, List.mem_cons, hhead]
    cases hline : systemDbName line with
    | none => simp [ih hname]
    | some name =>
      by_cases heq : preferred = name
      · simp [heq]
      · have hne : some name ≠ some preferred := fun h => heq (Option.some.inj h).symm
        simp [heq, ih hne, Ne.symm heq]

end

/-- What dconf takes from a line of a profile, by its documentation: what stands before a `#`,
without white space around it. -/
def profileDatabase (line : String) : Option String :=
  let source := ((line.toList.takeWhile (· ≠ '#')).dropWhile Char.isWhitespace).rdropWhile
    Char.isWhitespace
  if source = [] then none else some (String.ofList source)

namespace Dconf

variable (files : Dconf)

/-- The lines of a profile. -/
def profileLines (path : String × String) : List String :=
  match files.profiles path with
  | none => []
  | some content => readFileContentsToArray content

theorem profileLines_of_eq_some {files : Dconf} {path : String × String} {content : Content}
    (h : files.profiles path = some content) :
    files.profileLines path = readFileContentsToArray content := by
  rw [profileLines, h]

theorem profileLines_of_eq_none {files : Dconf} {path : String × String}
    (h : files.profiles path = none) : files.profileLines path = [] := by
  rw [profileLines, h]

theorem profileLines_congr {files files' : Dconf} {path : String × String}
    (h : files'.profiles path = files.profiles path) :
    files'.profileLines path = files.profileLines path := by
  rw [profileLines, profileLines, h]

/-- The value of a key in a key file. -/
def setting (path key : String × String) : Option String :=
  (files.keyFiles path).bind (· key)

/-- The keys that a lock file locks. -/
def locks (path : String × String) : List String :=
  match files.lockFiles path with
  | none => []
  | some content => (readFileContentsToArray content).filter (·.toList.head? == some '/')

def setProfile (path : String × String) (content : Option Content) : Dconf :=
  { files with profiles := Function.update files.profiles path content }

def setKeyFile (path : String × String) (settings : Option Settings) : Dconf :=
  { files with keyFiles := Function.update files.keyFiles path settings }

def setLockFile (path : String × String) (content : Option Content) : Dconf :=
  { files with lockFiles := Function.update files.lockFiles path content }

@[simp]
theorem setProfile_profiles (path : String × String) (content : Option Content) :
    (files.setProfile path content).profiles = Function.update files.profiles path content := rfl

@[simp]
theorem setProfile_keyFiles (path : String × String) (content : Option Content) :
    (files.setProfile path content).keyFiles = files.keyFiles := rfl

@[simp]
theorem setProfile_lockFiles (path : String × String) (content : Option Content) :
    (files.setProfile path content).lockFiles = files.lockFiles := rfl

@[simp]
theorem setKeyFile_profiles (path : String × String) (settings : Option Settings) :
    (files.setKeyFile path settings).profiles = files.profiles := rfl

@[simp]
theorem setKeyFile_lockFiles (path : String × String) (settings : Option Settings) :
    (files.setKeyFile path settings).lockFiles = files.lockFiles := rfl

@[simp]
theorem setLockFile_profiles (path : String × String) (content : Option Content) :
    (files.setLockFile path content).profiles = files.profiles := rfl

@[simp]
theorem setLockFile_keyFiles (path : String × String) (content : Option Content) :
    (files.setLockFile path content).keyFiles = files.keyFiles := rfl

end Dconf

end Gdm.Config
