import Gdm.Library.FileSystem

/-!
# Recursive operations on directories

A walk calls something for each file of a directory tree, and for a directory after all that is
in it.  It tells directories from symbolic links to them, so that it stays in the tree.  The
removal of a tree and the change of its owners are such walks; a copy goes through the source in
the same way.
-/

namespace Gdm

open FileSystem

universe u v

variable {Name : Type u} {Data : Type v} [DecidableEq Name]

/-- How directories are read: the order of the names, and the directories whose reading fails,
with the number of names that come before. -/
structure DirectoryReading (Name : Type u) (Data : Type v) [DecidableEq Name] where
  order : Files Name Data → Path Name → List Name
  order_perm : ∀ fs p, (order fs p).Perm (fs.children p)
  failsAfter : Path Name → Option Nat

/-- The names that a directory gives, and whether they are all. -/
def DirectoryReading.read (reading : DirectoryReading Name Data) (fs : Files Name Data)
    (dir : Path Name) : List Name × Bool :=
  match reading.failsAfter dir with
  | none => (reading.order fs dir, true)
  | some count => ((reading.order fs dir).take count, false)

/-! ## The walk -/

/-- Why a walk ends before its end. -/
inductive WalkError
  | enumeration
  | callback
  deriving DecidableEq, Repr

/-- What is left of a walk: the files, and the calls that have been made. -/
structure Walked (Name : Type u) (Data : Type v) [DecidableEq Name] where
  files : Files Name Data
  calls : List (Path Name)
  error : Option WalkError

/-- `GdmRecursiveFileCallback`: what it makes of the files, and whether it succeeds. -/
abbrev FileCallback (Name : Type u) (Data : Type v) [DecidableEq Name] :=
  Path Name → Files Name Data → Files Name Data × Bool

section

variable (reading : DirectoryReading Name Data) (cb : FileCallback Name Data)

/-- The call of the callback for one file. -/
def callBack (file : Path Name) (fs : Files Name Data) : Walked Name Data :=
  let (fs, ok) := cb file fs
  { files := fs, calls := [file], error := if ok then none else some .callback }

/-- The walk goes on after the first part, if this has not failed. -/
def Walked.andThen (walked : Walked Name Data)
    (next : Files Name Data → Option (Walked Name Data)) : Option (Walked Name Data) :=
  if walked.error.isSome then some walked
  else
    (next walked.files).map fun rest => { rest with calls := walked.calls ++ rest.calls }

/-- The loop of the walk over the names of a directory.  A name that is gone is passed over. -/
def walkEntries (recurse : Path Name → Files Name Data → Option (Walked Name Data))
    (dir : Path Name) : List Name → Files Name Data → Option (Walked Name Data)
  | [], fs => some { files := fs, calls := [], error := none }
  | name :: names, fs =>
    match fs.lstat (name :: dir) with
    | none => walkEntries recurse dir names fs
    | some info =>
      (if info.kind.isDirectory then recurse (name :: dir) fs
        else some (callBack cb (name :: dir) fs)).bind
        (·.andThen (walkEntries recurse dir names))

/-- `gdm_walk_dir_recursively`, for directories that are not nested deeper than `depth`. -/
def gdmWalkDirRecursively : Nat → Path Name → Files Name Data → Option (Walked Name Data)
  | 0, _, _ => none
  | depth + 1, dir, fs =>
    match fs.directoryAt dir with
    | none => some { files := fs, calls := [], error := some .enumeration }
    | some real =>
      let (names, complete) := reading.read fs real
      (walkEntries cb (gdmWalkDirRecursively depth) dir names fs).bind (·.andThen fun fs =>
        if complete then some (callBack cb dir fs)
        else some { files := fs, calls := [], error := some .enumeration })

end

/-! ## Removing and changing the owner -/

/-- `rm_file`, where some files cannot be deleted. -/
def rmFile (fails : Path Name → Bool) : FileCallback Name Data := fun file fs =>
  if fails file then (fs, false)
  else
    match fs.delete file with
    | none => (fs, false)
    | some fs => (fs, true)

/-- `gdm_rm_recursively` -/
def gdmRmRecursively (reading : DirectoryReading Name Data) (fails : Path Name → Bool) :
    Nat → Path Name → Files Name Data → Option (Walked Name Data) :=
  gdmWalkDirRecursively reading (rmFile fails)

/-- `chown_file`: the user is set first and then the group, and either can fail. -/
def chownFile (uid gid : Nat) (failsUid failsGid : Path Name → Bool) :
    FileCallback Name Data := fun file fs =>
  match if failsUid file then none else fs.changeOwner file fun owner => (uid, owner.2) with
  | none => (fs, false)
  | some fs =>
    match if failsGid file then none else fs.changeOwner file fun owner => (owner.1, gid) with
    | none => (fs, false)
    | some fs => (fs, true)

/-- `gdm_chown_recursively` -/
def gdmChownRecursively (reading : DirectoryReading Name Data) (uid gid : Nat)
    (failsUid failsGid : Path Name → Bool) :
    Nat → Path Name → Files Name Data → Option (Walked Name Data) :=
  gdmWalkDirRecursively reading (chownFile uid gid failsUid failsGid)

/-! ## Copying -/

/-- What fails in a copy, by the path that is made. -/
structure CopyFaults (Name : Type u) where
  makeDirectory : Path Name → Bool
  copy : Path Name → Bool

section

variable (reading : DirectoryReading Name Data) (faults : CopyFaults Name)

/-- `g_file_copy`, where a symbolic link is copied as one and what is there is replaced. -/
def gFileCopy (source dest : Path Name) (fs : Files Name Data) : Option (Files Name Data) :=
  if faults.copy dest then none
  else
    match (fs.lstat source).map Node.kind with
    | none | some .directory | some .special => none
    | some kind => fs.put dest kind

/-- What the loop of the copy does with one file of the source. -/
def copyEntry
    (recurse : Path Name → Path Name → Files Name Data → Option (Files Name Data × Bool))
    (info : Node Name Data) (source dest : Path Name) (fs : Files Name Data) :
    Option (Files Name Data × Bool) :=
  if info.kind.isDirectory then recurse source dest fs
  else
    match gFileCopy faults source dest fs with
    | none => some (fs, false)
    | some fs => some (fs, true)

/-- The loop of the copy over the names of the source, and whether it gets to its end. -/
def copyEntries
    (recurse : Path Name → Path Name → Files Name Data → Option (Files Name Data × Bool))
    (source dest : Path Name) : List Name → Files Name Data → Option (Files Name Data × Bool)
  | [], fs => some (fs, true)
  | name :: names, fs =>
    match fs.lstat (name :: source) with
    | none => copyEntries recurse source dest names fs
    | some info =>
      (copyEntry faults recurse info (name :: source) (name :: dest) fs).bind fun (fs, ok) =>
        if ok then copyEntries recurse source dest names fs else some (fs, false)

/-- The part of `recursive_copy_dir` after the directory has been made: the one of the source is
read, and its names are copied. -/
def copyInto (recurse : Path Name → Path Name → Files Name Data → Option (Files Name Data × Bool))
    (source dest : Path Name) (fs : Files Name Data) : Option (Files Name Data × Bool) :=
  match fs.directoryAt source with
  | none => some (fs, false)
  | some real =>
    let (names, complete) := reading.read fs real
    (copyEntries faults recurse source dest names fs).map fun (fs, ok) => (fs, ok && complete)

/-- `recursive_copy_dir`, for directories that are not nested deeper than `depth`.  It is not an
error if the directory exists. -/
def recursiveCopyDir : Nat → Path Name → Path Name → Files Name Data →
    Option (Files Name Data × Bool)
  | 0, _, _, _ => none
  | depth + 1, source, dest, fs =>
    match if faults.makeDirectory dest then .failed else fs.makeDirectory dest with
    | .failed => some (fs, false)
    | .exists => copyInto reading faults (recursiveCopyDir depth) source dest fs
    | .made fs => copyInto reading faults (recursiveCopyDir depth) source dest fs

/-- `gdm_copy_dir_recursively`, with the reading of the directories and the failures of the
clean-up. -/
def gdmCopyDirRecursively (cleanUp : DirectoryReading Name Data) (failsToDelete : Path Name → Bool)
    (depth : Nat) (source dest : Path Name) (fs : Files Name Data) :
    Option (Files Name Data × Bool) :=
  (recursiveCopyDir reading faults depth source dest fs).bind fun (fs, ok) =>
    if ok then some (fs, true)
    else
      (gdmRmRecursively cleanUp failsToDelete (fs.names.keys.length + 1) dest fs).map fun walked =>
        (walked.files, false)

end

end Gdm
