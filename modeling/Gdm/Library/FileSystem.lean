import Mathlib.Data.List.AList
import Mathlib.Data.List.Infix
import Mathlib.Data.List.Nodup
import Mathlib.Data.List.Perm.Subperm

/-!
# Files and symbolic links

The files of a system by their paths.  What a path leads to is found step by step from the root,
and a symbolic link on the way is followed.  Every file that is there is in a directory, so a path
whose directory is there leads to itself.
-/

universe u v

namespace FileSystem

/-- A path, with its last name first. -/
abbrev Path (Name : Type u) := List Name

/-- A file is not in a tree that it is above of. -/
theorem not_cons_suffix {Name : Type u} (n : Name) (p : Path Name) : ¬ n :: p <:+ p := by
  intro h
  have hlength := h.length_le
  rw [List.length_cons] at hlength
  omega

/-- A path is in no more than one file of a directory. -/
theorem eq_of_cons_suffix {Name : Type u} {n m : Name} {p q : Path Name} (hn : n :: p <:+ q)
    (hm : m :: p <:+ q) : n = m := by
  have hsame := List.suffix_of_suffix_length_le hn hm (by simp)
  have heq := hsame.eq_of_length (by simp)
  exact (List.cons.inj heq).1

/-- A path in a directory is the directory or in a file of it. -/
theorem eq_or_cons_suffix {Name : Type u} {p q : Path Name} (h : p <:+ q) :
    q = p ∨ ∃ n, n :: p <:+ q := by
  obtain ⟨front, rfl⟩ := h
  rcases front.eq_nil_or_concat with rfl | ⟨front, n, rfl⟩
  · exact .inl rfl
  · exact .inr ⟨n, front, by simp⟩

/-- What is below names of a directory is in its tree. -/
theorem suffix_of_names {Name : Type u} {dir q : Path Name} {names : List Name}
    (h : ∃ n ∈ names, n :: dir <:+ q) : dir <:+ q := by
  obtain ⟨n, -, hq⟩ := h
  exact (List.suffix_cons n dir).trans hq

theorem names_separate {Name : Type u} {dir : Path Name} {names : List Name} (q q' : Path Name)
    (hq : ∃ n ∈ names, n :: dir <:+ q) (hq' : q' = dir) : ¬ q <:+ q' := by
  obtain ⟨n, -, hin⟩ := hq
  rw [hq']
  exact fun h => not_cons_suffix n dir (hin.trans h)

/-- What holds of the paths below a path holds of it and below each file in it. -/
theorem forall_path_iff {Name : Type u} {P : Path Name → Prop} :
    (∀ rel, P rel) ↔ P [] ∧ ∀ n rel, P (rel ++ [n]) := by
  constructor
  · intro h
    exact ⟨h [], fun n rel => h (rel ++ [n])⟩
  · rintro ⟨hnil, hcons⟩ rel
    rcases rel.eq_nil_or_concat with rfl | ⟨front, n, rfl⟩
    · exact hnil
    · rw [List.concat_eq_append]
      exact hcons n front

/-- Neither path is in the tree of the other. -/
def Apart {Name : Type u} (p q : Path Name) : Prop :=
  ¬ p <:+ q ∧ ¬ q <:+ p

theorem Apart.not_suffix {Name : Type u} {p q r : Path Name} (h : Apart p q) (hp : p <:+ r) :
    ¬ q <:+ r := by
  intro hq
  rcases List.suffix_or_suffix_of_suffix hp hq with hpq | hqp
  · exact h.1 hpq
  · exact h.2 hqp

theorem Apart.ne_nil {Name : Type u} {p q : Path Name} (h : Apart p q) : q ≠ [] := by
  rintro rfl
  exact h.2 List.nil_suffix

theorem Apart.cons {Name : Type u} {p q : Path Name} (h : Apart p q) (n m : Name) :
    Apart (n :: p) (m :: q) := by
  constructor
  · intro hin
    exact h.not_suffix ((List.suffix_cons n p).trans hin) (List.suffix_cons m q)
  · intro hin
    exact h.not_suffix (List.suffix_cons n p) ((List.suffix_cons m q).trans hin)

/-- A step of a path as it is written: to the directory above, or to a name. -/
inductive Step (Name : Type u)
  | up
  | down (name : Name)
  deriving DecidableEq, Repr

/-- What a symbolic link has in it. -/
structure Target (Name : Type u) where
  absolute : Bool
  steps : List (Step Name)
  deriving DecidableEq, Repr

inductive Kind (Name : Type u) (Data : Type v)
  | directory
  | regular (data : Data)
  | link (target : Target Name)
  | special
  deriving DecidableEq, Repr

def Kind.isDirectory {Name : Type u} {Data : Type v} : Kind Name Data → Bool
  | directory => true
  | _ => false

theorem Kind.isDirectory_iff {Name : Type u} {Data : Type v} {kind : Kind Name Data} :
    kind.isDirectory = true ↔ kind = .directory := by
  cases kind <;> simp [Kind.isDirectory]

/-- A file, which can have more than one path. -/
structure Node (Name : Type u) (Data : Type v) where
  inode : Nat
  kind : Kind Name Data
  deriving DecidableEq, Repr

/-- The files by their paths, and the users and groups that own them.  There is a root, and what
is there is in a directory. -/
structure Files (Name : Type u) (Data : Type v) [DecidableEq Name] where
  names : AList fun _ : Path Name => Node Name Data
  owner : Nat → Nat × Nat
  root : (names.lookup []).any (·.kind.isDirectory) = true
  parents : ∀ n p, n :: p ∈ names → (names.lookup p).any (·.kind.isDirectory) = true

namespace Files

variable {Name : Type u} {Data : Type v} [DecidableEq Name] (fs : Files Name Data)

/-- The file at a path, where no symbolic link is followed. -/
def lookup (p : Path Name) : Option (Node Name Data) :=
  fs.names.lookup p

def isDirectory (p : Path Name) : Bool :=
  (fs.lookup p).any (·.kind.isDirectory)

/-- The names in a directory. -/
def children (p : Path Name) : List Name :=
  fs.names.keys.filterMap fun
    | [] => none
    | n :: q => if q = p then some n else none

/-- Nothing but the root. -/
def onlyRoot : Files Name Data where
  names := (∅ : AList fun _ : Path Name => Node Name Data).insert []
    { inode := 0, kind := .directory }
  owner := fun _ => (0, 0)
  root := by
    rw [AList.lookup_insert]
    rfl
  parents := by
    intro n p h
    rw [AList.mem_insert] at h
    rcases h with heq | h
    · cases heq
    · exact absurd h (AList.notMem_empty _)

/-! ## What is there -/

variable {fs}

theorem isDirectory_iff {p : Path Name} :
    fs.isDirectory p = true ↔ ∃ node, fs.lookup p = some node ∧ node.kind.isDirectory = true := by
  unfold isDirectory
  cases fs.lookup p with
  | none => simp
  | some node => simp

theorem isDirectory_eq {p : Path Name} {node : Node Name Data} (h : fs.lookup p = some node) :
    fs.isDirectory p = node.kind.isDirectory := by
  rw [isDirectory, h]
  rfl

theorem isDirectory_congr {fs' : Files Name Data} {p : Path Name}
    (h : fs'.lookup p = fs.lookup p) : fs'.isDirectory p = fs.isDirectory p := by
  rw [isDirectory, h]
  rfl

theorem lookup_isSome_iff {p : Path Name} : (fs.lookup p).isSome ↔ p ∈ fs.names.keys := by
  rw [lookup, AList.lookup_isSome, AList.mem_keys]

theorem isDirectory_of_lookup {n : Name} {p : Path Name} (h : (fs.lookup (n :: p)).isSome) :
    fs.isDirectory p = true := by
  apply fs.parents n p
  rw [AList.mem_keys]
  exact lookup_isSome_iff.mp h

theorem isSome_of_isDirectory {p : Path Name} (h : fs.isDirectory p = true) :
    (fs.lookup p).isSome := by
  obtain ⟨node, hnode, -⟩ := isDirectory_iff.mp h
  rw [hnode]
  rfl

/-- The directories above a file are there. -/
theorem isSome_of_suffix {p q : Path Name} (hq : (fs.lookup q).isSome) (h : p <:+ q) :
    (fs.lookup p).isSome := by
  induction q with
  | nil => rwa [List.suffix_nil.mp h]
  | cons n q ih =>
    rcases List.suffix_cons_iff.mp h with rfl | h
    · exact hq
    · exact ih (isSome_of_isDirectory (isDirectory_of_lookup hq)) h

/-- Where there is nothing there is nothing below. -/
theorem lookup_eq_none_of_suffix {p q : Path Name} (hp : fs.lookup p = none) (h : p <:+ q) :
    fs.lookup q = none := by
  rw [← Option.not_isSome_iff_eq_none]
  intro hq
  have hsome := isSome_of_suffix hq h
  rw [hp] at hsome
  cases hsome

theorem isDirectory_of_suffix {p q : Path Name} (hq : fs.isDirectory q = true) (h : p <:+ q) :
    fs.isDirectory p = true := by
  induction q with
  | nil => rwa [List.suffix_nil.mp h]
  | cons n q ih =>
    rcases List.suffix_cons_iff.mp h with rfl | h
    · exact hq
    · exact ih (isDirectory_of_lookup (isSome_of_isDirectory hq)) h

theorem mem_children {n : Name} {p : Path Name} :
    n ∈ fs.children p ↔ (fs.lookup (n :: p)).isSome := by
  rw [children, List.mem_filterMap, lookup_isSome_iff]
  constructor
  · rintro ⟨q, hq, heq⟩
    cases q with
    | nil => cases heq
    | cons m q =>
      simp only [Option.ite_none_right_eq_some, Option.some.injEq] at heq
      obtain ⟨rfl, rfl⟩ := heq
      exact hq
  · intro h
    exact ⟨n :: p, h, by simp⟩

theorem nodup_children (p : Path Name) : (fs.children p).Nodup := by
  refine List.Nodup.filterMap ?_ (AList.keys_nodup _)
  intro q q' n hq hq'
  cases q with
  | nil => cases hq
  | cons m q =>
    cases q' with
    | nil => cases hq'
    | cons m' q' =>
      simp only [Option.mem_def, Option.ite_none_right_eq_some, Option.some.injEq] at hq hq'
      rw [hq.1, hq.2, hq'.1, hq'.2]

/-- Only a directory has names in it. -/
theorem children_eq_nil {p : Path Name} (h : fs.isDirectory p = false) : fs.children p = [] := by
  rw [List.eq_nil_iff_forall_not_mem]
  intro n hn
  rw [isDirectory_of_lookup (mem_children.mp hn)] at h
  cases h

/-- Below a path without names in it there is nothing. -/
theorem lookup_below {p : Path Name} (hp : fs.children p = []) {rel : Path Name}
    (hrel : rel ≠ []) : fs.lookup (rel ++ p) = none := by
  rcases rel.eq_nil_or_concat with rfl | ⟨front, n, rfl⟩
  · exact absurd rfl hrel
  · have hnone : fs.lookup (n :: p) = none := by
      rw [← Option.not_isSome_iff_eq_none, ← mem_children, hp]
      exact List.not_mem_nil
    rw [List.concat_eq_append, List.append_assoc]
    exact lookup_eq_none_of_suffix hnone (List.suffix_append front (n :: p))

/-! ## Changes -/

/-- The file at a path is taken away; it is no directory, or it is empty, and it is not the
root. -/
def erase (fs : Files Name Data) (p : Path Name) (hroot : p ≠ []) (h : fs.children p = []) :
    Files Name Data where
  names := fs.names.erase p
  owner := fs.owner
  root := by
    rw [AList.lookup_erase_ne hroot.symm]
    exact fs.root
  parents := by
    intro n q hmem
    rw [AList.mem_erase] at hmem
    have hq : q ≠ p := by
      rintro rfl
      have hn : n ∈ fs.children q :=
        mem_children.mpr (lookup_isSome_iff.mpr (AList.mem_keys.mp hmem.2))
      rw [h] at hn
      cases hn
    rw [AList.lookup_erase_ne hq]
    exact fs.parents n q hmem.2

@[simp] theorem lookup_erase (p q : Path Name) (hroot : p ≠ []) (h : fs.children p = []) :
    (fs.erase p hroot h).lookup q = if q = p then none else fs.lookup q := by
  split
  · next heq => rw [heq, lookup, erase, AList.lookup_erase]
  · next hne => rw [lookup, erase, AList.lookup_erase_ne hne]; rfl

/-- A file is put into a directory, in the place of one that is not a directory with something in
it. -/
def insert (fs : Files Name Data) (n : Name) (p : Path Name) (node : Node Name Data)
    (hp : fs.isDirectory p = true)
    (h : node.kind.isDirectory = true ∨ fs.children (n :: p) = []) : Files Name Data where
  names := fs.names.insert (n :: p) node
  owner := fs.owner
  root := by
    rw [AList.lookup_insert_ne (by simp)]
    exact fs.root
  parents := by
    intro m q hmem
    by_cases hq : q = n :: p
    · subst hq
      rw [AList.lookup_insert]
      rcases h with hkind | hempty
      · exact hkind
      · rw [AList.mem_insert] at hmem
        rcases hmem with heq | hmem
        · simp at heq
        · have hm : m ∈ fs.children (n :: p) :=
            mem_children.mpr (lookup_isSome_iff.mpr (AList.mem_keys.mp hmem))
          rw [hempty] at hm
          cases hm
    · rw [AList.lookup_insert_ne hq]
      rw [AList.mem_insert] at hmem
      rcases hmem with heq | hmem
      · obtain ⟨rfl, rfl⟩ := List.cons.inj heq
        exact hp
      · exact fs.parents m q hmem

@[simp] theorem lookup_insert (n : Name) (p q : Path Name) (node : Node Name Data)
    (hp : fs.isDirectory p = true)
    (h : node.kind.isDirectory = true ∨ fs.children (n :: p) = []) :
    (fs.insert n p node hp h).lookup q = if q = n :: p then some node else fs.lookup q := by
  split
  · next heq => rw [heq, lookup, insert, AList.lookup_insert]
  · next hne => rw [lookup, insert, AList.lookup_insert_ne hne]; rfl

/-! ## What a path leads to -/

variable (fs)

/-- The steps of a path from a directory on, with what is done where there is a symbolic link. -/
def followWith (onLink : Path Name → List (Step Name) → Option (Path Name)) :
    Path Name → List (Step Name) → Option (Path Name)
  | dir, [] => some dir
  | dir, .up :: rest => followWith onLink dir.tail rest
  | dir, .down n :: rest =>
    match (fs.lookup (n :: dir)).map Node.kind with
    | none => none
    | some .directory => followWith onLink (n :: dir) rest
    | some (.link target) => onLink (if target.absolute then [] else dir) (target.steps ++ rest)
    | some _ => if rest.isEmpty then some (n :: dir) else none

/-- The steps with no more than this many symbolic links. -/
def follow : Nat → Path Name → List (Step Name) → Option (Path Name)
  | 0 => fs.followWith fun _ _ => none
  | links + 1 => fs.followWith (follow links)

/-- The most symbolic links that are followed in a path. -/
def maxLinks : Nat := 40

/-- The directory that a path leads to. -/
def directoryAt (p : Path Name) : Option (Path Name) :=
  (fs.follow maxLinks [] (p.reverse.map .down)).filter fs.isDirectory

/-- The place that a path leads to, where a symbolic link at its end is not followed. -/
def locate : Path Name → Option (Path Name)
  | [] => some []
  | n :: p => (fs.directoryAt p).map (n :: ·)

def lstat (p : Path Name) : Option (Node Name Data) :=
  (fs.locate p).bind fs.lookup

/-! ## Operations -/

/-- `remove`: a directory has to be empty. -/
def delete (p : Path Name) : Option (Files Name Data) :=
  match fs.locate p with
  | none | some [] => none
  | some (n :: q) =>
    if h : fs.children (n :: q) = [] then
      if (fs.lookup (n :: q)).isSome then some (fs.erase (n :: q) (List.cons_ne_nil n q) h)
      else none
    else none

/-- A file gets another owner. -/
def setOwner (inode : Nat) (owner : Nat × Nat) : Files Name Data :=
  { fs with owner := fun i => if i = inode then owner else fs.owner i }

/-- `lchown`, as a change of the user and the group. -/
def changeOwner (p : Path Name) (change : Nat × Nat → Nat × Nat) : Option (Files Name Data) :=
  (fs.lstat p).map fun node => fs.setOwner node.inode (change (fs.owner node.inode))

/-- The number of a new file. -/
def freshInode : Nat :=
  (fs.names.entries.map (·.2.inode)).foldr max 0 + 1

/-- How `mkdir` ends. -/
inductive MadeDirectory (Name : Type u) (Data : Type v) [DecidableEq Name]
  | made (fs : Files Name Data)
  | exists
  | failed

/-- `mkdir` -/
def makeDirectory (p : Path Name) : MadeDirectory Name Data :=
  match fs.locate p with
  | none => .failed
  | some [] => .exists
  | some (n :: q) =>
    if (fs.lookup (n :: q)).isSome then .exists
    else if h : fs.isDirectory q = true then
      .made (fs.insert n q { inode := fs.freshInode, kind := .directory } h (.inl rfl))
    else .failed

/-- A new file is put in the place of what is there, unless that is a directory. -/
def put (p : Path Name) (kind : Kind Name Data) : Option (Files Name Data) :=
  match fs.locate p with
  | none | some [] => none
  | some (n :: q) =>
    if h : fs.isDirectory q = true ∧ fs.isDirectory (n :: q) = false then
      some (fs.insert n q { inode := fs.freshInode, kind := kind } h.1 (.inr (children_eq_nil h.2)))
    else none

variable {fs}

/-! ## Paths through directories -/

theorem followWith_directory (onLink : Path Name → List (Step Name) → Option (Path Name))
    {n : Name} {dir : Path Name} (h : fs.isDirectory (n :: dir) = true) (rest : List (Step Name)) :
    fs.followWith onLink dir (.down n :: rest) = fs.followWith onLink (n :: dir) rest := by
  obtain ⟨node, hnode, hkind⟩ := isDirectory_iff.mp h
  rw [followWith, hnode, Option.map_some, Kind.isDirectory_iff.mp hkind]

/-- The steps to a directory that is there. -/
theorem followWith_steps (onLink : Path Name → List (Step Name) → Option (Path Name))
    {p : Path Name} (h : fs.isDirectory p = true) (rest : List (Step Name)) :
    fs.followWith onLink [] (p.reverse.map .down ++ rest) = fs.followWith onLink p rest := by
  induction p generalizing rest with
  | nil => rfl
  | cons n p ih =>
    have hp : fs.isDirectory p = true := isDirectory_of_suffix h (List.suffix_cons n p)
    rw [List.reverse_cons, List.map_append, List.append_assoc, ih hp]
    exact followWith_directory onLink h rest

/-- The path of a directory that is there leads to itself. -/
theorem directoryAt_eq {p : Path Name} (h : fs.isDirectory p = true) :
    fs.directoryAt p = some p := by
  have hfollow : fs.follow maxLinks [] (p.reverse.map .down) = some p := by
    have hsteps := followWith_steps (fs.follow 39) h []
    rw [List.append_nil] at hsteps
    exact hsteps
  rw [directoryAt, hfollow, Option.filter_some_pos h]

theorem locate_cons {n : Name} {p : Path Name} (h : fs.isDirectory p = true) :
    fs.locate (n :: p) = some (n :: p) := by
  rw [locate, directoryAt_eq h]
  rfl

/-- The path of a file that is there leads to itself. -/
theorem locate_eq {p : Path Name} (h : (fs.lookup p).isSome) : fs.locate p = some p := by
  cases p with
  | nil => rfl
  | cons n p => exact locate_cons (isDirectory_of_lookup h)

theorem lstat_cons {n : Name} {p : Path Name} (h : fs.isDirectory p = true) :
    fs.lstat (n :: p) = fs.lookup (n :: p) := by
  rw [lstat, locate_cons h]
  rfl

theorem lstat_eq {p : Path Name} (h : (fs.lookup p).isSome) : fs.lstat p = fs.lookup p := by
  rw [lstat, locate_eq h]
  rfl

/-! ## What the operations change -/

/-- Only the file at the path is deleted. -/
theorem delete_eq_some {p : Path Name} (hp : (fs.lookup p).isSome) {fs' : Files Name Data}
    (h : fs.delete p = some fs') :
    (∀ q, fs'.lookup q = if q = p then none else fs.lookup q) ∧ fs'.owner = fs.owner := by
  rw [delete, locate_eq hp] at h
  cases p with
  | nil => cases h
  | cons n q =>
    simp only [Option.dite_none_right_eq_some, Option.ite_none_right_eq_some] at h
    obtain ⟨hempty, -, heq⟩ := h
    obtain rfl := Option.some.inj heq
    exact ⟨fun q' => lookup_erase _ q' _ hempty, rfl⟩

/-- A file with nothing in it can be deleted. -/
theorem exists_delete {p : Path Name} (hp : (fs.lookup p).isSome) (hroot : p ≠ [])
    (hempty : fs.children p = []) : ∃ fs', fs.delete p = some fs' := by
  rw [delete, locate_eq hp]
  cases p with
  | nil => exact absurd rfl hroot
  | cons n q =>
    simp only [dif_pos hempty, if_pos hp]
    exact ⟨_, rfl⟩

/-- A directory is made where there is nothing. -/
theorem makeDirectory_cons {n : Name} {dir : Path Name} (hdir : fs.isDirectory dir = true)
    (hnone : fs.lookup (n :: dir) = none) :
    ∃ fs', fs.makeDirectory (n :: dir) = .made fs' ∧ ∀ q, fs'.lookup q =
      if q = n :: dir then some { inode := fs.freshInode, kind := .directory }
      else fs.lookup q := by
  refine ⟨fs.insert n dir { inode := fs.freshInode, kind := .directory } hdir (.inl rfl), ?_,
    fun q => lookup_insert n dir q _ hdir (.inl rfl)⟩
  rw [makeDirectory, locate_cons hdir]
  simp only [hnone, Option.isSome_none, Bool.false_eq_true, if_false, dif_pos hdir]

theorem makeDirectory_exists {p : Path Name} (hp : (fs.lookup p).isSome) :
    fs.makeDirectory p = .exists := by
  rw [makeDirectory, locate_eq hp]
  cases p with
  | nil => rfl
  | cons n q => simp only [if_pos hp]

/-- A file is put where there is no directory. -/
theorem put_cons {n : Name} {dir : Path Name} (hdir : fs.isDirectory dir = true)
    (hfree : fs.isDirectory (n :: dir) = false) (kind : Kind Name Data) :
    ∃ fs', fs.put (n :: dir) kind = some fs' ∧ ∀ q, fs'.lookup q =
      if q = n :: dir then some { inode := fs.freshInode, kind := kind } else fs.lookup q := by
  have hempty : kind.isDirectory = true ∨ fs.children (n :: dir) = [] :=
    .inr (children_eq_nil hfree)
  refine ⟨fs.insert n dir { inode := fs.freshInode, kind := kind } hdir hempty, ?_,
    fun q => lookup_insert n dir q _ hdir hempty⟩
  simp only [put, locate_cons hdir]
  rw [dif_pos ⟨hdir, hfree⟩]

theorem put_over_directory {n : Name} {dir : Path Name} (hdir : fs.isDirectory dir = true)
    (hover : fs.isDirectory (n :: dir) = true) (kind : Kind Name Data) :
    fs.put (n :: dir) kind = none := by
  simp [put, locate_cons hdir, hover]

@[simp] theorem lookup_setOwner (inode : Nat) (owner : Nat × Nat) (q : Path Name) :
    (fs.setOwner inode owner).lookup q = fs.lookup q := rfl

@[simp] theorem owner_setOwner (inode : Nat) (owner : Nat × Nat) (i : Nat) :
    (fs.setOwner inode owner).owner i = if i = inode then owner else fs.owner i := rfl

theorem changeOwner_eq {p : Path Name} {node : Node Name Data} (hp : fs.lookup p = some node)
    (change : Nat × Nat → Nat × Nat) :
    fs.changeOwner p change = some (fs.setOwner node.inode (change (fs.owner node.inode))) := by
  rw [changeOwner, lstat_eq (by rw [hp]; rfl), hp]
  rfl

/-! ## The size of a tree -/

/-- The number of files in a tree. -/
def treeSize (fs : Files Name Data) (dir : Path Name) : Nat :=
  (fs.names.keys.filter fun q => dir <:+ q).length

theorem nodup_filter_keys (fs : Files Name Data) (dir : Path Name) :
    (fs.names.keys.filter fun q => dir <:+ q).Nodup :=
  (AList.keys_nodup fs.names).filter _

theorem mem_filter_keys {dir q : Path Name} :
    q ∈ (fs.names.keys.filter fun q => dir <:+ q) ↔ dir <:+ q ∧ (fs.lookup q).isSome := by
  rw [List.mem_filter, ← lookup_isSome_iff, decide_eq_true_iff, and_comm]

theorem treeSize_le {fs' : Files Name Data} {dir : Path Name}
    (h : ∀ q, dir <:+ q → (fs'.lookup q).isSome → (fs.lookup q).isSome) :
    fs'.treeSize dir ≤ fs.treeSize dir := by
  apply List.Subperm.length_le
  apply List.subperm_of_subset (nodup_filter_keys fs' dir)
  intro q hmem
  obtain ⟨hin, hq⟩ := mem_filter_keys.mp hmem
  exact mem_filter_keys.mpr ⟨hin, h q hin hq⟩

theorem treeSize_pos {dir : Path Name} (hdir : (fs.lookup dir).isSome) : 0 < fs.treeSize dir :=
  List.length_pos_of_mem (mem_filter_keys.mpr ⟨List.suffix_refl dir, hdir⟩)

/-- The tree of a file in a directory is smaller. -/
theorem treeSize_cons_lt {dir : Path Name} (hdir : (fs.lookup dir).isSome) (n : Name) :
    fs.treeSize (n :: dir) < fs.treeSize dir := by
  have hsub : List.Subperm (dir :: fs.names.keys.filter fun q => n :: dir <:+ q)
      (fs.names.keys.filter fun q => dir <:+ q) := by
    apply List.subperm_of_subset
    · refine List.nodup_cons.mpr ⟨?_, nodup_filter_keys fs (n :: dir)⟩
      intro hmem
      exact not_cons_suffix n dir (mem_filter_keys.mp hmem).1
    · intro q hmem
      rcases List.mem_cons.mp hmem with rfl | hmem
      · exact mem_filter_keys.mpr ⟨List.suffix_refl q, hdir⟩
      · obtain ⟨hin, hq⟩ := mem_filter_keys.mp hmem
        exact mem_filter_keys.mpr ⟨(List.suffix_cons n dir).trans hin, hq⟩
  exact hsub.length_le

theorem treeSize_le_length (fs : Files Name Data) (dir : Path Name) :
    fs.treeSize dir ≤ fs.names.keys.length :=
  List.length_filter_le _ _

end Files

end FileSystem
