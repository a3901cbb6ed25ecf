import Gdm.Common.Containment

/-!
# Copies of directories

A copy puts the source over what the destination has, and where it fails the destination is
removed with all that it had before.  Where no directory of the source meets a symbolic link or
another file in the destination, everything is made in the place that it is meant for.
-/

namespace Gdm

open FileSystem

universe u v

variable {Name : Type u} {Data : Type v} [DecidableEq Name]

/-- What the destination holds after a copy: all that it held before if the copy fails, and else
the source and what it held before at other paths. -/
structure CopiesRight (fs : Files Name Data) (source dest : Path Name) (fs' : Files Name Data)
    (ok : Bool) : Prop where
  failure : ok = false → ∀ rel, rel ≠ [] → ∀ node, fs.lookup (rel ++ dest) = some node →
    fs'.lookup (rel ++ dest) = some node
  copied : ok = true → ∀ rel node, fs.lookup (rel ++ source) = some node →
    ∃ node', fs'.lookup (rel ++ dest) = some node' ∧ node'.kind = node.kind
  kept : ok = true → ∀ rel node, fs.lookup (rel ++ source) = none →
    fs.lookup (rel ++ dest) = some node → fs'.lookup (rel ++ dest) = some node

/-- Where the source has a directory the destination has nothing or a directory. -/
def DirectoriesMeet (fs : Files Name Data) (source dest : Path Name) : Prop :=
  ∀ rel, fs.isDirectory (rel ++ source) = true →
    fs.lookup (rel ++ dest) = none ∨ fs.isDirectory (rel ++ dest) = true

/-- The step for a file of the source does not fail: a directory can be read and made, and another
file can be copied and is not in the place of a directory. -/
def StepWorks (reading : DirectoryReading Name Data) (faults : CopyFaults Name)
    (fs : Files Name Data) (source dest : Path Name) (node : Node Name Data) : Prop :=
  if node.kind.isDirectory then
    reading.failsAfter source = none ∧ faults.makeDirectory dest = false
  else node.kind ≠ .special ∧ faults.copy dest = false ∧ fs.isDirectory dest = false

/-- No step of the copy fails. -/
def StepsWork (reading : DirectoryReading Name Data) (faults : CopyFaults Name)
    (fs : Files Name Data) (source dest : Path Name) : Prop :=
  ∀ rel node, fs.lookup (rel ++ source) = some node →
    StepWorks reading faults fs (rel ++ source) (rel ++ dest) node

/-- There is nothing that can be lost, or nothing that goes wrong. -/
def CanCopy (reading : DirectoryReading Name Data) (faults : CopyFaults Name)
    (fs : Files Name Data) (source dest : Path Name) : Prop :=
  fs.children dest = [] ∨
    (fs.isDirectory source = true ∧ DirectoriesMeet fs source dest ∧
      StepsWork reading faults fs source dest)

/-- The clean-up can read all directories and delete all files. -/
structure CleanUpWorks (cleanUp : DirectoryReading Name Data) (failsToDelete : Path Name → Bool) :
    Prop where
  reads : ∀ q, cleanUp.failsAfter q = none
  deletes : ∀ q, failsToDelete q = false

/-- `gdm_copy_dir_recursively` ends, and leaves what it ought to. -/
def CopyEndsRight (reading : DirectoryReading Name Data) (faults : CopyFaults Name)
    (cleanUp : DirectoryReading Name Data) (failsToDelete : Path Name → Bool) (depth : Nat)
    (fs : Files Name Data) (source dest : Path Name) : Prop :=
  ∃ fs' ok, gdmCopyDirRecursively reading faults cleanUp failsToDelete depth source dest fs =
      some (fs', ok) ∧
    CopiesRight fs source dest fs' ok

/-! ## What a copy leaves alone -/

/-- What is there stays there, and directories stay directories. -/
def Grows (fs fs' : Files Name Data) : Prop :=
  ∀ q node, fs.lookup q = some node →
    ∃ node', fs'.lookup q = some node' ∧ node'.kind.isDirectory = node.kind.isDirectory

section

variable {reading : DirectoryReading Name Data} {faults : CopyFaults Name}
  {fs fs' : Files Name Data}

theorem Grows.refl (fs : Files Name Data) : Grows fs fs :=
  fun _ node hnode => ⟨node, hnode, rfl⟩

theorem Grows.trans {fs'' : Files Name Data} (h : Grows fs fs') (h' : Grows fs' fs'') :
    Grows fs fs'' := by
  intro q node hnode
  obtain ⟨node', hnode', hkind⟩ := h q node hnode
  obtain ⟨node'', hnode'', hkind'⟩ := h' q node' hnode'
  exact ⟨node'', hnode'', hkind'.trans hkind⟩

theorem Grows.isDirectory (h : Grows fs fs') {q : Path Name} (hq : fs.isDirectory q = true) :
    fs'.isDirectory q = true := by
  obtain ⟨node, hnode, hkind⟩ := Files.isDirectory_iff.mp hq
  obtain ⟨node', hnode', hkind'⟩ := h q node hnode
  exact Files.isDirectory_iff.mpr ⟨node', hnode', hkind'.trans hkind⟩

theorem grows_of_makeDirectory {p : Path Name} (h : fs.makeDirectory p = .made fs') :
    Grows fs fs' := by
  unfold Files.makeDirectory at h
  split at h
  · cases h
  · cases h
  · next n q _ =>
    split at h
    · cases h
    · next hnone =>
      split at h
      · obtain rfl := Files.MadeDirectory.made.inj h
        intro q' node hnode
        refine ⟨node, ?_, rfl⟩
        rw [Files.lookup_insert, if_neg]
        · exact hnode
        · rintro rfl
          rw [hnode] at hnone
          exact hnone rfl
      · cases h

theorem grows_of_put {p : Path Name} {kind : Kind Name Data} (hkind : kind.isDirectory = false)
    (h : fs.put p kind = some fs') : Grows fs fs' := by
  unfold Files.put at h
  split at h
  · cases h
  · cases h
  · next n q _ =>
    simp only [Option.dite_none_right_eq_some] at h
    obtain ⟨⟨hq, hnot⟩, heq⟩ := h
    obtain rfl := Option.some.inj heq
    intro q' node hnode
    rw [Files.lookup_insert]
    split
    · next heq =>
      refine ⟨_, rfl, ?_⟩
      rw [heq] at hnode
      rw [Files.isDirectory_eq hnode] at hnot
      exact hkind.trans hnot.symm
    · exact ⟨node, hnode, rfl⟩

theorem grows_of_gFileCopy {source dest : Path Name}
    (h : gFileCopy faults source dest fs = some fs') : Grows fs fs' := by
  unfold gFileCopy at h
  split at h
  · cases h
  · split at h
    · cases h
    · cases h
    · cases h
    · next kind hdirectory _ _ =>
      refine grows_of_put ?_ h
      cases kind with
      | directory => exact absurd rfl hdirectory
      | _ => rfl

theorem grows_of_copyEntry
    {recurse : Path Name → Path Name → Files Name Data → Option (Files Name Data × Bool)}
    (hrecurse : ∀ source dest fs fs' ok, recurse source dest fs = some (fs', ok) → Grows fs fs')
    {info : Node Name Data} {source dest : Path Name} {ok : Bool}
    (h : copyEntry faults recurse info source dest fs = some (fs', ok)) : Grows fs fs' := by
  unfold copyEntry at h
  split at h
  · exact hrecurse _ _ _ _ _ h
  · split at h
    · obtain ⟨rfl, -⟩ := Prod.mk.inj (Option.some.inj h)
      exact .refl fs
    · next hcopy =>
      obtain ⟨rfl, -⟩ := Prod.mk.inj (Option.some.inj h)
      exact grows_of_gFileCopy hcopy

theorem grows_of_copyEntries
    {recurse : Path Name → Path Name → Files Name Data → Option (Files Name Data × Bool)}
    (hrecurse : ∀ source dest fs fs' ok, recurse source dest fs = some (fs', ok) → Grows fs fs')
    {source dest : Path Name} {names : List Name} {ok : Bool}
    (h : copyEntries faults recurse source dest names fs = some (fs', ok)) : Grows fs fs' := by
  induction names generalizing fs with
  | nil =>
    obtain ⟨rfl, -⟩ := Prod.mk.inj (Option.some.inj h)
    exact .refl fs
  | cons n names ih =>
    rw [copyEntries] at h
    split at h
    · exact ih h
    · obtain ⟨⟨first, done⟩, hfirst, hrest⟩ := Option.bind_eq_some_iff.mp h
      refine (grows_of_copyEntry hrecurse hfirst).trans ?_
      simp only at hrest
      split at hrest
      · exact ih hrest
      · obtain ⟨rfl, -⟩ := Prod.mk.inj (Option.some.inj hrest)
        exact .refl first

theorem grows_of_recursiveCopyDir {depth : Nat} {source dest : Path Name} {ok : Bool}
    (h : recursiveCopyDir reading faults depth source dest fs = some (fs', ok)) :
    Grows fs fs' := by
  induction depth generalizing source dest fs fs' ok with
  | zero => cases h
  | succ depth ih =>
    have hinto : ∀ {fs : Files Name Data},
        copyInto reading faults (recursiveCopyDir reading faults depth) source dest fs =
          some (fs', ok) → Grows fs fs' := by
      intro fs hcopy
      unfold copyInto at hcopy
      split at hcopy
      · obtain ⟨rfl, -⟩ := Prod.mk.inj (Option.some.inj hcopy)
        exact .refl fs
      · obtain ⟨⟨fs₁, done⟩, hentries, heq⟩ := Option.map_eq_some_iff.mp hcopy
        obtain ⟨rfl, -⟩ := Prod.mk.inj heq
        exact grows_of_copyEntries (fun _ _ _ _ _ => ih) hentries
    rw [recursiveCopyDir] at h
    split at h
    · obtain ⟨rfl, -⟩ := Prod.mk.inj (Option.some.inj h)
      exact .refl fs
    · exact hinto h
    · next fs₁ hmade =>
      refine Grows.trans ?_ (hinto h)
      split at hmade
      · cases hmade
      · exact grows_of_makeDirectory hmade

/-! ## Trees that stay as they are -/

/-- The tree of a path is the same. -/
def SameTree (fs fs' : Files Name Data) (p : Path Name) : Prop :=
  ∀ q, p <:+ q → fs'.lookup q = fs.lookup q

theorem SameTree.cons {p : Path Name} (h : SameTree fs fs' p) (n : Name) :
    SameTree fs fs' (n :: p) :=
  fun q hin => h q ((List.suffix_cons n p).trans hin)

theorem SameTree.isDirectory {p : Path Name} (h : SameTree fs fs' p) {q : Path Name}
    (hin : p <:+ q) : fs'.isDirectory q = fs.isDirectory q :=
  Files.isDirectory_congr (h q hin)

theorem SameTree.directoriesMeet {source dest : Path Name} (hsource : SameTree fs fs' source)
    (hdest : SameTree fs fs' dest) (h : DirectoriesMeet fs source dest) :
    DirectoriesMeet fs' source dest := by
  intro rel
  rw [hsource.isDirectory (List.suffix_append rel source),
    hdest.isDirectory (List.suffix_append rel dest), hdest _ (List.suffix_append rel dest)]
  exact h rel

theorem SameTree.stepsWork_iff {source dest : Path Name} (hsource : SameTree fs fs' source)
    (hdest : SameTree fs fs' dest) :
    StepsWork reading faults fs' source dest ↔ StepsWork reading faults fs source dest := by
  have hstep : ∀ rel node, StepWorks reading faults fs' (rel ++ source) (rel ++ dest) node ↔
      StepWorks reading faults fs (rel ++ source) (rel ++ dest) node := by
    intro rel node
    rw [StepWorks, StepWorks, hdest.isDirectory (List.suffix_append rel dest)]
  simp only [StepsWork, hsource _ (List.suffix_append _ source), hstep]

theorem SameTree.treeSize_le {p : Path Name} (h : SameTree fs fs' p) :
    fs'.treeSize p ≤ fs.treeSize p :=
  Files.treeSize_le fun q hin hq => by rwa [h q hin] at hq

theorem DirectoriesMeet.cons {source dest : Path Name} (h : DirectoriesMeet fs source dest)
    (n : Name) : DirectoriesMeet fs (n :: source) (n :: dest) := by
  intro rel
  have hrel := h (rel ++ [n])
  rwa [List.append_assoc, List.append_assoc] at hrel

theorem stepsWork_of_none {source dest : Path Name} (h : fs.lookup source = none) :
    StepsWork reading faults fs source dest := by
  intro rel node hnode
  rw [Files.lookup_eq_none_of_suffix h (List.suffix_append rel source)] at hnode
  cases hnode

theorem stepsWork_iff {source dest : Path Name} (hsource : fs.isDirectory source = true) :
    StepsWork reading faults fs source dest ↔
      (reading.failsAfter source = none ∧ faults.makeDirectory dest = false) ∧
        ∀ n, StepsWork reading faults fs (n :: source) (n :: dest) := by
  obtain ⟨info, hinfo, hkind⟩ := Files.isDirectory_iff.mp hsource
  have hfirst : (∀ node, fs.lookup ([] ++ source) = some node →
      StepWorks reading faults fs ([] ++ source) ([] ++ dest) node) ↔
        reading.failsAfter source = none ∧ faults.makeDirectory dest = false := by
    simp [hinfo, StepWorks, hkind]
  rw [StepsWork, forall_path_iff, hfirst]
  refine and_congr_right fun _ => forall_congr' fun n => forall_congr' fun rel => ?_
  rw [List.append_assoc, List.append_assoc]
  rfl

/-- The source has been put over the destination. -/
def Overlaid (fs fs' : Files Name Data) (source dest : Path Name) : Prop :=
  ∀ rel, (∀ node, fs.lookup (rel ++ source) = some node →
      ∃ node', fs'.lookup (rel ++ dest) = some node' ∧ node'.kind = node.kind) ∧
    (fs.lookup (rel ++ source) = none → fs'.lookup (rel ++ dest) = fs.lookup (rel ++ dest))

theorem overlaid_of_none {source dest : Path Name} (h : fs.lookup source = none)
    (hdest : SameTree fs fs' dest) : Overlaid fs fs' source dest := by
  intro rel
  constructor
  · intro node hnode
    rw [Files.lookup_eq_none_of_suffix h (List.suffix_append rel source)] at hnode
    cases hnode
  · intro _
    exact hdest _ (List.suffix_append rel dest)

theorem Overlaid.after {fs'' : Files Name Data} {source dest : Path Name}
    (h : Overlaid fs fs' source dest) (hdest : SameTree fs' fs'' dest) :
    Overlaid fs fs'' source dest := by
  intro rel
  rw [hdest _ (List.suffix_append rel dest)]
  exact h rel

theorem Overlaid.before {fs'' : Files Name Data} {source dest : Path Name}
    (h : Overlaid fs' fs'' source dest) (hsource : SameTree fs fs' source)
    (hdest : SameTree fs fs' dest) : Overlaid fs fs'' source dest := by
  intro rel
  rw [← hsource _ (List.suffix_append rel source), ← hdest _ (List.suffix_append rel dest)]
  exact h rel

/-- A copy puts the source over the destination if no step of it fails, and changes nothing
else. -/
structure CopiesTree (reading : DirectoryReading Name Data) (faults : CopyFaults Name)
    (fs : Files Name Data) (source dest : Path Name) (result : Files Name Data × Bool) : Prop where
  frame : ∀ q, ¬ dest <:+ q → result.1.lookup q = fs.lookup q
  overlaid : result.2 = true → Overlaid fs result.1 source dest
  works : result.2 = true ↔ StepsWork reading faults fs source dest

/-- What a copy of a directory does, if its tree is not too large. -/
def CopiesTrees (reading : DirectoryReading Name Data) (faults : CopyFaults Name) (depth : Nat)
    (recurse : Path Name → Path Name → Files Name Data → Option (Files Name Data × Bool)) :
    Prop :=
  ∀ fs source n dir, fs.isDirectory source = true → fs.isDirectory dir = true →
    Apart source (n :: dir) → DirectoriesMeet fs source (n :: dir) →
    fs.treeSize source ≤ depth →
    ∃ result, recurse source (n :: dir) fs = some result ∧
      CopiesTree reading faults fs source (n :: dir) result

/-! ## One file -/

theorem stepsWork_iff_of_file {source dest : Path Name} {info : Node Name Data}
    (hinfo : fs.lookup source = some info) (hkind : info.kind.isDirectory = false) :
    StepsWork reading faults fs source dest ↔ StepWorks reading faults fs source dest info := by
  have hsource : fs.isDirectory source = false := (Files.isDirectory_eq hinfo).trans hkind
  constructor
  · intro h
    exact h [] info hinfo
  · intro h rel node hnode
    by_cases hrel : rel = []
    · subst hrel
      rw [List.nil_append, hinfo, Option.some.injEq] at hnode
      exact hnode ▸ h
    · rw [Files.lookup_below (Files.children_eq_nil hsource) hrel] at hnode
      cases hnode

/-- A file that is not a directory is copied, unless its step fails. -/
theorem gFileCopy_eq {source dir : Path Name} {n : Name} {info : Node Name Data}
    (hinfo : fs.lookup source = some info) (hkind : info.kind.isDirectory = false)
    (hdir : fs.isDirectory dir = true) :
    (¬ StepWorks reading faults fs source (n :: dir) info ∧
        gFileCopy faults source (n :: dir) fs = none) ∨
      (StepWorks reading faults fs source (n :: dir) info ∧
        ∃ fs' inode, gFileCopy faults source (n :: dir) fs = some fs' ∧ ∀ q, fs'.lookup q =
          if q = n :: dir then some { inode := inode, kind := info.kind } else fs.lookup q) := by
  have hstep : StepWorks reading faults fs source (n :: dir) info ↔
      info.kind ≠ .special ∧ faults.copy (n :: dir) = false ∧
        fs.isDirectory (n :: dir) = false := by
    rw [StepWorks, if_neg (by simp [hkind])]
  rw [hstep, gFileCopy, Files.lstat_eq (by rw [hinfo]; rfl), hinfo, Option.map_some]
  by_cases hfault : faults.copy (n :: dir) = true
  · simp [hfault]
  · rw [if_neg hfault]
    by_cases hover : fs.isDirectory (n :: dir) = true
    · refine .inl ⟨by simp [hover], ?_⟩
      cases info.kind <;> simp [Files.put_over_directory hdir hover]
    · have hfree : fs.isDirectory (n :: dir) = false := Bool.eq_false_iff.mpr hover
      have hput : ∀ kind : Kind Name Data, ∃ fs' inode, fs.put (n :: dir) kind = some fs' ∧
          ∀ q, fs'.lookup q =
            if q = n :: dir then some { inode := inode, kind := kind } else fs.lookup q := by
        intro kind
        obtain ⟨fs', hput, hlookup⟩ := Files.put_cons hdir hfree kind
        exact ⟨fs', _, hput, hlookup⟩
      cases hcases : info.kind with
      | directory => simp [hcases, Kind.isDirectory] at hkind
      | special => exact .inl ⟨by simp, rfl⟩
      | regular data => exact .inr ⟨by simp [hfault, hover], hput (.regular data)⟩
      | link target => exact .inr ⟨by simp [hfault, hover], hput (.link target)⟩

/-- One round of the loop copies the tree of its name. -/
theorem copyEntry_spec {depth : Nat}
    {recurse : Path Name → Path Name → Files Name Data → Option (Files Name Data × Bool)}
    (hrecurse : CopiesTrees reading faults depth recurse) {source dir : Path Name} {n : Name}
    {info : Node Name Data} (hinfo : fs.lookup source = some info)
    (hdir : fs.isDirectory dir = true) (hapart : Apart source (n :: dir))
    (hmeet : DirectoriesMeet fs source (n :: dir)) (hsize : fs.treeSize source ≤ depth) :
    ∃ result, copyEntry faults recurse info source (n :: dir) fs = some result ∧
      CopiesTree reading faults fs source (n :: dir) result := by
  unfold copyEntry
  by_cases hkind : info.kind.isDirectory = true
  · rw [if_pos hkind]
    exact hrecurse fs source n dir (Files.isDirectory_iff.mpr ⟨info, hinfo, hkind⟩) hdir hapart
      hmeet hsize
  · rw [if_neg hkind]
    have hfile : info.kind.isDirectory = false := Bool.eq_false_iff.mpr hkind
    have hsource : fs.isDirectory source = false := (Files.isDirectory_eq hinfo).trans hfile
    obtain ⟨hnot, hcopy⟩ | ⟨hstep, fs', inode, hcopy, hlookup⟩ :=
      @gFileCopy_eq _ _ _ reading faults _ _ _ n _ hinfo hfile hdir
    · rw [hcopy]
      refine ⟨_, rfl, fun q _ => rfl, by simp, ?_⟩
      rw [stepsWork_iff_of_file hinfo hfile]
      simp [hnot]
    · rw [hcopy]
      refine ⟨_, rfl, ?_, ?_, ?_⟩
      · intro q hnot
        rw [hlookup, if_neg]
        rintro rfl
        exact hnot (List.suffix_refl _)
      · intro _ rel
        by_cases hrel : rel = []
        · subst hrel
          simp [hinfo, hlookup]
        · rw [Files.lookup_below (Files.children_eq_nil hsource) hrel, hlookup, if_neg]
          · simp
          · intro heq
            exact hrel (List.append_left_eq_self.mp heq)
      · rw [stepsWork_iff_of_file hinfo hfile]
        simp [hstep]

/-! ## The loop and the directory -/

/-- The files with these names are copied, unless a step for one of them fails. -/
structure CopiesNames (reading : DirectoryReading Name Data) (faults : CopyFaults Name)
    (fs : Files Name Data) (source dest : Path Name) (names : List Name)
    (result : Files Name Data × Bool) : Prop where
  frame : ∀ q, (∀ n ∈ names, ¬ n :: dest <:+ q) → result.1.lookup q = fs.lookup q
  overlaid : result.2 = true → ∀ n ∈ names, Overlaid fs result.1 (n :: source) (n :: dest)
  works : result.2 = true ↔ ∀ n ∈ names, StepsWork reading faults fs (n :: source) (n :: dest)

theorem CopiesNames.cons_of_none {source dest : Path Name} {n : Name} {names : List Name}
    {result : Files Name Data × Bool} (h : CopiesNames reading faults fs source dest names result)
    (hn : n ∉ names) (hnone : fs.lookup (n :: source) = none) :
    CopiesNames reading faults fs source dest (n :: names) result where
  frame q hq := h.frame q fun m hm => hq m (List.mem_cons_of_mem _ hm)
  overlaid hok := by
    refine List.forall_mem_cons.mpr ⟨overlaid_of_none hnone ?_, h.overlaid hok⟩
    intro q hin
    exact h.frame q fun m hm hin' => hn (eq_of_cons_suffix hin hin' ▸ hm)
  works := by
    rw [List.forall_mem_cons, h.works]
    exact (and_iff_right (stepsWork_of_none hnone)).symm

/-- The tree of one name does not matter for another. -/
theorem CopiesTree.sameTree {source dest : Path Name} {n m : Name}
    {result : Files Name Data × Bool}
    (h : CopiesTree reading faults fs (n :: source) (n :: dest) result)
    (hapart : Apart source dest) (hne : m ≠ n) :
    SameTree fs result.1 (m :: source) ∧ SameTree fs result.1 (m :: dest) := by
  constructor
  · intro q hin
    refine h.frame q fun hin' => ?_
    exact hapart.not_suffix ((List.suffix_cons m source).trans hin)
      ((List.suffix_cons n dest).trans hin')
  · intro q hin
    exact h.frame q fun hin' => hne (eq_of_cons_suffix hin hin')

theorem CopiesTree.cons {source dest : Path Name} {n : Name} {names : List Name}
    {first result : Files Name Data × Bool}
    (h : CopiesTree reading faults fs (n :: source) (n :: dest) first) (hok : first.2 = true)
    (hrest : CopiesNames reading faults first.1 source dest names result)
    (hapart : Apart source dest) (hn : n ∉ names) :
    CopiesNames reading faults fs source dest (n :: names) result where
  frame q hq := by
    rw [hrest.frame q fun m hm => hq m (List.mem_cons_of_mem _ hm)]
    exact h.frame q (hq n List.mem_cons_self)
  overlaid hdone := by
    refine List.forall_mem_cons.mpr ⟨(h.overlaid hok).after ?_, ?_⟩
    · intro q hin
      exact hrest.frame q fun m hm hin' => hn (eq_of_cons_suffix hin hin' ▸ hm)
    · intro m hm
      obtain ⟨hsource, hdest⟩ := h.sameTree hapart (ne_of_mem_of_not_mem hm hn)
      exact (hrest.overlaid hdone m hm).before hsource hdest
  works := by
    have hsteps : ∀ m ∈ names, (StepsWork reading faults first.1 (m :: source) (m :: dest) ↔
        StepsWork reading faults fs (m :: source) (m :: dest)) := by
      intro m hm
      obtain ⟨hsource, hdest⟩ := h.sameTree hapart (ne_of_mem_of_not_mem hm hn)
      exact hsource.stepsWork_iff hdest
    rw [List.forall_mem_cons, hrest.works, forall₂_congr hsteps]
    exact (and_iff_right (h.works.mp hok)).symm

theorem CopiesTree.cons_of_fails {source dest : Path Name} {n : Name} {names : List Name}
    {first : Files Name Data × Bool}
    (h : CopiesTree reading faults fs (n :: source) (n :: dest) first) (hok : first.2 = false) :
    CopiesNames reading faults fs source dest (n :: names) first where
  frame q hq := h.frame q (hq n List.mem_cons_self)
  overlaid hdone := by
    rw [hok] at hdone
    cases hdone
  works := by
    rw [List.forall_mem_cons, ← h.works, hok]
    simp

/-- The loop copies the files of its names, one after the other. -/
theorem copyEntries_spec {depth : Nat}
    {recurse : Path Name → Path Name → Files Name Data → Option (Files Name Data × Bool)}
    (hrecurse : CopiesTrees reading faults depth recurse) {source dest : Path Name}
    {names : List Name} (hnodup : names.Nodup) (hapart : Apart source dest)
    (hsource : fs.isDirectory source = true) (hdest : fs.isDirectory dest = true)
    (hmeet : ∀ n ∈ names, DirectoriesMeet fs (n :: source) (n :: dest))
    (hsize : ∀ n ∈ names, fs.treeSize (n :: source) ≤ depth) :
    ∃ result, copyEntries faults recurse source dest names fs = some result ∧
      CopiesNames reading faults fs source dest names result := by
  induction names generalizing fs with
  | nil => exact ⟨_, rfl, fun _ _ => rfl, by simp, by simp⟩
  | cons n names ih =>
    obtain ⟨hn, hnames⟩ := List.nodup_cons.mp hnodup
    obtain ⟨hmeetFirst, hmeetRest⟩ := List.forall_mem_cons.mp hmeet
    obtain ⟨hsizeFirst, hsizeRest⟩ := List.forall_mem_cons.mp hsize
    rw [copyEntries, Files.lstat_cons hsource]
    cases hinfo : fs.lookup (n :: source) with
    | none =>
      obtain ⟨result, hresult, hcopies⟩ := ih hnames hsource hdest hmeetRest hsizeRest
      exact ⟨result, hresult, hcopies.cons_of_none hn hinfo⟩
    | some info =>
      obtain ⟨⟨fs₁, ok⟩, hfirst, hcopies⟩ :=
        copyEntry_spec hrecurse hinfo hdest (hapart.cons n n) hmeetFirst hsizeFirst
      simp only [hfirst, Option.bind_some]
      cases ok with
      | false => exact ⟨_, rfl, hcopies.cons_of_fails rfl⟩
      | true =>
        have hsource' : fs₁.isDirectory source = true := by
          rw [Files.isDirectory_congr (hcopies.frame source fun hin =>
            hapart.2 ((List.suffix_cons n dest).trans hin))]
          exact hsource
        have hdest' : fs₁.isDirectory dest = true := by
          rw [Files.isDirectory_congr (hcopies.frame dest (not_cons_suffix n dest))]
          exact hdest
        have hsame : ∀ m ∈ names, SameTree fs fs₁ (m :: source) ∧ SameTree fs fs₁ (m :: dest) :=
          fun m hm => hcopies.sameTree hapart (ne_of_mem_of_not_mem hm hn)
        obtain ⟨result, hresult, hrest⟩ := ih hnames hsource' hdest'
          (fun m hm => (hsame m hm).1.directoriesMeet (hsame m hm).2 (hmeetRest m hm))
          (fun m hm => (hsame m hm).1.treeSize_le.trans (hsizeRest m hm))
        exact ⟨result, hresult, hcopies.cons rfl hrest hapart hn⟩

/-- What has been made in a directory that is there already. -/
structure CopiesInto (reading : DirectoryReading Name Data) (faults : CopyFaults Name)
    (fs : Files Name Data) (source dest : Path Name) (result : Files Name Data × Bool) : Prop where
  frame : ∀ q, (∀ n, ¬ n :: dest <:+ q) → result.1.lookup q = fs.lookup q
  overlaid : result.2 = true → ∀ n, Overlaid fs result.1 (n :: source) (n :: dest)
  works : result.2 = true ↔ reading.failsAfter source = none ∧
    ∀ n, StepsWork reading faults fs (n :: source) (n :: dest)

theorem copyInto_spec {depth : Nat}
    {recurse : Path Name → Path Name → Files Name Data → Option (Files Name Data × Bool)}
    (hrecurse : CopiesTrees reading faults depth recurse) {source dest : Path Name}
    (hapart : Apart source dest) (hsource : fs.isDirectory source = true)
    (hdest : fs.isDirectory dest = true)
    (hmeet : ∀ n, DirectoriesMeet fs (n :: source) (n :: dest))
    (hsize : ∀ n, fs.treeSize (n :: source) ≤ depth) :
    ∃ result, copyInto reading faults recurse source dest fs = some result ∧
      CopiesInto reading faults fs source dest result := by
  obtain ⟨⟨fs', done⟩, hentries, hcopies⟩ := copyEntries_spec hrecurse
    (nodup_read fs source : (reading.read fs source).1.Nodup) hapart hsource hdest
    (fun n _ => hmeet n) (fun n _ => hsize n)
  refine ⟨(fs', done && (reading.read fs source).2), ?_, ?_, ?_, ?_⟩
  · simp only [copyInto, Files.directoryAt_eq hsource, hentries, Option.map_some]
  · intro q hq
    exact hcopies.frame q fun n _ => hq n
  · intro hok n
    obtain ⟨hdone, hcomplete⟩ := Bool.and_eq_true_iff.mp hok
    by_cases hn : n ∈ (reading.read fs source).1
    · exact hcopies.overlaid hdone n hn
    · refine overlaid_of_none ?_ fun q hin => hcopies.frame q fun m hm hin' => ?_
      · rw [mem_read_iff (read_complete_iff.mp hcomplete), Files.mem_children] at hn
        exact Option.not_isSome_iff_eq_none.mp hn
      · exact hn (eq_of_cons_suffix hin hin' ▸ hm)
  · rw [Bool.and_eq_true_iff, read_complete_iff, hcopies.works, and_comm]
    refine and_congr_right fun hreads => ⟨?_, fun hall n _ => hall n⟩
    intro hnames n
    by_cases hn : n ∈ (reading.read fs source).1
    · exact hnames n hn
    · rw [mem_read_iff hreads, Files.mem_children] at hn
      exact stepsWork_of_none (Option.not_isSome_iff_eq_none.mp hn)

/-- The files as they are when the directory of the destination has been made. -/
theorem CopiesInto.copiesTree {fs₁ : Files Name Data} {source dest : Path Name}
    {result : Files Name Data × Bool} (h : CopiesInto reading faults fs₁ source dest result)
    (hapart : Apart source dest) (hsource : fs.isDirectory source = true)
    (hdest : fs₁.isDirectory dest = true) (hsame : ∀ q, q ≠ dest → fs₁.lookup q = fs.lookup q)
    (hmake : faults.makeDirectory dest = false) :
    CopiesTree reading faults fs source dest result := by
  have hsameSource : ∀ n, SameTree fs fs₁ (n :: source) := by
    rintro n q hin
    apply hsame
    rintro rfl
    exact hapart.1 ((List.suffix_cons n source).trans hin)
  have hsameDest : ∀ n, SameTree fs fs₁ (n :: dest) := by
    rintro n q hin
    apply hsame
    rintro rfl
    exact not_cons_suffix n q hin
  refine ⟨?_, ?_, ?_⟩
  · intro q hq
    rw [h.frame q fun n hin => hq ((List.suffix_cons n dest).trans hin)]
    apply hsame
    rintro rfl
    exact hq (List.suffix_refl q)
  · intro hok
    refine forall_path_iff.mpr ⟨⟨?_, ?_⟩, ?_⟩
    · -- the directory itself
      intro node hnode
      obtain ⟨info, hinfo, hkind⟩ := Files.isDirectory_iff.mp hsource
      obtain ⟨node', hnode', hkind'⟩ := Files.isDirectory_iff.mp hdest
      rw [List.nil_append, hinfo, Option.some.injEq] at hnode
      refine ⟨node', ?_, ?_⟩
      · rw [List.nil_append, h.frame dest fun n => not_cons_suffix n dest, hnode']
      · rw [← hnode, Kind.isDirectory_iff.mp hkind, Kind.isDirectory_iff.mp hkind']
    · intro hnone
      rw [List.nil_append] at hnone
      simp [Files.isDirectory, hnone] at hsource
    · intro n rel
      have hrel := (h.overlaid hok n).before (hsameSource n) (hsameDest n) rel
      rwa [List.append_assoc, List.append_assoc]
  · rw [h.works, stepsWork_iff hsource]
    have hsteps : ∀ n, StepsWork reading faults fs₁ (n :: source) (n :: dest) ↔
        StepsWork reading faults fs (n :: source) (n :: dest) :=
      fun n => (hsameSource n).stepsWork_iff (hsameDest n)
    simp only [hmake, and_true, hsteps]

/-- A copy goes through the tree of its source. -/
theorem recursiveCopyDir_spec (reading : DirectoryReading Name Data) (faults : CopyFaults Name)
    (depth : Nat) :
    CopiesTrees reading faults depth (recursiveCopyDir reading faults depth) := by
  induction depth with
  | zero =>
    intro fs source n dir hsource _ _ _ hsize
    have hpos := Files.treeSize_pos (Files.isSome_of_isDirectory hsource)
    omega
  | succ depth ih =>
    intro fs source n dir hsource hdir hapart hmeet hsize
    rw [recursiveCopyDir]
    by_cases hmake : faults.makeDirectory (n :: dir) = true
    · rw [if_pos hmake]
      refine ⟨_, rfl, fun q _ => rfl, by simp, ?_⟩
      simp [stepsWork_iff hsource, hmake]
    · have hmake' : faults.makeDirectory (n :: dir) = false := Bool.eq_false_iff.mpr hmake
      -- what is copied into the directory, once it is there
      have hinto : ∀ fs₁ : Files Name Data, fs₁.isDirectory (n :: dir) = true →
          (∀ q, q ≠ n :: dir → fs₁.lookup q = fs.lookup q) →
          ∃ result, copyInto reading faults (recursiveCopyDir reading faults depth) source
              (n :: dir) fs₁ = some result ∧
            CopiesTree reading faults fs source (n :: dir) result := by
        intro fs₁ hdest hsame
        have hne : ∀ q, source <:+ q → q ≠ n :: dir := by
          rintro q hin rfl
          exact hapart.1 hin
        have hsameSource : SameTree fs fs₁ source := fun q hin => hsame q (hne q hin)
        have hsameDest : ∀ m, SameTree fs fs₁ (m :: n :: dir) := by
          intro m q hin
          apply hsame
          rintro rfl
          exact not_cons_suffix m (n :: dir) hin
        have hsource' : fs₁.isDirectory source = true := by
          rw [hsameSource.isDirectory (List.suffix_refl source)]
          exact hsource
        have hsize' : ∀ m, fs₁.treeSize (m :: source) ≤ depth := by
          intro m
          have hlt := Files.treeSize_cons_lt (Files.isSome_of_isDirectory hsource) m
          have hle := (hsameSource.cons m).treeSize_le
          omega
        obtain ⟨result, hresult, hcopies⟩ := copyInto_spec ih hapart hsource' hdest
          (fun m => (hsameSource.cons m).directoriesMeet (hsameDest m) (hmeet.cons m)) hsize'
        exact ⟨result, hresult, hcopies.copiesTree hapart hsource hdest hsame hmake'⟩
      rw [if_neg hmake]
      have hfirst := hmeet [] hsource
      rw [List.nil_append] at hfirst
      rcases hfirst with hnone | hdest
      · obtain ⟨fs₁, hmade, hlookup⟩ := Files.makeDirectory_cons hdir hnone
        rw [hmade]
        apply hinto fs₁
        · exact Files.isDirectory_eq ((hlookup _).trans (if_pos rfl))
        · intro q hq
          rw [hlookup, if_neg hq]
      · rw [Files.makeDirectory_exists (Files.isSome_of_isDirectory hdest)]
        exact hinto fs hdest fun q _ => rfl

/-! ## The destination -/

theorem Overlaid.copiesRight {source dest : Path Name} (h : Overlaid fs fs' source dest) :
    CopiesRight fs source dest fs' true where
  failure hok := by cases hok
  copied _ rel := (h rel).1
  kept _ rel node hnone hnode := by rw [(h rel).2 hnone, hnode]

/-- Where there was nothing nothing is lost. -/
theorem copiesRight_of_empty {source dest : Path Name} (hempty : fs.children dest = []) :
    CopiesRight fs source dest fs' false where
  failure _ rel hrel node hnode := by
    rw [Files.lookup_below hempty hrel] at hnode
    cases hnode
  copied hok := by cases hok
  kept hok := by cases hok

theorem directoriesMeet_of_empty {source dest : Path Name} (hdest : fs.isDirectory dest = true)
    (hempty : fs.children dest = []) : DirectoriesMeet fs source dest := by
  intro rel _
  by_cases hrel : rel = []
  · subst hrel
    exact .inr hdest
  · exact .inl (Files.lookup_below hempty hrel)

/-- A copy that goes well has made a directory for each of the source, so it has not met another
file. -/
theorem CopiesRight.directoriesMeet {source dest : Path Name}
    (h : CopiesRight fs source dest fs' true) (hgrows : Grows fs fs') :
    DirectoriesMeet fs source dest := by
  intro rel hrel
  obtain ⟨info, hinfo, hkind⟩ := Files.isDirectory_iff.mp hrel
  obtain ⟨node, hnode, hsame⟩ := h.copied rfl rel info hinfo
  cases hmet : fs.lookup (rel ++ dest) with
  | none => exact .inl rfl
  | some met =>
    obtain ⟨node', hnode', hmetKind⟩ := hgrows _ met hmet
    rw [hnode, Option.some.injEq] at hnode'
    refine .inr (Files.isDirectory_iff.mpr ⟨met, hmet, ?_⟩)
    rw [← hmetKind, ← hnode', hsame]
    exact hkind

section

variable (cleanUp : DirectoryReading Name Data) (failsToDelete : Path Name → Bool)

theorem gdmCopyDirRecursively_of_works {depth : Nat} {source dest : Path Name}
    (h : recursiveCopyDir reading faults depth source dest fs = some (fs', true)) :
    gdmCopyDirRecursively reading faults cleanUp failsToDelete depth source dest fs =
      some (fs', true) := by
  rw [gdmCopyDirRecursively, h, Option.bind_some]
  rfl

/-- After a copy that fails nothing is left of the destination, if the clean-up works. -/
theorem gdmCopyDirRecursively_of_fails {depth : Nat} {source dest : Path Name}
    (hdest : fs.isDirectory dest = true) (hroot : dest ≠ [])
    (h : recursiveCopyDir reading faults depth source dest fs = some (fs', false)) :
    ∃ left, gdmCopyDirRecursively reading faults cleanUp failsToDelete depth source dest fs =
        some (left, false) ∧
      (CleanUpWorks cleanUp failsToDelete → ∀ q, dest <:+ q → left.lookup q = none) := by
  have hdest' := (grows_of_recursiveCopyDir h).isDirectory hdest
  have hdepth : fs'.treeSize dest ≤ fs'.names.keys.length + 1 :=
    (Files.treeSize_le_length fs' dest).trans (Nat.le_succ _)
  obtain ⟨walked, hwalked, -⟩ := gdmWalkDirRecursively_spec cleanUp
    (localCallback_rmFile failsToDelete) _ fs' dest hdest' hdepth
  refine ⟨walked.files, ?_, ?_⟩
  · rw [gdmCopyDirRecursively, h, Option.bind_some]
    simp [gdmRmRecursively, hwalked]
  · intro hworks
    obtain ⟨walked', hwalked', -, hgone⟩ := gdmRmRecursively_succeeds hdest' hroot
      (fun q _ _ => hworks.reads q) (fun q _ => hworks.deletes q) hdepth
    obtain rfl := Option.some.inj (hwalked.symm.trans hwalked')
    exact hgone

/-- A copy that fails loses nothing where there was nothing in the destination. -/
theorem copyEndsRight_of_empty {depth : Nat} {source dest : Path Name}
    (hdest : fs.isDirectory dest = true) (hroot : dest ≠ []) (hempty : fs.children dest = [])
    (h : recursiveCopyDir reading faults depth source dest fs = some (fs', false)) :
    CopyEndsRight reading faults cleanUp failsToDelete depth fs source dest := by
  obtain ⟨left, hleft, -⟩ :=
    gdmCopyDirRecursively_of_fails cleanUp failsToDelete hdest hroot h
  exact ⟨left, false, hleft, copiesRight_of_empty hempty⟩

variable {cleanUp failsToDelete}

/-- Where there was something in the destination a copy that fails loses it. -/
theorem CopyEndsRight.empty {depth : Nat} {source dest : Path Name}
    (hright : CopyEndsRight reading faults cleanUp failsToDelete depth fs source dest)
    (hworks : CleanUpWorks cleanUp failsToDelete) (hdest : fs.isDirectory dest = true)
    (hroot : dest ≠ [])
    (h : recursiveCopyDir reading faults depth source dest fs = some (fs', false)) :
    fs.children dest = [] := by
  obtain ⟨left', ok, hleft', hcopies⟩ := hright
  obtain ⟨left, hleft, hlost⟩ :=
    gdmCopyDirRecursively_of_fails cleanUp failsToDelete hdest hroot h
  obtain ⟨rfl, rfl⟩ := Prod.mk.inj (Option.some.inj (hleft.symm.trans hleft'))
  rw [List.eq_nil_iff_forall_not_mem]
  intro n hn
  obtain ⟨node, hnode⟩ := Option.isSome_iff_exists.mp (Files.mem_children.mp hn)
  have hkept := hcopies.failure rfl [n] (List.cons_ne_nil n []) node hnode
  rw [hlost hworks _ (List.suffix_append [n] dest)] at hkept
  cases hkept

/-- Where there is no source the copy fails. -/
theorem recursiveCopyDir_of_missing (reading : DirectoryReading Name Data)
    (faults : CopyFaults Name) (depth : Nat) {source dest : Path Name}
    (hsource : fs.directoryAt source = none) (hdest : fs.isDirectory dest = true) :
    recursiveCopyDir reading faults (depth + 1) source dest fs = some (fs, false) := by
  rw [recursiveCopyDir]
  by_cases hmake : faults.makeDirectory dest = true
  · rw [if_pos hmake]
  · rw [if_neg hmake, Files.makeDirectory_exists (Files.isSome_of_isDirectory hdest)]
    simp only [copyInto, hsource]

/-- The copy goes through the source if this meets no other file. -/
theorem exists_copiesTree (reading : DirectoryReading Name Data) (faults : CopyFaults Name)
    {depth : Nat} {source dest : Path Name}
    (hsource : fs.isDirectory source = true) (hdest : fs.isDirectory dest = true)
    (hapart : Apart source dest) (hdepth : fs.treeSize source ≤ depth)
    (hmeet : DirectoriesMeet fs source dest) :
    ∃ result, recursiveCopyDir reading faults depth source dest fs = some result ∧
      CopiesTree reading faults fs source dest result := by
  obtain ⟨n, dir, rfl⟩ := List.exists_cons_of_ne_nil hapart.ne_nil
  exact recursiveCopyDir_spec reading faults depth fs source n dir hsource
    (Files.isDirectory_of_suffix hdest (List.suffix_cons n dir)) hapart hmeet hdepth

theorem CanCopy.copyEndsRight {depth : Nat} {source dest : Path Name}
    (h : CanCopy reading faults fs source dest)
    (hsource : fs.isDirectory source = true ∨ fs.directoryAt source = none)
    (hdest : fs.isDirectory dest = true) (hapart : Apart source dest)
    (hdepth : fs.treeSize source + 1 ≤ depth) :
    CopyEndsRight reading faults cleanUp failsToDelete depth fs source dest := by
  rcases hsource with hsource | hmissing
  · have hmeet : DirectoriesMeet fs source dest := by
      rcases h with hempty | ⟨-, hmeet, -⟩
      · exact directoriesMeet_of_empty hdest hempty
      · exact hmeet
    obtain ⟨⟨fs₁, done⟩, hcopy, hcopies⟩ :=
      exists_copiesTree reading faults hsource hdest hapart (Nat.le_of_succ_le hdepth) hmeet
    cases done with
    | true =>
      exact ⟨fs₁, true, gdmCopyDirRecursively_of_works cleanUp failsToDelete hcopy,
        (hcopies.overlaid rfl).copiesRight⟩
    | false =>
      rcases h with hempty | ⟨-, -, hsteps⟩
      · exact copyEndsRight_of_empty cleanUp failsToDelete hdest hapart.ne_nil hempty hcopy
      · cases hcopies.works.mpr hsteps
  · obtain ⟨depth, rfl⟩ := Nat.exists_eq_add_of_le' (Nat.le_of_add_left_le hdepth)
    have hcopy := recursiveCopyDir_of_missing reading faults depth hmissing hdest
    rcases h with hempty | ⟨hsource, -⟩
    · exact copyEndsRight_of_empty cleanUp failsToDelete hdest hapart.ne_nil hempty hcopy
    · rw [Files.directoryAt_eq hsource] at hmissing
      cases hmissing

theorem CopyEndsRight.canCopy {depth : Nat} {source dest : Path Name}
    (h : CopyEndsRight reading faults cleanUp failsToDelete depth fs source dest)
    (hworks : CleanUpWorks cleanUp failsToDelete)
    (hsource : fs.isDirectory source = true ∨ fs.directoryAt source = none)
    (hdest : fs.isDirectory dest = true) (hapart : Apart source dest)
    (hdepth : fs.treeSize source + 1 ≤ depth) : CanCopy reading faults fs source dest := by
  obtain ⟨fs', ok, hrun, hright⟩ := h
  obtain ⟨⟨fs₁, done⟩, hcopy, -⟩ := Option.bind_eq_some_iff.mp hrun
  cases done with
  | false =>
    have h : CopyEndsRight reading faults cleanUp failsToDelete depth fs source dest :=
      ⟨fs', ok, hrun, hright⟩
    exact .inl (h.empty hworks hdest hapart.ne_nil hcopy)
  | true =>
    rw [gdmCopyDirRecursively_of_works cleanUp failsToDelete hcopy] at hrun
    obtain ⟨rfl, rfl⟩ := Prod.mk.inj (Option.some.inj hrun)
    rcases hsource with hsource | hmissing
    · have hmeet := hright.directoriesMeet (grows_of_recursiveCopyDir hcopy)
      obtain ⟨result, hresult, hcopies⟩ :=
        exists_copiesTree reading faults hsource hdest hapart (Nat.le_of_succ_le hdepth) hmeet
      obtain rfl := Option.some.inj (hcopy.symm.trans hresult)
      exact .inr ⟨hsource, hmeet, hcopies.works.mp rfl⟩
    · obtain ⟨depth, rfl⟩ := Nat.exists_eq_add_of_le' (Nat.le_of_add_left_le hdepth)
      rw [recursiveCopyDir_of_missing reading faults depth hmissing hdest] at hcopy
      cases hcopy

end

/-- A copy over a directory leaves what it ought to if there is nothing in this one, so that
nothing can be lost, or if no step fails and no directory of the source meets another file.
Elsewhere it does not, unless the clean-up fails as well.  The source is a directory, or nothing
that can be read, and neither of the two is in the other. -/
theorem gdmCopyDirRecursively_right_iff (reading : DirectoryReading Name Data)
    (faults : CopyFaults Name) (cleanUp : DirectoryReading Name Data)
    (failsToDelete : Path Name → Bool) {source dest : Path Name}
    (hsource : fs.isDirectory source = true ∨ fs.directoryAt source = none)
    (hdest : fs.isDirectory dest = true) (hapart : Apart source dest) :
    ∃ enough, ∀ depth, enough ≤ depth →
      (CanCopy reading faults fs source dest →
        CopyEndsRight reading faults cleanUp failsToDelete depth fs source dest) ∧
      (CleanUpWorks cleanUp failsToDelete →
        (CopyEndsRight reading faults cleanUp failsToDelete depth fs source dest ↔
          CanCopy reading faults fs source dest)) := by
  refine ⟨fs.treeSize source + 1, fun depth hdepth => ?_⟩
  have hsufficient : CanCopy reading faults fs source dest →
      CopyEndsRight reading faults cleanUp failsToDelete depth fs source dest :=
    fun h => h.copyEndsRight hsource hdest hapart hdepth
  refine ⟨hsufficient, fun hworks => ⟨?_, hsufficient⟩⟩
  intro h
  exact h.canCopy hworks hsource hdest hapart hdepth

end

/-- A directory with a socket in it beside one with a link. -/
def besideSocket : Files String Unit :=
  (linkToRoot.insert "state" [] { inode := 3, kind := .directory } (by decide) (.inl rfl)).insert
    "socket" ["state"] { inode := 4, kind := .special } (by decide) (.inr (by decide))

/-- No call fails by itself. -/
def noFaults : CopyFaults String where
  makeDirectory _ := false
  copy _ := false

theorem besideSocket_right_iff :
    ∃ enough, ∀ depth, enough ≤ depth →
      (CopyEndsRight (readingBut fun _ => false) noFaults (readingBut fun _ => false)
          (fun _ => false) depth besideSocket ["state"] ["run"] ↔
        CanCopy (readingBut fun _ => false) noFaults besideSocket ["state"] ["run"]) := by
  have hsource : besideSocket.isDirectory ["state"] = true := by decide
  have hdest : besideSocket.isDirectory ["run"] = true := by decide
  obtain ⟨enough, h⟩ := gdmCopyDirRecursively_right_iff (readingBut fun _ => false) noFaults
    (readingBut fun _ => false) (fun _ => false) (.inl hsource) hdest ⟨by decide, by decide⟩
  exact ⟨enough, fun depth hdepth => (h depth hdepth).2 ⟨fun _ => rfl, fun _ => rfl⟩⟩

/-- The socket cannot be copied, and the link is gone. -/
theorem besideSocket_not_copiesRight :
    ¬ ∀ fs' ok, gdmCopyDirRecursively (readingBut fun _ => false) noFaults
        (readingBut fun _ => false) (fun _ => false) 3 ["state"] ["run"] besideSocket =
          some (fs', ok) → CopiesRight besideSocket ["state"] ["run"] fs' ok := by
  intro h
  have hcopy : (gdmCopyDirRecursively (readingBut fun _ => false) noFaults
      (readingBut fun _ => false) (fun _ => false) 3 ["state"] ["run"] besideSocket).map
        (fun result => (result.1.lookup ["up", "run"], result.2)) = some (none, false) := by
    decide
  obtain ⟨⟨fs', ok⟩, hrun, heq⟩ := Option.map_eq_some_iff.mp hcopy
  obtain ⟨hlost, rfl⟩ := Prod.mk.inj heq
  have hkept := (h fs' false hrun).failure rfl ["up"] (by decide)
    { inode := 2, kind := .link { absolute := true, steps := [] } } rfl
  cases hlost.symm.trans hkept

end Gdm
