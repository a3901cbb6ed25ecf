import Gdm.Common.WalkDir

/-!
# Removal and change of owner stay in their tree

Both callbacks change one file only, so the walk goes through the tree.  What the tree is like at
the end is then the matter of its calls, which come for each file after all that is in it.
-/

namespace Gdm

open FileSystem

universe u v

variable {Name : Type u} {Data : Type v} [DecidableEq Name] {fs : Files Name Data}

/-- Every directory of the tree can be opened and read to its end. -/
def ReadsTree (reading : DirectoryReading Name Data) (fs : Files Name Data) (dir : Path Name) :
    Prop :=
  ∀ q, dir <:+ q → fs.isDirectory q = true → reading.failsAfter q = none

/-- No call of the callback in the walk fails. -/
def NoneFails (cb : FileCallback Name Data) (fs : Files Name Data) (walked : Walked Name Data) :
    Prop :=
  (runCalls cb walked.calls fs).2 = true

/-- The callback has been called for files of the tree only, once for each of them, and for a
directory after all that is in it.  The walk succeeds and none of them is left out unless a
directory cannot be read or a call fails. -/
structure CallsTree (reading : DirectoryReading Name Data) (cb : FileCallback Name Data)
    (fs : Files Name Data) (dir : Path Name) (walked : Walked Name Data) : Prop where
  inside : ∀ q ∈ walked.calls, dir <:+ q ∧ (fs.lookup q).isSome
  order : walked.calls.Pairwise fun q q' => ¬ q <:+ q'
  ran : (runCalls cb walked.calls fs).1 = walked.files
  all : ReadsTree reading fs dir → NoneFails cb fs walked →
    walked.error = none ∧ ∀ q, dir <:+ q → (fs.lookup q).isSome → q ∈ walked.calls

/-- Nothing outside of the tree has been removed, and all of the tree unless a directory cannot be
read or a file cannot be deleted.  No file that is not the root fails to be deleted because of
those that are in it. -/
structure RemovesTree (reading : DirectoryReading Name Data) (fails : Path Name → Bool)
    (fs : Files Name Data) (dir : Path Name) (walked : Walked Name Data) : Prop where
  outside : ∀ q, ¬ dir <:+ q → walked.files.lookup q = fs.lookup q
  owner : walked.files.owner = fs.owner
  succeeds : dir ≠ [] → (∀ q, dir <:+ q → fails q = false) → NoneFails (rmFile fails) fs walked
  removed : ReadsTree reading fs dir → NoneFails (rmFile fails) fs walked →
    walked.error = none ∧ ∀ q, dir <:+ q → walked.files.lookup q = none

/-- No other files than those of the tree have got the owner, and all of them have it unless a
directory cannot be read or an owner cannot be set. -/
structure ChownsTree (reading : DirectoryReading Name Data) (uid gid : Nat)
    (failsUid failsGid : Path Name → Bool) (fs : Files Name Data) (dir : Path Name)
    (walked : Walked Name Data) : Prop where
  names : ∀ q, walked.files.lookup q = fs.lookup q
  outside : ∀ i, (∀ q node, dir <:+ q → fs.lookup q = some node → node.inode ≠ i) →
    walked.files.owner i = fs.owner i
  succeeds : (∀ q, dir <:+ q → failsUid q = false ∧ failsGid q = false) →
    NoneFails (chownFile uid gid failsUid failsGid) fs walked
  changed : ReadsTree reading fs dir →
    NoneFails (chownFile uid gid failsUid failsGid) fs walked →
    walked.error = none ∧ ∀ q node, dir <:+ q → fs.lookup q = some node →
      walked.files.owner node.inode = (uid, gid)

/-! ## The calls of a walk -/

variable {reading : DirectoryReading Name Data} {cb : FileCallback Name Data}

/-- A walk fails only where a directory cannot be read or a call has failed. -/
theorem WalksPart.error_eq_none {dir : Path Name} {walked : Walked Name Data}
    (h : WalksPart reading cb fs (dir <:+ ·) walked) (hreads : ReadsTree reading fs dir)
    (hnone : NoneFails cb fs walked) : walked.error = none := by
  rw [NoneFails, h.ran] at hnone
  cases herror : walked.error with
  | none => rfl
  | some error =>
    cases error with
    | callback => simp [herror] at hnone
    | enumeration =>
      obtain ⟨q, hin, hq, hfails⟩ := h.unread herror
      rw [hreads q hin hq] at hfails
      cases hfails

theorem WalksPart.callsTree {dir : Path Name} {walked : Walked Name Data}
    (h : WalksPart reading cb fs (dir <:+ ·) walked) : CallsTree reading cb fs dir walked where
  inside := h.inside
  order := h.order
  ran := by rw [h.ran]
  all hreads hnone := ⟨h.error_eq_none hreads hnone, h.complete (h.error_eq_none hreads hnone)⟩

/-- A file that comes later is still there. -/
theorem isSome_of_later (hcb : LocalCallback cb) {p : Path Name} {calls : List (Path Name)}
    (horder : (p :: calls).Pairwise fun q q' => ¬ q <:+ q')
    (hall : ∀ q ∈ p :: calls, (fs.lookup q).isSome) :
    ∀ q ∈ calls, ((cb p fs).1.lookup q).isSome := by
  intro q hq
  have hne : q ≠ p := by
    rintro rfl
    exact List.rel_of_pairwise_cons horder hq (List.suffix_refl q)
  rw [hcb.others fs p q (hall p List.mem_cons_self) hne]
  exact hall q (List.mem_cons_of_mem _ hq)

/-! ## Removal -/

theorem rmFile_eq (fails : Path Name → Bool) {p : Path Name} (hp : (fs.lookup p).isSome) :
    ((rmFile fails p fs).1 = fs ∧ (rmFile fails p fs).2 = false) ∨
      ((∀ q, (rmFile fails p fs).1.lookup q = if q = p then none else fs.lookup q) ∧
        (rmFile fails p fs).1.owner = fs.owner ∧ (rmFile fails p fs).2 = true) := by
  unfold rmFile
  split
  · exact .inl ⟨rfl, rfl⟩
  · cases hdelete : fs.delete p with
    | none => exact .inl ⟨rfl, rfl⟩
    | some fs' =>
      obtain ⟨hlookup, howner⟩ := Files.delete_eq_some hp hdelete
      exact .inr ⟨hlookup, howner, rfl⟩

theorem localCallback_rmFile (fails : Path Name → Bool) :
    LocalCallback (rmFile fails : FileCallback Name Data) where
  others fs p q hp hne := by
    rcases rmFile_eq fails hp with ⟨hsame, -⟩ | ⟨hlookup, -⟩
    · rw [hsame]
    · rw [hlookup, if_neg hne]
  own fs p hp := by
    rcases rmFile_eq fails hp with ⟨hsame, -⟩ | ⟨hlookup, -⟩
    · exact .inl (by rw [hsame])
    · exact .inr (by rw [hlookup, if_pos rfl])

/-- The calls take no owner away, and the files away on which they have succeeded. -/
theorem runCalls_rmFile (fails : Path Name → Bool) {calls : List (Path Name)}
    (horder : calls.Pairwise fun q q' => ¬ q <:+ q') (hall : ∀ q ∈ calls, (fs.lookup q).isSome) :
    (runCalls (rmFile fails) calls fs).1.owner = fs.owner ∧
      ((runCalls (rmFile fails) calls fs).2 = true →
        ∀ q, (q ∈ calls ∨ fs.lookup q = none) →
          (runCalls (rmFile fails) calls fs).1.lookup q = none) := by
  induction calls generalizing fs with
  | nil => exact ⟨rfl, fun _ q hq => hq.resolve_left (by simp)⟩
  | cons p calls ih =>
    have hp := hall p List.mem_cons_self
    have hlater := isSome_of_later (localCallback_rmFile fails) horder hall
    obtain ⟨howner, hgone⟩ := ih (List.Pairwise.of_cons horder) hlater
    rw [runCalls]
    rcases rmFile_eq fails hp with ⟨hsame, hfails⟩ | ⟨hlookup, hkept, hok⟩
    · rw [hfails, hsame]
      exact ⟨rfl, by simp⟩
    · rw [if_pos hok]
      refine ⟨howner.trans hkept, ?_⟩
      intro hdone q hq
      apply hgone hdone q
      rw [hlookup]
      rcases hq with hmem | hnone
      · rcases List.mem_cons.mp hmem with rfl | hmem
        · exact .inr (if_pos rfl)
        · exact .inl hmem
      · exact .inr (by simp [hnone])

/-- If nothing fails by itself every call succeeds, as a directory is empty when its turn comes. -/
theorem runCalls_rmFile_succeeds {fails : Path Name → Bool} {calls : List (Path Name)}
    (hroot : [] ∉ calls) (hfails : ∀ q ∈ calls, fails q = false)
    (horder : calls.Pairwise fun q q' => ¬ q <:+ q') (hall : ∀ q ∈ calls, (fs.lookup q).isSome)
    (hpost : Postorder fs calls) : (runCalls (rmFile fails) calls fs).2 = true := by
  induction calls generalizing fs with
  | nil => rfl
  | cons p calls ih =>
    obtain ⟨hp', hroot⟩ := not_or.mp (mt List.mem_cons.mpr hroot)
    have hp := hall p List.mem_cons_self
    have hempty : fs.children p = [] := by
      rw [List.eq_nil_iff_forall_not_mem]
      intro n hn
      have hmem := hpost p List.mem_cons_self (n :: p) (List.suffix_cons n p)
        (Files.mem_children.mp hn)
      rcases List.mem_cons.mp hmem with heq | hmem
      · exact List.cons_ne_self n p heq
      · exact List.rel_of_pairwise_cons horder hmem (List.suffix_cons n p)
    obtain ⟨fs', hdelete⟩ := Files.exists_delete hp (Ne.symm hp') hempty
    have hcall : rmFile fails p fs = (fs', true) := by
      simp [rmFile, hdelete, hfails p List.mem_cons_self]
    have hlookup := (Files.delete_eq_some hp hdelete).1
    have hlater := isSome_of_later (localCallback_rmFile fails) horder hall
    rw [runCalls, hcall, if_pos rfl]
    rw [hcall] at hlater
    refine ih hroot (fun q hq => hfails q (List.mem_cons_of_mem _ hq))
      (List.Pairwise.of_cons horder) hlater ?_
    intro q hq q' hin hq'
    rw [hlookup] at hq'
    split at hq'
    · cases hq'
    · next hne =>
      have hmem := hpost q (List.mem_cons_of_mem _ hq) q' hin hq'
      exact (List.mem_cons.mp hmem).resolve_left hne

theorem WalksPart.removesTree {fails : Path Name → Bool} {dir : Path Name}
    {walked : Walked Name Data} (h : WalksPart reading (rmFile fails) fs (dir <:+ ·) walked)
    (hpost : Postorder fs walked.calls) : RemovesTree reading fails fs dir walked := by
  obtain ⟨howner, hgone⟩ := runCalls_rmFile fails h.order fun q hq => (h.inside q hq).2
  rw [h.ran] at howner
  refine ⟨?_, howner, ?_, ?_⟩
  · intro q hnot
    exact h.others q fun hmem => hnot (h.inside q hmem).1
  · intro hroot hfails
    have hnotRoot : [] ∉ walked.calls := by
      intro hmem
      exact hroot (List.suffix_nil.mp (h.inside [] hmem).1)
    exact runCalls_rmFile_succeeds hnotRoot (fun q hq => hfails q (h.inside q hq).1) h.order
      (fun q hq => (h.inside q hq).2) hpost
  · intro hreads hnone
    have hdone := h.error_eq_none hreads hnone
    refine ⟨hdone, fun q hin => ?_⟩
    rw [NoneFails] at hnone
    rw [h.ran] at hgone hnone
    apply hgone hnone q
    cases hq : fs.lookup q with
    | none => exact .inr rfl
    | some node => exact .inl (h.complete hdone q hin (by rw [hq]; rfl))

/-- A removal does not fail if no directory is unreadable and no file by itself. -/
theorem gdmRmRecursively_succeeds {fails : Path Name → Bool} {dir : Path Name}
    (hdir : fs.isDirectory dir = true) (hroot : dir ≠ []) (hreads : ReadsTree reading fs dir)
    (hfails : ∀ q, dir <:+ q → fails q = false) {depth : Nat} (hdepth : fs.treeSize dir ≤ depth) :
    ∃ walked, gdmRmRecursively reading fails depth dir fs = some walked ∧
      walked.error = none ∧ ∀ q, dir <:+ q → walked.files.lookup q = none := by
  obtain ⟨walked, hwalked, hpart, hpost⟩ :=
    gdmWalkDirRecursively_spec reading (localCallback_rmFile fails) depth fs dir hdir hdepth
  have hremoves := hpart.removesTree hpost
  exact ⟨walked, hwalked, hremoves.removed hreads (hremoves.succeeds hroot hfails)⟩

/-! ## Change of the owner -/

variable {uid gid : Nat} {failsUid failsGid : Path Name → Bool}

theorem chownFile_eq {p : Path Name} {node : Node Name Data} (hp : fs.lookup p = some node) :
    (∀ q, (chownFile uid gid failsUid failsGid p fs).1.lookup q = fs.lookup q) ∧
      (∀ i, i ≠ node.inode →
        (chownFile uid gid failsUid failsGid p fs).1.owner i = fs.owner i) ∧
      ((chownFile uid gid failsUid failsGid p fs).2 = true →
        (chownFile uid gid failsUid failsGid p fs).1.owner node.inode = (uid, gid)) := by
  unfold chownFile
  by_cases huid : failsUid p = true
  · simp [huid]
  · have hp' : (fs.setOwner node.inode (uid, (fs.owner node.inode).2)).lookup p = some node := hp
    simp only [if_neg huid, Files.changeOwner_eq hp]
    by_cases hgid : failsGid p = true
    · simp only [if_pos hgid]
      refine ⟨fun q => by simp, fun i hi => by simp [hi], by simp⟩
    · simp only [if_neg hgid, Files.changeOwner_eq hp']
      refine ⟨fun q => by simp, fun i hi => by simp [hi], fun _ => by simp⟩

theorem localCallback_chownFile : LocalCallback
    (chownFile uid gid failsUid failsGid : FileCallback Name Data) where
  others fs p q hp hne := by
    obtain ⟨node, hnode⟩ := Option.isSome_iff_exists.mp hp
    exact (chownFile_eq hnode).1 q
  own fs p hp := by
    obtain ⟨node, hnode⟩ := Option.isSome_iff_exists.mp hp
    exact .inl ((chownFile_eq hnode).1 p)

/-- The calls change no names and no owners but those of the files that they are on. -/
theorem runCalls_chownFile {calls : List (Path Name)}
    (hall : ∀ q ∈ calls, (fs.lookup q).isSome) :
    (∀ q, (runCalls (chownFile uid gid failsUid failsGid) calls fs).1.lookup q = fs.lookup q) ∧
      (∀ i, (∀ q ∈ calls, ∀ node, fs.lookup q = some node → node.inode ≠ i) →
        (runCalls (chownFile uid gid failsUid failsGid) calls fs).1.owner i = fs.owner i) ∧
      ((runCalls (chownFile uid gid failsUid failsGid) calls fs).2 = true →
        ∀ i, (fs.owner i = (uid, gid) ∨ ∃ q ∈ calls, ∃ node, fs.lookup q = some node ∧
            node.inode = i) →
          (runCalls (chownFile uid gid failsUid failsGid) calls fs).1.owner i = (uid, gid)) := by
  induction calls generalizing fs with
  | nil => exact ⟨fun _ => rfl, fun _ _ => rfl, fun _ i hi => hi.resolve_right (by simp)⟩
  | cons p calls ih =>
    obtain ⟨node, hnode⟩ := Option.isSome_iff_exists.mp (hall p List.mem_cons_self)
    obtain ⟨hlookup, hothers, hchanged⟩ :=
      @chownFile_eq _ _ _ _ uid gid failsUid failsGid _ _ hnode
    rw [runCalls]
    split
    · next hok =>
      have hlater : ∀ q ∈ calls,
          ((chownFile uid gid failsUid failsGid p fs).1.lookup q).isSome := by
        intro q hq
        rw [hlookup]
        exact hall q (List.mem_cons_of_mem _ hq)
      obtain ⟨hnames, houtside, hdone⟩ := ih hlater
      refine ⟨fun q => (hnames q).trans (hlookup q), ?_, ?_⟩
      · intro i hi
        have hkept : (runCalls (chownFile uid gid failsUid failsGid) calls
            (chownFile uid gid failsUid failsGid p fs).1).1.owner i =
              (chownFile uid gid failsUid failsGid p fs).1.owner i := by
          apply houtside
          intro q hq node' hnode'
          rw [hlookup] at hnode'
          exact hi q (List.mem_cons_of_mem _ hq) node' hnode'
        rw [hkept]
        exact hothers i fun heq => hi p List.mem_cons_self node hnode heq.symm
      · intro hall i hi
        apply hdone hall i
        by_cases hinode : i = node.inode
        · exact .inl (hinode ▸ hchanged hok)
        · rcases hi with howner | ⟨q, hq, node', hnode', heq⟩
          · exact .inl ((hothers i hinode).trans howner)
          · rcases List.mem_cons.mp hq with rfl | hq
            · rw [hnode, Option.some.injEq] at hnode'
              exact absurd (heq.symm.trans (congrArg Node.inode hnode'.symm)) hinode
            · exact .inr ⟨q, hq, node', (hlookup q).trans hnode', heq⟩
    · next hfails =>
      refine ⟨hlookup, ?_, by simp⟩
      intro i hi
      exact hothers i fun heq => hi p List.mem_cons_self node hnode heq.symm

theorem chownFile_succeeds {p : Path Name} {node : Node Name Data} (hp : fs.lookup p = some node)
    (huid : failsUid p = false) (hgid : failsGid p = false) :
    (chownFile uid gid failsUid failsGid p fs).2 = true := by
  have hp' : (fs.setOwner node.inode (uid, (fs.owner node.inode).2)).lookup p = some node := hp
  simp [chownFile, huid, hgid, Files.changeOwner_eq hp, Files.changeOwner_eq hp']

theorem runCalls_chownFile_succeeds {calls : List (Path Name)}
    (hfails : ∀ q ∈ calls, failsUid q = false ∧ failsGid q = false)
    (hall : ∀ q ∈ calls, (fs.lookup q).isSome) :
    (runCalls (chownFile uid gid failsUid failsGid) calls fs).2 = true := by
  induction calls generalizing fs with
  | nil => rfl
  | cons p calls ih =>
    obtain ⟨node, hnode⟩ := Option.isSome_iff_exists.mp (hall p List.mem_cons_self)
    obtain ⟨huid, hgid⟩ := hfails p List.mem_cons_self
    rw [runCalls, if_pos (chownFile_succeeds hnode huid hgid)]
    refine ih (fun q hq => hfails q (List.mem_cons_of_mem _ hq)) fun q hq => ?_
    rw [(chownFile_eq hnode).1]
    exact hall q (List.mem_cons_of_mem _ hq)

theorem WalksPart.chownsTree {dir : Path Name} {walked : Walked Name Data}
    (h : WalksPart reading (chownFile uid gid failsUid failsGid) fs (dir <:+ ·) walked) :
    ChownsTree reading uid gid failsUid failsGid fs dir walked := by
  obtain ⟨hnames, houtside, hchanged⟩ :=
    @runCalls_chownFile _ _ _ _ uid gid failsUid failsGid _
      fun q hq => (h.inside q hq).2
  rw [h.ran] at hnames houtside
  refine ⟨hnames, ?_, ?_, ?_⟩
  · intro i hi
    exact houtside i fun q hq node hnode => hi q node (h.inside q hq).1 hnode
  · intro hfails
    exact runCalls_chownFile_succeeds (fun q hq => hfails q (h.inside q hq).1)
      fun q hq => (h.inside q hq).2
  · intro hreads hnone
    have hdone := h.error_eq_none hreads hnone
    refine ⟨hdone, fun q node hin hnode => ?_⟩
    rw [NoneFails] at hnone
    rw [h.ran] at hchanged hnone
    refine hchanged hnone node.inode (.inr ⟨q, ?_, node, hnode, rfl⟩)
    exact h.complete hdone q hin (by rw [hnode]; rfl)

/-! ## The tree -/

/-- A walk from a directory ends, and unless a callback or the reading of a directory fails it
succeeds and has called each file of its tree once, a directory after all that is in it.  So a
removal takes the tree away, a change of the owner changes its files, and neither does anything
outside. -/
theorem gdmWalkDirRecursively_contained (reading : DirectoryReading Name Data)
    {dir : Path Name} (hdir : fs.isDirectory dir = true) :
    ∃ enough, ∀ depth, enough ≤ depth →
      (∀ cb, LocalCallback cb → ∃ walked,
        gdmWalkDirRecursively reading cb depth dir fs = some walked ∧
          CallsTree reading cb fs dir walked) ∧
      (∀ fails, ∃ walked,
        gdmRmRecursively reading fails depth dir fs = some walked ∧
          RemovesTree reading fails fs dir walked) ∧
      ∀ uid gid failsUid failsGid, ∃ walked,
        gdmChownRecursively reading uid gid failsUid failsGid depth dir fs = some walked ∧
          ChownsTree reading uid gid failsUid failsGid fs dir walked := by
  refine ⟨fs.treeSize dir, fun depth hdepth => ⟨?_, ?_, ?_⟩⟩
  · intro cb hcb
    obtain ⟨walked, hwalked, hpart, -⟩ :=
      gdmWalkDirRecursively_spec reading hcb depth fs dir hdir hdepth
    exact ⟨walked, hwalked, hpart.callsTree⟩
  · intro fails
    obtain ⟨walked, hwalked, hpart, hpost⟩ :=
      gdmWalkDirRecursively_spec reading (localCallback_rmFile fails) depth fs dir hdir hdepth
    exact ⟨walked, hwalked, hpart.removesTree hpost⟩
  · intro uid gid failsUid failsGid
    obtain ⟨walked, hwalked, hpart, -⟩ :=
      gdmWalkDirRecursively_spec reading localCallback_chownFile depth fs dir hdir hdepth
    exact ⟨walked, hwalked, hpart.chownsTree⟩

/-- A directory with a link to the root in it. -/
def linkToRoot : Files String Unit :=
  (Files.onlyRoot.insert "run" [] { inode := 1, kind := .directory } (by decide) (.inl rfl)).insert
    "up" ["run"] { inode := 2, kind := .link { absolute := true, steps := [] } } (by decide)
    (.inr (by decide))

/-- Directories are read in their own order, and the reading of some fails at once. -/
def readingBut (unreadable : Path String → Bool) : DirectoryReading String Unit where
  order fs dir := fs.children dir
  order_perm _ _ := .refl _
  failsAfter dir := if unreadable dir then some 0 else none

theorem linkToRoot_contained :
    ∃ enough, ∀ depth, enough ≤ depth →
      (∀ cb, LocalCallback cb → ∃ walked,
        gdmWalkDirRecursively (readingBut fun _ => false) cb depth ["run"] linkToRoot =
          some walked ∧ CallsTree (readingBut fun _ => false) cb linkToRoot ["run"] walked) ∧
      (∀ fails, ∃ walked,
        gdmRmRecursively (readingBut fun _ => false) fails depth ["run"] linkToRoot =
          some walked ∧
            RemovesTree (readingBut fun _ => false) fails linkToRoot ["run"] walked) ∧
      ∀ uid gid failsUid failsGid, ∃ walked,
        gdmChownRecursively (readingBut fun _ => false) uid gid failsUid failsGid depth ["run"]
            linkToRoot = some walked ∧
          ChownsTree (readingBut fun _ => false) uid gid failsUid failsGid linkToRoot ["run"]
            walked :=
  gdmWalkDirRecursively_contained (readingBut fun _ => false) (by decide)

/-- Where the directory cannot be read nothing is called, though no callback has failed. -/
theorem unreadable_not_called :
    ¬ ∀ walked, gdmWalkDirRecursively (readingBut (· = ["run"])) (rmFile fun _ => false) 3 ["run"]
        linkToRoot = some walked → walked.error ≠ some .callback →
      ∀ q, q ∈ walked.calls ↔ ["run"] <:+ q ∧ (linkToRoot.lookup q).isSome := by
  intro h
  have hwalk : gdmWalkDirRecursively (readingBut (· = ["run"])) (rmFile fun _ => false) 3 ["run"]
      linkToRoot = some { files := linkToRoot, calls := [], error := some .enumeration } := rfl
  have hcalled := (h _ hwalk (by decide) ["run"]).mpr ⟨List.suffix_refl _, by decide⟩
  cases hcalled

end Gdm
