import Gdm.Common.FileUtils

/-!
# Where a recursive walk goes

The calls of a walk are those on the files of the tree, and no file is called after a directory
that it is in.  Since a callback changes nothing but the file it is called on, the rest of the
tree is as it was when its turn comes.
-/

namespace Gdm

open FileSystem

universe u v

variable {Name : Type u} {Data : Type v} [DecidableEq Name]

/-- A callback changes nothing but the file that it is called on, which it can take away. -/
structure LocalCallback (cb : FileCallback Name Data) : Prop where
  others : ∀ fs p q, (fs.lookup p).isSome → q ≠ p → (cb p fs).1.lookup q = fs.lookup q
  own : ∀ fs p, (fs.lookup p).isSome →
    (cb p fs).1.lookup p = fs.lookup p ∨ (cb p fs).1.lookup p = none

/-- The callback on one file after the other, as long as it succeeds. -/
def runCalls (cb : FileCallback Name Data) :
    List (Path Name) → Files Name Data → Files Name Data × Bool
  | [], fs => (fs, true)
  | p :: calls, fs =>
    if (cb p fs).2 then runCalls cb calls (cb p fs).1 else ((cb p fs).1, false)

/-- The walk has gone through a part of the tree: it has called nothing but files of this part
and none after a directory that it is in, and what it leaves is what the calls leave.  If nothing
fails it has called every file of the part. -/
structure WalksPart (reading : DirectoryReading Name Data) (cb : FileCallback Name Data)
    (fs : Files Name Data) (part : Path Name → Prop) (walked : Walked Name Data) : Prop where
  inside : ∀ q ∈ walked.calls, part q ∧ (fs.lookup q).isSome
  order : walked.calls.Pairwise fun q q' => ¬ q <:+ q'
  others : ∀ q, q ∉ walked.calls → walked.files.lookup q = fs.lookup q
  own : ∀ q, walked.files.lookup q = fs.lookup q ∨ walked.files.lookup q = none
  ran : runCalls cb walked.calls fs = (walked.files, walked.error != some .callback)
  complete : walked.error = none → ∀ q, part q → (fs.lookup q).isSome → q ∈ walked.calls
  unread : walked.error = some .enumeration →
    ∃ q, part q ∧ fs.isDirectory q = true ∧ (reading.failsAfter q).isSome

/-- Every file that is called has all that is in it called. -/
def Postorder (fs : Files Name Data) (calls : List (Path Name)) : Prop :=
  ∀ q ∈ calls, ∀ q', q <:+ q' → (fs.lookup q').isSome → q' ∈ calls

/-! ## One part after the other -/

section

variable {reading : DirectoryReading Name Data} {cb : FileCallback Name Data}
  {fs : Files Name Data}

theorem runCalls_append (calls others : List (Path Name)) {fs' : Files Name Data}
    (h : runCalls cb calls fs = (fs', true)) :
    runCalls cb (calls ++ others) fs = runCalls cb others fs' := by
  induction calls generalizing fs with
  | nil =>
    obtain ⟨rfl, -⟩ := Prod.mk.inj h
    rfl
  | cons p calls ih =>
    rw [runCalls] at h
    split at h
    · next hok =>
      rw [List.cons_append, runCalls, if_pos hok]
      exact ih h
    · next hfails => simp at h

theorem WalksPart.isSome {part : Path Name → Prop} {walked : Walked Name Data}
    (h : WalksPart reading cb fs part walked) {q : Path Name}
    (hq : (walked.files.lookup q).isSome) :
    (fs.lookup q).isSome := by
  rcases h.own q with hsame | hnone
  · rwa [hsame] at hq
  · rw [hnone] at hq
    cases hq

/-- A file that is there before is there after the walk, or has been called. -/
theorem WalksPart.isSome_or_mem {part : Path Name → Prop} {walked : Walked Name Data}
    (h : WalksPart reading cb fs part walked) {q : Path Name} (hq : (fs.lookup q).isSome) :
    (walked.files.lookup q).isSome ∨ q ∈ walked.calls := by
  by_cases hmem : q ∈ walked.calls
  · exact .inr hmem
  · rw [h.others q hmem]
    exact .inl hq

theorem WalksPart.append {part part' : Path Name → Prop} {walked rest : Walked Name Data}
    (h : WalksPart reading cb fs part walked) (herror : walked.error = none)
    (hrest : WalksPart reading cb walked.files part' rest)
    (hseparate : ∀ q q', part q → part' q' → ¬ q <:+ q') :
    WalksPart reading cb fs (fun q => part q ∨ part' q)
      { rest with calls := walked.calls ++ rest.calls } where
  inside := by
    intro q hmem
    rcases List.mem_append.mp hmem with hmem | hmem
    · exact ⟨.inl (h.inside q hmem).1, (h.inside q hmem).2⟩
    · exact ⟨.inr (hrest.inside q hmem).1, h.isSome (hrest.inside q hmem).2⟩
  order := by
    rw [List.pairwise_append]
    refine ⟨h.order, hrest.order, ?_⟩
    intro q hq q' hq'
    exact hseparate q q' (h.inside q hq).1 (hrest.inside q' hq').1
  others := by
    intro q hmem
    obtain ⟨hfirst, hsecond⟩ := not_or.mp (mt List.mem_append.mpr hmem)
    rw [hrest.others q hsecond, h.others q hfirst]
  own := by
    intro q
    rcases hrest.own q with hsame | hnone
    · rw [hsame]
      exact h.own q
    · exact .inr hnone
  ran := by
    have hran := h.ran
    rw [herror] at hran
    rw [runCalls_append _ _ hran, hrest.ran]
  complete := by
    intro hdone q hpart hq
    rw [List.mem_append]
    rcases hpart with hpart | hpart
    · exact .inl (h.complete herror q hpart hq)
    · exact (h.isSome_or_mem hq).symm.imp_right (hrest.complete hdone q hpart)
  unread := by
    intro hunread
    obtain ⟨q, hpart, hq, hfails⟩ := hrest.unread hunread
    refine ⟨q, .inr hpart, ?_, hfails⟩
    rcases h.own q with hsame | hnone
    · rwa [Files.isDirectory_congr hsame] at hq
    · rw [Files.isDirectory, hnone] at hq
      cases hq

theorem Postorder.append {part : Path Name → Prop} {walked : Walked Name Data}
    {calls : List (Path Name)} (h : WalksPart reading cb fs part walked)
    (hfirst : Postorder fs walked.calls) (hrest : Postorder walked.files calls) :
    Postorder fs (walked.calls ++ calls) := by
  intro q hmem q' hin hq'
  rw [List.mem_append]
  rcases List.mem_append.mp hmem with hmem | hmem
  · exact .inl (hfirst q hmem q' hin hq')
  · exact (h.isSome_or_mem hq').symm.imp_right (hrest q hmem q' hin)

/-- A walk that fails has not gone through all of a part, which can then be a larger one. -/
theorem WalksPart.of_error {part part' : Path Name → Prop} {walked : Walked Name Data}
    (h : WalksPart reading cb fs part walked) (herror : walked.error ≠ none)
    (hpart : ∀ q, part q → part' q) : WalksPart reading cb fs part' walked where
  inside q hmem := ⟨hpart q (h.inside q hmem).1, (h.inside q hmem).2⟩
  order := h.order
  others := h.others
  own := h.own
  ran := h.ran
  complete hdone := absurd hdone herror
  unread hunread := by
    obtain ⟨q, hq, hunread⟩ := h.unread hunread
    exact ⟨q, hpart q hq, hunread⟩

theorem WalksPart.congr {part part' : Path Name → Prop} {walked : Walked Name Data}
    (h : WalksPart reading cb fs part walked)
    (hpart : ∀ q, (fs.lookup q).isSome → (part q ↔ part' q)) :
    WalksPart reading cb fs part' walked where
  inside q hmem :=
    ⟨(hpart q (h.inside q hmem).2).mp (h.inside q hmem).1, (h.inside q hmem).2⟩
  order := h.order
  others := h.others
  own := h.own
  ran := h.ran
  complete hdone q hq hsome := h.complete hdone q ((hpart q hsome).mpr hq) hsome
  unread hunread := by
    obtain ⟨q, hq, hdirectory, hfails⟩ := h.unread hunread
    exact ⟨q, (hpart q (Files.isSome_of_isDirectory hdirectory)).mp hq, hdirectory, hfails⟩

/-- Nothing is called where there is nothing. -/
theorem walksPart_nil (reading : DirectoryReading Name Data) (cb : FileCallback Name Data)
    (fs : Files Name Data) {part : Path Name → Prop} (hpart : ∀ q, ¬ part q) :
    WalksPart reading cb fs part { files := fs, calls := [], error := none } where
  inside q hmem := by cases hmem
  order := .nil
  others q _ := rfl
  own q := .inl rfl
  ran := rfl
  complete _ q hq := absurd hq (hpart q)
  unread h := by cases h

/-- Nothing is called where a directory cannot be read. -/
theorem walksPart_unread {reading : DirectoryReading Name Data} (cb : FileCallback Name Data)
    {fs : Files Name Data} {dir : Path Name} (hdir : fs.isDirectory dir = true)
    (hfails : (reading.failsAfter dir).isSome) :
    WalksPart reading cb fs (· = dir)
      { files := fs, calls := [], error := some .enumeration } where
  inside q hmem := by cases hmem
  order := .nil
  others q _ := rfl
  own q := .inl rfl
  ran := rfl
  complete hdone := by cases hdone
  unread _ := ⟨dir, rfl, hdir, hfails⟩

/-- The callback is called on one file. -/
theorem walksPart_callBack (hcb : LocalCallback cb) {p : Path Name} (hp : (fs.lookup p).isSome) :
    WalksPart reading cb fs (· = p) (callBack cb p fs) where
  inside := by
    intro q hmem
    obtain rfl := List.mem_singleton.mp hmem
    exact ⟨rfl, hp⟩
  order := List.pairwise_singleton _ _
  others := by
    intro q hmem
    exact hcb.others fs p q hp fun heq => hmem (List.mem_singleton.mpr heq)
  own := by
    intro q
    by_cases heq : q = p
    · subst heq
      exact hcb.own fs q hp
    · exact .inl (hcb.others fs p q hp heq)
  ran := by
    simp only [callBack, runCalls]
    cases (cb p fs).2 <;> simp
  complete := by
    intro _ q heq _
    exact List.mem_singleton.mpr heq
  unread := by
    intro hunread
    simp only [callBack] at hunread
    split at hunread <;> cases hunread

end

/-! ## The walk -/

section

variable {cb : FileCallback Name Data} {reading : DirectoryReading Name Data}

/-- What a walk into a directory does, if its tree is not too large. -/
def WalksTrees (reading : DirectoryReading Name Data) (cb : FileCallback Name Data) (depth : Nat)
    (recurse : Path Name → Files Name Data → Option (Walked Name Data)) : Prop :=
  ∀ fs p, fs.isDirectory p = true → fs.treeSize p ≤ depth →
    ∃ walked, recurse p fs = some walked ∧ WalksPart reading cb fs (p <:+ ·) walked ∧
      Postorder fs walked.calls

/-- A file that is not a directory is called, a directory is walked into. -/
theorem walkEntry_spec (hcb : LocalCallback cb) {depth : Nat}
    {recurse : Path Name → Files Name Data → Option (Walked Name Data)}
    (hrecurse : WalksTrees reading cb depth recurse) {fs : Files Name Data} {p : Path Name}
    (hsize : fs.treeSize p ≤ depth) {info : Node Name Data} (hinfo : fs.lookup p = some info) :
    ∃ walked, (if info.kind.isDirectory then recurse p fs else some (callBack cb p fs)) =
        some walked ∧
      WalksPart reading cb fs (p <:+ ·) walked ∧ Postorder fs walked.calls := by
  by_cases hkind : info.kind.isDirectory = true
  · rw [if_pos hkind]
    exact hrecurse fs p (Files.isDirectory_iff.mpr ⟨info, hinfo, hkind⟩) hsize
  · have hp : (fs.lookup p).isSome := by
      rw [hinfo]
      rfl
    have hempty : fs.children p = [] := by
      apply Files.children_eq_nil
      rw [Files.isDirectory_eq hinfo]
      exact Bool.eq_false_iff.mpr hkind
    have halone : ∀ q, p <:+ q → (fs.lookup q).isSome → q = p := by
      rintro q ⟨rel, rfl⟩ hq
      by_cases hrel : rel = []
      · rw [hrel, List.nil_append]
      · rw [Files.lookup_below hempty hrel] at hq
        cases hq
    rw [if_neg hkind]
    refine ⟨_, rfl, ?_, ?_⟩
    · refine (walksPart_callBack hcb hp).congr fun q hq => ⟨?_, fun hin => halone q hin hq⟩
      rintro rfl
      exact List.suffix_refl q
    · intro q hmem q' hin hq'
      obtain rfl := List.mem_singleton.mp hmem
      exact List.mem_singleton.mpr (halone q' hin hq')

/-- The loop goes through the files of its names, one after the other. -/
theorem walkEntries_spec (hcb : LocalCallback cb) {depth : Nat}
    {recurse : Path Name → Files Name Data → Option (Walked Name Data)}
    (hrecurse : WalksTrees reading cb depth recurse) {dir : Path Name} {names : List Name}
    (hnodup : names.Nodup) {fs : Files Name Data} (hdir : fs.isDirectory dir = true)
    (hsize : ∀ n ∈ names, fs.treeSize (n :: dir) ≤ depth) :
    ∃ walked, walkEntries cb recurse dir names fs = some walked ∧
      WalksPart reading cb fs (fun q => ∃ n ∈ names, n :: dir <:+ q) walked ∧
      Postorder fs walked.calls := by
  induction names generalizing fs with
  | nil =>
    refine ⟨_, rfl, walksPart_nil reading cb fs (by simp), ?_⟩
    intro q hmem
    cases hmem
  | cons n names ih =>
    obtain ⟨hn, hnames⟩ := List.nodup_cons.mp hnodup
    rw [walkEntries, Files.lstat_cons hdir]
    cases hinfo : fs.lookup (n :: dir) with
    | none =>
      obtain ⟨walked, hwalked, hpart, hpost⟩ :=
        ih hnames hdir fun m hm => hsize m (List.mem_cons_of_mem _ hm)
      refine ⟨walked, hwalked, hpart.congr fun q hq => ?_, hpost⟩
      have hnot : ¬ n :: dir <:+ q := by
        intro hin
        rw [Files.lookup_eq_none_of_suffix hinfo hin] at hq
        cases hq
      simp [hnot]
    | some info =>
      obtain ⟨first, hfirst, hpart, hpost⟩ :=
        walkEntry_spec hcb hrecurse (hsize n List.mem_cons_self) hinfo
      simp only [hfirst, Option.bind_some]
      by_cases herror : first.error = none
      · have hdir' : first.files.isDirectory dir = true := by
          rw [Files.isDirectory_congr (hpart.others dir fun hmem =>
            not_cons_suffix n dir (hpart.inside dir hmem).1)]
          exact hdir
        obtain ⟨rest, hrest, hpart', hpost'⟩ := ih hnames hdir' (by
          intro m hm
          exact (Files.treeSize_le fun q _ => hpart.isSome).trans
            (hsize m (List.mem_cons_of_mem _ hm)))
        have hseparate : ∀ q q', n :: dir <:+ q → (∃ m ∈ names, m :: dir <:+ q') → ¬ q <:+ q' := by
          rintro q q' hq ⟨m, hm, hq'⟩ hin
          exact hn (eq_of_cons_suffix (hq.trans hin) hq' ▸ hm)
        refine ⟨_, ?_, (hpart.append herror hpart' hseparate).congr ?_, hpost.append hpart hpost'⟩
        · rw [Walked.andThen, herror, hrest]
          rfl
        · simp
      · have hsome : first.error.isSome = true := Option.isSome_iff_ne_none.mpr herror
        refine ⟨first, by rw [Walked.andThen, if_pos hsome], ?_, hpost⟩
        exact hpart.of_error herror fun q hq => ⟨n, List.mem_cons_self, hq⟩

theorem mem_of_mem_read {fs : Files Name Data} {dir : Path Name} {n : Name}
    (h : n ∈ (reading.read fs dir).1) : n ∈ fs.children dir := by
  rw [← (reading.order_perm fs dir).mem_iff]
  unfold DirectoryReading.read at h
  split at h
  · exact h
  · exact List.mem_of_mem_take h

theorem nodup_read (fs : Files Name Data) (dir : Path Name) : (reading.read fs dir).1.Nodup := by
  have horder : (reading.order fs dir).Nodup :=
    (reading.order_perm fs dir).nodup_iff.mpr (Files.nodup_children dir)
  unfold DirectoryReading.read
  split
  · exact horder
  · exact (List.take_sublist _ _).nodup horder

theorem mem_read_of_complete {fs : Files Name Data} {dir : Path Name} {n : Name}
    (hcomplete : (reading.read fs dir).2 = true) (h : n ∈ fs.children dir) :
    n ∈ (reading.read fs dir).1 := by
  rw [← (reading.order_perm fs dir).mem_iff] at h
  unfold DirectoryReading.read at hcomplete ⊢
  split at hcomplete
  · exact h
  · cases hcomplete

/-- The names of a directory that can be read to its end. -/
theorem mem_read_iff {fs : Files Name Data} {dir : Path Name} {n : Name}
    (hreads : reading.failsAfter dir = none) :
    n ∈ (reading.read fs dir).1 ↔ n ∈ fs.children dir := by
  refine ⟨mem_of_mem_read, mem_read_of_complete ?_⟩
  rw [DirectoryReading.read, hreads]

theorem read_complete_iff {fs : Files Name Data} {dir : Path Name} :
    (reading.read fs dir).2 = true ↔ reading.failsAfter dir = none := by
  unfold DirectoryReading.read
  cases reading.failsAfter dir <;> simp

theorem WalksPart.dir_not_called {fs : Files Name Data} {dir : Path Name} {names : List Name}
    {entries : Walked Name Data}
    (h : WalksPart reading cb fs (fun q => ∃ n ∈ names, n :: dir <:+ q) entries) :
    dir ∉ entries.calls := by
  intro hmem
  obtain ⟨n, -, hin⟩ := (h.inside dir hmem).1
  exact not_cons_suffix n dir hin

/-- All the names have been called, and then the directory is. -/
theorem WalksPart.callDir (hcb : LocalCallback cb) {fs : Files Name Data} {dir : Path Name}
    {entries : Walked Name Data} (hdir : (fs.lookup dir).isSome)
    (h : WalksPart reading cb fs (fun q => ∃ n ∈ (reading.read fs dir).1, n :: dir <:+ q) entries)
    (hpost : Postorder fs entries.calls) (herror : entries.error = none)
    (hcomplete : (reading.read fs dir).2 = true) :
    WalksPart reading cb fs (dir <:+ ·)
        { callBack cb dir entries.files with
          calls := entries.calls ++ (callBack cb dir entries.files).calls } ∧
      Postorder fs (entries.calls ++ (callBack cb dir entries.files).calls) := by
  have hdirThere : (entries.files.lookup dir).isSome := by
    rw [h.others dir h.dir_not_called]
    exact hdir
  have hall : ∀ q, (fs.lookup q).isSome →
      ((∃ n ∈ (reading.read fs dir).1, n :: dir <:+ q) ∨ q = dir ↔ dir <:+ q) := by
    intro q hq
    constructor
    · rintro (hin | rfl)
      · exact suffix_of_names hin
      · exact List.suffix_refl q
    · intro hin
      rcases eq_or_cons_suffix hin with rfl | ⟨n, hn⟩
      · exact .inr rfl
      · refine .inl ⟨n, mem_read_of_complete hcomplete ?_, hn⟩
        exact Files.mem_children.mpr (Files.isSome_of_suffix hq hn)
  refine ⟨(h.append herror (walksPart_callBack hcb hdirThere) names_separate).congr hall, ?_⟩
  intro q hmem q' hin hq'
  rcases List.mem_append.mp hmem with hmem | hmem
  · exact List.mem_append_left _ (hpost q hmem q' hin hq')
  · obtain rfl := List.mem_singleton.mp hmem
    rcases (hall q' hq').mpr hin with hentry | rfl
    · exact List.mem_append_left _ (h.complete herror q' hentry hq')
    · exact List.mem_append_right _ (List.mem_singleton.mpr rfl)

/-- The names that have been read have been called, and then the reading fails. -/
theorem WalksPart.unreadDir {fs : Files Name Data} {dir : Path Name} {entries : Walked Name Data}
    (hdir : fs.isDirectory dir = true)
    (h : WalksPart reading cb fs (fun q => ∃ n ∈ (reading.read fs dir).1, n :: dir <:+ q) entries)
    (herror : entries.error = none) (hcomplete : ¬ (reading.read fs dir).2 = true) :
    WalksPart reading cb fs (dir <:+ ·)
      { files := entries.files, calls := entries.calls ++ [], error := some .enumeration } := by
  have hfails : (reading.failsAfter dir).isSome := by
    rw [read_complete_iff] at hcomplete
    exact Option.isSome_iff_ne_none.mpr hcomplete
  have hdir' : entries.files.isDirectory dir = true := by
    rw [Files.isDirectory_congr (h.others dir h.dir_not_called)]
    exact hdir
  refine (h.append herror (walksPart_unread cb hdir' hfails) names_separate).of_error (by simp) ?_
  rintro q (hq | rfl)
  · exact suffix_of_names hq
  · exact List.suffix_refl q

/-- A walk ends, and has gone through the tree of its directory. -/
theorem gdmWalkDirRecursively_spec (reading : DirectoryReading Name Data) (hcb : LocalCallback cb)
    (depth : Nat) : WalksTrees reading cb depth (gdmWalkDirRecursively reading cb depth) := by
  induction depth with
  | zero =>
    intro fs dir hdir hsize
    have hpos := Files.treeSize_pos (Files.isSome_of_isDirectory hdir)
    omega
  | succ depth ih =>
    intro fs dir hdir hsize
    have hsome := Files.isSome_of_isDirectory hdir
    obtain ⟨entries, hentries, hpart, hpost⟩ := walkEntries_spec hcb ih
      (nodup_read fs dir : (reading.read fs dir).1.Nodup) hdir (by
        intro n _
        have hlt := Files.treeSize_cons_lt hsome n
        omega)
    rw [gdmWalkDirRecursively, Files.directoryAt_eq hdir]
    simp only [hentries, Option.bind_some]
    by_cases herror : entries.error = none
    · rw [Walked.andThen, herror]
      by_cases hcomplete : (reading.read fs dir).2 = true
      · exact ⟨_, by simp [hcomplete], hpart.callDir hcb hsome hpost herror hcomplete⟩
      · exact ⟨_, by simp [hcomplete], hpart.unreadDir hdir herror hcomplete, by simpa using hpost⟩
    · have hfails : entries.error.isSome = true := Option.isSome_iff_ne_none.mpr herror
      refine ⟨entries, by rw [Walked.andThen, if_pos hfails], ?_, hpost⟩
      exact hpart.of_error herror fun q => suffix_of_names

end

end Gdm
