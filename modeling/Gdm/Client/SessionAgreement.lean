import Gdm.Client.Sessions

/-!
# Where a greeter and the daemon see one file

What the greeter has collected under an id is the first complete file of this id, in the order of
its directories, unless it is not to be shown.  The daemon takes the first file that can be
opened, complete or not, in the order of its own directories, and wants a program in it.
-/

namespace Gdm

theorem desktopName_append (id : String) : desktopName (id ++ ".desktop") = some id := by
  have hdrop : (id ++ ".desktop").toList.dropSuffix? ".desktop".toList = some id.toList := by
    rw [String.toList_append, List.dropSuffix?_eq_some_iff]
    exact ⟨_, rfl, beq_self_eq_true _⟩
  rw [desktopName, hdrop]
  simp

namespace SessionFiles

variable (files : SessionFiles)

/-- A file with a name in it which is listed in a directory, with its path. -/
def completeFile (id dir : String) : Option (String × DesktopEntry) :=
  if id ++ ".desktop" ∈ files.listing (trimSlashes dir) then
    match files.read (buildFilename dir (id ++ ".desktop")) with
    | some (.entry entry) =>
      if entry.name.isSome then some (buildFilename dir (id ++ ".desktop"), entry) else none
    | _ => none
  else none

/-- The first complete file in the order of the greeter. -/
def firstComplete (supported : Option (List String)) (id : String) :
    Option (String × DesktopEntry) :=
  (files.dirsSearchArray supported).findSome? (files.completeFile id)

/-- What the greeter keeps of a file. -/
def describe (seat : Bool) (id : String) (found : String × DesktopEntry) :
    Option GdmSessionFile :=
  if files.keyFileIsRelevant seat found.2 then
    some { id := id, path := found.1, translatedName := found.2.name.getD "",
           translatedComment := found.2.comment }
  else none

variable {files} {seat : Bool}

/-! ## What is collected -/

theorem lookup_loadSessionFile_ne {map : SessionMap} {id id' path : String} (h : id ≠ id') :
    (files.loadSessionFile seat map id' path).lookup id = map.lookup id := by
  unfold loadSessionFile
  split
  · rfl
  · rfl
  · rfl
  · split
    · rfl
    · split
      · exact AList.lookup_insert_ne h
      · exact AList.lookup_erase_ne h

theorem lookup_loadSessionFile {map : SessionMap} {id dir : String}
    (hlisted : id ++ ".desktop" ∈ files.listing (trimSlashes dir)) :
    (files.loadSessionFile seat map id (buildFilename dir (id ++ ".desktop"))).lookup id =
      (match files.completeFile id dir with
      | none => map.lookup id
      | some found => files.describe seat id found) := by
  rw [completeFile, if_pos hlisted, loadSessionFile]
  cases files.read (buildFilename dir (id ++ ".desktop")) with
  | none => rfl
  | some file =>
    cases file with
    | unparsable => rfl
    | noGroup => rfl
    | entry entry =>
      cases hname : entry.name with
      | none => simp [hname]
      | some name =>
        by_cases hrelevant : files.keyFileIsRelevant seat entry = true
        · simp [hname, hrelevant, describe]
        · simp [hname, hrelevant, describe]

/-- A directory decides about a session if its file there is complete. -/
theorem lookup_collectSessionsFromDirectory (map : SessionMap) (id dir : String) :
    (files.collectSessionsFromDirectory seat map dir).lookup id =
      (match files.completeFile id dir with
      | none => map.lookup id
      | some found => files.describe seat id found) := by
  -- One name after the other: only the name of the session's own file matters.
  have hfold : ∀ (names : List String) (map : SessionMap),
      (∀ filename ∈ names, filename ∈ files.listing (trimSlashes dir)) →
      (names.foldl (files.collectFile seat dir) map).lookup id =
        if id ++ ".desktop" ∈ names then
          (match files.completeFile id dir with
          | none => map.lookup id
          | some found => files.describe seat id found)
        else map.lookup id := by
    intro names
    induction names with
    | nil => intro map _; simp
    | cons filename names ih =>
      intro map hsub
      rw [List.foldl_cons, ih _ fun name hmem => hsub name (List.mem_cons_of_mem _ hmem)]
      by_cases hfile : filename = id ++ ".desktop"
      · subst hfile
        have hcollect : files.collectFile seat dir map (id ++ ".desktop") =
            files.loadSessionFile seat map id (buildFilename dir (id ++ ".desktop")) := by
          rw [collectFile, desktopName_append]
        rw [hcollect, lookup_loadSessionFile (hsub _ List.mem_cons_self),
          if_pos List.mem_cons_self]
        cases files.completeFile id dir <;> simp
      · have hother : (files.collectFile seat dir map filename).lookup id = map.lookup id := by
          unfold collectFile
          split
          · rfl
          · next id' hid' =>
            apply lookup_loadSessionFile_ne
            rintro rfl
            exact hfile (desktopName_eq hid')
        have hmem : id ++ ".desktop" ∈ filename :: names ↔ id ++ ".desktop" ∈ names := by
          simp [Ne.symm hfile]
        rw [hother]
        simp only [hmem]
  rw [collectSessionsFromDirectory, hfold _ map fun _ hmem => hmem]
  split
  · rfl
  · next hnot => simp [completeFile, hnot]

/-- Walked from the last to the first, the first directory with a complete file decides. -/
theorem lookup_collect (dirs : List String) (id : String) :
    (dirs.reverse.foldl (files.collectSessionsFromDirectory seat) ∅).lookup id =
      (dirs.findSome? (files.completeFile id)).bind (files.describe seat id) := by
  induction dirs with
  | nil => simp
  | cons dir dirs ih =>
    rw [List.reverse_cons, List.foldl_append, List.foldl_cons, List.foldl_nil,
      lookup_collectSessionsFromDirectory, List.findSome?_cons]
    cases files.completeFile id dir with
    | none => exact ih
    | some found => rfl

/-- The walk takes sessions away and changes none. -/
theorem lookup_removeDuplicateSession {around : GreeterMemory} {state : SessionMap × List NameKey}
    {id id' : String} {session : GdmSessionFile}
    (h : (around.removeDuplicateSession state id').1.lookup id = some session) :
    state.1.lookup id = some session := by
  unfold GreeterMemory.removeDuplicateSession at h
  split at h
  · exact h
  · simp only at h
    split at h
    · exact h
    · by_cases hid : id = id'
      · subst hid
        rw [AList.lookup_erase] at h
        cases h
      · rwa [AList.lookup_erase_ne hid] at h

theorem lookup_foldl_removeDuplicateSession {around : GreeterMemory} {ids : List String}
    {state : SessionMap × List NameKey} {id : String} {session : GdmSessionFile}
    (h : (ids.foldl around.removeDuplicateSession state).1.lookup id = some session) :
    state.1.lookup id = some session := by
  induction ids generalizing state with
  | nil => exact h
  | cons id' ids ih => exact lookup_removeDuplicateSession (ih h)

/-- What is collected under an id is the first complete file, which is to be shown. -/
theorem firstComplete_of_lookup {supported : Option (List String)}
    {around : GreeterMemory} {id : String} {session : GdmSessionFile}
    (h : (files.collectSessions seat supported around).lookup id = some session) :
    ∃ entry, files.firstComplete supported id = some (session.path, entry) ∧
      files.keyFileIsRelevant seat entry = true := by
  have hmap := lookup_foldl_removeDuplicateSession h
  rw [sessionsFound, lookup_collect] at hmap
  obtain ⟨⟨path, entry⟩, hfound, hdescribe⟩ := Option.bind_eq_some_iff.mp hmap
  unfold describe at hdescribe
  split at hdescribe
  · next hrelevant =>
    obtain rfl := Option.some.inj hdescribe
    exact ⟨entry, hfound, hrelevant⟩
  · cases hdescribe

theorem mem_gdmGetSessionIds_iff {supported : Option (List String)}
    {around : GreeterMemory} {id : String} :
    some id ∈ files.gdmGetSessionIds seat supported around ↔
      ∃ session, (files.collectSessions seat supported around).lookup id = some session := by
  rw [gdmGetSessionIds, List.mem_mergeSort, List.mem_append, List.mem_map]
  simp only [Option.some.injEq, exists_eq_right, List.mem_singleton, reduceCtorEq, or_false]
  rw [(around.order_perm _).mem_iff, ← AList.mem_keys, ← AList.lookup_isSome,
    Option.isSome_iff_exists]

/-! ## What the daemon finds -/

variable (files) in
/-- The first file of this id that can be opened, in the order of the daemon. -/
def firstReadable (supported : List String) (id : String) : Option String :=
  (files.installed.getSystemSessionDirs supported none).findSome? fun dir =>
    files.pathIn dir (id ++ ".desktop")

theorem mem_of_pathIn {dir file path : String} (h : files.pathIn dir file = some path) :
    path ∈ dataDirPaths dir file ∧ (files.read path).isSome :=
  ⟨List.mem_of_find?_eq_some h,
    @List.find?_some _ (fun path => (files.read path).isSome) _ _ h⟩

theorem findSome?_find (dirs : List String) (name : String) :
    dirs.findSome? (fun dir => files.installed.find dir name) =
      (dirs.findSome? fun dir => files.pathIn dir name).bind fun path =>
        (files.read path).map fun found => { path := path, keyFile := found.keyFile } := by
  induction dirs with
  | nil => rfl
  | cons dir dirs ih =>
    rw [List.findSome?_cons, List.findSome?_cons, ih]
    cases hpath : files.pathIn dir name with
    | none => simp [installed, hpath]
    | some path =>
      obtain ⟨found, hfound⟩ := Option.isSome_iff_exists.mp (mem_of_pathIn hpath).2
      simp [installed, hpath, hfound]

theorem loadSessionFile_installed (self : SessionChoice) (id : String) :
    self.loadSessionFile files.installed id =
      (files.firstReadable self.supportedSessionTypes id).bind fun path =>
        (files.read path).bind fun found => found.keyFile.map fun keyFile => (keyFile, path) := by
  rw [SessionChoice.loadSessionFile, Installed.loadKeyFileForFile, findSome?_find, firstReadable]
  cases (files.installed.getSystemSessionDirs self.supportedSessionTypes none).findSome? fun dir =>
      files.pathIn dir (id ++ ".desktop") with
  | none => rfl
  | some path =>
    cases hread : files.read path with
    | none => simp [hread]
    | some found => simp [hread]

theorem completeFile_eq_some {id dir path : String} {entry : DesktopEntry}
    (h : files.completeFile id dir = some (path, entry)) :
    path = buildFilename dir (id ++ ".desktop") ∧ files.read path = some (.entry entry) := by
  unfold completeFile at h
  split at h
  · split at h
    · next entry' hread =>
      split at h
      · obtain ⟨rfl, rfl⟩ := Prod.mk.inj (Option.some.inj h)
        exact ⟨rfl, hread⟩
      · cases h
    · cases h
  · cases h

theorem read_of_firstComplete {supported : Option (List String)} {id path : String}
    {entry : DesktopEntry} (h : files.firstComplete supported id = some (path, entry)) :
    files.read path = some (.entry entry) := by
  obtain ⟨dir, -, hfile⟩ := List.exists_of_findSome?_eq_some h
  exact (completeFile_eq_some hfile).2

/-- The daemon searches each directory of the greeter. -/
theorem mem_getSystemSessionDirs {supported : List String} {dir : String}
    (h : dir ∈ files.dirsSearchArray (some supported)) :
    dir ∈ files.installed.getSystemSessionDirs supported none := by
  rw [dirsSearchArray, List.mem_append] at h
  rw [Installed.getSystemSessionDirs, List.mem_flatMap]
  rcases h with h | h
  · split at h
    · next hx11 =>
      refine ⟨"x11", by simpa using hx11, List.mem_append_left _ ?_⟩
      rw [if_pos ⟨rfl, Or.inl rfl⟩]
      rcases List.mem_append.mp h with hfixed | hdata
      · have hdirs : dir = "/etc/X11/sessions/" ∨ dir = files.dmConfDir ++ "/Sessions/" ∨
            dir = files.dataDir ++ "/gdm/BuiltInSessions/" := by simpa using hfixed
        apply List.mem_append_right
        rcases hdirs with rfl | rfl | rfl <;> simp [installed]
      · exact List.mem_append_left _ hdata
    · cases h
  · split at h
    · next hwayland =>
      refine ⟨"wayland", by simpa using hwayland, List.mem_append_right _ ?_⟩
      rw [if_pos ⟨rfl, Or.inl rfl⟩]
      exact List.mem_append_left _ (List.mem_append_right _ h)
    · cases h

/-- A complete file that no other hides is the first in either order. -/
theorem firstReadable_of_unshadowed {supported : List String} {id path : String}
    {entry : DesktopEntry} (h : files.firstComplete (some supported) id = some (path, entry))
    (hunshadowed : ∀ dir ∈ files.installed.getSystemSessionDirs supported none,
      ∀ other ∈ dataDirPaths dir (id ++ ".desktop"), (files.read other).isSome → other = path) :
    files.firstReadable supported id = some path := by
  have hread := read_of_firstComplete h
  obtain ⟨dir, hdir, hfile⟩ := List.exists_of_findSome?_eq_some h
  have hpath := (completeFile_eq_some hfile).1
  have hsome : (files.firstReadable supported id).isSome := by
    rw [firstReadable, List.findSome?_isSome_iff]
    refine ⟨dir, mem_getSystemSessionDirs hdir, ?_⟩
    rw [pathIn, List.find?_isSome]
    refine ⟨path, by rw [hpath]; exact List.mem_cons_self, ?_⟩
    rw [hread]
    rfl
  obtain ⟨path', hpath'⟩ := Option.isSome_iff_exists.mp hsome
  obtain ⟨dir', hdir', hfound⟩ := List.exists_of_findSome?_eq_some hpath'
  obtain ⟨hmem, hopen⟩ := mem_of_pathIn hfound
  rw [hpath', hunshadowed dir' hdir' path' hmem hopen]

/-- The daemon has a command for the id, from the file that the greeter has described. -/
def Agrees (files : SessionFiles) (self : SessionChoice) (map : SessionMap) (id : String) :
    Prop :=
  ∃ session keyFile command, map.lookup id = some session ∧
    self.loadSessionFile files.installed id = some (keyFile, session.path) ∧
    self.getSessionCommandForName files.installed id none = some command

/-- The first complete file in the order of the greeter is the first file that can be opened in
the order of the daemon, and has a program that the daemon can run. -/
def DaemonFinds (files : SessionFiles) (self : SessionChoice) (id : String) : Prop :=
  ∃ path entry, files.firstComplete (some self.supportedSessionTypes) id = some (path, entry) ∧
    files.firstReadable self.supportedSessionTypes id = some path ∧
    entry.exec.isSome ∧ (∀ program ∈ entry.tryExec, files.programInPath program) ∧
    (self.isWaylandHeadless → entry.canRunHeadless = some true)

theorem getSessionCommandForName_of_entry {self : SessionChoice} {id path : String}
    {entry : DesktopEntry}
    (hload : self.loadSessionFile files.installed id = some (entry.toKeyFile, path))
    (hhidden : entry.hidden ≠ some true) :
    (∃ command, self.getSessionCommandForName files.installed id none = some command) ↔
      entry.exec.isSome ∧ (∀ program ∈ entry.tryExec, files.programInPath program) ∧
        (self.isWaylandHeadless → entry.canRunHeadless = some true) := by
  have hload' : files.installed.loadKeyFileForFile self.supportedSessionTypes
      (id ++ ".desktop") none = some (entry.toKeyFile, path) := hload
  have htype : self.supportsSessionType none = true := rfl
  have hprogram : files.installed.programInPath = files.programInPath := rfl
  rw [SessionChoice.getSessionCommandForName, SessionChoice.getSessionCommandForFile,
    if_pos htype, hload']
  simp only [if_neg hhidden, hprogram]
  by_cases hheadless : self.isWaylandHeadless = true ∧ entry.canRunHeadless ≠ some true
  · rw [if_pos hheadless]
    constructor
    · rintro ⟨command, hcommand⟩
      cases hcommand
    · rintro ⟨-, -, hcan⟩
      exact absurd (hcan hheadless.1) hheadless.2
  · rw [if_neg hheadless]
    have hcan : self.isWaylandHeadless = true → entry.canRunHeadless = some true := by
      intro hself
      by_contra hnot
      exact hheadless ⟨hself, hnot⟩
    by_cases htry : (entry.tryExec.any fun program => !files.programInPath program) = true
    · rw [if_pos htry]
      obtain ⟨program, hmem, hmissing⟩ : ∃ program, entry.tryExec = some program ∧
          (!files.programInPath program) = true := by
        cases htryExec : entry.tryExec with
        | none => simp [htryExec] at htry
        | some program => exact ⟨program, rfl, by simpa [htryExec] using htry⟩
      constructor
      · rintro ⟨command, hcommand⟩
        cases hcommand
      · rintro ⟨-, hall, -⟩
        rw [hall program hmem] at hmissing
        cases hmissing
    · rw [if_neg htry, ← Option.isSome_iff_exists]
      have hall : ∀ program ∈ entry.tryExec, files.programInPath program = true := by
        intro program hmem
        by_contra hnot
        apply htry
        rw [Option.mem_def] at hmem
        simp [hmem, hnot]
      constructor
      · intro hexec
        exact ⟨hexec, hall, hcan⟩
      · intro h
        exact h.1

theorem agrees_iff {self : SessionChoice} {around : GreeterMemory} {id : String}
    (hid : some id ∈ files.gdmGetSessionIds seat (some self.supportedSessionTypes) around) :
    Agrees files self (files.collectSessions seat (some self.supportedSessionTypes) around) id ↔
      DaemonFinds files self id := by
  obtain ⟨session, hsession⟩ := mem_gdmGetSessionIds_iff.mp hid
  obtain ⟨entry, hfirst, hrelevant⟩ := firstComplete_of_lookup hsession
  have hread := read_of_firstComplete hfirst
  have hhidden : entry.hidden ≠ some true := by
    intro htrue
    simp [keyFileIsRelevant, htrue] at hrelevant
  have hload : files.firstReadable self.supportedSessionTypes id = some session.path →
      self.loadSessionFile files.installed id = some (entry.toKeyFile, session.path) := by
    intro hreadable
    rw [loadSessionFile_installed, hreadable, Option.bind_some, hread]
    rfl
  constructor
  · rintro ⟨session', keyFile, command, hsession', hloaded, hcommand⟩
    obtain rfl : session = session' := Option.some.inj (hsession.symm.trans hsession')
    have hreadable : files.firstReadable self.supportedSessionTypes id = some session.path := by
      rw [loadSessionFile_installed] at hloaded
      obtain ⟨path, hpath, hfound⟩ := Option.bind_eq_some_iff.mp hloaded
      obtain ⟨found, -, hkeyFile⟩ := Option.bind_eq_some_iff.mp hfound
      obtain ⟨keyFile', -, heq⟩ := Option.map_eq_some_iff.mp hkeyFile
      rw [hpath, (Prod.mk.inj heq).2]
    exact ⟨session.path, entry, hfirst, hreadable,
      (getSessionCommandForName_of_entry (hload hreadable) hhidden).mp ⟨command, hcommand⟩⟩
  · rintro ⟨path, entry', hfirst', hreadable, hruns⟩
    obtain ⟨rfl, rfl⟩ := Prod.mk.inj (Option.some.inj (hfirst.symm.trans hfirst'))
    obtain ⟨command, hcommand⟩ :=
      (getSessionCommandForName_of_entry (hload hreadable) hhidden).mpr hruns
    exact ⟨session, _, command, hsession, hload hreadable, hcommand⟩

/-- The daemon resolves each id that the greeter offers to the file which the greeter has
described exactly if, for each of them, the first complete file in the order of the greeter is the
first that can be opened in the order of the daemon, and has a program that it can run. -/
theorem gdmGetSessionIds_agree_iff (files : SessionFiles) (seat : Bool) (self : SessionChoice)
    (around : GreeterMemory) :
    (∀ id, some id ∈ files.gdmGetSessionIds seat (some self.supportedSessionTypes) around →
        Agrees files self
          (files.collectSessions seat (some self.supportedSessionTypes) around) id) ↔
      ∀ id, some id ∈ files.gdmGetSessionIds seat (some self.supportedSessionTypes) around →
        DaemonFinds files self id := by
  constructor
  · intro h id hid
    exact (agrees_iff hid).mp (h id hid)
  · intro h id hid
    exact (agrees_iff hid).mpr (h id hid)

/-- The session GNOME, for X11 and for Wayland. -/
def gnomeTwice : SessionFiles where
  systemDataDirs := ["/usr/share/"]
  read path :=
    if path = "/usr/share/xsessions/gnome.desktop" ∨
        path = "/usr/share/wayland-sessions/gnome.desktop" then
      some (.entry { exec := some "gnome-session", name := some "GNOME" })
    else none
  listing dir :=
    if dir = "/usr/share/xsessions" ∨ dir = "/usr/share/wayland-sessions" then ["gnome.desktop"]
    else []

/-- The greeter describes the session for X11, the daemon prefers the one for Wayland. -/
theorem gnomeTwice_not_agree :
    ¬ ∀ id, some id ∈ gnomeTwice.gdmGetSessionIds true (some ["wayland", "x11"]) .newestFirst →
      Agrees gnomeTwice {} (gnomeTwice.collectSessions true (some ["wayland", "x11"]) .newestFirst)
        id := by
  intro h
  have hcollected : (gnomeTwice.collectSessions true (some ["wayland", "x11"])
      .newestFirst).lookup "gnome" =
      some { id := "gnome", path := "/usr/share/xsessions/gnome.desktop", translatedName := "GNOME"
             translatedComment := none } := by
    decide +kernel
  obtain ⟨session, keyFile, command, hsession, hload, -⟩ :=
    h "gnome" (mem_gdmGetSessionIds_iff.mpr ⟨_, hcollected⟩)
  have hdaemon : (SessionChoice.loadSessionFile {} gnomeTwice.installed "gnome").map Prod.snd =
      some "/usr/share/wayland-sessions/gnome.desktop" := by
    decide +kernel
  rw [hcollected] at hsession
  obtain rfl := Option.some.inj hsession
  rw [hload] at hdaemon
  simp only [Option.map_some, Option.some.injEq] at hdaemon
  revert hdaemon
  decide

end SessionFiles

end Gdm
