import Gdm.Library.CharBuffer
import Gdm.Library.Separated

/-!
# The search for a program

`gdm_session_execute` replaces the process by a program.  A name without a slash is looked for in
the directories of `PATH`: each of them is written in front of the name in one buffer, which has
the name at its end, and the name that begins there is tried.
-/

namespace Gdm

/-- The errors of `execve` that the search tells apart. -/
inductive ExecErrno
  | eacces
  | enoent
  | estale
  | enotdir
  | enoexec
  | other (code : Nat)
  deriving DecidableEq, Repr

/-- The file is missing, or not for us to execute. -/
def ExecErrno.IsMissing (errno : ExecErrno) : Prop :=
  errno = .eacces ∨ errno = .enoent ∨ errno = .estale ∨ errno = .enotdir

instance (errno : ExecErrno) : Decidable errno.IsMissing :=
  inferInstanceAs (Decidable (_ ∨ _))

/-- A call of `execve`, or of `execv` where no environment is given. -/
structure ExecCall where
  file : List Char
  argv : List (List Char)
  envp : Option (List (List Char))
  deriving DecidableEq, Repr

/-- What an `exec` meets, after so many calls: an error, or none when it does not return. -/
abbrev ExecOutcomes := Nat → ExecCall → Option ExecErrno

/-- The calls that have been made, and the error that is left, if the process is. -/
abbrev ExecResult := List ExecCall × Option ExecErrno

/-- The arguments of `gdm_session_execute`, the first argument of the program apart, with what the
calls meet. -/
structure Execution where
  outcomes : ExecOutcomes
  arg0 : List Char
  args : List (List Char)
  envp : Option (List (List Char))

namespace Execution

variable (self : Execution)

def exec (calls : List ExecCall) (file : List Char) (argv : List (List Char)) : ExecResult :=
  let call : ExecCall := { file := file, argv := argv, envp := self.envp }
  (calls ++ [call], self.outcomes calls.length call)

/-- `script_execute` -/
def scriptExecute (calls : List ExecCall) (file : List Char) : ExecResult :=
  self.exec calls "/bin/sh".toList ("/bin/sh".toList :: file :: self.args)

/-- A file is tried, and given to the shell if it has no format of its own. -/
def execFile (calls : List ExecCall) (file : List Char) : ExecResult :=
  let result := self.exec calls file (self.arg0 :: self.args)
  if result.2 = some .enoexec then self.scriptExecute result.1 file else result

/-- A directory is written in front of the name, which is at `name` with a slash; the result is
where the file begins. -/
def putDirectory {size : Nat} (buffer : CharBuffer size) (name : Nat) (directory : List Char) :
    Option (CharBuffer size × Nat) :=
  if directory = [] then some (buffer, name + 1)
  else if directory.length ≤ name then
    (buffer.write (name - directory.length) directory).map fun buffer =>
      (buffer, name - directory.length)
  else none

/-- The loop over `PATH`, with `got_eacces` and `p`. -/
def searchFrom {size : Nat} (name : Nat) (buffer : CharBuffer size) (calls : List ExecCall)
    (gotEacces : Bool) (p : List Char) : Option ExecResult :=
  let directory := p.takeWhile (· ≠ ':')
  match putDirectory buffer name directory with
  | none => none
  | some (buffer, startp) =>
    let (calls, errno) := self.execFile calls (buffer.textAt startp)
    match errno with
    | none => some (calls, none)
    | some errno =>
      if errno.IsMissing then
        let gotEacces := gotEacces || errno = .eacces
        if _hend : p.dropWhile (· ≠ ':') = [] then
          some (calls, some (if gotEacces then .eacces else errno))
        else searchFrom name buffer calls gotEacces (p.dropWhile (· ≠ ':')).tail
      else some (calls, some errno)
termination_by p.length
decreasing_by
  have hlength := (p.dropWhile_suffix (· ≠ ':')).length_le
  have hpos := List.length_pos_iff.mpr _hend
  rw [List.length_tail]
  omega

/-- The search path where the environment has none. -/
def defaultPath : List Char :=
  "/bin:/usr/bin:.".toList

/-- `gdm_session_execute`, with the memory that it is given.  There is no result where it writes
outside of that. -/
def gdmSessionExecute (memory : (size : Nat) → CharBuffer size) (file : List Char)
    (searchPath : Bool) (path : Option (List Char)) : Option ExecResult :=
  if file = [] then some ([], some .enoent)
  else if searchPath = false ∨ '/' ∈ file then some (self.execFile [] file)
  else do
    let path := path.getD defaultPath
    let buffer := memory (path.length + (file.length + 1) + 1)
    let buffer ← buffer.write (path.length + 1) (file ++ ['\x00'])
    let buffer ← buffer.put path.length '/'
    self.searchFrom path.length buffer [] false path

/-! ## What is asked of it -/

/-- The files that the search path names: an empty directory stands for the name alone. -/
def candidates (file path : List Char) : List (List Char) :=
  (path.splitOn ':').map fun directory =>
    if directory = [] then file else directory ++ '/' :: file

/-- A file is tried after so many calls: it is executed itself, and where it has no format of its
own the shell is executed with it; the error is that of the last call. -/
inductive Tries (calls : List ExecCall) (file : List Char) : List ExecCall → Option ExecErrno → Prop
  | itself {own : ExecCall} (hown : own = ⟨file, self.arg0 :: self.args, self.envp⟩)
    (herrno : self.outcomes calls.length own ≠ some .enoexec) :
    Tries calls file (calls ++ [own]) (self.outcomes calls.length own)
  | shell {own sh : ExecCall} (hown : own = ⟨file, self.arg0 :: self.args, self.envp⟩)
    (herrno : self.outcomes calls.length own = some .enoexec)
    (hsh : sh = ⟨"/bin/sh".toList, "/bin/sh".toList :: file :: self.args, self.envp⟩) :
    Tries calls file (calls ++ [own, sh]) (self.outcomes (calls.length + 1) sh)

/-- Some files are tried one after the other, with the error that each of them leaves. -/
inductive TriesAll : List ExecCall → List (List Char) → List ExecCall →
    List (Option ExecErrno) → Prop
  | nil {calls : List ExecCall} : TriesAll calls [] calls []
  | cons {calls calls' after : List ExecCall} {file : List Char} {files : List (List Char)}
    {errno : Option ExecErrno} {errnos : List (Option ExecErrno)}
    (hfirst : self.Tries calls file calls' errno) (hrest : TriesAll calls' files after errnos) :
    TriesAll calls (file :: files) after (errno :: errnos)

/-- What the search returns after the last file that it has tried: it has stopped there, or it has
come to the end. -/
def Reported (gotEacces : Prop) (remaining : List (List Char)) (earlier : List (Option ExecErrno))
    (reported : Option ExecErrno) : Option ExecErrno → Prop
  | none => reported = none
  | some errno =>
    (¬ errno.IsMissing ∧ reported = some errno) ∨
      (errno.IsMissing ∧ remaining = [] ∧
        (gotEacces ∨ some .eacces ∈ earlier ∨ errno = .eacces → reported = some .eacces) ∧
        (¬ (gotEacces ∨ some .eacces ∈ earlier ∨ errno = .eacces) → reported = some errno))

/-- The candidates are tried in order up to one, before which every one is missing. -/
def SearchesFrom (calls : List ExecCall) (gotEacces : Prop) (files : List (List Char))
    (result : ExecResult) : Prop :=
  ∃ tried remaining earlier last, files = tried ++ remaining ∧
    self.TriesAll calls tried result.1 (earlier ++ [last]) ∧
    (∀ errno ∈ earlier, ∃ missing : ExecErrno, errno = some missing ∧ missing.IsMissing) ∧
    Reported gotEacces remaining earlier result.2 last

/-! ## The buffer -/

/-- The buffer has the name of the file at its end, after a slash. -/
def HasName {size : Nat} (buffer : CharBuffer size) (name : Nat) (file : List Char) : Prop :=
  ∃ front, front.length = name ∧ buffer.cells = front ++ '/' :: (file ++ ['\x00'])

theorem HasName.putDirectory {size name : Nat} {buffer : CharBuffer size} {file : List Char}
    (h : HasName buffer name file) (hfile : '\x00' ∉ file) {directory : List Char}
    (hdirectory : '\x00' ∉ directory) (hroom : directory.length ≤ name) :
    ∃ buffer' startp, Execution.putDirectory buffer name directory = some (buffer', startp) ∧
      HasName buffer' name file ∧
      buffer'.textAt startp = if directory = [] then file else directory ++ '/' :: file := by
  obtain ⟨front, hlength, hcells⟩ := h
  by_cases hempty : directory = []
  · refine ⟨buffer, name + 1, by simp [Execution.putDirectory, hempty],
      ⟨front, hlength, hcells⟩, ?_⟩
    have hslash : buffer.cells = (front ++ ['/']) ++ (file ++ '\x00' :: []) := by
      rw [hcells]
      simp
    have hstart : (front ++ ['/']).length = name + 1 := by simp [hlength]
    rw [if_pos hempty, ← hstart, CharBuffer.textAt_eq hslash hfile]
  · have hsplit : buffer.cells = front.take (name - directory.length) ++
        front.drop (name - directory.length) ++ '/' :: (file ++ ['\x00']) := by
      rw [List.take_append_drop, hcells]
    have hold : directory.length = (front.drop (name - directory.length)).length := by
      rw [List.length_drop, hlength]
      omega
    have hstart : (front.take (name - directory.length)).length = name - directory.length := by
      rw [List.length_take, hlength]
      omega
    obtain ⟨buffer', hwrite, hcells'⟩ := CharBuffer.write_eq directory hsplit hold
    rw [hstart] at hwrite
    refine ⟨buffer', name - directory.length, ?_, ?_, ?_⟩
    · rw [Execution.putDirectory, if_neg hempty, if_pos hroom, hwrite, Option.map_some]
    · refine ⟨front.take (name - directory.length) ++ directory, ?_, hcells'⟩
      rw [List.length_append, hstart]
      omega
    · have htext : buffer'.cells = front.take (name - directory.length) ++
          ((directory ++ '/' :: file) ++ '\x00' :: []) := by
        rw [hcells']
        simp
      rw [if_neg hempty, ← hstart, CharBuffer.textAt_eq htext (by simp [hdirectory, hfile])]

/-! ## The loop -/

variable {self}

/-- The calls for one file are those of a try. -/
theorem execFile_tries (calls : List ExecCall) (file : List Char) :
    self.Tries calls file (self.execFile calls file).1 (self.execFile calls file).2 := by
  by_cases herrno : (self.exec calls file (self.arg0 :: self.args)).2 = some .enoexec
  · have hexec : self.execFile calls file =
        self.scriptExecute (self.exec calls file (self.arg0 :: self.args)).1 file := by
      simp [execFile, herrno]
    rw [hexec]
    have htries : self.Tries calls file _ _ := .shell rfl herrno rfl
    simpa [scriptExecute, exec] using htries
  · have hexec : self.execFile calls file = self.exec calls file (self.arg0 :: self.args) := by
      simp [execFile, herrno]
    rw [hexec]
    exact .itself rfl herrno

theorem Tries.of_execFile {calls calls' : List ExecCall} {file : List Char}
    {errno : Option ExecErrno} (h : self.execFile calls file = (calls', errno)) :
    self.Tries calls file calls' errno := by
  have htries := self.execFile_tries calls file
  rwa [h] at htries

/-- The search stops at the first file. -/
theorem SearchesFrom.stop {calls calls' : List ExecCall} {gotEacces : Prop} {file : List Char}
    {files : List (List Char)} {last reported : Option ExecErrno}
    (hexec : self.execFile calls file = (calls', last))
    (hreported : Reported gotEacces files [] reported last) :
    self.SearchesFrom calls gotEacces (file :: files) (calls', reported) :=
  ⟨[file], files, [], last, rfl, .cons (.of_execFile hexec) .nil, by simp, hreported⟩

/-- The first file is missing, and the search goes on with the others. -/
theorem SearchesFrom.next {calls calls' : List ExecCall} {gotEacces : Prop} {file : List Char}
    {files : List (List Char)} {errno : ExecErrno} {result : ExecResult}
    (hexec : self.execFile calls file = (calls', some errno)) (hmissing : errno.IsMissing)
    (h : self.SearchesFrom calls' (gotEacces ∨ errno = .eacces) files result) :
    self.SearchesFrom calls gotEacces (file :: files) result := by
  obtain ⟨tried, remaining, earlier, last, rfl, hall, hearlier, hreported⟩ := h
  refine ⟨file :: tried, remaining, some errno :: earlier, last, rfl,
    .cons (.of_execFile hexec) hall, ?_, ?_⟩
  · intro errno' hmem
    rcases List.mem_cons.mp hmem with rfl | hmem
    · exact ⟨errno, rfl, hmissing⟩
    · exact hearlier errno' hmem
  · cases last with
    | none => exact hreported
    | some lastErrno =>
      have hsome : some ExecErrno.eacces ∈ some errno :: earlier ↔
          errno = .eacces ∨ some ExecErrno.eacces ∈ earlier := by
        rw [List.mem_cons, Option.some.injEq, eq_comm]
      simp only [Reported, hsome, or_assoc] at hreported ⊢
      exact hreported

theorem searchFrom_spec {size name : Nat} {file : List Char} (hfile : '\x00' ∉ file)
    (p : List Char) :
    ∀ (buffer : CharBuffer size) (calls : List ExecCall) (gotEacces : Bool),
      HasName buffer name file → '\x00' ∉ p → p.length ≤ name →
      ∃ result, self.searchFrom name buffer calls gotEacces p = some result ∧
        self.SearchesFrom calls (gotEacces = true) (candidates file p) result := by
  induction p using Separated.induction ':' with
  | single directory hdirectory =>
    intro buffer calls gotEacces hname hnul hroom
    obtain ⟨buffer', startp, hput, -, htext⟩ := hname.putDirectory hfile hnul hroom
    have htake := Separated.takeWhile_single hdirectory
    have hcandidates : candidates file directory =
        [if directory = [] then file else directory ++ '/' :: file] := by
      rw [candidates, Separated.splitOn_single hdirectory, List.map_singleton]
    rw [hcandidates, ← htext]
    rcases hexec : self.execFile calls (buffer'.textAt startp) with ⟨calls', last⟩
    cases last with
    | none =>
      refine ⟨(calls', none), ?_, .stop hexec rfl⟩
      rw [searchFrom]
      simp only [htake, hput, hexec]
    | some errno =>
      by_cases hmissing : errno.IsMissing
      · refine ⟨(calls', some (if gotEacces || errno = .eacces then .eacces else errno)), ?_,
          .stop hexec (Or.inr ⟨hmissing, rfl, ?_, ?_⟩)⟩
        · rw [searchFrom]
          simp only [htake, hput, hexec, if_pos hmissing,
            dif_pos (Separated.dropWhile_single hdirectory)]
        · intro hgot
          have hgot' : gotEacces = true ∨ errno = .eacces := by simpa using hgot
          simp [hgot']
        · intro hgot
          have hgot' : ¬ (gotEacces = true ∨ errno = .eacces) := by simpa using hgot
          simp [hgot']
      · refine ⟨(calls', some errno), ?_, .stop hexec (Or.inl ⟨hmissing, rfl⟩)⟩
        rw [searchFrom]
        simp only [htake, hput, hexec, if_neg hmissing]
  | cons directory rest hdirectory ih =>
    intro buffer calls gotEacces hname hnul hroom
    simp only [List.mem_append, List.mem_cons, not_or] at hnul
    rw [List.length_append, List.length_cons] at hroom
    obtain ⟨buffer', startp, hput, hname', htext⟩ :=
      hname.putDirectory hfile hnul.1 (by omega)
    have htake := Separated.takeWhile_field hdirectory rest
    have hcandidates : candidates file (directory ++ ':' :: rest) =
        (if directory = [] then file else directory ++ '/' :: file) :: candidates file rest := by
      rw [candidates, Separated.splitOn_field hdirectory, List.map_cons, candidates]
    rw [hcandidates, ← htext]
    rcases hexec : self.execFile calls (buffer'.textAt startp) with ⟨calls', last⟩
    cases last with
    | none =>
      refine ⟨(calls', none), ?_, .stop hexec rfl⟩
      rw [searchFrom]
      simp only [htake, hput, hexec]
    | some errno =>
      by_cases hmissing : errno.IsMissing
      · obtain ⟨result, hsearch, hsearches⟩ :=
          ih buffer' calls' (gotEacces || errno = .eacces) hname' hnul.2.2 (by omega)
        refine ⟨result, ?_, .next hexec hmissing (by simpa using hsearches)⟩
        rw [searchFrom]
        simp only [htake, hput, hexec, if_pos hmissing, Separated.dropWhile_field hdirectory]
        simpa using hsearch
      · refine ⟨(calls', some errno), ?_, .stop hexec (Or.inl ⟨hmissing, rfl⟩)⟩
        rw [searchFrom]
        simp only [htake, hput, hexec, if_neg hmissing]

/-- A name without a slash is looked for in the directories of `PATH`, in order: a file without a
format goes to the shell, a file that is missing lets the search go on, any other error ends it,
and where all files are missing `EACCES` is reported if one of them gave it, and else the last
error.  All that is written is written within the buffer. -/
theorem gdmSessionExecute_searches (self : Execution) (memory : (size : Nat) → CharBuffer size)
    {file path : List Char} (hempty : file ≠ []) (hslash : '/' ∉ file) (hfile : '\x00' ∉ file)
    (hpath : '\x00' ∉ path) :
    ∃ result, self.gdmSessionExecute memory file true (some path) = some result ∧
      self.SearchesFrom [] False (candidates file path) result := by
  have hsize := (memory (path.length + (file.length + 1) + 1)).length_cells
  -- The name is written behind the slash, and then the slash.
  have hcells : (memory (path.length + (file.length + 1) + 1)).cells =
      (memory (path.length + (file.length + 1) + 1)).cells.take (path.length + 1) ++
        (memory (path.length + (file.length + 1) + 1)).cells.drop (path.length + 1) ++ [] := by
    simp
  obtain ⟨buffer₁, hcopy, hcells₁⟩ := CharBuffer.write_eq (file ++ ['\x00']) hcells (by
    rw [List.length_drop, hsize, List.length_append, List.length_singleton]
    omega)
  have hfront : ((memory (path.length + (file.length + 1) + 1)).cells.take
      (path.length + 1)).length = path.length + 1 := by
    rw [List.length_take, hsize]
    omega
  rw [hfront] at hcopy
  obtain ⟨front, last, hfrontEq⟩ : ∃ front last,
      (memory (path.length + (file.length + 1) + 1)).cells.take (path.length + 1) =
        front ++ [last] := by
    rcases List.eq_nil_or_concat ((memory (path.length + (file.length + 1) + 1)).cells.take
        (path.length + 1)) with hnil | ⟨front, last, hconcat⟩
    · rw [hnil] at hfront
      simp at hfront
    · exact ⟨front, last, by rw [hconcat, List.concat_eq_append]⟩
  rw [hfrontEq] at hcells₁ hfront
  have hlength : front.length = path.length := by simpa using hfront
  have hnamed : buffer₁.cells = front ++ [last] ++ (file ++ ['\x00']) := by simpa using hcells₁
  obtain ⟨buffer₂, hslashed, hcells₂⟩ := CharBuffer.write_eq ['/'] hnamed rfl
  have hput : buffer₁.put path.length '/' = some buffer₂ := by
    rw [hlength] at hslashed
    simpa [CharBuffer.write] using hslashed
  have hname : HasName buffer₂ path.length file := ⟨front, hlength, by simpa using hcells₂⟩
  obtain ⟨result, hsearch, hsearches⟩ :=
    self.searchFrom_spec hfile path buffer₂ [] false hname hpath le_rfl
  refine ⟨result, ?_, by simpa using hsearches⟩
  simp only [gdmSessionExecute, if_neg hempty, hslash, Bool.true_eq_false, or_self, if_false,
    Option.getD_some, Option.bind_eq_bind, hcopy, Option.bind_some, hput, hsearch]

/-- The first file has no format and the shell cannot read it, and the others are not there. -/
def listing : Execution where
  outcomes calls _ :=
    if calls = 0 then some .enoexec else if calls = 1 then some .eacces else some .enoent
  arg0 := "ls".toList
  args := ["-l".toList]
  envp := none

/-- What `listing` comes to for `/bin::/usr/bin`. -/
def listed : ExecResult :=
  ([⟨"/bin/ls".toList, ["ls".toList, "-l".toList], none⟩,
    ⟨"/bin/sh".toList, ["/bin/sh".toList, "/bin/ls".toList, "-l".toList], none⟩,
    ⟨"ls".toList, ["ls".toList, "-l".toList], none⟩,
    ⟨"/usr/bin/ls".toList, ["ls".toList, "-l".toList], none⟩], some .eacces)

/-- `ls` with an empty directory in the middle of `PATH`: the shell is called for the first file,
whose error is the one that is reported. -/
theorem gdmSessionExecute_searches_ls :
    candidates "ls".toList "/bin::/usr/bin".toList =
        ["/bin/ls".toList, "ls".toList, "/usr/bin/ls".toList] ∧
      listing.gdmSessionExecute (fun size => ⟨List.replicate size 'x', List.length_replicate⟩)
        "ls".toList true (some "/bin::/usr/bin".toList) = some listed ∧
      listing.SearchesFrom [] False (candidates "ls".toList "/bin::/usr/bin".toList) listed := by
  have hlisted : listing.gdmSessionExecute
      (fun size => ⟨List.replicate size 'x', List.length_replicate⟩)
        "ls".toList true (some "/bin::/usr/bin".toList) = some listed := by
    decide +kernel
  obtain ⟨result, hresult, hsearches⟩ := @gdmSessionExecute_searches listing
    (fun size => ⟨List.replicate size 'x', List.length_replicate⟩) "ls".toList
    "/bin::/usr/bin".toList (by decide) (by decide) (by decide) (by decide)
  obtain rfl := Option.some.inj (hresult.symm.trans hlisted)
  exact ⟨by decide, hlisted, hsearches⟩

end Execution

end Gdm
