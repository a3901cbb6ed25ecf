import Gdm.Library.EventMachine
import Gdm.Library.Lines

/-!
# Lists of locks and of databases

A file with locks, and a profile, is a list of lines.  `gdm-config` reads the lines without
the empty ones at the end, adds or removes one, and writes them back.  Here the files are
told by their bytes.
-/

namespace Gdm.Config.ListFiles

open Lines

/-! ## Files as arrays of lines -/

/-- The newline. -/
def lineFeed : UInt8 := 0x0A

/-- The text of a message of the program, which is in ASCII. -/
def ascii (text : String) : List UInt8 :=
  text.toList.map fun c => UInt8.ofNat c.toNat

/-- `g_ascii_isgraph` -/
def gAsciiIsgraph (byte : UInt8) : Bool :=
  decide (0x21 ≤ byte ∧ byte ≤ 0x7E)

/-- What `read_file_contents_to_array` removes from the end of a file. -/
def isTrailing (line : List UInt8) : Bool :=
  !(line.head?.any gAsciiIsgraph || decide (1 < line.length))

/-- `read_file_contents_to_array`: the contents are read as a string, which ends at a NUL. -/
def readFileContentsToArray (content : List UInt8) : List (List UInt8) :=
  ((content.takeWhile (· ≠ 0)).splitOn lineFeed).rdropWhile isTrailing

/-- `write_array_to_file` -/
def writeArrayToFile (array : List (List UInt8)) : List UInt8 :=
  let arrayCopy := if array ≠ [] ∧ array.getLast? ≠ some [] then array ++ [[]] else array
  [lineFeed].intercalate arrayCopy

/-! ## What is listed -/

/-- A part of a line. -/
structure Word where
  bytes : List UInt8
  noNul : 0 ∉ bytes
  noLineFeed : lineFeed ∉ bytes

/-- `schema_to_key` -/
def schemaToKey (schema : List UInt8) : List UInt8 :=
  schema.map fun byte => if byte = 0x2E then 0x2F else byte

/-- `gdm_sys_db` -/
def gdmSysDb : List UInt8 := ascii "system-db:gdm_auth_config"

/-- An entry of a list: the lock of a key, or the database that `gdm-config` has for all users. -/
inductive ListEntry
  | lock (schema key : Word)
  | systemDb

/-- The line of an entry. -/
def ListEntry.line : ListEntry → List UInt8
  | lock schema key => 0x2F :: schemaToKey schema.bytes ++ 0x2F :: key.bytes
  | systemDb => gdmSysDb

/-- `set_dconf_setting_lock_full`, for a lock file or none. -/
def setDconfSettingLockFull (prgname schema key : Word) (add : Bool) :
    Option (List UInt8) → Option (List UInt8)
  | none =>
    if add then
      let locksList := [ascii "# This file is managed by " ++ prgname.bytes, ascii "# Do no edit!"]
      let fullKey := (ListEntry.lock schema key).line
      if fullKey ∈ locksList then none else some (writeArrayToFile (locksList ++ [fullKey]))
    else none
  | some content =>
    let locksList := readFileContentsToArray content
    let fullKey := (ListEntry.lock schema key).line
    if decide (fullKey ∈ locksList) = add then some content
    else
      some (writeArrayToFile
        (if add then locksList ++ [fullKey] else locksList.erase fullKey))

/-- `ensure_dconf_configurable_system_profile`, for a profile or none. -/
def ensureDconfConfigurableSystemProfile : Option (List UInt8) → Option (List UInt8)
  | none => some (writeArrayToFile [ascii "user-db:user", gdmSysDb])
  | some content =>
    let profileLines := readFileContentsToArray content
    if gdmSysDb ∈ profileLines then some content
    else some (writeArrayToFile (profileLines ++ [gdmSysDb]))

/-- What is done to a file. -/
inductive ListOp
  | setLock (schema key : Word) (add : Bool)
  | ensureProfile

namespace ListOp

/-- The entry that it is about. -/
def entry : ListOp → ListEntry
  | setLock schema key _ => .lock schema key
  | ensureProfile => .systemDb

/-- The entry is added, and else removed. -/
def adds : ListOp → Bool
  | setLock _ _ add => add
  | ensureProfile => true

end ListOp

variable (prgname : Word)

/-- One operation on a file. -/
def apply (file : Option (List UInt8)) : ListOp → Option (List UInt8)
  | .setLock schema key add => setDconfSettingLockFull prgname schema key add file
  | .ensureProfile => ensureDconfConfigurableSystemProfile file

/-- The operations on a file, one after the other. -/
def machine : EventMachine (Option (List UInt8)) ListOp where
  Start _ := True
  step := apply prgname

/-! ## Reading what has been written -/

/-- The lines of a file. -/
def linesOf : Option (List UInt8) → List (List UInt8)
  | none => []
  | some content => content.splitOn lineFeed

theorem read_of_noNul {content : List UInt8} (hnul : 0 ∉ content) :
    readFileContentsToArray content = (content.splitOn lineFeed).rdropWhile isTrailing := by
  rw [readFileContentsToArray, Separated.takeWhile_single hnul]

/-- The lines that are written are those of the array, with an empty one at the end. -/
theorem linesOf_writeArrayToFile {array : List (List UInt8)}
    (harray : ∀ line ∈ array, lineFeed ∉ line) :
    linesOf (some (writeArrayToFile array)) =
      if array.getLast? = some [] then array else array ++ [[]] := by
  unfold linesOf writeArrayToFile
  dsimp only
  cases array with
  | nil => rfl
  | cons line lines =>
    split
    · rename_i hlast
      rw [if_neg hlast.2]
      apply List.splitOn_intercalate
      · intro other hother
        rcases List.mem_append.mp hother with hother | hother
        · exact harray other hother
        · simp [List.mem_singleton.mp hother]
      · simp
    · rename_i hlast
      rw [if_pos (by simpa using hlast)]
      exact List.splitOn_intercalate lineFeed harray (List.cons_ne_nil line lines)

/-! ## Entries -/

/-- The lines of a file that is made anew, before the entry. -/
def header : ListOp → List (List UInt8)
  | .setLock _ _ _ => [ascii "# This file is managed by " ++ prgname.bytes, ascii "# Do no edit!"]
  | .ensureProfile => [ascii "user-db:user"]

namespace ListEntry

variable (entry : ListEntry)

/-- A byte that is in none of the parts is not in the line. -/
theorem not_mem_line {byte : UInt8} (hslash : byte ≠ 0x2F) (hdb : byte ∉ gdmSysDb)
    (hword : ∀ word : Word, byte ∉ word.bytes) : byte ∉ entry.line := by
  cases entry with
  | systemDb => exact hdb
  | lock schema key =>
    have hschema : byte ∉ schemaToKey schema.bytes := by
      unfold schemaToKey
      rw [List.mem_map]
      rintro ⟨other, hother, heq⟩
      split at heq
      · exact hslash heq.symm
      · exact hword schema (heq ▸ hother)
    simp only [line, List.cons_append, List.mem_cons, List.mem_append, not_or]
    exact ⟨hslash, hschema, hslash, hword key⟩

theorem noNul_line : 0 ∉ entry.line :=
  entry.not_mem_line (by decide) (by decide) Word.noNul

theorem noLineFeed_line : lineFeed ∉ entry.line :=
  entry.not_mem_line (by decide) (by decide) Word.noLineFeed

theorem isTrailing_line : isTrailing entry.line = false := by
  cases entry with
  | systemDb => decide
  | lock schema key => rfl

/-- An entry begins with a slash or with an s, and no line of a header does. -/
theorem line_not_mem_header (op : ListOp) : entry.line ∉ header prgname op := by
  have hfirst : entry.line.head? = some 0x2F ∨ entry.line.head? = some 0x73 := by
    cases entry with
    | systemDb => exact .inr (by decide)
    | lock schema key => exact .inl rfl
  have hheader : ∀ line ∈ header prgname op,
      line.head? = some 0x23 ∨ line.head? = some 0x75 := by
    cases op with
    | setLock schema key add => simp [header, ascii]
    | ensureProfile => simp [header, ascii]
  intro hmem
  rcases hheader _ hmem with hother | hother
  · rw [hother] at hfirst
    simp at hfirst
  · rw [hother] at hfirst
    simp at hfirst

end ListEntry

/-! ## One operation -/

/-- The text of a file ends with the file. -/
def NoNul : Option (List UInt8) → Prop
  | none => True
  | some content => 0 ∉ content

instance decidableNoNul : ∀ file, Decidable (NoNul file)
  | none => isTrue trivial
  | some content => inferInstanceAs (Decidable (0 ∉ content))

/-- The array in which an operation looks for its entry. -/
def arrayFor (op : ListOp) : Option (List UInt8) → List (List UInt8)
  | none => header prgname op
  | some content => readFileContentsToArray content

/-- The entry is among the lines that an operation reads. -/
def Read (entry : ListEntry) : Option (List UInt8) → Prop
  | none => False
  | some content => entry.line ∈ readFileContentsToArray content

instance decidableRead (entry : ListEntry) : ∀ file, Decidable (Read entry file)
  | none => isFalse id
  | some content => inferInstanceAs (Decidable (entry.line ∈ readFileContentsToArray content))

/-- The entry of an operation is listed in the file. -/
def Listed (entry : ListEntry) (file : Option (List UInt8)) : Prop :=
  entry.line ∈ linesOf file

instance decidableListed (entry : ListEntry) (file : Option (List UInt8)) :
    Decidable (Listed entry file) :=
  inferInstanceAs (Decidable (entry.line ∈ linesOf file))

variable {file : Option (List UInt8)} {op : ListOp}

theorem mem_arrayFor (entry : ListEntry) (op : ListOp) (file : Option (List UInt8)) :
    entry.line ∈ arrayFor prgname op file ↔ Read entry file := by
  cases file with
  | none => simp [arrayFor, Read, entry.line_not_mem_header]
  | some content => rfl

/-- What is listed is read, when the text does not end before the file. -/
theorem read_iff_listed (hnul : NoNul file) (entry : ListEntry) :
    Read entry file ↔ Listed entry file := by
  cases file with
  | none => simp [Read, Listed, linesOf]
  | some content =>
    rw [Read, read_of_noNul hnul]
    exact mem_rdropWhile_iff entry.isTrailing_line _

theorem not_mem_of_mem_arrayFor (op : ListOp) (file : Option (List UInt8)) :
    ∀ line ∈ arrayFor prgname op file, 0 ∉ line ∧ lineFeed ∉ line := by
  cases file with
  | none =>
    cases op with
    | setLock schema key add =>
      simp only [arrayFor, header, List.forall_mem_cons, List.mem_append, not_or]
      refine ⟨⟨⟨by decide, prgname.noNul⟩, by decide, prgname.noLineFeed⟩, by decide, by simp⟩
    | ensureProfile =>
      simp only [arrayFor, header, List.forall_mem_singleton]
      decide
  | some content =>
    intro line hline
    have htext : (0 : UInt8) ∉ content.takeWhile (· ≠ 0) := fun hmem => by
      simpa using List.mem_takeWhile_imp hmem
    have hmem := (List.rdropWhile_prefix isTrailing _).subset hline
    exact ⟨not_mem_of_not_mem_text _ htext line hmem, not_mem_of_mem_splitOn _ line hmem⟩

/-- What an operation does: nothing when the entry is read as it has to be, and else the array is
written with the entry or without the first line that is it. -/
theorem apply_eq (file : Option (List UInt8)) (op : ListOp) :
    apply prgname file op =
      if decide (Read op.entry file) = op.adds then file
      else
        some (writeArrayToFile
          (if op.adds then arrayFor prgname op file ++ [op.entry.line]
            else (arrayFor prgname op file).erase op.entry.line)) := by
  have hmem := mem_arrayFor prgname op.entry op file
  cases file with
  | none =>
    cases op with
    | setLock schema key add =>
      cases add with
      | false => rfl
      | true =>
        have hheader := (ListEntry.lock schema key).line_not_mem_header prgname
          (.setLock schema key true)
        simp only [apply, setDconfSettingLockFull, if_true]
        exact if_neg hheader
    | ensureProfile => rfl
  | some content =>
    cases op with
    | setLock schema key add =>
      simp only [apply, setDconfSettingLockFull, arrayFor, ← hmem]
      rfl
    | ensureProfile =>
      simp only [apply, ensureDconfConfigurableSystemProfile, ListOp.adds, decide_eq_true_eq,
        ← hmem]
      rfl

/-- The array that an operation writes. -/
def written (prgname : Word) (op : ListOp) (file : Option (List UInt8)) : List (List UInt8) :=
  if op.adds then arrayFor prgname op file ++ [op.entry.line]
  else (arrayFor prgname op file).erase op.entry.line

/-- An operation leaves the file as it is, or writes the array. -/
theorem apply_cases (file : Option (List UInt8)) (op : ListOp) :
    ((Read op.entry file ↔ op.adds = true) ∧ apply prgname file op = file) ∨
      (¬ (Read op.entry file ↔ op.adds = true) ∧
        apply prgname file op = some (writeArrayToFile (written prgname op file))) := by
  have hiff : decide (Read op.entry file) = op.adds ↔ (Read op.entry file ↔ op.adds = true) := by
    rw [Bool.eq_iff_iff, decide_eq_true_eq]
  rw [apply_eq prgname]
  by_cases h : Read op.entry file ↔ op.adds = true
  · exact .inl ⟨h, if_pos (hiff.mpr h)⟩
  · exact .inr ⟨h, if_neg fun heq => h (hiff.mp heq)⟩

theorem not_mem_of_mem_written (op : ListOp) (file : Option (List UInt8)) :
    ∀ line ∈ written prgname op file, 0 ∉ line ∧ lineFeed ∉ line := by
  have harray := not_mem_of_mem_arrayFor prgname op file
  intro line hline
  unfold written at hline
  split at hline
  · rcases List.mem_append.mp hline with hbefore | hentry
    · exact harray line hbefore
    · rw [List.mem_singleton.mp hentry]
      exact ⟨op.entry.noNul_line, op.entry.noLineFeed_line⟩
  · exact harray line (List.mem_of_mem_erase hline)

/-- No more than an empty line follows what is written. -/
theorem linesOf_written (op : ListOp) (file : Option (List UInt8)) :
    ∃ ends, linesOf (some (writeArrayToFile (written prgname op file))) =
      written prgname op file ++ ends ∧ ∀ line ∈ ends, line = [] := by
  have hwritten := not_mem_of_mem_written prgname op file
  rw [linesOf_writeArrayToFile fun line hline => (hwritten line hline).2]
  split
  · exact ⟨[], (List.append_nil _).symm, by simp⟩
  · exact ⟨[[]], rfl, by simp⟩

/-- No NUL is ever written. -/
theorem noNul_written (op : ListOp) (file : Option (List UInt8)) :
    NoNul (some (writeArrayToFile (written prgname op file))) := by
  unfold NoNul writeArrayToFile
  apply not_mem_intercalate (by decide)
  have hwritten := not_mem_of_mem_written prgname op file
  intro line hline
  split at hline
  · rcases List.mem_append.mp hline with hbefore | hempty
    · exact (hwritten line hbefore).1
    · simp [List.mem_singleton.mp hempty]
  · exact (hwritten line hline).1

theorem noNul_apply (hnul : NoNul file) (op : ListOp) : NoNul (apply prgname file op) := by
  rcases apply_cases prgname file op with ⟨-, heq⟩ | ⟨-, heq⟩
  · rw [heq]
    exact hnul
  · rw [heq]
    exact noNul_written prgname op file

theorem listed_written_iff (op : ListOp) (file : Option (List UInt8)) (entry : ListEntry) :
    Listed entry (some (writeArrayToFile (written prgname op file))) ↔
      entry.line ∈ written prgname op file := by
  obtain ⟨ends, hlines, hends⟩ := linesOf_written prgname op file
  have hne : entry.line ∉ ends := by
    intro hmem
    have htrailing := entry.isTrailing_line
    rw [hends _ hmem] at htrailing
    cases htrailing
  rw [Listed, hlines, List.mem_append]
  exact or_iff_left hne

theorem count_arrayFor_le (hnul : NoNul file) (hlisted : Listed op.entry file)
    (line : List UInt8) :
    (arrayFor prgname op file).count line ≤ (linesOf file).count line := by
  cases file with
  | none => cases hlisted
  | some content =>
    rw [arrayFor, read_of_noNul hnul]
    exact (List.rdropWhile_prefix isTrailing _).sublist.count_le line

/-! ## What an operation needs -/

/-- A byte of white space. -/
def isSpaceByte (byte : UInt8) : Bool :=
  decide (byte = 0x20 ∨ (0x09 ≤ byte ∧ byte ≤ 0x0D))

/-- A blank line. -/
def isBlank (line : List UInt8) : Bool :=
  line.all isSpaceByte

/-- The lines that are taken for empty at the end of the file are blank: none of them is a control
character or a byte that is not ASCII. -/
def Clean : Option (List UInt8) → Prop
  | none => True
  | some content => ∀ line ∈ (content.splitOn lineFeed).rtakeWhile isTrailing, isBlank line = true

instance decidableClean : ∀ file, Decidable (Clean file)
  | none => isTrue trivial
  | some content =>
    inferInstanceAs (Decidable (∀ line ∈ (content.splitOn lineFeed).rtakeWhile isTrailing,
      isBlank line = true))

/-- The entry of the operation is as it has to be, in what is read and in the whole file. -/
def Settled (file : Option (List UInt8)) (op : ListOp) : Prop :=
  (Read op.entry file ↔ op.adds = true) ∧ (Listed op.entry file ↔ op.adds = true)

instance decidableSettled (file : Option (List UInt8)) (op : ListOp) :
    Decidable (Settled file op) :=
  inferInstanceAs (Decidable ((Read op.entry file ↔ op.adds = true) ∧
    (Listed op.entry file ↔ op.adds = true)))

/-- An entry that is removed is listed once at most, and a file that is written has no NUL and is
clean. -/
def Conforms (file : Option (List UInt8)) (op : ListOp) : Prop :=
  (op.adds = false → (linesOf file).count op.entry.line ≤ 1) ∧
    (Settled file op ∨ NoNul file ∧ Clean file)

instance decidableConforms (file : Option (List UInt8)) (op : ListOp) :
    Decidable (Conforms file op) :=
  inferInstanceAs (Decidable ((op.adds = false → (linesOf file).count op.entry.line ≤ 1) ∧
    (Settled file op ∨ NoNul file ∧ Clean file)))

/-- An operation that writes a file, in a run that conforms, has a clean one without NUL. -/
theorem Conforms.of_not_read (h : Conforms file op)
    (hunread : ¬ (Read op.entry file ↔ op.adds = true)) : NoNul file ∧ Clean file :=
  h.2.resolve_left fun hsettled => hunread hsettled.1

/-! ## What an operation keeps -/

/-- After an operation its entry is listed just when it was to be added, and every other entry is
listed as before. -/
theorem listed_apply (hconforms : Conforms file op) (entry : ListEntry) :
    Listed entry (apply prgname file op) ↔
      if op.entry.line = entry.line then op.adds = true else Listed entry file := by
  rcases apply_cases prgname file op with ⟨hread, heq⟩ | ⟨hunread, heq⟩
  · rw [heq]
    split
    · rename_i hsame
      have hlisted : Listed op.entry file ↔ op.adds = true := by
        rcases hconforms.2 with hsettled | ⟨hnul, -⟩
        · exact hsettled.2
        · exact (read_iff_listed hnul op.entry).symm.trans hread
      rw [Listed, ← hsame]
      exact hlisted
    · rfl
  · obtain ⟨hnul, -⟩ := hconforms.of_not_read hunread
    rw [heq, listed_written_iff prgname op file, written]
    rw [read_iff_listed hnul] at hunread
    cases hadds : op.adds with
    | true =>
      simp only [if_true, List.mem_append, List.mem_singleton, mem_arrayFor, read_iff_listed hnul]
      split
      · rename_i hsame
        simp [hsame]
      · rename_i hother
        simp [Ne.symm hother]
    | false =>
      have hlisted : Listed op.entry file := by
        by_contra hnot
        exact hunread (by simp [hnot, hadds])
      simp only [Bool.false_eq_true, if_false]
      split
      · rename_i hsame
        have hzero : ((arrayFor prgname op file).erase op.entry.line).count op.entry.line = 0 := by
          have hfew := count_arrayFor_le prgname hnul hlisted op.entry.line
          rw [List.count_erase_self]
          exact Nat.sub_eq_zero_of_le (hfew.trans (hconforms.1 hadds))
        simpa [← hsame] using List.count_eq_zero.mp hzero
      · rename_i hother
        rw [List.mem_erase_of_ne (Ne.symm hother), mem_arrayFor, read_iff_listed hnul]

theorem isSome_apply (hfile : file.isSome) (op : ListOp) :
    (apply prgname file op).isSome := by
  rcases apply_cases prgname file op with ⟨-, heq⟩ | ⟨-, heq⟩
  · rw [heq]
    exact hfile
  · rw [heq]
    rfl

/-- The other lines of a file are kept. -/
theorem rest_apply (hfile : file.isSome) (hconforms : Conforms file op)
    {touched : List (List UInt8)} (htouched : op.entry.line ∈ touched) :
    rest isBlank touched (linesOf (apply prgname file op)) =
      rest isBlank touched (linesOf file) := by
  rcases apply_cases prgname file op with ⟨-, heq⟩ | ⟨hunread, heq⟩
  · rw [heq]
  · obtain ⟨ends, hlines, hends⟩ := linesOf_written prgname op file
    obtain ⟨hnul, hclean⟩ := hconforms.of_not_read hunread
    have harray : rest isBlank touched (arrayFor prgname op file) =
        rest isBlank touched (linesOf file) := by
      cases file with
      | none => cases hfile
      | some content =>
        rw [arrayFor, read_of_noNul hnul]
        exact rest_rdropWhile hclean
    have hends' : ∀ line ∈ ends, line ∈ touched ∨ isBlank line = true :=
      fun line hline => .inr (hends line hline ▸ rfl)
    rw [heq, hlines, rest_append_of_forall hends', ← harray, written]
    split
    · apply rest_append_of_forall
      intro line hline
      rw [List.mem_singleton.mp hline]
      exact .inl htouched
    · exact rest_erase htouched _

/-- The same operation once more changes nothing. -/
theorem apply_apply (hconforms : Conforms file op) :
    apply prgname (apply prgname file op) op = apply prgname file op := by
  rcases apply_cases prgname file op with ⟨-, heq⟩ | ⟨hunread, -⟩
  · rw [heq, heq]
  · have hnul := noNul_apply prgname (hconforms.of_not_read hunread).1 op
    have hlisted := (listed_apply prgname hconforms op.entry).trans (by rw [if_pos rfl])
    rcases apply_cases prgname (apply prgname file op) op with ⟨-, heq⟩ | ⟨hnot, -⟩
    · exact heq
    · rw [read_iff_listed hnul] at hnot
      exact absurd hlisted hnot

/-! ## Runs -/

/-- The last operation on an entry. -/
def lastOp (ops : List ListOp) (entry : ListEntry) : Option ListOp :=
  ops.reverse.find? fun op => op.entry.line = entry.line

/-- The last operation on the entry has added it, or there is none and it was listed before. -/
def ShouldBeListed (file : Option (List UInt8)) (ops : List ListOp) (entry : ListEntry) : Prop :=
  match lastOp ops entry with
  | some op => op.adds = true
  | none => Listed entry file

/-- What operations do to a file: an entry is listed just when the last operation on it has added
it, the other lines are kept up to blank ones at the end, and none of the operations has an effect
when it is repeated. -/
structure ListKept (prgname : Word) (file : Option (List UInt8)) (ops : List ListOp) : Prop where
  listed : ∀ entry, Listed entry ((machine prgname).run file ops) ↔ ShouldBeListed file ops entry
  others : file.isSome →
    rest isBlank (ops.map (·.entry.line)) (linesOf ((machine prgname).run file ops)) =
      rest isBlank (ops.map (·.entry.line)) (linesOf file)
  repeated : ∀ before op after, ops = before ++ op :: after →
    (machine prgname).run file (before ++ [op, op]) = (machine prgname).run file (before ++ [op])

theorem noNul_run (hnul : NoNul file) (ops : List ListOp) :
    NoNul ((machine prgname).run file ops) :=
  (machine prgname).run_invariant NoNul (fun _ op hnul => noNul_apply prgname hnul op) ops hnul

theorem listed_run (ops : List ListOp)
    (hmeets : (machine prgname).Meets Conforms file ops) (entry : ListEntry) :
    Listed entry ((machine prgname).run file ops) ↔ ShouldBeListed file ops entry := by
  induction ops using List.reverseRecOn with
  | nil => rfl
  | append_singleton ops op ih =>
    rw [EventMachine.meets_append, EventMachine.meets_cons] at hmeets
    have hstep : Listed entry ((machine prgname).run file (ops ++ [op])) ↔
        if op.entry.line = entry.line then op.adds = true
        else Listed entry ((machine prgname).run file ops) := by
      rw [EventMachine.run_concat]
      exact listed_apply prgname hmeets.2.1 entry
    rw [hstep, ih hmeets.1, ShouldBeListed, ShouldBeListed, lastOp, lastOp, List.reverse_concat,
      List.find?_cons]
    split
    · rename_i hsame
      simp [hsame]
    · rename_i hother
      simp [hother]

theorem rest_run (hfile : file.isSome) (ops : List ListOp)
    (hmeets : (machine prgname).Meets Conforms file ops) {touched : List (List UInt8)}
    (htouched : ∀ op ∈ ops, op.entry.line ∈ touched) :
    rest isBlank touched (linesOf ((machine prgname).run file ops)) =
      rest isBlank touched (linesOf file) := by
  induction ops generalizing file with
  | nil => rfl
  | cons op ops ih =>
    rw [EventMachine.meets_cons] at hmeets
    rw [EventMachine.run_cons]
    refine (ih (isSome_apply prgname hfile op) hmeets.2 ?_).trans ?_
    · exact fun other hother => htouched other (List.mem_cons_of_mem _ hother)
    · exact rest_apply prgname hfile hmeets.1 (htouched op (List.mem_cons_self ..))

/-- In a run all of whose operations conform, the list is kept. -/
theorem run_listKept (prgname : Word) (file : Option (List UInt8)) (ops : List ListOp)
    (hmeets : (machine prgname).Meets Conforms file ops) : ListKept prgname file ops := by
  constructor
  · exact listed_run prgname ops hmeets
  · intro hfile
    apply rest_run prgname hfile ops hmeets
    exact fun op hop => List.mem_map.mpr ⟨op, hop, rfl⟩
  · rintro before op after rfl
    obtain ⟨-, hconforms⟩ := hmeets.at_step
    have htwice : before ++ [op, op] = (before ++ [op]) ++ [op] := by simp
    rw [htwice, EventMachine.run_concat, EventMachine.run_concat]
    exact apply_apply prgname hconforms

/-! ## Runs that do not conform -/

/-- A line that is taken for empty but is not blank. -/
def Stray (line : List UInt8) : Prop :=
  isTrailing line = true ∧ isBlank line = false

theorem Stray.ne_line {line : List UInt8} (h : Stray line) (entry : ListEntry) :
    line ≠ entry.line := by
  rintro rfl
  exact absurd h.1 (by simp [entry.isTrailing_line])

theorem count_ends {line : List UInt8} (hline : line ≠ []) {ends : List (List UInt8)}
    (hends : ∀ other ∈ ends, other = []) : ends.count line = 0 := by
  rw [List.count_eq_zero]
  exact fun hmem => hline (hends line hmem)

/-- A removal takes away one of the lines of its entry. -/
theorem count_apply_removed (hnul : NoNul file) (hadds : op.adds = false)
    (hlisted : Listed op.entry file) :
    (linesOf (apply prgname file op)).count op.entry.line + 1 =
      (linesOf file).count op.entry.line := by
  have htrailing := op.entry.isTrailing_line
  have harray : (arrayFor prgname op file).count op.entry.line =
      (linesOf file).count op.entry.line := by
    cases file with
    | none => cases hlisted
    | some content =>
      rw [arrayFor, read_of_noNul hnul]
      exact count_rdropWhile htrailing _
  have hpos : 0 < (linesOf file).count op.entry.line := List.count_pos_iff.mpr hlisted
  rcases apply_cases prgname file op with ⟨hread, -⟩ | ⟨-, heq⟩
  · rw [hread.mp ((read_iff_listed hnul op.entry).mpr hlisted)] at hadds
    cases hadds
  · obtain ⟨ends, hlines, hends⟩ := linesOf_written prgname op file
    have hne : op.entry.line ≠ [] := by
      intro hempty
      rw [hempty] at htrailing
      cases htrailing
    rw [heq, hlines, List.count_append, count_ends hne hends, written, hadds,
      if_neg Bool.false_ne_true, List.count_erase_self, harray]
    omega

/-- When an entry is removed of which there is more than one, the removal has an effect again. -/
theorem apply_apply_ne (hnul : NoNul file) (hadds : op.adds = false)
    (hmore : 1 < (linesOf file).count op.entry.line) :
    apply prgname (apply prgname file op) op ≠ apply prgname file op := by
  intro heq
  have hlisted : Listed op.entry file := List.count_pos_iff.mp (by omega)
  have hfirst := count_apply_removed prgname hnul hadds hlisted
  have hlisted' : Listed op.entry (apply prgname file op) := List.count_pos_iff.mp (by omega)
  have hsecond := count_apply_removed prgname (noNul_apply prgname hnul op) hadds hlisted'
  rw [heq] at hsecond
  omega

/-- A stray line is never added, and those at the end are lost when the file is written. -/
theorem count_stray_apply {line : List UInt8} (hline : Stray line) (hnul : NoNul file)
    (hfile : file.isSome) :
    (linesOf (apply prgname file op)).count line ≤ (linesOf file).count line ∧
      (¬ (Listed op.entry file ↔ op.adds = true) →
        ∀ content, file = some content →
          line ∈ (content.splitOn lineFeed).rtakeWhile isTrailing →
          (linesOf (apply prgname file op)).count line < (linesOf file).count line) := by
  rcases apply_cases prgname file op with ⟨hread, heq⟩ | ⟨-, heq⟩
  · rw [heq]
    rw [read_iff_listed hnul] at hread
    exact ⟨Nat.le_refl _, fun hunlisted => absurd hread hunlisted⟩
  · obtain ⟨content, rfl⟩ := Option.isSome_iff_exists.mp hfile
    obtain ⟨ends, hlines, hends⟩ := linesOf_written prgname op (some content)
    have hne : line ≠ [] := by
      rintro rfl
      cases hline.2
    have hother := hline.ne_line op.entry
    have hwritten : (written prgname op (some content)).count line =
        ((content.splitOn lineFeed).rdropWhile isTrailing).count line := by
      rw [written, arrayFor, read_of_noNul hnul]
      split
      · rw [List.count_append, List.count_singleton, if_neg (by simpa using Ne.symm hother)]
        rfl
      · exact List.count_erase_of_ne hother
    have hsum := count_rdropWhile_add (p := isTrailing) line (content.splitOn lineFeed)
    rw [heq, hlines, List.count_append, count_ends hne hends, hwritten]
    constructor
    · exact Nat.le.intro hsum
    · intro _ content' hcontent hmem
      cases hcontent
      have hpos := List.count_pos_iff.mpr hmem
      simp only [linesOf]
      omega

theorem count_stray_run {line : List UInt8} (hline : Stray line) (hnul : NoNul file)
    (hfile : file.isSome) (ops : List ListOp) :
    (linesOf ((machine prgname).run file ops)).count line ≤ (linesOf file).count line := by
  induction ops generalizing file with
  | nil => exact Nat.le_refl _
  | cons op ops ih =>
    rw [EventMachine.run_cons]
    exact (ih (noNul_apply prgname hnul op) (isSome_apply prgname hfile op)).trans
      (count_stray_apply prgname hline hnul hfile).1

theorem isSome_run (hfile : file.isSome) (ops : List ListOp) :
    ((machine prgname).run file ops).isSome :=
  (machine prgname).run_invariant (fun file => file.isSome = true)
    (fun _ op hfile => isSome_apply prgname hfile op) ops hfile

/-- What is written from a file that is not clean has lost a line for good. -/
theorem exists_lost (hnul : NoNul file) (hfile : file.isSome) {before : List ListOp}
    (hunlisted : ¬ (Listed op.entry ((machine prgname).run file before) ↔ op.adds = true))
    (hunclean : ¬ Clean ((machine prgname).run file before)) (after : List ListOp) :
    ∃ line, Stray line ∧
      (linesOf ((machine prgname).run file (before ++ op :: after))).count line <
        (linesOf file).count line := by
  have hnul' := noNul_run prgname hnul before
  have hfile' := isSome_run prgname hfile before
  obtain ⟨content, hcontent⟩ := Option.isSome_iff_exists.mp hfile'
  obtain ⟨line, hline, hblank⟩ : ∃ line ∈ (content.splitOn lineFeed).rtakeWhile isTrailing,
      isBlank line = false := by
    rw [hcontent] at hunclean
    simpa [Clean] using hunclean
  have hstray : Stray line := ⟨List.mem_rtakeWhile_imp hline, hblank⟩
  refine ⟨line, hstray, ?_⟩
  rw [EventMachine.run_append, EventMachine.run_cons]
  calc
    _ ≤ (linesOf (apply prgname ((machine prgname).run file before) op)).count line :=
      count_stray_run prgname hstray (noNul_apply prgname hnul' op)
        (isSome_apply prgname hfile' op) after
    _ < (linesOf ((machine prgname).run file before)).count line :=
      (count_stray_apply prgname hstray hnul' hfile').2 hunlisted content hcontent hline
    _ ≤ (linesOf file).count line := count_stray_run prgname hstray hnul hfile before

/-- There is no stray line in the file. -/
def NoStray (file : Option (List UInt8)) : Prop :=
  ∀ line ∈ linesOf file, ¬ Stray line

theorem NoStray.clean (h : NoStray file) : Clean file := by
  cases file with
  | none => trivial
  | some content =>
    intro line hline
    have hmem := (List.rtakeWhile_suffix isTrailing _).subset hline
    by_contra hblank
    exact h line hmem ⟨List.mem_rtakeWhile_imp hline, by simpa using hblank⟩

theorem NoStray.apply (h : NoStray file) (hnul : NoNul file) (op : ListOp) :
    NoStray (apply prgname file op) := by
  rcases apply_cases prgname file op with ⟨-, heq⟩ | ⟨-, heq⟩
  · rw [heq]
    exact h
  · have harray : ∀ line ∈ arrayFor prgname op file, ¬ Stray line := by
      cases file with
      | none =>
        have hheader : ∀ line ∈ header prgname op, isTrailing line = false := by
          cases op with
          | setLock schema key add =>
            simp only [header, List.forall_mem_cons]
            exact ⟨rfl, by decide, by simp⟩
          | ensureProfile =>
            simp only [header, List.forall_mem_singleton]
            decide
        intro line hline hstray
        exact absurd hstray.1 (by simp [hheader line hline])
      | some content =>
        rw [arrayFor, read_of_noNul hnul]
        exact fun line hline => h line ((List.rdropWhile_prefix isTrailing _).subset hline)
    obtain ⟨ends, hlines, hends⟩ := linesOf_written prgname op file
    intro line hline hstray
    rw [heq, hlines, List.mem_append] at hline
    rcases hline with hline | hline
    · unfold written at hline
      split at hline
      · rcases List.mem_append.mp hline with hbefore | hentry
        · exact harray line hbefore hstray
        · exact hstray.ne_line op.entry (List.mem_singleton.mp hentry)
      · exact harray line (List.mem_of_mem_erase hline) hstray
    · rw [hends line hline] at hstray
      cases hstray.2

/-- On a file without NUL, a run that keeps the list conforms. -/
theorem ListKept.meets_of_noNul {ops : List ListOp} (h : ListKept prgname file ops)
    (hnul : NoNul file) : (machine prgname).Meets Conforms file ops := by
  rw [EventMachine.meets_iff_forall_step]
  intro before op after hops
  have hnul' := noNul_run prgname hnul before
  constructor
  · intro hadds
    by_contra hmore
    have htwice := h.repeated before op after hops
    rw [show before ++ [op, op] = (before ++ [op]) ++ [op] by simp, EventMachine.run_concat,
      EventMachine.run_concat] at htwice
    exact apply_apply_ne prgname hnul' hadds (Nat.not_le.mp hmore) htwice
  · by_contra hnot
    rw [not_or, Settled, read_iff_listed hnul', and_self] at hnot
    obtain ⟨hunlisted, hunclean⟩ := hnot
    cases hfile : file with
    | none =>
      -- nothing stray is in a file that the operations have made
      apply hunclean
      have hstart : NoStray file ∧ NoNul file := by
        rw [hfile]
        exact ⟨by simp [NoStray, linesOf], trivial⟩
      have hrun := (machine prgname).run_invariant (fun file => NoStray file ∧ NoNul file)
        (fun _ op h => ⟨h.1.apply prgname h.2 op, noNul_apply prgname h.2 op⟩) before hstart
      exact ⟨hnul', hrun.1.clean⟩
    | some content =>
      have hsome : file.isSome := by rw [hfile]; rfl
      obtain ⟨line, hstray, hless⟩ := exists_lost prgname hnul hsome hunlisted
        (fun hclean => hunclean ⟨hnul', hclean⟩) after
      have huntouched : line ∉ ops.map (·.entry.line) := by
        rw [List.mem_map]
        rintro ⟨other, -, hother⟩
        exact hstray.ne_line other.entry hother.symm
      have hsame := congrArg (List.count line) (h.others hsome)
      rw [count_rest hstray.2 huntouched, count_rest hstray.2 huntouched, hops] at hsame
      omega

/-- A run that keeps the list leaves a file with a NUL as it is: the line of the NUL is not read,
and no other has one. -/
theorem ListKept.run_eq_of_nul {content : List UInt8} {ops : List ListOp}
    (h : ListKept prgname (some content) ops) (hnul : 0 ∈ content) {before after : List ListOp}
    (hops : ops = before ++ after) :
    (machine prgname).run (some content) before = some content := by
  have hrun : (machine prgname).run (some content) before = some content ∨
      NoNul ((machine prgname).run (some content) before) := by
    refine (machine prgname).run_invariant (fun file => file = some content ∨ NoNul file)
      ?_ before (.inl rfl)
    rintro file op (rfl | hnoNul)
    · rcases apply_cases prgname (some content) op with ⟨-, heq⟩ | ⟨-, heq⟩
      · exact .inl heq
      · refine .inr ?_
        change NoNul (apply prgname (some content) op)
        rw [heq]
        exact noNul_written prgname op (some content)
    · exact .inr (noNul_apply prgname hnoNul op)
  refine hrun.resolve_right fun hnoNul => ?_
  obtain ⟨line, hline, hzero⟩ : ∃ line ∈ content.splitOn lineFeed, 0 ∈ line := by
    by_contra hnone
    push Not at hnone
    have htext := not_mem_intercalate (by decide : (0 : UInt8) ≠ lineFeed) hnone
    rw [List.intercalate_splitOn] at htext
    exact htext hnul
  have hblank : isBlank line = false := by
    rw [isBlank, List.all_eq_false]
    exact ⟨0, hzero, by decide⟩
  have huntouched : line ∉ ops.map (·.entry.line) := by
    rw [List.mem_map]
    rintro ⟨op, -, rfl⟩
    exact op.entry.noNul_line hzero
  have hsame := congrArg (List.count line) (h.others rfl)
  rw [count_rest hblank huntouched, count_rest hblank huntouched] at hsame
  have hkept : line ∈ linesOf ((machine prgname).run (some content) ops) := by
    rw [← List.count_pos_iff, hsame, List.count_pos_iff]
    exact hline
  have hwritten := noNul_run prgname hnoNul after
  rw [← EventMachine.run_append, ← hops] at hwritten
  cases hlast : (machine prgname).run (some content) ops with
  | none =>
    rw [hlast] at hkept
    cases hkept
  | some last =>
    rw [hlast] at hkept hwritten
    exact not_mem_of_not_mem_text last hwritten line hkept hzero

/-- On a file with a NUL, a run that keeps the list conforms. -/
theorem ListKept.meets_of_nul {content : List UInt8} {ops : List ListOp}
    (h : ListKept prgname (some content) ops) (hnul : 0 ∈ content) :
    (machine prgname).Meets Conforms (some content) ops := by
  have hread : ∀ op ∈ ops, (Read op.entry (some content) ↔ op.adds = true) := by
    intro op hop
    obtain ⟨before, after, hops⟩ := List.append_of_mem hop
    have hafter := h.run_eq_of_nul prgname hnul (hops.trans (List.append_cons before op after))
    rw [EventMachine.run_concat, h.run_eq_of_nul prgname hnul hops] at hafter
    rcases apply_cases prgname (some content) op with ⟨hread, -⟩ | ⟨-, heq⟩
    · exact hread
    · have hnoNul := noNul_written prgname op (some content)
      rw [← heq] at hnoNul
      change NoNul ((machine prgname).step (some content) op) at hnoNul
      rw [hafter] at hnoNul
      exact absurd hnul hnoNul
  rw [EventMachine.meets_iff_forall_step]
  intro before op after hops
  have hop : op ∈ ops := by
    rw [hops]
    exact List.mem_append_right _ (List.mem_cons_self ..)
  have hlisted : Listed op.entry (some content) ↔ op.adds = true := by
    have hend := h.listed op.entry
    rw [h.run_eq_of_nul prgname hnul (List.append_nil ops).symm, ShouldBeListed] at hend
    cases hlast : lastOp ops op.entry with
    | none =>
      have hnone := List.find?_eq_none.mp hlast op (List.mem_reverse.mpr hop)
      exact absurd (decide_eq_true rfl) hnone
    | some last =>
      -- all operations on the entry find the same, and so they do the same
      have hsame : last.entry.line = op.entry.line := by
        have hfound := List.find?_some hlast
        exact of_decide_eq_true hfound
      have hmem : last ∈ ops := List.mem_reverse.mp (List.mem_of_find?_eq_some hlast)
      rw [hlast] at hend
      have hlast' : Read op.entry (some content) ↔ last.adds = true := by
        rw [Read, ← hsame]
        exact hread last hmem
      exact hend.trans (hlast'.symm.trans (hread op hop))
  rw [h.run_eq_of_nul prgname hnul hops]
  refine ⟨fun hadds => ?_, .inl ⟨hread op hop, hlisted⟩⟩
  have hunlisted : op.entry.line ∉ linesOf (some content) := fun hmem => by
    rw [hlisted.mp hmem] at hadds
    cases hadds
  rw [List.count_eq_zero.mpr hunlisted]
  exact Nat.zero_le 1

/-- The list is kept in a run just when all of its operations conform. -/
theorem run_listKept_iff (prgname : Word) (file : Option (List UInt8)) (ops : List ListOp) :
    ListKept prgname file ops ↔ (machine prgname).Meets Conforms file ops := by
  constructor
  · intro h
    by_cases hnul : NoNul file
    · exact h.meets_of_noNul prgname hnul
    · cases file with
      | none => exact absurd trivial hnul
      | some content => exact h.meets_of_nul prgname (not_not.mp hnul)
  · exact run_listKept prgname file ops

def gdmConfig : Word := ⟨ascii "gdm-config", by decide, by decide⟩

def loginScreen : Word := ⟨ascii "org.gnome.login-screen", by decide, by decide⟩

def smartcardKey : Word := ⟨ascii "enable-smartcard-authentication", by decide, by decide⟩

def fingerprintKey : Word := ⟨ascii "enable-fingerprint-authentication", by decide, by decide⟩

/-- A lock file with a line that somebody has added. -/
def lockedByHand : List UInt8 :=
  (ListEntry.lock loginScreen smartcardKey).line ++ ascii "\n# by hand\n\n"

/-- One key is locked and another one is unlocked. -/
theorem run_listKept_iff_unlock :
    ListKept gdmConfig (some lockedByHand)
      [.setLock loginScreen fingerprintKey true, .setLock loginScreen smartcardKey false] :=
  (run_listKept_iff gdmConfig (some lockedByHand) _).mpr (by decide +kernel)

/-- The lock of the key, twice. -/
def twice : List UInt8 :=
  let lock := (ListEntry.lock loginScreen smartcardKey).line
  lock ++ lineFeed :: lock ++ [lineFeed]

/-- A key that is in the file twice is still locked after it has been unlocked. -/
theorem run_lockedTwice :
    ¬ ∀ (prgname : Word) (content : List UInt8) (ops : List ListOp),
      ListKept prgname (some content) ops := by
  intro h
  have hiff := (h gdmConfig twice [.setLock loginScreen smartcardKey false]).listed
    (.lock loginScreen smartcardKey)
  have hlisted : Listed (.lock loginScreen smartcardKey) ((machine gdmConfig).run (some twice)
      [.setLock loginScreen smartcardKey false]) := by
    decide +kernel
  cases hiff.mp hlisted

end Gdm.Config.ListFiles
