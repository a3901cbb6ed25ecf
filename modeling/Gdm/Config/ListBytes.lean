import Gdm.Config.Commands
import Gdm.Config.ListFiles
import Gdm.Library.Utf8

/-!
# The bytes of the lists

A file that is told by its lines has the bytes of these, with newlines between them.  What
`gdm-config` does to the lines of a lock file or of a profile is what it does to the bytes.
-/

namespace Gdm.Config

open Lines Utf8

/-! ## Lines -/

/-- The bytes of a line. -/
def lineBytes (line : String) : List UInt8 :=
  encode line.toList

/-- The bytes of a file. -/
def contentBytes (content : Content) : List UInt8 :=
  [ListFiles.lineFeed].intercalate (content.map lineBytes)

/-- A text that can stand in a line. -/
structure IsLine (line : String) : Prop where
  noNul : Char.ofNat 0 ∉ line.toList
  noLineFeed : '\n' ∉ line.toList

theorem lineBytes_injective : Function.Injective lineBytes :=
  encode_injective.comp fun _ _ h => String.toList_injective h

theorem lineBytes_append (line line' : String) :
    lineBytes (line ++ line') = lineBytes line ++ lineBytes line' := by
  rw [lineBytes, String.toList_append, encode_append]
  rfl

theorem IsLine.noNul_lineBytes {line : String} (h : IsLine line) : 0 ∉ lineBytes line :=
  fun hmem => h.noNul ((mem_encode_iff (by decide) line.toList).mp hmem)

theorem IsLine.noLineFeed_lineBytes {line : String} (h : IsLine line) :
    ListFiles.lineFeed ∉ lineBytes line :=
  fun hmem => h.noLineFeed ((mem_encode_iff (by decide) line.toList).mp hmem)

theorem IsLine.append {line line' : String} (h : IsLine line) (h' : IsLine line') :
    IsLine (line ++ line') where
  noNul := by
    rw [String.toList_append, List.mem_append, not_or]
    exact ⟨h.noNul, h'.noNul⟩
  noLineFeed := by
    rw [String.toList_append, List.mem_append, not_or]
    exact ⟨h.noLineFeed, h'.noLineFeed⟩

/-- A text of a line, as a part of one. -/
def IsLine.word {text : String} (h : IsLine text) : ListFiles.Word where
  bytes := lineBytes text
  noNul := h.noNul_lineBytes
  noLineFeed := h.noLineFeed_lineBytes

theorem length_lineBytes (line : String) : (lineBytes line).length = line.utf8ByteSize := by
  have hbytes : (lineBytes line).toByteArray = line.toByteArray := String.utf8Encode_toList
  rw [← List.size_toByteArray, hbytes, String.size_toByteArray]

theorem gAsciiIsgraph_byte (byte : UInt8) :
    ListFiles.gAsciiIsgraph byte = decide (0x21 ≤ byte.toNat ∧ byte.toNat ≤ 0x7e) :=
  decide_eq_decide.mpr (and_congr UInt8.le_iff_toNat_le UInt8.le_iff_toNat_le)

theorem head?_lineBytes (line : String) :
    (lineBytes line).head?.any ListFiles.gAsciiIsgraph = line.toList.head?.any gAsciiIsgraph := by
  unfold lineBytes
  cases line.toList with
  | nil => rfl
  | cons c rest =>
    rw [encode_cons]
    by_cases hc : c.toNat < 0x80
    · rw [utf8EncodeChar_of_lt hc, List.singleton_append, List.head?_cons, List.head?_cons,
        Option.any_some, Option.any_some, gAsciiIsgraph_byte, UInt8.toNat_ofNat',
        Nat.mod_eq_of_lt (by omega)]
      rfl
    · -- neither the character nor its first byte is in ASCII
      obtain ⟨byte, bytes, hbytes⟩ :=
        List.exists_cons_of_ne_nil (String.utf8EncodeChar_ne_nil (c := c))
      have hmem : byte ∈ String.utf8EncodeChar c := by
        rw [hbytes]
        exact List.mem_cons_self ..
      have hle := le_of_mem_utf8EncodeChar (Nat.le_of_not_lt hc) byte hmem
      rw [hbytes, List.cons_append, List.head?_cons, List.head?_cons, Option.any_some,
        Option.any_some, gAsciiIsgraph_byte, gAsciiIsgraph, decide_eq_decide]
      omega

theorem isTrailing_lineBytes (line : String) :
    ListFiles.isTrailing (lineBytes line) = isTrailing line := by
  rw [ListFiles.isTrailing, isTrailing, head?_lineBytes, length_lineBytes]

theorem lineBytes_schemaToKey (schema : String) :
    lineBytes (schemaToKey schema) = ListFiles.schemaToKey (lineBytes schema) := by
  rw [lineBytes, schemaToKey, String.toList_ofList]
  exact encode_replace (by decide) (by decide) schema.toList

/-! ## Arrays of lines -/

theorem rdropWhile_lineBytes (content : Content) :
    (content.map lineBytes).rdropWhile ListFiles.isTrailing =
      (readFileContentsToArray content).map lineBytes := by
  have hcongr : ListFiles.isTrailing ∘ lineBytes = isTrailing :=
    funext isTrailing_lineBytes
  rw [readFileContentsToArray, List.rdropWhile, List.rdropWhile, ← List.map_reverse,
    List.dropWhile_map, hcongr, List.map_reverse]

/-- The bytes of a file are split where its lines are. -/
theorem splitOn_contentBytes {content : Content} (hcontent : ∀ line ∈ content, IsLine line)
    (hne : content ≠ []) :
    (contentBytes content).splitOn ListFiles.lineFeed = content.map lineBytes := by
  apply List.splitOn_intercalate
  · intro bytes hbytes
    obtain ⟨line, hline, rfl⟩ := List.mem_map.mp hbytes
    exact (hcontent line hline).noLineFeed_lineBytes
  · exact fun hempty => hne (List.map_eq_nil_iff.mp hempty)

/-- What is read of the bytes is what is read of the lines. -/
theorem readFileContentsToArray_contentBytes {content : Content}
    (hcontent : ∀ line ∈ content, IsLine line) :
    ListFiles.readFileContentsToArray (contentBytes content) =
      (readFileContentsToArray content).map lineBytes := by
  have hnul : (0 : UInt8) ∉ contentBytes content := by
    apply not_mem_intercalate (by decide)
    intro bytes hbytes
    obtain ⟨line, hline, rfl⟩ := List.mem_map.mp hbytes
    exact (hcontent line hline).noNul_lineBytes
  rw [ListFiles.read_of_noNul hnul]
  cases content with
  | nil => rfl
  | cons line lines =>
    rw [splitOn_contentBytes hcontent (List.cons_ne_nil line lines), rdropWhile_lineBytes]

/-- What is written as bytes is what is written as lines. -/
theorem contentBytes_writeArrayToFile (array : List String) :
    contentBytes (writeArrayToFile array) = ListFiles.writeArrayToFile (array.map lineBytes) := by
  cases array with
  | nil => rfl
  | cons first lines =>
    have hlast : ((first :: lines).map lineBytes).getLast? = some [] ↔
        (first :: lines).getLast? = some "" := by
      rw [List.getLast?_map, Option.map_eq_some_iff]
      constructor
      · rintro ⟨line, hline, hempty⟩
        rw [hline, lineBytes_injective (hempty.trans (by decide : [] = lineBytes ""))]
      · exact fun hempty => ⟨"", hempty, by decide⟩
    unfold writeArrayToFile ListFiles.writeArrayToFile
    split
    · rename_i hempty
      dsimp only
      rw [if_neg fun h => h.2 (hlast.mpr hempty)]
      rfl
    · rename_i hfull
      dsimp only
      rw [if_pos ⟨List.cons_ne_nil _ _, fun h => hfull (hlast.mp h)⟩, contentBytes,
        List.map_append]
      rfl

theorem isLine_of_mem_writeArrayToFile {array : List String}
    (harray : ∀ line ∈ array, IsLine line) : ∀ line ∈ writeArrayToFile array, IsLine line := by
  unfold writeArrayToFile
  split
  · exact harray
  · have hempty : IsLine "" := ⟨by decide, by decide⟩
    exact List.forall_mem_append.mpr ⟨harray, List.forall_mem_singleton.mpr hempty⟩

/-! ## Operations -/

/-- All lines of a file, if there is one, can stand in lines. -/
def IsText (file : Option Content) : Prop :=
  ∀ content, file = some content → ∀ line ∈ content, IsLine line

theorem mem_map_lineBytes {line : String} {lines : List String} :
    lineBytes line ∈ lines.map lineBytes ↔ line ∈ lines :=
  List.mem_map_of_injective lineBytes_injective

theorem contentBytes_edited (array : List String) (line : String) (add : Bool) :
    contentBytes (writeArrayToFile (if add then array ++ [line] else array.erase line)) =
      ListFiles.writeArrayToFile
        (if add then array.map lineBytes ++ [lineBytes line]
          else (array.map lineBytes).erase (lineBytes line)) := by
  rw [contentBytes_writeArrayToFile]
  cases add with
  | true => simp
  | false => simp [List.map_erase lineBytes_injective]

section

variable {schema key : String}

theorem lineBytes_lock (hschema : IsLine schema) (hkey : IsLine key) :
    lineBytes ("/" ++ schemaToKey schema ++ "/" ++ key) =
      (ListFiles.ListEntry.lock hschema.word hkey.word).line := by
  have hslash : lineBytes "/" = [0x2F] := by decide +kernel
  rw [lineBytes_append, lineBytes_append, lineBytes_append, lineBytes_schemaToKey, hslash]
  simp [ListFiles.ListEntry.line, IsLine.word]

variable (env : Env) {dbName lockName : String} {files : Dconf}

/-- A lock is set in the bytes as in the lines. -/
theorem setDconfSettingLockFull_bytes (hprgname : IsLine env.prgname) (hschema : IsLine schema)
    (hkey : IsLine key) (add : Bool) (htext : IsText (files.lockFiles (dbName, lockName))) :
    ((env.setDconfSettingLockFull dbName lockName schema key add files).lockFiles
        (dbName, lockName)).map contentBytes =
      ListFiles.setDconfSettingLockFull hprgname.word hschema.word hkey.word add
        ((files.lockFiles (dbName, lockName)).map contentBytes) := by
  have hheader : ["# This file is managed by " ++ env.prgname, "# Do no edit!"].map lineBytes =
      [ListFiles.ascii "# This file is managed by " ++ hprgname.word.bytes,
        ListFiles.ascii "# Do no edit!"] := by
    have hfirst : lineBytes "# This file is managed by " =
      ListFiles.ascii "# This file is managed by " := by decide +kernel
    have hsecond : lineBytes "# Do no edit!" = ListFiles.ascii "# Do no edit!" := by
      decide +kernel
    rw [List.map_cons, List.map_singleton, lineBytes_append, hfirst, hsecond]
    rfl
  unfold Env.setDconfSettingLockFull ListFiles.setDconfSettingLockFull
  cases hfile : files.lockFiles (dbName, lockName) with
  | none =>
    cases add with
    | false => simp [hfile]
    | true =>
      dsimp only [Option.map_none]
      simp only [← lineBytes_lock, ← hheader, mem_map_lineBytes, decide_eq_true_eq, if_true]
      split
      · rw [hfile]
        rfl
      · simp [Dconf.setLockFile, contentBytes_writeArrayToFile]
  | some content =>
    dsimp only [Option.map_some]
    simp only [readFileContentsToArray_contentBytes (htext content hfile), ← lineBytes_lock,
      mem_map_lineBytes]
    split
    · rw [hfile]
      rfl
    · simp [Dconf.setLockFile, contentBytes_edited]

theorem not_mem_schemaToKey {c : Char} (hslash : c ≠ '/') (h : c ∉ schema.toList) :
    c ∉ (schemaToKey schema).toList := by
  unfold schemaToKey
  rw [String.toList_ofList, List.mem_map]
  rintro ⟨other, hother, heq⟩
  split at heq
  · exact hslash heq.symm
  · exact h (heq ▸ hother)

/-- The key of a lock can stand in a line. -/
theorem isLine_lock (hschema : IsLine schema) (hkey : IsLine key) :
    IsLine ("/" ++ schemaToKey schema ++ "/" ++ key) := by
  have hreplaced : IsLine (schemaToKey schema) :=
    ⟨not_mem_schemaToKey (by decide) hschema.noNul,
      not_mem_schemaToKey (by decide) hschema.noLineFeed⟩
  have hslash : IsLine "/" := ⟨by decide, by decide⟩
  exact ((hslash.append hreplaced).append hslash).append hkey

theorem isText_setDconfSettingLockFull (hprgname : IsLine env.prgname) (hschema : IsLine schema)
    (hkey : IsLine key) (add : Bool) (htext : IsText (files.lockFiles (dbName, lockName))) :
    IsText ((env.setDconfSettingLockFull dbName lockName schema key add files).lockFiles
      (dbName, lockName)) := by
  have hlock := isLine_lock hschema hkey
  have hheader : ∀ line ∈ ["# This file is managed by " ++ env.prgname, "# Do no edit!"],
      IsLine line := by
    rw [List.forall_mem_cons, List.forall_mem_singleton]
    exact ⟨IsLine.append ⟨by decide, by decide⟩ hprgname, by decide, by decide⟩
  have hedited : ∀ array : List String, (∀ line ∈ array, IsLine line) →
      IsText (some (writeArrayToFile (if add then
        array ++ ["/" ++ schemaToKey schema ++ "/" ++ key]
        else array.erase ("/" ++ schemaToKey schema ++ "/" ++ key)))) := by
    rintro array harray content ⟨⟩
    apply isLine_of_mem_writeArrayToFile
    split
    · exact List.forall_mem_append.mpr ⟨harray, List.forall_mem_singleton.mpr hlock⟩
    · exact fun line hline => harray line (List.mem_of_mem_erase hline)
  unfold Env.setDconfSettingLockFull
  cases hfile : files.lockFiles (dbName, lockName) with
  | none =>
    cases add with
    | false =>
      dsimp only
      exact htext
    | true =>
      dsimp only
      split
      · exact htext
      · have hafter := hedited _ hheader
        simpa [Dconf.setLockFile] using hafter
  | some content =>
    dsimp only
    split
    · exact htext
    · have hread : ∀ line ∈ readFileContentsToArray content, IsLine line := by
        intro line hline
        exact htext content hfile line ((List.rdropWhile_prefix isTrailing _).subset hline)
      have hafter := hedited _ hread
      simpa [Dconf.setLockFile] using hafter

end

/-- A setting that is locked and unlocked. -/
structure LockedSetting where
  schema : String
  key : String
  isLine_schema : IsLine schema
  isLine_key : IsLine key

/-- One operation for each lock that is set. -/
def LockedSetting.op (call : LockedSetting × Bool) : ListFiles.ListOp :=
  .setLock call.1.isLine_schema.word call.1.isLine_key.word call.2

/-- Locks of one file are set and removed, one after the other. -/
def Env.setLocks (env : Env) (dbName lockName : String) (calls : List (LockedSetting × Bool))
    (files : Dconf) : Dconf :=
  calls.foldl (fun files call =>
    env.setDconfSettingLockFull dbName lockName call.1.schema call.1.key call.2 files) files

/-- A run on the lines of a lock file is one on its bytes. -/
theorem setLocks_bytes (env : Env) (hprgname : IsLine env.prgname) {dbName lockName : String}
    (calls : List (LockedSetting × Bool)) {files : Dconf}
    (htext : IsText (files.lockFiles (dbName, lockName))) :
    ((env.setLocks dbName lockName calls files).lockFiles (dbName, lockName)).map contentBytes =
      (ListFiles.machine hprgname.word).run
        ((files.lockFiles (dbName, lockName)).map contentBytes) (calls.map LockedSetting.op) := by
  induction calls generalizing files with
  | nil => rfl
  | cons call calls ih =>
    have hstep := setDconfSettingLockFull_bytes env hprgname call.1.isLine_schema
      call.1.isLine_key call.2 htext
    have htext' := isText_setDconfSettingLockFull env hprgname call.1.isLine_schema
      call.1.isLine_key call.2 htext
    rw [List.map_cons, EventMachine.run_cons]
    change ((env.setLocks dbName lockName calls _).lockFiles (dbName, lockName)).map
      contentBytes = _
    rw [ih htext', hstep]
    rfl

theorem isText_setLocks (env : Env) (hprgname : IsLine env.prgname) {dbName lockName : String}
    (calls : List (LockedSetting × Bool)) {files : Dconf}
    (htext : IsText (files.lockFiles (dbName, lockName))) :
    IsText ((env.setLocks dbName lockName calls files).lockFiles (dbName, lockName)) := by
  induction calls generalizing files with
  | nil => exact htext
  | cons call calls ih =>
    exact ih (isText_setDconfSettingLockFull env hprgname call.1.isLine_schema
      call.1.isLine_key call.2 htext)

/-- The key of a setting is a line of the lock file. -/
def LockedSetting.Locked (setting : LockedSetting) (file : Option Content) : Prop :=
  ∃ content, file = some content ∧
    "/" ++ schemaToKey setting.schema ++ "/" ++ setting.key ∈ content

/-- The entry of a setting in the bytes. -/
def LockedSetting.entry (setting : LockedSetting) : ListFiles.ListEntry :=
  .lock setting.isLine_schema.word setting.isLine_key.word

theorem listed_contentBytes (setting : LockedSetting) {file : Option Content}
    (htext : IsText file) :
    ListFiles.Listed setting.entry (file.map contentBytes) ↔ setting.Locked file := by
  have hline := lineBytes_lock setting.isLine_schema setting.isLine_key
  cases file with
  | none => simp [ListFiles.Listed, ListFiles.linesOf, LockedSetting.Locked]
  | some content =>
    have hlocked : setting.Locked (some content) ↔
        "/" ++ schemaToKey setting.schema ++ "/" ++ setting.key ∈ content := by
      constructor
      · rintro ⟨_, hcontent, hmem⟩
        cases hcontent
        exact hmem
      · exact fun hmem => ⟨content, rfl, hmem⟩
    rw [hlocked, ← mem_map_lineBytes, hline]
    cases content with
    | nil =>
      -- an empty file has an empty line, which is no entry
      constructor
      · intro hlisted
        have hempty : setting.entry.line = [] := List.mem_singleton.mp hlisted
        have htrailing := setting.entry.isTrailing_line
        rw [hempty] at htrailing
        cases htrailing
      · intro hmem
        cases hmem
    | cons first lines =>
      rw [ListFiles.Listed, Option.map_some, ListFiles.linesOf,
        splitOn_contentBytes (htext _ rfl) (List.cons_ne_nil first lines)]
      rfl

/-- When all operations of a run conform, a setting is locked after it just when the last operation
on its key has locked it. -/
theorem locked_setLocks_iff (env : Env) (hprgname : IsLine env.prgname) {dbName lockName : String}
    (calls : List (LockedSetting × Bool)) {files : Dconf}
    (htext : IsText (files.lockFiles (dbName, lockName)))
    (hmeets : (ListFiles.machine hprgname.word).Meets ListFiles.Conforms
      ((files.lockFiles (dbName, lockName)).map contentBytes) (calls.map LockedSetting.op))
    (setting : LockedSetting) :
    setting.Locked ((env.setLocks dbName lockName calls files).lockFiles (dbName, lockName)) ↔
      ListFiles.ShouldBeListed ((files.lockFiles (dbName, lockName)).map contentBytes)
        (calls.map LockedSetting.op) setting.entry := by
  rw [← listed_contentBytes setting (isText_setLocks env hprgname calls htext),
    setLocks_bytes env hprgname calls htext]
  exact ListFiles.listed_run hprgname.word _ hmeets setting.entry

/-- The profile is made sure of in the bytes as in the lines. -/
theorem ensureDconfConfigurableSystemProfile_bytes (env : Env) {files : Dconf}
    (htext : IsText (files.profiles env.configurableSystemProfile)) :
    ((env.ensureDconfConfigurableSystemProfile files).profiles
        env.configurableSystemProfile).map contentBytes =
      ListFiles.ensureDconfConfigurableSystemProfile
        ((files.profiles env.configurableSystemProfile).map contentBytes) := by
  have hdb : lineBytes gdmSysDb = ListFiles.gdmSysDb := by decide +kernel
  have huser : lineBytes "user-db:user" = ListFiles.ascii "user-db:user" := by decide +kernel
  unfold Env.ensureDconfConfigurableSystemProfile ListFiles.ensureDconfConfigurableSystemProfile
  dsimp only
  cases hfile : files.profiles env.configurableSystemProfile with
  | none => simp [Dconf.setProfile, contentBytes_writeArrayToFile, hdb, huser]
  | some content =>
    dsimp only [Option.map_some]
    simp only [readFileContentsToArray_contentBytes (htext content hfile), ← hdb,
      mem_map_lineBytes]
    split
    · rw [hfile]
      rfl
    · simp [Dconf.setProfile, contentBytes_writeArrayToFile]

end Gdm.Config
