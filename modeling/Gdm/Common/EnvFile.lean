import Gdm.Common.ShellExpand
import Mathlib.Data.List.DropRight

/-!
# Environment files

`load_env_file` reads assignments of the form `NAME=value` from the lines of a file, and expands
each value.  What is loaded may change what later variables expand to, so the functions that load
and expand share a state.
-/

namespace Gdm

/-- What a string holds, which ends before the first NUL. -/
def cString (contents : List Char) : List Char :=
  contents.takeWhile (· ≠ '\x00')

/-- `g_strsplit` at a newline: an empty text has no lines. -/
def gStrsplitLines (contents : List Char) : List (List Char) :=
  if contents = [] then [] else contents.splitOn '\n'

def skipSpaces (p : List Char) : List Char :=
  p.dropWhile gAsciiIsspace

/-- `g_strchomp`. -/
def gStrchomp (str : List Char) : List Char :=
  str.rdropWhile gAsciiIsspace

/-- The name and the text that is to be expanded, where the line is an assignment. -/
def envLine (line : List Char) : Option (List Char × List Char) :=
  let p := skipSpaces line
  if p.head? = some '#' ∨ p = [] then none
  else
    let var := shellVarAt p
    let p := skipSpaces (p.drop var.length)
    if var = [] ∨ p.head? ≠ some '=' then none
    else some (var, skipSpaces (p.drop 1))

section Loading

variable {σ : Type*} (loadEnv : List Char → List Char → σ → σ)
  (expand : σ → List Char → Option (List Char))

/-- What one line of the file does. -/
def loadEnvLine (state : σ) (line : List Char) : σ :=
  match envLine line with
  | none => state
  | some (var, p) => loadEnv var (gStrchomp (gdmShellExpand p (expand state))) state

/-- `load_env_file`; a file that can not be read is as one without contents. -/
def loadEnvFile (contents : Option (List Char)) (state : σ) : σ :=
  match contents with
  | none => state
  | some contents => (gStrsplitLines (cString contents)).foldl (loadEnvLine loadEnv expand) state

end Loading

/-! ## A file that is written to be read -/

/-- A backslash is put before each backslash, dollar and hash. -/
def escapeValue (value : List Char) : List Char :=
  value.flatMap fun c => if c = '\\' ∨ c = '$' ∨ c = '#' then ['\\', c] else [c]

def assignmentLine (assignment : List Char × List Char) : List Char :=
  assignment.1 ++ '=' :: escapeValue assignment.2

/-- A name of the form `[A-Za-z_][A-Za-z0-9_]*`. -/
def IsVarName (name : List Char) : Prop :=
  ∃ first rest, name = first :: rest ∧ (first.isAlpha ∨ first = '_') ∧
    ∀ c ∈ rest, c.isAlpha ∨ c.isDigit ∨ c = '_'

/-- A value on one line without white space around it. -/
structure IsPlainValue (value : List Char) : Prop where
  noNewline : '\n' ∉ value
  noNul : '\x00' ∉ value
  noLeading : ∀ c ∈ value.head?, gAsciiIsspace c = false
  noTrailing : ∀ c ∈ value.getLast?, gAsciiIsspace c = false

/-! ## Names -/

theorem IsVarName.shellVarAt_append {name : List Char} (h : IsVarName name) {c : Char}
    (hc : gdmShellVarIsValidChar c false = false) (p : List Char) :
    shellVarAt (name ++ c :: p) = name := by
  obtain ⟨first, rest, rfl, hfirst, hrest⟩ := h
  have hvalid : gdmShellVarIsValidChar first true = true := by
    rcases hfirst with halpha | rfl
    · simp [gdmShellVarIsValidChar, halpha]
    · rfl
  have hall : ∀ d ∈ rest, gdmShellVarIsValidChar d false = true := by
    intro d hd
    rcases hrest d hd with halpha | hdigit | rfl
    · simp [gdmShellVarIsValidChar, halpha]
    · simp [gdmShellVarIsValidChar, hdigit]
    · rfl
  rw [List.cons_append, shellVarAt, if_pos hvalid,
    List.takeWhile_append_of_pos hall, List.takeWhile_cons_of_neg (by simp [hc]), List.append_nil]

theorem not_space_of_letter {c : Char} (h : c.isAlpha ∨ c = '_') : gAsciiIsspace c = false := by
  rcases h with halpha | rfl
  · rw [← Bool.not_eq_true]
    intro hspace
    have hcases : c = ' ' ∨ c = '\t' ∨ c = '\n' ∨ c = '\x0c' ∨ c = '\r' := by
      simpa [gAsciiIsspace, or_assoc] using hspace
    rcases hcases with rfl | rfl | rfl | rfl | rfl <;> revert halpha <;> decide
  · decide

theorem skipSpaces_cons {c : Char} (h : gAsciiIsspace c = false) (p : List Char) :
    skipSpaces (c :: p) = c :: p := by
  simp [skipSpaces, h]

theorem skipSpaces_eq_self {p : List Char} (h : ∀ c ∈ p.head?, gAsciiIsspace c = false) :
    skipSpaces p = p := by
  cases p with
  | nil => rfl
  | cons c p => exact skipSpaces_cons (h c rfl) p

/-! ## Values -/

@[simp] theorem escapeValue_nil : escapeValue [] = [] := rfl

theorem escapeValue_cons (c : Char) (value : List Char) :
    escapeValue (c :: value) =
      (if c = '\\' ∨ c = '$' ∨ c = '#' then ['\\', c] else [c]) ++ escapeValue value := rfl

theorem mem_of_mem_escapeValue {c : Char} {value : List Char} (h : c ∈ escapeValue value) :
    c = '\\' ∨ c ∈ value := by
  obtain ⟨d, hd, hc⟩ := List.mem_flatMap.mp h
  split at hc
  · rcases List.mem_pair.mp hc with rfl | rfl
    · exact Or.inl rfl
    · exact Or.inr hd
  · obtain rfl := List.mem_singleton.mp hc
    exact Or.inr hd

theorem IsPlainValue.skipSpaces_escapeValue {value : List Char} (h : IsPlainValue value) :
    skipSpaces (escapeValue value) = escapeValue value := by
  apply skipSpaces_eq_self
  intro c hc
  cases value with
  | nil => simp at hc
  | cons d value =>
    rw [escapeValue_cons] at hc
    split at hc
    · obtain rfl : '\\' = c := by simpa using hc
      decide
    · obtain rfl : d = c := by simpa using hc
      exact h.noLeading d rfl

theorem IsPlainValue.gStrchomp {value : List Char} (h : IsPlainValue value) :
    gStrchomp value = value := by
  rw [Gdm.gStrchomp, List.rdropWhile_eq_self_iff]
  intro hne hspace
  rw [h.noTrailing _ (List.getLast?_eq_some_getLast hne)] at hspace
  cases hspace

/-- In an escaped value the loop finds neither variables nor comments. -/
theorem shellExpandFrom_escapeValue (expandVar : List Char → Option (List Char))
    (atNewWord : Bool) (value : List Char) :
    shellExpandFrom expandVar atNewWord (escapeValue value) = value := by
  induction value generalizing atNewWord with
  | nil => simp [shellExpandFrom]
  | cons c value ih =>
    rw [escapeValue_cons]
    split
    · next hspecial =>
      simp only [List.cons_append, List.nil_append, shellExpandFrom_cons, firstPiece, if_true]
      simp [ShellPiece.text, ShellPiece.expansion, escaped, hspecial, ih]
    · next hplain =>
      obtain ⟨hbackslash, hdollar, hhash⟩ := by simpa [not_or] using hplain
      simp [shellExpandFrom_cons, firstPiece, hbackslash, hdollar, hhash, ShellPiece.text,
        ShellPiece.expansion, ih]

/-! ## Lines -/

theorem envLine_assignmentLine {name value : List Char} (hname : IsVarName name)
    (hvalue : IsPlainValue value) :
    envLine (assignmentLine (name, value)) = some (name, escapeValue value) := by
  have hequals : gAsciiIsspace '=' = false := by decide
  have hstart : skipSpaces (assignmentLine (name, value)) = assignmentLine (name, value) := by
    obtain ⟨first, rest, rfl, hfirst, -⟩ := hname
    exact skipSpaces_cons (not_space_of_letter hfirst) _
  have hfirst : ¬ ((assignmentLine (name, value)).head? = some '#' ∨
      assignmentLine (name, value) = []) := by
    obtain ⟨first, rest, rfl, hfirst, -⟩ := hname
    rcases hfirst with halpha | rfl
    · have hne : first ≠ '#' := by
        rintro rfl
        revert halpha
        decide
      simp [assignmentLine, hne]
    · simp [assignmentLine]
  have hvar : shellVarAt (assignmentLine (name, value)) = name :=
    hname.shellVarAt_append (by decide) _
  have hne : name ≠ [] := by
    obtain ⟨first, rest, rfl, -⟩ := hname
    simp
  have hdrop : (assignmentLine (name, value)).drop name.length = '=' :: escapeValue value := by
    simp [assignmentLine]
  simp only [envLine]
  rw [hstart, if_neg hfirst, hvar, hdrop, skipSpaces_cons hequals]
  simp [hne, hvalue.skipSpaces_escapeValue]

section Loading

variable {σ : Type*} {loadEnv : List Char → List Char → σ → σ}
  {expand : σ → List Char → Option (List Char)}

theorem loadEnvLine_assignmentLine {name value : List Char} (hname : IsVarName name)
    (hvalue : IsPlainValue value) (state : σ) :
    loadEnvLine loadEnv expand state (assignmentLine (name, value)) =
      loadEnv name value state := by
  rw [loadEnvLine, envLine_assignmentLine hname hvalue]
  simp only [gdmShellExpand, shellExpandFrom_escapeValue, hvalue.gStrchomp]

theorem foldl_loadEnvLine {assignments : List (List Char × List Char)}
    (h : ∀ assignment ∈ assignments, IsVarName assignment.1 ∧ IsPlainValue assignment.2)
    (state : σ) :
    (assignments.map assignmentLine).foldl (loadEnvLine loadEnv expand) state =
      assignments.foldl (fun state assignment => loadEnv assignment.1 assignment.2 state)
        state := by
  induction assignments generalizing state with
  | nil => rfl
  | cons assignment assignments ih =>
    obtain ⟨hname, hvalue⟩ := h assignment (by simp)
    rw [List.map_cons, List.foldl_cons, List.foldl_cons]
    rw [loadEnvLine_assignmentLine hname hvalue,
      ih fun assignment hmem => h assignment (List.mem_cons_of_mem _ hmem)]

end Loading

/-! ## Files -/

/-- The text whose lines are given, each of them ended by a newline. -/
def unlines (lines : List (List Char)) : List Char :=
  lines.flatMap (· ++ ['\n'])

/-- A text has these lines, the last of which need not be ended. -/
def HasLines (contents : List Char) (lines : List (List Char)) : Prop :=
  contents = unlines lines ∨ contents ++ ['\n'] = unlines lines

theorem mem_assignmentLine {name value : List Char} (hname : IsVarName name) {c : Char}
    (hc : c ∈ assignmentLine (name, value)) :
    gdmShellVarIsValidChar c false = true ∨ c = '=' ∨ c = '\\' ∨ c ∈ value := by
  obtain ⟨first, rest, rfl, hfirst, hrest⟩ := hname
  rcases List.mem_append.mp hc with hc | hc
  · left
    rcases List.mem_cons.mp hc with rfl | hc
    · rcases hfirst with halpha | rfl
      · simp [gdmShellVarIsValidChar, halpha]
      · rfl
    · rcases hrest c hc with halpha | hdigit | rfl
      · simp [gdmShellVarIsValidChar, halpha]
      · simp [gdmShellVarIsValidChar, hdigit]
      · rfl
  · rcases List.mem_cons.mp hc with rfl | hc
    · exact Or.inr (Or.inl rfl)
    · rcases mem_of_mem_escapeValue hc with rfl | hc
      · exact Or.inr (Or.inr (Or.inl rfl))
      · exact Or.inr (Or.inr (Or.inr hc))

theorem newline_not_mem_assignmentLine {name value : List Char} (hname : IsVarName name)
    (hvalue : IsPlainValue value) : '\n' ∉ assignmentLine (name, value) := by
  intro hc
  rcases mem_assignmentLine hname hc with hvalid | heq | heq | hmem
  · revert hvalid; decide
  · revert heq; decide
  · revert heq; decide
  · exact hvalue.noNewline hmem

theorem nul_not_mem_assignmentLine {name value : List Char} (hname : IsVarName name)
    (hvalue : IsPlainValue value) : '\x00' ∉ assignmentLine (name, value) := by
  intro hc
  rcases mem_assignmentLine hname hc with hvalid | heq | heq | hmem
  · revert hvalid; decide
  · revert heq; decide
  · revert heq; decide
  · exact hvalue.noNul hmem

theorem cString_eq_self {contents : List Char} (h : '\x00' ∉ contents) :
    cString contents = contents := by
  rw [cString, List.takeWhile_eq_self_iff]
  intro c hc
  have hne : c ≠ '\x00' := by
    rintro rfl
    exact h hc
  simpa using hne

theorem splitOn_unlines {lines : List (List Char)} (h : ∀ line ∈ lines, '\n' ∉ line) :
    (unlines lines).splitOn '\n' = lines ++ [[]] := by
  induction lines with
  | nil => rfl
  | cons line lines ih =>
    have heq : unlines (line :: lines) = line ++ '\n' :: unlines lines := by
      simp [unlines]
    rw [heq, List.splitOn_append_cons_self_of_not_mem (h line (by simp)),
      ih fun line hmem => h line (List.mem_cons_of_mem _ hmem), List.cons_append]

theorem HasLines.foldl_splitOn {σ : Type*} {contents : List Char} {lines : List (List Char)}
    (h : HasLines contents lines) (hnewline : ∀ line ∈ lines, '\n' ∉ line)
    {load : σ → List Char → σ} (hempty : ∀ state, load state [] = state) (state : σ) :
    (contents.splitOn '\n').foldl load state = lines.foldl load state := by
  rcases h with rfl | hended
  · rw [splitOn_unlines hnewline, List.foldl_append, List.foldl_cons, List.foldl_nil, hempty]
  · have hsplit := splitOn_unlines hnewline
    rw [← hended, List.splitOn_append_cons_self, List.splitOn_nil] at hsplit
    rw [List.append_cancel_right hsplit]

theorem HasLines.not_mem {contents : List Char} {lines : List (List Char)}
    (h : HasLines contents lines) {c : Char} (hc : c ≠ '\n') (hlines : ∀ line ∈ lines, c ∉ line) :
    c ∉ contents := by
  have hunlines : c ∉ unlines lines := by
    intro hmem
    obtain ⟨line, hline, hin⟩ := List.mem_flatMap.mp hmem
    rcases List.mem_append.mp hin with hin | hin
    · exact hlines line hline hin
    · exact hc (List.mem_singleton.mp hin)
  rcases h with rfl | hended
  · exact hunlines
  · intro hmem
    exact hunlines (hended ▸ List.mem_append_left _ hmem)

section Loading

variable {σ : Type*} (loadEnv : List Char → List Char → σ → σ)
  (expand : σ → List Char → Option (List Char))

theorem foldl_gStrsplitLines (contents : List Char) (state : σ) :
    (gStrsplitLines contents).foldl (loadEnvLine loadEnv expand) state =
      (contents.splitOn '\n').foldl (loadEnvLine loadEnv expand) state := by
  unfold gStrsplitLines
  split
  · next hempty =>
    subst hempty
    rfl
  · rfl

/-- A file of assignments whose values are escaped is loaded as these assignments, each once and
in order. -/
theorem loadEnvFile_assignments (assignments : List (List Char × List Char))
    (h : ∀ assignment ∈ assignments, IsVarName assignment.1 ∧ IsPlainValue assignment.2)
    {contents : List Char} (hlines : HasLines contents (assignments.map assignmentLine))
    (state : σ) :
    loadEnvFile loadEnv expand (some contents) state =
      assignments.foldl (fun state assignment => loadEnv assignment.1 assignment.2 state)
        state := by
  have hnewline : ∀ line ∈ assignments.map assignmentLine, '\n' ∉ line := by
    intro line hline
    obtain ⟨assignment, hmem, rfl⟩ := List.mem_map.mp hline
    exact newline_not_mem_assignmentLine (h assignment hmem).1 (h assignment hmem).2
  have hnul : ∀ line ∈ assignments.map assignmentLine, '\x00' ∉ line := by
    intro line hline
    obtain ⟨assignment, hmem, rfl⟩ := List.mem_map.mp hline
    exact nul_not_mem_assignmentLine (h assignment hmem).1 (h assignment hmem).2
  have hcontents : cString contents = contents :=
    cString_eq_self (hlines.not_mem (by decide) hnul)
  calc loadEnvFile loadEnv expand (some contents) state
      = (contents.splitOn '\n').foldl (loadEnvLine loadEnv expand) state := by
        rw [loadEnvFile, hcontents, foldl_gStrsplitLines]
    _ = (assignments.map assignmentLine).foldl (loadEnvLine loadEnv expand) state :=
        hlines.foldl_splitOn hnewline (fun _ => rfl) state
    _ = _ := foldl_loadEnvLine h state

end Loading

/-- Two assignments to one name, the second with all that is escaped. -/
theorem loadEnvFile_assignments_twice :
    loadEnvFile (fun name value calls => calls ++ [(name, value)]) (fun _ _ => none)
        (some ['A', '=', 'x', ' ', 'y', '\n', 'A', '=', '\\', '#', '\\', '$', '\\', '\\', '\n'])
        [] =
      [(['A'], ['x', ' ', 'y']), (['A'], ['#', '$', '\\'])] :=
  loadEnvFile_assignments (fun name value calls => calls ++ [(name, value)]) (fun _ _ => none)
    [(['A'], ['x', ' ', 'y']), (['A'], ['#', '$', '\\'])]
    (by
      have hname : IsVarName ['A'] := ⟨'A', [], rfl, Or.inl (by decide), by simp⟩
      intro assignment hmem
      rcases List.mem_pair.mp hmem with rfl | rfl
      · exact ⟨hname, by decide, by decide, by simp [gAsciiIsspace], by simp [gAsciiIsspace]⟩
      · exact ⟨hname, by decide, by decide, by simp [gAsciiIsspace], by simp [gAsciiIsspace]⟩)
    (Or.inl (by decide)) []

end Gdm
