import Mathlib.Data.List.Basic
import Mathlib.Data.List.Induction

/-!
# Expanding a text

`gdm_shell_expand` goes through a text as a shell would between double quotes: it replaces
variables, knows escapes with a backslash, and leaves out what follows a `#` at the beginning
of a word.

The text is described apart from the loop as a list of pieces: escapes, variables, what looks
like the start of a variable, and single characters.  A comment is meant to begin at a `#` which
is the first piece of the text or stands right after white space.
-/

namespace Gdm

/-- `g_ascii_isspace`. -/
def gAsciiIsspace (c : Char) : Bool :=
  c = ' ' || c = '\t' || c = '\n' || c = '\x0c' || c = '\r'

def gdmShellVarIsValidChar (c : Char) (first : Bool) : Bool :=
  (!first && c.isDigit) || c = '_' || c.isAlpha

/-- The characters from the start on which belong to a name. -/
def shellVarAt : List Char → List Char
  | [] => []
  | c :: rest =>
    if gdmShellVarIsValidChar c true then
      c :: rest.takeWhile fun c => gdmShellVarIsValidChar c false
    else []

theorem shellVarAt_append_drop (str : List Char) :
    shellVarAt str ++ str.drop (shellVarAt str).length = str := by
  cases str with
  | nil => simp [shellVarAt]
  | cons c rest =>
    simp only [shellVarAt]
    split
    · simp only [List.length_cons, List.drop_succ_cons, List.cons_append]
      congr 1
      exact List.prefix_iff_eq_append.mp (List.takeWhile_prefix _)
    · simp

/-- What a backslash and the character after it are replaced by. -/
def escaped (c : Char) : List Char :=
  if c = '\\' ∨ c = '$' ∨ c = '#' then [c] else ['\\', c]

/-- The loop of `gdm_shell_expand`, with the text that is left and `at_new_word`. -/
def shellExpandFrom (expandVar : List Char → Option (List Char)) :
    Bool → List Char → List Char
  | _, [] => []
  | atNewWord, c :: p =>
    if c = '\\' then
      match p with
      | [] => []
      | c :: p => escaped c ++ shellExpandFrom expandVar atNewWord p
    else if c = '#' ∧ atNewWord then []
    else if c = '$' then
      let brackets : Bool := p.head? = some '{'
      let start := p.drop brackets.toNat
      let var := shellVarAt start
      let p := start.drop var.length
      if var = [] ∨ brackets ∧ p.head? ≠ some '}' then
        '$' :: ((if brackets then ['{'] else []) ++ var) ++
          shellExpandFrom expandVar atNewWord p
      else
        (expandVar var).getD [] ++
          shellExpandFrom expandVar atNewWord (p.drop brackets.toNat)
    else c :: shellExpandFrom expandVar (gAsciiIsspace c) p
termination_by _ str => str.length
decreasing_by
  · simp only [List.length_cons]
    omega
  · simp only [List.length_cons, List.length_drop]
    omega
  · simp only [List.length_cons, List.length_drop]
    omega
  · simp only [List.length_cons]
    omega

def gdmShellExpand (str : List Char) (expandVar : List Char → Option (List Char)) :
    List Char :=
  shellExpandFrom expandVar true str

/-! ## The pieces of a text -/

inductive ShellPiece
  | escape (c : Char)
  | lastBackslash
  | variable (brackets : Bool) (name : List Char)
  | malformed (brackets : Bool) (name : List Char)
  | plain (c : Char)
  deriving DecidableEq, Repr

namespace ShellPiece

/-- How the piece is written. -/
def text : ShellPiece → List Char
  | .escape c => ['\\', c]
  | .lastBackslash => ['\\']
  | .variable false name => '$' :: name
  | .variable true name => '$' :: '{' :: name ++ ['}']
  | .malformed false name => '$' :: name
  | .malformed true name => '$' :: '{' :: name
  | .plain c => [c]

/-- What the piece stands for.  A malformed variable is kept as it is written. -/
def expansion (expandVar : List Char → Option (List Char)) : ShellPiece → List Char
  | .escape c => escaped c
  | .lastBackslash => []
  | .variable _ name => (expandVar name).getD []
  | .malformed brackets name => (malformed brackets name).text
  | .plain c => [c]

def isPlain : ShellPiece → Bool
  | .plain _ => true
  | _ => false

/-- White space that is not escaped. -/
def isSpace : ShellPiece → Bool
  | .plain c => gAsciiIsspace c
  | _ => false

theorem isPlain_of_isSpace {piece : ShellPiece} (h : piece.isSpace = true) :
    piece.isPlain = true := by
  cases piece with
  | plain c => rfl
  | _ => cases h

end ShellPiece

/-- The piece after a `$`. -/
def variablePiece (p : List Char) : ShellPiece :=
  let brackets : Bool := p.head? = some '{'
  let name := shellVarAt (p.drop brackets.toNat)
  if name = [] ∨ brackets ∧ (p.drop (brackets.toNat + name.length)).head? ≠ some '}' then
    .malformed brackets name
  else .variable brackets name

/-- The piece that a text begins with. -/
def firstPiece (c : Char) (p : List Char) : ShellPiece :=
  if c = '\\' then
    match p with
    | [] => .lastBackslash
    | c :: _ => .escape c
  else if c = '$' then variablePiece p
  else .plain c

theorem ShellPiece.text_ne_nil (piece : ShellPiece) : piece.text ≠ [] := by
  rcases piece with _ | _ | ⟨_ | _, _⟩ | ⟨_ | _, _⟩ | _ <;> simp [ShellPiece.text]

def shellPieces : List Char → List ShellPiece
  | [] => []
  | c :: p =>
    firstPiece c p :: shellPieces ((c :: p).drop (firstPiece c p).text.length)
termination_by str => str.length
decreasing_by
  have hpos := List.length_pos_iff.mpr (firstPiece c p).text_ne_nil
  simp_wf
  omega

/-- The pieces before the first comment.  Whether a piece begins a word is found from the piece
before it, and from whether that one began a word. -/
def untilComment (beginsWord : Bool → ShellPiece → Bool) :
    Bool → List ShellPiece → List ShellPiece
  | _, [] => []
  | atNewWord, piece :: pieces =>
    if piece = .plain '#' ∧ atNewWord then []
    else piece :: untilComment beginsWord (beginsWord atNewWord piece) pieces

def expandPieces (expandVar : List Char → Option (List Char)) (pieces : List ShellPiece) :
    List Char :=
  pieces.flatMap (ShellPiece.expansion expandVar)

/-- The expansion of a text as it is described: a comment begins at a `#` which is at the start
of the text or right after unescaped white space. -/
def referenceExpand (str : List Char) (expandVar : List Char → Option (List Char)) :
    List Char :=
  expandPieces expandVar (untilComment (fun _ piece => piece.isSpace) true (shellPieces str))

/-! ## The loop takes the text apart -/

variable {expandVar : List Char → Option (List Char)}

/-- What the loop makes of `at_new_word`: it is set by single characters only. -/
def loopBeginsWord (atNewWord : Bool) (piece : ShellPiece) : Bool :=
  if piece.isPlain then piece.isSpace else atNewWord

@[simp] theorem shellPieces_nil : shellPieces [] = [] := by
  rw [shellPieces]

theorem shellPieces_cons (c : Char) (p : List Char) :
    shellPieces (c :: p) =
      firstPiece c p :: shellPieces ((c :: p).drop (firstPiece c p).text.length) := by
  rw [shellPieces]

@[simp] theorem expandPieces_nil : expandPieces expandVar [] = [] := rfl

@[simp] theorem expandPieces_cons (piece : ShellPiece) (pieces : List ShellPiece) :
    expandPieces expandVar (piece :: pieces) =
      piece.expansion expandVar ++ expandPieces expandVar pieces := rfl

theorem eq_of_head_drop {str : List Char} {n : Nat} {c : Char} (h : (str.drop n).head? = some c) :
    str.drop n = c :: str.drop (n + 1) := by
  rw [List.head?_drop] at h
  obtain ⟨hn, rfl⟩ := List.getElem?_eq_some_iff.mp h
  exact List.drop_eq_getElem_cons hn

theorem variablePiece_brackets (rest : List Char) :
    variablePiece ('{' :: rest) =
      if shellVarAt rest = [] ∨ (rest.drop (shellVarAt rest).length).head? ≠ some '}' then
        .malformed true (shellVarAt rest)
      else .variable true (shellVarAt rest) := by
  simp only [variablePiece, List.head?_cons, decide_true, Bool.toNat_true, List.drop_succ_cons,
    List.drop_zero, true_and, Nat.add_comm 1]

theorem variablePiece_bare {p : List Char} (h : p.head? ≠ some '{') :
    variablePiece p =
      if shellVarAt p = [] then .malformed false (shellVarAt p)
      else .variable false (shellVarAt p) := by
  simp only [variablePiece, h, decide_false, Bool.toNat_false, List.drop_zero, Bool.false_eq_true,
    false_and, or_false]

theorem variablePiece_text (p : List Char) :
    (variablePiece p).text ++ ('$' :: p).drop (variablePiece p).text.length = '$' :: p := by
  by_cases hbrackets : p.head? = some '{'
  · obtain ⟨rest, rfl⟩ : ∃ rest, p = '{' :: rest := ⟨_, (List.cons_head?_tail hbrackets).symm⟩
    have hname := shellVarAt_append_drop rest
    rw [variablePiece_brackets]
    split
    · simp [ShellPiece.text, hname]
    · next hgood =>
      rw [eq_of_head_drop (not_not.mp (not_or.mp hgood).2)] at hname
      simpa [ShellPiece.text] using hname
  · have hname := shellVarAt_append_drop p
    rw [variablePiece_bare hbrackets]
    split <;> simp [ShellPiece.text, hname]

theorem firstPiece_text (c : Char) (p : List Char) :
    (firstPiece c p).text ++ (c :: p).drop (firstPiece c p).text.length = c :: p := by
  by_cases hbackslash : c = '\\'
  · subst hbackslash
    cases p <;> simp [firstPiece, ShellPiece.text]
  · by_cases hdollar : c = '$'
    · subst hdollar
      simpa [firstPiece] using variablePiece_text p
    · simp [firstPiece, hbackslash, hdollar, ShellPiece.text]

/-- The pieces of a text make up the text. -/
theorem flatMap_text_shellPieces (str : List Char) :
    (shellPieces str).flatMap ShellPiece.text = str := by
  induction str using shellPieces.induct with
  | case1 => simp
  | case2 c p ih =>
    rw [shellPieces_cons, List.flatMap_cons, ih]
    exact firstPiece_text c p

theorem shellExpandFrom_dollar (atNewWord : Bool) (p : List Char) :
    shellExpandFrom expandVar atNewWord ('$' :: p) =
      (variablePiece p).expansion expandVar ++
        shellExpandFrom expandVar atNewWord
          (('$' :: p).drop (variablePiece p).text.length) := by
  have hdollar : ¬ '$' = '\\' := by decide
  have hhash : ¬ ('$' = '#' ∧ atNewWord) := by simp
  rw [shellExpandFrom.eq_def]
  simp only [if_neg hdollar, if_neg hhash, if_true]
  by_cases hbrackets : p.head? = some '{'
  · obtain ⟨rest, rfl⟩ : ∃ rest, p = '{' :: rest := ⟨_, (List.cons_head?_tail hbrackets).symm⟩
    rw [variablePiece_brackets]
    simp only [List.head?_cons, decide_true, Bool.toNat_true, List.drop_succ_cons, List.drop_zero,
      true_and, if_true]
    split
    · simp [ShellPiece.expansion, ShellPiece.text]
    · simp [ShellPiece.expansion, ShellPiece.text]
  · rw [variablePiece_bare hbrackets]
    simp only [hbrackets, decide_false, Bool.toNat_false, List.drop_zero, Bool.false_eq_true,
      false_and, or_false, if_false]
    split
    · simp [ShellPiece.expansion, ShellPiece.text]
    · simp [ShellPiece.expansion, ShellPiece.text]

theorem variablePiece_not_plain (p : List Char) : (variablePiece p).isPlain = false := by
  simp only [variablePiece]
  split <;> rfl

/-- One round of the loop. -/
theorem shellExpandFrom_cons (atNewWord : Bool) (c : Char) (p : List Char) :
    shellExpandFrom expandVar atNewWord (c :: p) =
      if firstPiece c p = .plain '#' ∧ atNewWord then []
      else (firstPiece c p).expansion expandVar ++
        shellExpandFrom expandVar (loopBeginsWord atNewWord (firstPiece c p))
          ((c :: p).drop (firstPiece c p).text.length) := by
  by_cases hbackslash : c = '\\'
  · subst hbackslash
    cases p <;>
      simp [shellExpandFrom, firstPiece, ShellPiece.expansion, ShellPiece.text, loopBeginsWord,
        ShellPiece.isPlain]
  · by_cases hdollar : c = '$'
    · subst hdollar
      have hplain := variablePiece_not_plain p
      have hne : variablePiece p ≠ .plain '#' := by
        rintro heq
        simp [heq, ShellPiece.isPlain] at hplain
      simp only [firstPiece, if_neg (show ¬ '$' = '\\' by decide), if_true, hne, false_and,
        if_false, loopBeginsWord, hplain, Bool.false_eq_true]
      exact shellExpandFrom_dollar atNewWord p
    · rw [shellExpandFrom.eq_def]
      simp [firstPiece, hbackslash, hdollar, ShellPiece.expansion, ShellPiece.text, loopBeginsWord,
        ShellPiece.isPlain, ShellPiece.isSpace]

/-- The loop expands the pieces of the text up to where it finds a comment. -/
theorem shellExpandFrom_eq (atNewWord : Bool) (str : List Char) :
    shellExpandFrom expandVar atNewWord str =
      expandPieces expandVar (untilComment loopBeginsWord atNewWord (shellPieces str)) := by
  induction str using shellPieces.induct generalizing atNewWord with
  | case1 => simp [shellExpandFrom, untilComment]
  | case2 c p ih =>
    rw [shellExpandFrom_cons, shellPieces_cons, untilComment]
    split
    · rfl
    · rw [expandPieces_cons, ih]

/-! ## When the loop finds the right comment -/

/-- After these pieces a word begins: there are none, or the last is unescaped white space. -/
def BeginsWord (before : List ShellPiece) : Prop :=
  ∀ piece ∈ before.getLast?, piece.isSpace

/-- No comment has begun in these pieces. -/
def OutsideComment (before : List ShellPiece) : Prop :=
  ∀ start rest, before = start ++ .plain '#' :: rest → ¬ BeginsWord start

/-- The last of these pieces are escapes, variables and malformed variables, at least one of
them, and a word begins before them. -/
def BeginsWordWithoutCharacter (before : List ShellPiece) : Prop :=
  ∃ start run, before = start ++ run ∧ BeginsWord start ∧ run ≠ [] ∧
    ∀ piece ∈ run, piece.isPlain = false

/-- Outside of comments no `#` directly follows escapes or variables with which a word begins. -/
def NoHashAfterPiece (pieces : List ShellPiece) : Prop :=
  ∀ before after, pieces = before ++ .plain '#' :: after → OutsideComment before →
    ¬ BeginsWordWithoutCharacter before

/-- What is found to begin a word after these pieces. -/
def beginsAfter (beginsWord : Bool → ShellPiece → Bool) (atNewWord : Bool)
    (before : List ShellPiece) : Bool :=
  before.foldl beginsWord atNewWord

/-- Each `#` before the first comment which the loop takes for a comment begins one. -/
def LoopRight (looped meant : Bool) (pieces : List ShellPiece) : Prop :=
  ∀ before after, pieces = before ++ .plain '#' :: after →
    (∀ start rest, before = start ++ .plain '#' :: rest →
      beginsAfter (fun _ piece => piece.isSpace) meant start = false) →
    beginsAfter loopBeginsWord looped before = true →
      beginsAfter (fun _ piece => piece.isSpace) meant before = true

theorem loopRight_cons {looped meant : Bool} {piece : ShellPiece} {pieces : List ShellPiece} :
    LoopRight looped meant (piece :: pieces) ↔
      (piece = .plain '#' → looped = true → meant = true) ∧
        (¬ (piece = .plain '#' ∧ meant = true) →
          LoopRight (loopBeginsWord looped piece) piece.isSpace pieces) := by
  constructor
  · intro h
    constructor
    · rintro rfl hlooped
      exact h [] pieces rfl (by simp) hlooped
    · intro hnot before after heq hoff hlooped
      refine h (piece :: before) after (by rw [heq]; rfl) ?_ hlooped
      intro start rest hstart
      cases start with
      | nil =>
        obtain ⟨rfl, -⟩ : piece = .plain '#' ∧ before = rest := by simpa using hstart
        simpa [beginsAfter] using hnot
      | cons first start =>
        obtain ⟨rfl, hbefore⟩ : piece = first ∧ before = start ++ .plain '#' :: rest := by
          simpa using hstart
        exact hoff start rest hbefore
  · rintro ⟨hfirst, hrest⟩ before after heq hoff hlooped
    cases before with
    | nil =>
      obtain ⟨rfl, -⟩ : piece = .plain '#' ∧ pieces = after := by simpa using heq
      exact hfirst rfl hlooped
    | cons first before =>
      obtain ⟨rfl, hpieces⟩ : piece = first ∧ pieces = before ++ .plain '#' :: after := by
        simpa using heq
      refine hrest ?_ before after hpieces ?_ hlooped
      · rintro ⟨rfl, hmeant⟩
        have := hoff [] before rfl
        simp [beginsAfter, hmeant] at this
      · intro start rest hstart
        exact hoff (piece :: start) rest (by rw [hstart]; rfl)

/-- The two ways to look for the first comment give one expansion exactly if the loop is right
about each `#`. -/
theorem expandPieces_untilComment_iff (pieces : List ShellPiece) {looped meant : Bool}
    (hle : meant = true → looped = true) :
    expandPieces expandVar (untilComment loopBeginsWord looped pieces) =
        expandPieces expandVar (untilComment (fun _ piece => piece.isSpace) meant pieces) ↔
      LoopRight looped meant pieces := by
  induction pieces generalizing looped meant with
  | nil => simp [untilComment, LoopRight]
  | cons piece pieces ih =>
    have hnext : piece.isSpace = true → loopBeginsWord looped piece = true := by
      intro hspace
      rw [loopBeginsWord, if_pos (ShellPiece.isPlain_of_isSpace hspace), hspace]
    rw [loopRight_cons]
    by_cases hmeant : piece = .plain '#' ∧ meant = true
    · have hlooped : piece = .plain '#' ∧ looped = true := ⟨hmeant.1, hle hmeant.2⟩
      simp [untilComment, hmeant, hlooped]
    · by_cases hlooped : piece = .plain '#' ∧ looped = true
      · -- The loop leaves out a character that is to be kept.
        obtain ⟨rfl, rfl⟩ := hlooped
        have hfalse : meant = false := by simpa using hmeant
        simp [untilComment, hfalse, ShellPiece.expansion]
      · rw [untilComment, if_neg hlooped, untilComment, if_neg hmeant, expandPieces_cons,
          expandPieces_cons, List.append_cancel_left_eq, ih hnext]
        constructor
        · intro h
          exact ⟨fun hhash htrue => absurd ⟨hhash, htrue⟩ hlooped, fun _ => h⟩
        · intro h
          exact h.2 hmeant

theorem beginsAfter_isSpace (before : List ShellPiece) :
    beginsAfter (fun _ piece => piece.isSpace) true before = true ↔ BeginsWord before := by
  rcases List.eq_nil_or_concat' before with rfl | ⟨before, piece, rfl⟩
  · simp [beginsAfter, BeginsWord]
  · simp [beginsAfter, BeginsWord]

theorem beginsAfter_loop (before : List ShellPiece) :
    beginsAfter loopBeginsWord true before = true ↔
      BeginsWord before ∨ BeginsWordWithoutCharacter before := by
  induction before using List.reverseRecOn with
  | nil => simp [beginsAfter, BeginsWord]
  | append_singleton before piece ih =>
    have hafter : beginsAfter loopBeginsWord true (before ++ [piece]) =
        loopBeginsWord (beginsAfter loopBeginsWord true before) piece := by
      simp [beginsAfter]
    have hword : BeginsWord (before ++ [piece]) ↔ piece.isSpace = true := by
      simp [BeginsWord]
    rw [hafter, hword]
    by_cases hplain : piece.isPlain = true
    · have hnone : ¬ BeginsWordWithoutCharacter (before ++ [piece]) := by
        rintro ⟨start, run, heq, -, hrun, hall⟩
        obtain ⟨run, last, rfl⟩ := (List.eq_nil_or_concat' run).resolve_left hrun
        have heq' : before ++ [piece] = (start ++ run) ++ [last] := by simpa using heq
        obtain rfl : piece = last := by simpa using (List.append_inj' heq' rfl).2
        have hlast := hall piece (by simp)
        rw [hplain] at hlast
        cases hlast
      simp [loopBeginsWord, hplain, hnone]
    · have hspace : piece.isSpace = false :=
        Bool.of_not_eq_true fun hspace => hplain (ShellPiece.isPlain_of_isSpace hspace)
      have hrun : BeginsWordWithoutCharacter (before ++ [piece]) ↔
          BeginsWord before ∨ BeginsWordWithoutCharacter before := by
        constructor
        · rintro ⟨start, run, heq, hstart, hne, hall⟩
          obtain ⟨run, last, rfl⟩ := (List.eq_nil_or_concat' run).resolve_left hne
          have heq' : before ++ [piece] = (start ++ run) ++ [last] := by simpa using heq
          obtain rfl : before = start ++ run := (List.append_inj' heq' rfl).1
          rcases List.eq_nil_or_concat' run with rfl | ⟨init, last', rfl⟩
          · left
            simpa using hstart
          · right
            exact ⟨start, _, rfl, hstart, by simp, fun piece hpiece =>
              hall piece (List.mem_append_left _ hpiece)⟩
        · have hlast : ∀ run, (∀ piece ∈ run, ShellPiece.isPlain piece = false) →
              ∀ p ∈ run ++ [piece], p.isPlain = false := by
            intro run hall p hp
            rcases List.mem_append.mp hp with hp | hp
            · exact hall p hp
            · obtain rfl := List.mem_singleton.mp hp
              simpa using hplain
          rintro (hstart | ⟨start, run, rfl, hstart, -, hall⟩)
          · exact ⟨before, [piece], rfl, hstart, by simp, hlast [] (by simp)⟩
          · exact ⟨start, run ++ [piece], by simp, hstart, by simp, hlast run hall⟩
      simp only [loopBeginsWord, hplain, hspace, Bool.false_eq_true, if_false, false_or]
      rw [ih, hrun]

theorem loopRight_iff (pieces : List ShellPiece) :
    LoopRight true true pieces ↔ NoHashAfterPiece pieces := by
  have hoff (before : List ShellPiece) :
      (∀ start rest, before = start ++ .plain '#' :: rest →
        beginsAfter (fun _ piece => piece.isSpace) true start = false) ↔ OutsideComment before := by
    simp only [OutsideComment, ← beginsAfter_isSpace, Bool.not_eq_true]
  constructor
  · intro h before after heq hout hrun
    have hspace := h before after heq ((hoff before).mpr hout)
      ((beginsAfter_loop before).mpr (Or.inr hrun))
    rw [beginsAfter_isSpace] at hspace
    -- The last piece would be white space and no single character at once.
    obtain ⟨start, run, rfl, -, hne, hall⟩ := hrun
    obtain ⟨run, last, rfl⟩ := (List.eq_nil_or_concat' run).resolve_left hne
    have hlast : last.isSpace = true := by simpa [BeginsWord] using hspace
    have hplain : last.isPlain = false := hall last (by simp)
    cases hplain.symm.trans (ShellPiece.isPlain_of_isSpace hlast)
  · intro h before after heq hout hloop
    rw [beginsAfter_isSpace]
    rcases (beginsAfter_loop before).mp hloop with hword | hrun
    · exact hword
    · exact absurd hrun (h before after heq ((hoff before).mp hout))

/-- A text is expanded as it is described exactly if no unescaped `#` outside of a comment
directly follows escapes or variables with which a word begins. -/
theorem gdmShellExpand_eq_referenceExpand_iff (str : List Char)
    (expandVar : List Char → Option (List Char)) :
    gdmShellExpand str expandVar = referenceExpand str expandVar ↔
      NoHashAfterPiece (shellPieces str) := by
  rw [gdmShellExpand, shellExpandFrom_eq, referenceExpand,
    expandPieces_untilComment_iff _ (fun h => h), loopRight_iff]

/-- In `$FOO#1` the `#` is in the middle of a word. -/
theorem gdmShellExpand_hash_after_variable :
    gdmShellExpand ['$', 'F', 'O', 'O', '#', '1'] (fun _ => some ['B', 'A', 'R']) =
        ['B', 'A', 'R'] ∧
      gdmShellExpand ['$', 'F', 'O', 'O', '#', '1'] (fun _ => some ['B', 'A', 'R']) ≠
        referenceExpand ['$', 'F', 'O', 'O', '#', '1'] (fun _ => some ['B', 'A', 'R']) := by
  have hpieces : shellPieces ['$', 'F', 'O', 'O', '#', '1'] =
      [.variable false ['F', 'O', 'O'], .plain '#', .plain '1'] := by
    simp [shellPieces_cons, firstPiece, variablePiece, shellVarAt, gdmShellVarIsValidChar,
      ShellPiece.text]
  rw [gdmShellExpand, shellExpandFrom_eq, referenceExpand, hpieces]
  exact ⟨by decide, by decide⟩

end Gdm
