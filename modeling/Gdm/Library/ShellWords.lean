import Mathlib.Algebra.Order.Ring.Nat
import Mathlib.Data.List.Basic

/-!
# Words of the shell

A command line is split into words with the quoting of the shell and without its
expansions.  Single quotes preserve a text exactly.  Double quotes allow `$`, a
backquote, `"`, `\` and newline to be escaped with a backslash, and preserve anything
else literally, the backslash before it included.  Outside of quotes a backslash
preserves the next character, but for a newline which vanishes with it, and a word that
starts with `#` is a comment as far as the end of the line.

What this module is for is a text between double quotes.  It comes back as it is just
when it is inert: nothing in it closes the quotes or is escaped.
-/

namespace ShellWords

/-- What the next character belongs to. -/
inductive Mode
  | plain
  | escaped
  | single
  | double
  | doubleEscaped
  | comment
  deriving DecidableEq, Repr

def doubleQuote : Char := '\x22'

def singleQuote : Char := '\x27'

def backslash : Char := '\\'

/-- Unquoted, these end a word. -/
def isBlank (c : Char) : Bool :=
  c = ' ' || c = '\t' || c = '\n'

/-- Between double quotes, these are escaped by a backslash. -/
def isEscapable (c : Char) : Bool :=
  c = '$' || c = '\x60' || c = doubleQuote || c = backslash || c = '\n'

/-- Characters that mean nothing to the shell. -/
def isOrdinary (c : Char) : Bool :=
  !(isBlank c || c = backslash || c = singleQuote || c = doubleQuote || c = '#')

/-- What is added to a word; a word that has not begun does so. -/
def extend (word : Option (List Char)) (text : List Char) : Option (List Char) :=
  some (word.getD [] ++ text)

/-- The words of the text, the first of which has begun when there is a `word`.  There
are none when the text ends inside of quotes or after a backslash. -/
def scan : Mode → Option (List Char) → List Char → Option (List (List Char))
  | .plain, word, [] => some word.toList
  | .comment, word, [] => some word.toList
  | .escaped, _, [] => none
  | .single, _, [] => none
  | .double, _, [] => none
  | .doubleEscaped, _, [] => none
  | .plain, word, c :: rest =>
    if isBlank c then (scan .plain none rest).map (word.toList ++ ·)
    else if c = backslash then scan .escaped word rest
    else if c = singleQuote then scan .single (extend word []) rest
    else if c = doubleQuote then scan .double (extend word []) rest
    else if c = '#' ∧ word = none then scan .comment none rest
    else scan .plain (extend word [c]) rest
  | .escaped, word, c :: rest =>
    if c = '\n' then scan .plain word rest else scan .plain (extend word [c]) rest
  | .single, word, c :: rest =>
    if c = singleQuote then scan .plain word rest else scan .single (extend word [c]) rest
  | .double, word, c :: rest =>
    if c = doubleQuote then scan .plain word rest
    else if c = backslash then scan .doubleEscaped word rest
    else scan .double (extend word [c]) rest
  | .doubleEscaped, word, c :: rest =>
    if isEscapable c then scan .double (extend word [c]) rest
    else scan .double (extend word [backslash, c]) rest
  | .comment, word, c :: rest =>
    if c = '\n' then scan .plain word rest else scan .comment word rest

/-- The argument vector of a command line: a line without words is an error. -/
def parseArgv (text : List Char) : Option (List (List Char)) :=
  match scan .plain none text with
  | some (word :: words) => some (word :: words)
  | _ => none

/-- Between double quotes, nothing in the text closes them or is escaped. -/
def Inert : List Char → Prop
  | [] => True
  | [c] => c ≠ doubleQuote ∧ c ≠ backslash
  | c :: d :: rest =>
    c ≠ doubleQuote ∧ (c = backslash → isEscapable d = false) ∧ Inert (d :: rest)

instance decidableInert : ∀ text, Decidable (Inert text)
  | [] => isTrue trivial
  | [c] => inferInstanceAs (Decidable (c ≠ doubleQuote ∧ c ≠ backslash))
  | c :: d :: rest =>
    have : Decidable (Inert (d :: rest)) := decidableInert (d :: rest)
    inferInstanceAs (Decidable
      (c ≠ doubleQuote ∧ (c = backslash → isEscapable d = false) ∧ Inert (d :: rest)))

variable {word : Option (List Char)} {text rest : List Char} {c d : Char}
  {words : List (List Char)}

/-! ## Plain text -/

theorem scan_ordinary (hc : isOrdinary c = true) :
    scan .plain word (c :: rest) = scan .plain (extend word [c]) rest := by
  simp only [isOrdinary, Bool.not_eq_true', Bool.or_eq_false_iff, decide_eq_false_iff_not] at hc
  obtain ⟨⟨⟨⟨hblank, hback⟩, hsingle⟩, hdouble⟩, hhash⟩ := hc
  simp [scan, hblank, hback, hsingle, hdouble, hhash]

/-- A word of characters that mean nothing, as far as the blank after it. -/
theorem scan_plain_word (htext : ∀ c ∈ text, isOrdinary c = true) (w : List Char) :
    scan .plain (some w) (text ++ ' ' :: rest) =
      (scan .plain none rest).map ((w ++ text) :: ·) := by
  induction text generalizing w with
  | nil =>
    rw [List.nil_append, List.append_nil]
    rfl
  | cons c text ih =>
    rw [List.cons_append, scan_ordinary (htext c List.mem_cons_self)]
    have hextend := ih (fun c hc => htext c (List.mem_cons_of_mem _ hc)) (w ++ [c])
    rw [List.append_assoc] at hextend
    exact hextend

theorem scan_word (htext : ∀ c ∈ text, isOrdinary c = true) (hne : text ≠ []) :
    scan .plain none (text ++ ' ' :: rest) = (scan .plain none rest).map (text :: ·) := by
  cases text with
  | nil => exact absurd rfl hne
  | cons c text =>
    rw [List.cons_append, scan_ordinary (htext c List.mem_cons_self)]
    exact scan_plain_word (fun c hc => htext c (List.mem_cons_of_mem _ hc)) [c]

/-! ## Text between double quotes -/

theorem scan_double_plain (hc : c ≠ doubleQuote) (hback : c ≠ backslash) :
    scan .double word (c :: rest) = scan .double (extend word [c]) rest := by
  simp [scan, hc, hback]

theorem isEscapable_backslash : isEscapable backslash = true := by decide

theorem isEscapable_doubleQuote : isEscapable doubleQuote = true := by decide

/-- A character that is not escaped comes back with its backslash. -/
theorem scan_double_unescaped (hd : isEscapable d = false) :
    scan .double word (backslash :: d :: rest) =
      scan .double (extend word [backslash, d]) rest := by
  have hne : backslash ≠ doubleQuote := by decide
  simp [scan, hne, hd]

theorem scan_double_escaped (hd : isEscapable d = true) :
    scan .double word (backslash :: d :: rest) = scan .double (extend word [d]) rest := by
  have hne : backslash ≠ doubleQuote := by decide
  simp [scan, hne, hd]

theorem Inert.tail (h : Inert (c :: text)) : Inert text := by
  cases text with
  | nil => trivial
  | cons d rest => exact h.2.2

theorem inert_cons (hquote : c ≠ doubleQuote) (hback : c ≠ backslash) (h : Inert text) :
    Inert (c :: text) := by
  cases text with
  | nil => exact ⟨hquote, hback⟩
  | cons d rest => exact ⟨hquote, fun heq => absurd heq hback, h⟩

theorem ne_of_not_escapable (hc : isEscapable c = false) : c ≠ doubleQuote ∧ c ≠ backslash := by
  constructor
  · rintro rfl
    rw [isEscapable_doubleQuote] at hc
    cases hc
  · rintro rfl
    rw [isEscapable_backslash] at hc
    cases hc

/-- An inert text comes back as it is. -/
theorem scan_inert : ∀ (text w : List Char), Inert text →
    scan .double (some w) (text ++ doubleQuote :: rest) = scan .plain (some (w ++ text)) rest
  | [], w, _ => by
    rw [List.nil_append, List.append_nil]
    rfl
  | [c], w, h => by
    rw [List.singleton_append, scan_double_plain h.1 h.2]
    rfl
  | c :: d :: text, w, h => by
    by_cases hback : c = backslash
    · -- the character after a backslash is not looked at again
      subst hback
      have hrest : Inert text := h.2.2.tail
      have hscan := scan_inert text (w ++ [backslash, d]) hrest
      rw [List.append_assoc] at hscan
      rw [List.cons_append, List.cons_append, scan_double_unescaped (h.2.1 rfl)]
      exact hscan
    · have hscan := scan_inert (d :: text) (w ++ [c]) h.2.2
      rw [List.append_assoc] at hscan
      rw [List.cons_append, scan_double_plain h.1 hback]
      exact hscan

/-! ## What is lost between double quotes

A scan yields at most as many characters as it has been given, and one less for every
quote, escape and comment.  So a text that is not inert cannot come back as one word. -/

/-- The characters in all words. -/
def total (words : List (List Char)) : Nat :=
  (words.map List.length).sum

/-- A character of the text that is not going to be in a word. -/
def loss : Mode → Nat
  | .plain | .single | .double | .comment => 1
  | .escaped | .doubleEscaped => 0

theorem total_append (words words' : List (List Char)) :
    total (words ++ words') = total words + total words' := by
  simp [total]

theorem total_toList (word : Option (List Char)) : total word.toList = (word.getD []).length := by
  cases word <;> simp [total]

theorem length_extend (word : Option (List Char)) (text : List Char) :
    ((extend word text).getD []).length = (word.getD []).length + text.length := by
  simp [extend]

/-- A text that ends with a quote has lost it, or what made it a character. -/
theorem total_scan (text : List Char) : ∀ (mode : Mode) (word : Option (List Char))
    (words : List (List Char)), scan mode word (text ++ [doubleQuote]) = some words →
    total words + loss mode ≤ (word.getD []).length + (text.length + 1) := by
  induction text with
  | nil =>
    intro mode word words h
    cases mode with
    | plain => cases h
    | escaped =>
      obtain rfl := Option.some.inj h
      have hlength := length_extend word [doubleQuote]
      rw [total_toList, hlength]
      simp [loss]
    | single => cases h
    | double =>
      obtain rfl := Option.some.inj h
      rw [total_toList]
      simp [loss]
    | doubleEscaped => cases h
    | comment =>
      obtain rfl := Option.some.inj h
      rw [total_toList]
      simp [loss]
  | cons c text ih =>
    intro mode word words h
    rw [List.cons_append] at h
    rw [List.length_cons]
    have hextend : ∀ (mode : Mode) (s : List Char),
        scan mode (extend word s) (text ++ [doubleQuote]) = some words →
        total words + loss mode ≤ (word.getD []).length + s.length + (text.length + 1) := by
      intro mode s h
      have hlength := ih mode (extend word s) words h
      rwa [length_extend] at hlength
    cases mode with
    | plain =>
      rw [scan] at h
      split at h
      · obtain ⟨rest, hrest, rfl⟩ := Option.map_eq_some_iff.mp h
        have hlength := ih .plain none rest hrest
        rw [total_append, total_toList]
        simp only [Option.getD_none, List.length_nil, loss] at hlength ⊢
        omega
      · split at h
        · have hlength := ih .escaped word words h
          simp only [loss] at hlength ⊢
          omega
        · split at h
          · have hlength := hextend .single [] h
            simp only [List.length_nil, loss] at hlength ⊢
            omega
          · split at h
            · have hlength := hextend .double [] h
              simp only [List.length_nil, loss] at hlength ⊢
              omega
            · split at h
              · have hlength := ih .comment none words h
                simp only [Option.getD_none, List.length_nil, loss] at hlength ⊢
                omega
              · have hlength := hextend .plain [c] h
                simp only [List.length_singleton, loss] at hlength ⊢
                omega
    | escaped =>
      rw [scan] at h
      split at h
      · have hlength := ih .plain word words h
        simp only [loss] at hlength ⊢
        omega
      · have hlength := hextend .plain [c] h
        simp only [List.length_singleton, loss] at hlength ⊢
        omega
    | single =>
      rw [scan] at h
      split at h
      · have hlength := ih .plain word words h
        simp only [loss] at hlength ⊢
        omega
      · have hlength := hextend .single [c] h
        simp only [List.length_singleton, loss] at hlength ⊢
        omega
    | double =>
      rw [scan] at h
      split at h
      · have hlength := ih .plain word words h
        simp only [loss] at hlength ⊢
        omega
      · split at h
        · have hlength := ih .doubleEscaped word words h
          simp only [loss] at hlength ⊢
          omega
        · have hlength := hextend .double [c] h
          simp only [List.length_singleton, loss] at hlength ⊢
          omega
    | doubleEscaped =>
      rw [scan] at h
      split at h
      · have hlength := hextend .double [c] h
        simp only [List.length_singleton, loss] at hlength ⊢
        omega
      · have hlength := hextend .double [backslash, c] h
        simp only [List.length_cons, List.length_nil, loss] at hlength ⊢
        omega
    | comment =>
      rw [scan] at h
      split at h
      · have hlength := ih .plain word words h
        simp only [loss] at hlength ⊢
        omega
      · have hlength := ih .comment word words h
        simp only [loss] at hlength ⊢
        omega

/-- A text that is not inert loses a character more than its quotes. -/
theorem total_scan_spoiled : ∀ (text w : List Char) (words : List (List Char)), ¬ Inert text →
    scan .double (some w) (text ++ [doubleQuote]) = some words →
    total words < w.length + text.length
  | [], _, _, h, _ => absurd trivial h
  | [c], w, words, h, hscan => by
    by_cases hquote : c = doubleQuote
    · subst hquote
      have hlength := total_scan [] .plain (some w) words hscan
      simp only [loss, Option.getD_some, List.length_nil] at hlength
      simp only [List.length_singleton]
      omega
    · by_cases hback : c = backslash
      · subst hback
        cases hscan
      · exact absurd ⟨hquote, hback⟩ h
  | c :: d :: text, w, words, h, hscan => by
    simp only [List.length_cons]
    by_cases hquote : c = doubleQuote
    · subst hquote
      have hlength := total_scan (d :: text) .plain (some w) words hscan
      simp only [loss, Option.getD_some, List.length_cons] at hlength
      omega
    · by_cases hback : c = backslash
      · subst hback
        rw [List.cons_append, List.cons_append] at hscan
        cases hd : isEscapable d with
        | true =>
          rw [scan_double_escaped hd] at hscan
          have hlength := total_scan text .double _ words hscan
          rw [length_extend] at hlength
          simp only [loss, Option.getD_some, List.length_singleton] at hlength
          omega
        | false =>
          rw [scan_double_unescaped hd] at hscan
          have hspoiled : ¬ Inert text := by
            intro htext
            obtain ⟨hquote', hback'⟩ := ne_of_not_escapable hd
            exact h ⟨hquote, fun _ => hd, inert_cons hquote' hback' htext⟩
          have hlength := total_scan_spoiled text (w ++ [backslash, d]) words hspoiled hscan
          simp only [List.length_append, List.length_cons, List.length_nil] at hlength
          omega
      · have hspoiled : ¬ Inert (d :: text) := fun htext =>
          h ⟨hquote, fun heq => absurd heq hback, htext⟩
        rw [List.cons_append, scan_double_plain hquote hback] at hscan
        have hlength := total_scan_spoiled (d :: text) (w ++ [c]) words hspoiled hscan
        simp only [List.length_append, List.length_cons, List.length_nil] at hlength
        omega

/-- Between double quotes, a text comes back as one word just when it is inert. -/
theorem scan_quoted_iff (text : List Char) :
    scan .plain none (doubleQuote :: (text ++ [doubleQuote])) = some [text] ↔ Inert text := by
  have hopen : scan .plain none (doubleQuote :: (text ++ [doubleQuote])) =
      scan .double (some []) (text ++ [doubleQuote]) := rfl
  rw [hopen]
  constructor
  · intro hscan
    by_contra h
    have hlength := total_scan_spoiled text [] [text] h hscan
    simp [total] at hlength
  · intro h
    exact scan_inert text [] h

end ShellWords
