import Gdm.Library.Separated
import Mathlib.Data.List.Basic
import Mathlib.Data.List.Induction
import Mathlib.Logic.Function.Basic

/-!
# The language configuration

`load_lang_config_file` reads settings of the locale from the lines of a file into the environment
of the daemon.  The scanner gathers the characters of a line and acts where the line ends.
-/

namespace Gdm

/-- The environment of the process. -/
abbrev ProcessEnvironment := List Char → Option (List Char)

namespace LangConfig

/-- The names in the regular expression, in its order. -/
def keys : List (List Char) :=
  ["LANG", "LANGUAGE", "LC_CTYPE", "LC_NUMERIC", "LC_TIME", "LC_COLLATE", "LC_MONETARY",
    "LC_MESSAGES", "LC_PAPER", "LC_NAME", "LC_ADDRESS", "LC_TELEPHONE", "LC_MEASUREMENT",
    "LC_IDENTIFICATION", "LC_ALL"].map String.toList

/-- The group `value`, after a quotation mark if there is one. -/
def matchValue (text : List Char) : List Char :=
  (if text.head? = some '"' then text.tail else text).takeWhile (· ≠ '"')

/-- The regular expression matches here with this key, a name and an equals sign. -/
def matchKey (text : List Char) (key : List Char) : Option (List Char × List Char) :=
  if (key ++ ['=']).isPrefixOf text then some (key, matchValue (text.drop (key.length + 1)))
  else none

/-- `g_regex_match`: the groups `key` and `value` of the first match. -/
def regexMatch : List Char → Option (List Char × List Char)
  | [] => none
  | c :: line => (keys.findSome? (matchKey (c :: line))).or (regexMatch line)

/-- `g_setenv` -/
def setenv (env : ProcessEnvironment) (key value : List Char) : ProcessEnvironment :=
  Function.update env key (some value)

/-- What a line sets, where it sets something. -/
def assignment (line : List Char) : Option (List Char × List Char) :=
  if line.head? = some '#' then none
  else
    match regexMatch line with
    | none => none
    | some (key, value) => if key ≠ [] ∧ value ≠ [] then some (key, value) else none

/-- What is done at the end of a line. -/
def actOnLine (env : ProcessEnvironment) (line : List Char) : ProcessEnvironment :=
  match assignment line with
  | none => env
  | some (key, value) => setenv env key value

/-- The loop over the characters, with the line that has been gathered. -/
def scanFrom (env : ProcessEnvironment) (line : List Char) : List Char → ProcessEnvironment
  | [] => env
  | ch :: p =>
    if ch = '\x00' then env
    else if ch ≠ '\n' then scanFrom env (line ++ [ch]) p
    else scanFrom (actOnLine env line) [] p

/-- `g_utf8_validate`, of a text in UTF-8: a NUL is not valid within the given length. -/
def gUtf8Validate (contents : List Char) : Bool :=
  '\x00' ∉ contents

/-- `load_lang_config_file`, of a file in UTF-8 or of none that can be read. -/
def loadLangConfigFile (contents : Option (List Char)) (env : ProcessEnvironment) :
    ProcessEnvironment :=
  match contents with
  | none => env
  | some contents => if gUtf8Validate contents then scanFrom env [] contents else env

/-! ## What is asked of it -/

/-- The first place of the line that has a name and an equals sign, with what follows there. -/
def IsFirstMatch (line key value : List Char) : Prop :=
  ∃ before after, line = before ++ (key ++ '=' :: after) ∧ key ∈ keys ∧ value = matchValue after ∧
    ∀ earlier key' after', earlier.length < before.length → key' ∈ keys →
      line ≠ earlier ++ (key' ++ '=' :: after')

/-- A line sets a variable: it is no comment, and its first match has the name of the variable
and a value that is not empty. -/
def Sets (line key value : List Char) : Prop :=
  line.head? ≠ some '#' ∧ IsFirstMatch line key value ∧ value ≠ []

/-- All lines act one after the other, the last of them as well.  What this makes of the
environment is said without the scanner and its matches in `referenceEnvironment_eq_iff`. -/
def referenceEnvironment (contents : List Char) (env : ProcessEnvironment) : ProcessEnvironment :=
  (contents.splitOn '\n').foldl actOnLine env

/-- The lines that are ended by a newline, of a text that is valid. -/
def readLines (contents : List Char) : List (List Char) :=
  if gUtf8Validate contents then (contents.splitOn '\n').dropLast else []

/-- The other lines: the last one, or all of them. -/
def unreadLines (contents : List Char) : List (List Char) :=
  (contents.splitOn '\n').drop (readLines contents).length

/-- What the lines set a variable to in the end. -/
def lastValue (lines : List (List Char)) (key : List Char) : Option (List Char) :=
  ((lines.filterMap assignment).filter (·.1 = key)).getLast?.map Prod.snd

/-! ## The first match -/

theorem equals_not_mem_key {key : List Char} (h : key ∈ keys) : '=' ∉ key := by
  revert key
  decide

theorem key_ne_nil {key : List Char} (h : key ∈ keys) : key ≠ [] := by
  rintro rfl
  revert h
  decide

theorem matchKey_eq_some_iff {text key key' value : List Char} :
    matchKey text key = some (key', value) ↔
      key' = key ∧ ∃ after, text = key ++ '=' :: after ∧ value = matchValue after := by
  unfold matchKey
  constructor
  · intro h
    split at h
    · next hprefix =>
      obtain ⟨rfl, rfl⟩ := Prod.mk.inj (Option.some.inj h)
      obtain ⟨after, rfl⟩ := List.isPrefixOf_iff_prefix.mp hprefix
      exact ⟨rfl, after, by simp, by simp⟩
    · cases h
  · rintro ⟨rfl, after, rfl, rfl⟩
    rw [if_pos (List.isPrefixOf_iff_prefix.mpr ⟨after, by simp⟩)]
    simp

theorem findSome_matchKey_eq_some_iff {text key value : List Char} :
    keys.findSome? (matchKey text) = some (key, value) ↔
      key ∈ keys ∧ ∃ after, text = key ++ '=' :: after ∧ value = matchValue after := by
  constructor
  · intro h
    obtain ⟨key', hmem, hmatch⟩ := List.exists_of_findSome?_eq_some h
    obtain ⟨rfl, hafter⟩ := matchKey_eq_some_iff.mp hmatch
    exact ⟨hmem, hafter⟩
  · rintro ⟨hmem, after, rfl, rfl⟩
    have hsome : (keys.findSome? (matchKey (key ++ '=' :: after))).isSome := by
      rw [List.findSome?_isSome_iff]
      refine ⟨key, hmem, ?_⟩
      rw [matchKey_eq_some_iff.mpr ⟨rfl, after, rfl, rfl⟩]
      rfl
    obtain ⟨⟨key', value'⟩, hfound⟩ := Option.isSome_iff_exists.mp hsome
    obtain ⟨key'', hmem', hmatch⟩ := List.exists_of_findSome?_eq_some hfound
    obtain ⟨rfl, after', heq, rfl⟩ := matchKey_eq_some_iff.mp hmatch
    obtain ⟨rfl, rfl⟩ := Separated.field_unique (equals_not_mem_key hmem)
      (equals_not_mem_key hmem') heq
    exact hfound

theorem regexMatch_eq_some_iff (line key value : List Char) :
    regexMatch line = some (key, value) ↔ IsFirstMatch line key value := by
  induction line with
  | nil =>
    constructor
    · intro h
      cases h
    · rintro ⟨before, after, heq, -⟩
      simp at heq
  | cons c line ih =>
    rw [regexMatch]
    cases hhere : keys.findSome? (matchKey (c :: line)) with
    | some found =>
      obtain ⟨key', value'⟩ := found
      obtain ⟨hmem, after, heq, rfl⟩ := findSome_matchKey_eq_some_iff.mp hhere
      rw [Option.some_or]
      constructor
      · intro h
        obtain ⟨rfl, rfl⟩ := Prod.mk.inj (Option.some.inj h)
        exact ⟨[], after, heq, hmem, rfl, by simp⟩
      · rintro ⟨before, after', heq', hmem', rfl, hfirst⟩
        by_cases hbefore : before = []
        · subst hbefore
          obtain ⟨rfl, rfl⟩ := Separated.field_unique (equals_not_mem_key hmem)
            (equals_not_mem_key hmem') (heq.symm.trans heq')
          rfl
        · exact absurd heq
            (hfirst [] key' after (List.length_pos_iff.mpr hbefore) hmem)
    | none =>
      rw [Option.none_or, ih]
      have hnone : ∀ key' after', key' ∈ keys → c :: line ≠ key' ++ '=' :: after' := by
        intro key' after' hmem heq
        have hsome := findSome_matchKey_eq_some_iff.mpr ⟨hmem, after', heq, rfl⟩
        rw [hhere] at hsome
        cases hsome
      constructor
      · rintro ⟨before, after, rfl, hmem, hvalue, hfirst⟩
        refine ⟨c :: before, after, rfl, hmem, hvalue, ?_⟩
        intro earlier key' after' hlength hmem' heq
        cases earlier with
        | nil => exact hnone key' after' hmem' heq
        | cons d earlier =>
          exact hfirst earlier key' after' (by simpa using hlength) hmem'
            (List.tail_eq_of_cons_eq heq)
      · rintro ⟨before, after, heq, hmem, hvalue, hfirst⟩
        cases before with
        | nil => exact absurd heq (hnone key after hmem)
        | cons d before =>
          obtain ⟨rfl, rfl⟩ := List.cons.inj heq
          refine ⟨before, after, rfl, hmem, hvalue, ?_⟩
          intro earlier key' after' hlength hmem' heq'
          exact hfirst (c :: earlier) key' after' (by simpa using hlength) hmem' (by rw [heq']; rfl)

/-- A line that is no comment sets the name of its first match to the value, if that is not
empty. -/
theorem assignment_eq_some_iff (line key value : List Char) :
    assignment line = some (key, value) ↔ Sets line key value := by
  rw [Sets, ← regexMatch_eq_some_iff]
  unfold assignment
  split
  · next hcomment => simp [hcomment]
  · next hcomment =>
    cases hmatch : regexMatch line with
    | none => simp
    | some found =>
      obtain ⟨key', value'⟩ := found
      obtain ⟨-, -, -, hmem, -⟩ := (regexMatch_eq_some_iff line key' value').mp hmatch
      have hkey := key_ne_nil hmem
      by_cases hvalue : value' = []
      · simp [hvalue]
      · simp only [hkey, hvalue, ne_eq, not_false_eq_true, and_self, if_true, hcomment,
          Option.some.injEq, Prod.mk.injEq, true_and]
        constructor
        · rintro ⟨rfl, rfl⟩
          exact ⟨⟨rfl, rfl⟩, hvalue⟩
        · exact fun h => h.1

/-! ## The scanner -/

theorem scanFrom_line {text : List Char} (htext : '\n' ∉ text) (hnul : '\x00' ∉ text)
    (env : ProcessEnvironment) (line rest : List Char) :
    scanFrom env line (text ++ rest) = scanFrom env (line ++ text) rest := by
  induction text generalizing line with
  | nil => simp
  | cons c text ih =>
    simp only [List.mem_cons, not_or] at htext hnul
    rw [List.cons_append, scanFrom, if_neg (Ne.symm hnul.1), if_pos (Ne.symm htext.1),
      ih htext.2 hnul.2]
    simp

/-- The scanner acts on all lines but the last one. -/
theorem scanFrom_eq (contents : List Char) :
    ∀ env, '\x00' ∉ contents →
      scanFrom env [] contents = (contents.splitOn '\n').dropLast.foldl actOnLine env := by
  induction contents using Separated.induction '\n' with
  | single line hline =>
    intro env hnul
    have hscan := scanFrom_line hline hnul env [] []
    rw [List.append_nil] at hscan
    rw [hscan, Separated.splitOn_single hline]
    rfl
  | cons line rest hline ih =>
    intro env hnul
    simp only [List.mem_append, List.mem_cons, not_or] at hnul
    rw [scanFrom_line hline hnul.1, scanFrom, if_neg (by decide), if_neg (by decide),
      List.nil_append, ih _ hnul.2.2, Separated.splitOn_field hline,
      List.dropLast_cons_of_ne_nil (List.splitOn_ne_nil _ rest), List.foldl_cons]

theorem readLines_append_unreadLines (contents : List Char) :
    readLines contents ++ unreadLines contents = contents.splitOn '\n' := by
  have hprefix : readLines contents <+: contents.splitOn '\n' := by
    unfold readLines
    split
    · exact List.dropLast_prefix _
    · exact List.nil_prefix
  obtain ⟨rest, hrest⟩ := hprefix
  rw [unreadLines, ← hrest, List.drop_left]

theorem loadLangConfigFile_eq (contents : List Char) (env : ProcessEnvironment) :
    loadLangConfigFile (some contents) env = (readLines contents).foldl actOnLine env := by
  unfold loadLangConfigFile readLines
  by_cases hvalid : gUtf8Validate contents = true
  · have hnul : '\x00' ∉ contents := by simpa [gUtf8Validate] using hvalid
    simp only [hvalid, if_true, scanFrom_eq contents env hnul]
  · simp only [hvalid]
    rfl

/-! ## What the lines leave in the environment -/

theorem lastValue_concat (lines : List (List Char)) (line key : List Char) :
    lastValue (lines ++ [line]) key =
      match assignment line with
      | some (key', value) => if key' = key then some value else lastValue lines key
      | none => lastValue lines key := by
  unfold lastValue
  rw [List.filterMap_append, List.filter_append]
  cases hline : assignment line with
  | none => simp [hline]
  | some found =>
    obtain ⟨key', value⟩ := found
    by_cases hkey : key' = key
    · simp [hline, hkey]
    · simp [hline, hkey]

theorem foldl_actOnLine (lines : List (List Char)) (env : ProcessEnvironment) (key : List Char) :
    lines.foldl actOnLine env key = (lastValue lines key).or (env key) := by
  induction lines using List.reverseRecOn with
  | nil => rfl
  | append_singleton lines line ih =>
    rw [List.foldl_append, List.foldl_cons, List.foldl_nil, lastValue_concat, actOnLine]
    cases assignment line with
    | none => exact ih
    | some found =>
      obtain ⟨key', value⟩ := found
      by_cases hkey : key' = key
      · simp [setenv, hkey]
      · simp only [setenv, hkey, if_false]
        rw [Function.update_of_ne (Ne.symm hkey), ih]

/-- A line that is put at the end is the line in question, or comes after it. -/
theorem eq_or_of_concat_eq {lines before after : List (List Char)} {line last : List Char}
    (h : lines ++ [line] = before ++ last :: after) :
    after = [] ∧ lines = before ∧ line = last ∨
      ∃ rest, after = rest ++ [line] ∧ lines = before ++ last :: rest := by
  obtain rfl | ⟨rest, final, rfl⟩ := List.eq_nil_or_concat' after
  · obtain ⟨hlines, hline⟩ := List.append_inj' h rfl
    exact .inl ⟨rfl, hlines, List.singleton_inj.mp hline⟩
  · have h' : lines ++ [line] = (before ++ last :: rest) ++ [final] := by simpa using h
    obtain ⟨hlines, hline⟩ := List.append_inj' h' rfl
    exact .inr ⟨rest, by rw [List.singleton_inj.mp hline], hlines⟩

/-- The last line that sets a variable gives it its value. -/
theorem lastValue_eq_some_iff {lines : List (List Char)} {key value : List Char} :
    lastValue lines key = some value ↔
      ∃ before line after, lines = before ++ line :: after ∧ Sets line key value ∧
        ∀ later ∈ after, ∀ other, ¬ Sets later key other := by
  induction lines using List.reverseRecOn with
  | nil => simp [lastValue]
  | append_singleton lines line ih =>
    by_cases hsets : ∃ other, Sets line key other
    · obtain ⟨other, hother⟩ := hsets
      rw [lastValue_concat, (assignment_eq_some_iff line key other).mpr hother]
      simp only [if_true]
      constructor
      · rintro ⟨⟩
        exact ⟨lines, line, [], rfl, hother, nofun⟩
      · rintro ⟨before, last, after, heq, hlast, hafter⟩
        rcases eq_or_of_concat_eq heq with ⟨rfl, -, rfl⟩ | ⟨after, rfl, -⟩
        · have hvalue := ((assignment_eq_some_iff line key other).mpr hother).symm.trans
            ((assignment_eq_some_iff line key value).mpr hlast)
          rw [(Prod.mk.inj (Option.some.inj hvalue)).2]
        · -- no line comes after the last one
          exact absurd hother (hafter line (by simp) other)
    · have hkeeps : lastValue (lines ++ [line]) key = lastValue lines key := by
        rw [lastValue_concat]
        cases hline : assignment line with
        | none => rfl
        | some found =>
          refine if_neg ?_
          rintro rfl
          exact hsets ⟨found.2, (assignment_eq_some_iff line _ _).mp hline⟩
      rw [hkeeps, ih]
      constructor
      · rintro ⟨before, last, after, rfl, hlast, hafter⟩
        refine ⟨before, last, after ++ [line], by simp, hlast, fun later hmem other hother => ?_⟩
        rcases List.mem_append.mp hmem with hmem | hmem
        · exact hafter later hmem other hother
        · exact hsets ⟨other, List.mem_singleton.mp hmem ▸ hother⟩
      · rintro ⟨before, last, after, heq, hlast, hafter⟩
        rcases eq_or_of_concat_eq heq with ⟨rfl, -, rfl⟩ | ⟨after, rfl, rfl⟩
        · exact absurd ⟨value, hlast⟩ hsets
        · refine ⟨before, last, after, rfl, hlast, ?_⟩
          exact fun later hmem => hafter later (List.mem_append_left _ hmem)

/-- A variable has the value that the last line that sets it gives it, the last line of the file
included, and is left as it was if no line sets it. -/
theorem referenceEnvironment_eq_iff (contents : List Char) (env : ProcessEnvironment)
    (key value : List Char) :
    referenceEnvironment contents env key = some value ↔
      (∃ before line after, contents.splitOn '\n' = before ++ line :: after ∧
        Sets line key value ∧ ∀ later ∈ after, ∀ other, ¬ Sets later key other) ∨
      (∀ line ∈ contents.splitOn '\n', ∀ other, ¬ Sets line key other) ∧
        env key = some value := by
  rw [referenceEnvironment, foldl_actOnLine, Option.or_eq_some_iff, lastValue_eq_some_iff]
  refine or_congr_right (and_congr_left fun _ => ?_)
  unfold lastValue
  rw [Option.map_eq_none_iff, List.getLast?_eq_none_iff, List.filter_eq_nil_iff]
  constructor
  · intro h line hmem other hother
    have hassigns := (assignment_eq_some_iff line key other).mpr hother
    exact h (key, other) (List.mem_filterMap.mpr ⟨line, hmem, hassigns⟩) (by simp)
  · rintro h ⟨key', other⟩ hmem hkey
    obtain ⟨line, hline, hassigns⟩ := List.mem_filterMap.mp hmem
    obtain rfl : key' = key := by simpa using hkey
    exact h line hline other ((assignment_eq_some_iff line key' other).mp hassigns)

/-- The environment is as all lines of the file make it exactly if each variable that an unread
line sets in the end has its value from the lines that are read, or from before. -/
theorem loadLangConfigFile_eq_iff (contents : List Char) (env : ProcessEnvironment) :
    loadLangConfigFile (some contents) env = referenceEnvironment contents env ↔
      ∀ key value, lastValue (unreadLines contents) key = some value →
        ((lastValue (readLines contents) key).or (env key)) = some value := by
  rw [loadLangConfigFile_eq, referenceEnvironment, ← readLines_append_unreadLines,
    List.foldl_append]
  constructor
  · intro h key value hvalue
    have hkey := congrFun h key
    rw [foldl_actOnLine (unreadLines contents), hvalue, Option.some_or] at hkey
    rw [← foldl_actOnLine, hkey]
  · intro h
    funext key
    rw [foldl_actOnLine (unreadLines contents)]
    cases hvalue : lastValue (unreadLines contents) key with
    | none => rfl
    | some value => rw [Option.some_or, foldl_actOnLine, h key value hvalue]

/-- A single line without a newline is lost. -/
theorem unendedLine_not_read :
    loadLangConfigFile (some "LANG=de".toList) (fun _ => none) ≠
      referenceEnvironment "LANG=de".toList fun _ => none := by
  intro h
  have hlang := congrFun h "LANG".toList
  revert hlang
  decide

end LangConfig

end Gdm
