import Gdm.Common.Settings
import Gdm.Library.Layers
import Mathlib.Data.List.TakeWhile

/-!
# The layers of the settings

The file for the run time lies over the one of the administrator, and both lie over the
defaults of the schemas.  What is read for a key is looked up in the merged map, and is
what the text there says at the type of the schema.  What is set goes into the uppermost file.
-/

namespace Gdm

open Layers

/-! ## Writing -/

section Writing

-- `g_key_file_set_value`, for a file, a group, a key and a value
variable (gKeyFileSetValue :
  KeyFileContents → List Char → List Char → List Char → KeyFileContents)

/-- `gdm_settings_desktop_backend_set_value` -/
def gdmSettingsDesktopBackendSetValue (backend : KeyFileContents) (key value : List Char) :
    Option KeyFileContents :=
  (parseKeyString key).map fun parsed =>
    gKeyFileSetValue backend parsed.group parsed.key value

/-- `gdm_settings_set_value`: the backends after the first one that takes the value has it, or
`none` when none does. -/
def gdmSettingsSetValue : List KeyFileContents → List Char → List Char →
    Option (List KeyFileContents)
  | [], _, _ => none
  | backend :: backends, key, value =>
    match gdmSettingsDesktopBackendSetValue gKeyFileSetValue backend key value with
    | some written => some (written :: backends)
    | none => (gdmSettingsSetValue backends key value).map (backend :: ·)

end Writing

/-! ## The merged map -/

/-- The values of a file, by the keys of the settings; a file that is not there has none. -/
def fileLayer (file : Option KeyFileContents) : List Char → Option (List Char) :=
  match file with
  | some contents => gdmSettingsDesktopBackendGetValue contents
  | none => Layers.empty

/-- The defaults of the schemas. -/
def defaultLayer (schemas : List GdmSettingsEntry) (key : List Char) : Option (List Char) :=
  (getEntryForKey schemas key).bind (·.defaultValue)

/-- The merged map of the settings. -/
def mergedSettings (schemas : List GdmSettingsEntry) (custom runtime : Option KeyFileContents) :
    List Char → Option (List Char) :=
  merge [fileLayer runtime, fileLayer custom, defaultLayer schemas]

variable {schemas : List GdmSettingsEntry} {backends : List KeyFileContents} {key : List Char}

theorem gdmSettingsGetValue_eq_merge (backends : List KeyFileContents) (key : List Char) :
    gdmSettingsGetValue backends key =
      merge (backends.map gdmSettingsDesktopBackendGetValue) key := by
  induction backends with
  | nil => rfl
  | cons backend backends ih =>
    rw [List.map_cons, merge_cons, ← ih, gdmSettingsGetValue, gdmSettingsGetValue,
      List.findSome?_cons]
    cases gdmSettingsDesktopBackendGetValue backend key with
    | none => rfl
    | some value => rfl

/-- A missing file is an empty layer. -/
theorem merge_gdmSettingsReload (custom runtime : Option KeyFileContents) (key : List Char) :
    merge ((gdmSettingsReload custom runtime).map gdmSettingsDesktopBackendGetValue) key =
      merge [fileLayer runtime, fileLayer custom] key := by
  cases runtime with
  | none =>
    cases custom with
    | none => rfl
    | some custom => rfl
  | some runtime =>
    cases custom with
    | none => rfl
    | some custom => rfl

/-- What is read for a key of the schemas is the value in the layers. -/
theorem directText_eq {entry : GdmSettingsEntry} (hentry : getEntryForKey schemas key = some entry)
    (backends : List KeyFileContents) :
    directText schemas backends key entry.signature =
      some (merge (backends.map gdmSettingsDesktopBackendGetValue ++ [defaultLayer schemas])
        key) := by
  rw [directText, hentry, merge_append, ← gdmSettingsGetValue_eq_merge, merge_cons, merge_nil,
    Option.or_none, defaultLayer, hentry]
  exact if_pos rfl

section Writing

variable {gKeyFileSetValue :
    KeyFileContents → List Char → List Char → List Char → KeyFileContents}
  {value : List Char} {written : List KeyFileContents}

/-- Without a backend that takes the value, the key is not one of the settings at all. -/
theorem gdmSettingsSetValue_none (hparsed : parseKeyString key = none)
    (backends : List KeyFileContents) :
    gdmSettingsSetValue gKeyFileSetValue backends key value = none := by
  induction backends with
  | nil => rfl
  | cons backend backends ih =>
    rw [gdmSettingsSetValue, gdmSettingsDesktopBackendSetValue, hparsed, ih]
    rfl

/-- A value that is set is in the uppermost file. -/
theorem gdmSettingsSetValue_some
    (h : gdmSettingsSetValue gKeyFileSetValue backends key value = some written) :
    ∃ parsed backend rest, parseKeyString key = some parsed ∧ backends = backend :: rest ∧
      written = gKeyFileSetValue backend parsed.group parsed.key value :: rest := by
  cases hparsed : parseKeyString key with
  | none =>
    rw [gdmSettingsSetValue_none hparsed] at h
    cases h
  | some parsed =>
    cases backends with
    | nil => cases h
    | cons backend rest =>
      rw [gdmSettingsSetValue, gdmSettingsDesktopBackendSetValue, hparsed] at h
      exact ⟨parsed, backend, rest, rfl, rfl, (Option.some.inj h).symm⟩

/-- The key file has the value that has been associated with the group and the key of a setting. -/
def Associates (gKeyFileSetValue :
      KeyFileContents → List Char → List Char → List Char → KeyFileContents)
    (key : List Char) : Prop :=
  ∀ parsed, parseKeyString key = some parsed → ∀ keyFile value,
    gKeyFileSetValue keyFile parsed.group parsed.key value parsed.group parsed.key = some value

theorem gdmSettingsGetValue_setValue (hset : Associates gKeyFileSetValue key)
    (h : gdmSettingsSetValue gKeyFileSetValue backends key value = some written) :
    gdmSettingsGetValue written key = some value := by
  obtain ⟨parsed, backend, rest, hparsed, -, rfl⟩ := gdmSettingsSetValue_some h
  rw [gdmSettingsGetValue_eq_merge, List.map_cons, merge_cons, gdmSettingsDesktopBackendGetValue,
    hparsed, Option.bind_some, hset parsed hparsed, Option.some_or]

end Writing

/-! ## What a text says -/

/-- The words for a boolean. -/
def booleanWords : Bool → List String
  | true => ["true", "1"]
  | false => ["false", "0"]

/-- A text for a boolean: one of its words, in letters of either case. -/
def BooleanText (text : List Char) (value : Bool) : Prop :=
  ∃ word ∈ booleanWords value, text.map Char.toLower = word.toList

/-- A text for a number: white space, a sign or none, and then digits up to its end. -/
inductive NumberText : List Char → Int → Prop
  | unsigned {digits : List Char} (hne : digits ≠ []) (hdigits : ∀ c ∈ digits, c.isDigit = true) :
    NumberText digits (Nat.ofDigitChars 10 digits 0)
  | positive {digits : List Char} (hne : digits ≠ []) (hdigits : ∀ c ∈ digits, c.isDigit = true) :
    NumberText ('+' :: digits) (Nat.ofDigitChars 10 digits 0)
  | negative {digits : List Char} (hne : digits ≠ []) (hdigits : ∀ c ∈ digits, c.isDigit = true) :
    NumberText ('-' :: digits) (-(Nat.ofDigitChars 10 digits 0 : Int))
  | space {c : Char} {text : List Char} {number : Int} (hspace : isSpaceChar c = true)
    (htext : NumberText text number) : NumberText (c :: text) number

/-- A text for an `int`. -/
def IntegerText (text : List Char) (number : Int) : Prop :=
  NumberText text number ∧ -2 ^ 31 ≤ number ∧ number < 2 ^ 31

/-- Only a digit is made a digit. -/
theorem toLower_eq_digit_iff {c d : Char} (hd : d.isDigit = true) : c.toLower = d ↔ c = d := by
  rw [Char.isDigit, Bool.and_eq_true, decide_eq_true_iff, decide_eq_true_iff] at hd
  unfold Char.toLower
  split
  · rename_i hupper
    have hlower : ∀ e : Char, e.val = c.val + ('a'.val - 'A'.val) → e ≠ d := by
      rintro e he rfl
      rw [he] at hd
      have h1 := hupper.1
      have h2 := hupper.2
      have h3 := hd.2
      simp only [ge_iff_le, UInt32.le_iff_toNat_le, UInt32.toNat_add] at h1 h2 h3
      have hA : 'A'.val.toNat = 65 := rfl
      have hZ : 'Z'.val.toNat = 90 := rfl
      have h9 : '9'.val.toNat = 57 := rfl
      have hdiff : ('a'.val - 'A'.val).toNat = 32 := rfl
      omega
    have hsame : c ≠ d := by
      rintro rfl
      have h1 := hupper.1
      have h3 := hd.2
      simp only [ge_iff_le, UInt32.le_iff_toNat_le] at h1 h3
      have hA : 'A'.val.toNat = 65 := rfl
      have h9 : '9'.val.toNat = 57 := rfl
      omega
    exact iff_of_false (hlower _ rfl) hsame
  · exact Iff.rfl

theorem map_toLower_eq_digit_iff {text : List Char} {d : Char} (hd : d.isDigit = true) :
    text.map Char.toLower = [d] ↔ text = [d] := by
  rw [List.map_eq_singleton_iff]
  constructor
  · rintro ⟨c, rfl, hc⟩
    rw [(toLower_eq_digit_iff hd).mp hc]
  · rintro rfl
    exact ⟨d, rfl, (toLower_eq_digit_iff hd).mpr rfl⟩

theorem gdmSettingsParseValueAsBoolean_eq_some_iff {text : List Char} {value : Bool} :
    gdmSettingsParseValueAsBoolean text = some value ↔ BooleanText text value := by
  have hone := @map_toLower_eq_digit_iff text '1' rfl
  have hzero := @map_toLower_eq_digit_iff text '0' rfl
  have htrue : BooleanText text true ↔
      text.map Char.toLower = "true".toList ∨ text = "1".toList := by
    simp [BooleanText, booleanWords, hone]
  have hfalse : BooleanText text false ↔
      text.map Char.toLower = "false".toList ∨ text = "0".toList := by
    simp [BooleanText, booleanWords, hzero]
  have hexclusive : ¬ (BooleanText text true ∧ BooleanText text false) := by
    rw [htrue, hfalse]
    rintro ⟨h | rfl, h' | h'⟩
    · exact absurd (h.symm.trans h') (by decide)
    · subst h'
      revert h
      decide
    · revert h'
      decide
    · revert h'
      decide
  unfold gdmSettingsParseValueAsBoolean
  split
  · rename_i h
    have hyes := htrue.mpr h
    have hno : ¬ BooleanText text false := fun h => hexclusive ⟨hyes, h⟩
    cases value with
    | true => simp [hyes]
    | false => simp [hno]
  · rename_i h
    have hno : ¬ BooleanText text true := fun hyes => h (htrue.mp hyes)
    split
    · rename_i h
      cases value with
      | true => simp [hno]
      | false => simp [hfalse.mpr h]
    · rename_i h
      cases value with
      | true => simp [hno]
      | false => simp [mt hfalse.mp h]

theorem numberSign_of_ne {c : Char} (hminus : c ≠ '-') (hplus : c ≠ '+') (rest : List Char) :
    numberSign (c :: rest) = (false, c :: rest) := by
  unfold numberSign
  split
  · rename_i heq
    exact absurd (List.cons.inj heq).1 hminus
  · rename_i heq
    exact absurd (List.cons.inj heq).1 hplus
  · rfl

/-- A digit is neither white space nor a sign. -/
theorem not_space_of_isDigit {c : Char} (h : c.isDigit = true) :
    isSpaceChar c = false ∧ c ≠ '-' ∧ c ≠ '+' := by
  have hother : ∀ d : Char, d.isDigit = false → c ≠ d := by
    rintro d hd rfl
    rw [h] at hd
    cases hd
  refine ⟨?_, hother '-' rfl, hother '+' rfl⟩
  simp [isSpaceChar, hother ' ' rfl, hother '\t' rfl, hother '\n' rfl, hother '\x0b' rfl,
    hother '\x0c' rfl, hother '\r' rfl]

/-- White space before a text that is read to its end does not matter. -/
theorem strtol_cons_space {c : Char} {text : List Char} (hspace : isSpaceChar c = true)
    {number : Int} (hne : text ≠ []) :
    strtol (c :: text) = (number, []) ↔ strtol text = (number, []) := by
  have hdrop : (c :: text).dropWhile isSpaceChar = text.dropWhile isSpaceChar := by
    rw [List.dropWhile_cons, if_pos hspace]
  unfold strtol
  rw [hdrop]
  dsimp only
  split
  · simp [hne]
  · rfl

/-- Behind white space there is a sign or none, and the digits end the text. -/
theorem strtol_eq_iff_of_not_space {text : List Char} {number : Int} (hne : text ≠ [])
    (hspace : ∀ c ∈ text.head?, isSpaceChar c = false) :
    strtol text = (number, []) ↔
      (numberSign text).2 ≠ [] ∧ (∀ c ∈ (numberSign text).2, c.isDigit = true) ∧
        number = if (numberSign text).1 then -(Nat.ofDigitChars 10 (numberSign text).2 0 : Int)
          else Nat.ofDigitChars 10 (numberSign text).2 0 := by
  have hdrop : text.dropWhile isSpaceChar = text := by
    cases text with
    | nil => rfl
    | cons c rest => rw [List.dropWhile_cons, if_neg (by simp [hspace c rfl])]
  unfold strtol
  rw [hdrop]
  obtain ⟨negative, digits⟩ := numberSign text
  dsimp only
  by_cases hall : ∀ c ∈ digits, c.isDigit = true
  · have htake := List.takeWhile_eq_self_iff.mpr hall
    have hrest := List.dropWhile_eq_nil_iff.mpr hall
    rw [htake, hrest]
    split
    · rename_i hnil
      simp [hne, hnil]
    · rename_i hsome
      constructor
      · intro h
        exact ⟨hsome, hall, (Prod.mk.inj h).1.symm⟩
      · rintro ⟨-, -, rfl⟩
        rfl
  · have hrest : digits.dropWhile Char.isDigit ≠ [] := fun h =>
      hall (List.dropWhile_eq_nil_iff.mp h)
    split
    · simp [hne, hall]
    · simp [hrest, hall]

theorem numberText_of_strtol {text : List Char} {number : Int} (hne : text ≠ [])
    (h : strtol text = (number, [])) : NumberText text number := by
  induction text with
  | nil => exact absurd rfl hne
  | cons c rest ih =>
    cases hspace : isSpaceChar c with
    | true =>
      have hrest : rest ≠ [] := by
        rintro rfl
        simp [strtol, hspace, numberSign] at h
      exact .space hspace (ih hrest ((strtol_cons_space hspace hrest).mp h))
    | false =>
      obtain ⟨hdigits, hall, rfl⟩ :=
        (strtol_eq_iff_of_not_space hne (by simpa using hspace)).mp h
      by_cases hminus : c = '-'
      · subst hminus
        exact .negative hdigits hall
      · by_cases hplus : c = '+'
        · subst hplus
          exact .positive hdigits hall
        · rw [numberSign_of_ne hminus hplus] at hdigits hall ⊢
          exact .unsigned hdigits hall

theorem NumberText.strtol {text : List Char} {number : Int} (h : NumberText text number) :
    text ≠ [] ∧ Gdm.strtol text = (number, []) := by
  induction h with
  | @unsigned digits hne hdigits =>
    obtain ⟨c, rest, rfl⟩ := List.exists_cons_of_ne_nil hne
    obtain ⟨hspace, hminus, hplus⟩ := not_space_of_isDigit (hdigits c List.mem_cons_self)
    refine ⟨hne, (strtol_eq_iff_of_not_space hne (by simpa using hspace)).mpr ?_⟩
    rw [numberSign_of_ne hminus hplus]
    exact ⟨hne, hdigits, rfl⟩
  | positive hne hdigits =>
    refine ⟨List.cons_ne_nil _ _, (strtol_eq_iff_of_not_space (List.cons_ne_nil _ _)
      (by simp; decide)).mpr ⟨hne, hdigits, rfl⟩⟩
  | negative hne hdigits =>
    refine ⟨List.cons_ne_nil _ _, (strtol_eq_iff_of_not_space (List.cons_ne_nil _ _)
      (by simp; decide)).mpr ⟨hne, hdigits, rfl⟩⟩
  | space hspace htext ih =>
    exact ⟨List.cons_ne_nil _ _, (strtol_cons_space hspace ih.1).mpr ih.2⟩

theorem gdmSettingsParseValueAsInteger_eq_some_iff {text : List Char} {number : Int} :
    gdmSettingsParseValueAsInteger text = some number ↔ IntegerText text number := by
  unfold gdmSettingsParseValueAsInteger IntegerText
  constructor
  · intro h
    dsimp only at h
    split at h
    · cases h
    · rename_i hread
      push Not at hread
      split at h
      · rename_i hbounds
        obtain rfl := Option.some.inj h
        exact ⟨numberText_of_strtol hread.1 (Prod.ext rfl hread.2), hbounds⟩
      · cases h
  · rintro ⟨htext, hbounds⟩
    obtain ⟨hne, hread⟩ := htext.strtol
    simpa [hread, hne] using hbounds

/-- What is read from the backends for a key of the schemas, at the type that its schema says, is
what this text says: there is a value only if there is a text for just this value, and a string is
the text itself. -/
structure Reads (schemas : List GdmSettingsEntry) (backends : List KeyFileContents)
    (key signature : List Char) (text : Option (List Char)) : Prop where
  int : signature = "i".toList → ∃ result,
    gdmSettingsDirectGetInt schemas backends key = some result ∧
      ∀ number, result = some number ↔ ∃ chars, text = some chars ∧ IntegerText chars number
  boolean : signature = "b".toList → ∃ result,
    gdmSettingsDirectGetBoolean schemas backends key = some result ∧
      ∀ value, result = some value ↔ ∃ chars, text = some chars ∧ BooleanText chars value
  string : signature = "s".toList →
    gdmSettingsDirectGetString schemas backends key = some text

theorem reads_of_directText {signature : List Char} {text : Option (List Char)}
    (h : directText schemas backends key signature = some text) :
    Reads schemas backends key signature text := by
  constructor
  · rintro rfl
    refine ⟨text.bind gdmSettingsParseValueAsInteger, ?_, fun number => ?_⟩
    · rw [gdmSettingsDirectGetInt, h, Option.map_some]
    · rw [Option.bind_eq_some_iff]
      simp only [gdmSettingsParseValueAsInteger_eq_some_iff]
  · rintro rfl
    refine ⟨text.bind gdmSettingsParseValueAsBoolean, ?_, fun value => ?_⟩
    · rw [gdmSettingsDirectGetBoolean, h, Option.map_some]
    · rw [Option.bind_eq_some_iff]
      simp only [gdmSettingsParseValueAsBoolean_eq_some_iff]
  · rintro rfl
    exact h

/-- Reading a key is looking it up in the merged map of the two files and the defaults, and once a
value has been set for a key it is what is read, from whatever backends there are. -/
theorem gdmSettings_layered
    (gKeyFileSetValue : KeyFileContents → List Char → List Char → List Char → KeyFileContents)
    (schemas : List GdmSettingsEntry) (entry : GdmSettingsEntry) (key : List Char)
    (hentry : getEntryForKey schemas key = some entry)
    (hset : Associates gKeyFileSetValue key) :
    (∀ custom runtime, Reads schemas (gdmSettingsReload custom runtime) key entry.signature
      (mergedSettings schemas custom runtime key)) ∧
    ∀ backends value written,
      gdmSettingsSetValue gKeyFileSetValue backends key value = some written →
      gdmSettingsGetValue written key = some value ∧
        Reads schemas written key entry.signature (some value) := by
  constructor
  · intro custom runtime
    apply reads_of_directText
    rw [directText_eq hentry, merge_append, merge_gdmSettingsReload, ← merge_append]
    rfl
  · intro backends value written h
    have hvalue := gdmSettingsGetValue_setValue hset h
    refine ⟨hvalue, reads_of_directText ?_⟩
    rw [directText, hentry]
    exact (if_pos rfl).trans (by rw [hvalue, Option.some_or])

/-- The value is put into the file. -/
def associate (keyFile : KeyFileContents) (group key value : List Char) : KeyFileContents :=
  fun group' key' => if group' = group ∧ key' = key then some value else keyFile group' key'

/-- The file of the administrator, with a delay of ten seconds. -/
def tenSeconds : KeyFileContents :=
  associate (fun _ _ => none) "daemon".toList "TimedLoginDelay".toList "10".toList

/-- The file for the run time, with a login at once. -/
def loginAtOnce : KeyFileContents :=
  associate (fun _ _ => none) "daemon".toList "AutomaticLoginEnable".toList "True".toList

/-- The delay is read from the file of the administrator, and then set to a text that is no
number; that there is a login at once is read from the file for the run time. -/
theorem gdmSettings_layered_daemon :
    gdmSettingsDirectGetInt gdmSchemas (gdmSettingsReload (some tenSeconds) none)
        "daemon/TimedLoginDelay".toList = some (some 10) ∧
      (∃ written,
        gdmSettingsSetValue associate (gdmSettingsReload (some tenSeconds) none)
          "daemon/TimedLoginDelay".toList "soon".toList = some written ∧
        gdmSettingsDirectGetInt gdmSchemas written "daemon/TimedLoginDelay".toList =
          some none) ∧
      gdmSettingsDirectGetBoolean gdmSchemas
        (gdmSettingsReload (some tenSeconds) (some loginAtOnce))
          "daemon/AutomaticLoginEnable".toList = some (some true) := by
  have hset : ∀ key, Associates associate key := fun _ _ _ _ _ => if_pos ⟨rfl, rfl⟩
  obtain ⟨hreads, hsets⟩ := gdmSettings_layered associate gdmSchemas
    (schemaEntry "daemon/TimedLoginDelay" "i" (some "30")) "daemon/TimedLoginDelay".toList
    (by decide) (hset _)
  obtain ⟨hflag, -⟩ := gdmSettings_layered associate gdmSchemas
    (schemaEntry "daemon/AutomaticLoginEnable" "b" (some "false"))
    "daemon/AutomaticLoginEnable".toList (by decide) (hset _)
  obtain ⟨written, hwritten⟩ : ∃ written,
      gdmSettingsSetValue associate (gdmSettingsReload (some tenSeconds) none)
        "daemon/TimedLoginDelay".toList "soon".toList = some written := ⟨_, rfl⟩
  refine ⟨?_, ⟨written, hwritten, ?_⟩, ?_⟩
  · obtain ⟨result, hresult, hnumber⟩ := (hreads (some tenSeconds) none).int rfl
    have hdigits : "10".toList.all Char.isDigit = true := by decide
    rw [hresult, (hnumber 10).mpr ⟨"10".toList, by decide,
      .unsigned (by decide) (List.all_eq_true.mp hdigits), by decide⟩]
  · obtain ⟨result, hresult, hnumber⟩ := (hsets _ "soon".toList written hwritten).2.int rfl
    have hmalformed : gdmSettingsParseValueAsInteger "soon".toList = none := by decide
    rw [hresult, Option.some.injEq, Option.eq_none_iff_forall_ne_some]
    intro number heq
    obtain ⟨chars, hchars, htext⟩ := (hnumber number).mp heq
    obtain rfl := Option.some.inj hchars
    rw [← gdmSettingsParseValueAsInteger_eq_some_iff, hmalformed] at htext
    cases htext
  · obtain ⟨result, hresult, hvalue⟩ := (hflag (some tenSeconds) (some loginAtOnce)).boolean rfl
    rw [hresult, (hvalue true).mpr ⟨"True".toList, by decide, "true", by decide, by decide⟩]

end Gdm
