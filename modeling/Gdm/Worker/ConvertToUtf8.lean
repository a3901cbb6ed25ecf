import Gdm.Library.Utf8
import Gdm.Worker.Conversation

/-!
# Texts from PAM

What a PAM module says is in the encoding of the locale.  A text that cannot be converted
from it is taken for UTF-8, and every byte that stands in the way gets a question mark.
-/

namespace Gdm

open Utf8

/-- `'?'` -/
def questionMark : UInt8 := 0x3F

/-- The loop of `convert_to_utf8`, from the pointer `p` on: `none` when it has not ended after some
rounds. -/
def hopeForTheBest : Nat → List UInt8 → Option (List UInt8)
  | 0, _ => none
  | _ + 1, [] => some []
  | rounds + 1, byte :: bytes =>
    match splitValid (byte :: bytes) with
    | (_, []) => some (byte :: bytes)
    | (valid, _ :: rest) =>
      (hopeForTheBest rounds rest).map fun repaired => valid ++ questionMark :: repaired

/-- `convert_to_utf8` -/
def convertToUtf8 (gLocaleToUtf8 : CString → Option (List UInt8)) (rounds : Nat) (str : CString) :
    Option (List UInt8) :=
  match gLocaleToUtf8 str with
  | some utf8 => some utf8
  | none => hopeForTheBest rounds str.bytes

/-- The texts differ only where there is a question mark, in the place of a byte with which no
character begins. -/
def DiffersAtMarks (str utf8 : List UInt8) : Prop :=
  ∀ i < str.length, utf8[i]? = str[i]? ∨
    (utf8[i]? = some questionMark ∧ StartsInvalid (str.drop i))

variable {str utf8 : List UInt8}

theorem DiffersAtMarks.refl (str : List UInt8) : DiffersAtMarks str str :=
  fun _ _ => .inl rfl

theorem DiffersAtMarks.cons {byte byte' : UInt8} (h : DiffersAtMarks str utf8)
    (hbyte : byte' = byte ∨ (byte' = questionMark ∧ StartsInvalid (byte :: str))) :
    DiffersAtMarks (byte :: str) (byte' :: utf8) := by
  intro i hi
  cases i with
  | zero => simpa using hbyte
  | succ i => simpa using h i (by simpa using hi)

theorem DiffersAtMarks.append (valid : List UInt8) (h : DiffersAtMarks str utf8) :
    DiffersAtMarks (valid ++ str) (valid ++ utf8) := by
  induction valid with
  | nil => exact h
  | cons byte valid ih => exact ih.cons (.inl rfl)

/-- The text is valid, as long as the other one, and differs from it only at question marks. -/
structure Repaired (str utf8 : List UInt8) : Prop where
  valid : Valid utf8
  length_eq : utf8.length = str.length
  noNul : 0 ∉ str → 0 ∉ utf8
  differs : DiffersAtMarks str utf8

theorem valid_questionMark : Valid [questionMark] :=
  valid_utf8EncodeChar '?'

/-- One round of the loop. -/
theorem Repaired.round {valid rest repaired : List UInt8} {byte : UInt8} (hvalid : Valid valid)
    (hnone : firstChar? (byte :: rest) = none) (h : Repaired rest repaired) :
    Repaired (valid ++ byte :: rest) (valid ++ questionMark :: repaired) := by
  constructor
  · exact hvalid.append (valid_questionMark.append h.valid)
  · simp [h.length_eq]
  · intro hnul
    simp only [List.mem_append, List.mem_cons, not_or] at hnul ⊢
    exact ⟨hnul.1, by decide, h.noNul hnul.2.2⟩
  · exact (h.differs.cons (.inr ⟨rfl, startsInvalid_of_firstChar? hnone⟩)).append valid

/-- The loop ends, as each round leaves at least one byte behind. -/
theorem hopeForTheBest_repaired (str : List UInt8) :
    ∃ utf8, Repaired str utf8 ∧
      ∀ rounds > str.length, hopeForTheBest rounds str = some utf8 := by
  induction hlength : str.length using Nat.strongRecOn generalizing str with
  | ind length ih =>
    subst hlength
    cases str with
    | nil =>
      refine ⟨[], ⟨valid_nil, rfl, id, .refl []⟩, ?_⟩
      intro rounds hrounds
      obtain ⟨rounds, rfl⟩ := Nat.exists_eq_succ_of_ne_zero (Nat.ne_of_gt hrounds)
      rfl
    | cons byte bytes =>
      obtain ⟨valid, rest, hsplit, happend, hvalid, hnone⟩ := splitValid_spec (byte :: bytes)
      cases rest with
      | nil =>
        rw [List.append_nil] at happend
        refine ⟨byte :: bytes, ⟨happend ▸ hvalid, rfl, id, .refl _⟩, ?_⟩
        intro rounds hrounds
        obtain ⟨rounds, rfl⟩ := Nat.exists_eq_succ_of_ne_zero (Nat.ne_zero_of_lt hrounds)
        simp only [hopeForTheBest, hsplit]
      | cons _ rest =>
        have hshorter : rest.length < (byte :: bytes).length := by
          rw [happend, List.length_append, List.length_cons]
          omega
        obtain ⟨repaired, hrepaired, hended⟩ := ih rest.length hshorter rest rfl
        refine ⟨valid ++ questionMark :: repaired, ?_, ?_⟩
        · rw [happend]
          exact .round hvalid hnone hrepaired
        · intro rounds hrounds
          obtain ⟨rounds, rfl⟩ := Nat.exists_eq_succ_of_ne_zero (Nat.ne_zero_of_lt hrounds)
          simp only [hopeForTheBest, hsplit]
          rw [hended rounds (by omega), Option.map_some]

/-- A text that cannot be converted from the locale ends as valid UTF-8 of the same length, with a
question mark in the place of each byte that starts no valid sequence. -/
theorem convertToUtf8_repaired (gLocaleToUtf8 : CString → Option (List UInt8)) (str : CString)
    (hlocale : gLocaleToUtf8 str = none) :
    ∃ utf8, (∀ rounds > str.bytes.length, convertToUtf8 gLocaleToUtf8 rounds str = some utf8) ∧
      Valid utf8 ∧ 0 ∉ utf8 ∧ utf8.length = str.bytes.length ∧ DiffersAtMarks str.bytes utf8 := by
  obtain ⟨utf8, hrepaired, hended⟩ := hopeForTheBest_repaired str.bytes
  refine ⟨utf8, ?_, hrepaired.valid, hrepaired.noNul str.noNul, hrepaired.length_eq,
    hrepaired.differs⟩
  intro rounds hrounds
  rw [convertToUtf8, hlocale]
  exact hended rounds hrounds

/-- A conversion from UTF-8, which succeeds when the text is valid. -/
def localeUtf8 (str : CString) : Option (List UInt8) :=
  if (splitValid str.bytes).2 = [] then some str.bytes else none

/-- A text in Latin-1 where the locale is in UTF-8. -/
def motDePasse : CString :=
  { bytes := [0x63, 0x6C, 0xE9, 0x20, 0x3A, 0x20], noNul := by decide }

theorem convertToUtf8_repaired_motDePasse :
    localeUtf8 motDePasse = none ∧
      convertToUtf8 localeUtf8 7 motDePasse = some [0x63, 0x6C, 0x3F, 0x20, 0x3A, 0x20] ∧
      Valid [0x63, 0x6C, 0x3F, 0x20, 0x3A, 0x20] := by
  have hlocale : localeUtf8 motDePasse = none := by decide
  have hended : convertToUtf8 localeUtf8 7 motDePasse =
      some [0x63, 0x6C, 0x3F, 0x20, 0x3A, 0x20] := by decide
  obtain ⟨utf8, hrounds, hvalid, -⟩ := convertToUtf8_repaired localeUtf8 motDePasse hlocale
  rw [hrounds 7 (by decide)] at hended
  exact ⟨hlocale, hrounds 7 (by decide) ▸ hended, Option.some.inj hended ▸ hvalid⟩

end Gdm
