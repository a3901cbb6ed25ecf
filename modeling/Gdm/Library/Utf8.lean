import Mathlib.Tactic.Common

/-!
# Bytes in UTF-8

Bytes are split behind their longest beginning that is valid: what is left is nothing, or
begins with no character.
-/

namespace Utf8

/-- The bytes are characters in UTF-8. -/
def Valid (bytes : List UInt8) : Prop :=
  bytes.toByteArray.IsValidUTF8

/-- The character that the bytes begin with. -/
def firstChar? (bytes : List UInt8) : Option Char :=
  bytes.toByteArray.utf8DecodeChar? 0

variable {bytes left right : List UInt8} {c : Char}

theorem toByteArray_data_toList (array : ByteArray) : array.data.toList.toByteArray = array := by
  apply ByteArray.ext
  simp

theorem toByteArray_injective (h : left.toByteArray = right.toByteArray) : left = right := by
  have hdata := congrArg (fun array => array.data.toList) h
  simpa using hdata

/-! ## Characters -/

theorem valid_nil : Valid [] :=
  ByteArray.isValidUTF8_empty

theorem valid_utf8EncodeChar (c : Char) : Valid (String.utf8EncodeChar c) :=
  Char.isValidUTF8_toByteArray_utf8EncodeChar

theorem Valid.append (hleft : Valid left) (hright : Valid right) : Valid (left ++ right) := by
  unfold Valid
  rw [List.toByteArray_append]
  exact ByteArray.IsValidUTF8.append hleft hright

theorem firstChar?_eq_some_iff :
    firstChar? bytes = some c ↔ ∃ rest, bytes = String.utf8EncodeChar c ++ rest := by
  constructor
  · intro h
    obtain ⟨rest, hrest⟩ := ByteArray.exists_of_utf8DecodeChar?_eq_some h
    refine ⟨rest.data.toList, toByteArray_injective ?_⟩
    rw [hrest, List.toByteArray_append, toByteArray_data_toList]
  · rintro ⟨rest, rfl⟩
    rw [firstChar?, List.toByteArray_append]
    exact ByteArray.utf8DecodeChar?_utf8EncodeChar_append

/-- No beginning of the bytes is valid, but for the empty one. -/
def StartsInvalid (bytes : List UInt8) : Prop :=
  ∀ start, start <+: bytes → start ≠ [] → ¬ Valid start

theorem startsInvalid_of_firstChar? (h : firstChar? bytes = none) : StartsInvalid bytes := by
  rintro start ⟨rest, rfl⟩ hne ⟨chars, hchars⟩
  cases chars with
  | nil => exact hne (toByteArray_injective (by rw [hchars, List.utf8Encode_nil]; rfl))
  | cons c chars =>
    rw [List.utf8Encode_cons, List.utf8Encode_singleton] at hchars
    have hfirst : firstChar? (start ++ rest) = some c := by
      rw [firstChar?, List.toByteArray_append, hchars, ByteArray.append_assoc]
      exact ByteArray.utf8DecodeChar?_utf8EncodeChar_append
    rw [h] at hfirst
    cases hfirst

/-! ## Texts -/

/-- The bytes of the characters. -/
def encode (chars : List Char) : List UInt8 :=
  chars.flatMap String.utf8EncodeChar

@[simp]
theorem encode_nil : encode [] = [] :=
  rfl

@[simp]
theorem encode_cons (c : Char) (chars : List Char) :
    encode (c :: chars) = String.utf8EncodeChar c ++ encode chars :=
  List.flatMap_cons

@[simp]
theorem encode_append (chars chars' : List Char) :
    encode (chars ++ chars') = encode chars ++ encode chars' :=
  List.flatMap_append

theorem firstChar?_encode_cons (c : Char) (chars : List Char) :
    firstChar? (encode (c :: chars)) = some c :=
  firstChar?_eq_some_iff.mpr ⟨encode chars, encode_cons c chars⟩

theorem encode_injective : Function.Injective encode := by
  intro chars
  induction chars with
  | nil =>
    intro chars' h
    cases chars' with
    | nil => rfl
    | cons c rest =>
      have hfirst := firstChar?_encode_cons c rest
      rw [← h] at hfirst
      cases hfirst
  | cons c rest ih =>
    intro chars' h
    cases chars' with
    | nil =>
      have hfirst := firstChar?_encode_cons c rest
      rw [h] at hfirst
      cases hfirst
    | cons c' rest' =>
      have hfirst := firstChar?_encode_cons c rest
      rw [h, firstChar?_encode_cons] at hfirst
      obtain rfl := Option.some.inj hfirst
      rw [encode_cons, encode_cons] at h
      rw [ih (List.append_cancel_left h)]

/-- A character in ASCII is one byte. -/
theorem utf8EncodeChar_of_lt (hc : c.toNat < 0x80) :
    String.utf8EncodeChar c = [UInt8.ofNat c.toNat] := by
  unfold String.utf8EncodeChar
  exact if_pos (Nat.le_of_lt_succ hc)

/-- The bytes of the other characters are not in ASCII. -/
theorem le_of_mem_utf8EncodeChar (hc : 0x80 ≤ c.toNat) :
    ∀ byte ∈ String.utf8EncodeChar c, 0x80 ≤ byte.toNat := by
  change 0x80 ≤ c.val.toNat at hc
  unfold String.utf8EncodeChar
  rw [if_neg (by omega)]
  split
  · simp only [List.forall_mem_cons, UInt8.toNat_ofNat']
    refine ⟨by omega, by omega, by simp⟩
  · split
    · simp only [List.forall_mem_cons, UInt8.toNat_ofNat']
      refine ⟨by omega, by omega, by omega, by simp⟩
    · simp only [List.forall_mem_cons, UInt8.toNat_ofNat']
      refine ⟨by omega, by omega, by omega, by omega, by simp⟩

/-- A character in ASCII is in a text when its byte is in the bytes. -/
theorem mem_encode_iff (hc : c.toNat < 0x80) (chars : List Char) :
    UInt8.ofNat c.toNat ∈ encode chars ↔ c ∈ chars := by
  induction chars with
  | nil => simp
  | cons other chars ih =>
    rw [encode_cons, List.mem_append, ih, List.mem_cons]
    apply or_congr_left
    by_cases hother : other.toNat < 0x80
    · rw [utf8EncodeChar_of_lt hother, List.mem_singleton, ← UInt8.toNat_inj,
        UInt8.toNat_ofNat', UInt8.toNat_ofNat', Nat.mod_eq_of_lt (by omega),
        Nat.mod_eq_of_lt (by omega)]
      exact Char.toNat_inj
    · constructor
      · intro hmem
        have hle := le_of_mem_utf8EncodeChar (Nat.le_of_not_lt hother) _ hmem
        rw [UInt8.toNat_ofNat', Nat.mod_eq_of_lt (by omega)] at hle
        omega
      · rintro rfl
        exact absurd hc hother

/-- A character in ASCII is replaced by another one where its byte is. -/
theorem encode_replace {c' : Char} (hc : c.toNat < 0x80) (hc' : c'.toNat < 0x80)
    (chars : List Char) :
    encode (chars.map fun other => if other = c then c' else other) =
      (encode chars).map fun byte =>
        if byte = UInt8.ofNat c.toNat then UInt8.ofNat c'.toNat else byte := by
  induction chars with
  | nil => rfl
  | cons other chars ih =>
    rw [List.map_cons, encode_cons, encode_cons, List.map_append, ih]
    congr 1
    have hiff := mem_encode_iff hc [other]
    rw [encode_cons, encode_nil, List.append_nil, List.mem_singleton] at hiff
    by_cases hother : other = c
    · rw [if_pos hother, hother, utf8EncodeChar_of_lt hc, utf8EncodeChar_of_lt hc',
        List.map_singleton, if_pos rfl]
    · rw [if_neg hother]
      have hkeep : ∀ byte ∈ String.utf8EncodeChar other,
          (if byte = UInt8.ofNat c.toNat then UInt8.ofNat c'.toNat else byte) = byte := by
        intro byte hbyte
        apply if_neg
        rintro rfl
        exact hother (hiff.mp hbyte).symm
      exact ((List.map_congr_left hkeep).trans (List.map_id' _)).symm

/-! ## The valid beginning -/

/-- The valid beginning of the bytes and what follows it, for no more than so many characters. -/
def splitWithin : Nat → List UInt8 → List UInt8 × List UInt8
  | 0, bytes => ([], bytes)
  | n + 1, bytes =>
    match firstChar? bytes with
    | none => ([], bytes)
    | some c =>
      let (valid, rest) := splitWithin n (bytes.drop c.utf8Size)
      (String.utf8EncodeChar c ++ valid, rest)

/-- The longest beginning of the bytes that is valid, and what follows it. -/
def splitValid (bytes : List UInt8) : List UInt8 × List UInt8 :=
  splitWithin bytes.length bytes

theorem splitWithin_spec (n : Nat) (hn : bytes.length ≤ n) :
    bytes = (splitWithin n bytes).1 ++ (splitWithin n bytes).2 ∧ Valid (splitWithin n bytes).1 ∧
      firstChar? (splitWithin n bytes).2 = none := by
  induction n generalizing bytes with
  | zero =>
    obtain rfl := List.eq_nil_of_length_eq_zero (Nat.le_zero.mp hn)
    exact ⟨rfl, valid_nil, by decide⟩
  | succ n ih =>
    rw [splitWithin]
    split
    · rename_i hnone
      exact ⟨rfl, valid_nil, hnone⟩
    · rename_i c hsome
      obtain ⟨rest, rfl⟩ := firstChar?_eq_some_iff.mp hsome
      have hpos := c.utf8Size_pos
      have hdrop : (String.utf8EncodeChar c ++ rest).drop c.utf8Size = rest :=
        List.drop_left' (String.length_utf8EncodeChar c)
      rw [List.length_append, String.length_utf8EncodeChar] at hn
      obtain ⟨happend, hvalid, hnone⟩ := @ih rest (by omega)
      rw [hdrop]
      refine ⟨?_, (valid_utf8EncodeChar c).append hvalid, hnone⟩
      rw [List.append_assoc, ← happend]

theorem splitValid_spec (bytes : List UInt8) :
    ∃ valid rest, splitValid bytes = (valid, rest) ∧ bytes = valid ++ rest ∧ Valid valid ∧
      firstChar? rest = none := by
  obtain ⟨happend, hvalid, hnone⟩ := splitWithin_spec bytes.length (Nat.le_refl bytes.length)
  exact ⟨_, _, rfl, happend, hvalid, hnone⟩

end Utf8
