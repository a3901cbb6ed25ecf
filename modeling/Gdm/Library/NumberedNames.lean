import Mathlib.Tactic.Common

/-!
# Names with numbers

A name with a number is a base, a mark and the number in decimal.  Such names differ when
their numbers do, and none of them is the base.
-/

namespace NumberedNames

theorem toString_injective {i j : Nat} (h : toString i = toString j) : i = j := by
  have hdigits : Nat.toDigits 10 i = Nat.toDigits 10 j := by
    rw [← Nat.toList_repr, ← Nat.toList_repr]
    exact congrArg String.toList h
  calc
    i = Nat.ofDigitChars 10 (Nat.toDigits 10 i) 0 := Nat.ofDigitChars_ten_toDigits.symm
    _ = Nat.ofDigitChars 10 (Nat.toDigits 10 j) 0 := by rw [hdigits]
    _ = j := Nat.ofDigitChars_ten_toDigits

variable {base mark : String}

theorem numbered_injective {i j : Nat}
    (h : base ++ mark ++ toString i = base ++ mark ++ toString j) : i = j := by
  have hchars := congrArg String.toList h
  simp only [String.toList_append, List.append_cancel_left_eq, String.toList_inj] at hchars
  exact toString_injective hchars

/-- A name with a number is longer than the one without. -/
theorem numbered_ne (hmark : mark.length ≠ 0) (i : Nat) : base ++ mark ++ toString i ≠ base := by
  intro hname
  have hlength := congrArg String.length hname
  simp only [String.length_append] at hlength
  omega

end NumberedNames
