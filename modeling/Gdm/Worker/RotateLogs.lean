import Gdm.Library.NumberedNames
import Gdm.Library.Shifting
import Mathlib.Algebra.Order.Ring.Nat

/-!
# The logs of earlier sessions

Before the log of a session is opened, the logs of the earlier ones get the next number
each, and the oldest one is lost.
-/

namespace Gdm

open Shifting

/-- `MAX_LOGS`, the number of copies of the log of a session. -/
def maxLogs : UInt32 := 5

/-- The names of the copies: the log itself has none of the numbers. -/
def logName (path : String) : Nat → String
  | 0 => path
  | i + 1 => path ++ "." ++ toString (i + 1)

/-- Where the loop of `rotate_logs` begins: an `int` is set to an unsigned number. -/
def firstIndex (nCopies : UInt32) : Int :=
  (nCopies - 1).toInt32.toInt

/-- `rotate_logs`, where files that are there can be renamed and unlinked. -/
def rotateLogs {α : Type*} (path : String) (nCopies : UInt32) (files : String → Option α) :
    String → Option α :=
  unlink (shift (logName path) (firstIndex nCopies).toNat files) path

/-- Every copy has what the one before it had, the log is not there, and no other file has
changed. -/
structure Rotated {α : Type*} (path : String) (nCopies : Nat) (before after : String → Option α) :
    Prop where
  copies : ∀ i, 1 ≤ i → i < nCopies → after (logName path i) = before (logName path (i - 1))
  log : after path = none
  others : ∀ other, other ≠ path → (∀ i, 1 ≤ i → i < nCopies → other ≠ logName path i) →
    after other = before other

theorem logName_succ_ne (path : String) (i : Nat) : logName path (i + 1) ≠ path :=
  NumberedNames.numbered_ne (by decide) (i + 1)

theorem logName_injective (path : String) : Function.Injective (logName path) := by
  intro i j h
  cases i with
  | zero =>
    cases j with
    | zero => rfl
    | succ j => exact absurd h.symm (logName_succ_ne path j)
  | succ i =>
    cases j with
    | zero => exact absurd h (logName_succ_ne path i)
    | succ j => exact NumberedNames.numbered_injective h

/-- The index is the last copy, unless that is too large for an `int`: then it is negative. -/
theorem firstIndex_toNat (nCopies : UInt32) :
    (firstIndex nCopies).toNat = if nCopies.toNat ≤ 2 ^ 31 then nCopies.toNat - 1 else 0 := by
  have hindex : firstIndex nCopies = (nCopies - 1).toBitVec.toInt := rfl
  have hbound : nCopies.toNat < 2 ^ 32 := nCopies.toNat_lt
  have hbefore : (nCopies - 1).toNat = (2 ^ 32 - 1 + nCopies.toNat) % 2 ^ 32 :=
    UInt32.toNat_sub nCopies 1
  rw [hindex, BitVec.toInt_eq_toNat_cond, UInt32.toNat_toBitVec, hbefore]
  split
  · split
    · omega
    · omega
  · split
    · omega
    · omega

theorem rotateLogs_small {α : Type*} {path : String} {nCopies : UInt32}
    (files : String → Option α) (hsmall : nCopies.toNat ≤ 2 ^ 31) :
    Rotated path nCopies.toNat files (rotateLogs path nCopies files) := by
  obtain ⟨hrow, -, hrest⟩ :=
    shift_eq files (logName_injective path) (firstIndex nCopies).toNat
  rw [firstIndex_toNat, if_pos hsmall] at hrow hrest
  unfold rotateLogs
  rw [firstIndex_toNat, if_pos hsmall]
  refine ⟨?_, unlink_self path, ?_⟩
  · intro i hpos hi
    obtain ⟨i, rfl⟩ := Nat.exists_eq_succ_of_ne_zero (Nat.ne_of_gt hpos)
    rw [unlink_of_ne (logName_succ_ne path i)]
    exact hrow i (by omega)
  · intro other hother hout
    rw [unlink_of_ne hother]
    refine hrest other fun i hi => ?_
    rcases Nat.eq_zero_or_pos i with rfl | hpos
    · exact hother
    · exact hout i hpos (by omega)

/-- With more copies than an `int` can count, nothing is renamed. -/
theorem rotateLogs_large {α : Type*} (path : String) {nCopies : UInt32}
    (files : String → Option α) (hlarge : ¬ nCopies.toNat ≤ 2 ^ 31) :
    rotateLogs path nCopies files = unlink files path := by
  unfold rotateLogs
  rw [firstIndex_toNat, if_neg hlarge]
  rfl

/-- The logs are rotated just when their number is no larger than an `int` can count, or when
there is no difference: all of them, the log included, have the same in them or are not
there. -/
theorem rotateLogs_rotated_iff {α : Type*} (path : String) (nCopies : UInt32)
    (files : String → Option α) :
    Rotated path nCopies.toNat files (rotateLogs path nCopies files) ↔
      nCopies.toNat ≤ 2 ^ 31 ∨ ∀ i < nCopies.toNat, files (logName path i) = files path := by
  by_cases hsmall : nCopies.toNat ≤ 2 ^ 31
  · exact iff_of_true (rotateLogs_small files hsmall) (.inl hsmall)
  · rw [rotateLogs_large path files hsmall]
    constructor
    · intro h
      right
      intro i hi
      induction i with
      | zero => rfl
      | succ i ih =>
        have hcopy := h.copies (i + 1) (Nat.succ_pos i) hi
        rw [unlink_of_ne (logName_succ_ne path i), Nat.add_sub_cancel] at hcopy
        exact hcopy.trans (ih (by omega))
    · rintro (hcount | hsame)
      · exact absurd hcount hsmall
      · refine ⟨?_, unlink_self path, fun other hother _ => unlink_of_ne hother⟩
        intro i hpos hi
        obtain ⟨i, rfl⟩ := Nat.exists_eq_succ_of_ne_zero (Nat.ne_of_gt hpos)
        rw [unlink_of_ne (logName_succ_ne path i), hsame _ hi, hsame _ (by omega)]

/-- As many logs as an `int` can count are rotated. -/
theorem rotateLogs_rotated {α : Type*} (path : String) (nCopies : UInt32)
    (files : String → Option α) (hcount : nCopies.toNat ≤ 2 ^ 31) :
    Rotated path nCopies.toNat files (rotateLogs path nCopies files) :=
  (rotateLogs_rotated_iff path nCopies files).mpr (.inl hcount)

/-- The logs of a session, two of which are there. -/
theorem rotateLogs_rotated_session :
    Rotated "session.log" 5
      (fun name => if name = "session.log" then some "third"
        else if name = "session.log.1" then some "second" else none)
      (rotateLogs "session.log" maxLogs fun name => if name = "session.log" then some "third"
        else if name = "session.log.1" then some "second" else none) :=
  rotateLogs_rotated "session.log" maxLogs _ (by decide)

/-- With one copy more than an `int` can count the log itself is lost. -/
theorem rotateLogs_lost :
    ¬ ∀ (path : String) (nCopies : UInt32) (files : String → Option String),
      Rotated path nCopies.toNat files (rotateLogs path nCopies files) := by
  intro h
  have hlast := (h "session.log" 2147483649
    fun name => if name = "session.log" then some "gnome-session started" else none).copies 1
      (Nat.le_refl 1) (by decide)
  have hlost : (rotateLogs "session.log" 2147483649 fun name =>
      if name = "session.log" then some "gnome-session started" else none)
        (logName "session.log" 1) = none := by
    rw [rotateLogs_large _ _ (by decide)]
    decide
  rw [hlost] at hlast
  cases hlast

end Gdm
