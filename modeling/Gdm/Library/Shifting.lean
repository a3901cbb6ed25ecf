import Mathlib.Logic.Function.Basic

/-!
# Shifting files along their names

Files are told by their names.  A rename takes the place of what had the new name; a file
that is not there is neither unlinked nor renamed.  When each file of a row takes the name
of the one after it, the last one first, then no file is lost but the one that had the last
name.
-/

universe u v

namespace Shifting

variable {κ : Type u} {α : Type v} [DecidableEq κ]

/-- The file is there no more. -/
def unlink (files : κ → Option α) (name : κ) : κ → Option α :=
  Function.update files name none

/-- The file gets another name. -/
def rename (files : κ → Option α) (old new : κ) : κ → Option α :=
  match files old with
  | none => files
  | some content => Function.update (Function.update files old none) new (some content)

/-- Each of the first files gets the name of the next one, from the last file to the first. -/
def shift (name : Nat → κ) : Nat → (κ → Option α) → κ → Option α
  | 0, files => files
  | i + 1, files => shift name i (rename (unlink files (name (i + 1))) (name i) (name (i + 1)))

variable {files : κ → Option α} {name : Nat → κ}

@[simp] theorem unlink_self (file : κ) : unlink files file file = none :=
  Function.update_self ..

theorem unlink_of_ne {file other : κ} (h : other ≠ file) : unlink files file other = files other :=
  Function.update_of_ne h ..

/-- What is in the place of the new name is lost first. -/
theorem rename_unlink (files : κ → Option α) {old new : κ} (hne : old ≠ new) :
    rename (unlink files new) old new old = none ∧
      rename (unlink files new) old new new = files old ∧
      ∀ other, other ≠ old → other ≠ new →
        rename (unlink files new) old new other = files other := by
  unfold rename
  rw [unlink_of_ne hne]
  cases hold : files old with
  | none =>
    refine ⟨?_, unlink_self new, fun other _ hnew => unlink_of_ne hnew⟩
    exact (unlink_of_ne hne).trans hold
  | some content =>
    dsimp only
    refine ⟨?_, Function.update_self .., ?_⟩
    · rw [Function.update_of_ne hne, Function.update_self]
    · intro other hother hnew
      rw [Function.update_of_ne hnew, Function.update_of_ne hother]
      exact unlink_of_ne hnew

/-- Every file of the row has what the one before it had, the first name is free when there was
a next one, and no other file has changed. -/
theorem shift_eq (files : κ → Option α) (hname : Function.Injective name) (n : Nat) :
    (∀ i, i < n → shift name n files (name (i + 1)) = files (name i)) ∧
      (0 < n → shift name n files (name 0) = none) ∧
      ∀ other, (∀ i ≤ n, other ≠ name i) → shift name n files other = files other := by
  induction n generalizing files with
  | zero => exact ⟨fun i hi => absurd hi (Nat.not_lt_zero i), nofun, fun _ _ => rfl⟩
  | succ n ih =>
    have hne : ∀ {i j}, i ≠ j → name i ≠ name j := fun hij heq => hij (hname heq)
    obtain ⟨hold, hnew, hother⟩ := rename_unlink files (hne (Nat.ne_add_one n))
    obtain ⟨hrow, hfirst, hrest⟩ :=
      @ih (rename (unlink files (name (n + 1))) (name n) (name (n + 1)))
    refine ⟨?_, ?_, ?_⟩
    · intro i hi
      rcases Nat.lt_succ_iff_lt_or_eq.mp hi with hbefore | rfl
      · refine (hrow i hbefore).trans (hother _ (hne ?_) (hne ?_))
        · omega
        · omega
      · -- the later renames leave the last name alone
        refine (hrest _ fun j hj => hne ?_).trans hnew
        omega
    · intro _
      rcases Nat.eq_zero_or_pos n with rfl | hpos
      · exact hold
      · exact hfirst hpos
    · intro other hout
      refine (hrest other fun i hi => hout i (by omega)).trans (hother other ?_ ?_)
      · exact hout n (by omega)
      · exact hout (n + 1) (by omega)

end Shifting
