import Mathlib.Data.List.Basic

/-!
# Monitors

A monitor reads a history entry by entry and gives up at the first entry that
its protocol forbids.  What a monitor accepts it accepts prefix by prefix, so a
fact about one of its states can be read back into the history.
-/

universe u v

/-- A partial automaton over the entries of a history. -/
structure Monitor (α : Type u) (σ : Type v) where
  init : σ
  step : σ → α → Option σ

namespace Monitor

variable {α : Type u} {σ : Type v} (M : Monitor α σ)

/-- The state of the monitor after reading `h` from state `s`. -/
def readFrom (s : σ) (h : List α) : Option σ :=
  h.foldlM M.step s

/-- The state of the monitor after reading the whole history. -/
def read (h : List α) : Option σ :=
  M.readFrom M.init h

@[simp] theorem readFrom_nil (s : σ) : M.readFrom s [] = some s := rfl

@[simp] theorem read_nil : M.read [] = some M.init := rfl

theorem readFrom_cons (s : σ) (x : α) (h : List α) :
    M.readFrom s (x :: h) = (M.step s x).bind fun t => M.readFrom t h := rfl

theorem readFrom_append (s : σ) (h new : List α) :
    M.readFrom s (h ++ new) = (M.readFrom s h).bind fun t => M.readFrom t new :=
  List.foldlM_append

theorem read_append (h new : List α) :
    M.read (h ++ new) = (M.read h).bind fun t => M.readFrom t new :=
  M.readFrom_append _ h new

theorem read_concat (h : List α) (x : α) :
    M.read (h ++ [x]) = (M.read h).bind fun t => M.step t x := by
  rw [read_append]
  congr 1
  funext t
  cases hx : M.step t x <;> simp [readFrom_cons, hx]

/-- Entries that the monitor ignores leave its state as it is. -/
theorem readFrom_of_ignored {s : σ} {h : List α}
    (hignored : ∀ x ∈ h, M.step s x = some s) : M.readFrom s h = some s := by
  induction h with
  | nil => rfl
  | cons x h ih =>
    rw [readFrom_cons, hignored x (by simp)]
    exact ih fun y hy => hignored y (by simp [hy])

/-- A monitor that has read a history to the end has read each part of it. -/
theorem read_split {h new : List α} {t : σ} (hread : M.read (h ++ new) = some t) :
    ∃ s, M.read h = some s ∧ M.readFrom s new = some t := by
  rw [read_append, Option.bind_eq_some_iff] at hread
  exact hread

end Monitor
