import Mathlib.Data.List.Basic
import Mathlib.Logic.Function.Basic

/-!
# Paired pointers

Two kinds of objects point at each other by partial functions that are to stay
inverse to each other while single pointers are set and cleared.
-/

universe u v

/-- Two partial functions are inverse to each other. -/
def Paired {α : Type u} {β : Type v} (f : α → Option β) (g : β → Option α) : Prop :=
  ∀ a b, f a = some b ↔ g b = some a

namespace Paired

variable {α : Type u} {β : Type v} {f : α → Option β} {g : β → Option α}

theorem symm (h : Paired f g) : Paired g f :=
  fun b a => (h a b).symm

theorem injective (h : Paired f g) {a a' : α} {b : β} (ha : f a = some b)
    (ha' : f a' = some b) : a = a' :=
  Option.some.inj (((h a b).mp ha).symm.trans ((h a' b).mp ha'))

theorem eq_none_of_forall_ne (h : Paired f g) {b : β} (hb : ∀ a, f a ≠ some b) : g b = none := by
  cases hg : g b with
  | none => rfl
  | some a => exact absurd ((h a b).mpr hg) (hb a)

variable [DecidableEq α] [DecidableEq β]

/-- Two objects that point at each other are separated. -/
theorem unlink (h : Paired f g) {a : α} {b : β} (ha : f a = some b) :
    Paired (Function.update f a none) (Function.update g b none) := by
  intro a' b'
  by_cases haa : a' = a
  · subst haa
    by_cases hbb : b' = b
    · subst hbb
      simp
    · rw [Function.update_self, Function.update_of_ne hbb]
      refine ⟨fun hf => absurd hf (by simp), ?_⟩
      intro hg
      have hfa : f a' = some b' := (h a' b').mpr hg
      exact absurd (Option.some.inj (hfa.symm.trans ha)) hbb
  · rw [Function.update_of_ne haa]
    by_cases hbb : b' = b
    · subst hbb
      rw [Function.update_self]
      refine ⟨?_, fun hg => absurd hg (by simp)⟩
      intro hf
      exact absurd (h.injective hf ha) haa
    · rw [Function.update_of_ne hbb]
      exact h a' b'

/-- Two objects that point nowhere are joined. -/
theorem link (h : Paired f g) {a : α} {b : β} (ha : f a = none) (hb : g b = none) :
    Paired (Function.update f a (some b)) (Function.update g b (some a)) := by
  intro a' b'
  by_cases haa : a' = a
  · subst haa
    by_cases hbb : b' = b
    · subst hbb
      simp
    · rw [Function.update_self, Function.update_of_ne hbb]
      constructor
      · intro heq
        exact absurd (Option.some.inj heq).symm hbb
      · intro hg
        exact absurd ((h a' b').mpr hg) (by simp [ha])
  · rw [Function.update_of_ne haa]
    by_cases hbb : b' = b
    · subst hbb
      rw [Function.update_self]
      constructor
      · intro hf
        exact absurd ((h a' b').mp hf) (by simp [hb])
      · intro heq
        exact absurd (Option.some.inj heq).symm haa
    · rw [Function.update_of_ne hbb]
      exact h a' b'

end Paired
