import Mathlib.Data.List.TakeWhile

/-!
# Texts with separators

A text is either without separators, or a first field, a separator and a text behind it.  A scanner
that stops at each separator is told by what it does in these two cases.
-/

universe u

namespace Separated

variable {α : Type u}

/-- Induction on the fields of a text. -/
theorem induction {P : List α → Prop} (sep : α) (single : ∀ field, sep ∉ field → P field)
    (cons : ∀ field rest, sep ∉ field → P rest → P (field ++ sep :: rest)) (text : List α) :
    P text := by
  by_cases hsep : sep ∈ text
  · obtain ⟨field, rest, rfl, hfield⟩ := List.eq_append_cons_of_mem hsep
    exact cons field rest hfield (induction sep single cons rest)
  · exact single text hsep
termination_by text.length
decreasing_by
  subst_vars
  simp only [List.length_append, List.length_cons]
  omega

variable [DecidableEq α]

theorem forall_ne {sep : α} {field : List α} (hfield : sep ∉ field) :
    ∀ x ∈ field, decide (x ≠ sep) = true := by
  intro x hx
  have hne : x ≠ sep := fun heq => hfield (heq ▸ hx)
  simpa using hne

theorem takeWhile_field {sep : α} {field : List α} (hfield : sep ∉ field) (rest : List α) :
    (field ++ sep :: rest).takeWhile (· ≠ sep) = field := by
  rw [List.takeWhile_append_of_pos (forall_ne hfield)]
  simp

theorem takeWhile_single {sep : α} {field : List α} (hfield : sep ∉ field) :
    field.takeWhile (· ≠ sep) = field :=
  List.takeWhile_eq_self_iff.mpr (forall_ne hfield)

theorem dropWhile_field {sep : α} {field : List α} (hfield : sep ∉ field) (rest : List α) :
    (field ++ sep :: rest).dropWhile (· ≠ sep) = sep :: rest := by
  rw [List.dropWhile_append_of_pos (forall_ne hfield)]
  simp

theorem dropWhile_single {sep : α} {field : List α} (hfield : sep ∉ field) :
    field.dropWhile (· ≠ sep) = [] :=
  List.dropWhile_eq_nil_iff.mpr (forall_ne hfield)

/-- What is before the first separator, and what is behind it. -/
theorem field_unique {sep : α} {field field' rest rest' : List α} (hfield : sep ∉ field)
    (hfield' : sep ∉ field') (heq : field ++ sep :: rest = field' ++ sep :: rest') :
    field = field' ∧ rest = rest' := by
  obtain rfl : field = field' := by
    rw [← takeWhile_field hfield rest, heq, takeWhile_field hfield']
  exact ⟨rfl, List.tail_eq_of_cons_eq (List.append_cancel_left heq)⟩

theorem splitOn_field {sep : α} {field : List α} (hfield : sep ∉ field) (rest : List α) :
    (field ++ sep :: rest).splitOn sep = field :: rest.splitOn sep :=
  List.splitOn_append_cons_self_of_not_mem hfield rest

theorem splitOn_single {sep : α} {field : List α} (hfield : sep ∉ field) :
    field.splitOn sep = [field] :=
  List.splitOn_eq_singleton hfield

end Separated
