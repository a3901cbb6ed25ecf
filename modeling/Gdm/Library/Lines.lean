import Gdm.Library.Separated
import Mathlib.Data.List.DropRight

/-!
# Lists of lines

A text is the list of what stands between its separators.  Lines at the end that count as
empty do not belong to the list, and two lists agree about some lines when these are the same
ones in the same order, up to such lines at the end.
-/

universe u

namespace Lines

variable {α : Type u}

section Text

variable [DecidableEq α] {sep : α}

theorem not_mem_of_mem_splitOn (text : List α) : ∀ line ∈ text.splitOn sep, sep ∉ line := by
  induction text using Separated.induction sep with
  | single field hfield =>
    intro line hline
    rw [Separated.splitOn_single hfield, List.mem_singleton] at hline
    exact hline ▸ hfield
  | cons field rest hfield ih =>
    intro line hline
    rw [Separated.splitOn_field hfield] at hline
    rcases List.mem_cons.mp hline with rfl | hrest
    · exact hfield
    · exact ih line hrest

theorem not_mem_of_not_mem_text {x : α} (text : List α) (htext : x ∉ text) :
    ∀ line ∈ text.splitOn sep, x ∉ line := by
  induction text using Separated.induction sep with
  | single field hfield =>
    intro line hline
    rw [Separated.splitOn_single hfield, List.mem_singleton] at hline
    exact hline ▸ htext
  | cons field rest hfield ih =>
    rw [List.mem_append, List.mem_cons, not_or, not_or] at htext
    intro line hline
    rw [Separated.splitOn_field hfield] at hline
    rcases List.mem_cons.mp hline with rfl | hrest
    · exact htext.1
    · exact ih htext.2.2 line hrest

omit [DecidableEq α] in
/-- What is in none of the lines is not in the text. -/
theorem not_mem_intercalate {x : α} {lines : List (List α)} (hsep : x ≠ sep)
    (hlines : ∀ line ∈ lines, x ∉ line) : x ∉ [sep].intercalate lines := by
  induction lines with
  | nil => simp
  | cons line lines ih =>
    cases lines with
    | nil => simpa using hlines line (by simp)
    | cons next lines =>
      rw [List.intercalate_cons_cons]
      have hrest := ih fun other hother => hlines other (List.mem_cons_of_mem _ hother)
      simp only [List.mem_append, List.mem_singleton, not_or]
      exact ⟨⟨hlines line (by simp), hsep⟩, hrest⟩

end Text

/-! ## The lines at the end -/

section Rest

variable {p : α → Bool} {left right : List α}

theorem rdropWhile_append_of_forall (h : ∀ x ∈ right, p x = true) :
    (left ++ right).rdropWhile p = left.rdropWhile p := by
  induction right using List.reverseRecOn with
  | nil => rw [List.append_nil]
  | append_singleton right x ih =>
    rw [← List.append_assoc, List.rdropWhile_concat_pos p _ x (h x (by simp))]
    exact ih fun y hy => h y (by simp [hy])

/-- A line that does not count as empty is not dropped. -/
theorem mem_rdropWhile_iff {x : α} (hx : p x = false) (lines : List α) :
    x ∈ lines.rdropWhile p ↔ x ∈ lines := by
  constructor
  · exact fun h => (List.rdropWhile_prefix p lines).subset h
  · intro h
    rw [← List.rdropWhile_append_rtakeWhile (p := p) (l := lines)] at h
    rcases List.mem_append.mp h with hkept | hdropped
    · exact hkept
    · rw [List.mem_rtakeWhile_imp hdropped] at hx
      cases hx

variable [BEq α] [LawfulBEq α] {touched : List α}

omit [LawfulBEq α] in
theorem count_rdropWhile_add (x : α) (lines : List α) :
    (lines.rdropWhile p).count x + (lines.rtakeWhile p).count x = lines.count x := by
  rw [← List.count_append, List.rdropWhile_append_rtakeWhile]

theorem count_rdropWhile {x : α} (hx : p x = false) (lines : List α) :
    (lines.rdropWhile p).count x = lines.count x := by
  have hdropped : (lines.rtakeWhile p).count x = 0 := by
    rw [List.count_eq_zero]
    intro hmem
    rw [List.mem_rtakeWhile_imp hmem] at hx
    cases hx
  rw [← count_rdropWhile_add (p := p) x lines, hdropped, Nat.add_zero]

/-- The lines but for those that are touched, up to those at the end that count as empty. -/
def rest (p : α → Bool) (touched lines : List α) : List α :=
  (lines.filter (· ∉ touched)).rdropWhile p

theorem rest_append_of_forall (h : ∀ x ∈ right, x ∈ touched ∨ p x = true) :
    rest p touched (left ++ right) = rest p touched left := by
  unfold rest
  rw [List.filter_append]
  apply rdropWhile_append_of_forall
  intro x hx
  rw [List.mem_filter, decide_eq_true_eq] at hx
  exact (h x hx.1).resolve_left hx.2

/-- The lines at the end that are dropped count as empty. -/
theorem rest_rdropWhile {q : α → Bool} {lines : List α}
    (h : ∀ x ∈ lines.rtakeWhile q, p x = true) :
    rest p touched (lines.rdropWhile q) = rest p touched lines := by
  calc
    rest p touched (lines.rdropWhile q) =
        rest p touched (lines.rdropWhile q ++ lines.rtakeWhile q) :=
      (rest_append_of_forall fun x hx => .inr (h x hx)).symm
    _ = rest p touched lines := by rw [List.rdropWhile_append_rtakeWhile]

theorem rest_erase {x : α} (hx : x ∈ touched) (lines : List α) :
    rest p touched (lines.erase x) = rest p touched lines := by
  have hfilter : (lines.erase x).filter (· ∉ touched) = lines.filter (· ∉ touched) := by
    induction lines with
    | nil => rfl
    | cons line lines ih =>
      rw [List.erase_cons]
      split
      · rename_i heq
        have htouched : line ∈ touched := eq_of_beq heq ▸ hx
        rw [List.filter_cons_of_neg (by simpa using htouched)]
      · rw [List.filter_cons, List.filter_cons, ih]
  rw [rest, hfilter, rest]

theorem count_rest {x : α} (hx : p x = false) (htouched : x ∉ touched) (lines : List α) :
    (rest p touched lines).count x = lines.count x := by
  rw [rest, count_rdropWhile hx, List.count_filter (by simpa using htouched)]

end Rest

end Lines
