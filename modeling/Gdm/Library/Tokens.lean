import Mathlib.Data.List.Basic
import Mathlib.Data.List.TakeWhile

/-!
# Tokens between separators

A text is taken apart at runs of separators.  A text that begins with a separator has an empty
first token; no other token is empty.
-/

namespace Tokens

variable {α : Type*} (sep : α → Bool)

/-- What is behind the first token and the separators that end it. -/
def behindToken (p : List α) : List α :=
  (p.dropWhile (!sep ·)).dropWhile sep

variable {sep}

theorem length_behindToken_lt (c : α) (p : List α) :
    (behindToken sep (c :: p)).length < (c :: p).length := by
  have hle (q : List α) (f : α → Bool) : (q.dropWhile f).length ≤ q.length :=
    (List.dropWhile_suffix f).length_le
  by_cases hc : sep c
  · have := hle p sep
    simp only [behindToken, List.dropWhile_cons, hc, Bool.not_true, Bool.false_eq_true, if_false,
      if_true, List.length_cons]
    omega
  · have hfirst := hle p (!sep ·)
    have hsecond := hle (p.dropWhile (!sep ·)) sep
    simp only [behindToken, List.dropWhile_cons, hc, Bool.not_false, if_true, List.length_cons]
    omega

variable (sep) in
/-- The tokens of a text. -/
def tokens : List α → List (List α)
  | [] => []
  | c :: p => (c :: p).takeWhile (!sep ·) :: tokens (behindToken sep (c :: p))
termination_by p => p.length
decreasing_by exact length_behindToken_lt c p

@[simp] theorem tokens_nil : tokens sep [] = [] := by
  rw [tokens]

theorem tokens_of_ne_nil {p : List α} (h : p ≠ []) :
    tokens sep p = p.takeWhile (!sep ·) :: tokens sep (behindToken sep p) := by
  obtain ⟨c, p, rfl⟩ := List.exists_cons_of_ne_nil h
  rw [tokens]

variable {name : List α}

theorem tokens_eq_singleton (hne : name ≠ []) (hsep : ∀ c ∈ name, sep c = false) :
    tokens sep name = [name] := by
  have hall : ∀ c ∈ name, (!sep c) = true := fun c hc => by rw [hsep c hc]; rfl
  rw [tokens_of_ne_nil hne, List.takeWhile_eq_self_iff.mpr hall, behindToken,
    List.dropWhile_eq_nil_iff.mpr hall, List.dropWhile_nil, tokens_nil]

/-- The first token is ended by separators; what is behind them is taken apart for itself. -/
theorem tokens_append_cons (hsep : ∀ c ∈ name, sep c = false) {s : α} (hs : sep s = true)
    {rest : List α} (hrest : ∀ c ∈ rest.head?, sep c = false) :
    tokens sep (name ++ s :: rest) = name :: tokens sep rest := by
  have hall : ∀ c ∈ name, (!sep c) = true := fun c hc => by rw [hsep c hc]; rfl
  have hstop : rest.dropWhile sep = rest := by
    cases rest with
    | nil => rfl
    | cons c rest => rw [List.dropWhile_cons_of_neg (by simp [hrest c rfl])]
  have hbehind : behindToken sep (name ++ s :: rest) = rest := by
    rw [behindToken, List.dropWhile_append_of_pos hall, List.dropWhile_cons_of_neg (by simp [hs]),
      List.dropWhile_cons_of_pos hs, hstop]
  rw [tokens_of_ne_nil (by simp), hbehind, List.takeWhile_append_of_pos hall,
    List.takeWhile_cons_of_neg (by simp [hs]), List.append_nil]

/-- Names that are joined by a separator are the tokens of what they are joined to. -/
theorem tokens_intercalate {names : List (List α)}
    (h : ∀ name ∈ names, name ≠ [] ∧ ∀ c ∈ name, sep c = false) {s : α} (hs : sep s = true) :
    tokens sep ([s].intercalate names) = names := by
  induction names with
  | nil => simp
  | cons name names ih =>
    obtain ⟨hne, hsep⟩ := h name (by simp)
    cases names with
    | nil => simpa using tokens_eq_singleton hne hsep
    | cons next names =>
      have hnext := h next (by simp)
      have hhead : ∀ c ∈ ([s].intercalate (next :: names)).head?, sep c = false := by
        obtain ⟨c, next, rfl⟩ := List.exists_cons_of_ne_nil hnext.1
        intro d hd
        have hd' : c = d := by
          cases names <;> simpa [List.intercalate] using hd
        exact hd' ▸ hnext.2 c (by simp)
      have heq : [s].intercalate (name :: next :: names) =
          name ++ s :: [s].intercalate (next :: names) := by
        simp [List.intercalate]
      rw [heq, tokens_append_cons hsep hs hhead,
        ih fun name hmem => h name (List.mem_cons_of_mem _ hmem)]

end Tokens
