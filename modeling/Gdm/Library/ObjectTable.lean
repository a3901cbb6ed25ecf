import Mathlib.Data.List.Basic

/-!
# Tables of objects

A table keeps every object that has been created under the number it got, and grows at
its end.  What a step does to a table is said object by object: how the objects that were
there have changed, and what the new ones are like.
-/

universe u

namespace ObjectTable

variable {α : Type u} {R : α → α → Prop} {N : α → Prop} {l l' l'' : List α}

/-- The objects of `l` are in `l'`, changed as `R` says, and those that are new meet `N`. -/
structure Evolves (R : α → α → Prop) (N : α → Prop) (l l' : List α) : Prop where
  kept : ∀ (i : ℕ) (x : α), l[i]? = some x → ∃ y, l'[i]? = some y ∧ R x y
  added : ∀ (i : ℕ) (y : α), l'[i]? = some y → l[i]? = none → N y

theorem Evolves.refl (hrefl : ∀ x, R x x) (N : α → Prop) (l : List α) : Evolves R N l l := by
  constructor
  · intro i x hx
    exact ⟨x, hx, hrefl x⟩
  · intro i y hy hnone
    cases hy.symm.trans hnone

theorem Evolves.trans (htrans : ∀ {x y z}, R x y → R y z → R x z)
    (hadded : ∀ {x y}, N x → R x y → N y) (h : Evolves R N l l') (h' : Evolves R N l' l'') :
    Evolves R N l l'' := by
  constructor
  · intro i x hx
    obtain ⟨y, hy, hxy⟩ := h.kept i x hx
    obtain ⟨z, hz, hyz⟩ := h'.kept i y hy
    exact ⟨z, hz, htrans hxy hyz⟩
  · intro i z hz hnone
    cases hy : l'[i]? with
    | none => exact h'.added i z hz hy
    | some y =>
      obtain ⟨z', hz', hyz⟩ := h'.kept i y hy
      obtain rfl := Option.some.inj (hz'.symm.trans hz)
      exact hadded (h.added i y hy hnone) hyz

/-- One object is changed. -/
theorem Evolves.modify (hrefl : ∀ x, R x x) (N : α → Prop) {d : ℕ} {f : α → α}
    (h : ∀ x, l[d]? = some x → R x (f x)) : Evolves R N l (l.modify d f) := by
  constructor
  · intro i x hx
    by_cases hi : d = i
    · subst hi
      refine ⟨f x, ?_, h x hx⟩
      rw [List.getElem?_modify_eq, hx]
      rfl
    · refine ⟨x, ?_, hrefl x⟩
      rw [List.getElem?_modify_ne f l hi]
      exact hx
  · intro i y hy hnone
    rw [List.getElem?_modify, hnone] at hy
    cases hy

/-- All objects are changed. -/
theorem Evolves.map (N : α → Prop) {f : α → α} (h : ∀ x, R x (f x)) :
    Evolves R N l (l.map f) := by
  constructor
  · intro i x hx
    exact ⟨f x, by rw [List.getElem?_map, hx]; rfl, h x⟩
  · intro i y hy hnone
    rw [List.getElem?_map, hnone] at hy
    cases hy

/-- One object is created. -/
theorem Evolves.append (hrefl : ∀ x, R x x) {new : α} (h : N new) :
    Evolves R N l (l ++ [new]) := by
  constructor
  · intro i x hx
    refine ⟨x, ?_, hrefl x⟩
    rw [List.getElem?_append_left (List.getElem?_eq_some_iff.mp hx).1]
    exact hx
  · intro i y hy hnone
    rw [List.getElem?_append_right (List.getElem?_eq_none_iff.mp hnone)] at hy
    obtain rfl := List.mem_singleton.mp (List.mem_of_getElem? hy)
    exact h

/-- The object that has been created last is changed. -/
theorem modify_concat (l : List α) (x : α) (f : α → α) :
    (l ++ [x]).modify l.length f = l ++ [f x] := by
  induction l with
  | nil => rfl
  | cons a l ih => simp [ih]

/-- How many objects meet a predicate, before and after one of them is changed. -/
theorem countP_modify (p : α → Bool) (f : α → α) {d : ℕ} {x : α} (hx : l[d]? = some x) :
    (l.modify d f).countP p + (if p x then 1 else 0) =
      l.countP p + if p (f x) then 1 else 0 := by
  induction l generalizing d with
  | nil => cases hx
  | cons a l ih =>
    cases d with
    | zero =>
      obtain rfl := Option.some.inj hx
      rw [List.modify_zero_cons, List.countP_cons, List.countP_cons]
      omega
    | succ d =>
      rw [List.modify_succ_cons, List.countP_cons, List.countP_cons]
      have htail := ih hx
      omega

theorem Evolves.mono {N' : α → Prop} (h : Evolves R N l l') (hN : ∀ x, N x → N' x) :
    Evolves R N' l l' :=
  ⟨h.kept, fun i y hy hnone => hN y (h.added i y hy hnone)⟩

theorem Evolves.length_le (h : Evolves R N l l') : l.length ≤ l'.length := by
  by_contra hlt
  have hin : l'.length < l.length := by omega
  obtain ⟨y, hy, _⟩ := h.kept l'.length l[l'.length] (List.getElem?_eq_getElem hin)
  rw [List.getElem?_eq_none (Nat.le_refl _)] at hy
  cases hy

/-- An object of the later table is new, or has come from one of the earlier. -/
theorem Evolves.origin (h : Evolves R N l l') {i : ℕ} {y : α} (hy : l'[i]? = some y) :
    (∃ x, l[i]? = some x ∧ R x y) ∨ l[i]? = none ∧ N y := by
  cases hx : l[i]? with
  | none => exact .inr ⟨rfl, h.added i y hy hx⟩
  | some x =>
    obtain ⟨y', hy', hxy⟩ := h.kept i x hx
    obtain rfl := Option.some.inj (hy'.symm.trans hy)
    exact .inl ⟨x, rfl, hxy⟩

end ObjectTable
