import Mathlib.Dynamics.PeriodicPts.Defs

/-!
# Searches around a cycle

A cursor goes around a cycle.  A search asks for the element under the cursor, moves the
cursor by one and ends when the element is not used, or when the cursor is back where the
search began.  The next search begins where the cursor has been left.

What searches ask for, one after the other, are consecutive elements of the cycle.
-/

universe u

namespace CyclicSearch

variable {α : Type u}

open Function

/-! ## Consecutive elements -/

/-- The first elements from `x` on. -/
def walk (next : α → α) (x : α) (steps : ℕ) : List α :=
  (List.range steps).map fun k => next^[k] x

variable {next : α → α} {x y : α}

@[simp] theorem walk_zero : walk next x 0 = [] := rfl

theorem walk_succ (steps : ℕ) :
    walk next x (steps + 1) = walk next x steps ++ [next^[steps] x] := by
  simp [walk, List.range_succ]

theorem walk_add (m n : ℕ) : walk next x (m + n) = walk next x m ++ walk next (next^[m] x) n := by
  induction n with
  | zero => simp
  | succ n ih =>
    have hlast : next^[m + n] x = next^[n] (next^[m] x) := by
      rw [Nat.add_comm m n, iterate_add_apply]
    rw [← Nat.add_assoc, walk_succ, ih, walk_succ, hlast, List.append_assoc]

/-- On a cycle an element comes back only after all the others. -/
theorem mem_walk_of_return {steps : ℕ} (hreturn : next^[steps] (next x) = x) {k : ℕ}
    (hne : next^[k] x ≠ x) : next^[k] x ∈ walk next (next x) steps := by
  have hperiod : IsPeriodicPt next (steps + 1) x := by
    rw [← iterate_succ_apply] at hreturn
    exact hreturn
  have hrest : next^[k % (steps + 1)] x = next^[k] x := hperiod.iterate_mod_apply k
  have hlt : k % (steps + 1) < steps + 1 := Nat.mod_lt _ (Nat.succ_pos steps)
  rw [← hrest] at hne ⊢
  generalize k % (steps + 1) = rest at hlt hne
  cases rest with
  | zero => exact absurd rfl hne
  | succ rest =>
    rw [iterate_succ_apply]
    exact List.mem_map.mpr ⟨rest, List.mem_range.mpr (by omega), rfl⟩

/-! ## One search -/

/-- What a search has asked for, where it leaves the cursor, and what it has found. -/
structure Outcome (α : Type u) where
  asked : List α
  cursor : α
  found : Option α

variable [DecidableEq α]

/-- A search that began at `start`, with the cursor at the last argument: `none` when it has not
ended after some rounds. -/
def search (next : α → α) (used : α → Bool) (start : α) : ℕ → α → Option (Outcome α)
  | 0, _ => none
  | rounds + 1, cursor =>
    if used cursor then
      if next cursor = start then
        some { asked := [cursor], cursor := next cursor, found := none }
      else
        (search next used start rounds (next cursor)).map fun outcome =>
          { outcome with asked := cursor :: outcome.asked }
    else some { asked := [cursor], cursor := next cursor, found := some cursor }

/-- The search that begins at `x` ends in round `k`. -/
structure Ends (next : α → α) (used : α → Bool) (x : α) (k : ℕ) (outcome : Outcome α) : Prop where
  lt_minimalPeriod : k < minimalPeriod next x
  asked : outcome.asked = walk next x (k + 1)
  cursor : outcome.cursor = next^[k + 1] x
  used_before : ∀ j < k, used (next^[j] x) = true
  found : (used (next^[k] x) = false ∧ outcome.found = some (next^[k] x)) ∨
    (used (next^[k] x) = true ∧ k + 1 = minimalPeriod next x ∧ outcome.found = none)

theorem search_from (used : α → Bool) (done rounds : ℕ) (hdone : done < minimalPeriod next x)
    (hrounds : minimalPeriod next x ≤ done + rounds)
    (hused : ∀ j < done, used (next^[j] x) = true) :
    ∃ k outcome, search next used x rounds (next^[done] x) = some outcome ∧
      Ends next used x k { outcome with asked := walk next x done ++ outcome.asked } := by
  induction rounds generalizing done with
  | zero => omega
  | succ rounds ih =>
    have hnext : next (next^[done] x) = next^[done + 1] x := (iterate_succ_apply' next done x).symm
    by_cases hnow : used (next^[done] x) = true
    · by_cases hback : next^[done + 1] x = x
      · -- the search is back after a whole period
        have hperiod : done + 1 = minimalPeriod next x :=
          Nat.le_antisymm hdone (IsPeriodicPt.minimalPeriod_le (Nat.succ_pos done) hback)
        refine ⟨done, ⟨[next^[done] x], next^[done + 1] x, none⟩, ?_, hdone, ?_, rfl, hused, ?_⟩
        · simp only [search, hnow, hnext, hback, if_true]
        · exact (walk_succ done).symm
        · exact .inr ⟨hnow, hperiod, rfl⟩
      · have hmore : done + 1 < minimalPeriod next x := by
          refine Nat.lt_of_le_of_ne hdone fun hperiod => hback ?_
          rw [hperiod]
          exact iterate_minimalPeriod
        have hused' : ∀ j < done + 1, used (next^[j] x) = true := by
          intro j hj
          rcases Nat.lt_succ_iff_lt_or_eq.mp hj with hearlier | rfl
          · exact hused j hearlier
          · exact hnow
        obtain ⟨k, outcome, houtcome, hends⟩ := ih (done + 1) hmore (by omega) hused'
        refine ⟨k, { outcome with asked := next^[done] x :: outcome.asked }, ?_, ?_⟩
        · simp only [search, hnow, hnext, hback, if_true, if_false, houtcome, Option.map_some]
        · rw [walk_succ, List.append_assoc, List.singleton_append] at hends
          exact hends
    · rw [Bool.not_eq_true] at hnow
      refine ⟨done, ⟨[next^[done] x], next^[done + 1] x, some (next^[done] x)⟩, ?_, hdone, ?_, rfl,
        hused, ?_⟩
      · simp [search, hnow, hnext]
      · exact (walk_succ done).symm
      · exact .inl ⟨hnow, rfl⟩

/-- More rounds change nothing. -/
theorem search_of_le {used : α → Bool} {start cursor : α} {outcome : Outcome α} {rounds more : ℕ}
    (hle : rounds ≤ more) (h : search next used start rounds cursor = some outcome) :
    search next used start more cursor = some outcome := by
  induction rounds generalizing more cursor outcome with
  | zero => cases h
  | succ rounds ih =>
    obtain ⟨more, rfl⟩ := Nat.exists_eq_succ_of_ne_zero (show more ≠ 0 by omega)
    simp only [search] at h ⊢
    split at h
    · split at h
      · rename_i hused hback
        rw [if_pos hused, if_pos hback]
        exact h
      · rename_i hused hback
        obtain ⟨later, hlater, heq⟩ := Option.map_eq_some_iff.mp h
        rw [if_pos hused, if_neg hback, ih (by omega) hlater, Option.map_some, heq]
    · rename_i hfree
      rw [if_neg hfree]
      exact h

/-- A search on a cycle ends before it is around. -/
theorem search_ends (used : α → Bool) (hx : x ∈ periodicPts next) :
    ∃ k outcome, Ends next used x k outcome ∧
      ∀ rounds ≥ minimalPeriod next x, search next used x rounds x = some outcome := by
  obtain ⟨k, outcome, hsearch, hends⟩ := search_from used 0 (minimalPeriod next x)
    (minimalPeriod_pos_of_mem_periodicPts hx) (by omega) (by simp)
  refine ⟨k, outcome, hends, ?_⟩
  intro rounds hrounds
  exact search_of_le hrounds hsearch

end CyclicSearch
