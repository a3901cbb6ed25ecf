import Mathlib.Data.List.Nodup
import Mathlib.Data.Set.Basic

/-!
# Ledgers

Requests that come in are given tickets, each is held by somebody until it is
settled, and settling it is final.  A ledger records who holds which ticket, the
tickets that have been settled, and among whom the holder of each is to be found.  What is proved
of the steps of a ledger holds of every program whose requests wait in slots.
-/

universe u

/-- Tickets that are held, settled and due. -/
structure Ledger (κ : Type u) where
  held : κ → Nat → Prop
  done : List Nat
  due : Nat → Set κ → Prop
  next : Nat

namespace Ledger

variable {κ : Type u} {L L' : Ledger κ}

/-- No ticket is settled twice, and every ticket that has been given away is held
or settled. -/
structure Sound (L : Ledger κ) : Prop where
  once : L.done.Nodup
  issued : ∀ t ∈ L.done, t < L.next
  waiting : ∀ k t, L.held k t → t < L.next ∧ t ∉ L.done
  distinct : ∀ j k t, L.held j t → L.held k t → j = k
  single : ∀ k t u, L.held k t → L.held k u → t = u
  settled : ∀ t K, L.due t K → t ∈ L.done ∨ ∃ k ∈ K, L.held k t

/-- What can happen to a ledger: nothing, a ticket that is given to somebody, one
that is settled at once, and one that is settled by its holder. -/
inductive Step (L L' : Ledger κ) : Prop
  | keeps (held : ∀ k t, L'.held k t ↔ L.held k t) (done : L'.done = L.done)
      (due : ∀ t K, L'.due t K → L.due t K) (next : L.next ≤ L'.next)
  | gives (k : κ) (free : ∀ t, ¬ L.held k t)
      (held : ∀ j t, L'.held j t ↔ L.held j t ∨ j = k ∧ t = L.next) (done : L'.done = L.done)
      (due : ∀ t K, L'.due t K → L.due t K ∨ t = L.next ∧ k ∈ K) (next : L'.next = L.next + 1)
  | refuses (held : ∀ k t, L'.held k t ↔ L.held k t) (done : L'.done = L.done ++ [L.next])
      (due : ∀ t K, L'.due t K → L.due t K ∨ t = L.next) (next : L'.next = L.next + 1)
  | settles (k : κ) (t : Nat) (mem : L.held k t)
      (held : ∀ j u, L'.held j u ↔ L.held j u ∧ j ≠ k) (done : L'.done = L.done ++ [t])
      (due : ∀ u K, L'.due u K → L.due u K) (next : L'.next = L.next)

theorem nodup_concat {xs : List Nat} {t : Nat} (h : xs.Nodup) (ht : t ∉ xs) :
    (xs ++ [t]).Nodup := by
  rw [← List.concat_eq_append, List.nodup_concat]
  exact ⟨ht, h⟩

/-- Every step keeps the ledger sound. -/
theorem Step.sound (h : Step L L') (hs : L.Sound) : L'.Sound := by
  cases h with
  | keeps held done due next =>
    refine ⟨done ▸ hs.once, ?_, ?_, ?_, ?_, ?_⟩
    · intro t ht
      exact Nat.lt_of_lt_of_le (hs.issued t (done ▸ ht)) next
    · intro k t hk
      obtain ⟨hlt, hnot⟩ := hs.waiting k t ((held k t).mp hk)
      exact ⟨Nat.lt_of_lt_of_le hlt next, done ▸ hnot⟩
    · intro j k t hj hk
      exact hs.distinct j k t ((held j t).mp hj) ((held k t).mp hk)
    · intro k t u ht hu
      exact hs.single k t u ((held k t).mp ht) ((held k u).mp hu)
    · intro t K hdue
      simp only [done, held]
      exact hs.settled t K (due t K hdue)
  | gives k free held done due next =>
    have hnext : ∀ j, ¬ L.held j L.next := fun j hj =>
      Nat.lt_irrefl _ (hs.waiting j L.next hj).1
    refine ⟨done ▸ hs.once, ?_, ?_, ?_, ?_, ?_⟩
    · intro t ht
      rw [next]
      exact Nat.lt_succ_of_lt (hs.issued t (done ▸ ht))
    · intro j t hj
      rw [next, done]
      rcases (held j t).mp hj with hold | ⟨_, rfl⟩
      · obtain ⟨hlt, hnot⟩ := hs.waiting j t hold
        exact ⟨Nat.lt_succ_of_lt hlt, hnot⟩
      · exact ⟨Nat.lt_succ_self _, fun hmem => Nat.lt_irrefl _ (hs.issued _ hmem)⟩
    · intro i j t hi hj
      rcases (held i t).mp hi with hi | ⟨rfl, rfl⟩
      · rcases (held j t).mp hj with hj | ⟨_, rfl⟩
        · exact hs.distinct i j t hi hj
        · exact absurd hi (hnext i)
      · rcases (held j _).mp hj with hj | ⟨rfl, _⟩
        · exact absurd hj (hnext j)
        · rfl
    · intro j t u ht hu
      rcases (held j t).mp ht with ht | ⟨rfl, rfl⟩
      · rcases (held j u).mp hu with hu | ⟨rfl, _⟩
        · exact hs.single j t u ht hu
        · exact absurd ht (free t)
      · rcases (held j u).mp hu with hu | ⟨_, rfl⟩
        · exact absurd hu (free u)
        · rfl
    · intro t K hdue
      simp only [done, held]
      rcases due t K hdue with hold | ⟨rfl, hk⟩
      · rcases hs.settled t K hold with hdone | ⟨j, hj, hheld⟩
        · exact .inl hdone
        · exact .inr ⟨j, hj, .inl hheld⟩
      · exact .inr ⟨k, hk, .inr ⟨rfl, rfl⟩⟩
  | refuses held done due next =>
    refine ⟨?_, ?_, ?_, ?_, ?_, ?_⟩
    · rw [done]
      exact nodup_concat hs.once fun hmem => Nat.lt_irrefl _ (hs.issued _ hmem)
    · intro t ht
      rw [done] at ht
      rw [next]
      rcases List.mem_append.mp ht with hold | hnew
      · exact Nat.lt_succ_of_lt (hs.issued t hold)
      · rw [List.mem_singleton.mp hnew]
        exact Nat.lt_succ_self _
    · intro k t hk
      obtain ⟨hlt, hnot⟩ := hs.waiting k t ((held k t).mp hk)
      rw [next, done]
      refine ⟨Nat.lt_succ_of_lt hlt, ?_⟩
      intro hmem
      rcases List.mem_append.mp hmem with hold | hnew
      · exact hnot hold
      · exact absurd (List.mem_singleton.mp hnew) (Nat.ne_of_lt hlt)
    · intro j k t hj hk
      exact hs.distinct j k t ((held j t).mp hj) ((held k t).mp hk)
    · intro k t u ht hu
      exact hs.single k t u ((held k t).mp ht) ((held k u).mp hu)
    · intro t K hdue
      simp only [done, held]
      rcases due t K hdue with hold | rfl
      · rcases hs.settled t K hold with hdone | hheld
        · exact .inl (List.mem_append_left _ hdone)
        · exact .inr hheld
      · exact .inl (by simp)
  | settles k t mem held done due next =>
    refine ⟨?_, ?_, ?_, ?_, ?_, ?_⟩
    · rw [done]
      exact nodup_concat hs.once (hs.waiting k t mem).2
    · intro u hu
      rw [done] at hu
      rw [next]
      rcases List.mem_append.mp hu with hold | hnew
      · exact hs.issued u hold
      · rw [List.mem_singleton.mp hnew]
        exact (hs.waiting k t mem).1
    · intro j u hj
      obtain ⟨hheld, hne⟩ := (held j u).mp hj
      obtain ⟨hlt, hnot⟩ := hs.waiting j u hheld
      rw [next, done]
      refine ⟨hlt, ?_⟩
      intro hmem
      rcases List.mem_append.mp hmem with hold | hnew
      · exact hnot hold
      · rw [List.mem_singleton.mp hnew] at hheld
        exact hne (hs.distinct j k t hheld mem)
    · intro i j u hi hj
      exact hs.distinct i j u ((held i u).mp hi).1 ((held j u).mp hj).1
    · intro j u v hu hv
      exact hs.single j u v ((held j u).mp hu).1 ((held j v).mp hv).1
    · intro u K hdue
      rw [done]
      rcases hs.settled u K (due u K hdue) with hdone | ⟨j, hj, hheld⟩
      · exact .inl (List.mem_append_left _ hdone)
      · by_cases hjk : j = k
        · subst hjk
          rw [hs.single j u t hheld mem]
          exact .inl (by simp)
        · exact .inr ⟨j, hj, (held j u).mpr ⟨hheld, hjk⟩⟩

/-- A ticket that has been given away has been settled once, or is held and has not
been settled. -/
theorem Sound.done_or_held (hs : L.Sound) {t : Nat} {K : Set κ} (hdue : L.due t K) :
    L.done.count t = 1 ∨ L.done.count t = 0 ∧ ∃ k ∈ K, L.held k t := by
  rcases hs.settled t K hdue with hdone | ⟨k, hk, hheld⟩
  · exact .inl (List.count_eq_one_of_mem hs.once hdone)
  · exact .inr ⟨List.count_eq_zero_of_not_mem (hs.waiting k t hheld).2, k, hk, hheld⟩

end Ledger
