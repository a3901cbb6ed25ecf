import Mathlib.Data.List.Nodup

/-!
# What a stable sort puts before what

In a list without duplicates of two members one is before the other.  A stable sort puts an element
before another one exactly if it is not greater and, where it is not less either, was before it.
-/

universe u

namespace StableSort

variable {α : Type u}

/-- The first is before the second in the list. -/
def Before (l : List α) (a b : α) : Prop :=
  [a, b].Sublist l

theorem Before.mem_left {l : List α} {a b : α} (h : Before l a b) : a ∈ l :=
  h.subset (by simp)

theorem Before.mem_right {l : List α} {a b : α} (h : Before l a b) : b ∈ l :=
  h.subset (by simp)

theorem before_cons {l : List α} {a b c : α} :
    Before (c :: l) a b ↔ (a = c ∧ b ∈ l) ∨ Before l a b := by
  unfold Before
  constructor
  · intro h
    cases h with
    | cons _ h => exact .inr h
    | cons_cons _ h => exact .inl ⟨rfl, List.singleton_sublist.mp h⟩
  · rintro (⟨rfl, hb⟩ | h)
    · exact (List.singleton_sublist.mpr hb).cons_cons _
    · exact h.cons _

theorem before_or_before {l : List α} {a b : α} (ha : a ∈ l) (hb : b ∈ l) (hne : a ≠ b) :
    Before l a b ∨ Before l b a := by
  induction l with
  | nil => cases ha
  | cons c l ih =>
    simp only [before_cons]
    rcases List.mem_cons.mp ha with rfl | ha'
    · have hb' : b ∈ l := (List.mem_cons.mp hb).resolve_left hne.symm
      exact .inl (.inl ⟨rfl, hb'⟩)
    · rcases List.mem_cons.mp hb with rfl | hb'
      · exact .inr (.inl ⟨rfl, ha'⟩)
      · exact (ih ha' hb').imp .inr .inr

theorem Before.asymm {l : List α} (hl : l.Nodup) {a b : α} (hab : Before l a b) :
    ¬ Before l b a := by
  induction l with
  | nil => cases hab
  | cons c l ih =>
    obtain ⟨hc, hl⟩ := List.nodup_cons.mp hl
    rw [before_cons] at hab ⊢
    rintro (⟨rfl, ha⟩ | hba)
    · rcases hab with ⟨rfl, hb⟩ | hab
      · exact hc hb
      · exact hc hab.mem_right
    · rcases hab with ⟨rfl, -⟩ | hab
      · exact hc hba.mem_right
      · exact ih hl hab hba

theorem Before.ne {l : List α} (hl : l.Nodup) {a b : α} (h : Before l a b) : a ≠ b := by
  rintro rfl
  exact h.asymm hl h

/-- An element that all others are before is the last one. -/
theorem exists_eq_concat {l : List α} (hl : l.Nodup) {b : α} (hb : b ∈ l)
    (hall : ∀ a ∈ l, a ≠ b → Before l a b) : ∃ front, l = front ++ [b] := by
  obtain ⟨front, rest, rfl⟩ := List.append_of_mem hb
  cases rest with
  | nil => exact ⟨front, rfl⟩
  | cons c rest =>
    have hbefore : Before (front ++ b :: c :: rest) b c := by
      refine List.Sublist.trans ?_ (List.sublist_append_right front _)
      exact ((List.singleton_sublist.mpr (by simp)).cons_cons b)
    have hc := hall c (by simp) (hbefore.ne hl).symm
    exact absurd hc (hbefore.asymm hl)

theorem before_concat {l : List α} {a b : α} (hb : b ∉ l) :
    Before (l ++ [b]) a b ↔ a ∈ l := by
  induction l with
  | nil => simp [Before]
  | cons c l ih =>
    obtain ⟨hbc, hb⟩ := not_or.mp (mt List.mem_cons.mpr hb)
    rw [List.cons_append, before_cons, ih hb, List.mem_cons]
    simp

/-- What is not the last element is before another one as it was without the last one. -/
theorem before_concat_of_ne {l : List α} {a b c : α} (hb : b ≠ c) :
    Before (l ++ [c]) a b ↔ Before l a b := by
  induction l with
  | nil => simp [Before]
  | cons d l ih => simp [before_cons, ih, hb]

theorem before_map {β : Type u} {f : α → β} (hf : Function.Injective f) {l : List α} {a b : α} :
    Before (l.map f) (f a) (f b) ↔ Before l a b := by
  induction l with
  | nil => simp [Before]
  | cons c l ih => simp [before_cons, ih, hf.eq_iff, List.mem_map]

theorem pairwise_iff {l : List α} {r : α → α → Prop} :
    l.Pairwise r ↔ ∀ a b, Before l a b → r a b := by
  rw [List.pairwise_iff_forall_sublist]
  exact ⟨fun h a b hab => h hab, fun h a b hab => h a b hab⟩

/-- The sort only changes the order of two elements where it has to. -/
theorem before_mergeSort_iff {le : α → α → Bool} (htrans : ∀ a b c, le a b → le b c → le a c)
    (htotal : ∀ a b, le a b || le b a) {l : List α} (hl : l.Nodup) {a b : α} (ha : a ∈ l)
    (hb : b ∈ l) (hne : a ≠ b) :
    Before (l.mergeSort le) a b ↔ le a b ∧ (le b a → Before l a b) := by
  have hsorted : ∀ {a b}, Before (l.mergeSort le) a b → le a b := by
    intro a b hab
    exact pairwise_iff.mp (List.pairwise_mergeSort htrans htotal l) a b hab
  have hnodup : (l.mergeSort le).Nodup := (List.mergeSort_perm l le).nodup_iff.mpr hl
  constructor
  · intro hab
    refine ⟨hsorted hab, ?_⟩
    intro hle
    rcases before_or_before ha hb hne with hbefore | hbefore
    · exact hbefore
    · exact absurd (List.pair_sublist_mergeSort htrans htotal hle hbefore) (hab.asymm hnodup)
  · rintro ⟨hle, hstable⟩
    rcases before_or_before (List.mem_mergeSort.mpr ha) (List.mem_mergeSort.mpr hb) hne with
      hbefore | hbefore
    · exact hbefore
    · exact List.pair_sublist_mergeSort htrans htotal hle (hstable (hsorted hbefore))

end StableSort
