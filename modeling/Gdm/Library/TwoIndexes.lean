import Mathlib.Data.Finmap
import Mathlib.Data.Finset.Card

/-!
# Two indexes of one set

A set of objects is kept in two finite maps, each by a key of its own.  The maps are
indexes of one set when what is found in one under a key has this key, and is found in
the other.
-/

universe u v w

namespace TwoIndexes

variable {α : Type u} {β : Type v} {γ : Type w} [DecidableEq α] [DecidableEq β]

/-- The maps have the same objects, under their keys `f` and `g`. -/
structure Indexed (f : γ → α) (g : γ → β) (l : Finmap fun _ : α => γ)
    (r : Finmap fun _ : β => γ) : Prop where
  left : ∀ a x, l.lookup a = some x → f x = a ∧ r.lookup (g x) = some x
  right : ∀ b x, r.lookup b = some x → g x = b ∧ l.lookup (f x) = some x

variable {f : γ → α} {g : γ → β} {l : Finmap fun _ : α => γ} {r : Finmap fun _ : β => γ}
  {x y : γ}

theorem Indexed.empty : Indexed f g (∅ : Finmap fun _ : α => γ) (∅ : Finmap fun _ : β => γ) := by
  constructor
  · intro a x hx
    rw [Finmap.lookup_empty] at hx
    cases hx
  · intro b x hx
    rw [Finmap.lookup_empty] at hx
    cases hx

theorem Indexed.symm (h : Indexed f g l r) : Indexed g f r l :=
  ⟨h.right, h.left⟩

/-- An object is in both maps or in none. -/
theorem Indexed.iff (h : Indexed f g l r) (x : γ) :
    l.lookup (f x) = some x ↔ r.lookup (g x) = some x := by
  constructor
  · intro hx
    exact (h.left _ _ hx).2
  · intro hx
    exact (h.right _ _ hx).2

/-- Two objects of the set have different keys of either kind. -/
theorem Indexed.eq_of_key (h : Indexed f g l r) (hx : l.lookup (f x) = some x)
    (hy : l.lookup (f y) = some y) (hkey : f x = f y ∨ g x = g y) : x = y := by
  rcases hkey with hkey | hkey
  · rw [hkey, hy] at hx
    exact (Option.some.inj hx).symm
  · have hx' := (h.left _ _ hx).2
    have hy' := (h.left _ _ hy).2
    rw [hkey, hy'] at hx'
    exact (Option.some.inj hx').symm

/-- When the keys of `A` are all used, by objects with keys of `B`, and `B` is no larger, then
the keys of `B` are all used as well, by objects with keys of `A`. -/
theorem Indexed.exists_of_card_le (h : Indexed f g l r) {A : Finset α} {B : Finset β}
    (hcard : B.card ≤ A.card) (hused : ∀ a ∈ A, ∃ x, l.lookup a = some x ∧ g x ∈ B) :
    ∀ b ∈ B, ∃ x, r.lookup b = some x ∧ f x ∈ A := by
  choose object hobject hkey using hused
  have hinjective : ∀ a a' (ha : a ∈ A) (ha' : a' ∈ A),
      g (object a ha) = g (object a' ha') → a = a' := by
    intro a a' ha ha' hsame
    obtain ⟨hself, hfound⟩ := h.left a _ (hobject a ha)
    obtain ⟨hself', hfound'⟩ := h.left a' _ (hobject a' ha')
    rw [hsame, hfound'] at hfound
    rw [← hself, ← hself', Option.some.inj hfound]
  intro b hb
  obtain ⟨a, ha, rfl⟩ := Finset.surj_on_of_inj_on_of_card_le (fun a ha => g (object a ha)) hkey
    hinjective hcard b hb
  obtain ⟨hself, hfound⟩ := h.left a _ (hobject a ha)
  refine ⟨object a ha, hfound, ?_⟩
  rw [hself]
  exact ha

/-- The maps are indexes of one set, in which no two objects share a key of either kind. -/
theorem indexed_iff_exists_set :
    Indexed f g l r ↔ ∃ objects : Set γ,
      (∀ x ∈ objects, ∀ y ∈ objects, f x = f y ∨ g x = g y → x = y) ∧
      (∀ a x, l.lookup a = some x ↔ x ∈ objects ∧ f x = a) ∧
      ∀ b x, r.lookup b = some x ↔ x ∈ objects ∧ g x = b := by
  constructor
  · intro h
    refine ⟨{x | l.lookup (f x) = some x}, ?_, ?_, ?_⟩
    · intro x hx y hy hkey
      exact h.eq_of_key hx hy hkey
    · intro a x
      constructor
      · intro hfound
        have hkey := (h.left a x hfound).1
        subst hkey
        exact ⟨hfound, rfl⟩
      · rintro ⟨hx, rfl⟩
        exact hx
    · intro b x
      constructor
      · intro hfound
        have hkey := (h.right b x hfound).1
        exact ⟨(h.right b x hfound).2, hkey⟩
      · rintro ⟨hx, rfl⟩
        exact (h.iff x).mp hx
  · rintro ⟨objects, -, hl, hr⟩
    constructor
    · intro a x hfound
      obtain ⟨hx, hkey⟩ := (hl a x).mp hfound
      exact ⟨hkey, (hr (g x) x).mpr ⟨hx, rfl⟩⟩
    · intro b x hfound
      obtain ⟨hx, hkey⟩ := (hr b x).mp hfound
      exact ⟨hkey, (hl (f x) x).mpr ⟨hx, rfl⟩⟩

/-- An object with new keys goes into both maps. -/
theorem Indexed.insert (h : Indexed f g l r) (hleft : l.lookup (f x) = none)
    (hright : r.lookup (g x) = none) : Indexed f g (l.insert (f x) x) (r.insert (g x) x) := by
  constructor
  · intro a y hy
    by_cases ha : a = f x
    · subst ha
      rw [Finmap.lookup_insert] at hy
      obtain rfl := Option.some.inj hy
      exact ⟨rfl, Finmap.lookup_insert _⟩
    · rw [Finmap.lookup_insert_of_ne _ ha] at hy
      obtain ⟨hkey, hfound⟩ := h.left a y hy
      refine ⟨hkey, ?_⟩
      have hne : g y ≠ g x := by
        intro heq
        rw [heq, hright] at hfound
        cases hfound
      rw [Finmap.lookup_insert_of_ne _ hne]
      exact hfound
  · intro b y hy
    by_cases hb : b = g x
    · subst hb
      rw [Finmap.lookup_insert] at hy
      obtain rfl := Option.some.inj hy
      exact ⟨rfl, Finmap.lookup_insert _⟩
    · rw [Finmap.lookup_insert_of_ne _ hb] at hy
      obtain ⟨hkey, hfound⟩ := h.right b y hy
      refine ⟨hkey, ?_⟩
      have hne : f y ≠ f x := by
        intro heq
        rw [heq, hleft] at hfound
        cases hfound
      rw [Finmap.lookup_insert_of_ne _ hne]
      exact hfound

/-- An object whose first key is new can be added just when the second one is new too. -/
theorem Indexed.insert_iff (h : Indexed f g l r) (hleft : l.lookup (f x) = none) :
    Indexed f g (l.insert (f x) x) (r.insert (g x) x) ↔ r.lookup (g x) = none := by
  constructor
  · intro hboth
    by_contra hfound
    obtain ⟨y, hy⟩ := Option.ne_none_iff_exists'.mp hfound
    -- the object that had the second key is still in the first map
    obtain ⟨hkey, hold⟩ := h.right _ _ hy
    have hne : f y ≠ f x := by
      intro heq
      rw [heq, hleft] at hold
      cases hold
    have hstill : (l.insert (f x) x).lookup (f y) = some y := by
      rw [Finmap.lookup_insert_of_ne _ hne]
      exact hold
    have hnow := (hboth.left _ _ hstill).2
    rw [hkey, Finmap.lookup_insert] at hnow
    obtain rfl := Option.some.inj hnow
    exact hne rfl
  · exact h.insert hleft

/-- An object leaves both maps. -/
theorem Indexed.erase (h : Indexed f g l r) (hx : r.lookup (g x) = some x) :
    Indexed f g (l.erase (f x)) (r.erase (g x)) := by
  have hleft := (h.right _ _ hx).2
  constructor
  · intro a y hy
    have ha : a ≠ f x := by
      rintro rfl
      rw [Finmap.lookup_erase] at hy
      cases hy
    rw [Finmap.lookup_erase_ne ha] at hy
    obtain ⟨hkey, hfound⟩ := h.left a y hy
    refine ⟨hkey, ?_⟩
    have hne : g y ≠ g x := by
      intro heq
      rw [heq, hx] at hfound
      obtain rfl := Option.some.inj hfound
      exact ha hkey.symm
    rw [Finmap.lookup_erase_ne hne]
    exact hfound
  · intro b y hy
    have hb : b ≠ g x := by
      rintro rfl
      rw [Finmap.lookup_erase] at hy
      cases hy
    rw [Finmap.lookup_erase_ne hb] at hy
    obtain ⟨hkey, hfound⟩ := h.right b y hy
    refine ⟨hkey, ?_⟩
    have hne : f y ≠ f x := by
      intro heq
      rw [heq, hleft] at hfound
      obtain rfl := Option.some.inj hfound
      exact hb hkey.symm
    rw [Finmap.lookup_erase_ne hne]
    exact hfound

end TwoIndexes
