import Mathlib.Data.List.Basic
import Mathlib.Logic.Function.Basic

/-!
# Leases

Entries of a registry are leased to holders, which are kept in a table.  A holder knows the entry
it has by its key, or has none.  The registry and the holders agree when each key that a holder
has is that of an entry it agrees with, each entry is held, and by one holder only.
-/

universe u v w

namespace Leases

variable {κ : Type u} {ρ : Type v} {η : Type w}

/-- The entries are those of the holders, each of which has its own. -/
structure Leased (key : η → Option κ) (agrees : η → ρ → Prop) (entries : κ → Option ρ)
    (holders : List η) : Prop where
  entry : ∀ (i : ℕ) x k, holders[i]? = some x → key x = some k →
    ∃ e, entries k = some e ∧ agrees x e
  holder : ∀ k e, entries k = some e → ∃ (i : ℕ) (x : η), holders[i]? = some x ∧ key x = some k
  one : ∀ (i j : ℕ) x y k, holders[i]? = some x → holders[j]? = some y → key x = some k →
    key y = some k → i = j

variable {key : η → Option κ} {agrees : η → ρ → Prop} {entries : κ → Option ρ} {holders : List η}
  {d : ℕ} {x : η} {f : η → η} {k : κ} {e : ρ}

theorem leased_nil : Leased key agrees (fun _ => none) ([] : List η) := by
  constructor
  · intro i x k hx
    cases hx
  · intro k e he
    cases he
  · intro i j x y k hx
    cases hx

/-- No key is there twice. -/
theorem Leased.nodup_keys (h : Leased key agrees entries holders) :
    (holders.filterMap key).Nodup := by
  rw [List.Nodup, List.pairwise_filterMap, List.pairwise_iff_getElem]
  intro i j hi hj hlt k hk k' hk' hsame
  subst hsame
  have hij := h.one i j _ _ k (List.getElem?_eq_getElem hi) (List.getElem?_eq_getElem hj) hk hk'
  omega

/-- A new holder has nothing. -/
theorem Leased.concat (h : Leased key agrees entries holders) (hx : key x = none) :
    Leased key agrees entries (holders ++ [x]) := by
  have hold : ∀ (i : ℕ) y k, (holders ++ [x])[i]? = some y → key y = some k →
      holders[i]? = some y := by
    intro i y k hy hkey
    by_cases hlt : i < holders.length
    · rwa [List.getElem?_append_left hlt] at hy
    · rw [List.getElem?_append_right (by omega)] at hy
      obtain rfl := List.mem_singleton.mp (List.mem_of_getElem? hy)
      rw [hx] at hkey
      cases hkey
  constructor
  · intro i y k hy hkey
    exact h.entry i y k (hold i y k hy hkey) hkey
  · intro k e he
    obtain ⟨i, y, hy, hkey⟩ := h.holder k e he
    refine ⟨i, y, ?_, hkey⟩
    rw [List.getElem?_append_left (List.getElem?_eq_some_iff.mp hy).1]
    exact hy
  · intro i j y z k hy hz hkey hkey'
    exact h.one i j y z k (hold i y k hy hkey) (hold j z k hz hkey') hkey hkey'

/-- A holder of the table after one of them has changed. -/
theorem getElem?_modify_cases {i : ℕ} {y : η} (h : (holders.modify d f)[i]? = some y) :
    (i = d ∧ ∃ x, holders[d]? = some x ∧ y = f x) ∨ (i ≠ d ∧ holders[i]? = some y) := by
  by_cases hsame : i = d
  · subst hsame
    rw [List.getElem?_modify_eq] at h
    obtain ⟨x, hx, rfl⟩ := Option.map_eq_some_iff.mp h
    exact .inl ⟨rfl, x, hx, rfl⟩
  · rw [List.getElem?_modify_ne _ _ (Ne.symm hsame)] at h
    exact .inr ⟨hsame, h⟩

/-- A holder changes, and keeps what it has. -/
theorem Leased.modify (h : Leased key agrees entries holders)
    (hkey : ∀ x, holders[d]? = some x → key (f x) = key x)
    (hagrees : ∀ x e, holders[d]? = some x → agrees x e → agrees (f x) e) :
    Leased key agrees entries (holders.modify d f) := by
  have hback : ∀ (i : ℕ) y k, (holders.modify d f)[i]? = some y → key y = some k →
      ∃ x, holders[i]? = some x ∧ key x = some k ∧ ∀ e, agrees x e → agrees y e := by
    intro i y k hy hykey
    rcases getElem?_modify_cases hy with ⟨rfl, x, hx, rfl⟩ | ⟨-, hx⟩
    · exact ⟨x, hx, (hkey x hx).symm.trans hykey, fun e => hagrees x e hx⟩
    · exact ⟨y, hx, hykey, fun e he => he⟩
  constructor
  · intro i y k hy hykey
    obtain ⟨x, hx, hxkey, himp⟩ := hback i y k hy hykey
    obtain ⟨e, he, hagree⟩ := h.entry i x k hx hxkey
    exact ⟨e, he, himp e hagree⟩
  · intro k e he
    obtain ⟨i, x, hx, hxkey⟩ := h.holder k e he
    by_cases hsame : i = d
    · subst hsame
      exact ⟨i, f x, by rw [List.getElem?_modify_eq, hx]; rfl, (hkey x hx).trans hxkey⟩
    · exact ⟨i, x, by rw [List.getElem?_modify_ne _ _ (Ne.symm hsame)]; exact hx, hxkey⟩
  · intro i j y z k hy hz hykey hzkey
    obtain ⟨x, hx, hxkey, -⟩ := hback i y k hy hykey
    obtain ⟨w, hw, hwkey, -⟩ := hback j z k hz hzkey
    exact h.one i j x w k hx hw hxkey hwkey

variable [DecidableEq κ]

/-- A holder that has nothing gets a new entry. -/
theorem Leased.acquire (h : Leased key agrees entries holders) (hx : holders[d]? = some x)
    (hfree : key x = none) (hnew : entries k = none) (hkey : key (f x) = some k)
    (hagrees : agrees (f x) e) :
    Leased key agrees (Function.update entries k (some e)) (holders.modify d f) := by
  have hback : ∀ (i : ℕ) y k', (holders.modify d f)[i]? = some y → key y = some k' →
      (i = d ∧ k' = k ∧ y = f x) ∨ (k' ≠ k ∧ i ≠ d ∧ holders[i]? = some y) := by
    intro i y k' hy hykey
    rcases getElem?_modify_cases hy with ⟨rfl, x', hx', rfl⟩ | ⟨hne, hy'⟩
    · obtain rfl := Option.some.inj (hx.symm.trans hx')
      exact .inl ⟨rfl, Option.some.inj (hykey.symm.trans hkey), rfl⟩
    · refine .inr ⟨?_, hne, hy'⟩
      rintro rfl
      obtain ⟨e', he', -⟩ := h.entry i y k' hy' hykey
      rw [hnew] at he'
      cases he'
  constructor
  · intro i y k' hy hykey
    rcases hback i y k' hy hykey with ⟨rfl, rfl, rfl⟩ | ⟨hne, -, hy'⟩
    · exact ⟨e, Function.update_self _ _ _, hagrees⟩
    · obtain ⟨e', he', hagree⟩ := h.entry i y k' hy' hykey
      exact ⟨e', by rw [Function.update_of_ne hne]; exact he', hagree⟩
  · intro k' e' he'
    by_cases hsame : k' = k
    · subst hsame
      exact ⟨d, f x, by rw [List.getElem?_modify_eq, hx]; rfl, hkey⟩
    · rw [Function.update_of_ne hsame] at he'
      obtain ⟨i, y, hy, hykey⟩ := h.holder k' e' he'
      have hne : i ≠ d := by
        rintro rfl
        obtain rfl := Option.some.inj (hx.symm.trans hy)
        rw [hfree] at hykey
        cases hykey
      exact ⟨i, y, by rw [List.getElem?_modify_ne _ _ (Ne.symm hne)]; exact hy, hykey⟩
  · intro i j y z k' hy hz hykey hzkey
    rcases hback i y k' hy hykey with ⟨rfl, rfl, -⟩ | ⟨hne, -, hy'⟩
    · rcases hback j z k' hz hzkey with ⟨rfl, -, -⟩ | ⟨hne, -, -⟩
      · rfl
      · exact absurd rfl hne
    · rcases hback j z k' hz hzkey with ⟨-, rfl, -⟩ | ⟨-, -, hz'⟩
      · exact absurd rfl hne
      · exact h.one i j y z k' hy' hz' hykey hzkey

/-- A holder gives its entry back. -/
theorem Leased.release (h : Leased key agrees entries holders) (hx : holders[d]? = some x)
    (hheld : key x = some k) (hkey : key (f x) = none) :
    Leased key agrees (Function.update entries k none) (holders.modify d f) := by
  have hback : ∀ (i : ℕ) y k', (holders.modify d f)[i]? = some y → key y = some k' →
      k' ≠ k ∧ holders[i]? = some y := by
    intro i y k' hy hykey
    rcases getElem?_modify_cases hy with ⟨rfl, x', hx', rfl⟩ | ⟨hne, hy'⟩
    · obtain rfl := Option.some.inj (hx.symm.trans hx')
      rw [hkey] at hykey
      cases hykey
    · refine ⟨?_, hy'⟩
      rintro rfl
      exact hne (h.one i d y x k' hy' hx hykey hheld)
  constructor
  · intro i y k' hy hykey
    obtain ⟨hne, hy'⟩ := hback i y k' hy hykey
    rw [Function.update_of_ne hne]
    exact h.entry i y k' hy' hykey
  · intro k' e he
    have hne : k' ≠ k := by
      rintro rfl
      rw [Function.update_self] at he
      cases he
    rw [Function.update_of_ne hne] at he
    obtain ⟨i, y, hy, hykey⟩ := h.holder k' e he
    have hother : i ≠ d := by
      rintro rfl
      obtain rfl := Option.some.inj (hx.symm.trans hy)
      exact hne (Option.some.inj (hykey.symm.trans hheld))
    exact ⟨i, y, by rw [List.getElem?_modify_ne _ _ (Ne.symm hother)]; exact hy, hykey⟩
  · intro i j y z k' hy hz hykey hzkey
    exact h.one i j y z k' (hback i y k' hy hykey).2 (hback j z k' hz hzkey).2 hykey hzkey

end Leases
