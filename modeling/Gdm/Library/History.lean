import Mathlib.Data.List.DropRight

/-!
# Histories

A history is the list of everything a machine has done, oldest entry first.
This module has the vocabulary for properties that look back: what has happened
since the last entry of some kind, and that every entry is justified by the
entries before it.
-/

universe u v

namespace History

variable {α : Type u} {β : Type v}

/-! ## Since the last marker -/

/-- The entries after the last one that `marker` holds of. -/
def sinceLast (marker : α → Bool) (h : List α) : List α :=
  h.rtakeWhile fun x => !marker x

variable {marker : α → Bool}

theorem sinceLast_concat {h : List α} {x : α} (hx : marker x = false) :
    sinceLast marker (h ++ [x]) = sinceLast marker h ++ [x] :=
  List.rtakeWhile_concat_pos _ _ _ (by simp [hx])

/-- Entries that are no markers are all kept. -/
theorem sinceLast_append {h new : List α} (hnew : ∀ x ∈ new, marker x = false) :
    sinceLast marker (h ++ new) = sinceLast marker h ++ new := by
  induction new using List.reverseRecOn with
  | nil => simp
  | append_singleton new x ih =>
    have hx : marker x = false := hnew x (by simp)
    have hrest : ∀ y ∈ new, marker y = false := fun y hy => hnew y (by simp [hy])
    rw [← List.append_assoc, sinceLast_concat hx, ih hrest, List.append_assoc]

/-! ## The last entry of a kind -/

/-- What `f` reads from the last entry that it reads anything from. -/
def lastSome (f : α → Option β) (h : List α) : Option β :=
  h.reverse.findSome? f

variable {f : α → Option β}

theorem lastSome_concat {h : List α} {x : α} {b : β} (hx : f x = some b) :
    lastSome f (h ++ [x]) = some b := by
  simp [lastSome, hx]

theorem lastSome_append {h new : List α} (hnew : ∀ x ∈ new, f x = none) :
    lastSome f (h ++ new) = lastSome f h := by
  have hnone : new.reverse.findSome? f = none := by
    rw [List.findSome?_eq_none_iff]
    intro x hx
    exact hnew x (List.mem_reverse.mp hx)
  simp [lastSome, List.findSome?_append, hnone]

theorem exists_mem_of_lastSome {h : List α} {b : β} (hb : lastSome f h = some b) :
    ∃ x ∈ h, f x = some b := by
  obtain ⟨x, hx, hfx⟩ := List.exists_of_findSome?_eq_some hb
  exact ⟨x, List.mem_reverse.mp hx, hfx⟩

/-! ## Entries of one kind added -/

/-- What is added in two parts is of a kind where both parts are. -/
theorem exists_added_trans {P : α → Prop} {h h' h'' : List α}
    (hadded : ∃ new, h' = h ++ new ∧ ∀ x ∈ new, P x)
    (hadded' : ∃ new, h'' = h' ++ new ∧ ∀ x ∈ new, P x) :
    ∃ new, h'' = h ++ new ∧ ∀ x ∈ new, P x := by
  obtain ⟨new, rfl, hnew⟩ := hadded
  obtain ⟨new', rfl, hnew'⟩ := hadded'
  refine ⟨new ++ new', List.append_assoc h new new', ?_⟩
  intro x hx
  rcases List.mem_append.mp hx with hfirst | hsecond
  · exact hnew x hfirst
  · exact hnew' x hsecond

/-! ## Entries justified by the past -/

/-- Every entry `x` of the history is justified by the entries before it. -/
def Justified (P : List α → α → Prop) (h : List α) : Prop :=
  ∀ before x after, h = before ++ x :: after → P before x

variable {P : List α → α → Prop}

@[simp] theorem justified_nil : Justified P ([] : List α) := by
  intro before x after heq
  simp at heq

theorem justified_concat {h : List α} {x : α} :
    Justified P (h ++ [x]) ↔ Justified P h ∧ P h x := by
  constructor
  · intro hj
    refine ⟨?_, hj h x [] (by simp)⟩
    intro before y after heq
    exact hj before y (after ++ [x]) (by simp [heq])
  · rintro ⟨hj, hx⟩ before y after heq
    rcases List.eq_nil_or_concat after with rfl | ⟨after', z, rfl⟩
    · obtain ⟨rfl, hyx⟩ := List.append_inj' heq rfl
      simp only [List.cons.injEq, and_true] at hyx
      exact hyx ▸ hx
    · have hsplit : h ++ [x] = (before ++ y :: after') ++ [z] := by
        simpa using heq
      exact hj before y after' (List.append_inj' hsplit rfl).1

theorem justified_iff_forall_lt {h : List α} :
    Justified P h ↔ ∀ n (hn : n < h.length), P (h.take n) h[n] := by
  constructor
  · intro hj n hn
    refine hj _ _ (h.drop (n + 1)) ?_
    rw [List.getElem_cons_drop, List.take_append_drop]
  · rintro hall before x after rfl
    have hn : before.length < (before ++ x :: after).length := by simp
    simpa using hall before.length hn

instance [∀ before x, Decidable (P before x)] (h : List α) : Decidable (Justified P h) :=
  decidable_of_iff _ justified_iff_forall_lt.symm

/-- Entries that need no justification do no harm. -/
theorem justified_append {h new : List α} (hj : Justified P h)
    (hnew : ∀ x ∈ new, ∀ before, P before x) : Justified P (h ++ new) := by
  induction new using List.reverseRecOn with
  | nil => simpa using hj
  | append_singleton new x ih =>
    rw [← List.append_assoc, justified_concat]
    exact ⟨ih fun y hy => hnew y (by simp [hy]), hnew x (by simp) _⟩

/-- Entries that the past and the entries before them justify. -/
theorem justified_append_of {h new : List α} (hj : Justified P h)
    (hnew : ∀ mid x rest, new = mid ++ x :: rest → P (h ++ mid) x) : Justified P (h ++ new) := by
  induction new using List.reverseRecOn with
  | nil => simpa using hj
  | append_singleton new x ih =>
    rw [← List.append_assoc, justified_concat]
    refine ⟨ih ?_, hnew new x [] (by simp)⟩
    intro mid y rest heq
    exact hnew mid y (rest ++ [x]) (by simp [heq])

theorem Justified.of_mem {h : List α} (hj : Justified P h) {x : α} (hx : x ∈ h) :
    ∃ before, P before x := by
  obtain ⟨before, after, heq⟩ := List.append_of_mem hx
  exact ⟨before, hj before x after heq⟩

theorem Justified.of_append {h new : List α} (hj : Justified P (h ++ new)) :
    Justified P h := by
  intro before x after heq
  exact hj before x (after ++ new) (by simp [heq])

end History
