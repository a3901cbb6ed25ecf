import Mathlib.Data.List.Induction

/-!
# Event machines

An event machine takes one event at a time from a fixed set of start states.
The runs of a program that is driven by a main loop are the runs of such a
machine: every callback is one event, and what the outside answers is part of
the event.

The rules below carry a property of one step to all steps of a run.  They come
in two strengths: unconditional, and for the runs all of whose steps meet a
condition on the state before the step.
-/

universe u v

/-- A deterministic machine together with its start states. -/
structure EventMachine (σ : Type u) (ε : Type v) where
  Start : σ → Prop
  step : σ → ε → σ

namespace EventMachine

variable {σ : Type u} {ε : Type v} (M : EventMachine σ ε)

/-- The state after a list of events. -/
def run (s : σ) (es : List ε) : σ :=
  es.foldl M.step s

@[simp] theorem run_nil (s : σ) : M.run s [] = s := rfl

@[simp] theorem run_cons (s : σ) (e : ε) (es : List ε) :
    M.run s (e :: es) = M.run (M.step s e) es := rfl

theorem run_append (s : σ) (es fs : List ε) :
    M.run s (es ++ fs) = M.run (M.run s es) fs := by
  simp [run, List.foldl_append]

theorem run_concat (s : σ) (es : List ε) (e : ε) :
    M.run s (es ++ [e]) = M.step (M.run s es) e := by
  simp [run_append]

/-- Every step of the run from `s` along `es` meets `C` before it is taken. -/
def Meets (C : σ → ε → Prop) : σ → List ε → Prop
  | _, [] => True
  | s, e :: es => C s e ∧ Meets C (M.step s e) es

variable {M} {C : σ → ε → Prop}

@[simp] theorem meets_nil (s : σ) : M.Meets C s [] := trivial

@[simp] theorem meets_cons {s : σ} {e : ε} {es : List ε} :
    M.Meets C s (e :: es) ↔ C s e ∧ M.Meets C (M.step s e) es := Iff.rfl

theorem meets_append {s : σ} {es fs : List ε} :
    M.Meets C s (es ++ fs) ↔ M.Meets C s es ∧ M.Meets C (M.run s es) fs := by
  induction es generalizing s with
  | nil => simp
  | cons e es ih => simp [ih, and_assoc]

/-- A condition on the events alone. -/
theorem meets_of_forall {s : σ} {es : List ε} (h : ∀ s, ∀ e ∈ es, C s e) : M.Meets C s es := by
  induction es generalizing s with
  | nil => trivial
  | cons e es ih => exact ⟨h s e (by simp), ih fun t f hf => h t f (by simp [hf])⟩

theorem Meets.imp {D : σ → ε → Prop} (himp : ∀ s e, C s e → D s e) {s : σ} {es : List ε}
    (h : M.Meets C s es) : M.Meets D s es := by
  induction es generalizing s with
  | nil => trivial
  | cons e es ih => exact ⟨himp s e h.1, ih h.2⟩

/-- In a run that meets the condition, so does each of its steps. -/
theorem Meets.at_step {s : σ} {es fs : List ε} {e : ε}
    (h : M.Meets C s (es ++ e :: fs)) :
    M.Meets C s es ∧ C (M.run s es) e := by
  rw [meets_append, meets_cons] at h
  exact ⟨h.1, h.2.1⟩

theorem meets_iff_forall_step {s : σ} {es : List ε} :
    M.Meets C s es ↔ ∀ before e after, es = before ++ e :: after → C (M.run s before) e := by
  constructor
  · intro h before e after hes
    subst hes
    exact h.at_step.2
  · intro h
    induction es generalizing s with
    | nil => trivial
    | cons e es ih =>
      constructor
      · exact h [] e es rfl
      · apply ih
        intro before f after hes
        exact h (e :: before) f after (by rw [hes, List.cons_append])

instance decidableMeets [∀ s e, Decidable (C s e)] :
    ∀ (s : σ) (es : List ε), Decidable (M.Meets C s es)
  | _, [] => isTrue trivial
  | s, e :: es =>
    have : Decidable (M.Meets C (M.step s e) es) := decidableMeets _ es
    inferInstanceAs (Decidable (C s e ∧ M.Meets C (M.step s e) es))

/-- What every conforming step preserves holds at the end of a conforming run. -/
theorem Meets.invariant (Inv : σ → Prop)
    (preserved : ∀ s e, Inv s → C s e → Inv (M.step s e))
    {s : σ} {es : List ε} (h : M.Meets C s es) (hs : Inv s) :
    Inv (M.run s es) := by
  induction es generalizing s with
  | nil => exact hs
  | cons e es ih =>
    obtain ⟨he, hes⟩ := h
    exact ih hes (preserved s e hs he)

/-- A condition that gives another one, over an invariant that it keeps. -/
theorem Meets.imp_of_invariant {D : σ → ε → Prop} (Inv : σ → Prop)
    (himp : ∀ s e, Inv s → C s e → D s e ∧ Inv (M.step s e)) {s : σ} {es : List ε}
    (h : M.Meets C s es) (hs : Inv s) : M.Meets D s es := by
  induction es generalizing s with
  | nil => trivial
  | cons e es ih =>
    obtain ⟨hD, hInv⟩ := himp s e hs h.1
    exact ⟨hD, ih h.2 hInv⟩

/-- When a condition says exactly which steps keep a property, over an invariant that every
step keeps, the runs that meet it are those in which the property holds all the way. -/
theorem meets_iff_forall_prefix (Base Inv : σ → Prop)
    (hkeeps : ∀ s e, Base s → Base (M.step s e))
    (hiff : ∀ s e, Base s → Inv s → (Inv (M.step s e) ↔ C s e)) {s : σ} {es : List ε}
    (hbase : Base s) (hs : Inv s) :
    M.Meets C s es ↔ ∀ before after, es = before ++ after → Inv (M.run s before) := by
  constructor
  · intro h before after hes
    subst hes
    have hboth := (meets_append.mp h).1.invariant (fun t => Base t ∧ Inv t)
      (fun t e ht hC => ⟨hkeeps t e ht.1, (hiff t e ht.1 ht.2).mpr hC⟩) ⟨hbase, hs⟩
    exact hboth.2
  · intro h
    induction es generalizing s with
    | nil => trivial
    | cons e es ih =>
      have hfirst : Inv (M.step s e) := h [e] es rfl
      constructor
      · exact (hiff s e hbase hs).mp hfirst
      · apply ih (hkeeps s e hbase) hfirst
        intro before after hes
        exact h (e :: before) after (by rw [hes, List.cons_append])

/-- What every step preserves holds at the end of every run. -/
theorem run_invariant (Inv : σ → Prop)
    (preserved : ∀ s e, Inv s → Inv (M.step s e))
    {s : σ} (es : List ε) (hs : Inv s) : Inv (M.run s es) := by
  induction es generalizing s with
  | nil => exact hs
  | cons e es ih => exact ih (preserved s e hs)

/-! ## Notes -/

variable (M) in
/-- The machine with something that is noted of its steps, which it does not depend on. -/
def noting {ν : Type*} (note : σ → ν → ε → ν) : EventMachine (σ × ν) ε where
  Start s := M.Start s.1
  step s e := (M.step s.1 e, note s.1 s.2 e)

theorem run_noting_fst {ν : Type*} (note : σ → ν → ε → ν) (s : σ) (n : ν) (es : List ε) :
    ((M.noting note).run (s, n) es).1 = M.run s es := by
  induction es generalizing s n with
  | nil => rfl
  | cons e es ih =>
    have hstep : (M.noting note).step (s, n) e = (M.step s e, note s n e) := rfl
    rw [run_cons, hstep, ih, run_cons]

/-! ## Logs -/

/-- With a log that no step takes anything from, each entry of the log of a run has been added
in one of its steps. -/
theorem exists_step_of_entry {α : Type*} {log : σ → List α}
    (hadds : ∀ s e, ∃ new, log (M.step s e) = log s ++ new) {s : σ} {es : List ε}
    (hs : log s = []) {told rest : List α} {x : α} (h : log (M.run s es) = told ++ x :: rest) :
    ∃ before e after mid last, es = before ++ e :: after ∧ told = log (M.run s before) ++ mid ∧
      log (M.step (M.run s before) e) = log (M.run s before) ++ (mid ++ x :: last) := by
  induction es using List.reverseRecOn generalizing rest with
  | nil =>
    rw [run_nil, hs] at h
    simp at h
  | append_singleton es e ih =>
    obtain ⟨new, hnew⟩ := hadds (M.run s es) e
    rw [run_concat, hnew] at h
    rcases List.append_eq_append_iff.mp h with ⟨mid, rfl, hmid⟩ | ⟨left, hleft, hrest⟩
    · exact ⟨es, e, [], mid, rest, rfl, rfl, by rw [hnew, hmid]⟩
    · cases left with
      | nil =>
        rw [List.append_nil] at hleft
        exact ⟨es, e, [], [], rest, rfl, by rw [hleft, List.append_nil], by
          rw [hnew, List.nil_append, hrest, List.nil_append]⟩
      | cons y left =>
        obtain ⟨rfl, -⟩ := List.cons.inj hrest
        obtain ⟨before, f, after, mid, last, rfl, htold, hstep⟩ := ih hleft
        exact ⟨before, f, after ++ [e], mid, last, by simp, htold, hstep⟩

/-! ## The past -/

variable (M) in
/-- The machine with the events that it has taken. -/
def withPast : EventMachine (σ × List ε) ε where
  Start s := M.Start s.1 ∧ s.2 = []
  step s e := (M.step s.1 e, s.2 ++ [e])

theorem run_withPast (s : σ) (past es : List ε) :
    M.withPast.run (s, past) es = (M.run s es, past ++ es) := by
  induction es generalizing s past with
  | nil => simp
  | cons e es ih =>
    have hstep : M.withPast.step (s, past) e = (M.step s e, past ++ [e]) := rfl
    rw [run_cons, hstep, ih, run_cons, List.append_assoc, List.singleton_append]

end EventMachine
