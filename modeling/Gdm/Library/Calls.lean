import Mathlib.Data.List.Basic

/-!
# Calls that make calls

Control of a program whose callbacks call each other is a list of the calls that are
still to be made, the first one first.  A call that is made may change the state, and
puts the calls that it makes itself before the others.  What the outside answers to a
call is an input of the step.

A list of calls ends when every way to answer them does.  The rules below put this
together from what is known of the single calls: of two lists one after the other, and of
a list each of whose calls ends with an invariant.
-/

universe u v w

/-- A state with the calls that are to be made from it. -/
structure WithCalls (σ : Type u) (τ : Type v) where
  state : σ
  calls : List τ

namespace WithCalls

variable {σ : Type u} {τ : Type v}

/-- The calls are made first, and then the others. -/
def andThen (c : WithCalls σ τ) (more : List τ) : WithCalls σ τ :=
  ⟨c.state, c.calls ++ more⟩

@[simp] theorem andThen_state (c : WithCalls σ τ) (more : List τ) :
    (c.andThen more).state = c.state := rfl

@[simp] theorem andThen_calls (c : WithCalls σ τ) (more : List τ) :
    (c.andThen more).calls = c.calls ++ more := rfl

@[simp] theorem andThen_nil (c : WithCalls σ τ) : c.andThen [] = c := by
  simp [andThen]

end WithCalls

/-- What a call does in a state, and the calls that it makes. -/
abbrev CallSemantics (σ : Type u) (τ : Type v) (ι : Type w) :=
  σ → τ → ι → WithCalls σ τ

namespace CallSemantics

variable {σ : Type u} {τ : Type v} {ι : Type w} (exec : CallSemantics σ τ ι)

/-- The first call is made. -/
def next (c : WithCalls σ τ) (i : ι) : WithCalls σ τ :=
  match c.calls with
  | [] => c
  | t :: rest => (exec c.state t i).andThen rest

/-- The state after `n` calls have been made. -/
def after (c : WithCalls σ τ) (answers : ℕ → ι) : ℕ → WithCalls σ τ
  | 0 => c
  | n + 1 => exec.next (after c answers n) (answers n)

/-- Every way to answer the calls that meets `C` comes to an end, with `Q`. -/
inductive Ends (C : σ → τ → ι → Prop) (Q : σ → Prop) : WithCalls σ τ → Prop
  | nil {s : σ} (h : Q s) : Ends C Q ⟨s, []⟩
  | cons {s : σ} {t : τ} {rest : List τ}
      (h : ∀ i, C s t i → Ends C Q ((exec s t i).andThen rest)) : Ends C Q ⟨s, t :: rest⟩

variable {exec} {C : σ → τ → ι → Prop} {P Q : σ → Prop}

theorem Ends.imp {c : WithCalls σ τ} (h : exec.Ends C P c) (himp : ∀ s, P s → Q s) :
    exec.Ends C Q c := by
  induction h with
  | nil hs => exact .nil (himp _ hs)
  | cons _ ih => exact .cons ih

/-- Calls one after the other: the second list is made in a state that the first one ends
with. -/
theorem Ends.andThen {c : WithCalls σ τ} {more : List τ} (h : exec.Ends C P c)
    (hmore : ∀ s, P s → exec.Ends C Q ⟨s, more⟩) : exec.Ends C Q (c.andThen more) := by
  induction h with
  | nil hs => exact hmore _ hs
  | cons _ ih =>
    apply Ends.cons
    intro i hi
    have hnext := ih i hi
    simp only [WithCalls.andThen, List.append_assoc] at hnext ⊢
    exact hnext

theorem Ends.single {s : σ} {t : τ} (h : ∀ i, C s t i → exec.Ends C Q (exec s t i)) :
    exec.Ends C Q ⟨s, [t]⟩ := by
  apply Ends.cons
  intro i hi
  rw [WithCalls.andThen_nil]
  exact h i hi

/-- A list of calls each of which ends with `Q`, when it is made where `Q` holds. -/
theorem Ends.all {calls : List τ} (hcalls : ∀ t ∈ calls, ∀ s, Q s → exec.Ends C Q ⟨s, [t]⟩)
    {s : σ} (hs : Q s) : exec.Ends C Q ⟨s, calls⟩ := by
  induction calls generalizing s with
  | nil => exact .nil hs
  | cons t rest ih =>
    have hfirst : exec.Ends C Q ⟨s, [t]⟩ := hcalls t List.mem_cons_self s hs
    apply hfirst.andThen
    intro s' hs'
    exact ih (fun t' ht' => hcalls t' (List.mem_cons_of_mem _ ht')) hs'

/-- The answers meet the condition whenever there is a call. -/
def AnswersMeet (exec : CallSemantics σ τ ι) (C : σ → τ → ι → Prop) (c : WithCalls σ τ)
    (answers : ℕ → ι) : Prop :=
  ∀ n t rest, (exec.after c answers n).calls = t :: rest →
    C (exec.after c answers n).state t (answers n)

/-- What every call keeps holds after each of the calls. -/
theorem after_invariant (Inv : WithCalls σ τ → Prop)
    (hkeeps : ∀ s t rest i, Inv ⟨s, t :: rest⟩ → C s t i → Inv ((exec s t i).andThen rest))
    {c : WithCalls σ τ} {answers : ℕ → ι} (hmeets : exec.AnswersMeet C c answers) (h : Inv c)
    (n : ℕ) : Inv (exec.after c answers n) := by
  induction n with
  | zero => exact h
  | succ n ih =>
    change Inv (exec.next (exec.after c answers n) (answers n))
    have hmeet := hmeets n
    generalize exec.after c answers n = reached at ih hmeet
    obtain ⟨s, calls⟩ := reached
    cases calls with
    | nil => exact ih
    | cons t rest => exact hkeeps s t rest _ ih (hmeet t rest rfl)

theorem after_next (c : WithCalls σ τ) (answers : ℕ → ι) (n : ℕ) :
    exec.after (exec.next c (answers 0)) (fun k => answers (k + 1)) n =
      exec.after c answers (n + 1) := by
  induction n with
  | zero => rfl
  | succ n ih =>
    change exec.next _ _ = exec.next _ _
    rw [ih]

/-- Along answers that meet the condition the calls come to an end. -/
theorem Ends.exists_nil {c : WithCalls σ τ} (h : exec.Ends C Q c) :
    ∀ answers : ℕ → ι,
      (∀ n t rest, (exec.after c answers n).calls = t :: rest →
        C (exec.after c answers n).state t (answers n)) →
      ∃ n, (exec.after c answers n).calls = [] := by
  induction h with
  | nil _ => exact fun _ _ => ⟨0, rfl⟩
  | @cons s t rest _ ih =>
    intro answers hmeets
    have hnext : ∀ n, exec.after ((exec s t (answers 0)).andThen rest)
        (fun k => answers (k + 1)) n = exec.after ⟨s, t :: rest⟩ answers (n + 1) :=
      after_next ⟨s, t :: rest⟩ answers
    obtain ⟨n, hn⟩ := ih (answers 0) (hmeets 0 t rest rfl) (fun k => answers (k + 1)) (by
      intro n t' rest' hcalls
      rw [hnext] at hcalls ⊢
      exact hmeets (n + 1) t' rest' hcalls)
    refine ⟨n + 1, ?_⟩
    rw [← hnext]
    exact hn

end CallSemantics
