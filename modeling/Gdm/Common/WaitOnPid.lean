import Mathlib.Data.List.Count
import Mathlib.Tactic.Linarith

/-!
# Waiting for a child

A child that has been told to end is asked for until it has, ten times a second and no
longer than a number of seconds when there is one.  The status of the child is written by
`waitpid` only when there is one to report.
-/

namespace Gdm

/-- How a process has ended: `WIFEXITED` or `WIFSIGNALED`. -/
inductive ProcessEnding
  | exited (status : Nat)
  | killed (signal : Nat)
  deriving DecidableEq, Repr

/-- What `waitpid` returns: the process with its status, 0, or -1 with `errno`. -/
inductive WaitpidResult
  | pid (status : Int)
  | zero
  | eintr
  | echild
  | error (errno : Int)
  deriving DecidableEq, Repr

namespace WaitpidResult

/-- The result is an error other than that the call was interrupted. -/
def Failed : WaitpidResult → Prop
  | pid _ | zero | eintr => False
  | echild | error _ => True

end WaitpidResult

/-- What the function returns: the variable `status`, which may not be set, or 0 when it has
given up. -/
inductive WaitReturn
  | status (status : Option Int)
  | ignoring
  deriving DecidableEq, Repr

/-- The results that have been got from `waitpid`, and what is returned: `none` while the
function still waits. -/
structure Wait where
  got : List WaitpidResult
  returned : Option WaitReturn
  deriving DecidableEq, Repr

namespace Wait

/-- One result more, before the others. -/
def after (result : WaitpidResult) (wait : Wait) : Wait :=
  { wait with got := result :: wait.got }

end Wait

/-- The part of `gdm_wait_on_and_disown_pid` from `wait_again` on. -/
def waitAgain (status : Option Int) : Int32 → List WaitpidResult → Wait
  | _, [] => { got := [], returned := none }
  | numTries, .eintr :: results => (waitAgain status numTries results).after .eintr
  | _, .echild :: _ => { got := [.echild], returned := some (.status status) }
  | _, .error errno :: _ => { got := [.error errno], returned := some (.status status) }
  | numTries, .zero :: results =>
    if 0 < numTries - 1 then (waitAgain status (numTries - 1) results).after .zero
    else { got := [.zero], returned := some .ignoring }
  | _, .pid status :: _ => { got := [.pid status], returned := some (.status (some status)) }

/-- `gdm_wait_on_and_disown_pid`, for what `waitpid` returns each time. -/
def gdmWaitOnAndDisownPid (timeout : Int32) (results : List WaitpidResult) : Wait :=
  waitAgain none (if 0 < timeout then 10 * timeout else 0) results

/-- `gdm_wait_on_pid` -/
def gdmWaitOnPid (results : List WaitpidResult) : Wait :=
  gdmWaitOnAndDisownPid 0 results

/-! ## How often 0 is returned -/

/-- How often `waitpid` may return 0 before the function gives up. -/
def triesLeft (numTries : Int32) : Nat :=
  if numTries = Int32.minValue then 2147483648 else max 1 numTries.toInt.toNat

theorem triesLeft_toInt (numTries : Int32) :
    triesLeft numTries =
      if numTries.toInt = -2 ^ 31 then 2147483648 else max 1 numTries.toInt.toNat := by
  have hmin : Int32.minValue.toInt = -2 ^ 31 := rfl
  simp only [triesLeft, ← Int32.toInt_inj, hmin]

theorem triesLeft_pos (numTries : Int32) : 0 < triesLeft numTries := by
  unfold triesLeft
  split
  · decide
  · omega

theorem toInt_sub_one (numTries : Int32) :
    (numTries.toInt = -2 ^ 31 ∧ (numTries - 1).toInt = 2 ^ 31 - 1) ∨
      (-2 ^ 31 < numTries.toInt ∧ (numTries - 1).toInt = numTries.toInt - 1) := by
  have hupper := numTries.toInt_lt
  have hlower := numTries.le_toInt
  have hpred : (numTries - 1).toInt = (numTries.toInt - 1).bmod (2 ^ 32) := Int32.toInt_sub _ _
  rcases Int.le_iff_eq_or_lt.mp hlower with hleast | hmore
  · left
    rw [hpred, ← hleast]
    exact ⟨rfl, rfl⟩
  · right
    refine ⟨hmore, hpred.trans ?_⟩
    apply Int.bmod_eq_of_le
    · omega
    · omega

/-- The counter is decremented for each of them; below the least `int` there is the largest
one. -/
theorem triesLeft_eq (numTries : Int32) :
    triesLeft numTries = if 0 < numTries - 1 then triesLeft (numTries - 1) + 1 else 1 := by
  rw [triesLeft_toInt, triesLeft_toInt]
  simp only [Int32.lt_iff_toInt_lt, Int32.toInt_zero]
  rcases toInt_sub_one numTries with ⟨hleast, hpred⟩ | ⟨hmore, hpred⟩
  · rw [if_pos hleast, hpred]
    decide
  · rw [if_neg (by omega), hpred]
    split
    · rw [if_neg (by omega)]
      omega
    · omega

theorem waitAgain_count_zero (status : Option Int) (results : List WaitpidResult)
    (numTries : Int32) :
    (waitAgain status numTries results).got.count .zero ≤ triesLeft numTries := by
  induction results generalizing numTries with
  | nil => exact Nat.zero_le _
  | cons result results ih =>
    have hpos := triesLeft_pos numTries
    cases result with
    | eintr => simpa [waitAgain, Wait.after] using ih numTries
    | zero =>
      have hnext := ih (numTries - 1)
      rw [triesLeft_eq, waitAgain]
      split
      · simpa [Wait.after] using hnext
      · simp
    | echild => simp [waitAgain]
    | error errno => simp [waitAgain]
    | pid status => simp [waitAgain]

/-- The tries are ten a second, and fewer when the product does not fit an `int`. -/
theorem triesLeft_mul_le {timeout : Int32} (htimeout : 0 < timeout) :
    (triesLeft (10 * timeout) : Int) ≤ 10 * timeout.toInt := by
  have hpos : 0 < timeout.toInt := Int32.lt_iff_toInt_lt.mp htimeout
  have hupper := (10 * timeout).toInt_lt
  obtain ⟨wraps, hproduct⟩ : ∃ wraps : Int,
      (10 * timeout).toInt = 10 * timeout.toInt - 4294967296 * wraps :=
    ⟨_, (Int32.toInt_mul 10 timeout).trans (Int.bmod_eq_self_sub_mul_bdiv _ _)⟩
  rw [triesLeft_toInt]
  generalize (10 * timeout).toInt = product at hproduct hupper
  split
  · rename_i hleast
    rw [hleast] at hproduct
    have hwraps : 0 < wraps := by
      by_contra hnot
      linarith
    rw [Nat.cast_ofNat]
    linarith
  · omega

/-! ## What is returned -/

/-- The first result that ends the waiting is an error, and it comes before the function gives
up. -/
def FailsWithin (tries : Nat) (results : List WaitpidResult) : Prop :=
  ∃ before error after, results = before ++ error :: after ∧ error.Failed ∧
    (∀ result ∈ before, result = .eintr ∨ result = .zero) ∧ before.count .zero < tries

variable {tries : Nat} {results : List WaitpidResult}

theorem not_failsWithin_nil : ¬ FailsWithin tries [] := by
  rintro ⟨before, error, after, hresults, -⟩
  simp at hresults

theorem failsWithin_cons (result : WaitpidResult) :
    FailsWithin tries (result :: results) ↔
      (result.Failed ∧ 0 < tries) ∨ (result = .eintr ∧ FailsWithin tries results) ∨
        (result = .zero ∧ ∃ left, tries = left + 1 ∧ FailsWithin left results) := by
  constructor
  · rintro ⟨before, error, after, hresults, herror, hbefore, hcount⟩
    cases before with
    | nil =>
      obtain ⟨rfl, rfl⟩ := List.cons.inj hresults
      exact .inl ⟨herror, by simpa using hcount⟩
    | cons first before =>
      obtain ⟨rfl, rfl⟩ := List.cons.inj hresults
      have hrest : ∀ result ∈ before, result = .eintr ∨ result = .zero :=
        fun result hresult => hbefore result (List.mem_cons_of_mem _ hresult)
      rcases hbefore _ (List.mem_cons_self ..) with rfl | rfl
      · exact .inr (.inl ⟨rfl, before, error, after, rfl, herror, hrest, by simpa using hcount⟩)
      · rw [List.count_cons_self] at hcount
        obtain ⟨left, rfl⟩ := Nat.exists_eq_succ_of_ne_zero (Nat.ne_zero_of_lt hcount)
        exact .inr (.inr ⟨rfl, left, rfl, before, error, after, rfl, herror, hrest, by omega⟩)
  · rintro (⟨hfailed, hpos⟩ | ⟨rfl, before, error, after, rfl, herror, hbefore, hcount⟩ |
      ⟨rfl, left, rfl, before, error, after, rfl, herror, hbefore, hcount⟩)
    · exact ⟨[], result, results, rfl, hfailed, by simp, hpos⟩
    · refine ⟨.eintr :: before, error, after, rfl, herror, ?_, ?_⟩
      · simpa using hbefore
      · simpa using hcount
    · refine ⟨.zero :: before, error, after, rfl, herror, ?_, ?_⟩
      · simpa using hbefore
      · simpa using hcount

/-- What is returned as the status of the child has been reported, but for an error. -/
theorem waitAgain_status (results : List WaitpidResult) (numTries : Int32) (status : Option Int) :
    (waitAgain none numTries results).returned = some (.status status) ↔
      (∃ value, status = some value ∧
        .pid value ∈ (waitAgain none numTries results).got) ∨
      (status = none ∧ FailsWithin (triesLeft numTries) results) := by
  induction results generalizing numTries with
  | nil => simp [waitAgain, not_failsWithin_nil]
  | cons result results ih =>
    have hpos := triesLeft_pos numTries
    rw [failsWithin_cons]
    cases result with
    | eintr => simp [waitAgain, Wait.after, ih, WaitpidResult.Failed]
    | zero =>
      rw [triesLeft_eq, waitAgain]
      split
      · simp [Wait.after, ih, WaitpidResult.Failed]
      · simp [FailsWithin, WaitpidResult.Failed]
    | echild => simp [waitAgain, WaitpidResult.Failed, hpos, eq_comm]
    | error errno => simp [waitAgain, WaitpidResult.Failed, hpos, eq_comm]
    | pid value => simp [waitAgain, WaitpidResult.Failed, eq_comm]

/-- How often `waitpid` may return 0 for a timeout. -/
def pollLimit (timeout : Int32) : Nat :=
  triesLeft (if 0 < timeout then 10 * timeout else 0)

theorem pollLimit_eq {timeout : Int32} (htimeout : 0 < timeout)
    (hfits : timeout.toInt ≤ 214748364) : (pollLimit timeout : Int) = 10 * timeout.toInt := by
  have hpos : 0 < timeout.toInt := Int32.lt_iff_toInt_lt.mp htimeout
  have hproduct : (10 * timeout).toInt = 10 * timeout.toInt := by
    have hten : (10 : Int32).toInt = 10 := rfl
    rw [Int32.toInt_mul, hten]
    apply Int.bmod_eq_of_le
    · omega
    · omega
  rw [pollLimit, if_pos htimeout, triesLeft_toInt, hproduct]
  split
  · omega
  · omega

/-- For a number of seconds that is positive, `waitpid` returns 0 no more than ten times a second,
and a status that is returned is one of those that `waitpid` has reported. -/
structure WaitsRight (timeout : Int32) (wait : Wait) : Prop where
  polls : 0 < timeout → (wait.got.count .zero : Int) ≤ 10 * timeout.toInt
  reported : ∀ status, wait.returned = some (.status status) →
    ∃ value, status = some value ∧ .pid value ∈ wait.got

/-- The function is right just when the first result that ends the waiting is no error. -/
theorem waitsRight_iff (timeout : Int32) (results : List WaitpidResult) :
    (WaitsRight timeout (gdmWaitOnAndDisownPid timeout results) ↔
      ¬ FailsWithin (pollLimit timeout) results) ∧
    (WaitsRight 0 (gdmWaitOnPid results) ↔ ¬ FailsWithin (pollLimit 0) results) := by
  have hboth : ∀ timeout, WaitsRight timeout (gdmWaitOnAndDisownPid timeout results) ↔
      ¬ FailsWithin (pollLimit timeout) results := by
    intro timeout
    constructor
    · intro h hfails
      have hunset := (waitAgain_status results _ none).mpr (.inr ⟨rfl, hfails⟩)
      obtain ⟨value, hvalue, -⟩ := h.reported none hunset
      cases hvalue
    · intro hworks
      constructor
      · intro htimeout
        have hcount := waitAgain_count_zero none results (10 * timeout)
        have hlimit := triesLeft_mul_le htimeout
        rw [gdmWaitOnAndDisownPid, if_pos htimeout]
        omega
      · intro status hstatus
        rcases (waitAgain_status results _ status).mp hstatus with hreported | ⟨-, hfails⟩
        · exact hreported
        · exact absurd hfails hworks
  exact ⟨hboth timeout, hboth 0⟩

/-- The child has been reaped already. -/
theorem waitsRight_reaped :
    ¬ ∀ (timeout : Int32) (results : List WaitpidResult),
      WaitsRight timeout (gdmWaitOnAndDisownPid timeout results) := by
  intro h
  obtain ⟨value, hvalue, -⟩ := (h 5 [.echild]).reported none (by decide)
  cases hvalue

end Gdm
