import Gdm.Worker.StepCases

/-!
# The worker as a transition system

A whole step of the main loop is a sequence of the transitions of this module,
whatever the event and whatever the outside answers.  An invariant of the worker
has to be checked once for each kind of transition.
-/

namespace Gdm

/-- The effects that are neither PAM calls nor changes of the state nor forks. -/
def Effect.isAside : Effect → Bool
  | pam _ _ _ | notifyState _ | forked _ _ => false
  | _ => true

namespace GdmSessionWorker

variable {worker worker' worker'' : GdmSessionWorker}

/-! ## Sound workers -/

/-- What holds of the worker between two callbacks, whatever it is asked for. -/
structure Sound (worker : GdmSessionWorker) : Prop where
  handle : worker.state = .none ↔ worker.pamHandle = none
  root : worker.euid = 0 ∧ worker.fsuid = 0
  credFlags : worker.credFlags ≠ .deleteCred
  /-- a reauthentication worker has nothing to do in an open session -/
  reauthOpened : worker.isReauthSession = true → worker.state = .sessionOpened →
    worker.stateChangeIdle = false
  reauthStarted : worker.isReauthSession = true → worker.state ≠ .sessionStarted

theorem sound_new (isReauthSession : Bool) (accounts : String → Option Account) :
    Sound (new isReauthSession accounts) :=
  ⟨by simp [new], ⟨rfl, rfl⟩, by simp [new], by simp [new], by simp [new]⟩

/-- The handle of a sound worker outside of NONE. -/
theorem Sound.at_state (hs : Sound worker) {state : GdmSessionWorkerState}
    (hstate : worker.state = state) (hnone : state ≠ .none) :
    ∃ handle, At worker state handle := by
  cases hhandle : worker.pamHandle with
  | none => exact absurd (hstate ▸ hs.handle.mpr hhandle) hnone
  | some handle => exact ⟨handle, hstate, hhandle⟩

/-! ## Transitions -/

/-- Requests, replies and the bookkeeping of the main loop. -/
structure Aside (worker worker' : GdmSessionWorker) : Prop where
  state : worker'.state = worker.state
  pamHandle : worker'.pamHandle = worker.pamHandle
  nextHandle : worker'.nextHandle = worker.nextHandle
  isReauthSession : worker'.isReauthSession = worker.isReauthSession
  root : worker'.euid = worker.euid ∧ worker'.fsuid = worker.fsuid
  credFlags : worker.credFlags ≠ .deleteCred → worker'.credFlags ≠ .deleteCred
  stateChangeIdle : worker.isReauthSession = true → worker.state = .sessionOpened →
    worker.stateChangeIdle = false → worker'.stateChangeIdle = false
  log : ∃ new, worker'.log = worker.log ++ new ∧ ∀ effect ∈ new, effect.isAside = true

theorem Aside.refl (worker : GdmSessionWorker) : Aside worker worker :=
  ⟨rfl, rfl, rfl, rfl, ⟨rfl, rfl⟩, id, fun _ _ => id, [], by simp, by simp⟩

theorem Aside.trans (h : Aside worker worker') (h' : Aside worker' worker'') :
    Aside worker worker'' := by
  refine ⟨h'.state.trans h.state, h'.pamHandle.trans h.pamHandle,
    h'.nextHandle.trans h.nextHandle, h'.isReauthSession.trans h.isReauthSession,
    ⟨h'.root.1.trans h.root.1, h'.root.2.trans h.root.2⟩,
    fun hflags => h'.credFlags (h.credFlags hflags), ?_, ?_⟩
  · intro hreauth hstate hidle
    exact h'.stateChangeIdle (h.isReauthSession.trans hreauth) (h.state.trans hstate)
      (h.stateChangeIdle hreauth hstate hidle)
  · exact History.exists_added_trans h.log h'.log

/-- Everything the worker does, in the pieces that its invariants are about. -/
inductive Transition : GdmSessionWorker → GdmSessionWorker → Prop
  | pam {w w' : GdmSessionWorker} : PamStep w w' → Transition w w'
  | saves {w : GdmSessionWorker} : w.state = .accredited →
      Transition w (w.setState .accountDetailsSaved).queueStateChange
  | connects {w : GdmSessionWorker} (i : Nat) : Transition w (w.connectIsLoaded i)
  | forks {w : GdmSessionWorker} {handle : Nat} (pid : Int) (arguments : List String) :
      At w .sessionOpened handle → w.isReauthSession = false →
      Transition w (w.forks pid arguments)
  | aside {w w' : GdmSessionWorker} : Aside w w' → Transition w w'

def Transitions : GdmSessionWorker → GdmSessionWorker → Prop :=
  Relation.ReflTransGen Transition

theorem Transitions.refl (worker : GdmSessionWorker) : Transitions worker worker :=
  Relation.ReflTransGen.refl

theorem Transitions.single (h : Transition worker worker') : Transitions worker worker' :=
  Relation.ReflTransGen.single h

theorem Transitions.trans (h : Transitions worker worker') (h' : Transitions worker' worker'') :
    Transitions worker worker'' :=
  Relation.ReflTransGen.trans h h'

theorem Transitions.tail (h : Transitions worker worker') (h' : Transition worker' worker'') :
    Transitions worker worker'' :=
  Relation.ReflTransGen.tail h h'

theorem Transitions.preserves {P : GdmSessionWorker → Prop}
    (hstep : ∀ w w', Transition w w' → P w → P w')
    (h : Transitions worker worker') (hP : P worker) : P worker' := by
  induction h with
  | refl => exact hP
  | tail _ hlast ih => exact hstep _ _ hlast ih

theorem PamSteps.transitions (h : PamSteps worker worker') : Transitions worker worker' :=
  h.preserves (P := fun w => Transitions worker w)
    (fun _ _ hstep htransitions => htransitions.tail (.pam hstep)) (.refl worker)

theorem Settles.transition (h : Settles worker worker') : Transition worker worker' :=
  .pam (.settles h)

theorem Quiet.transition (h : Quiet worker worker') : Transition worker worker' :=
  .pam (.settles (.quiet h))

/-! ## Soundness is an invariant of the transitions -/

theorem Settles.sound (h : Settles worker worker') (hs : Sound worker) : Sound worker' := by
  have hframe := h.pamFrame
  refine ⟨?_, ?_, ?_, ?_, ?_⟩
  · rw [h.pamHandle, ← hs.handle]
    rcases h.state with heq | ⟨hold, hnew⟩
    · rw [heq]
    · simp [hold, hnew]
  · rw [hframe.root.1, hframe.root.2]
    exact hs.root
  · rw [hframe.credFlags]
    exact hs.credFlags
  · intro hreauth hopened
    rw [hframe.isReauthSession] at hreauth
    have hstate : worker.state = .sessionOpened := by
      rcases h.state with heq | ⟨_, hnew⟩
      · rw [← heq, hopened]
      · rw [hnew] at hopened
        cases hopened
    have hquiet := h.quiet_of_state (by simp [hstate]) (by simp [hstate])
    rw [hquiet.stateChangeIdle]
    exact hs.reauthOpened hreauth hstate
  · intro hreauth hstarted
    rw [hframe.isReauthSession] at hreauth
    rcases h.state with heq | ⟨_, hnew⟩
    · exact hs.reauthStarted hreauth (heq ▸ hstarted)
    · rw [hnew] at hstarted
      cases hstarted

/-- A transition of PAM to a state below SESSION_OPENED keeps the worker sound if
the handle goes with the state. -/
theorem PamStep.sound_of_state (h : PamStep worker worker') (hs : Sound worker)
    (hhandle : worker'.state = .none ↔ worker'.pamHandle = none)
    (hopened : worker'.state ≠ .sessionOpened) (hstarted : worker'.state ≠ .sessionStarted) :
    Sound worker' := by
  have hframe := h.pamFrame
  refine ⟨hhandle, ?_, ?_, fun _ h => absurd h hopened, fun _ => hstarted⟩
  · rw [hframe.root.1, hframe.root.2]
    exact hs.root
  · rw [hframe.credFlags]
    exact hs.credFlags

theorem PamStep.sound_of_same (h : PamStep worker worker') (hs : Sound worker)
    (hstate : worker'.state = worker.state) (hhandle : worker'.pamHandle = worker.pamHandle)
    (hidle : worker'.stateChangeIdle = worker.stateChangeIdle) : Sound worker' := by
  have hframe := h.pamFrame
  refine ⟨by rw [hstate, hhandle, hs.handle], ?_, ?_, ?_, ?_⟩
  · rw [hframe.root.1, hframe.root.2]
    exact hs.root
  · rw [hframe.credFlags]
    exact hs.credFlags
  · rw [hframe.isReauthSession, hstate, hidle]
    exact hs.reauthOpened
  · rw [hframe.isReauthSession, hstate]
    exact hs.reauthStarted

theorem AccountManaged.pamHandle {handle : Nat} (h : AccountManaged handle worker worker') :
    worker'.pamHandle = worker.pamHandle := by
  cases h with
  | valid flag => rfl
  | tokenChanged flag hquiet => exact hquiet.pamHandle

theorem PamStep.sound (h : PamStep worker worker') (hs : Sound worker) : Sound worker' := by
  have hstep := h
  cases h with
  | settles hsettles => exact hsettles.sound hs
  | sideline _ _ => exact hstep.sound_of_same hs rfl rfl rfl
  | startFails _ => exact hstep.sound_of_same hs rfl rfl rfl
  | calls _ _ => exact hstep.sound_of_same hs rfl rfl rfl
  | starts _ _ => exact hstep.sound_of_state hs (by simp [startPam, emit]) (by simp) (by simp)
  | startEnds _ _ _ =>
    exact hstep.sound_of_state hs (by simp [endPam]) (by simp [endPam]) (by simp [endPam])
  | authenticated _ _ hhandle =>
    exact hstep.sound_of_state hs (by simp [emit, hhandle]) (by simp) (by simp)
  | authorized _ hhandle hmanaged =>
    exact hstep.sound_of_state hs (by simp [hmanaged.pamHandle, hhandle]) (by simp) (by simp)
  | reauthAuthorized _ hstate =>
    have hhandle := mt hs.handle.mpr (by simp [hstate])
    exact hstep.sound_of_state hs (by simpa using hhandle) (by simp) (by simp)
  | accredited _ hhandle _ =>
    exact hstep.sound_of_state hs (by simp [emit, hhandle]) (by simp) (by simp)
  | reauthAccredited _ hstate =>
    have hhandle := mt hs.handle.mpr (by simp [hstate])
    exact hstep.sound_of_state hs (by simpa using hhandle) (by simp) (by simp)
  | opened silent hstate hhandle hidle =>
    have hframe := hstep.pamFrame
    refine ⟨by simp [emit, hhandle], ?_, ?_, ?_, by simp⟩
    · rw [hframe.root.1, hframe.root.2]
      exact hs.root
    · rw [hframe.credFlags]
      exact hs.credFlags
    · intro _ _
      simpa [emit] using hidle
  | ended _ _ _ _ =>
    exact hstep.sound_of_state hs (by simp [endPam]) (by simp [endPam]) (by simp [endPam])
  | endedAccredited _ _ _ _ _ =>
    exact hstep.sound_of_state hs (by simp [endPam]) (by simp [endPam]) (by simp [endPam])
  | endedOpened _ _ _ _ _ _ =>
    exact hstep.sound_of_state hs (by simp [endPam]) (by simp [endPam]) (by simp [endPam])

theorem Aside.sound (h : Aside worker worker') (hs : Sound worker) : Sound worker' := by
  refine ⟨by rw [h.state, h.pamHandle, hs.handle], ?_, h.credFlags hs.credFlags, ?_, ?_⟩
  · rw [h.root.1, h.root.2]
    exact hs.root
  · intro hreauth hopened
    rw [h.isReauthSession] at hreauth
    rw [h.state] at hopened
    exact h.stateChangeIdle hreauth hopened (hs.reauthOpened hreauth hopened)
  · rw [h.isReauthSession, h.state]
    exact hs.reauthStarted

theorem Transition.sound (h : Transition worker worker') (hs : Sound worker) :
    Sound worker' := by
  cases h with
  | pam hstep => exact hstep.sound hs
  | saves hstate =>
    have hhandle := mt hs.handle.mpr (by simp [hstate])
    rw [setState_of_ne (by simp [hstate])]
    exact ⟨by simpa [queueStateChange] using hhandle, hs.root, hs.credFlags,
      by simp [queueStateChange], by simp [queueStateChange]⟩
  | connects i => exact ⟨hs.handle, hs.root, hs.credFlags, hs.reauthOpened, hs.reauthStarted⟩
  | forks pid arguments hat hreauth =>
    have hstate := hat.state_eq
    simp only [GdmSessionWorker.forks, setState, emit, hstate, reduceCtorEq, if_false]
    exact ⟨by simp [hat.handle_eq], hs.root, hs.credFlags, by simp [hreauth], by simp [hreauth]⟩
  | aside haside => exact haside.sound hs

theorem Transitions.sound (h : Transitions worker worker') (hs : Sound worker) :
    Sound worker' :=
  h.preserves (fun _ _ hstep => hstep.sound) hs

/-! ## The idle callback -/

/-- The method whose invocation is answered at the end of the step to a state.
The step to ACCOUNT_DETAILS_SAVED answers nothing. -/
def answeredMethod : GdmSessionWorkerState → Option Method
  | .setupComplete => some .Initialize
  | .authenticated => some .Authenticate
  | .authorized => some .Authorize
  | .accredited => some .EstablishCredentials
  | .sessionOpened => some .Open
  | .sessionStarted => some .StartProgram
  | .none | .accountDetailsSaved => none

/-- The outcomes of the step of `worker` to `newState`. -/
inductive StepOutcome (worker : GdmSessionWorker) (newState : GdmSessionWorkerState) :
    GdmSessionWorker → Prop
  | aborted (assertion : Assertion) : assertion.ofStateChange = false →
      StepOutcome worker newState (worker.abort assertion)
  | completed {method : Method} {w' : GdmSessionWorker} :
      answeredMethod newState = some method → Completes method worker w' →
      StepOutcome worker newState w'
  | saved {w' : GdmSessionWorker} : newState = .accountDetailsSaved →
      worker.state = .accredited →
      Quiet (worker.setState .accountDetailsSaved).queueStateChange w' →
      StepOutcome worker newState w'
  | waits {w' : GdmSessionWorker} (i : Nat) : newState = .accountDetailsSaved →
      worker.state = .accredited → worker.userSettings = some i →
      Settles (worker.connectIsLoaded i) w' → StepOutcome worker newState w'
  | forked {handle : Nat} (pid : Int) (arguments : List String) :
      newState = .sessionStarted → At worker .sessionOpened handle →
      worker.isReauthSession = false →
      StepOutcome worker newState ((worker.forks pid arguments).answer
        (.StartProgram (worker.forks pid arguments).childPid))

theorem aside_emit {effect : Effect} (h : effect.isAside = true) :
    Aside worker (worker.emit effect) :=
  ⟨rfl, rfl, rfl, rfl, ⟨rfl, rfl⟩, id, fun _ _ => id, [effect], rfl, by simpa using h⟩

theorem aside_dispatched (newState : GdmSessionWorkerState) :
    Aside worker (worker.dispatched newState) :=
  ⟨rfl, rfl, rfl, rfl, ⟨rfl, rfl⟩, id, fun _ _ _ => rfl, [_], rfl, by simp [Effect.isAside]⟩

theorem aside_abort (assertion : Assertion) : Aside worker (worker.abort assertion) :=
  ⟨rfl, rfl, rfl, rfl, ⟨rfl, rfl⟩, id, fun _ _ => id, [], by simp [abort], by simp⟩

theorem aside_answer (reply : Reply) : Aside worker (worker.answer reply) :=
  ⟨rfl, rfl, rfl, rfl, ⟨rfl, rfl⟩, id, fun _ _ => id, [_], rfl, by simp [Effect.isAside]⟩

/-- The step from a state to the next one. -/
theorem performStateChange_outcome (hs : Sound worker) (hrunning : worker.status = .running)
    (hidle : worker.stateChangeIdle = false)
    (hreauth : worker.isReauthSession = true → worker.state ≠ .sessionOpened)
    {newState : GdmSessionWorkerState} (hnext : worker.state.toNat + 1 = newState.toNat)
    (o : Outcomes) :
    StepOutcome worker newState (worker.performStateChange o newState) := by
  cases hstate : worker.state <;> rw [hstate] at hnext <;> cases newState <;> cases hnext
  case none =>
    rcases completes_doSetup hstate (hs.handle.mp hstate) o with habort | h
    · rw [performStateChange, habort]
      exact .aborted _ rfl
    · exact .completed rfl h
  case setupComplete =>
    obtain ⟨handle, hat⟩ := hs.at_state hstate (by decide)
    exact .completed rfl (completes_doAuthenticate hat hrunning o)
  case authenticated =>
    obtain ⟨handle, hat⟩ := hs.at_state hstate (by decide)
    exact .completed rfl (completes_doAuthorize hat o)
  case authorized =>
    obtain ⟨handle, hat⟩ := hs.at_state hstate (by decide)
    exact .completed rfl (completes_doAccredit hat hs.credFlags o)
  case accredited =>
    rcases doSaveAccountDetailsWhenReady_cases hstate with hnow | ⟨i, hcurrent, hwaits⟩
    · exact .saved rfl hstate hnow
    · exact .waits i rfl hstate hcurrent hwaits
  case accountDetailsSaved =>
    obtain ⟨handle, hat⟩ := hs.at_state hstate (by decide)
    rcases completes_doOpenSession hat hidle hs.root o with habort | h
    · rw [performStateChange, habort]
      exact .aborted _ rfl
    · exact .completed rfl h
  case sessionOpened =>
    obtain ⟨handle, hat⟩ := hs.at_state hstate (by decide)
    rcases doStartSession_cases hat o with ⟨habort, _⟩ | h | ⟨pid, arguments, _, hforks⟩
    · rw [performStateChange, habort]
      exact .aborted _ rfl
    · exact .completed rfl h
    · rw [performStateChange, hforks]
      refine .forked pid arguments rfl hat ?_
      exact Bool.eq_false_iff.mpr fun h => hreauth h hstate

/-- The idle callback performs the step to the next state, unless there is no
next state. -/
theorem stateChangeIdleCallback_cases (hs : Sound worker) (hrunning : worker.status = .running)
    (hidle : worker.stateChangeIdle = true) (o : Outcomes) :
    worker.state = .sessionStarted ∧
        worker.stateChangeIdleCallback o = worker.abort .getStateName ∨
      ∃ newState, worker.state.toNat + 1 = newState.toNat ∧
        StepOutcome (worker.dispatched newState) newState
          (worker.stateChangeIdleCallback o) := by
  unfold stateChangeIdleCallback
  cases hnext : GdmSessionWorkerState.ofNat? (worker.state.toNat + 1) with
  | none =>
    refine .inl ⟨?_, rfl⟩
    cases hstate : worker.state <;> rw [hstate] at hnext <;> cases hnext
  | some newState =>
    have htoNat : worker.state.toNat + 1 = newState.toNat := by
      cases hstate : worker.state <;> rw [hstate] at hnext <;> cases hnext <;> rfl
    refine .inr ⟨newState, htoNat, ?_⟩
    refine performStateChange_outcome ((aside_dispatched newState).sound hs) hrunning rfl ?_
      htoNat o
    intro hreauth hopened
    have hnot := hs.reauthOpened hreauth hopened
    rw [hidle] at hnot
    cases hnot

/-! ## Every step is a sequence of transitions -/

theorem Completes.transitions {method : Method} (h : Completes method worker worker') :
    Transitions worker worker' := by
  obtain ⟨worker₁, reply, hsteps, _, rfl⟩ := h
  exact hsteps.transitions.tail (.aside (aside_answer reply))

theorem StepOutcome.transitions {newState : GdmSessionWorkerState}
    (h : StepOutcome worker newState worker') : Transitions worker worker' := by
  cases h with
  | aborted assertion _ => exact .single (.aside (aside_abort assertion))
  | completed _ hcompletes => exact hcompletes.transitions
  | saved _ hstate hquiet => exact (Transitions.single (.saves hstate)).tail hquiet.transition
  | waits i _ _ _ hsettles => exact (Transitions.single (.connects i)).tail hsettles.transition
  | forked pid arguments _ hat hreauth =>
    exact (Transitions.single (.forks pid arguments hat hreauth)).tail
      (.aside (aside_answer _))

theorem transitions_stateChangeIdleCallback (hs : Sound worker)
    (hrunning : worker.status = .running) (hidle : worker.stateChangeIdle = true)
    (o : Outcomes) : Transitions worker (worker.stateChangeIdleCallback o) := by
  rcases stateChangeIdleCallback_cases hs hrunning hidle o with ⟨_, habort⟩ | ⟨newState, _, h⟩
  · rw [habort]
    exact .single (.aside (aside_abort _))
  · exact (Transitions.single (.aside (aside_dispatched newState))).trans h.transitions

/-- A request for `newState` is in order: nothing is pending, and the worker is
in the state before. -/
def Accepts (worker : GdmSessionWorker) (newState : GdmSessionWorkerState) : Prop :=
  worker.pendingInvocation = none ∧ worker.state.toNat + 1 = newState.toNat

instance (newState : GdmSessionWorkerState) : Decidable (worker.Accepts newState) :=
  inferInstanceAs (Decidable (_ ∧ _))

theorem getStateName_toNat (state : GdmSessionWorkerState) :
    ∃ name, getStateName state.toNat = some name := by
  cases state <;> exact ⟨_, rfl⟩

theorem getStateName_pred (state : GdmSessionWorkerState) :
    ∃ name, getStateName (state.toNat - 1) = some name := by
  cases state <;> exact ⟨_, rfl⟩

theorem getStateName_succ {state : GdmSessionWorkerState} (h : state ≠ .sessionStarted) :
    ∃ name, getStateName (state.toNat + 1) = some name := by
  cases state with
  | sessionStarted => exact absurd rfl h
  | _ => exact ⟨_, rfl⟩

/-- What `validate_state_change` does: it accepts what is in order and answers
anything else with an error, unless it fails to name the outstanding request. -/
theorem validateStateChange_cases (worker : GdmSessionWorker) (invocation : Invocation)
    (newState : GdmSessionWorkerState) :
    worker.Accepts newState ∧ worker.validateStateChange invocation newState =
        (worker.emit (.accepted invocation), true) ∨
      ¬ worker.Accepts newState ∧
        ((∃ error, worker.validateStateChange invocation newState =
            (worker.emit (.completed (some invocation) (.error error)), false)) ∨
          worker.pendingInvocation ≠ none ∧ worker.state = .sessionStarted ∧
            worker.validateStateChange invocation newState =
              (worker.abort .getStateName, false)) := by
  obtain ⟨new, hnew⟩ := getStateName_toNat newState
  obtain ⟨current, hcurrent⟩ := getStateName_toNat worker.state
  obtain ⟨needed, hneeded⟩ := getStateName_pred newState
  unfold validateStateChange Accepts
  cases hpending : worker.pendingInvocation with
  | some pending =>
    right
    refine ⟨by simp, ?_⟩
    by_cases hstarted : worker.state = .sessionStarted
    · right
      have hnone : getStateName (worker.state.toNat + 1) = none := by rw [hstarted]; rfl
      simp [hstarted, hnew, hstarted ▸ hnone]
    · left
      obtain ⟨outstanding, houtstanding⟩ := getStateName_succ hstarted
      exact ⟨_, by simp [hnew, houtstanding, returnError]; rfl⟩
  | none =>
    by_cases hstate : worker.state.toNat + 1 = newState.toNat
    · left
      simp [hstate]
    · right
      refine ⟨by simp [hstate], .inl ⟨⟨.wrongState, "Cannot move to state " ++ new ++
        ", in state " ++ current ++ ", not " ++ needed⟩, ?_⟩⟩
      simp [hstate, hnew, hcurrent, hneeded, returnError]

theorem aside_validateStateChange (invocation : Invocation)
    (newState : GdmSessionWorkerState) :
    Aside worker (worker.validateStateChange invocation newState).1 := by
  rcases validateStateChange_cases worker invocation newState with
    ⟨_, heq⟩ | ⟨_, ⟨error, heq⟩ | ⟨_, _, heq⟩⟩
  · rw [heq]
    exact aside_emit rfl
  · rw [heq]
    exact aside_emit rfl
  · rw [heq]
    exact aside_abort _

/-- The handlers that only validate and queue, for a step other than the start
of the session. -/
theorem aside_validateAndQueueStateChange (invocation : Invocation)
    {newState : GdmSessionWorkerState} (hnew : newState ≠ .sessionStarted) :
    Aside worker (worker.validateAndQueueStateChange invocation newState) := by
  unfold validateAndQueueStateChange
  rcases validateStateChange_cases worker invocation newState with
    ⟨haccepts, heq⟩ | ⟨_, ⟨error, heq⟩ | ⟨_, _, heq⟩⟩
  · rw [heq]
    refine ⟨rfl, rfl, rfl, rfl, ⟨rfl, rfl⟩, id, ?_, [_], rfl, by simp [Effect.isAside]⟩
    intro _ hopened
    have hnext := haccepts.2
    rw [hopened] at hnext
    cases newState with
    | sessionStarted => exact absurd rfl hnew
    | _ => cases hnext
  · rw [heq]
    exact aside_emit rfl
  · rw [heq]
    exact aside_abort _

theorem aside_applyDetail (details : List Detail) :
    Aside worker (details.foldl applyDetail worker) := by
  induction details generalizing worker with
  | nil => exact .refl worker
  | cons detail details ih =>
    refine .trans ?_ ih
    cases detail <;>
      exact ⟨rfl, rfl, rfl, rfl, ⟨rfl, rfl⟩, id, fun _ _ => id, [], by simp [applyDetail],
        by simp⟩

theorem aside_newUserSettings : Aside worker worker.newUserSettings :=
  ⟨rfl, rfl, rfl, rfl, ⟨rfl, rfl⟩, id, fun _ _ => id, [], by simp [newUserSettings], by simp⟩

/-- A program session loads no settings; otherwise a fresh object is used. -/
theorem loadInitialSettings_cases (worker : GdmSessionWorker) :
    worker.loadInitialSettings = (worker, false) ∨
      Settles worker.newUserSettings worker.loadInitialSettings.1 := by
  unfold loadInitialSettings
  split
  · exact .inl rfl
  · right
    dsimp only
    split
    · exact .refl _
    · exact settles_settingsLoad _ _

/-- The part of `Initialize` between the validation and the settings. -/
def initialized (worker : GdmSessionWorker) (invocation : Invocation)
    (details : List Detail) (seat0HasVts : Bool) : GdmSessionWorker :=
  { details.foldl applyDetail worker with
    seat0HasVts := seat0HasVts
    pendingInvocation := some invocation }

theorem aside_initialized (invocation : Invocation) (details : List Detail)
    (seat0HasVts : Bool) :
    Aside worker (worker.initialized invocation details seat0HasVts) := by
  refine (aside_applyDetail details).trans ?_
  exact ⟨rfl, rfl, rfl, rfl, ⟨rfl, rfl⟩, id, fun _ _ => id, [], by simp [initialized], by simp⟩

theorem aside_queueStateChange (hstate : worker.state ≠ .sessionOpened) :
    Aside worker worker.queueStateChange :=
  ⟨rfl, rfl, rfl, rfl, ⟨rfl, rfl⟩, id, fun _ h => absurd h hstate, [],
    by simp [queueStateChange], by simp⟩

/-- The first request is accepted in the first state. -/
theorem eq_none_of_succ {state : GdmSessionWorkerState}
    (h : state.toNat + 1 = GdmSessionWorkerState.setupComplete.toNat) : state = .none := by
  cases state with
  | none => rfl
  | _ => cases h

theorem transitions_handleInitialize (invocation : Invocation) (details : List Detail)
    (seat0HasVts : Bool) :
    Transitions worker (worker.handleInitialize invocation details seat0HasVts) := by
  unfold handleInitialize
  rcases validateStateChange_cases worker invocation .setupComplete with
    ⟨haccepts, heq⟩ | ⟨_, ⟨error, heq⟩ | ⟨_, _, heq⟩⟩
  · rw [heq]
    have hnone : worker.state = .none := eq_none_of_succ haccepts.2
    have haccepted : Aside worker ((worker.emit (.accepted invocation)).initialized
        invocation details seat0HasVts) :=
      (aside_emit rfl).trans (aside_initialized invocation details seat0HasVts)
    dsimp only
    generalize hinit : (worker.emit (.accepted invocation)).initialized
      invocation details seat0HasVts = worker₁ at *
    unfold initialized at hinit
    rw [hinit]
    have hnone₁ : worker₁.state = .none := haccepted.state.trans hnone
    have hload : Transitions worker worker₁.loadInitialSettings.1 ∧
        worker₁.loadInitialSettings.1.state = .none := by
      rcases loadInitialSettings_cases worker₁ with heq | hsettles
      · rw [heq]
        exact ⟨.single (.aside haccepted), hnone₁⟩
      · refine ⟨(Transitions.single (.aside (haccepted.trans aside_newUserSettings))).tail
          hsettles.transition, ?_⟩
        have hstate : worker₁.newUserSettings.state = .none := hnone₁
        rcases hsettles.state with h | ⟨h, _⟩
        · rw [h, hstate]
        · rw [hstate] at h
          cases h
    generalize worker₁.loadInitialSettings = result at *
    obtain ⟨worker₂, wait⟩ := result
    cases wait with
    | true => exact hload.1.tail (.connects _)
    | false =>
      refine hload.1.tail (.aside (aside_queueStateChange ?_))
      rw [hload.2]
      decide
  · rw [heq]
    exact .single (.aside (aside_emit rfl))
  · rw [heq]
    exact .single (.aside (aside_abort _))

theorem aside_handleEstablishCredentials (invocation : Invocation) :
    Aside worker (worker.handleEstablishCredentials invocation) := by
  have hvalidate : Aside worker (worker.validateAndQueueStateChange invocation .accredited) :=
    aside_validateAndQueueStateChange invocation (by decide)
  unfold handleEstablishCredentials
  refine hvalidate.trans ?_
  dsimp only
  split
  · exact .refl _
  · refine ⟨rfl, rfl, rfl, rfl, ⟨rfl, rfl⟩, fun _ => ?_, fun _ _ => id, [], by simp, by simp⟩
    dsimp only
    split <;> simp

theorem aside_handleStartProgram (invocation : Invocation)
    (argv : Except String (List String)) :
    Aside worker (worker.handleStartProgram invocation argv) := by
  have hvalidate : Aside worker (worker.validateStateChange invocation .sessionStarted).1 :=
    aside_validateStateChange invocation .sessionStarted
  unfold handleStartProgram
  generalize (worker.validateStateChange invocation .sessionStarted).1 = worker₁ at *
  dsimp only
  split
  · exact hvalidate
  split
  · exact hvalidate.trans (aside_emit rfl)
  · rename_i hreauth
    refine hvalidate.trans ?_
    have hclear : Aside worker₁ { worker₁ with arguments := none } :=
      ⟨rfl, rfl, rfl, rfl, ⟨rfl, rfl⟩, id, fun _ _ => id, [], by simp, by simp⟩
    cases argv with
    | error message => exact hclear.trans (aside_emit rfl)
    | ok arguments =>
      exact ⟨rfl, rfl, rfl, rfl, ⟨rfl, rfl⟩, id, fun h => absurd h hreauth, [],
        by simp [queueStateChange], by simp⟩

/-- The bookkeeping at the arrival of a call. -/
def arrive (worker : GdmSessionWorker) (method : Method) : GdmSessionWorker :=
  { worker.emit (.received ⟨worker.nextSerial, method⟩) with
    nextSerial := worker.nextSerial + 1 }

theorem aside_arrive (method : Method) : Aside worker (worker.arrive method) :=
  ⟨rfl, rfl, rfl, rfl, ⟨rfl, rfl⟩, id, fun _ _ => id, [_], rfl, by simp [Effect.isAside]⟩

theorem transitions_receive (request : Request) :
    Transitions worker (worker.receive request) := by
  have harrive : Transitions worker (worker.arrive request.method) :=
    .single (.aside (aside_arrive _))
  refine harrive.trans ?_
  cases request with
  | Initialize details seat0HasVts => exact transitions_handleInitialize _ _ _
  | Authenticate => exact .single (.aside (aside_validateAndQueueStateChange _ (by decide)))
  | Authorize => exact .single (.aside (aside_validateAndQueueStateChange _ (by decide)))
  | EstablishCredentials => exact .single (.aside (aside_handleEstablishCredentials _))
  | Open => exact .single (.aside (aside_validateAndQueueStateChange _ (by decide)))
  | StartProgram argv => exact .single (.aside (aside_handleStartProgram _ _))

theorem transitions_uninitializePam (hs : Sound worker) (status : PamCode) (o : Outcomes) :
    Transitions worker (worker.uninitializePam status o) := by
  cases hhandle : worker.pamHandle with
  | none =>
    have heq : worker.uninitializePam status o = worker := by simp [uninitializePam, hhandle]
    rw [heq]
    exact .refl worker
  | some handle =>
    have hstate : worker.state ≠ .none := mt hs.handle.mp (by simp [hhandle])
    exact (pamSteps_uninitializePam hhandle hstate status o).1.transitions

theorem transitions_sessionWorkerChildWatch (hs : Sound worker) (pid : Int) (status : Nat)
    (o : Outcomes) : Transitions worker (worker.sessionWorkerChildWatch pid status o) := by
  refine (transitions_uninitializePam hs .success o).tail (.aside ?_)
  have hchild : Aside (worker.uninitializePam .success o)
      { worker.uninitializePam .success o with childPid := -1, childWatch := none } :=
    ⟨rfl, rfl, rfl, rfl, ⟨rfl, rfl⟩, id, fun _ _ => id, [], by simp, by simp⟩
  exact hchild.trans ((aside_emit rfl).trans (aside_emit rfl))

theorem transitions_finalize (hs : Sound worker) (o : Outcomes) :
    Transitions worker (worker.finalize o) := by
  have hchild : Aside worker { worker with childWatch := none } :=
    ⟨rfl, rfl, rfl, rfl, ⟨rfl, rfl⟩, id, fun _ _ => id, [], by simp, by simp⟩
  unfold finalize
  dsimp only
  have hkill : Aside worker (if 0 < worker.childPid then
      { worker with childWatch := none }.emit (.killed worker.childPid)
      else { worker with childWatch := none }) := by
    split
    · exact hchild.trans (aside_emit rfl)
    · exact hchild
  refine ((Transitions.single (.aside hkill)).trans
    (transitions_uninitializePam (hkill.sound hs) .success o)).tail (.aside ?_)
  exact ⟨rfl, rfl, rfl, rfl, ⟨rfl, rfl⟩, id, fun _ _ => id, [], by simp, by simp⟩

/-- A step of a sound worker is a sequence of transitions. -/
theorem step_transitions (hs : Sound worker) (event : WorkerEvent) :
    Transitions worker (worker.step event) := by
  unfold step
  split
  · exact .refl worker
  rename_i hrunning
  rw [not_not] at hrunning
  cases event with
  | call request => exact transitions_receive request
  | stateChangeIdle o =>
    dsimp only
    split
    · rename_i hidle
      exact transitions_stateChangeIdleCallback hs hrunning hidle o
    · exact .refl worker
  | accountLoaded user account => exact .single (settles_accountLoaded user account).transition
  | accountUnloaded user => exact .single (quiet_setAccounts _).transition
  | setSessionName name =>
    dsimp only [handleSetSessionName]
    split
    · exact .refl worker
    · exact .single (quiet_settingsSetSessionName _ _).transition
  | setLanguageName name =>
    dsimp only [handleSetLanguageName]
    split
    · exact .refl worker
    · exact .single (quiet_settingsSetLanguageName _ _).transition
  | childExited status o =>
    dsimp only
    split
    · exact .refl worker
    · exact transitions_sessionWorkerChildWatch hs _ status o
  | finalize o => exact transitions_finalize hs o

end GdmSessionWorker

end Gdm
