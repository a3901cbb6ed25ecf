import Gdm.Library.History
import Gdm.Worker.Handlers
import Gdm.Worker.Settling
import Mathlib.Logic.Relation

/-!
# What a step can do with PAM

Every step of the worker is a sequence of the transitions of `PamStep`.  The
relation says once which PAM calls go with which change of the state, so that
an invariant about PAM needs one case for each transition and none for the
functions of the worker.
-/

namespace Gdm

/-- The effects of a step itself, as opposed to those of the requests and of the
child: PAM calls, changes of the state and notices. -/
def Effect.isOfStep : Effect → Bool
  | pam _ _ _ | notifyState _ => true
  | effect => effect.isNotice

theorem Effect.isOfStep_of_isNotice {effect : Effect} (h : effect.isNotice = true) :
    effect.isOfStep = true := by
  cases effect with
  | notifyState
  | pam => rfl
  | _ => exact h

namespace GdmSessionWorker

variable {worker worker' : GdmSessionWorker}

/-! ## Setting the state -/

@[simp] theorem setState_state (state : GdmSessionWorkerState) :
    (worker.setState state).state = state := by
  unfold setState
  split
  · assumption
  · rfl

theorem setState_of_ne {state : GdmSessionWorkerState} (h : worker.state ≠ state) :
    worker.setState state =
      { worker with state := state, log := worker.log ++ [.notifyState state] } := by
  simp [setState, h, emit]

theorem setState_self {state : GdmSessionWorkerState} (h : worker.state = state) :
    worker.setState state = worker := by
  simp [setState, h]

@[simp] theorem setState_pamHandle (state : GdmSessionWorkerState) :
    (worker.setState state).pamHandle = worker.pamHandle := by
  unfold setState
  split <;> rfl

@[simp] theorem setState_stateChangeIdle (state : GdmSessionWorkerState) :
    (worker.setState state).stateChangeIdle = worker.stateChangeIdle := by
  unfold setState
  split <;> rfl

/-! ## The transitions -/

/-- A successful `pam_start`. -/
def startPam (worker : GdmSessionWorker) : GdmSessionWorker :=
  { worker with pamHandle := some worker.nextHandle, nextHandle := worker.nextHandle + 1 }.emit
    (.pam .start (some worker.nextHandle) .success)

/-- `pam_end` and what follows it in `gdm_session_worker_uninitialize_pam`. -/
def endPam (worker : GdmSessionWorker) (handle : Nat) (status : PamCode) :
    GdmSessionWorker :=
  { worker.emit (.pam .pamEnd (some handle) status) with pamHandle := none }.setState .none

/-- The calls that neither make nor undo anything: of the others, opening a
session counts only when it succeeds. -/
def IsNeutral (call : PamCall) (code : PamCode) : Prop :=
  match call with
  | .start | .closeSession | .pamEnd => False
  | .setcred flags => flags ≠ .deleteCred
  | .openSession _ => code ≠ .success
  | .authenticate _ | .acctMgmt _ | .chauthtok => True

/-- Account management has succeeded on `handle` between the two states: either
at once, or by the change of the token that it asked for. -/
inductive AccountManaged (handle : Nat) :
    GdmSessionWorker → GdmSessionWorker → Prop
  | valid {w : GdmSessionWorker} (flag : Bool) :
      AccountManaged handle w (w.emit (.pam (.acctMgmt flag) (some handle) .success))
  | tokenChanged {w w' : GdmSessionWorker} (flag : Bool) :
      Quiet (w.emit (.pam (.acctMgmt flag) (some handle) .newAuthtokReqd)) w' →
      AccountManaged handle w (w'.emit (.pam .chauthtok (some handle) .success))

/-- The transitions a step of the worker is made of. -/
inductive PamStep : GdmSessionWorker → GdmSessionWorker → Prop
  | settles {w w' : GdmSessionWorker} : Settles w w' → PamStep w w'
  | sideline {w : GdmSessionWorker} (sessionId : Option String) (passwordIsRequired : Bool) :
      PamStep w { w with sessionId := sessionId, passwordIsRequired := passwordIsRequired }
  | startFails {w : GdmSessionWorker} {code : PamCode} : code ≠ .success →
      PamStep w (w.emit (.pam .start none code))
  | starts {w : GdmSessionWorker} : w.state = .none → w.pamHandle = none →
      PamStep w (w.startPam.setState .setupComplete)
  | startEnds {w : GdmSessionWorker} (code : PamCode) : w.state = .none → w.pamHandle = none →
      PamStep w (w.startPam.endPam w.nextHandle code)
  | calls {w : GdmSessionWorker} {handle : Nat} {call : PamCall} {code : PamCode} :
      w.pamHandle = some handle → IsNeutral call code →
      PamStep w (w.emit (.pam call (some handle) code))
  | authenticated {w : GdmSessionWorker} {handle : Nat} (flag : Bool) :
      w.state = .setupComplete → w.pamHandle = some handle →
      PamStep w ((w.emit (.pam (.authenticate flag) (some handle) .success)).setState
        .authenticated)
  | authorized {w w' : GdmSessionWorker} {handle : Nat} :
      w.state = .authenticated → w.pamHandle = some handle → AccountManaged handle w w' →
      PamStep w (w'.setState .authorized)
  | reauthAuthorized {w : GdmSessionWorker} : w.isReauthSession = true →
      w.state = .authenticated → PamStep w (w.setState .authorized)
  | accredited {w : GdmSessionWorker} {handle : Nat} {flags : CredFlags} :
      w.state = .authorized → w.pamHandle = some handle → flags ≠ .deleteCred →
      PamStep w ((w.emit (.pam (.setcred flags) (some handle) .success)).setState .accredited)
  | reauthAccredited {w : GdmSessionWorker} : w.isReauthSession = true →
      w.state = .authorized → PamStep w (w.setState .accredited)
  | opened {w : GdmSessionWorker} {handle : Nat} (silent : Bool) :
      w.state = .accountDetailsSaved → w.pamHandle = some handle →
      w.stateChangeIdle = false →
      PamStep w ((w.emit (.pam (.openSession silent) (some handle) .success)).setState
        .sessionOpened)
  | ended {w : GdmSessionWorker} {handle : Nat} (code : PamCode) :
      w.pamHandle = some handle → w.state ≠ .none → ¬ .accredited ≤ w.state →
      PamStep w (w.endPam handle code)
  | endedAccredited {w : GdmSessionWorker} {handle : Nat} (code status : PamCode) :
      w.pamHandle = some handle → .accredited ≤ w.state → ¬ .sessionOpened ≤ w.state →
      PamStep w ((w.emit (.pam (.setcred .deleteCred) (some handle) code)).endPam handle status)
  | endedOpened {w w' : GdmSessionWorker} {handle : Nat} (code code' status : PamCode) :
      w.pamHandle = some handle → .sessionOpened ≤ w.state →
      Quiet (w.emit (.pam .closeSession (some handle) code)) w' →
      PamStep w ((w'.emit (.pam (.setcred .deleteCred) (some handle) code')).endPam handle status)

/-- Any number of transitions. -/
def PamSteps : GdmSessionWorker → GdmSessionWorker → Prop :=
  Relation.ReflTransGen PamStep

theorem PamSteps.refl (worker : GdmSessionWorker) : PamSteps worker worker :=
  Relation.ReflTransGen.refl

theorem PamSteps.single (h : PamStep worker worker') : PamSteps worker worker' :=
  Relation.ReflTransGen.single h

theorem PamSteps.trans {worker'' : GdmSessionWorker} (h : PamSteps worker worker')
    (h' : PamSteps worker' worker'') : PamSteps worker worker'' :=
  Relation.ReflTransGen.trans h h'

theorem PamSteps.tail {worker'' : GdmSessionWorker} (h : PamSteps worker worker')
    (h' : PamStep worker' worker'') : PamSteps worker worker'' :=
  Relation.ReflTransGen.tail h h'

/-- What every transition preserves, every sequence of transitions preserves. -/
theorem PamSteps.preserves {P : GdmSessionWorker → Prop}
    (hstep : ∀ w w', PamStep w w' → P w → P w')
    (h : PamSteps worker worker') (hP : P worker) : P worker' := by
  induction h with
  | refl => exact hP
  | tail _ hlast ih => exact hstep _ _ hlast ih

/-! ## What the transitions leave alone -/

/-- The transitions of PAM concern neither the requests nor the child, and
without a connected is-loaded handler they do not queue the idle source. -/
structure PamFrame (worker worker' : GdmSessionWorker) : Prop where
  pendingInvocation : worker'.pendingInvocation = worker.pendingInvocation
  arguments : worker'.arguments = worker.arguments
  isReauthSession : worker'.isReauthSession = worker.isReauthSession
  credFlags : worker'.credFlags = worker.credFlags
  childWatch : worker'.childWatch = worker.childWatch
  root : worker'.euid = worker.euid ∧ worker'.fsuid = worker.fsuid
  nextSerial : worker'.nextSerial = worker.nextSerial
  status : worker'.status = worker.status
  log : ∃ new, worker'.log = worker.log ++ new ∧ ∀ effect ∈ new, effect.isOfStep = true
  calm : (∀ i, worker.isLoadedHandlers i = 0) →
    (∀ i, worker'.isLoadedHandlers i = 0) ∧ worker'.stateChangeIdle = worker.stateChangeIdle

theorem PamFrame.refl (worker : GdmSessionWorker) : PamFrame worker worker :=
  ⟨rfl, rfl, rfl, rfl, rfl, ⟨rfl, rfl⟩, rfl, rfl, ⟨[], by simp, by simp⟩, fun h => ⟨h, rfl⟩⟩

theorem PamFrame.trans {worker'' : GdmSessionWorker} (h : PamFrame worker worker')
    (h' : PamFrame worker' worker'') : PamFrame worker worker'' := by
  refine ⟨h'.pendingInvocation.trans h.pendingInvocation, h'.arguments.trans h.arguments,
    h'.isReauthSession.trans h.isReauthSession, h'.credFlags.trans h.credFlags,
    h'.childWatch.trans h.childWatch,
    ⟨h'.root.1.trans h.root.1, h'.root.2.trans h.root.2⟩, h'.nextSerial.trans h.nextSerial,
    h'.status.trans h.status, ?_, ?_⟩
  · exact History.exists_added_trans h.log h'.log
  · intro hcalm
    obtain ⟨hcalm', hidle⟩ := h.calm hcalm
    obtain ⟨hcalm'', hidle'⟩ := h'.calm hcalm'
    exact ⟨hcalm'', hidle'.trans hidle⟩

theorem pamFrame_emit {effect : Effect} (h : effect.isOfStep = true) :
    PamFrame worker (worker.emit effect) :=
  ⟨rfl, rfl, rfl, rfl, rfl, ⟨rfl, rfl⟩, rfl, rfl, ⟨[effect], rfl, by simpa using h⟩,
    fun h => ⟨h, rfl⟩⟩

theorem pamFrame_setState (state : GdmSessionWorkerState) :
    PamFrame worker (worker.setState state) := by
  by_cases h : worker.state = state
  · rw [setState_self h]
    exact .refl _
  · rw [setState_of_ne h]
    exact ⟨rfl, rfl, rfl, rfl, rfl, ⟨rfl, rfl⟩, rfl, rfl, ⟨[_], rfl, by simp [Effect.isOfStep]⟩,
      fun h => ⟨h, rfl⟩⟩

theorem pamFrame_startPam : PamFrame worker worker.startPam :=
  ⟨rfl, rfl, rfl, rfl, rfl, ⟨rfl, rfl⟩, rfl, rfl, ⟨[_], rfl, by simp [Effect.isOfStep]⟩,
    fun h => ⟨h, rfl⟩⟩

theorem pamFrame_endPam (handle : Nat) (status : PamCode) :
    PamFrame worker (worker.endPam handle status) := by
  have hclear : PamFrame worker
      { worker.emit (.pam .pamEnd (some handle) status) with pamHandle := none } :=
    ⟨rfl, rfl, rfl, rfl, rfl, ⟨rfl, rfl⟩, rfl, rfl, ⟨[_], rfl, by simp [Effect.isOfStep]⟩,
      fun h => ⟨h, rfl⟩⟩
  exact hclear.trans (pamFrame_setState _)

theorem Quiet.pamFrame (h : Quiet worker worker') : PamFrame worker worker' := by
  obtain ⟨⟨settings, username, accounts, notices, rfl, hnotices⟩, hhandlers⟩ := h
  refine ⟨rfl, rfl, rfl, rfl, rfl, ⟨rfl, rfl⟩, rfl, rfl, ⟨notices, rfl, ?_⟩, ?_⟩
  · intro effect heffect
    exact Effect.isOfStep_of_isNotice (hnotices effect heffect)
  · intro hcalm
    exact ⟨fun i => (hhandlers i).trans (hcalm i), rfl⟩

theorem Settles.pamFrame (h : Settles worker worker') : PamFrame worker worker' := by
  induction h with
  | quiet hquiet => exact hquiet.pamFrame
  | @wake w i hi =>
    rcases onSettingsIsLoadedChanged_cases w with hquiet | ⟨current, hwoken⟩
    · exact hquiet.pamFrame
    · obtain ⟨settings, username, accounts, state, notices, heq, hstate⟩ := hwoken.change
      rw [heq]
      refine ⟨rfl, rfl, rfl, rfl, rfl, ⟨rfl, rfl⟩, rfl, rfl, ⟨notices, rfl, ?_⟩, ?_⟩
      · rcases hstate with ⟨_, _, rfl⟩ | ⟨_, _, saved, rfl, hsaved⟩
        · simp
        · intro effect heffect
          rcases List.mem_cons.mp heffect with rfl | hlate
          · rfl
          · exact Effect.isOfStep_of_isNotice (hsaved effect hlate)
      · intro hcalm
        exact absurd (hcalm i) hi
  | trans _ _ ih ih' => exact ih.trans ih'

theorem AccountManaged.pamFrame {handle : Nat} (h : AccountManaged handle worker worker') :
    PamFrame worker worker' := by
  cases h with
  | valid flag => exact pamFrame_emit rfl
  | tokenChanged flag hquiet =>
    exact (pamFrame_emit rfl).trans (hquiet.pamFrame.trans (pamFrame_emit rfl))

theorem PamStep.pamFrame (h : PamStep worker worker') : PamFrame worker worker' := by
  cases h with
  | settles h => exact h.pamFrame
  | sideline _ _ =>
    exact ⟨rfl, rfl, rfl, rfl, rfl, ⟨rfl, rfl⟩, rfl, rfl, ⟨[], by simp, by simp⟩,
      fun h => ⟨h, rfl⟩⟩
  | startFails _ => exact pamFrame_emit rfl
  | starts _ _ => exact pamFrame_startPam.trans (pamFrame_setState _)
  | startEnds _ _ _ => exact pamFrame_startPam.trans (pamFrame_endPam _ _)
  | calls _ _ => exact pamFrame_emit rfl
  | authenticated _ _ _ => exact (pamFrame_emit rfl).trans (pamFrame_setState _)
  | authorized _ _ hmanaged => exact hmanaged.pamFrame.trans (pamFrame_setState _)
  | reauthAuthorized _ _ => exact pamFrame_setState _
  | accredited _ _ _ => exact (pamFrame_emit rfl).trans (pamFrame_setState _)
  | reauthAccredited _ _ => exact pamFrame_setState _
  | opened _ _ _ _ => exact (pamFrame_emit rfl).trans (pamFrame_setState _)
  | ended _ _ _ _ => exact pamFrame_endPam _ _
  | endedAccredited _ _ _ _ _ => exact (pamFrame_emit rfl).trans (pamFrame_endPam _ _)
  | endedOpened _ _ _ _ _ hquiet =>
    exact (pamFrame_emit rfl).trans
      (hquiet.pamFrame.trans ((pamFrame_emit rfl).trans (pamFrame_endPam _ _)))

theorem PamSteps.pamFrame (h : PamSteps worker worker') : PamFrame worker worker' :=
  h.preserves (P := fun w => PamFrame worker w)
    (fun _ _ hstep hframe => hframe.trans hstep.pamFrame) (.refl worker)

end GdmSessionWorker

end Gdm
