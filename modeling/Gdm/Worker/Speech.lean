import Gdm.Worker.Replies

/-!
# What the worker says in a step

Between the remarks about names, a step of the worker says at most one thing of note on
its connection: it replies to a call, or it tells that the session has ended.  The state
that the worker ends in can be told from the reply.
-/

namespace Gdm

/-- The state as far as it can be told from outside: that the account details have been
saved is not told. -/
def GdmSessionWorkerState.visible : GdmSessionWorkerState → GdmSessionWorkerState
  | accountDetailsSaved => accredited
  | state => state

/-- The visible state in which a method is performed. -/
def Method.before : Method → GdmSessionWorkerState
  | Initialize => .none
  | Authenticate => .setupComplete
  | Authorize => .authenticated
  | EstablishCredentials => .authorized
  | Open => .accredited
  | StartProgram => .sessionOpened

/-- The state in which a method that succeeds leaves the worker. -/
def Method.after : Method → GdmSessionWorkerState
  | Initialize => .setupComplete
  | Authenticate => .authenticated
  | Authorize => .authorized
  | EstablishCredentials => .accredited
  | Open => .sessionOpened
  | StartProgram => .sessionStarted

/-- The entries for what the worker says of note: its replies, and that the session has
ended. -/
def Effect.isReport : Effect → Bool
  | completed (some _) _ | sessionExited _ _ => true
  | _ => false

theorem Effect.not_isReport_of_isOfStep {effect : Effect} (h : effect.isOfStep = true) :
    effect.isReport = false := by
  cases effect with
  | completed
  | sessionExited => cases h
  | _ => rfl

/-- The reply is an error. -/
def Reply.isError : Reply → Bool
  | error _ => true
  | _ => false

/-- The event is the arrival of a call. -/
def WorkerEvent.isCall : WorkerEvent → Bool
  | .call _ => true
  | _ => false

namespace GdmSessionWorker

variable {worker worker' worker'' : GdmSessionWorker}

/-- The worker has said nothing of note, and the pending invocation is the same. -/
structure Discreet (worker worker' : GdmSessionWorker) : Prop where
  pendingInvocation : worker'.pendingInvocation = worker.pendingInvocation
  log : ∃ new, worker'.log = worker.log ++ new ∧ ∀ effect ∈ new, effect.isReport = false

theorem Discreet.refl (worker : GdmSessionWorker) : Discreet worker worker :=
  ⟨rfl, [], by simp, by simp⟩

theorem Discreet.trans (h : Discreet worker worker') (h' : Discreet worker' worker'') :
    Discreet worker worker'' where
  pendingInvocation := h'.pendingInvocation.trans h.pendingInvocation
  log := History.exists_added_trans h.log h'.log

theorem discreet_emit {effect : Effect} (h : effect.isReport = false) :
    Discreet worker (worker.emit effect) :=
  ⟨rfl, [effect], rfl, by simpa using h⟩

theorem discreet_of_log (hpending : worker'.pendingInvocation = worker.pendingInvocation)
    (hlog : worker'.log = worker.log) : Discreet worker worker' :=
  ⟨hpending, [], by simp [hlog], by simp⟩

theorem PamFrame.discreet (h : PamFrame worker worker') : Discreet worker worker' := by
  obtain ⟨new, hlog, hnew⟩ := h.log
  exact ⟨h.pendingInvocation, new, hlog,
    fun effect heffect => Effect.not_isReport_of_isOfStep (hnew effect heffect)⟩

theorem discreet_applyDetail (details : List Detail) :
    Discreet worker (details.foldl applyDetail worker) := by
  induction details generalizing worker with
  | nil => exact .refl worker
  | cons detail details ih =>
    refine .trans ?_ ih
    cases detail <;> exact discreet_of_log rfl rfl

theorem discreet_loadInitialSettings : Discreet worker worker.loadInitialSettings.1 := by
  rcases loadInitialSettings_cases worker with heq | hsettles
  · rw [heq]
    exact .refl worker
  · have hnew : Discreet worker worker.newUserSettings := discreet_of_log rfl rfl
    exact hnew.trans hsettles.pamFrame.discreet

theorem Settles.visible (h : Settles worker worker') :
    worker'.state.visible = worker.state.visible := by
  rcases h.state with hsame | ⟨haccredited, hsaved⟩
  · rw [hsame]
  · rw [haccredited, hsaved]
    rfl

/-! ## Where a step that returns ends -/

/-- A step to `newState` that succeeds is there, and one that fails is in NONE or where
it was. -/
structure Ends (worker : GdmSessionWorker) (newState : GdmSessionWorkerState)
    (result : GdmSessionWorker × StepResult) : Prop where
  success : result.2 = .success → result.1.state = newState
  failure : ∀ error, result.2 = .failure error →
    result.1.state = .none ∨ result.1.state = worker.state

theorem ends_success {newState : GdmSessionWorkerState} (h : worker'.state = newState) :
    Ends worker newState (worker', .success) :=
  ⟨fun _ => h, by simp⟩

theorem ends_aborted {newState : GdmSessionWorkerState} :
    Ends worker newState (worker', .aborted) :=
  ⟨by simp, by simp⟩

theorem ends_unchanged {newState : GdmSessionWorkerState} (error : WorkerError)
    (hstate : worker'.state = worker.state) : Ends worker newState (worker', .failure error) :=
  ⟨by simp, fun _ _ => .inr hstate⟩

/-- A step that falls back to NONE, or has nothing to undo. -/
theorem ends_uninitializePam {newState : GdmSessionWorkerState}
    (hstate : worker'.state = worker.state) (status : PamCode) (o : Outcomes)
    (error : WorkerError) :
    Ends worker newState (worker'.uninitializePam status o, .failure error) := by
  refine ⟨by simp, fun _ _ => ?_⟩
  rcases worker'.uninitializePam_state status o with hnone | hsame
  · exact .inl hnone
  · rw [hsame]
    exact .inr hstate

theorem ends_initializePam (hstate : worker.state = .none) (o : Outcomes) :
    Ends worker .setupComplete (worker.initializePam o) := by
  unfold initializePam
  split
  · exact ends_aborted
  split
  · exact @ends_uninitializePam worker (worker.emit _) _ rfl _ o _
  dsimp only
  split
  · exact ends_uninitializePam (by simp [emit, hstate]) _ o _
  split
  · exact ends_uninitializePam (by simp [emit, hstate]) _ o _
  · exact ends_success (by simp)

theorem ends_authenticateUser {handle : Nat} (hat : At worker .setupComplete handle)
    (o : Outcomes) : Ends worker .authenticated (worker.authenticateUser o) := by
  have hcall := pamCall_state hat (by decide) (by decide)
    (.authenticate worker.passwordIsRequired) o.authenticate
  have hstate := hcall.state_eq.trans hat.state_eq.symm
  unfold authenticateUser
  dsimp only
  split
  · exact ends_success (by simp)
  all_goals exact ends_uninitializePam hstate _ o _

theorem ends_authorizeUser {handle : Nat} (hat : At worker .authenticated handle)
    (o : Outcomes) : Ends worker .authorized (worker.authorizeUser o) := by
  obtain ⟨_, _, _, _, hat', _⟩ := manageAccount_cases hat o
  unfold authorizeUser
  dsimp only
  generalize (if (worker.manageAccount o).1.isReauthSession then PamCode.success
    else (worker.manageAccount o).2) = code
  split
  · exact ends_uninitializePam (hat'.state_eq.trans hat.state_eq.symm) _ o _
  · exact ends_success (by simp)

theorem ends_accreditUser {handle : Nat} (hat : At worker .authorized handle)
    (o : Outcomes) : Ends worker .accredited (worker.accreditUser o) := by
  have hcall := pamCall_state hat (by decide) (by decide) (.setcred worker.credFlags) o.setcred
  unfold accreditUser
  split
  · exact ends_uninitializePam rfl _ o _
  split
  · exact ends_uninitializePam rfl _ o _
  split
  · exact ends_uninitializePam rfl _ o _
  dsimp only
  generalize (if (worker.pamCall (.setcred worker.credFlags) o.setcred).1.isReauthSession
    then PamCode.success else (worker.pamCall (.setcred worker.credFlags) o.setcred).2) = code
  split
  · exact ends_uninitializePam (hcall.state_eq.trans hat.state_eq.symm) _ o _
  · exact ends_success (by simp)

theorem ends_openSession {handle : Nat} (hat : At worker .accountDetailsSaved handle)
    (o : Outcomes) : Ends worker .sessionOpened (worker.openSession o) := by
  have hcall := pamCall_state hat (by decide) (by decide)
    (.openSession worker.isProgramSession) o.openSession
  have honVt : Ends worker .sessionOpened (worker.openSessionOnVt o) := by
    unfold openSessionOnVt
    dsimp only
    split
    · exact ends_uninitializePam (hcall.state_eq.trans hat.state_eq.symm) _ o _
    · exact ends_success (by simp)
  unfold openSession
  split
  · exact ends_aborted
  split
  · cases worker.setUpForNewVt o with
    | success => exact honVt
    | failure error => exact ends_unchanged error rfl
    | aborted => exact ends_aborted
  · exact honVt

/-! ## The reply that a step concludes with -/

/-- After some transitions the pending invocation is completed with a reply to `method`:
one that reports success in `newState`, and an error in NONE or where the step began.  No
program has been started. -/
structure Concludes (method : Method) (newState : GdmSessionWorkerState)
    (worker w : GdmSessionWorker) (reply : Reply) : Prop where
  steps : PamSteps worker w
  answers : reply.Answers method
  program : ∀ pid, reply ≠ .StartProgram pid
  success : reply.isError = false → w.state = newState
  failure : reply.isError = true → w.state = .none ∨ w.state = worker.state

theorem concludes_finishRequest {method : Method} {newState : GdmSessionWorkerState}
    {result : GdmSessionWorker × StepResult} {reply : GdmSessionWorker → Reply}
    (hsteps : PamSteps worker result.1) (haborted : result.2 ≠ .aborted)
    (hends : Ends worker newState result) (hreply : ∀ w, (reply w).Answers method)
    (hsuccess : ∀ w, (reply w).isError = false)
    (hprogram : result.2 = .success → ∀ w pid, reply w ≠ .StartProgram pid) :
    ∃ w r, Concludes method newState worker w r ∧ finishRequest result reply = w.answer r := by
  obtain ⟨w, outcome⟩ := result
  cases outcome with
  | success =>
    refine ⟨w, reply w,
      ⟨hsteps, hreply w, hprogram rfl w, fun _ => hends.success rfl, fun h => ?_⟩, rfl⟩
    rw [hsuccess w] at h
    cases h
  | failure error =>
    exact ⟨w, .error error, ⟨hsteps, trivial, by simp, (fun h => by cases h),
      fun _ => hends.failure error rfl⟩, rfl⟩
  | aborted => exact absurd rfl haborted

theorem concludes_doAuthenticate {handle : Nat} (hat : At worker .setupComplete handle)
    (hrunning : worker.status = .running) (o : Outcomes) :
    ∃ w reply, Concludes .Authenticate .authenticated worker w reply ∧
      worker.doAuthenticate o = w.answer reply := by
  obtain ⟨hsteps, hresult, hsuccess⟩ := pamSteps_authenticateUser hat o
  have hends := ends_authenticateUser hat o
  unfold doAuthenticate
  generalize worker.authenticateUser o = result at *
  obtain ⟨w, outcome⟩ := result
  cases outcome with
  | failure error =>
    exact concludes_finishRequest hsteps hresult hends (fun _ => rfl) (fun _ => rfl) (by simp)
  | aborted => exact absurd rfl hresult
  | success =>
    have hat' : At w .authenticated handle := hsuccess rfl
    have hlooked : PamSteps worker (if w.isProgramSession then w
        else w.updateUsername o.userItem) ∧
        (if w.isProgramSession then w else w.updateUsername o.userItem).state =
          .authenticated := by
      split
      · exact ⟨hsteps, hat'.state_eq⟩
      · have hsettles := settles_updateUsername o.userItem
          (by simp [hat'.handle_eq] : w.pamHandle ≠ none)
        have hquiet := hsettles.quiet_of_state (by simp [hat'.state_eq]) (by simp [hat'.state_eq])
        exact ⟨hsteps.tail (.settles hsettles), hquiet.state.trans hat'.state_eq⟩
    have hstatus := hlooked.1.pamFrame.status.trans hrunning
    dsimp only
    rw [if_neg (not_not.mpr hstatus)]
    exact ⟨_, .Authenticate,
      ⟨hlooked.1, rfl, by simp, fun _ => hlooked.2, fun h => by cases h⟩, rfl⟩

/-- What a step that is made for a request comes to. -/
inductive Comes (worker : GdmSessionWorker) (newState : GdmSessionWorkerState) :
    GdmSessionWorker → Prop
  | aborts (assertion : Assertion) : Comes worker newState (worker.abort assertion)
  | concludes {method : Method} {w : GdmSessionWorker} {reply : Reply} :
      answeredMethod newState = some method → Concludes method newState worker w reply →
      Comes worker newState (w.answer reply)
  | goesOn {w' : GdmSessionWorker} : newState = .accountDetailsSaved →
      worker.state = .accredited → Discreet worker w' →
      w'.state.visible = worker.state.visible → Comes worker newState w'
  | forks {handle : Nat} (pid : Int) (arguments : List String) :
      newState = .sessionStarted → At worker .sessionOpened handle →
      worker.isReauthSession = false →
      Comes worker newState ((worker.forks pid arguments).answer (.StartProgram pid))

theorem forks_childPid (pid : Int) (arguments : List String) :
    (worker.forks pid arguments).childPid = pid := by
  unfold forks setState
  split <;> rfl

theorem forked_mem_forks (pid : Int) (arguments : List String) :
    .forked pid arguments ∈ (worker.forks pid arguments).log := by
  obtain ⟨new, hlog, _⟩ := (@pamFrame_setState
    { worker.emit (.forked pid arguments) with childPid := pid } .sessionStarted).log
  have hforks : (worker.forks pid arguments).log =
      worker.log ++ [.forked pid arguments] ++ new := hlog
  rw [hforks]
  simp

theorem performStateChange_comes (hs : Sound worker) (hrunning : worker.status = .running)
    (hidle : worker.stateChangeIdle = false)
    (hreauth : worker.isReauthSession = true → worker.state ≠ .sessionOpened)
    {newState : GdmSessionWorkerState} (hnext : worker.state.toNat + 1 = newState.toNat)
    (o : Outcomes) : Comes worker newState (worker.performStateChange o newState) := by
  have hcomes : ∀ {method : Method} {w' : GdmSessionWorker},
      answeredMethod newState = some method →
      (∃ w reply, Concludes method newState worker w reply ∧ w' = w.answer reply) →
      Comes worker newState w' := by
    rintro method _ hmethod ⟨w, reply, hconcludes, rfl⟩
    exact .concludes hmethod hconcludes
  cases hstate : worker.state <;> rw [hstate] at hnext <;> cases newState <;> cases hnext
  case none =>
    rcases pamSteps_initializePam hstate (hs.handle.mp hstate) o with habort | ⟨hsteps, hresult⟩
    · rw [performStateChange, doSetup, habort]
      exact .aborts _
    · exact hcomes rfl (concludes_finishRequest hsteps hresult (ends_initializePam hstate o)
        (fun _ => rfl) (fun _ => rfl) (by simp))
  case setupComplete =>
    obtain ⟨handle, hat⟩ := hs.at_state hstate (by decide)
    exact hcomes rfl (concludes_doAuthenticate hat hrunning o)
  case authenticated =>
    obtain ⟨handle, hat⟩ := hs.at_state hstate (by decide)
    obtain ⟨hsteps, hresult⟩ := pamSteps_authorizeUser hat o
    exact hcomes rfl (concludes_finishRequest hsteps hresult (ends_authorizeUser hat o)
      (fun _ => rfl) (fun _ => rfl) (by simp))
  case authorized =>
    obtain ⟨handle, hat⟩ := hs.at_state hstate (by decide)
    obtain ⟨hsteps, hresult⟩ := pamSteps_accreditUser hat hs.credFlags o
    exact hcomes rfl (concludes_finishRequest hsteps hresult (ends_accreditUser hat o)
      (fun _ => rfl) (fun _ => rfl) (by simp))
  case accredited =>
    rcases doSaveAccountDetailsWhenReady_cases hstate with hnow | ⟨i, _, hwaits⟩
    · have hsaved : Discreet worker (worker.setState .accountDetailsSaved).queueStateChange :=
        (pamFrame_setState _).discreet.trans (discreet_of_log rfl rfl)
      refine .goesOn rfl hstate (hsaved.trans hnow.pamFrame.discreet) ?_
      have hstate' : worker.doSaveAccountDetailsWhenReady.state = .accountDetailsSaved := by
        simp [hnow.state, queueStateChange]
      rw [performStateChange, hstate', hstate]
      rfl
    · have hconnected : Discreet worker (worker.connectIsLoaded i) := discreet_of_log rfl rfl
      exact .goesOn rfl hstate (hconnected.trans hwaits.pamFrame.discreet) hwaits.visible
  case accountDetailsSaved =>
    obtain ⟨handle, hat⟩ := hs.at_state hstate (by decide)
    rcases pamSteps_openSession hat hidle hs.root o with habort | ⟨hsteps, hresult⟩
    · rw [performStateChange, doOpenSession, habort]
      exact .aborts _
    · exact hcomes rfl (concludes_finishRequest hsteps hresult (ends_openSession hat o)
        (fun _ => rfl) (fun _ => rfl) (by simp))
  case sessionOpened =>
    obtain ⟨handle, hat⟩ := hs.at_state hstate (by decide)
    rw [performStateChange, doStartSession, startSession]
    cases worker.arguments with
    | none => exact .aborts _
    | some arguments =>
      cases o.fork with
      | none =>
        have hsteps := (PamSteps.refl worker).uninitializePam hat (by decide) .abort o
        exact hcomes rfl (concludes_finishRequest hsteps (by simp)
          (ends_uninitializePam rfl _ o _) (fun _ => rfl) (fun _ => rfl) (by simp))
      | some pid =>
        show Comes worker .sessionStarted ((worker.forks pid arguments).answer
          (.StartProgram (worker.forks pid arguments).childPid))
        rw [forks_childPid]
        exact .forks pid arguments rfl hat (Bool.eq_false_iff.mpr fun h => hreauth h hstate)

/-! ## Calls -/

/-- A handler keeps its invocation, or rejects it with an error. -/
inductive Hears (worker : GdmSessionWorker) (invocation : Invocation) :
    GdmSessionWorker → Prop
  | takes {w : GdmSessionWorker} : worker.pendingInvocation = none →
      Discreet { worker with pendingInvocation := some invocation } w → Hears worker invocation w
  | rejects {w : GdmSessionWorker} (error : WorkerError) : Discreet worker w →
      Hears worker invocation (w.emit (.completed (some invocation) (.error error)))

theorem hears_validateAndQueueStateChange (h : RequestState worker) (invocation : Invocation)
    (newState : GdmSessionWorkerState) :
    Hears worker invocation (worker.validateAndQueueStateChange invocation newState) := by
  unfold validateAndQueueStateChange
  by_cases haccepts : worker.Accepts newState
  · rw [haccepts.validate invocation]
    exact .takes haccepts.1 ⟨rfl, [.accepted invocation], rfl, by simp [Effect.isReport]⟩
  · obtain ⟨error, heq⟩ := h.validate_refused invocation haccepts
    rw [heq]
    exact .rejects error (.refl worker)

/-- The credential flags are set whatever becomes of the call. -/
theorem hears_handleEstablishCredentials (h : RequestState worker) (invocation : Invocation) :
    Hears worker invocation (worker.handleEstablishCredentials invocation) := by
  have hhears := hears_validateAndQueueStateChange h invocation .accredited
  unfold handleEstablishCredentials
  dsimp only
  split
  · exact hhears
  · generalize worker.validateAndQueueStateChange invocation .accredited = worker₁ at *
    cases hhears with
    | takes hnone hdiscreet =>
      exact .takes hnone (hdiscreet.trans (discreet_of_log rfl rfl))
    | @rejects w error hdiscreet =>
      exact .rejects (w := { w with credFlags := _ }) error
        (hdiscreet.trans (discreet_of_log rfl rfl))

theorem hears_handleInitialize (h : RequestState worker) (invocation : Invocation)
    (details : List Detail) (seat0HasVts : Bool) :
    Hears worker invocation (worker.handleInitialize invocation details seat0HasVts) := by
  by_cases haccepts : worker.Accepts .setupComplete
  · rw [handleInitialize_of_accepts haccepts rfl]
    have hinit : Discreet { worker with pendingInvocation := some invocation }
        ((worker.emit (.accepted invocation)).initialized invocation details seat0HasVts) := by
      have hdetails : Discreet (worker.emit (.accepted invocation))
          (details.foldl applyDetail (worker.emit (.accepted invocation))) :=
        discreet_applyDetail details
      obtain ⟨new, hlog, hnew⟩ := hdetails.log
      refine ⟨rfl, .accepted invocation :: new, ?_, ?_⟩
      · show (details.foldl applyDetail (worker.emit (.accepted invocation))).log = _
        rw [hlog]
        simp [emit]
      · simpa [Effect.isReport] using hnew
    refine .takes haccepts.1 (hinit.trans (discreet_loadInitialSettings.trans ?_))
    split
    · exact discreet_of_log rfl rfl
    · exact discreet_of_log rfl rfl
  · obtain ⟨error, heq⟩ := h.validate_refused invocation haccepts
    unfold handleInitialize
    rw [heq]
    exact .rejects error (.refl worker)

theorem hears_handleStartProgram (invocation : Invocation) {argv : Except String (List String)}
    (hrunning : worker.status = .running) (haccepts : worker.Accepts .sessionStarted) :
    Hears worker invocation (worker.handleStartProgram invocation argv) := by
  have haccepted : Discreet worker (worker.emit (.accepted invocation)) := discreet_emit rfl
  rcases handleStartProgram_cases argv
    (congrArg Prod.fst (haccepts.validate invocation)) hrunning with
    ⟨_, hreply⟩ | ⟨_, ⟨message, _, hreply⟩ | ⟨arguments, _, hreply⟩⟩
  · rw [hreply]
    exact .rejects _ haccepted
  · rw [hreply]
    exact .rejects (w := { worker.emit (.accepted invocation) with arguments := none }) _
      (haccepted.trans (discreet_of_log rfl rfl))
  · rw [hreply]
    exact .takes haccepts.1 ⟨rfl, [.accepted invocation], rfl, by simp [Effect.isReport]⟩

/-- What becomes of a call: the worker stays in its state, and keeps the invocation or
rejects it. -/
theorem receive_hears (h : RequestState worker) (hrunning : worker.status = .running)
    {request : Request} (haccepted : worker.StartProgramAccepted (.call request)) :
    Hears (worker.arrive request.method) ⟨worker.nextSerial, request.method⟩
        (worker.receive request) ∧ (worker.receive request).state = worker.state := by
  have h' : RequestState (worker.arrive request.method) := h.same (sameRequest_arrive _)
  refine ⟨?_, ?_⟩
  · cases request with
    | Initialize details seat0HasVts => exact hears_handleInitialize h' _ _ _
    | Authenticate => exact hears_validateAndQueueStateChange h' _ _
    | Authorize => exact hears_validateAndQueueStateChange h' _ _
    | EstablishCredentials => exact hears_handleEstablishCredentials h' _
    | Open => exact hears_validateAndQueueStateChange h' _ _
    | StartProgram argv => exact hears_handleStartProgram _ hrunning (haccepted hrunning)
  · by_cases haccepts : worker.Accepts request.method.newState
    · exact (accepted_receive h hrunning haccepts).state
    · exact (refused_receive h hrunning haccepts haccepted.inOrder).same.state

/-! ## The other events -/

/-- What a step that is not for a call says of note. -/
inductive Utters (worker : GdmSessionWorker) : GdmSessionWorker → Prop
  | nothing {w : GdmSessionWorker} : Discreet worker w →
      (w.status = .running → w.state.visible = worker.state.visible) → Utters worker w
  | replies {w : GdmSessionWorker} (invocation : Invocation) (reply : Reply) :
      worker.pendingInvocation = some invocation → Discreet worker w →
      reply.Answers invocation.method →
      (reply.isError = false →
        worker.state.visible = invocation.method.before ∧ w.state = invocation.method.after) →
      (reply.isError = true → w.state = .none ∨ w.state.visible = worker.state.visible) →
      (∀ pid, reply = .StartProgram pid → ∃ arguments, .forked pid arguments ∈ w.log) →
      Utters worker (w.answer reply)
  | exits {w : GdmSessionWorker} (status : Nat) (pid : Int) : worker.state = .sessionStarted →
      Discreet worker w → w.state = .none →
      Utters worker ((w.emit (.sessionExited w.service status)).emit (.killed pid))

/-- The states before and after the step that answers a method. -/
theorem before_after_of_answeredMethod {method : Method} {newState : GdmSessionWorkerState}
    (hmethod : answeredMethod newState = some method)
    (hnext : worker.state.toNat + 1 = newState.toNat) :
    worker.state.visible = method.before ∧ newState = method.after := by
  cases hstate : worker.state <;> rw [hstate] at hnext <;> cases newState <;> cases hnext <;>
    cases hmethod <;> exact ⟨rfl, rfl⟩

theorem stateChangeIdleCallback_utters (hg : Gated worker) (hrunning : worker.status = .running)
    (hidle : worker.stateChangeIdle = true) (o : Outcomes) :
    Utters worker (worker.stateChangeIdleCallback o) := by
  obtain ⟨newState, ⟨invocation, hpending, _, hserves⟩, hnext, _⟩ :=
    (hg.requests hrunning).queued_of_idle hidle
  have hdispatched : Discreet worker (worker.dispatched newState) :=
    ⟨rfl, [.attempting newState], rfl, by simp [Effect.isReport]⟩
  have hcallback : worker.stateChangeIdleCallback o =
      (worker.dispatched newState).performStateChange o newState :=
    stateChangeIdleCallback_of_next hnext o
  have hcomes : Comes (worker.dispatched newState) newState
      (worker.stateChangeIdleCallback o) := by
    rw [hcallback]
    refine performStateChange_comes ((aside_dispatched newState).sound hg.sound) hrunning rfl ?_
      hnext o
    intro hreauth hopened
    have hnot := hg.sound.reauthOpened hreauth hopened
    rw [hidle] at hnot
    cases hnot
  generalize worker.stateChangeIdleCallback o = worker' at *
  cases hcomes with
  | aborts assertion =>
    exact .nothing (hdispatched.trans (discreet_of_log rfl rfl)) fun h => by cases h
  | @concludes method w reply hmethod hconcludes =>
    obtain ⟨hbefore, hafter⟩ := before_after_of_answeredMethod hmethod hnext
    have hsame := hserves.answeredMethod hmethod
    subst hsame
    refine .replies invocation reply hpending
      (hdispatched.trans hconcludes.steps.pamFrame.discreet) hconcludes.answers ?_ ?_
      fun pid heq => absurd heq (hconcludes.program pid)
    · intro hok
      exact ⟨hbefore, (hconcludes.success hok).trans hafter⟩
    · intro herror
      rcases hconcludes.failure herror with hnone | hsame
      · exact .inl hnone
      · exact .inr (congrArg GdmSessionWorkerState.visible hsame)
  | goesOn _ _ hdiscreet hvisible =>
    exact .nothing (hdispatched.trans hdiscreet) fun _ => hvisible
  | forks pid arguments hnew hat _ =>
    subst hnew
    have hanswered : answeredMethod .sessionStarted = some .StartProgram := rfl
    obtain ⟨hbefore, _⟩ := before_after_of_answeredMethod hanswered hnext
    have hmethod := hserves.answeredMethod hanswered
    have hforks : Discreet (worker.dispatched .sessionStarted)
        ((worker.dispatched .sessionStarted).forks pid arguments) := by
      have hchild : Discreet (worker.dispatched .sessionStarted)
          { (worker.dispatched .sessionStarted).emit (.forked pid arguments) with
            childPid := pid } :=
        ⟨rfl, [.forked pid arguments], rfl, by simp [Effect.isReport]⟩
      exact hchild.trans ((pamFrame_setState _).discreet.trans (discreet_of_log rfl rfl))
    refine .replies invocation (.StartProgram pid) hpending (hdispatched.trans hforks) hmethod
      ?_ (fun h => by cases h) ?_
    · intro _
      rw [hmethod]
      exact ⟨hbefore, setState_state _⟩
    · intro _ heq
      cases heq
      exact ⟨arguments, forked_mem_forks pid arguments⟩

theorem discreet_uninitializePam (hs : Sound worker) (status : PamCode) (o : Outcomes) :
    Discreet worker (worker.uninitializePam status o) := by
  cases hhandle : worker.pamHandle with
  | none =>
    have hsame : worker.uninitializePam status o = worker := by simp [uninitializePam, hhandle]
    rw [hsame]
    exact .refl worker
  | some handle =>
    have hstate : worker.state ≠ .none := mt hs.handle.mp (by simp [hhandle])
    exact (pamSteps_uninitializePam hhandle hstate status o).1.pamFrame.discreet

theorem sessionWorkerChildWatch_utters (hs : Sound worker)
    (hstarted : worker.state = .sessionStarted) (pid : Int) (status : Nat) (o : Outcomes) :
    Utters worker (worker.sessionWorkerChildWatch pid status o) := by
  obtain ⟨handle, hat⟩ := hs.at_state hstarted (by decide)
  obtain ⟨hsteps, hnone, _⟩ :=
    pamSteps_uninitializePam hat.handle_eq (by simp [hstarted]) .success o
  exact .exits (w := { worker.uninitializePam .success o with childPid := -1, childWatch := none })
    status pid hstarted (hsteps.pamFrame.discreet.trans (discreet_of_log rfl rfl)) hnone

theorem discreet_finalize (hs : Sound worker) (o : Outcomes) :
    Discreet worker (worker.finalize o) := by
  have hchild : Aside worker { worker with childWatch := none } :=
    ⟨rfl, rfl, rfl, rfl, ⟨rfl, rfl⟩, id, fun _ _ => id, [], by simp, by simp⟩
  have hends : ∀ w, Sound w →
      Discreet w { w.uninitializePam .success o with status := .finalized } := fun w hw =>
    (discreet_uninitializePam hw .success o).trans (discreet_of_log rfl rfl)
  unfold finalize
  dsimp only
  split
  · have hkilled : Aside worker
        ({ worker with childWatch := none }.emit (.killed worker.childPid)) :=
      hchild.trans (aside_emit rfl)
    have hdiscreet : Discreet worker
        ({ worker with childWatch := none }.emit (.killed worker.childPid)) :=
      ⟨rfl, [.killed worker.childPid], rfl, by simp [Effect.isReport]⟩
    exact hdiscreet.trans (hends _ (hkilled.sound hs))
  · have hdiscreet : Discreet worker { worker with childWatch := none } := discreet_of_log rfl rfl
    exact hdiscreet.trans (hends _ (hchild.sound hs))

/-- What every event but a call makes the worker say. -/
theorem step_utters (hg : Gated worker) {event : WorkerEvent} (hcall : event.isCall = false) :
    Utters worker (worker.step event) := by
  have hsettles : ∀ {w : GdmSessionWorker}, Settles worker w → Utters worker w := fun h =>
    .nothing h.pamFrame.discreet fun _ => h.visible
  unfold step
  by_cases hrunning : worker.status = .running
  swap
  · rw [if_pos hrunning]
    exact hsettles (.refl worker)
  rw [if_neg (not_not.mpr hrunning)]
  cases event with
  | call request => cases hcall
  | stateChangeIdle o =>
    dsimp only
    split
    · rename_i hidle
      exact stateChangeIdleCallback_utters hg hrunning hidle o
    · exact hsettles (.refl worker)
  | accountLoaded user account => exact hsettles (settles_accountLoaded user account)
  | accountUnloaded user => exact hsettles (.quiet (quiet_setAccounts _))
  | setSessionName name =>
    dsimp only [handleSetSessionName]
    split
    · exact hsettles (.refl worker)
    · exact hsettles (.quiet (quiet_settingsSetSessionName _ _))
  | setLanguageName name =>
    dsimp only [handleSetLanguageName]
    split
    · exact hsettles (.refl worker)
    · exact hsettles (.quiet (quiet_settingsSetLanguageName _ _))
  | childExited status o =>
    dsimp only
    split
    · exact hsettles (.refl worker)
    · rename_i pid hwatch
      exact sessionWorkerChildWatch_utters hg.sound
        (hg.childWatch hrunning (by simp [hwatch])) pid status o
  | finalize o => exact .nothing (discreet_finalize hg.sound o) fun h => by cases h

end GdmSessionWorker

end Gdm
