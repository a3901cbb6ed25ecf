import Gdm.Worker.TransitionSystem

/-!
# The gating of the worker's state machine

One slot holds the pending invocation and one idle source performs the next
step.  As long as the StartProgram handler is not asked to go on after its
request has been refused, the slot and the idle source fit together, each step
is made for the request in the slot, and the assertions of the state-change
code hold.
-/

namespace Gdm

/-- A request of `method` is what the step to a state is made for: the state it
asks for, or the automatic step from the saved account details to the open
session. -/
def Method.Serves (method : Method) (newState : GdmSessionWorkerState) : Prop :=
  newState = method.newState ∨ method = .Open ∧ newState = .sessionOpened

instance (method : Method) (newState : GdmSessionWorkerState) :
    Decidable (method.Serves newState) :=
  inferInstanceAs (Decidable (_ ∨ _))

/-- A served step is answered with the reply of the method, if at all. -/
theorem Method.Serves.answeredMethod {method answered : Method}
    {newState : GdmSessionWorkerState} (h : method.Serves newState)
    (hanswered : GdmSessionWorker.answeredMethod newState = some answered) :
    method = answered := by
  rcases h with rfl | ⟨rfl, rfl⟩
  · cases method <;> cases hanswered <;> rfl
  · cases hanswered
    rfl

/-- The request that saves the account details goes on to open the session. -/
theorem Method.Serves.goesOn {method : Method} (h : method.Serves .accountDetailsSaved) :
    method.Serves .sessionOpened := by
  rcases h with h | ⟨_, h⟩
  · cases method <;> cases h
    exact .inr ⟨rfl, rfl⟩
  · cases h

namespace GdmSessionWorker

variable {worker worker' : GdmSessionWorker}

/-! ## Where a step ends -/

/-- A step to `newState` gets there, falls back to NONE or stays where it is. -/
def Lands (worker : GdmSessionWorker) (newState : GdmSessionWorkerState)
    (worker' : GdmSessionWorker) : Prop :=
  worker'.state = newState ∨ worker'.state = .none ∨ worker'.state = worker.state

theorem uninitializePam_state (worker : GdmSessionWorker) (status : PamCode) (o : Outcomes) :
    (worker.uninitializePam status o).state = .none ∨
      worker.uninitializePam status o = worker := by
  cases hhandle : worker.pamHandle with
  | none => exact .inr (by simp [uninitializePam, hhandle])
  | some handle => exact .inl (by simp [uninitializePam, hhandle])

theorem lands_uninitializePam (newState : GdmSessionWorkerState)
    (hstate : worker'.state = worker.state) (status : PamCode) (o : Outcomes) :
    Lands worker newState (worker'.uninitializePam status o) := by
  rcases worker'.uninitializePam_state status o with hnone | hsame
  · exact .inr (.inl hnone)
  · rw [hsame]
    exact .inr (.inr hstate)

theorem finishRequest_state (result : GdmSessionWorker × StepResult)
    (reply : GdmSessionWorker → Reply) :
    (finishRequest result reply).state = result.1.state := by
  obtain ⟨worker, outcome⟩ := result
  cases outcome <;> rfl

theorem lands_initializePam (hstate : worker.state = .none) (o : Outcomes) :
    Lands worker .setupComplete (worker.initializePam o).1 := by
  unfold initializePam
  split
  · exact .inr (.inr rfl)
  split
  · exact lands_uninitializePam _ rfl _ o
  dsimp only
  split
  · exact lands_uninitializePam _ (by simp [emit, hstate]) _ o
  split
  · exact lands_uninitializePam _ (by simp [emit, hstate]) _ o
  · exact .inl (by simp)

/-- A PAM call leaves the state alone in a state that waits for no settings. -/
theorem pamCall_state {state : GdmSessionWorkerState} {handle : Nat}
    (hat : At worker state handle) (hnone : state ≠ .none) (haccredited : state ≠ .accredited)
    (call : PamCall) (reply : PamReply) :
    At (worker.pamCall call reply).1 state handle := by
  obtain ⟨_, hat'⟩ := hat.converse hnone haccredited reply.userItems
  rw [pamCall_of_handle hat.handle_eq]
  exact hat'.emit _

theorem lands_doAuthenticate {handle : Nat} (hat : At worker .setupComplete handle)
    (o : Outcomes) : Lands worker .authenticated (worker.doAuthenticate o) := by
  have hcall := pamCall_state hat (by decide) (by decide)
    (.authenticate worker.passwordIsRequired) o.authenticate
  have hfails := fun code => lands_uninitializePam .authenticated
    (hcall.state_eq.trans hat.state_eq.symm) code o
  have hauthenticate : Lands worker .authenticated (worker.authenticateUser o).1 ∧
      ((worker.authenticateUser o).2 = .success →
        At (worker.authenticateUser o).1 .authenticated handle) := by
    unfold authenticateUser
    dsimp only
    split
    · refine ⟨.inl (by simp), fun _ => ⟨by simp, ?_⟩⟩
      rw [setState_pamHandle]
      exact hcall.handle_eq
    all_goals exact ⟨hfails _, by simp⟩
  obtain ⟨hlands, hsuccess⟩ := hauthenticate
  unfold doAuthenticate
  generalize worker.authenticateUser o = result at *
  obtain ⟨worker₁, outcome⟩ := result
  cases outcome with
  | failure error => exact hlands
  | aborted => exact hlands
  | success =>
    have hat₁ : At worker₁ .authenticated handle := hsuccess rfl
    have hends : ∀ w : GdmSessionWorker, w.state = .authenticated →
        (if w.status ≠ .running then w else w.answer .Authenticate).state = .authenticated := by
      intro w hstate
      split
      · exact hstate
      · exact hstate
    have hlooked : (if worker₁.isProgramSession then worker₁
        else worker₁.updateUsername o.userItem).state = .authenticated := by
      split
      · exact hat₁.state_eq
      · have hsettles := settles_updateUsername o.userItem
          (by simp [hat₁.handle_eq] : worker₁.pamHandle ≠ none)
        have hquiet := hsettles.quiet_of_state (by simp [hat₁.state_eq]) (by simp [hat₁.state_eq])
        exact hquiet.state.trans hat₁.state_eq
    exact .inl (hends _ hlooked)

theorem lands_authorizeUser {handle : Nat} (hat : At worker .authenticated handle)
    (o : Outcomes) : Lands worker .authorized (worker.authorizeUser o).1 := by
  obtain ⟨_, _, _, _, hat', _⟩ := manageAccount_cases hat o
  unfold authorizeUser
  dsimp only
  generalize (if (worker.manageAccount o).1.isReauthSession then PamCode.success
    else (worker.manageAccount o).2) = code
  split
  · exact lands_uninitializePam _ (hat'.state_eq.trans hat.state_eq.symm) _ o
  · exact .inl (by simp)

theorem lands_accreditUser {handle : Nat} (hat : At worker .authorized handle)
    (o : Outcomes) : Lands worker .accredited (worker.accreditUser o).1 := by
  have hcall := pamCall_state hat (by decide) (by decide) (.setcred worker.credFlags) o.setcred
  unfold accreditUser
  split
  · exact lands_uninitializePam _ rfl _ o
  split
  · exact lands_uninitializePam _ rfl _ o
  split
  · exact lands_uninitializePam _ rfl _ o
  dsimp only
  generalize (if (worker.pamCall (.setcred worker.credFlags) o.setcred).1.isReauthSession
    then PamCode.success else (worker.pamCall (.setcred worker.credFlags) o.setcred).2) = code
  split
  · exact lands_uninitializePam _ (hcall.state_eq.trans hat.state_eq.symm) _ o
  · exact .inl (by simp)

theorem lands_openSession {handle : Nat} (hat : At worker .accountDetailsSaved handle)
    (o : Outcomes) : Lands worker .sessionOpened (worker.openSession o).1 := by
  have hcall := pamCall_state hat (by decide) (by decide)
    (.openSession worker.isProgramSession) o.openSession
  have honVt : Lands worker .sessionOpened (worker.openSessionOnVt o).1 := by
    unfold openSessionOnVt
    dsimp only
    split
    · exact lands_uninitializePam _ (hcall.state_eq.trans hat.state_eq.symm) _ o
    · exact .inl (by simp)
  unfold openSession
  split
  · exact .inr (.inr rfl)
  split
  · cases worker.setUpForNewVt o with
    | success => exact honVt
    | failure error => exact .inr (.inr rfl)
    | aborted => exact .inr (.inr rfl)
  · exact honVt

theorem lands_startSession (o : Outcomes) :
    Lands worker .sessionStarted (worker.startSession o).1 := by
  unfold startSession
  cases worker.arguments with
  | none => exact .inr (.inr rfl)
  | some arguments =>
    cases o.fork with
    | none => exact lands_uninitializePam _ rfl _ o
    | some pid => exact .inl (by simp)

/-- Saving the account details either gets to the next state or waits. -/
theorem lands_doSaveAccountDetailsWhenReady (hstate : worker.state = .accredited) :
    Lands worker .accountDetailsSaved worker.doSaveAccountDetailsWhenReady := by
  rcases doSaveAccountDetailsWhenReady_cases hstate with hnow | ⟨i, _, hwaits⟩
  · exact .inl (by simp [hnow.state, queueStateChange])
  · rcases hwaits.state with hsame | ⟨_, hsaved⟩
    · exact .inr (.inr hsame)
    · exact .inl hsaved

/-- The step from a state to the next one ends where it should. -/
theorem lands_performStateChange (hs : Sound worker)
    {newState : GdmSessionWorkerState} (hnext : worker.state.toNat + 1 = newState.toNat)
    (o : Outcomes) : Lands worker newState (worker.performStateChange o newState) := by
  have hfinish : ∀ (result : GdmSessionWorker × StepResult)
      (reply : GdmSessionWorker → Reply), Lands worker newState result.1 →
      Lands worker newState (finishRequest result reply) := by
    intro result reply hlands
    unfold Lands
    rw [finishRequest_state]
    exact hlands
  cases hstate : worker.state <;> rw [hstate] at hnext <;> cases newState <;> cases hnext
  case none => exact hfinish _ _ (lands_initializePam hstate o)
  case setupComplete =>
    obtain ⟨handle, hat⟩ := hs.at_state hstate (by decide)
    exact lands_doAuthenticate hat o
  case authenticated =>
    obtain ⟨handle, hat⟩ := hs.at_state hstate (by decide)
    exact hfinish _ _ (lands_authorizeUser hat o)
  case authorized =>
    obtain ⟨handle, hat⟩ := hs.at_state hstate (by decide)
    exact hfinish _ _ (lands_accreditUser hat o)
  case accredited => exact lands_doSaveAccountDetailsWhenReady hstate
  case accountDetailsSaved =>
    obtain ⟨handle, hat⟩ := hs.at_state hstate (by decide)
    exact hfinish _ _ (lands_openSession hat o)
  case sessionOpened => exact hfinish _ _ (lands_startSession o)

/-! ## The slot and the idle source -/

/-- The pending request is the one the next step to `newState` is made for: it
has been accepted, and it asks for that step. -/
def ActsFor (worker : GdmSessionWorker) (newState : GdmSessionWorkerState) : Prop :=
  ∃ invocation, worker.pendingInvocation = some invocation ∧
    .accepted invocation ∈ worker.log ∧ invocation.method.Serves newState

/-- The handler of the is-loaded notification is connected to no object but
`current`. -/
def HandlersOnlyAt (worker : GdmSessionWorker) (current : Nat) : Prop :=
  ∀ i, i ≠ current → worker.isLoadedHandlers i = 0

/-- No handler of the is-loaded notification is connected. -/
def Calm (worker : GdmSessionWorker) : Prop :=
  ∀ i, worker.isLoadedHandlers i = 0

theorem isLoadedHandlers_connectIsLoaded_of_ne {i current : Nat} (h : i ≠ current) :
    (worker.connectIsLoaded current).isLoadedHandlers i = worker.isLoadedHandlers i := by
  rw [isLoadedHandlers, connectIsLoaded, settingsObject_modifySettings,
    if_neg (fun hand => h hand.1.symm), isLoadedHandlers]

/-- What the worker can be about to do between two callbacks: nothing; the next
step; or to wait for the settings before it sets up or saves the account
details. -/
inductive RequestState (worker : GdmSessionWorker) : Prop
  | free : worker.pendingInvocation = none → worker.stateChangeIdle = false →
      Calm worker → RequestState worker
  | queued (newState : GdmSessionWorkerState) : worker.ActsFor newState →
      worker.state.toNat + 1 = newState.toNat → worker.stateChangeIdle = true →
      Calm worker → RequestState worker
  | waiting (newState : GdmSessionWorkerState) (current : Nat) : worker.ActsFor newState →
      worker.state = .none ∧ newState = .setupComplete ∨
        worker.state = .accredited ∧ newState = .accountDetailsSaved →
      worker.stateChangeIdle = false → worker.userSettings = some current →
      HandlersOnlyAt worker current → RequestState worker

/-- The invariant of the gating. -/
structure Gated (worker : GdmSessionWorker) : Prop where
  sound : Sound worker
  childWatch : worker.status = .running → worker.childWatch.isSome →
    worker.state = .sessionStarted
  assertions : ∀ assertion, worker.status = .aborted assertion →
    assertion.ofStateChange = false
  requests : worker.status = .running → RequestState worker

theorem gated_new (isReauthSession : Bool) (accounts : String → Option Account) :
    Gated (new isReauthSession accounts) := by
  refine ⟨sound_new isReauthSession accounts, by simp [new], by simp [new], fun _ => ?_⟩
  exact .free rfl rfl fun i => by simp [isLoadedHandlers, settingsObject, new]

/-! ## What leaves the requests alone -/

/-- `worker'` has the same request pending as `worker`, at the same point. -/
structure SameRequest (worker worker' : GdmSessionWorker) : Prop where
  state : worker'.state = worker.state
  pendingInvocation : worker'.pendingInvocation = worker.pendingInvocation
  stateChangeIdle : worker'.stateChangeIdle = worker.stateChangeIdle
  userSettings : worker'.userSettings = worker.userSettings
  handlers : ∀ i, worker'.isLoadedHandlers i = worker.isLoadedHandlers i
  log : worker.log <+: worker'.log

theorem SameRequest.trans {worker'' : GdmSessionWorker} (h : SameRequest worker worker')
    (h' : SameRequest worker' worker'') : SameRequest worker worker'' :=
  ⟨h'.state.trans h.state, h'.pendingInvocation.trans h.pendingInvocation,
    h'.stateChangeIdle.trans h.stateChangeIdle, h'.userSettings.trans h.userSettings,
    fun i => (h'.handlers i).trans (h.handlers i), h.log.trans h'.log⟩

theorem sameRequest_emit (effect : Effect) : SameRequest worker (worker.emit effect) :=
  ⟨rfl, rfl, rfl, rfl, fun _ => rfl, List.prefix_append _ _⟩

theorem sameRequest_arrive (method : Method) : SameRequest worker (worker.arrive method) :=
  ⟨rfl, rfl, rfl, rfl, fun _ => rfl, List.prefix_append _ _⟩

theorem Quiet.sameRequest (h : Quiet worker worker') : SameRequest worker worker' := by
  obtain ⟨notices, hlog, _⟩ := h.log
  exact ⟨h.state, h.pendingInvocation, h.stateChangeIdle, h.userSettings, h.handlers,
    hlog ▸ List.prefix_append _ _⟩

theorem ActsFor.grow {newState : GdmSessionWorkerState} (h : worker.ActsFor newState)
    (hpending : worker'.pendingInvocation = worker.pendingInvocation)
    (hlog : worker.log <+: worker'.log) : worker'.ActsFor newState := by
  obtain ⟨invocation, hinvocation, haccepted, hserves⟩ := h
  exact ⟨invocation, hpending.trans hinvocation, hlog.subset haccepted, hserves⟩

theorem RequestState.same (h : RequestState worker) (hsame : SameRequest worker worker') :
    RequestState worker' := by
  cases h with
  | free hpending hidle hcalm =>
    exact .free (hsame.pendingInvocation.trans hpending) (hsame.stateChangeIdle.trans hidle)
      fun i => (hsame.handlers i).trans (hcalm i)
  | queued newState hacts hnext hidle hcalm =>
    exact .queued newState (hacts.grow hsame.pendingInvocation hsame.log)
      (hsame.state ▸ hnext) (hsame.stateChangeIdle.trans hidle)
      fun i => (hsame.handlers i).trans (hcalm i)
  | waiting newState current hacts hstate hidle hcurrent honly =>
    exact .waiting newState current (hacts.grow hsame.pendingInvocation hsame.log)
      (hsame.state ▸ hstate) (hsame.stateChangeIdle.trans hidle)
      (hsame.userSettings.trans hcurrent) fun i hi => (hsame.handlers i).trans (honly i hi)

/-- When the settings have been loaded, what has waited for them is queued. -/
theorem RequestState.woken {current : Nat} (h : RequestState worker)
    (hwoken : Woken worker worker' current) {i : Nat} (hi : worker.isLoadedHandlers i ≠ 0) :
    RequestState worker' := by
  cases h with
  | free _ _ hcalm => exact absurd (hcalm i) hi
  | queued _ _ _ _ hcalm => exact absurd (hcalm i) hi
  | waiting newState current' hacts hstate _ hcurrent honly =>
    obtain ⟨hisCurrent, hhandlers, _, settings, username, accounts, state, notices, heq, hwake⟩ :=
      hwoken
    have hsame : current' = current := Option.some.inj (hcurrent.symm.trans hisCurrent)
    have hcalm : Calm worker' := by
      intro j
      rw [hhandlers j]
      split
      · rfl
      · rename_i hj
        exact honly j (hsame ▸ hj)
    have hgrown : ∀ newState', worker.ActsFor newState' → worker'.ActsFor newState' := by
      intro newState' h
      refine h.grow ?_ ?_
      · rw [heq]
      · rw [heq]
        exact List.prefix_append _ _
    have hidle : worker'.stateChangeIdle = true := by rw [heq]
    have hstate' : worker'.state = state := by rw [heq]
    rcases hstate with ⟨hnone, rfl⟩ | ⟨haccredited, rfl⟩
    · rcases hwake with ⟨_, rfl, _⟩ | ⟨h, _, _⟩
      · exact .queued .setupComplete (hgrown _ hacts) (by rw [hstate']; rfl) hidle hcalm
      · rw [hnone] at h
        cases h
    · rcases hwake with ⟨h, _, _⟩ | ⟨_, rfl, _⟩
      · rw [haccredited] at h
        cases h
      · obtain ⟨invocation, hpending, haccepted, hserves⟩ := hgrown _ hacts
        exact .queued .sessionOpened ⟨invocation, hpending, haccepted, hserves.goesOn⟩
          (by rw [hstate']; rfl) hidle hcalm

theorem RequestState.settles (h : RequestState worker) (hsettles : Settles worker worker') :
    RequestState worker' := by
  refine hsettles.preserves ?_ ?_ h
  · intro w w' hquiet hw
    exact hw.same hquiet.sameRequest
  · intro w i hi hw
    rcases onSettingsIsLoadedChanged_cases w with hquiet | ⟨current, hwoken⟩
    · exact hw.same hquiet.sameRequest
    · exact hw.woken hwoken hi

/-! ## The idle callback -/

theorem calm_pamSteps (h : PamSteps worker worker') (hcalm : Calm worker) :
    Calm worker' ∧ worker'.stateChangeIdle = worker.stateChangeIdle :=
  h.pamFrame.calm hcalm

/-- After the step that was made for the pending request, either the request is
answered or it is the one to go on with. -/
theorem StepOutcome.requests {newState : GdmSessionWorkerState}
    (h : StepOutcome worker newState worker') (hacts : worker.ActsFor newState)
    (hidle : worker.stateChangeIdle = false) (hcalm : Calm worker) :
    (∃ assertion, assertion.ofStateChange = false ∧ worker'.status = .aborted assertion) ∨
      RequestState worker' ∧ worker'.status = worker.status := by
  cases h with
  | aborted assertion hassertion => exact .inl ⟨assertion, hassertion, rfl⟩
  | completed _ hcompletes =>
    obtain ⟨worker₁, reply, hsteps, _, rfl⟩ := hcompletes
    obtain ⟨hcalm₁, hidle₁⟩ := calm_pamSteps hsteps hcalm
    exact .inr ⟨.free rfl (hidle₁.trans hidle) hcalm₁, hsteps.pamFrame.status⟩
  | saved hnew hstate hquiet =>
    subst hnew
    obtain ⟨invocation, hpending, haccepted, hserves⟩ := hacts
    have hframe : PamFrame worker (worker.setState .accountDetailsSaved) := pamFrame_setState _
    obtain ⟨new, hlog, _⟩ := hframe.log
    have hqueued : RequestState (worker.setState .accountDetailsSaved).queueStateChange := by
      refine .queued .sessionOpened ⟨invocation, ?_, ?_, hserves.goesOn⟩ ?_ rfl ?_
      · exact hframe.pendingInvocation.trans hpending
      · simp [queueStateChange, hlog, haccepted]
      · simp only [queueStateChange, setState_state]
        rfl
      · exact (hframe.calm hcalm).1
    exact .inr ⟨hqueued.same hquiet.sameRequest,
      hquiet.pamFrame.status.trans hframe.status⟩
  | waits i hnew hstate hcurrent hsettles =>
    subst hnew
    have hwaiting : RequestState (worker.connectIsLoaded i) := by
      refine .waiting .accountDetailsSaved i ?_ (.inr ⟨hstate, rfl⟩) hidle hcurrent ?_
      · exact hacts.grow rfl (List.prefix_refl _)
      · intro j hj
        exact (isLoadedHandlers_connectIsLoaded_of_ne hj).trans (hcalm j)
    exact .inr ⟨hwaiting.settles hsettles, hsettles.pamFrame.status⟩
  | forked pid arguments _ hat _ =>
    have hframe : PamFrame { worker.emit (.forked pid arguments) with childPid := pid }
        ({ worker.emit (.forked pid arguments) with childPid := pid }.setState
          .sessionStarted) :=
      pamFrame_setState _
    refine .inr ⟨.free rfl ?_ ?_, hframe.status⟩
    · exact (hframe.calm hcalm).2.trans hidle
    · exact (hframe.calm hcalm).1

/-- Only a fork installs the child watch. -/
theorem StepOutcome.childWatch {newState : GdmSessionWorkerState}
    (h : StepOutcome worker newState worker') (hwatch : worker.childWatch = none) :
    worker'.childWatch.isSome → worker'.state = .sessionStarted := by
  have hnone : worker'.childWatch = none →
      worker'.childWatch.isSome → worker'.state = .sessionStarted := by
    intro h
    simp [h]
  cases h with
  | aborted assertion _ => exact hnone hwatch
  | completed _ hcompletes =>
    obtain ⟨worker₁, reply, hsteps, _, rfl⟩ := hcompletes
    exact hnone (hsteps.pamFrame.childWatch.trans hwatch)
  | saved _ hstate hquiet =>
    exact hnone (hquiet.pamFrame.childWatch.trans ((pamFrame_setState _).childWatch.trans hwatch))
  | waits i _ _ _ hsettles => exact hnone (hsettles.pamFrame.childWatch.trans hwatch)
  | forked pid arguments _ _ _ =>
    intro _
    exact setState_state _

/-- When the idle source is installed, the step it will make is known. -/
theorem RequestState.queued_of_idle (h : RequestState worker)
    (hidle : worker.stateChangeIdle = true) :
    ∃ newState, worker.ActsFor newState ∧ worker.state.toNat + 1 = newState.toNat ∧
      Calm worker := by
  cases h with
  | free _ hnot _ => simp [hnot] at hidle
  | queued newState hacts hnext _ hcalm => exact ⟨newState, hacts, hnext, hcalm⟩
  | waiting _ _ _ _ hnot _ _ => simp [hnot] at hidle

/-- A pending request is not for a worker whose session has started. -/
theorem RequestState.not_started (h : RequestState worker)
    (hpending : worker.pendingInvocation ≠ none) : worker.state ≠ .sessionStarted := by
  cases h with
  | free hnone _ _ => exact absurd hnone hpending
  | queued newState _ hnext _ _ =>
    intro hstarted
    rw [hstarted] at hnext
    cases newState <;> cases hnext
  | waiting _ _ _ hstate _ _ _ =>
    rintro hstarted
    rcases hstate with ⟨h, _⟩ | ⟨h, _⟩ <;> simp [h] at hstarted

theorem gated_stateChangeIdleCallback (hg : Gated worker) (hrunning : worker.status = .running)
    (hidle : worker.stateChangeIdle = true) (o : Outcomes) :
    Gated (worker.stateChangeIdleCallback o) := by
  obtain ⟨newState, hacts, hnext, hcalm⟩ := (hg.requests hrunning).queued_of_idle hidle
  have hwatch : worker.childWatch = none := by
    by_contra hsome
    rw [hg.childWatch hrunning (Option.isSome_iff_ne_none.mpr hsome)] at hnext
    cases newState <;> cases hnext
  have hsound := (transitions_stateChangeIdleCallback hg.sound hrunning hidle o).sound hg.sound
  rcases stateChangeIdleCallback_cases hg.sound hrunning hidle o with
    ⟨hstarted, _⟩ | ⟨newState', hnext', houtcome⟩
  · rw [hstarted] at hnext
    cases newState <;> cases hnext
  · have hsame : newState' = newState :=
      GdmSessionWorkerState.toNat_injective (hnext'.symm.trans hnext)
    subst hsame
    have hacts' : (worker.dispatched newState').ActsFor newState' :=
      hacts.grow rfl (List.prefix_append _ _)
    refine ⟨hsound, fun _ => houtcome.childWatch hwatch, ?_, ?_⟩
    · intro assertion habort
      rcases houtcome.requests hacts' rfl hcalm with ⟨other, hother, habort'⟩ | ⟨_, hstatus⟩
      · rw [habort'] at habort
        cases habort
        exact hother
      · rw [hstatus.trans hrunning] at habort
        cases habort
    · intro hrunning'
      rcases houtcome.requests hacts' rfl hcalm with ⟨_, _, habort⟩ | ⟨hrequests, _⟩
      · rw [habort] at hrunning'
        cases hrunning'
      · exact hrequests

/-! ## Method calls -/

/-- Nothing has changed that the requests depend on. -/
structure Unaffected (worker worker' : GdmSessionWorker) : Prop where
  same : SameRequest worker worker'
  arguments : worker'.arguments = worker.arguments
  childWatch : worker'.childWatch = worker.childWatch
  status : worker'.status = worker.status

theorem Unaffected.trans {worker'' : GdmSessionWorker} (h : Unaffected worker worker')
    (h' : Unaffected worker' worker'') : Unaffected worker worker'' :=
  ⟨h.same.trans h'.same, h'.arguments.trans h.arguments, h'.childWatch.trans h.childWatch,
    h'.status.trans h.status⟩

theorem unaffected_emit (effect : Effect) : Unaffected worker (worker.emit effect) :=
  ⟨sameRequest_emit effect, rfl, rfl, rfl⟩

theorem unaffected_arrive (method : Method) : Unaffected worker (worker.arrive method) :=
  ⟨sameRequest_arrive method, rfl, rfl, rfl⟩

/-- As long as the requests are in order, a refusal is an error reply. -/
theorem RequestState.validate_refused (h : RequestState worker) (invocation : Invocation)
    {newState : GdmSessionWorkerState} (hrefused : ¬ worker.Accepts newState) :
    ∃ error, worker.validateStateChange invocation newState =
      (worker.emit (.completed (some invocation) (.error error)), false) := by
  rcases validateStateChange_cases worker invocation newState with
    ⟨haccepts, _⟩ | ⟨_, herror | ⟨hpending, hstarted, _⟩⟩
  · exact absurd haccepts hrefused
  · exact herror
  · exact absurd hstarted (h.not_started hpending)

theorem Accepts.validate {newState : GdmSessionWorkerState} (h : worker.Accepts newState)
    (invocation : Invocation) :
    worker.validateStateChange invocation newState =
      (worker.emit (.accepted invocation), true) := by
  rcases validateStateChange_cases worker invocation newState with ⟨_, heq⟩ | ⟨hnot, _⟩
  · exact heq
  · exact absurd h hnot

/-- A StartProgram call that has been refused does no harm: the worker is for
reauthentication, or the text is no command line and there are no earlier
arguments to forget. -/
def HarmlessStartProgram (worker : GdmSessionWorker) (argv : Except String (List String)) :
    Prop :=
  worker.isReauthSession = true ∨ argv.toOption = none ∧ worker.arguments = none

instance (argv : Except String (List String)) : Decidable (worker.HarmlessStartProgram argv) :=
  inferInstanceAs (Decidable (_ ∨ _))

/-- StartProgram is not called when it would be refused, unless that does no
harm. -/
def StartProgramInOrder (worker : GdmSessionWorker) : WorkerEvent → Prop
  | .call (.StartProgram argv) =>
    worker.status = .running →
      worker.Accepts .sessionStarted ∨ worker.HarmlessStartProgram argv
  | _ => True

instance : ∀ event : WorkerEvent, Decidable (worker.StartProgramInOrder event)
  | .call (.StartProgram _) => inferInstanceAs (Decidable (_ → _ ∨ _))
  | .call (.Initialize _ _) | .call .Authenticate | .call .Authorize
  | .call .EstablishCredentials | .call .Open | .stateChangeIdle _ | .accountLoaded _ _
  | .accountUnloaded _ | .setSessionName _ | .setLanguageName _ | .childExited _ _
  | .finalize _ => inferInstanceAs (Decidable True)

theorem refused_validateAndQueueStateChange (h : RequestState worker) (invocation : Invocation)
    {newState : GdmSessionWorkerState} (hrefused : ¬ worker.Accepts newState) :
    Unaffected worker (worker.validateAndQueueStateChange invocation newState) := by
  obtain ⟨error, heq⟩ := h.validate_refused invocation hrefused
  unfold validateAndQueueStateChange
  rw [heq]
  exact unaffected_emit _

/-- What the StartProgram handler does with the worker that the validation has
left. -/
theorem handleStartProgram_cases {invocation : Invocation} (argv : Except String (List String))
    (hvalidate : (worker.validateStateChange invocation .sessionStarted).1 = worker')
    (hrunning : worker'.status = .running) :
    worker'.isReauthSession = true ∧ worker.handleStartProgram invocation argv =
        worker'.returnError invocation .inReauthSession
          "Cannot start a program while in a reauth session" ∨
      worker'.isReauthSession = false ∧
        ((∃ message, argv = .error message ∧ worker.handleStartProgram invocation argv =
            { worker' with arguments := none }.returnError invocation .shellParse message) ∨
          ∃ arguments, argv = .ok arguments ∧ worker.handleStartProgram invocation argv =
            { worker' with
              arguments := some arguments
              pendingInvocation := some invocation }.queueStateChange) := by
  unfold handleStartProgram
  rw [hvalidate]
  dsimp only
  rw [if_neg (not_not.mpr hrunning)]
  by_cases hreauth : worker'.isReauthSession = true
  · rw [if_pos hreauth]
    exact .inl ⟨hreauth, rfl⟩
  · rw [if_neg hreauth]
    refine .inr ⟨Bool.eq_false_iff.mpr hreauth, ?_⟩
    cases argv with
    | error message => exact .inl ⟨message, rfl, rfl⟩
    | ok arguments => exact .inr ⟨arguments, rfl, rfl⟩

theorem refused_handleStartProgram (h : RequestState worker) (invocation : Invocation)
    {argv : Except String (List String)} (hrunning : worker.status = .running)
    (hrefused : ¬ worker.Accepts .sessionStarted) (hharmless : worker.HarmlessStartProgram argv) :
    Unaffected worker (worker.handleStartProgram invocation argv) := by
  obtain ⟨error, heq⟩ := h.validate_refused invocation hrefused
  have hvalidated : Unaffected worker
      (worker.emit (.completed (some invocation) (.error error))) :=
    unaffected_emit _
  rcases handleStartProgram_cases argv (congrArg Prod.fst heq) hrunning with
    ⟨_, hreply⟩ | ⟨hreauth, hparsed⟩
  · rw [hreply]
    exact hvalidated.trans (unaffected_emit _)
  · obtain ⟨hargv, harguments⟩ : argv.toOption = none ∧ worker.arguments = none := by
      rcases hharmless with hnot | hharmless
      · rw [show worker.isReauthSession = false from hreauth] at hnot
        cases hnot
      · exact hharmless
    rcases hparsed with ⟨message, rfl, hreply⟩ | ⟨arguments, rfl, _⟩
    · rw [hreply]
      refine hvalidated.trans (.trans ?_ (unaffected_emit _))
      exact ⟨⟨rfl, rfl, rfl, rfl, fun _ => rfl, List.prefix_refl _⟩, harguments.symm, rfl, rfl⟩
    · cases hargv

theorem refused_handleInitialize (h : RequestState worker) (invocation : Invocation)
    (details : List Detail) (seat0HasVts : Bool) (hrefused : ¬ worker.Accepts .setupComplete) :
    Unaffected worker (worker.handleInitialize invocation details seat0HasVts) := by
  obtain ⟨error, heq⟩ := h.validate_refused invocation hrefused
  unfold handleInitialize
  rw [heq]
  exact unaffected_emit _

/-- A refused EstablishCredentials call may change the credential flags. -/
theorem refused_handleEstablishCredentials (h : RequestState worker) (invocation : Invocation)
    (hrefused : ¬ worker.Accepts .accredited) :
    Unaffected worker (worker.handleEstablishCredentials invocation) := by
  have hvalidated := refused_validateAndQueueStateChange h invocation hrefused
  unfold handleEstablishCredentials
  refine hvalidated.trans ?_
  dsimp only
  split
  · exact ⟨⟨rfl, rfl, rfl, rfl, fun _ => rfl, List.prefix_refl _⟩, rfl, rfl, rfl⟩
  · exact ⟨⟨rfl, rfl, rfl, rfl, fun _ => rfl, List.prefix_refl _⟩, rfl, rfl, rfl⟩

/-- A refused call leaves the requests and the arguments as they are. -/
theorem refused_receive (h : RequestState worker) (hrunning : worker.status = .running)
    {request : Request} (hrefused : ¬ worker.Accepts request.method.newState)
    (hinOrder : worker.StartProgramInOrder (.call request)) :
    Unaffected worker (worker.receive request) := by
  refine (unaffected_arrive request.method).trans ?_
  have h' : RequestState (worker.arrive request.method) := h.same (sameRequest_arrive _)
  cases request with
  | Initialize details seat0HasVts => exact refused_handleInitialize h' _ _ _ hrefused
  | Authenticate => exact refused_validateAndQueueStateChange h' _ hrefused
  | Authorize => exact refused_validateAndQueueStateChange h' _ hrefused
  | EstablishCredentials => exact refused_handleEstablishCredentials h' _ hrefused
  | Open => exact refused_validateAndQueueStateChange h' _ hrefused
  | StartProgram argv =>
    rcases hinOrder hrunning with haccepts | hharmless
    · exact absurd haccepts hrefused
    · exact refused_handleStartProgram h' _ hrunning hrefused hharmless

/-! ## Accepted calls -/

/-- What an accepted call does to the requests. -/
structure Accepted (worker worker' : GdmSessionWorker) : Prop where
  requests : RequestState worker'
  state : worker'.state = worker.state
  childWatch : worker'.childWatch = worker.childWatch
  status : worker'.status = worker.status

theorem Accepts.free {newState : GdmSessionWorkerState} (h : worker.Accepts newState)
    (hrequests : RequestState worker) : worker.stateChangeIdle = false ∧ Calm worker := by
  obtain ⟨hnone, _⟩ := h
  cases hrequests with
  | free _ hidle hcalm => exact ⟨hidle, hcalm⟩
  | queued _ hacts _ _ _ =>
    obtain ⟨invocation, hsome, _⟩ := hacts
    rw [hnone] at hsome
    cases hsome
  | waiting _ _ hacts _ _ _ _ =>
    obtain ⟨invocation, hsome, _⟩ := hacts
    rw [hnone] at hsome
    cases hsome

/-- A request of the method that asks for `newState` has been accepted and
queued. -/
theorem RequestState.accepted {invocation : Invocation} {newState : GdmSessionWorkerState}
    (hpending : worker.pendingInvocation = some invocation)
    (haccepted : .accepted invocation ∈ worker.log)
    (hmethod : newState = invocation.method.newState)
    (hnext : worker.state.toNat + 1 = newState.toNat)
    (hidle : worker.stateChangeIdle = true) (hcalm : Calm worker) : RequestState worker :=
  .queued newState ⟨invocation, hpending, haccepted, .inl hmethod⟩ hnext hidle hcalm

theorem accepted_validateAndQueueStateChange (h : RequestState worker) {invocation : Invocation}
    {newState : GdmSessionWorkerState} (haccepts : worker.Accepts newState)
    (hmethod : newState = invocation.method.newState) :
    Accepted worker (worker.validateAndQueueStateChange invocation newState) := by
  obtain ⟨_, hcalm⟩ := haccepts.free h
  unfold validateAndQueueStateChange
  rw [haccepts.validate invocation]
  refine ⟨?_, rfl, rfl, rfl⟩
  exact .accepted rfl (List.mem_append_right _ (by simp)) hmethod haccepts.2 rfl hcalm

theorem accepted_handleEstablishCredentials (h : RequestState worker) {invocation : Invocation}
    (haccepts : worker.Accepts .accredited) (hmethod : invocation.method = .EstablishCredentials) :
    Accepted worker (worker.handleEstablishCredentials invocation) := by
  obtain ⟨hrequests, hstate, hwatch, hstatus⟩ :=
    accepted_validateAndQueueStateChange h haccepts
      (show .accredited = invocation.method.newState by rw [hmethod]; rfl)
  unfold handleEstablishCredentials
  dsimp only
  split
  · exact ⟨hrequests, hstate, hwatch, hstatus⟩
  · refine ⟨hrequests.same ?_, hstate, hwatch, hstatus⟩
    exact ⟨rfl, rfl, rfl, rfl, fun _ => rfl, List.prefix_refl _⟩

theorem accepted_handleStartProgram (h : RequestState worker) {invocation : Invocation}
    {argv : Except String (List String)} (hrunning : worker.status = .running)
    (haccepts : worker.Accepts .sessionStarted) (hmethod : invocation.method = .StartProgram) :
    Accepted worker (worker.handleStartProgram invocation argv) := by
  obtain ⟨_, hcalm⟩ := haccepts.free h
  have hsame : RequestState (worker.emit (.accepted invocation)) := h.same (sameRequest_emit _)
  rcases handleStartProgram_cases argv
    (congrArg Prod.fst (haccepts.validate invocation)) hrunning with
    ⟨_, hreply⟩ | ⟨_, ⟨message, _, hreply⟩ | ⟨arguments, _, hreply⟩⟩
  · rw [hreply]
    exact ⟨hsame.same (sameRequest_emit _), rfl, rfl, rfl⟩
  · rw [hreply]
    have hreplied : SameRequest (worker.emit (.accepted invocation))
        ({ worker.emit (.accepted invocation) with arguments := none }.returnError invocation
          .shellParse message) :=
      ⟨rfl, rfl, rfl, rfl, fun _ => rfl, List.prefix_append _ _⟩
    exact ⟨hsame.same hreplied, rfl, rfl, rfl⟩
  · rw [hreply]
    refine ⟨?_, rfl, rfl, rfl⟩
    exact .accepted rfl (List.mem_append_right _ (by simp)) (by rw [hmethod]; rfl) haccepts.2
      rfl hcalm

theorem unaffected_applyDetail (details : List Detail) :
    Unaffected worker (details.foldl applyDetail worker) := by
  induction details generalizing worker with
  | nil => exact ⟨⟨rfl, rfl, rfl, rfl, fun _ => rfl, List.prefix_refl _⟩, rfl, rfl, rfl⟩
  | cons detail details ih =>
    refine .trans ?_ ih
    cases detail <;>
      exact ⟨⟨rfl, rfl, rfl, rfl, fun _ => rfl, List.prefix_refl _⟩, rfl, rfl, rfl⟩

theorem Settles.quiet_of_calm (h : Settles worker worker') (hcalm : Calm worker) :
    Quiet worker worker' := by
  induction h with
  | quiet h => exact h
  | wake i hi => exact absurd (hcalm i) hi
  | trans _ _ ih ih' =>
    have hquiet := ih hcalm
    exact hquiet.trans (ih' fun i => (hquiet.handlers i).trans (hcalm i))

theorem calm_newUserSettings (hcalm : Calm worker) : Calm worker.newUserSettings := by
  intro i
  have hi := hcalm i
  unfold isLoadedHandlers settingsObject at *
  simp only [newUserSettings, List.getD_eq_getElem?_getD] at *
  rcases Nat.lt_trichotomy i worker.settings.length with hlt | heq | hgt
  · rw [List.getElem?_append_left hlt]
    exact hi
  · rw [heq, List.getElem?_concat_length]
    rfl
  · rw [List.getElem?_eq_none (by simpa [Nat.succ_le_iff] using hgt)]
    rfl

theorem Quiet.unaffected (h : Quiet worker worker') : Unaffected worker worker' :=
  ⟨h.sameRequest, h.pamFrame.arguments, h.pamFrame.childWatch, h.pamFrame.status⟩

/-- While nothing is waited for, the settings part of Initialize only chooses the
current settings object, which is a new one if they have to be waited for. -/
theorem loadInitialSettings_of_calm (hcalm : Calm worker) :
    Unaffected { worker with userSettings := worker.loadInitialSettings.1.userSettings }
        worker.loadInitialSettings.1 ∧
      (worker.loadInitialSettings.2 = true →
        worker.loadInitialSettings.1.userSettings = some worker.settings.length) := by
  have hnew : ∀ w, Quiet worker.newUserSettings w →
      Unaffected { worker with userSettings := w.userSettings } w ∧
        w.userSettings = some worker.settings.length := by
    intro w hquiet
    refine ⟨.trans ?_ hquiet.unaffected, hquiet.userSettings⟩
    refine ⟨⟨rfl, rfl, rfl, hquiet.userSettings.symm, ?_, List.prefix_refl _⟩, rfl, rfl, rfl⟩
    intro i
    exact (calm_newUserSettings hcalm i).trans (hcalm i).symm
  unfold loadInitialSettings
  split
  · refine ⟨?_, by simp⟩
    exact ⟨⟨rfl, rfl, rfl, rfl, fun _ => rfl, List.prefix_refl _⟩, rfl, rfl, rfl⟩
  · dsimp only
    split
    · obtain ⟨hunaffected, _⟩ := hnew _ (.refl _)
      exact ⟨hunaffected, by simp⟩
    · obtain ⟨hunaffected, hcurrent⟩ :=
        hnew _ ((settles_settingsLoad _ _).quiet_of_calm (calm_newUserSettings hcalm))
      exact ⟨hunaffected, fun _ => hcurrent⟩

theorem unaffected_initialized (invocation : Invocation) (details : List Detail)
    (seat0HasVts : Bool) :
    Unaffected { worker with pendingInvocation := some invocation }
      (worker.initialized invocation details seat0HasVts) := by
  have h : Unaffected worker (details.foldl applyDetail worker) := unaffected_applyDetail details
  exact ⟨⟨h.same.state, rfl, h.same.stateChangeIdle, h.same.userSettings, h.same.handlers,
    h.same.log⟩, h.arguments, h.childWatch, h.status⟩

/-- An accepted Initialize call, in terms of its parts. -/
theorem handleInitialize_of_accepts (haccepts : worker.Accepts .setupComplete)
    {invocation : Invocation} {details : List Detail} {seat0HasVts : Bool}
    (hinit : (worker.emit (.accepted invocation)).initialized invocation details seat0HasVts =
      worker') :
    worker.handleInitialize invocation details seat0HasVts =
      if worker'.loadInitialSettings.2 then
        worker'.loadInitialSettings.1.connectIsLoaded worker'.settings.length
      else worker'.loadInitialSettings.1.queueStateChange := by
  have hsettings : (details.foldl applyDetail (worker.emit (.accepted invocation))).settings =
      worker'.settings := by
    rw [← hinit]
    rfl
  unfold initialized at hinit
  unfold handleInitialize
  rw [haccepts.validate invocation]
  dsimp only
  rw [hinit, hsettings]
  cases worker'.loadInitialSettings with
  | mk worker₂ wait => cases wait <;> rfl

theorem accepted_handleInitialize (h : RequestState worker) {invocation : Invocation}
    (details : List Detail) (seat0HasVts : Bool) (haccepts : worker.Accepts .setupComplete)
    (hmethod : invocation.method = .Initialize) :
    Accepted worker (worker.handleInitialize invocation details seat0HasVts) := by
  obtain ⟨hidle, hcalm⟩ := haccepts.free h
  have hnone : worker.state = .none :=
    GdmSessionWorkerState.toNat_injective (Nat.succ.inj haccepts.2)
  have hinit : Unaffected
      { worker.emit (.accepted invocation) with pendingInvocation := some invocation }
      ((worker.emit (.accepted invocation)).initialized invocation details seat0HasVts) :=
    unaffected_initialized invocation details seat0HasVts
  rw [handleInitialize_of_accepts haccepts rfl]
  generalize (worker.emit (.accepted invocation)).initialized
    invocation details seat0HasVts = worker₁ at *
  have hcalm₁ : Calm worker₁ := fun i => (hinit.same.handlers i).trans (hcalm i)
  obtain ⟨hload, hcurrent⟩ := loadInitialSettings_of_calm hcalm₁
  generalize worker₁.loadInitialSettings = result at *
  obtain ⟨worker₂, wait⟩ := result
  have hpending : worker₂.pendingInvocation = some invocation :=
    hload.same.pendingInvocation.trans hinit.same.pendingInvocation
  have haccepted : .accepted invocation ∈ worker₂.log :=
    (hinit.same.log.trans hload.same.log).subset (List.mem_append_right _ (by simp))
  have hstate : worker₂.state = worker.state := hload.same.state.trans hinit.same.state
  have hcalm₂ : Calm worker₂ := fun i => (hload.same.handlers i).trans (hcalm₁ i)
  have hwatch : worker₂.childWatch = worker.childWatch := hload.childWatch.trans hinit.childWatch
  have hstatus : worker₂.status = worker.status := hload.status.trans hinit.status
  have hserves : invocation.method.Serves .setupComplete := .inl (by rw [hmethod]; rfl)
  cases wait with
  | false =>
    refine ⟨?_, hstate, hwatch, hstatus⟩
    exact .queued .setupComplete ⟨invocation, hpending, haccepted, hserves⟩
      (by rw [← haccepts.2, ← hstate]; rfl) rfl hcalm₂
  | true =>
    refine ⟨?_, hstate, hwatch, hstatus⟩
    refine .waiting .setupComplete worker₁.settings.length
      ⟨invocation, hpending, haccepted, hserves⟩ (.inl ⟨hstate.trans hnone, rfl⟩) ?_
      (hcurrent rfl) ?_
    · exact hload.same.stateChangeIdle.trans (hinit.same.stateChangeIdle.trans hidle)
    · intro j hj
      exact (isLoadedHandlers_connectIsLoaded_of_ne hj).trans (hcalm₂ j)

/-- An accepted call leaves the requests in order. -/
theorem accepted_receive (h : RequestState worker) (hrunning : worker.status = .running)
    {request : Request} (haccepts : worker.Accepts request.method.newState) :
    Accepted worker (worker.receive request) := by
  have h' : RequestState (worker.arrive request.method) := h.same (sameRequest_arrive _)
  have haccepted : Accepted (worker.arrive request.method) (worker.receive request) := by
    cases request with
    | Initialize details seat0HasVts => exact accepted_handleInitialize h' _ _ haccepts rfl
    | Authenticate => exact accepted_validateAndQueueStateChange h' haccepts rfl
    | Authorize => exact accepted_validateAndQueueStateChange h' haccepts rfl
    | EstablishCredentials => exact accepted_handleEstablishCredentials h' haccepts rfl
    | Open => exact accepted_validateAndQueueStateChange h' haccepts rfl
    | StartProgram argv => exact accepted_handleStartProgram h' hrunning haccepts rfl
  exact ⟨haccepted.requests, haccepted.state, haccepted.childWatch, haccepted.status⟩

/-! ## Every step keeps the gating -/

theorem gated_of_requests (hg : Gated worker) (hsound : Sound worker')
    (hrequests : RequestState worker')
    (hwatch : worker'.childWatch.isSome → worker'.state = .sessionStarted)
    (hstatus : worker'.status = worker.status) : Gated worker' := by
  refine ⟨hsound, fun _ => hwatch, ?_, fun _ => hrequests⟩
  rw [hstatus]
  exact hg.assertions

theorem gated_receive (hg : Gated worker) (hrunning : worker.status = .running)
    {request : Request} (hinOrder : worker.StartProgramInOrder (.call request)) :
    Gated (worker.receive request) := by
  have htransitions : Transitions worker (worker.receive request) := transitions_receive request
  have hsound := htransitions.sound hg.sound
  have hrequests := hg.requests hrunning
  by_cases haccepts : worker.Accepts request.method.newState
  · obtain ⟨hrequests', hstate, hwatch, hstatus⟩ :=
      accepted_receive hrequests hrunning haccepts
    refine gated_of_requests hg hsound hrequests' ?_ hstatus
    rw [hwatch, hstate]
    exact hg.childWatch hrunning
  · have hrefused := refused_receive hrequests hrunning haccepts hinOrder
    refine gated_of_requests hg hsound (hrequests.same hrefused.same) ?_ hrefused.status
    rw [hrefused.childWatch, hrefused.same.state]
    exact hg.childWatch hrunning

theorem gated_settles (hg : Gated worker) (hrunning : worker.status = .running)
    (h : Settles worker worker') : Gated worker' := by
  refine gated_of_requests hg (h.sound hg.sound) ((hg.requests hrunning).settles h) ?_
    h.pamFrame.status
  rw [h.pamFrame.childWatch]
  intro hwatch
  have hstarted := hg.childWatch hrunning hwatch
  rcases h.state with hsame | ⟨haccredited, _⟩
  · exact hsame.trans hstarted
  · rw [hstarted] at haccredited
    cases haccredited

/-- When the session program exits nothing is pending, so undoing PAM takes no
state away from a request. -/
theorem gated_sessionWorkerChildWatch (hg : Gated worker) (hrunning : worker.status = .running)
    (hstarted : worker.state = .sessionStarted) (pid : Int) (status : Nat) (o : Outcomes) :
    Gated (worker.sessionWorkerChildWatch pid status o) := by
  obtain ⟨handle, hat⟩ := hg.sound.at_state hstarted (by decide)
  obtain ⟨hsteps, _, _⟩ :=
    pamSteps_uninitializePam hat.handle_eq (by simp [hstarted]) .success o
  have hsound := (transitions_sessionWorkerChildWatch hg.sound pid status o).sound hg.sound
  cases hg.requests hrunning with
  | free hpending hidle hcalm =>
    obtain ⟨hcalm', hidle'⟩ := calm_pamSteps hsteps hcalm
    refine gated_of_requests hg hsound ?_ ?_ hsteps.pamFrame.status
    · exact .free (hsteps.pamFrame.pendingInvocation.trans hpending) (hidle'.trans hidle) hcalm'
    · intro hwatch
      cases hwatch
  | queued newState _ hnext _ _ =>
    rw [hstarted] at hnext
    cases newState <;> cases hnext
  | waiting _ _ _ hstate _ _ _ =>
    rw [hstarted] at hstate
    rcases hstate with ⟨h, _⟩ | ⟨h, _⟩ <;> cases h

theorem gated_step (hg : Gated worker) {event : WorkerEvent}
    (hinOrder : worker.StartProgramInOrder event) : Gated (worker.step event) := by
  have hsound := (step_transitions hg.sound event).sound hg.sound
  unfold step at *
  by_cases hrunning : worker.status = .running
  swap
  · rw [if_pos hrunning]
    exact hg
  rw [if_neg (not_not.mpr hrunning)] at *
  cases event with
  | call request => exact gated_receive hg hrunning hinOrder
  | stateChangeIdle o =>
    dsimp only
    split
    · rename_i hidle
      exact gated_stateChangeIdleCallback hg hrunning hidle o
    · exact hg
  | accountLoaded user account =>
    exact gated_settles hg hrunning (settles_accountLoaded user account)
  | accountUnloaded user => exact gated_settles hg hrunning (.quiet (quiet_setAccounts _))
  | setSessionName name =>
    dsimp only [handleSetSessionName]
    split
    · exact hg
    · exact gated_settles hg hrunning (.quiet (quiet_settingsSetSessionName _ _))
  | setLanguageName name =>
    dsimp only [handleSetLanguageName]
    split
    · exact hg
    · exact gated_settles hg hrunning (.quiet (quiet_settingsSetLanguageName _ _))
  | childExited status o =>
    dsimp only
    split
    · exact hg
    · rename_i pid hwatch
      exact gated_sessionWorkerChildWatch hg hrunning
        (hg.childWatch hrunning (by simp [hwatch])) pid status o
  | finalize o =>
    refine ⟨hsound, ?_, ?_, ?_⟩
    · intro hrunning'
      cases hrunning'
    · intro assertion habort
      cases habort
    · intro hrunning'
      cases hrunning'

/-! ## What a gated worker does next -/

/-- The next step of the worker is gated: a refused call changes nothing, a step
is made, and the state moves on, for the accepted request that asks for it, and
the assertions of the state-change code hold. -/
structure StepIsGated (worker : GdmSessionWorker) (event : WorkerEvent) : Prop where
  refused : ∀ request, event = .call request → ¬ worker.Accepts request.method.newState →
    (worker.step event).state = worker.state ∧
      (worker.step event).pendingInvocation = worker.pendingInvocation ∧
      (worker.step event).arguments = worker.arguments ∧
      (worker.step event).stateChangeIdle = worker.stateChangeIdle
  performs : ∀ o, event = .stateChangeIdle o → worker.status = .running →
    worker.stateChangeIdle = true →
    ∃ newState, worker.state.toNat + 1 = newState.toNat ∧ worker.ActsFor newState
  advances : (worker.step event).state = worker.state ∨ (worker.step event).state = .none ∨
    worker.state.toNat + 1 = (worker.step event).state.toNat ∧
      worker.ActsFor (worker.step event).state
  assertions : ∀ assertion, (worker.step event).status = .aborted assertion →
    assertion.ofStateChange = false

/-- The settings only let a request go on that has waited for them. -/
theorem advances_settles (hrequests : RequestState worker) (h : Settles worker worker') :
    worker'.state = worker.state ∨ worker'.state = .none ∨
      worker.state.toNat + 1 = worker'.state.toNat ∧ worker.ActsFor worker'.state := by
  cases hrequests with
  | free _ _ hcalm => exact .inl (h.quiet_of_calm hcalm).state
  | queued _ _ _ _ hcalm => exact .inl (h.quiet_of_calm hcalm).state
  | waiting newState _ hacts hstate _ _ _ =>
    rcases h.state with hsame | ⟨haccredited, hsaved⟩
    · exact .inl hsame
    · right
      right
      rw [hsaved]
      rcases hstate with ⟨hnone, _⟩ | ⟨_, rfl⟩
      · rw [haccredited] at hnone
        cases hnone
      · exact ⟨by rw [haccredited]; rfl, hacts⟩

theorem stateChangeIdleCallback_of_next {newState : GdmSessionWorkerState}
    (hnext : worker.state.toNat + 1 = newState.toNat) (o : Outcomes) :
    worker.stateChangeIdleCallback o =
      (worker.dispatched newState).performStateChange o newState := by
  simp only [stateChangeIdleCallback, hnext, GdmSessionWorkerState.ofNat?_toNat]

theorem advances_stateChangeIdleCallback (hg : Gated worker) (hrunning : worker.status = .running)
    (hidle : worker.stateChangeIdle = true) (o : Outcomes) :
    (worker.stateChangeIdleCallback o).state = worker.state ∨
      (worker.stateChangeIdleCallback o).state = .none ∨
      worker.state.toNat + 1 = (worker.stateChangeIdleCallback o).state.toNat ∧
        worker.ActsFor (worker.stateChangeIdleCallback o).state := by
  obtain ⟨newState, hacts, hnext, _⟩ := (hg.requests hrunning).queued_of_idle hidle
  rw [stateChangeIdleCallback_of_next hnext]
  have haside : Aside worker (worker.dispatched newState) := aside_dispatched newState
  have hsound := haside.sound hg.sound
  rcases lands_performStateChange hsound hnext o with hthere | hnone | hsame
  · rw [hthere]
    exact .inr (.inr ⟨hnext, hacts⟩)
  · exact .inr (.inl hnone)
  · exact .inl hsame

theorem advances_step (hg : Gated worker) {event : WorkerEvent}
    (hinOrder : worker.StartProgramInOrder event) :
    (worker.step event).state = worker.state ∨ (worker.step event).state = .none ∨
      worker.state.toNat + 1 = (worker.step event).state.toNat ∧
        worker.ActsFor (worker.step event).state := by
  unfold step
  by_cases hrunning : worker.status = .running
  swap
  · rw [if_pos hrunning]
    exact .inl rfl
  rw [if_neg (not_not.mpr hrunning)]
  have hrequests := hg.requests hrunning
  cases event with
  | call request =>
    by_cases haccepts : worker.Accepts request.method.newState
    · exact .inl (accepted_receive hrequests hrunning haccepts).state
    · exact .inl (refused_receive hrequests hrunning haccepts hinOrder).same.state
  | stateChangeIdle o =>
    dsimp only
    split
    · rename_i hidle
      exact advances_stateChangeIdleCallback hg hrunning hidle o
    · exact .inl rfl
  | accountLoaded user account =>
    exact advances_settles hrequests (settles_accountLoaded user account)
  | accountUnloaded user => exact .inl rfl
  | setSessionName name =>
    dsimp only [handleSetSessionName]
    split
    · exact .inl rfl
    · exact .inl (quiet_settingsSetSessionName _ _).state
  | setLanguageName name =>
    dsimp only [handleSetLanguageName]
    split
    · exact .inl rfl
    · exact .inl (quiet_settingsSetLanguageName _ _).state
  | childExited status o =>
    dsimp only
    split
    · exact .inl rfl
    · rcases worker.uninitializePam_state .success o with hnone | hsame
      · exact .inr (.inl hnone)
      · exact .inl (show (worker.uninitializePam .success o).state = _ by rw [hsame])
  | finalize o =>
    have hkill : (if 0 < worker.childPid then
        { worker with childWatch := none }.emit (.killed worker.childPid)
        else { worker with childWatch := none }).state = worker.state := by
      split
      · rfl
      · rfl
    rcases lands_uninitializePam .none hkill .success o with hnone | hnone | hsame
    · exact .inr (.inl hnone)
    · exact .inr (.inl hnone)
    · exact .inl hsame

theorem stepIsGated (hg : Gated worker) {event : WorkerEvent}
    (hinOrder : worker.StartProgramInOrder event) : StepIsGated worker event := by
  refine ⟨?_, ?_, advances_step hg hinOrder, (gated_step hg hinOrder).assertions⟩
  · rintro request rfl hrefused
    unfold step
    by_cases hrunning : worker.status = .running
    · rw [if_neg (not_not.mpr hrunning)]
      have h := refused_receive (hg.requests hrunning) hrunning hrefused hinOrder
      exact ⟨h.same.state, h.same.pendingInvocation, h.arguments, h.same.stateChangeIdle⟩
    · rw [if_pos hrunning]
      exact ⟨rfl, rfl, rfl, rfl⟩
  · rintro o rfl hrunning hidle
    obtain ⟨newState, hacts, hnext, _⟩ := (hg.requests hrunning).queued_of_idle hidle
    exact ⟨newState, hnext, hacts⟩

/-! ## Every run in which StartProgram is called in order is gated -/

theorem gated_run {isReauthSession : Bool} {accounts : String → Option Account}
    {events : List WorkerEvent}
    (hinOrder : machine.Meets StartProgramInOrder (new isReauthSession accounts) events) :
    Gated (machine.run (new isReauthSession accounts) events) :=
  hinOrder.invariant Gated (fun _ _ hg h => gated_step hg h) (gated_new isReauthSession accounts)

/-- In a run in which StartProgram is called in order, each step of the worker is
gated. -/
theorem run_is_gated (isReauthSession : Bool) (accounts : String → Option Account)
    (events after : List WorkerEvent) (event : WorkerEvent)
    (hinOrder : machine.Meets StartProgramInOrder (new isReauthSession accounts)
      (events ++ event :: after)) :
    StepIsGated (machine.run (new isReauthSession accounts) events) event := by
  obtain ⟨hbefore, hhere⟩ := hinOrder.at_step
  exact stepIsGated (gated_run hbefore) hhere

/-- A program login calls StartProgram in order; a second Open is refused. -/
theorem programLogin_is_gated :
    StepIsGated (machine.run (new false fun _ => none) programLogin) (.call .Open) :=
  run_is_gated false (fun _ => none) programLogin [] (.call .Open) (by decide)

/-- A worker that has just started refuses StartProgram and queues it all the
same; one that runs a program already goes on to a state that has no name. -/
theorem startProgram_is_not_gated :
    ¬ StepIsGated (machine.run (new false fun _ => none) [])
        (.call (.StartProgram (.ok ["true"]))) ∧
      (machine.run (new false fun _ => none) (programLogin ++
        [.call (.StartProgram (.ok ["true"])), .stateChangeIdle {}])).status =
          .aborted .getStateName := by
  refine ⟨?_, by decide⟩
  intro h
  obtain ⟨_, hpending, _⟩ := h.refused _ rfl (by decide)
  revert hpending
  decide

end GdmSessionWorker

end Gdm
