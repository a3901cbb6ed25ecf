import Gdm.Worker.Transitions

/-!
# The functions of the worker as transitions

Each step function of the worker is a sequence of PAM transitions, so what the
transitions preserve the functions preserve.  The last section puts the
functions together: a whole step of the main loop is a sequence of transitions
too.
-/

namespace Gdm

namespace GdmSessionWorker

variable {worker worker' : GdmSessionWorker}

/-! ## PAM calls and the clean-up -/

theorem settles_converse (items : List UserItem) (hhandle : worker.pamHandle ≠ none) :
    Settles worker (worker.converse items) := by
  unfold converse
  induction items generalizing worker with
  | nil => exact .refl _
  | cons item items ih =>
    have hitem := settles_updateUsername item hhandle
    refine .trans hitem (ih ?_)
    rw [hitem.pamHandle]
    exact hhandle

theorem pamCall_of_handle {handle : Nat} (hhandle : worker.pamHandle = some handle)
    (call : PamCall) (reply : PamReply) :
    worker.pamCall call reply =
      ((worker.converse reply.userItems).emit (.pam call (some handle) reply.code),
        reply.code) := by
  simp [pamCall, hhandle]

/-- Below ACCREDITED there is nothing to undo but the handle. -/
theorem uninitializePam_of_not_accredited {handle : Nat}
    (hhandle : worker.pamHandle = some handle) (hstate : ¬ .accredited ≤ worker.state)
    (status : PamCode) (o : Outcomes) :
    worker.uninitializePam status o = worker.endPam handle status := by
  have hopened : ¬ .sessionOpened ≤ worker.state := fun h =>
    hstate (Nat.le_trans (by decide : 4 ≤ 6) h)
  simp [uninitializePam, endPam, hhandle, hstate, hopened]

/-- The clean-up undoes what has been done, and then there is no handle. -/
theorem pamSteps_uninitializePam {handle : Nat} (hhandle : worker.pamHandle = some handle)
    (hstate : worker.state ≠ .none) (status : PamCode) (o : Outcomes) :
    PamSteps worker (worker.uninitializePam status o) ∧
      (worker.uninitializePam status o).state = .none ∧
      (worker.uninitializePam status o).pamHandle = none := by
  have hne : worker.pamHandle ≠ none := by simp [hhandle]
  unfold uninitializePam
  simp only [hhandle]
  refine ⟨?_, by simp, by simp⟩
  by_cases hopened : .sessionOpened ≤ worker.state
  · have haccredited : .accredited ≤ worker.state :=
      Nat.le_trans (by decide : 4 ≤ 6) hopened
    have hnotAccredited : worker.state ≠ .accredited := by
      intro h
      rw [h] at hopened
      exact absurd hopened (by decide)
    have hclose := settles_converse o.closeSession.userItems hne
    have hquiet := hclose.quiet_of_state hstate hnotAccredited
    have hhandle' : (worker.converse o.closeSession.userItems).pamHandle = some handle := by
      rw [hquiet.pamHandle, hhandle]
    have hclosed : ((worker.converse o.closeSession.userItems).emit
        (.pam .closeSession (some handle) o.closeSession.code)).pamHandle = some handle := by
      rw [← hhandle']
      rfl
    rw [if_pos hopened, pamCall_of_handle hhandle]
    simp only
    rw [if_pos (by simp [emit, hquiet.state, haccredited]), pamCall_of_handle hclosed]
    refine .trans (.single (.settles hclose)) (.single ?_)
    refine .endedOpened o.closeSession.code _ _ hhandle' (by rw [hquiet.state]; exact hopened) ?_
    refine (settles_converse _ (by simp [hclosed])).quiet_of_state ?_ ?_
    · simpa [emit, hquiet.state] using hstate
    · simpa [emit, hquiet.state] using hnotAccredited
  · rw [if_neg hopened]
    by_cases haccredited : .accredited ≤ worker.state
    · rw [if_pos haccredited, pamCall_of_handle hhandle]
      have hconverse := settles_converse o.deleteCred.userItems hne
      refine .trans (.single (.settles hconverse)) (.single ?_)
      refine .endedAccredited _ _ (by rw [hconverse.pamHandle, hhandle]) ?_ ?_
      · rcases hconverse.state with h | ⟨_, h⟩
        · rw [h]
          exact haccredited
        · rw [h]
          decide
      · rcases hconverse.state with h | ⟨_, h⟩
        · rw [h]
          exact hopened
        · rw [h]
          decide
    · rw [if_neg haccredited]
      exact .single (.ended status hhandle hstate haccredited)

/-! ## The steps as transitions -/

/-- A worker in state `state` with PAM handle `handle`. -/
structure At (worker : GdmSessionWorker) (state : GdmSessionWorkerState) (handle : Nat) :
    Prop where
  state_eq : worker.state = state
  handle_eq : worker.pamHandle = some handle

/-- The clean-up as the last thing a step does. -/
theorem PamSteps.uninitializePam {state : GdmSessionWorkerState} {handle : Nat}
    (h : PamSteps worker worker') (hat : At worker' state handle) (hstate : state ≠ .none)
    (status : PamCode) (o : Outcomes) : PamSteps worker (worker'.uninitializePam status o) :=
  h.trans (pamSteps_uninitializePam hat.handle_eq (hat.state_eq ▸ hstate) status o).1

/-- A PAM call in a state that waits for no settings, before its code is looked
at: the conversation is quiet. -/
theorem At.converse {state : GdmSessionWorkerState} {handle : Nat}
    (hat : At worker state handle) (hnone : state ≠ .none) (haccredited : state ≠ .accredited)
    (items : List UserItem) :
    Quiet worker (worker.converse items) ∧ At (worker.converse items) state handle := by
  have hsettles := settles_converse items (by simp [hat.handle_eq] : worker.pamHandle ≠ none)
  have hquiet := hsettles.quiet_of_state (hat.state_eq ▸ hnone) (hat.state_eq ▸ haccredited)
  refine ⟨hquiet, ?_, ?_⟩
  · rw [hquiet.state, hat.state_eq]
  · rw [hquiet.pamHandle, hat.handle_eq]

theorem At.emit {state : GdmSessionWorkerState} {handle : Nat}
    (hat : At worker state handle) (effect : Effect) : At (worker.emit effect) state handle :=
  ⟨hat.state_eq, hat.handle_eq⟩

theorem pamSteps_initializePam (hstate : worker.state = .none)
    (hhandle : worker.pamHandle = none) (o : Outcomes) :
    worker.initializePam o = (worker.abort .initializePam, .aborted) ∨
      PamSteps worker (worker.initializePam o).1 ∧ (worker.initializePam o).2 ≠ .aborted := by
  have hends : ∀ code, (worker.startPam.uninitializePam code o) =
      worker.startPam.endPam worker.nextHandle code := by
    intro code
    refine uninitializePam_of_not_accredited rfl ?_ code o
    rw [show worker.startPam.state = .none from hstate]
    decide
  unfold initializePam
  by_cases hassert : worker.service = none ∨ worker.pamHandle ≠ none
  · rw [if_pos hassert]
    exact .inl rfl
  rw [if_neg hassert]
  right
  by_cases hstart : o.startCode ≠ .success
  · rw [if_pos hstart]
    refine ⟨?_, by simp⟩
    have hclean : (worker.emit (.pam .start none o.startCode)).uninitializePam o.startCode o =
        worker.emit (.pam .start none o.startCode) := by
      simp [uninitializePam, emit, hhandle]
    simp only [hclean]
    exact .single (.startFails hstart)
  rw [if_neg hstart]
  dsimp only
  split
  · refine ⟨?_, by simp⟩
    exact (hends o.setUserPromptCode) ▸ .single (.startEnds _ hstate hhandle)
  · split
    · refine ⟨?_, by simp⟩
      exact (hends o.setRhostCode) ▸ .single (.startEnds _ hstate hhandle)
    · refine ⟨?_, by simp⟩
      exact .tail (.single (.starts hstate hhandle)) (.sideline _ _)

theorem pamSteps_authenticateUser {handle : Nat} (hat : At worker .setupComplete handle)
    (o : Outcomes) :
    PamSteps worker (worker.authenticateUser o).1 ∧
      (worker.authenticateUser o).2 ≠ .aborted ∧
      ((worker.authenticateUser o).2 = .success →
        At (worker.authenticateUser o).1 .authenticated handle) := by
  obtain ⟨hquiet, hat'⟩ := hat.converse (by decide) (by decide) o.authenticate.userItems
  have hconverse : PamSteps worker (worker.converse o.authenticate.userItems) :=
    .single (.settles (.quiet hquiet))
  have hcalls : PamSteps worker ((worker.converse o.authenticate.userItems).emit
      (.pam (.authenticate worker.passwordIsRequired) (some handle) o.authenticate.code)) :=
    hconverse.tail (.calls hat'.handle_eq trivial)
  have hfails := fun code => hcalls.uninitializePam (hat'.emit _) (by decide) code o
  unfold authenticateUser
  rw [pamCall_of_handle hat.handle_eq]
  dsimp only
  split
  · rename_i hcode
    rw [hcode]
    refine ⟨hconverse.tail (.authenticated _ hat'.state_eq hat'.handle_eq), by simp, ?_⟩
    intro _
    exact ⟨by simp, by simpa [emit] using hat'.handle_eq⟩
  all_goals exact ⟨hfails _, by simp, by simp⟩

/-- The two calls of account management: if they leave the code of success, one
of the two ways to succeed has been taken. -/
theorem manageAccount_cases {handle : Nat} (hat : At worker .authenticated handle)
    (o : Outcomes) :
    ∃ worker₁, Quiet worker worker₁ ∧ At worker₁ .authenticated handle ∧
      PamSteps worker₁ (worker.manageAccount o).1 ∧
      At (worker.manageAccount o).1 .authenticated handle ∧
      ((worker.manageAccount o).2 = .success →
        AccountManaged handle worker₁ (worker.manageAccount o).1) := by
  obtain ⟨hquiet, hat'⟩ := hat.converse (by decide) (by decide) o.acctMgmt.userItems
  refine ⟨_, hquiet, hat', ?_⟩
  have hcall : PamStep (worker.converse o.acctMgmt.userItems)
      ((worker.converse o.acctMgmt.userItems).emit
        (.pam (.acctMgmt worker.passwordIsRequired) (some handle) o.acctMgmt.code)) :=
    .calls hat'.handle_eq trivial
  have hat'' := hat'.emit
    (.pam (.acctMgmt worker.passwordIsRequired) (some handle) o.acctMgmt.code)
  unfold manageAccount
  rw [pamCall_of_handle hat.handle_eq]
  dsimp only
  split
  · rename_i hrequired
    obtain ⟨hchange, hat₃⟩ := hat''.converse (by decide) (by decide) o.chauthtok.userItems
    rw [pamCall_of_handle hat''.handle_eq]
    refine ⟨?_, hat₃.emit _, ?_⟩
    · exact (PamSteps.single hcall).tail (.settles (.quiet hchange))
        |>.tail (.calls hat₃.handle_eq trivial)
    · intro hcode
      simp only at hcode
      rw [hrequired.1] at hchange ⊢
      rw [hcode]
      exact .tokenChanged _ hchange
  · refine ⟨.single hcall, hat'', ?_⟩
    intro hcode
    simp only at hcode
    rw [hcode]
    exact .valid _

theorem pamSteps_authorizeUser {handle : Nat} (hat : At worker .authenticated handle)
    (o : Outcomes) :
    PamSteps worker (worker.authorizeUser o).1 ∧ (worker.authorizeUser o).2 ≠ .aborted := by
  obtain ⟨worker₁, hquiet, hat₁, hsteps, hat₂, hmanaged⟩ := manageAccount_cases hat o
  have hquietStep : PamSteps worker worker₁ := .single (.settles (.quiet hquiet))
  unfold authorizeUser
  dsimp only
  by_cases hreauth : (worker.manageAccount o).1.isReauthSession = true
  · simp only [hreauth, if_true, ne_eq, not_true_eq_false, if_false]
    exact ⟨(hquietStep.trans hsteps).tail (.reauthAuthorized hreauth hat₂.state_eq), by simp⟩
  · simp only [hreauth, Bool.false_eq_true, if_false]
    by_cases hcode : (worker.manageAccount o).2 = .success
    · simp only [hcode, ne_eq, not_true_eq_false, if_false]
      exact ⟨hquietStep.tail (.authorized hat₁.state_eq hat₁.handle_eq (hmanaged hcode)),
        by simp⟩
    · simp only [ne_eq, hcode, not_false_eq_true, if_true]
      exact ⟨(hquietStep.trans hsteps).uninitializePam hat₂ (by decide) _ o, by simp⟩

theorem pamSteps_accreditUser {handle : Nat} (hat : At worker .authorized handle)
    (hflags : worker.credFlags ≠ .deleteCred) (o : Outcomes) :
    PamSteps worker (worker.accreditUser o).1 ∧ (worker.accreditUser o).2 ≠ .aborted := by
  have hfails := fun code => (PamSteps.refl worker).uninitializePam hat (by decide) code o
  obtain ⟨hquiet, hat'⟩ := hat.converse (by decide) (by decide) o.setcred.userItems
  have hconverse : PamSteps worker (worker.converse o.setcred.userItems) :=
    .single (.settles (.quiet hquiet))
  have hcalls : PamSteps worker ((worker.converse o.setcred.userItems).emit
      (.pam (.setcred worker.credFlags) (some handle) o.setcred.code)) :=
    hconverse.tail (.calls hat'.handle_eq hflags)
  unfold accreditUser
  split
  · exact ⟨hfails _, by simp⟩
  split
  · exact ⟨hfails _, by simp⟩
  split
  · exact ⟨hfails _, by simp⟩
  rw [pamCall_of_handle hat.handle_eq]
  dsimp only
  by_cases hreauth : ((worker.converse o.setcred.userItems).emit
      (.pam (.setcred worker.credFlags) (some handle) o.setcred.code)).isReauthSession = true
  · simp only [hreauth, if_true, ne_eq, not_true_eq_false, if_false]
    exact ⟨hcalls.tail (.reauthAccredited hreauth hat'.state_eq), by simp⟩
  · simp only [hreauth, Bool.false_eq_true, if_false]
    by_cases hcode : o.setcred.code = .success
    · simp only [hcode, ne_eq, not_true_eq_false, if_false]
      exact ⟨hconverse.tail (.accredited hat'.state_eq hat'.handle_eq hflags), by simp⟩
    · simp only [ne_eq, hcode, not_false_eq_true, if_true]
      exact ⟨hcalls.uninitializePam (hat'.emit _) (by decide) _ o, by simp⟩

theorem pamSteps_openSessionOnVt {handle : Nat} (hat : At worker .accountDetailsSaved handle)
    (hidle : worker.stateChangeIdle = false) (o : Outcomes) :
    PamSteps worker (worker.openSessionOnVt o).1 ∧ (worker.openSessionOnVt o).2 ≠ .aborted := by
  obtain ⟨hquiet, hat'⟩ := hat.converse (by decide) (by decide) o.openSession.userItems
  have hconverse : PamSteps worker (worker.converse o.openSession.userItems) :=
    .single (.settles (.quiet hquiet))
  unfold openSessionOnVt
  rw [pamCall_of_handle hat.handle_eq]
  dsimp only
  split
  · rename_i hcode
    have hcalls : PamSteps worker ((worker.converse o.openSession.userItems).emit
        (.pam (.openSession worker.isProgramSession) (some handle) o.openSession.code)) :=
      hconverse.tail (.calls hat'.handle_eq hcode)
    exact ⟨hcalls.uninitializePam (hat'.emit _) (by decide) _ o, by simp⟩
  · rename_i hcode
    rw [not_not] at hcode
    rw [hcode]
    refine ⟨?_, by simp⟩
    have hopened := hconverse.tail (.opened worker.isProgramSession hat'.state_eq hat'.handle_eq
      (by rw [hquiet.stateChangeIdle, hidle]))
    exact hopened.tail (.sideline _ _)

theorem pamSteps_openSession {handle : Nat} (hat : At worker .accountDetailsSaved handle)
    (hidle : worker.stateChangeIdle = false) (hroot : worker.euid = 0 ∧ worker.fsuid = 0)
    (o : Outcomes) :
    worker.openSession o = (worker.abort .setUpForNewVt, .aborted) ∨
      PamSteps worker (worker.openSession o).1 ∧ (worker.openSession o).2 ≠ .aborted := by
  unfold openSession
  rw [if_neg (by simp [hat.state_eq, hroot.1, hroot.2])]
  split
  · cases worker.setUpForNewVt o with
    | success => exact .inr (pamSteps_openSessionOnVt hat hidle o)
    | failure error => exact .inr ⟨.refl _, by simp⟩
    | aborted => exact .inl rfl
  · exact .inr (pamSteps_openSessionOnVt hat hidle o)

/-! ## Answering the pending invocation -/

/-- After some transitions the pending invocation is completed, with a reply to
`method` or an error. -/
def Completes (method : Method) (worker worker' : GdmSessionWorker) : Prop :=
  ∃ worker₁ reply, PamSteps worker worker₁ ∧ reply.Answers method ∧
    worker' = worker₁.answer reply

theorem completes_finishRequest {method : Method} {result : GdmSessionWorker × StepResult}
    {reply : GdmSessionWorker → Reply} (hsteps : PamSteps worker result.1)
    (haborted : result.2 ≠ .aborted) (hreply : ∀ w, (reply w).Answers method) :
    Completes method worker (finishRequest result reply) := by
  obtain ⟨worker₁, outcome⟩ := result
  cases outcome with
  | success => exact ⟨worker₁, _, hsteps, hreply worker₁, rfl⟩
  | failure error => exact ⟨worker₁, .error error, hsteps, trivial, rfl⟩
  | aborted => exact absurd rfl haborted

theorem completes_doSetup (hstate : worker.state = .none) (hhandle : worker.pamHandle = none)
    (o : Outcomes) :
    worker.doSetup o = worker.abort .initializePam ∨
      Completes .Initialize worker (worker.doSetup o) := by
  rcases pamSteps_initializePam hstate hhandle o with habort | ⟨hsteps, hresult⟩
  · left
    simp [doSetup, habort, finishRequest]
  · exact .inr (completes_finishRequest hsteps hresult fun _ => rfl)

theorem completes_doAuthenticate {handle : Nat} (hat : At worker .setupComplete handle)
    (hrunning : worker.status = .running) (o : Outcomes) :
    Completes .Authenticate worker (worker.doAuthenticate o) := by
  obtain ⟨hsteps, hresult, hsuccess⟩ := pamSteps_authenticateUser hat o
  unfold doAuthenticate
  generalize worker.authenticateUser o = result at *
  obtain ⟨worker₁, outcome⟩ := result
  cases outcome with
  | failure error => exact completes_finishRequest hsteps hresult fun _ => rfl
  | aborted => exact absurd rfl hresult
  | success =>
    have hhandle : worker₁.pamHandle = some handle := (hsuccess rfl).handle_eq
    have hlooked : PamSteps worker (if worker₁.isProgramSession then worker₁
        else worker₁.updateUsername o.userItem) := by
      split
      · exact hsteps
      · exact hsteps.tail (.settles (settles_updateUsername _ (by simp [hhandle])))
    have hstatus := hlooked.pamFrame.status.trans hrunning
    dsimp only
    rw [if_neg (not_not.mpr hstatus)]
    exact ⟨_, .Authenticate, hlooked, rfl, rfl⟩

theorem completes_doAuthorize {handle : Nat} (hat : At worker .authenticated handle)
    (o : Outcomes) : Completes .Authorize worker (worker.doAuthorize o) := by
  obtain ⟨hsteps, hresult⟩ := pamSteps_authorizeUser hat o
  exact completes_finishRequest hsteps hresult fun _ => rfl

theorem completes_doAccredit {handle : Nat} (hat : At worker .authorized handle)
    (hflags : worker.credFlags ≠ .deleteCred) (o : Outcomes) :
    Completes .EstablishCredentials worker (worker.doAccredit o) := by
  obtain ⟨hsteps, hresult⟩ := pamSteps_accreditUser hat hflags o
  exact completes_finishRequest hsteps hresult fun _ => rfl

theorem completes_doOpenSession {handle : Nat} (hat : At worker .accountDetailsSaved handle)
    (hidle : worker.stateChangeIdle = false) (hroot : worker.euid = 0 ∧ worker.fsuid = 0)
    (o : Outcomes) :
    worker.doOpenSession o = worker.abort .setUpForNewVt ∨
      Completes .Open worker (worker.doOpenSession o) := by
  rcases pamSteps_openSession hat hidle hroot o with habort | ⟨hsteps, hresult⟩
  · left
    simp [doOpenSession, habort, finishRequest]
  · exact .inr (completes_finishRequest hsteps hresult fun _ => rfl)

/-- The child has been forked. -/
def forks (worker : GdmSessionWorker) (pid : Int) (arguments : List String) :
    GdmSessionWorker :=
  { { worker.emit (.forked pid arguments) with childPid := pid }.setState .sessionStarted with
    childWatch := some pid }

theorem doStartSession_cases {handle : Nat} (hat : At worker .sessionOpened handle)
    (o : Outcomes) :
    worker.doStartSession o = worker.abort .nullArguments ∧ worker.arguments = none ∨
      Completes .StartProgram worker (worker.doStartSession o) ∨
      ∃ pid arguments, worker.arguments = some arguments ∧
        worker.doStartSession o =
          (worker.forks pid arguments).answer
            (.StartProgram (worker.forks pid arguments).childPid) := by
  unfold doStartSession startSession
  cases harguments : worker.arguments with
  | none => exact .inl ⟨rfl, rfl⟩
  | some arguments =>
    right
    cases hfork : o.fork with
    | none =>
      left
      have hsteps := (PamSteps.refl worker).uninitializePam hat (by decide) .abort o
      exact completes_finishRequest hsteps (by simp) fun _ => rfl
    | some pid => exact .inr ⟨pid, arguments, rfl, rfl⟩

/-- Connecting the is-loaded handler to the settings object `i`. -/
def connectIsLoaded (worker : GdmSessionWorker) (i : Nat) : GdmSessionWorker :=
  worker.modifySettings i fun s => { s with isLoadedHandlers := s.isLoadedHandlers + 1 }

/-- Saving the account details either happens at once and queues the next step,
or waits for the current settings object. -/
theorem doSaveAccountDetailsWhenReady_cases (hstate : worker.state = .accredited) :
    Quiet (worker.setState .accountDetailsSaved).queueStateChange
        worker.doSaveAccountDetailsWhenReady ∨
      ∃ i, worker.userSettings = some i ∧
        Settles (worker.connectIsLoaded i) worker.doSaveAccountDetailsWhenReady := by
  have hnow := quiet_saveAccountDetailsNow hstate
  unfold doSaveAccountDetailsWhenReady
  rw [if_neg (not_not.mpr hstate)]
  cases hcurrent : worker.userSettings with
  | none => exact .inl hnow
  | some i =>
    dsimp only
    split
    · exact .inl hnow
    · exact .inr ⟨i, rfl, settles_settingsLoad i _⟩

end GdmSessionWorker

end Gdm
