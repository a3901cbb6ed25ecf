import Gdm.Worker.TransitionSystem

/-!
# Where the worker asks PAM for the user

The settings of the worker change in few places: PAM is asked for the name of the user, the
accounts service reports, the daemon sets a name, or the details are saved.  This module
finds them in the steps.  Everything else leaves the settings alone.
-/

namespace Gdm

/-- The effects of the settings, but for the type of the session. -/
def Effect.isOfSettings : Effect → Bool
  | savedLanguageNameRead _ | savedSessionNameRead _ | accountSaved _ _ _ _ => true
  | _ => false

/-- All that PAM answers for its user item in the course of a step. -/
def Outcomes.userItems (o : Outcomes) : List UserItem :=
  o.authenticate.userItems ++ o.acctMgmt.userItems ++ o.chauthtok.userItems ++
    o.setcred.userItems ++ o.openSession.userItems ++ o.closeSession.userItems ++
    o.deleteCred.userItems ++ [o.userItem]

namespace GdmSessionWorker

variable {worker worker' worker'' : GdmSessionWorker}

/-! ## What leaves the settings alone -/

/-- The settings objects and what the accounts service knows are the same, and nothing has
been said of them. -/
structure SameSettings (worker worker' : GdmSessionWorker) : Prop where
  settings : worker'.settings = worker.settings
  userSettings : worker'.userSettings = worker.userSettings
  accounts : worker'.accounts = worker.accounts
  log : ∃ new, worker'.log = worker.log ++ new ∧ ∀ effect ∈ new, effect.isOfSettings = false

theorem SameSettings.of_eq (hsettings : worker'.settings = worker.settings)
    (huserSettings : worker'.userSettings = worker.userSettings)
    (haccounts : worker'.accounts = worker.accounts) (hlog : worker'.log = worker.log) :
    SameSettings worker worker' := by
  constructor
  · exact hsettings
  · exact huserSettings
  · exact haccounts
  · exact ⟨[], by simp [hlog]⟩

theorem SameSettings.refl (worker : GdmSessionWorker) : SameSettings worker worker :=
  .of_eq rfl rfl rfl rfl

theorem SameSettings.trans (h : SameSettings worker worker')
    (h' : SameSettings worker' worker'') : SameSettings worker worker'' := by
  constructor
  · exact h'.settings.trans h.settings
  · exact h'.userSettings.trans h.userSettings
  · exact h'.accounts.trans h.accounts
  · exact History.exists_added_trans h.log h'.log

theorem sameSettings_emit {effect : Effect} (h : effect.isOfSettings = false) :
    SameSettings worker (worker.emit effect) := by
  constructor
  · rfl
  · rfl
  · rfl
  · exact ⟨[effect], rfl, by simpa using h⟩

theorem SameSettings.emit (h : SameSettings worker worker') {effect : Effect}
    (heffect : effect.isOfSettings = false) : SameSettings worker (worker'.emit effect) :=
  h.trans (sameSettings_emit heffect)

theorem sameSettings_setState (state : GdmSessionWorkerState) :
    SameSettings worker (worker.setState state) := by
  unfold setState
  split
  · exact .refl worker
  · have hset : SameSettings worker { worker with state := state } := .of_eq rfl rfl rfl rfl
    exact hset.emit rfl

theorem sameSettings_abort (assertion : Assertion) :
    SameSettings worker (worker.abort assertion) :=
  .of_eq rfl rfl rfl rfl

theorem sameSettings_queueStateChange : SameSettings worker worker.queueStateChange :=
  .of_eq rfl rfl rfl rfl

theorem sameSettings_dispatched (newState : GdmSessionWorkerState) :
    SameSettings worker (worker.dispatched newState) :=
  (sameSettings_emit rfl).trans (.of_eq rfl rfl rfl rfl)

theorem sameSettings_arrive (method : Method) : SameSettings worker (worker.arrive method) :=
  (sameSettings_emit rfl).trans (.of_eq rfl rfl rfl rfl)

theorem SameSettings.settingsObject (h : SameSettings worker worker') (i : Nat) :
    worker'.settingsObject i = worker.settingsObject i := by
  simp [GdmSessionWorker.settingsObject, h.settings]

/-! ## Consultations -/

/-- The second worker is the first after PAM has been asked for the user any number of times,
with these answers. -/
inductive Consults (items : List UserItem) (worker : GdmSessionWorker) : GdmSessionWorker → Prop
  | refl : Consults items worker worker
  | aside {w w' : GdmSessionWorker} : Consults items worker w → SameSettings w w' →
      w'.username = w.username → Consults items worker w'
  | asks {w : GdmSessionWorker} {item : UserItem} : Consults items worker w → item ∈ items →
      Consults items worker (w.updateUsername item)

variable {items : List UserItem}

/-- What every answer preserves holds after all of them. -/
theorem Consults.preserves {P : GdmSessionWorker → Prop}
    (haside : ∀ w w', SameSettings w w' → w'.username = w.username → P w → P w')
    (hasks : ∀ w, ∀ item ∈ items, P w → P (w.updateUsername item))
    (h : Consults items worker worker') (hP : P worker) : P worker' := by
  induction h with
  | refl => exact hP
  | aside _ hsame husername ih => exact haside _ _ hsame husername ih
  | asks _ hitem ih => exact hasks _ _ hitem ih

theorem Consults.of_eq (h : Consults items worker worker')
    (hsettings : worker''.settings = worker'.settings)
    (huserSettings : worker''.userSettings = worker'.userSettings)
    (haccounts : worker''.accounts = worker'.accounts) (hlog : worker''.log = worker'.log)
    (husername : worker''.username = worker'.username) : Consults items worker worker'' :=
  .aside h (.of_eq hsettings huserSettings haccounts hlog) husername

theorem Consults.emit (h : Consults items worker worker') {effect : Effect}
    (heffect : effect.isOfSettings = false) : Consults items worker (worker'.emit effect) :=
  .aside h (sameSettings_emit heffect) rfl

theorem Consults.setState (h : Consults items worker worker') (state : GdmSessionWorkerState) :
    Consults items worker (worker'.setState state) := by
  apply h.aside (sameSettings_setState state)
  unfold GdmSessionWorker.setState
  split
  · rfl
  · rfl

theorem Consults.answer (h : Consults items worker worker') (reply : Reply) :
    Consults items worker (worker'.answer reply) :=
  .of_eq (h.emit rfl) rfl rfl rfl rfl rfl

theorem Consults.converse (h : Consults items worker worker') {some : List UserItem}
    (hsome : some ⊆ items) : Consults items worker (worker'.converse some) := by
  unfold GdmSessionWorker.converse
  induction some generalizing worker' with
  | nil => exact h
  | cons item rest ih =>
    rw [List.cons_subset] at hsome
    exact ih (h.asks hsome.1) hsome.2

theorem Consults.pamCall (h : Consults items worker worker') (call : PamCall) {reply : PamReply}
    (hreply : reply.userItems ⊆ items) :
    Consults items worker (worker'.pamCall call reply).1 := by
  unfold GdmSessionWorker.pamCall
  split
  · exact h.emit rfl
  · exact (h.converse hreply).emit rfl

theorem Consults.endPam (h : Consults items worker worker') (handle : Nat) (status : PamCode) :
    Consults items worker (worker'.endPam handle status) := by
  have hended : Consults items worker (worker'.emit (.pam .pamEnd (some handle) status)) :=
    h.emit rfl
  have hcleared : Consults items worker
      { worker'.emit (.pam .pamEnd (some handle) status) with pamHandle := none } :=
    hended.of_eq rfl rfl rfl rfl rfl
  exact hcleared.setState .none

/-! ## The steps -/

variable {o : Outcomes}

theorem Consults.uninitializePam (h : Consults o.userItems worker worker') (status : PamCode) :
    Consults o.userItems worker (worker'.uninitializePam status o) := by
  have hclose : o.closeSession.userItems ⊆ o.userItems := by
    intro item hitem
    simp [Outcomes.userItems, hitem]
  have hdelete : o.deleteCred.userItems ⊆ o.userItems := by
    intro item hitem
    simp [Outcomes.userItems, hitem]
  unfold GdmSessionWorker.uninitializePam
  split
  · exact h
  · rename_i handle _
    dsimp only
    have hclosed : Consults o.userItems worker
        (if .sessionOpened ≤ worker'.state then (worker'.pamCall .closeSession o.closeSession).1
          else worker') := by
      split
      · exact h.pamCall _ hclose
      · exact h
    have hdeleted : ∀ w, Consults o.userItems worker w → Consults o.userItems worker
        (if .accredited ≤ w.state then (w.pamCall (.setcred .deleteCred) o.deleteCred).1
          else w) := by
      intro w hw
      split
      · exact hw.pamCall _ hdelete
      · exact hw
    exact (hdeleted _ hclosed).endPam handle status

theorem consults_initializePam (o : Outcomes) :
    Consults o.userItems worker (worker.initializePam o).1 := by
  have hrefl : Consults o.userItems worker worker := .refl
  unfold initializePam
  split
  · exact hrefl.of_eq rfl rfl rfl rfl rfl
  · split
    · exact (hrefl.emit rfl).uninitializePam _
    · dsimp only
      have hstarted : Consults o.userItems worker worker.startPam := by
        have hmade : Consults o.userItems worker
            { worker with pamHandle := some worker.nextHandle
                          nextHandle := worker.nextHandle + 1 } :=
          hrefl.of_eq rfl rfl rfl rfl rfl
        exact hmade.emit rfl
      split
      · exact hstarted.uninitializePam _
      · split
        · exact hstarted.uninitializePam _
        · exact (hstarted.setState .setupComplete).of_eq rfl rfl rfl rfl rfl

theorem consults_authenticateUser (o : Outcomes) :
    Consults o.userItems worker (worker.authenticateUser o).1 := by
  have hitems : o.authenticate.userItems ⊆ o.userItems := by
    intro item hitem
    simp [Outcomes.userItems, hitem]
  have hcalled : Consults o.userItems worker
      (worker.pamCall (.authenticate worker.passwordIsRequired) o.authenticate).1 :=
    Consults.refl.pamCall _ hitems
  unfold authenticateUser
  dsimp only
  split
  · exact hcalled.setState .authenticated
  · exact hcalled.uninitializePam _
  · exact hcalled.uninitializePam _
  · exact hcalled.uninitializePam _
  · exact hcalled.uninitializePam _

theorem consults_manageAccount (o : Outcomes) :
    Consults o.userItems worker (worker.manageAccount o).1 := by
  have hmgmt : o.acctMgmt.userItems ⊆ o.userItems := by
    intro item hitem
    simp [Outcomes.userItems, hitem]
  have hchange : o.chauthtok.userItems ⊆ o.userItems := by
    intro item hitem
    simp [Outcomes.userItems, hitem]
  have hcalled : Consults o.userItems worker
      (worker.pamCall (.acctMgmt worker.passwordIsRequired) o.acctMgmt).1 :=
    Consults.refl.pamCall _ hmgmt
  unfold manageAccount
  dsimp only
  split
  · exact hcalled.pamCall _ hchange
  · exact hcalled

theorem consults_authorizeUser (o : Outcomes) :
    Consults o.userItems worker (worker.authorizeUser o).1 := by
  unfold authorizeUser
  dsimp only
  split
  · split
    · exact (consults_manageAccount o).uninitializePam _
    · exact (consults_manageAccount o).setState .authorized
  · split
    · exact (consults_manageAccount o).uninitializePam _
    · exact (consults_manageAccount o).setState .authorized

theorem consults_accreditUser (o : Outcomes) :
    Consults o.userItems worker (worker.accreditUser o).1 := by
  have hitems : o.setcred.userItems ⊆ o.userItems := by
    intro item hitem
    simp [Outcomes.userItems, hitem]
  have hcalled : Consults o.userItems worker
      (worker.pamCall (.setcred worker.credFlags) o.setcred).1 :=
    Consults.refl.pamCall _ hitems
  unfold accreditUser
  split
  · exact Consults.refl.uninitializePam _
  · split
    · exact Consults.refl.uninitializePam _
    · split
      · exact Consults.refl.uninitializePam _
      · dsimp only
        split
        · split
          · exact hcalled.uninitializePam _
          · exact hcalled.setState .accredited
        · split
          · exact hcalled.uninitializePam _
          · exact hcalled.setState .accredited

theorem consults_openSession (o : Outcomes) :
    Consults o.userItems worker (worker.openSession o).1 := by
  have hitems : o.openSession.userItems ⊆ o.userItems := by
    intro item hitem
    simp [Outcomes.userItems, hitem]
  have hopened : Consults o.userItems worker (worker.openSessionOnVt o).1 := by
    have hcalled : Consults o.userItems worker
        (worker.pamCall (.openSession worker.isProgramSession) o.openSession).1 :=
      Consults.refl.pamCall _ hitems
    unfold openSessionOnVt
    dsimp only
    split
    · exact hcalled.uninitializePam _
    · exact (hcalled.setState .sessionOpened).of_eq rfl rfl rfl rfl rfl
  unfold openSession
  split
  · exact Consults.refl.of_eq rfl rfl rfl rfl rfl
  · split
    · split
      · exact hopened
      · exact .refl
      · exact Consults.refl.of_eq rfl rfl rfl rfl rfl
    · exact hopened

theorem consults_startSession (o : Outcomes) :
    Consults o.userItems worker (worker.startSession o).1 := by
  have hrefl : Consults o.userItems worker worker := .refl
  unfold startSession
  split
  · exact hrefl.of_eq rfl rfl rfl rfl rfl
  · split
    · exact hrefl.uninitializePam _
    · rename_i arguments _ _ pid _
      have hforked : Consults o.userItems worker
          { worker.emit (.forked pid arguments) with childPid := pid } :=
        (hrefl.emit rfl).of_eq rfl rfl rfl rfl rfl
      exact (hforked.setState .sessionStarted).of_eq rfl rfl rfl rfl rfl

theorem consults_finishRequest {result : GdmSessionWorker × StepResult}
    (h : Consults items worker result.1) (reply : GdmSessionWorker → Reply) :
    Consults items worker (finishRequest result reply) := by
  obtain ⟨w, outcome⟩ := result
  cases outcome with
  | success => exact h.answer _
  | failure error => exact h.answer _
  | aborted => exact h

theorem consults_doAuthenticate (o : Outcomes) :
    Consults o.userItems worker (worker.doAuthenticate o) := by
  have hauthenticated : Consults o.userItems worker (worker.authenticateUser o).1 :=
    consults_authenticateUser o
  unfold doAuthenticate
  generalize worker.authenticateUser o = result at hauthenticated
  obtain ⟨w, outcome⟩ := result
  cases outcome with
  | failure error => exact consults_finishRequest hauthenticated _
  | aborted => exact consults_finishRequest hauthenticated _
  | success =>
    have hlooked : Consults o.userItems worker
        (if w.isProgramSession then w else w.updateUsername o.userItem) := by
      split
      · exact hauthenticated
      · exact hauthenticated.asks (by simp [Outcomes.userItems])
    dsimp only
    generalize (if w.isProgramSession then w else w.updateUsername o.userItem) = w' at hlooked
    split
    · exact hlooked
    · exact hlooked.answer _

/-- All steps but the saving of the details ask PAM, or do not touch the settings. -/
theorem consults_stateChangeIdleCallback (hstate : worker.state ≠ .accredited) (o : Outcomes) :
    Consults o.userItems worker (worker.stateChangeIdleCallback o) := by
  have hdispatched : ∀ newState w', Consults o.userItems (worker.dispatched newState) w' →
      Consults o.userItems worker w' := by
    intro newState w' h
    have hfirst : Consults o.userItems worker (worker.dispatched newState) :=
      .aside .refl (sameSettings_dispatched newState) rfl
    induction h with
    | refl => exact hfirst
    | aside _ hsame husername ih => exact ih.aside hsame husername
    | asks _ hitem ih => exact ih.asks hitem
  unfold stateChangeIdleCallback
  cases hcurrent : worker.state with
  | none => exact hdispatched _ _ (consults_finishRequest (consults_initializePam o) _)
  | setupComplete => exact hdispatched _ _ (consults_doAuthenticate o)
  | authenticated => exact hdispatched _ _ (consults_finishRequest (consults_authorizeUser o) _)
  | authorized => exact hdispatched _ _ (consults_finishRequest (consults_accreditUser o) _)
  | accredited => exact absurd hcurrent hstate
  | accountDetailsSaved =>
    exact hdispatched _ _ (consults_finishRequest (consults_openSession o) _)
  | sessionOpened => exact hdispatched _ _ (consults_finishRequest (consults_startSession o) _)
  | sessionStarted => exact Consults.refl.of_eq rfl rfl rfl rfl rfl

theorem stateChangeIdleCallback_accredited (hstate : worker.state = .accredited) (o : Outcomes) :
    worker.stateChangeIdleCallback o =
      (worker.dispatched .accountDetailsSaved).doSaveAccountDetailsWhenReady := by
  unfold stateChangeIdleCallback
  rw [hstate]
  rfl

theorem consults_sessionWorkerChildWatch (pid : Int) (status : Nat) (o : Outcomes) :
    Consults o.userItems worker (worker.sessionWorkerChildWatch pid status o) := by
  have hended : Consults o.userItems worker (worker.uninitializePam .success o) :=
    Consults.refl.uninitializePam _
  have hcleared : Consults o.userItems worker
      { worker.uninitializePam .success o with childPid := -1, childWatch := none } :=
    hended.of_eq rfl rfl rfl rfl rfl
  exact (hcleared.emit (by rfl)).emit (by rfl)

theorem consults_finalize (o : Outcomes) : Consults o.userItems worker (worker.finalize o) := by
  have hunwatched : Consults o.userItems worker { worker with childWatch := none } :=
    Consults.refl.of_eq rfl rfl rfl rfl rfl
  have hkilled : Consults o.userItems worker
      (if 0 < worker.childPid then
        { worker with childWatch := none }.emit (.killed worker.childPid)
      else { worker with childWatch := none }) := by
    split
    · exact hunwatched.emit rfl
    · exact hunwatched
  exact (hkilled.uninitializePam .success).of_eq rfl rfl rfl rfl rfl

/-! ## The calls -/

theorem sameSettings_validateStateChange (invocation : Invocation)
    (newState : GdmSessionWorkerState) :
    SameSettings worker (worker.validateStateChange invocation newState).1 := by
  rcases validateStateChange_cases worker invocation newState with
    ⟨_, heq⟩ | ⟨_, ⟨error, heq⟩ | ⟨_, _, heq⟩⟩
  · rw [heq]
    exact sameSettings_emit rfl
  · rw [heq]
    exact sameSettings_emit rfl
  · rw [heq]
    exact .of_eq rfl rfl rfl rfl

theorem sameSettings_validateAndQueueStateChange (invocation : Invocation)
    (newState : GdmSessionWorkerState) :
    SameSettings worker (worker.validateAndQueueStateChange invocation newState) := by
  have hvalidated : SameSettings worker (worker.validateStateChange invocation newState).1 :=
    sameSettings_validateStateChange invocation newState
  unfold validateAndQueueStateChange
  generalize worker.validateStateChange invocation newState = result at hvalidated
  obtain ⟨w, accepted⟩ := result
  cases accepted with
  | true => exact hvalidated.trans (.of_eq rfl rfl rfl rfl)
  | false => exact hvalidated

theorem sameSettings_handleEstablishCredentials (invocation : Invocation) :
    SameSettings worker (worker.handleEstablishCredentials invocation) := by
  have hqueued : SameSettings worker
      (worker.validateAndQueueStateChange invocation .accredited) :=
    sameSettings_validateAndQueueStateChange invocation .accredited
  unfold handleEstablishCredentials
  dsimp only
  split
  · exact hqueued
  · exact hqueued.trans (.of_eq rfl rfl rfl rfl)

theorem sameSettings_handleStartProgram (invocation : Invocation)
    (argv : Except String (List String)) :
    SameSettings worker (worker.handleStartProgram invocation argv) := by
  have hvalidated : SameSettings worker
      (worker.validateStateChange invocation .sessionStarted).1 :=
    sameSettings_validateStateChange invocation .sessionStarted
  unfold handleStartProgram
  dsimp only
  split
  · exact hvalidated
  · split
    · exact hvalidated.emit rfl
    · split
      · have hcleared : SameSettings worker
            { (worker.validateStateChange invocation .sessionStarted).1 with arguments := none } :=
          hvalidated.trans (.of_eq rfl rfl rfl rfl)
        exact hcleared.emit rfl
      · exact hvalidated.trans (.of_eq rfl rfl rfl rfl)

/-- A call other than `Initialize` does not touch the settings. -/
theorem sameSettings_receive {request : Request} (h : request.method ≠ .Initialize) :
    SameSettings worker (worker.receive request) := by
  apply (sameSettings_arrive request.method).trans
  cases request with
  | Initialize details seat0HasVts => exact absurd rfl h
  | Authenticate => exact sameSettings_validateAndQueueStateChange _ _
  | Authorize => exact sameSettings_validateAndQueueStateChange _ _
  | EstablishCredentials => exact sameSettings_handleEstablishCredentials _
  | Open => exact sameSettings_validateAndQueueStateChange _ _
  | StartProgram argv => exact sameSettings_handleStartProgram _ argv

end GdmSessionWorker

end Gdm
