import Gdm.Library.History
import Gdm.Worker.Gating

/-!
# The replies of the worker

Every received invocation is answered at most once, and with a reply of its own
method, in the runs in which no StartProgram call is refused.  A refused
StartProgram call has been answered with the refusal, and the handler goes on to
answer it again or to queue it.
-/

namespace Gdm

/-- The effects that complete an invocation. -/
def Effect.isReply : Effect → Bool
  | completed _ _ => true
  | _ => false

theorem Effect.not_isReply_of_isOfStep {effect : Effect} (h : effect.isOfStep = true) :
    effect.isReply = false := by
  cases effect with
  | completed => cases h
  | _ => rfl

/-- The invocations that a history completes, `NULL` included, in the order of
the replies. -/
def completedInvocations (log : List Effect) : List (Option Invocation) :=
  log.filterMap fun
    | .completed invocation _ => some invocation
    | _ => none

theorem completedInvocations_append (log new : List Effect) :
    completedInvocations (log ++ new) = completedInvocations log ++ completedInvocations new :=
  List.filterMap_append

theorem completedInvocations_of_silent {new : List Effect}
    (hnew : ∀ effect ∈ new, effect.isReply = false) : completedInvocations new = [] := by
  refine List.filterMap_eq_nil_iff.mpr ?_
  intro effect heffect
  have hsilent := hnew effect heffect
  cases effect with
  | completed => cases hsilent
  | _ => rfl

namespace GdmSessionWorker

variable {worker worker' worker'' : GdmSessionWorker}

/-! ## Silence -/

/-- No reply has been sent, and the pending invocation is the same. -/
structure Silent (worker worker' : GdmSessionWorker) : Prop where
  pendingInvocation : worker'.pendingInvocation = worker.pendingInvocation
  nextSerial : worker'.nextSerial = worker.nextSerial
  log : ∃ new, worker'.log = worker.log ++ new ∧ ∀ effect ∈ new, effect.isReply = false

theorem Silent.refl (worker : GdmSessionWorker) : Silent worker worker :=
  ⟨rfl, rfl, [], by simp, by simp⟩

theorem Silent.trans (h : Silent worker worker') (h' : Silent worker' worker'') :
    Silent worker worker'' where
  pendingInvocation := h'.pendingInvocation.trans h.pendingInvocation
  nextSerial := h'.nextSerial.trans h.nextSerial
  log := History.exists_added_trans h.log h'.log

theorem silent_emit {effect : Effect} (h : effect.isReply = false) :
    Silent worker (worker.emit effect) :=
  ⟨rfl, rfl, [effect], rfl, by simpa using h⟩

/-- Changes of the other fields are silent. -/
theorem silent_of_log (hpending : worker'.pendingInvocation = worker.pendingInvocation)
    (hserial : worker'.nextSerial = worker.nextSerial) (hlog : worker'.log = worker.log) :
    Silent worker worker' :=
  ⟨hpending, hserial, [], by simp [hlog], by simp⟩

theorem PamFrame.silent (h : PamFrame worker worker') : Silent worker worker' := by
  obtain ⟨new, hlog, hnew⟩ := h.log
  exact ⟨h.pendingInvocation, h.nextSerial, new, hlog,
    fun effect heffect => Effect.not_isReply_of_isOfStep (hnew effect heffect)⟩

theorem silent_applyDetail (details : List Detail) :
    Silent worker (details.foldl applyDetail worker) := by
  induction details generalizing worker with
  | nil => exact .refl worker
  | cons detail details ih =>
    refine .trans ?_ ih
    cases detail <;> exact silent_of_log rfl rfl rfl

theorem silent_loadInitialSettings : Silent worker worker.loadInitialSettings.1 := by
  rcases loadInitialSettings_cases worker with heq | hsettles
  · rw [heq]
    exact .refl worker
  · have hnew : Silent worker worker.newUserSettings := silent_of_log rfl rfl rfl
    exact hnew.trans hsettles.pamFrame.silent

/-! ## What a handler does with its invocation -/

/-- A handler makes its invocation the pending one, or answers it with an
error. -/
inductive Handles (worker : GdmSessionWorker) (invocation : Invocation)
    (worker' : GdmSessionWorker) : Prop
  | takes : worker.pendingInvocation = none →
      Silent { worker with pendingInvocation := some invocation } worker' →
      Handles worker invocation worker'
  | rejects (w : GdmSessionWorker) (error : WorkerError) : Silent worker w →
      Silent (w.emit (.completed (some invocation) (.error error))) worker' →
      Handles worker invocation worker'

theorem handles_validateAndQueueStateChange (h : RequestState worker) (invocation : Invocation)
    (newState : GdmSessionWorkerState) :
    Handles worker invocation (worker.validateAndQueueStateChange invocation newState) := by
  unfold validateAndQueueStateChange
  by_cases haccepts : worker.Accepts newState
  · rw [haccepts.validate invocation]
    exact .takes haccepts.1 ⟨rfl, rfl, [.accepted invocation], rfl, by simp [Effect.isReply]⟩
  · obtain ⟨error, heq⟩ := h.validate_refused invocation haccepts
    rw [heq]
    exact .rejects worker error (.refl worker) (.refl _)

theorem Handles.silent {invocation : Invocation} (h : Handles worker invocation worker')
    (h' : Silent worker' worker'') : Handles worker invocation worker'' := by
  cases h with
  | takes hnone hsilent => exact .takes hnone (hsilent.trans h')
  | rejects w error hsilent hreply => exact .rejects w error hsilent (hreply.trans h')

theorem handles_handleEstablishCredentials (h : RequestState worker) (invocation : Invocation) :
    Handles worker invocation (worker.handleEstablishCredentials invocation) := by
  refine (handles_validateAndQueueStateChange h invocation .accredited).silent ?_
  unfold handleEstablishCredentials
  dsimp only
  split
  · exact .refl _
  · exact silent_of_log rfl rfl rfl

theorem handles_handleInitialize (h : RequestState worker) (invocation : Invocation)
    (details : List Detail) (seat0HasVts : Bool) :
    Handles worker invocation (worker.handleInitialize invocation details seat0HasVts) := by
  by_cases haccepts : worker.Accepts .setupComplete
  · rw [handleInitialize_of_accepts haccepts rfl]
    have hinit : Silent { worker with pendingInvocation := some invocation }
        ((worker.emit (.accepted invocation)).initialized invocation details seat0HasVts) := by
      have hdetails : Silent (worker.emit (.accepted invocation))
          (details.foldl applyDetail (worker.emit (.accepted invocation))) :=
        silent_applyDetail details
      obtain ⟨new, hlog, hnew⟩ := hdetails.log
      refine ⟨rfl, hdetails.nextSerial, .accepted invocation :: new, ?_, ?_⟩
      · change (details.foldl applyDetail (worker.emit (.accepted invocation))).log = _
        rw [hlog]
        simp [emit]
      · simpa [Effect.isReply] using hnew
    refine .takes haccepts.1 (hinit.trans (silent_loadInitialSettings.trans ?_))
    split
    · exact silent_of_log rfl rfl rfl
    · exact silent_of_log rfl rfl rfl
  · obtain ⟨error, heq⟩ := h.validate_refused invocation haccepts
    unfold handleInitialize
    rw [heq]
    exact .rejects worker error (.refl worker) (.refl _)

theorem handles_handleStartProgram (invocation : Invocation) {argv : Except String (List String)}
    (hrunning : worker.status = .running) (haccepts : worker.Accepts .sessionStarted) :
    Handles worker invocation (worker.handleStartProgram invocation argv) := by
  have haccepted : Silent worker (worker.emit (.accepted invocation)) := silent_emit rfl
  rcases handleStartProgram_cases argv
    (congrArg Prod.fst (haccepts.validate invocation)) hrunning with
    ⟨_, hreply⟩ | ⟨_, ⟨message, _, hreply⟩ | ⟨arguments, _, hreply⟩⟩
  · rw [hreply]
    exact .rejects _ _ haccepted (.refl _)
  · rw [hreply]
    exact .rejects { worker.emit (.accepted invocation) with arguments := none } _
      (haccepted.trans (silent_of_log rfl rfl rfl)) (.refl _)
  · rw [hreply]
    exact .takes haccepts.1 ⟨rfl, rfl, [.accepted invocation], rfl, by simp [Effect.isReply]⟩

/-- A running worker is not asked to start a program when it has to refuse. -/
def StartProgramAccepted (worker : GdmSessionWorker) : WorkerEvent → Prop
  | .call (.StartProgram _) => worker.status = .running → worker.Accepts .sessionStarted
  | _ => True

instance : ∀ event : WorkerEvent, Decidable (worker.StartProgramAccepted event)
  | .call (.StartProgram _) => inferInstanceAs (Decidable (_ → _))
  | .call (.Initialize _ _) | .call .Authenticate | .call .Authorize
  | .call .EstablishCredentials | .call .Open | .stateChangeIdle _ | .accountLoaded _ _
  | .accountUnloaded _ | .setSessionName _ | .setLanguageName _ | .childExited _ _
  | .finalize _ => inferInstanceAs (Decidable True)

theorem StartProgramAccepted.inOrder {event : WorkerEvent}
    (h : worker.StartProgramAccepted event) : worker.StartProgramInOrder event := by
  unfold StartProgramInOrder
  split
  · intro hrunning
    exact .inl (h hrunning)
  · trivial

theorem handles_receive (h : RequestState worker) (hrunning : worker.status = .running)
    {request : Request} (haccepted : worker.StartProgramAccepted (.call request)) :
    Handles (worker.arrive request.method) ⟨worker.nextSerial, request.method⟩
      (worker.receive request) := by
  have h' : RequestState (worker.arrive request.method) := h.same (sameRequest_arrive _)
  cases request with
  | Initialize details seat0HasVts => exact handles_handleInitialize h' _ _ _
  | Authenticate => exact handles_validateAndQueueStateChange h' _ _
  | Authorize => exact handles_validateAndQueueStateChange h' _ _
  | EstablishCredentials => exact handles_handleEstablishCredentials h' _
  | Open => exact handles_validateAndQueueStateChange h' _ _
  | StartProgram argv => exact handles_handleStartProgram _ hrunning (haccepted hrunning)

/-! ## What a step does with the replies -/

/-- The replies of one step: it sends none, it handles a call that has just
arrived, or it answers the pending invocation with a reply of its method. -/
inductive ReplyStep (worker worker' : GdmSessionWorker) : Prop
  | silent : Silent worker worker' → ReplyStep worker worker'
  | handles (method : Method) :
      Handles (worker.arrive method) ⟨worker.nextSerial, method⟩ worker' →
      ReplyStep worker worker'
  | answers (invocation : Invocation) (w : GdmSessionWorker) (reply : Reply) :
      worker.pendingInvocation = some invocation → reply.Answers invocation.method →
      Silent worker w → Silent (w.answer reply) worker' → ReplyStep worker worker'

/-- The step made for the pending request answers that very request, if any. -/
theorem StepOutcome.replyStep {newState : GdmSessionWorkerState} {before : GdmSessionWorker}
    (h : StepOutcome worker newState worker') (hbefore : Silent before worker)
    (hacts : worker.ActsFor newState) : ReplyStep before worker' := by
  obtain ⟨invocation, hinvocation, _, hserves⟩ := hacts
  have hpending := hbefore.pendingInvocation.symm.trans hinvocation
  cases h with
  | aborted assertion _ => exact .silent (hbefore.trans (silent_of_log rfl rfl rfl))
  | completed hmethod hcompletes =>
    obtain ⟨worker₁, reply, hsteps, hanswers, rfl⟩ := hcompletes
    rw [← hserves.answeredMethod hmethod] at hanswers
    exact .answers invocation worker₁ reply hpending hanswers
      (hbefore.trans hsteps.pamFrame.silent) (.refl _)
  | saved _ hstate hquiet =>
    have hqueued : Silent worker (worker.setState .accountDetailsSaved).queueStateChange :=
      (pamFrame_setState _).silent.trans (silent_of_log rfl rfl rfl)
    exact .silent (hbefore.trans (hqueued.trans hquiet.pamFrame.silent))
  | waits i _ _ _ hsettles =>
    have hconnect : Silent worker (worker.connectIsLoaded i) := silent_of_log rfl rfl rfl
    exact .silent (hbefore.trans (hconnect.trans hsettles.pamFrame.silent))
  | forked pid arguments hnew _ _ =>
    subst hnew
    have hforks : Silent worker (worker.forks pid arguments) := by
      have hchild : Silent worker { worker.emit (.forked pid arguments) with childPid := pid } :=
        ⟨rfl, rfl, [.forked pid arguments], rfl, by simp [Effect.isReply]⟩
      exact hchild.trans ((pamFrame_setState _).silent.trans (silent_of_log rfl rfl rfl))
    refine .answers invocation _ _ hpending ?_ (hbefore.trans hforks) (.refl _)
    rw [hserves.answeredMethod rfl]
    rfl

theorem silent_uninitializePam (hs : Sound worker) (status : PamCode) (o : Outcomes) :
    Silent worker (worker.uninitializePam status o) := by
  cases hhandle : worker.pamHandle with
  | none =>
    have hsame : worker.uninitializePam status o = worker := by simp [uninitializePam, hhandle]
    rw [hsame]
    exact .refl worker
  | some handle =>
    have hstate : worker.state ≠ .none := mt hs.handle.mp (by simp [hhandle])
    exact (pamSteps_uninitializePam hhandle hstate status o).1.pamFrame.silent

theorem silent_sessionWorkerChildWatch (hs : Sound worker) (pid : Int) (status : Nat)
    (o : Outcomes) : Silent worker (worker.sessionWorkerChildWatch pid status o) := by
  refine (silent_uninitializePam hs .success o).trans ?_
  exact ⟨rfl, rfl, [.sessionExited (worker.uninitializePam .success o).service status,
    .killed pid], by simp [sessionWorkerChildWatch, emit], by simp [Effect.isReply]⟩

theorem silent_finalize (hs : Sound worker) (o : Outcomes) :
    Silent worker (worker.finalize o) := by
  have hchild : Aside worker { worker with childWatch := none } :=
    ⟨rfl, rfl, rfl, rfl, ⟨rfl, rfl⟩, id, fun _ _ => id, [], by simp, by simp⟩
  have hends : ∀ w, Sound w →
      Silent w { w.uninitializePam .success o with status := .finalized } := by
    intro w hw
    exact (silent_uninitializePam hw .success o).trans (silent_of_log rfl rfl rfl)
  unfold finalize
  dsimp only
  split
  · have hkilled : Aside worker
        ({ worker with childWatch := none }.emit (.killed worker.childPid)) :=
      hchild.trans (aside_emit rfl)
    have hsilent : Silent worker
        ({ worker with childWatch := none }.emit (.killed worker.childPid)) :=
      ⟨rfl, rfl, [.killed worker.childPid], rfl, by simp [Effect.isReply]⟩
    exact hsilent.trans (hends _ (hkilled.sound hs))
  · have hsilent : Silent worker { worker with childWatch := none } :=
      silent_of_log rfl rfl rfl
    exact hsilent.trans (hends _ (hchild.sound hs))

theorem replyStep_stateChangeIdleCallback (hg : Gated worker)
    (hrunning : worker.status = .running) (hidle : worker.stateChangeIdle = true)
    (o : Outcomes) : ReplyStep worker (worker.stateChangeIdleCallback o) := by
  obtain ⟨newState, hacts, hnext, _⟩ := (hg.requests hrunning).queued_of_idle hidle
  rcases stateChangeIdleCallback_cases hg.sound hrunning hidle o with
    ⟨hstarted, _⟩ | ⟨newState', hnext', houtcome⟩
  · rw [hstarted] at hnext
    cases newState <;> cases hnext
  · have hsame : newState' = newState :=
      GdmSessionWorkerState.toNat_injective (hnext'.symm.trans hnext)
    subst hsame
    have hdispatched : Silent worker (worker.dispatched newState') :=
      ⟨rfl, rfl, [.attempting newState'], rfl, by simp [Effect.isReply]⟩
    exact houtcome.replyStep hdispatched (hacts.grow rfl (List.prefix_append _ _))

/-- Every step of the main loop, seen from the replies. -/
theorem step_replyStep (hg : Gated worker) {event : WorkerEvent}
    (haccepted : worker.StartProgramAccepted event) : ReplyStep worker (worker.step event) := by
  unfold step
  by_cases hrunning : worker.status = .running
  swap
  · rw [if_pos hrunning]
    exact .silent (.refl worker)
  rw [if_neg (not_not.mpr hrunning)]
  cases event with
  | call request =>
    exact .handles request.method (handles_receive (hg.requests hrunning) hrunning haccepted)
  | stateChangeIdle o =>
    dsimp only
    split
    · rename_i hidle
      exact replyStep_stateChangeIdleCallback hg hrunning hidle o
    · exact .silent (.refl worker)
  | accountLoaded user account =>
    exact .silent (settles_accountLoaded user account).pamFrame.silent
  | accountUnloaded user => exact .silent (silent_of_log rfl rfl rfl)
  | setSessionName name =>
    dsimp only [handleSetSessionName]
    split
    · exact .silent (.refl worker)
    · exact .silent (quiet_settingsSetSessionName _ _).pamFrame.silent
  | setLanguageName name =>
    dsimp only [handleSetLanguageName]
    split
    · exact .silent (.refl worker)
    · exact .silent (quiet_settingsSetLanguageName _ _).pamFrame.silent
  | childExited status o =>
    dsimp only
    split
    · exact .silent (.refl worker)
    · exact .silent (silent_sessionWorkerChildWatch hg.sound _ status o)
  | finalize o => exact .silent (silent_finalize hg.sound o)

/-! ## The ledger of the invocations -/

/-- The replies sent so far are in order, and the pending invocation has not been
answered. -/
structure Ledger (worker : GdmSessionWorker) : Prop where
  fresh : ∀ invocation, some invocation ∈ completedInvocations worker.log →
    invocation.serial < worker.nextSerial
  pending : ∀ invocation, worker.pendingInvocation = some invocation →
    invocation.serial < worker.nextSerial ∧
      some invocation ∉ completedInvocations worker.log
  once : (completedInvocations worker.log).Nodup
  answers : ∀ invocation reply, .completed invocation reply ∈ worker.log →
    ∃ received, invocation = some received ∧ reply.Answers received.method

theorem ledger_new (isReauthSession : Bool) (accounts : String → Option Account) :
    Ledger (new isReauthSession accounts) :=
  ⟨by simp [new, completedInvocations], by simp [new], by simp [new, completedInvocations],
    by simp [new]⟩

theorem Silent.completedInvocations (h : Silent worker worker') :
    completedInvocations worker'.log = completedInvocations worker.log := by
  obtain ⟨new, hlog, hnew⟩ := h.log
  rw [hlog, completedInvocations_append, completedInvocations_of_silent hnew, List.append_nil]

theorem Ledger.silent (hl : Ledger worker) (h : Silent worker worker') : Ledger worker' := by
  obtain ⟨hfresh, hpending, honce, hanswers⟩ := hl
  refine ⟨?_, ?_, ?_, ?_⟩
  · rw [h.completedInvocations, h.nextSerial]
    exact hfresh
  · rw [h.completedInvocations, h.nextSerial, h.pendingInvocation]
    exact hpending
  · rw [h.completedInvocations]
    exact honce
  · intro invocation reply hreply
    obtain ⟨new, hlog, hnew⟩ := h.log
    rw [hlog] at hreply
    rcases List.mem_append.mp hreply with hold | hlate
    · exact hanswers invocation reply hold
    · cases hnew _ hlate

/-- Completing an invocation that has not been completed, and that is not
pending any more. -/
theorem Ledger.complete (hl : Ledger worker) {invocation : Invocation} {reply : Reply}
    (hserial : invocation.serial < worker.nextSerial)
    (hnot : some invocation ∉ completedInvocations worker.log)
    (hanswers : reply.Answers invocation.method)
    (hpending : worker.pendingInvocation ≠ some invocation) :
    Ledger (worker.emit (.completed (some invocation) reply)) := by
  have hcompleted : completedInvocations (worker.emit (.completed (some invocation) reply)).log =
      completedInvocations worker.log ++ [some invocation] :=
    completedInvocations_append _ _
  refine ⟨?_, ?_, ?_, ?_⟩
  · intro other hother
    rw [hcompleted, List.mem_append, List.mem_singleton, Option.some.injEq] at hother
    rcases hother with hold | rfl
    · exact hl.fresh other hold
    · exact hserial
  · intro other hother
    obtain ⟨hless, hunanswered⟩ := hl.pending other hother
    refine ⟨hless, ?_⟩
    rw [hcompleted, List.mem_append, List.mem_singleton, Option.some.injEq]
    rintro (hold | rfl)
    · exact hunanswered hold
    · exact hpending hother
  · rw [hcompleted, List.nodup_append]
    refine ⟨hl.once, by simp, ?_⟩
    intro other hother late hlate
    rw [List.mem_singleton.mp hlate]
    rintro rfl
    exact hnot hother
  · intro other otherReply hother
    rcases List.mem_append.mp hother with hold | hlate
    · exact hl.answers other otherReply hold
    · cases List.mem_singleton.mp hlate
      exact ⟨invocation, rfl, hanswers⟩

theorem Ledger.answer (hl : Ledger worker) {invocation : Invocation} {reply : Reply}
    (hpending : worker.pendingInvocation = some invocation)
    (hanswers : reply.Answers invocation.method) : Ledger (worker.answer reply) := by
  obtain ⟨hserial, hnot⟩ := hl.pending invocation hpending
  have hcleared : Ledger { worker with pendingInvocation := none } :=
    ⟨hl.fresh, by simp, hl.once, hl.answers⟩
  have hcompleted := hcleared.complete hserial hnot hanswers (by simp)
  refine hcompleted.silent (silent_of_log rfl rfl ?_)
  simp [GdmSessionWorker.answer, emit, hpending]

/-- A call that has just arrived has a number of its own. -/
theorem Ledger.arrive (hl : Ledger worker) (method : Method) :
    Ledger (worker.arrive method) ∧
      some ⟨worker.nextSerial, method⟩ ∉ completedInvocations (worker.arrive method).log ∧
      (worker.arrive method).pendingInvocation ≠ some ⟨worker.nextSerial, method⟩ := by
  have hreceived : Silent worker (worker.emit (.received ⟨worker.nextSerial, method⟩)) :=
    silent_emit rfl
  have hemitted := hl.silent hreceived
  refine ⟨⟨?_, ?_, hemitted.once, hemitted.answers⟩, ?_, ?_⟩
  · intro invocation hcompleted
    exact Nat.lt_succ_of_lt (hemitted.fresh invocation hcompleted)
  · intro invocation hpending
    obtain ⟨hless, hnot⟩ := hemitted.pending invocation hpending
    exact ⟨Nat.lt_succ_of_lt hless, hnot⟩
  · intro hcompleted
    exact Nat.lt_irrefl _ (hemitted.fresh _ hcompleted)
  · intro hpending
    exact Nat.lt_irrefl _ (hemitted.pending _ hpending).1

theorem Ledger.handles (hl : Ledger worker) {invocation : Invocation}
    (h : Handles worker invocation worker') (hserial : invocation.serial < worker.nextSerial)
    (hnot : some invocation ∉ completedInvocations worker.log)
    (hpending : worker.pendingInvocation ≠ some invocation) : Ledger worker' := by
  cases h with
  | takes _ hsilent =>
    have htaken : Ledger { worker with pendingInvocation := some invocation } := by
      refine ⟨hl.fresh, ?_, hl.once, hl.answers⟩
      intro other hother
      cases hother
      exact ⟨hserial, hnot⟩
    exact htaken.silent hsilent
  | rejects w error hbefore hafter =>
    have hanswers : (Reply.error error).Answers invocation.method := trivial
    refine ((hl.silent hbefore).complete ?_ ?_ hanswers ?_).silent hafter
    · rw [hbefore.nextSerial]
      exact hserial
    · rw [hbefore.completedInvocations]
      exact hnot
    · rw [hbefore.pendingInvocation]
      exact hpending

theorem Ledger.replyStep (hl : Ledger worker) (h : ReplyStep worker worker') :
    Ledger worker' := by
  cases h with
  | silent hsilent => exact hl.silent hsilent
  | handles method hhandles =>
    obtain ⟨harrived, hnot, hpending⟩ := hl.arrive method
    exact harrived.handles hhandles (Nat.lt_succ_self _) hnot hpending
  | answers invocation w reply hpending hanswers hbefore hafter =>
    have hpending' := hbefore.pendingInvocation.trans hpending
    exact ((hl.silent hbefore).answer hpending' hanswers).silent hafter

/-- The pending invocation stays pending until it is answered. -/
theorem ReplyStep.keeps_pending (h : ReplyStep worker worker') {invocation : Invocation}
    (hinvocation : worker.pendingInvocation = some invocation) :
    worker'.pendingInvocation = some invocation ∨
      some invocation ∈ completedInvocations worker'.log := by
  cases h with
  | silent hsilent => exact .inl (hsilent.pendingInvocation.trans hinvocation)
  | handles method hhandles =>
    cases hhandles with
    | takes hnone _ =>
      rw [show (worker.arrive method).pendingInvocation = some invocation from hinvocation] at hnone
      cases hnone
    | rejects w error hbefore hafter =>
      left
      rw [hafter.pendingInvocation]
      exact hbefore.pendingInvocation.trans hinvocation
  | answers other w reply hpending _ hbefore hafter =>
    right
    have hw : w.pendingInvocation = some invocation :=
      hbefore.pendingInvocation.trans hinvocation
    have hcompleted : completedInvocations (w.answer reply).log =
        completedInvocations w.log ++ [some invocation] := by
      rw [← hw]
      exact completedInvocations_append _ _
    rw [hafter.completedInvocations, hcompleted]
    exact List.mem_append_right _ (List.mem_singleton_self _)

/-! ## Every run in which no StartProgram call is refused -/

/-- After the next step of the worker no invocation has been completed twice, and
each with a reply of its own method or an error; and an invocation that leaves the
slot has been completed. -/
structure RepliesOnce (worker : GdmSessionWorker) (event : WorkerEvent) : Prop where
  once : (completedInvocations (worker.step event).log).Nodup
  answers : ∀ invocation reply, .completed invocation reply ∈ (worker.step event).log →
    ∃ received, invocation = some received ∧ reply.Answers received.method
  keeps : ∀ invocation, worker.pendingInvocation = some invocation →
    (worker.step event).pendingInvocation = some invocation ∨
      some invocation ∈ completedInvocations (worker.step event).log

theorem ledger_run {isReauthSession : Bool} {accounts : String → Option Account}
    {events : List WorkerEvent}
    (haccepted : machine.Meets StartProgramAccepted (new isReauthSession accounts) events) :
    Gated (machine.run (new isReauthSession accounts) events) ∧
      Ledger (machine.run (new isReauthSession accounts) events) := by
  refine haccepted.invariant (fun w => Gated w ∧ Ledger w) ?_
    ⟨gated_new isReauthSession accounts, ledger_new isReauthSession accounts⟩
  rintro w event ⟨hg, hl⟩ h
  exact ⟨gated_step hg h.inOrder, hl.replyStep (step_replyStep hg h)⟩

/-- In a run in which no StartProgram call is refused, every invocation is
completed at most once and none is forgotten. -/
theorem run_replies_once (isReauthSession : Bool) (accounts : String → Option Account)
    (events after : List WorkerEvent) (event : WorkerEvent)
    (haccepted : machine.Meets StartProgramAccepted (new isReauthSession accounts)
      (events ++ event :: after)) :
    RepliesOnce (machine.run (new isReauthSession accounts) events) event := by
  obtain ⟨hbefore, hhere⟩ := haccepted.at_step
  obtain ⟨hg, hl⟩ := ledger_run hbefore
  have hstep := step_replyStep hg hhere
  have hl' := hl.replyStep hstep
  exact ⟨hl'.once, hl'.answers, fun _ hpending => hstep.keeps_pending hpending⟩

/-- No StartProgram call is refused in a program login. -/
theorem programLogin_replies_once :
    RepliesOnce (machine.run (new false fun _ => none) programLogin) (.call .Open) :=
  run_replies_once false (fun _ => none) programLogin [] (.call .Open) (by decide)

/-- A worker for reauthentication that has just started refuses StartProgram
twice. -/
theorem startProgram_replies_twice :
    ¬ RepliesOnce (machine.run (new true fun _ => none) [])
      (.call (.StartProgram (.ok ["true"]))) := by
  intro h
  have hnodup := h.once
  revert hnodup
  decide

end GdmSessionWorker

end Gdm
