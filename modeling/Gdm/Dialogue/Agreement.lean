import Gdm.Dialogue.Starts
import Gdm.Session.Announcements

/-!
# A session and its workers agree

In every run whose programs are started in turn, and in any order of the callbacks of the
session and of its workers, both ends of each connection agree, the workers serve their
calls in order, and what the session announces has happened in a worker.
-/

namespace Gdm

/-- A login with a password. -/
def passwordDialogue : List DialogueEvent :=
  [.session (.clientConnected 700) {},
    .session (.client (.beginVerificationForUser "gdm-password" "alice")) {},
    .session (.hello 1000) {},
    .receive 0 false (.ok []), .worker 0 (.stateChangeIdle {}),
    .worker 0 (.accountLoaded "alice" {}), .worker 0 (.stateChangeIdle {}),
    .session (.deliver 0) {},
    .receive 0 false (.ok []), .worker 0 (.stateChangeIdle {}), .session (.deliver 0) {},
    .receive 0 false (.ok []), .worker 0 (.stateChangeIdle {}), .session (.deliver 0) {},
    .receive 0 false (.ok []), .worker 0 (.stateChangeIdle {}), .session (.deliver 0) {},
    .receive 0 false (.ok []), .worker 0 (.stateChangeIdle {}),
    .worker 0 (.stateChangeIdle {}), .session (.deliver 0) {},
    .session (.owner (.startSession "gdm-password")) {},
    .receive 0 false (.ok ["gnome"]), .worker 0 (.stateChangeIdle {}),
    .session (.deliver 0) {}]

namespace Dialogue

variable {e : Dialogue}

/-- A session for a display on the local seat, before it does anything. -/
def ofDisplay : Dialogue :=
  new .userSession none none none true fun _ _ => none

theorem start_ofDisplay : machine.Start ofDisplay :=
  ⟨_, _, _, _, _, _, rfl⟩

/-- The program of the login is started in turn. -/
theorem passwordDialogue_inTurn :
    History.Justified StartedInTurn (machine.run ofDisplay passwordDialogue).session.log := by
  decide +kernel

/-! ## The two ends -/

/-- Both ends of every connection agree about the state machine of the worker.  A worker
takes the calls that the session has made in their order, and what has been dispatched is the
beginning of what the worker has said.  As long as the session runs and the connection is
open, what has come is all that has been said, the calls without a reply are the one that the
worker is at and those on their way, and the session knows in which state the worker is.
StartReauthentication and its replies, and the signals Reauthenticated and CancelPendingQuery,
go over the same connection but beside the state machine: they are in none of these lists. -/
structure Agrees (e : Dialogue) : Prop where
  calls : ∀ id, (e.processes id).heard <+: plainCalls id e.session.log
  dispatched : ∀ id, heardWords (deliveredTo id e.session.log) <+:
    words (e.processes id).worker.log
  said : e.session.status = .running → ∀ c ∈ e.session.conversations, c.connected = true →
    heardWords (e.session.said c) = words (e.processes c.id).worker.log
  outstanding : e.session.status = .running → ∀ c ∈ e.session.conversations,
    c.connected = true → (c.outstanding.filter fun call => call.method?.isSome) =
      (e.processes c.id).taken.map Prod.snd ++ e.unread c.id
  taken : ∀ id, (e.processes id).worker.status = .running →
    ((e.processes id).taken.map fun entry => (entry.1, entry.2.method?)) =
      (e.processes id).worker.pendingInvocation.toList.map fun invocation =>
        (invocation.serial, some invocation.method)
  state : e.session.status = .running → ∀ c ∈ e.session.conversations, c.connected = true →
    (e.processes c.id).worker.status = .running →
      c.worker.state = (e.processes c.id).worker.state.visible

theorem run_agrees {events : List DialogueEvent} (hstart : machine.Start e)
    (hturn : History.Justified StartedInTurn (machine.run e events).session.log) :
    Agrees (machine.run e events) := by
  have hinv := (inOrder_run hstart hturn).2.inv
  refine ⟨fun id => (hinv.inTurn id).heard, fun id => (hinv.inTurn id).words, ?_, ?_, ?_, ?_⟩
  · exact fun hrunning c hc hconnected => ((hinv.links c hc).attuned hrunning hconnected).words
  · exact fun hrunning c hc hconnected => ((hinv.links c hc).attuned hrunning hconnected).calls
  · intro id hrunning
    rcases (hinv.inTurn id).keeps hrunning with
      ⟨htaken, hpending⟩ | ⟨serial, call, method, htaken, hmethod, hpending⟩
    · rw [htaken, hpending]
      rfl
    · rw [htaken, hpending]
      simp [hmethod]
  · exact fun hrunning c hc hconnected => ((hinv.links c hc).attuned hrunning hconnected).state

theorem passwordDialogue_agrees : Agrees (machine.run ofDisplay passwordDialogue) :=
  run_agrees start_ofDisplay passwordDialogue_inTurn

/-! ## The workers -/

/-- A worker serves its calls: no assertion about its state has failed, no invocation has
been completed twice, and each with a reply of its method. -/
structure Serves (worker : GdmSessionWorker) : Prop where
  assertions : ∀ assertion, worker.status = .aborted assertion →
    assertion.ofStateChange = false
  once : (completedInvocations worker.log).Nodup
  answers : ∀ invocation reply, .completed invocation reply ∈ worker.log →
    ∃ received, invocation = some received ∧ reply.Answers received.method

theorem run_serves {events : List DialogueEvent} (hstart : machine.Start e)
    (hturn : History.Justified StartedInTurn (machine.run e events).session.log) (id : Nat) :
    Serves ((machine.run e events).processes id).worker := by
  have haccountable := (inOrder_run hstart hturn).2.accountable id
  exact ⟨haccountable.gated.assertions, haccountable.ledger.once, haccountable.ledger.answers⟩

theorem passwordDialogue_serves :
    Serves ((machine.run ofDisplay passwordDialogue).processes 0).worker :=
  run_serves start_ofDisplay passwordDialogue_inTurn 0

/-! ## What stands behind an announcement -/

/-- Somewhere in its history the worker has replied to a method, with what stands behind
the reply. -/
def RepliedWith (worker : GdmSessionWorker) (method : Method) (reply : Reply) : Prop :=
  ∃ before invocation after,
    worker.log = before ++ .completed (some invocation) reply :: after ∧
      invocation.method = method ∧ ReplyBacked worker.isReauthSession before method reply

theorem InOrder.repliedWith (h : InOrder e) {id : Nat} {message : WorkerMessage}
    (method : Method) (reply : Reply) (hword : message.word = some (.reply method reply))
    (hdelivered : .delivered id message ∈ e.session.log) :
    RepliedWith (e.processes id).worker method reply := by
  obtain ⟨invocation, hreplied, rfl⟩ := h.inv.replied method reply hword hdelivered
  obtain ⟨before, after, hlog⟩ := List.append_of_mem hreplied
  exact ⟨before, invocation, after, hlog, rfl, (h.accountable id).backed before _ after hlog⟩

theorem announces_run (hstart : machine.Start e) (events : List DialogueEvent) :
    GdmSession.Announces (machine.run e events).session := by
  obtain ⟨sessionEvents, hrun⟩ := sessionRuns_run (e := e) events
  obtain ⟨owner, hostname, device, seatId, isLocal, accounts, rfl⟩ := hstart
  rw [hrun]
  exact GdmSession.run_announces ⟨owner, hostname, device, seatId, isLocal, rfl⟩ sessionEvents

theorem passwordDialogue_starts : .signal (.sessionStarted "gdm-password" 1000 0) ∈
    (machine.run ofDisplay passwordDialogue).session.log := by
  decide +kernel

theorem passwordDialogue_completes : .signal (.verificationComplete "gdm-password") ∈
    (machine.run ofDisplay passwordDialogue).session.log := by
  decide +kernel

theorem passwordDialogue_opens : .signal (.sessionOpened "gdm-password" "") ∈
    (machine.run ofDisplay passwordDialogue).session.log := by
  decide +kernel

/-- A session whose programs are started in turn and that tells that its program has been
started tells the pid that the worker of the conversation has forked, which is not for
reauthentication, and with the whole PAM sequence behind it on one handle since NONE. -/
theorem sessionStarted_forked {events : List DialogueEvent} (hstart : machine.Start e)
    (hturn : History.Justified StartedInTurn (machine.run e events).session.log)
    {serviceName : String} {pid : Int} {id : Nat}
    (hsignal : .signal (.sessionStarted serviceName pid id) ∈
      (machine.run e events).session.log) :
    (machine.run e events).session.owner.verificationMode ≠ .reauthenticate ∧
      ∃ before arguments after, ((machine.run e events).processes id).worker.log =
        before ++ .forked pid arguments :: after ∧
      ∃ handle calls, FullPamSequence handle calls ∧ calls.Sublist (sinceNone before) := by
  have hinOrder := (inOrder_run hstart hturn).2
  have hdelivered : .delivered id (.success (.StartProgram pid)) ∈
      (machine.run e events).session.log :=
    (announces_run hstart events).announced _ hsignal
  obtain ⟨replied, invocation, rest, hlog, _, hbacked⟩ :=
    hinOrder.repliedWith .StartProgram (.StartProgram pid) rfl hdelivered
  obtain ⟨arguments, hforked⟩ := hbacked.forked pid rfl
  obtain ⟨before, between, rfl⟩ := List.append_of_mem hforked
  rw [List.append_assoc, List.cons_append] at hlog
  obtain ⟨hreauth, hsequence⟩ :=
    (hinOrder.accountable id).sequenced.forks before _ _ hlog pid arguments rfl
  refine ⟨?_, before, arguments, _, hlog, hsequence⟩
  rw [hinOrder.reauth id] at hreauth
  exact of_decide_eq_false hreauth

theorem passwordDialogue_forked :
    (machine.run ofDisplay passwordDialogue).session.owner.verificationMode ≠ .reauthenticate ∧
      ∃ before arguments after,
        ((machine.run ofDisplay passwordDialogue).processes 0).worker.log =
          before ++ .forked 1000 arguments :: after ∧
        ∃ handle calls, FullPamSequence handle calls ∧ calls.Sublist (sinceNone before) :=
  @sessionStarted_forked ofDisplay passwordDialogue start_ofDisplay passwordDialogue_inTurn
    "gdm-password" 1000 0 passwordDialogue_starts

theorem accredited_of_sessionOpened {handle : Nat} {calls : List Effect}
    (h : GdmSessionWorker.Passed handle .sessionOpened calls) :
    ∃ first, GdmSessionWorker.Passed handle .accredited first ∧ first.Sublist calls := by
  cases h with
  | @sessionOpened first silent hsaved =>
    cases hsaved with
    | accountDetailsSaved haccredited =>
      exact ⟨first, haccredited, List.sublist_append_left _ _⟩

/-- A session whose programs are started in turn and that tells that the verification of a
service is complete has a worker for it that has authenticated the user since NONE and, unless
that is to reauthenticate, has also checked the account and established the credentials. -/
theorem verificationComplete_authenticated {events : List DialogueEvent}
    (hstart : machine.Start e)
    (hturn : History.Justified StartedInTurn (machine.run e events).session.log)
    {serviceName : String} (hsignal : .signal (.verificationComplete serviceName) ∈
      (machine.run e events).session.log) :
    ∃ id pid before after, .started id serviceName pid ∈ (machine.run e events).session.log ∧
      ((machine.run e events).processes id).worker.log = before ++ after ∧
      (∃ flag handle, .pam (.authenticate flag) (some handle) .success ∈ sinceNone before) ∧
      ((machine.run e events).session.owner.verificationMode ≠ .reauthenticate →
        ∃ handle calls, GdmSessionWorker.Passed handle .accredited calls ∧
          calls.Sublist (sinceNone before)) := by
  have hinOrder := (inOrder_run hstart hturn).2
  obtain ⟨id, pid, answer, hstarted, hdelivered, hcompletes⟩ :=
    (announces_run hstart events).announced _ hsignal
  refine ⟨id, pid, ?_⟩
  have hreauth : (machine.run e events).session.owner.verificationMode ≠ .reauthenticate →
      ((machine.run e events).processes id).worker.isReauthSession = false := by
    intro hmode
    rw [hinOrder.reauth id]
    exact decide_eq_false hmode
  cases answer with
  | EstablishCredentials =>
    obtain ⟨before, invocation, after, hlog, _, hbacked⟩ := hinOrder.repliedWith
      .EstablishCredentials .EstablishCredentials rfl hdelivered
    refine ⟨before, _, hstarted, hlog, hbacked.authentic rfl (by decide), fun hmode => ?_⟩
    exact hbacked.passed (hreauth hmode) rfl
  | Open sessionId =>
    obtain ⟨before, invocation, after, hlog, _, hbacked⟩ := hinOrder.repliedWith
      .Open (.Open sessionId) rfl hdelivered
    refine ⟨before, _, hstarted, hlog, hbacked.authentic rfl (by decide), fun hmode => ?_⟩
    obtain ⟨handle, calls, hpassed, hsublist⟩ := hbacked.passed (hreauth hmode) rfl
    obtain ⟨first, hfirst, hprefix⟩ := accredited_of_sessionOpened hpassed
    exact ⟨handle, first, hfirst, hprefix.trans hsublist⟩
  | _ => cases hcompletes

theorem passwordDialogue_authenticated : ∃ id pid before after,
    .started id "gdm-password" pid ∈ (machine.run ofDisplay passwordDialogue).session.log ∧
      ((machine.run ofDisplay passwordDialogue).processes id).worker.log = before ++ after ∧
      (∃ flag handle, .pam (.authenticate flag) (some handle) .success ∈ sinceNone before) ∧
      ((machine.run ofDisplay passwordDialogue).session.owner.verificationMode ≠
          .reauthenticate →
        ∃ handle calls, GdmSessionWorker.Passed handle .accredited calls ∧
          calls.Sublist (sinceNone before)) :=
  @verificationComplete_authenticated ofDisplay passwordDialogue start_ofDisplay
    passwordDialogue_inTurn "gdm-password" passwordDialogue_completes

/-- A session whose programs are started in turn and that tells that it is open tells the
identifier that the worker of a conversation has replied with, and has the whole PAM sequence
behind it on one handle since NONE. -/
theorem sessionOpened_sequence {events : List DialogueEvent} (hstart : machine.Start e)
    (hturn : History.Justified StartedInTurn (machine.run e events).session.log)
    (hmode : (machine.run e events).session.owner.verificationMode ≠ .reauthenticate)
    {serviceName sessionId : String} (hsignal : .signal (.sessionOpened serviceName sessionId) ∈
      (machine.run e events).session.log) :
    ∃ id pid before invocation after,
      .started id serviceName pid ∈ (machine.run e events).session.log ∧
      ((machine.run e events).processes id).worker.log =
        before ++ .completed (some invocation) (.Open sessionId) :: after ∧
      ∃ handle calls, FullPamSequence handle calls ∧ calls.Sublist (sinceNone before) := by
  have hinOrder := (inOrder_run hstart hturn).2
  obtain ⟨id, pid, hstarted, hdelivered⟩ :=
    (announces_run hstart events).announced _ hsignal
  obtain ⟨before, invocation, after, hlog, _, hbacked⟩ := hinOrder.repliedWith
    .Open (.Open sessionId) rfl hdelivered
  have hreauth : ((machine.run e events).processes id).worker.isReauthSession = false := by
    rw [hinOrder.reauth id]
    exact decide_eq_false hmode
  obtain ⟨handle, calls, hpassed, hsublist⟩ := hbacked.passed hreauth rfl
  exact ⟨id, pid, before, invocation, after, hstarted, hlog, handle, calls,
    hpassed.fullPamSequence, hsublist⟩

theorem passwordDialogue_opened : ∃ id pid before invocation after,
    .started id "gdm-password" pid ∈ (machine.run ofDisplay passwordDialogue).session.log ∧
      ((machine.run ofDisplay passwordDialogue).processes id).worker.log =
        before ++ .completed (some invocation) (.Open "") :: after ∧
      ∃ handle calls, FullPamSequence handle calls ∧ calls.Sublist (sinceNone before) :=
  @sessionOpened_sequence ofDisplay passwordDialogue start_ofDisplay passwordDialogue_inTurn
    (by decide +kernel) "gdm-password" "" passwordDialogue_opens

end Dialogue

end Gdm
