import Gdm.Worker.Sequence
import Gdm.Worker.Speech

/-!
# What stands behind a reply

A worker that reports the success of a method has made the calls of PAM that the method
stands for, on one handle and since it was last in NONE, and the process that it reports
is one that it has forked.
-/

namespace Gdm

/-- What has to be in the history before a reply. -/
structure ReplyBacked (isReauthSession : Bool) (before : List Effect) (method : Method)
    (reply : Reply) : Prop where
  passed : isReauthSession = false → reply.isError = false →
    ∃ handle calls, GdmSessionWorker.Passed handle method.after calls ∧
      calls.Sublist (sinceNone before)
  authentic : reply.isError = false → .authenticated ≤ method.after →
    ∃ flag handle, .pam (.authenticate flag) (some handle) .success ∈ sinceNone before
  forked : ∀ pid, reply = .StartProgram pid → ∃ arguments, .forked pid arguments ∈ before

/-- Every reply in a history is backed. -/
def Backed (isReauthSession : Bool) (before : List Effect) : Effect → Prop
  | .completed (some invocation) reply =>
    ReplyBacked isReauthSession before invocation.method reply
  | _ => True

theorem backed_of_not_isReport {isReauthSession : Bool} {before : List Effect} {effect : Effect}
    (h : effect.isReport = false) : Backed isReauthSession before effect := by
  cases effect with
  | completed invocation reply =>
    cases invocation with
    | none => trivial
    | some invocation => cases h
  | _ => trivial

theorem backed_error {isReauthSession : Bool} {before : List Effect}
    {invocation : Option Invocation} {error : WorkerError} :
    Backed isReauthSession before (.completed invocation (.error error)) := by
  cases invocation with
  | none => trivial
  | some invocation => exact ⟨(fun _ h => by cases h), (fun h => by cases h), fun _ h => by cases h⟩

namespace GdmSessionWorker

variable {worker worker' worker'' : GdmSessionWorker}

/-! ## Whether the user has been authenticated -/

/-- PAM has authenticated the user on the current handle since the worker was last in NONE,
if its state says so.  This holds for reauthentication too. -/
def Authentic (worker : GdmSessionWorker) : Prop :=
  ∀ handle, worker.pamHandle = some handle → .authenticated ≤ worker.state →
    ∃ flag, .pam (.authenticate flag) (some handle) .success ∈ sinceNone worker.log

/-- The history has grown without a return to NONE. -/
def Stays (worker worker' : GdmSessionWorker) : Prop :=
  ∃ new, worker'.log = worker.log ++ new ∧ ∀ effect ∈ new, effect.entersNone = false

theorem Stays.refl (worker : GdmSessionWorker) : Stays worker worker :=
  ⟨[], by simp, by simp⟩

theorem Stays.trans (h : Stays worker worker') (h' : Stays worker' worker'') :
    Stays worker worker'' :=
  History.exists_added_trans h h'

theorem stays_emit {effect : Effect} (h : effect.entersNone = false) :
    Stays worker (worker.emit effect) :=
  ⟨[effect], rfl, by simpa using h⟩

theorem stays_setState {state : GdmSessionWorkerState} (h : state ≠ .none) :
    Stays worker (worker.setState state) := by
  by_cases hsame : worker.state = state
  · rw [setState_self hsame]
    exact .refl worker
  · rw [setState_of_ne hsame]
    refine ⟨[.notifyState state], rfl, ?_⟩
    cases state with
    | none => exact absurd rfl h
    | _ => simp [Effect.entersNone]

theorem Quiet.stays (h : Quiet worker worker') : Stays worker worker' := by
  obtain ⟨notices, hlog, hnotices⟩ := h.log
  exact ⟨notices, hlog, fun effect heffect => entersNone_of_isNotice (hnotices effect heffect)⟩

theorem Stays.mem (h : Stays worker worker') {effect : Effect}
    (heffect : effect ∈ sinceNone worker.log) : effect ∈ sinceNone worker'.log := by
  obtain ⟨new, hlog, hnew⟩ := h
  unfold sinceNone at heffect ⊢
  rw [hlog, History.sinceLast_append hnew]
  exact List.mem_append_left _ heffect

theorem Authentic.stays (ha : Authentic worker) (h : Stays worker worker')
    (hhandle : worker'.pamHandle = worker.pamHandle)
    (hstate : .authenticated ≤ worker'.state → .authenticated ≤ worker.state) :
    Authentic worker' := by
  intro handle hsome hauthenticated
  obtain ⟨flag, hmem⟩ := ha handle (hhandle ▸ hsome) (hstate hauthenticated)
  exact ⟨flag, h.mem hmem⟩

theorem authentic_of_no_handle (h : worker.pamHandle = none) : Authentic worker := by
  intro handle hsome
  rw [h] at hsome
  cases hsome

theorem Settles.authentic (h : Settles worker worker') (hs : Sound worker)
    (ha : Authentic worker) : Authentic worker' := by
  induction h with
  | quiet hquiet => exact ha.stays hquiet.stays hquiet.pamHandle fun h => hquiet.state ▸ h
  | @wake w i hi =>
    rcases onSettingsIsLoadedChanged_cases w with hquiet | ⟨current, hwoken⟩
    · exact ha.stays hquiet.stays hquiet.pamHandle fun h => hquiet.state ▸ h
    · obtain ⟨settings, username, accounts, state, notices, heq, hstate | hstate⟩ :=
        hwoken.change
      · refine authentic_of_no_handle ?_
        rw [heq]
        exact hs.handle.mp hstate.1
      · obtain ⟨haccredited, rfl, saved, rfl, hsaved⟩ := hstate
        rw [heq]
        refine ha.stays ⟨_, rfl, ?_⟩ rfl fun _ => ?_
        · intro effect heffect
          rcases List.mem_cons.mp heffect with rfl | hlate
          · rfl
          · exact entersNone_of_isNotice (hsaved effect hlate)
        · rw [haccredited]
          decide
  | @trans w w' w'' h h' ih ih' => exact ih' (h.sound hs) (ih hs ha)

/-- The transitions that come after the authentication. -/
theorem Authentic.advance (ha : Authentic worker) (h : Stays worker worker')
    (hhandle : worker'.pamHandle = worker.pamHandle) (hstate : .authenticated ≤ worker.state)
    {state : GdmSessionWorkerState} (hnone : state ≠ .none) :
    Authentic (worker'.setState state) :=
  ha.stays (h.trans (stays_setState hnone)) (by simpa using hhandle) fun _ => hstate

theorem PamStep.authentic (h : PamStep worker worker') (hs : Sound worker)
    (ha : Authentic worker) : Authentic worker' := by
  cases h with
  | settles hsettles => exact hsettles.authentic hs ha
  | sideline _ _ => exact ha
  | startFails _ => exact ha.stays (stays_emit rfl) rfl id
  | calls _ _ => exact ha.stays (stays_emit rfl) rfl id
  | starts hstate _ =>
    intro handle _ hauthenticated
    have hsetup : (worker.startPam.setState .setupComplete).state = .setupComplete :=
      setState_state _
    rw [hsetup] at hauthenticated
    exact absurd hauthenticated (by decide)
  | startEnds _ _ _ => exact authentic_of_no_handle (by simp [endPam])
  | @authenticated handle flag hstate hhandle =>
    intro other hother _
    have hsame : other = handle := by
      have hboth : some other = some handle := by
        rw [← hother, ← hhandle]
        simp [emit]
      exact Option.some.inj hboth
    subst hsame
    refine ⟨flag, (stays_setState (by simp)).mem ?_⟩
    have hlog : sinceNone (worker.emit (.pam (.authenticate flag) (some other) .success)).log =
        sinceNone worker.log ++ [.pam (.authenticate flag) (some other) .success] :=
      History.sinceLast_concat rfl
    rw [hlog]
    simp
  | authorized hstate hhandle hmanaged =>
    cases hmanaged with
    | valid flag => exact ha.advance (stays_emit rfl) rfl (by rw [hstate]; decide) (by simp)
    | tokenChanged flag hquiet =>
      refine ha.advance (((stays_emit rfl).trans hquiet.stays).trans (stays_emit rfl))
        hquiet.pamHandle (by rw [hstate]; decide) (by simp)
  | reauthAuthorized _ hstate =>
    exact ha.advance (.refl worker) rfl (by rw [hstate]; decide) (by simp)
  | accredited hstate _ _ =>
    exact ha.advance (stays_emit rfl) rfl (by rw [hstate]; decide) (by simp)
  | reauthAccredited _ hstate =>
    exact ha.advance (.refl worker) rfl (by rw [hstate]; decide) (by simp)
  | opened silent hstate _ _ =>
    exact ha.advance (stays_emit rfl) rfl (by rw [hstate]; decide) (by simp)
  | ended _ _ _ _ => exact authentic_of_no_handle (by simp [endPam])
  | endedAccredited _ _ _ _ _ => exact authentic_of_no_handle (by simp [endPam])
  | endedOpened _ _ _ _ _ _ => exact authentic_of_no_handle (by simp [endPam])

theorem Transition.authentic (h : Transition worker worker') (hs : Sound worker)
    (ha : Authentic worker) : Authentic worker' := by
  cases h with
  | pam hstep => exact hstep.authentic hs ha
  | saves hstate =>
    have hsaved : Authentic (worker.setState .accountDetailsSaved) :=
      ha.advance (.refl worker) rfl (by rw [hstate]; decide) (by simp)
    exact hsaved
  | connects i => exact ha
  | forks pid arguments hat _ =>
    have hforked : Stays worker { worker.emit (.forked pid arguments) with childPid := pid } :=
      ⟨[.forked pid arguments], rfl, by simp [Effect.entersNone]⟩
    exact ha.advance hforked rfl (by rw [hat.state_eq]; decide) (by simp)
  | aside haside =>
    obtain ⟨new, hlog, hnew⟩ := haside.log
    exact ha.stays ⟨new, hlog, fun effect heffect => entersNone_of_isAside (hnew effect heffect)⟩
      haside.pamHandle fun h => haside.state ▸ h

theorem authentic_step (hs : Sound worker) (ha : Authentic worker) (event : WorkerEvent) :
    Authentic (worker.step event) :=
  ((step_transitions hs event).preserves (P := fun w => Sound w ∧ Authentic w)
    (fun _ _ h hboth => ⟨h.sound hboth.1, h.authentic hboth.1 hboth.2⟩) ⟨hs, ha⟩).2

/-! ## Replies -/

theorem Passed.no_reply {handle : Nat} {state : GdmSessionWorkerState} {calls : List Effect}
    (h : Passed handle state calls) (invocation : Option Invocation) (reply : Reply) :
    .completed invocation reply ∉ calls := by
  induction h with
  | setupComplete => simp
  | authenticated flag _ ih => simpa using ih
  | authorized _ haccount ih =>
    cases haccount <;> simpa using ih
  | accredited _ _ ih => simpa using ih
  | accountDetailsSaved _ ih => exact ih
  | sessionOpened silent _ ih => simpa using ih
  | sessionStarted _ ih => exact ih

/-- What a worker has passed it has passed before it replies. -/
theorem Verified.before_reply {before : List Effect} {reply : Reply}
    {invocation : Option Invocation} (hv : Verified worker)
    (hs : Sound worker) (hstate : worker.state ≠ .none)
    (hlog : worker.log = before ++ [.completed invocation reply]) :
    ∃ handle calls, Passed handle worker.state calls ∧ calls.Sublist (sinceNone before) := by
  obtain ⟨handle, hat⟩ := hs.at_state rfl hstate
  obtain ⟨calls, hpassed, hsublist⟩ := hv handle hat.handle_eq
  refine ⟨handle, calls, hpassed, ?_⟩
  have hsince : sinceNone worker.log = sinceNone before ++ [.completed invocation reply] := by
    rw [hlog]
    exact History.sinceLast_concat rfl
  rw [hsince] at hsublist
  obtain ⟨first, last, rfl, hfirst, hlast⟩ := List.sublist_append_iff.mp hsublist
  rcases List.sublist_singleton.mp hlast with rfl | rfl
  · rw [List.append_nil]
    exact hfirst
  · exact absurd (by simp) (hpassed.no_reply invocation reply)

/-- So has it been authenticated. -/
theorem Authentic.before_reply {before : List Effect} {reply : Reply}
    {invocation : Option Invocation} (ha : Authentic worker) (hs : Sound worker)
    (hstate : worker.state ≠ .none) (hauthenticated : .authenticated ≤ worker.state)
    (hlog : worker.log = before ++ [.completed invocation reply]) :
    ∃ flag handle, .pam (.authenticate flag) (some handle) .success ∈ sinceNone before := by
  obtain ⟨handle, hat⟩ := hs.at_state rfl hstate
  obtain ⟨flag, hmem⟩ := ha handle hat.handle_eq hauthenticated
  refine ⟨flag, handle, ?_⟩
  have hsince : sinceNone worker.log = sinceNone before ++ [.completed invocation reply] := by
    rw [hlog]
    exact History.sinceLast_concat rfl
  rw [hsince] at hmem
  simpa using hmem

theorem after_ne_none (method : Method) : method.after ≠ .none := by
  cases method <;> simp [Method.after]

/-- The history of a worker grows by backed replies. -/
theorem Utters.backed (h : Utters worker worker') (hs : Sequenced worker')
    (ha : Authentic worker')
    (hbacked : History.Justified (Backed worker'.isReauthSession) worker.log) :
    History.Justified (Backed worker'.isReauthSession) worker'.log := by
  have hdiscreet : ∀ w : GdmSessionWorker, Discreet worker w →
      History.Justified (Backed worker'.isReauthSession) w.log := by
    intro w hw
    obtain ⟨new, hlog, hnew⟩ := hw.log
    rw [hlog]
    exact History.justified_append hbacked fun effect heffect _ =>
      backed_of_not_isReport (hnew effect heffect)
  cases h with
  | nothing h _ => exact hdiscreet worker' h
  | @replies w invocation reply hpending h hanswers hsuccess _ hprogram =>
    have hsame : w.pendingInvocation = some invocation := h.pendingInvocation.trans hpending
    have hlog : (w.answer reply).log = w.log ++ [.completed (some invocation) reply] := by
      rw [← hsame]
      rfl
    rw [hlog, History.justified_concat]
    have hstate : reply.isError = false →
        (w.answer reply).state = invocation.method.after := fun hok => (hsuccess hok).2
    have hsome : reply.isError = false → (w.answer reply).state ≠ .none := fun hok =>
      hstate hok ▸ after_ne_none _
    refine ⟨hdiscreet w h, ?_, ?_, hprogram⟩
    · intro hreauth hok
      rw [← hstate hok]
      exact (hs.verified hreauth).before_reply hs.sound (hsome hok) hlog
    · intro hok hauthenticated
      rw [← hstate hok] at hauthenticated
      exact ha.before_reply hs.sound (hsome hok) hauthenticated hlog
  | @exits w status pid _ h _ =>
    have hlog : ((w.emit (.sessionExited w.service status)).emit (.killed pid)).log =
        w.log ++ [.sessionExited w.service status] ++ [.killed pid] := rfl
    rw [hlog, History.justified_concat, History.justified_concat]
    exact ⟨⟨hdiscreet w h, trivial⟩, trivial⟩

theorem Hears.backed {isReauthSession : Bool} {invocation : Invocation}
    (h : Hears worker invocation worker')
    (hbacked : History.Justified (Backed isReauthSession) worker.log) :
    History.Justified (Backed isReauthSession) worker'.log := by
  cases h with
  | takes _ hw =>
    obtain ⟨new, hlog, hnew⟩ := hw.log
    rw [hlog]
    exact History.justified_append hbacked fun effect heffect _ =>
      backed_of_not_isReport (hnew effect heffect)
  | @rejects w error hw =>
    obtain ⟨new, hlog, hnew⟩ := hw.log
    have hlog' : (w.emit (.completed (some invocation) (.error error))).log =
        worker.log ++ new ++ [.completed (some invocation) (.error error)] := by
      rw [← hlog]
      rfl
    rw [hlog', History.justified_concat]
    exact ⟨History.justified_append hbacked fun effect heffect _ =>
      backed_of_not_isReport (hnew effect heffect), backed_error⟩

/-- A worker whose calls come in order, with its requests, its calls of PAM, its replies
and what stands behind them. -/
structure Accountable (worker : GdmSessionWorker) : Prop where
  gated : Gated worker
  sequenced : Sequenced worker
  authentic : Authentic worker
  ledger : Ledger worker
  backed : History.Justified (Backed worker.isReauthSession) worker.log

theorem accountable_new (isReauthSession : Bool) (accounts : String → Option Account) :
    Accountable (new isReauthSession accounts) :=
  ⟨gated_new _ _, sequenced_new _ _, authentic_of_no_handle rfl, ledger_new _ _,
    History.justified_nil⟩

theorem Accountable.step (h : Accountable worker) {event : WorkerEvent}
    (haccepted : worker.StartProgramAccepted event) : Accountable (worker.step event) := by
  have hsequenced := sequenced_step h.sequenced event
  have hflag := isReauthSession_step h.gated.sound event
  have hauthentic := authentic_step h.gated.sound h.authentic event
  refine ⟨gated_step h.gated haccepted.inOrder, hsequenced, hauthentic,
    h.ledger.replyStep (step_replyStep h.gated haccepted), ?_⟩
  by_cases hcall : event.isCall = false
  · exact (step_utters h.gated hcall).backed hsequenced hauthentic (hflag ▸ h.backed)
  · cases event with
    | call request =>
      rw [hflag]
      by_cases hrunning : worker.status = .running
      · have hreceive : worker.step (.call request) = worker.receive request := by
          unfold GdmSessionWorker.step
          rw [if_neg (not_not.mpr hrunning)]
        rw [hreceive]
        have harrive : History.Justified (Backed worker.isReauthSession)
            (worker.arrive request.method).log :=
          History.justified_concat.mpr ⟨h.backed, trivial⟩
        exact (receive_hears (h.gated.requests hrunning) hrunning haccepted).1.backed harrive
      · have hsame : worker.step (.call request) = worker := if_pos hrunning
        rw [hsame]
        exact h.backed
    | _ => exact absurd rfl hcall

end GdmSessionWorker

end Gdm
