import Gdm.Library.History
import Gdm.Worker.TransitionSystem

/-!
# No program without the full PAM sequence

The worker forks the session program only at the end of one complete PAM
sequence on one handle, with no return to NONE in between, and a worker for
reauthentication does not fork at all.

The invariant is that the calls the current state stands for have succeeded on
the current handle since the worker was last in NONE.
-/

namespace Gdm

/-- The entries of the history that say that the worker is in NONE again. -/
def Effect.entersNone : Effect → Bool
  | notifyState .none => true
  | _ => false

/-- What has happened since the worker was last in NONE. -/
def sinceNone (log : List Effect) : List Effect :=
  History.sinceLast Effect.entersNone log

/-- The calls of a successful account management on `handle`. -/
inductive AccountManagement (handle : Nat) : List Effect → Prop
  | valid (flag : Bool) :
      AccountManagement handle [.pam (.acctMgmt flag) (some handle) .success]
  | tokenChanged (flag : Bool) :
      AccountManagement handle [.pam (.acctMgmt flag) (some handle) .newAuthtokReqd,
        .pam .chauthtok (some handle) .success]

/-- The whole PAM sequence on `handle`, from the start of PAM, with which the
worker leaves NONE, to the opened session. -/
def FullPamSequence (handle : Nat) (calls : List Effect) : Prop :=
  ∃ flag account flags silent, AccountManagement handle account ∧ flags ≠ .deleteCred ∧
    calls =
      [.pam .start (some handle) .success, .notifyState .setupComplete,
        .pam (.authenticate flag) (some handle) .success] ++
      account ++
      [.pam (.setcred flags) (some handle) .success,
        .pam (.openSession silent) (some handle) .success]

namespace GdmSessionWorker

/-- The calls on `handle` that a state stands for. -/
inductive Passed (handle : Nat) : GdmSessionWorkerState → List Effect → Prop
  | setupComplete :
      Passed handle .setupComplete
        [.pam .start (some handle) .success, .notifyState .setupComplete]
  | authenticated {calls : List Effect} (flag : Bool) : Passed handle .setupComplete calls →
      Passed handle .authenticated (calls ++ [.pam (.authenticate flag) (some handle) .success])
  | authorized {calls account : List Effect} : Passed handle .authenticated calls →
      AccountManagement handle account → Passed handle .authorized (calls ++ account)
  | accredited {calls : List Effect} {flags : CredFlags} : Passed handle .authorized calls →
      flags ≠ .deleteCred →
      Passed handle .accredited (calls ++ [.pam (.setcred flags) (some handle) .success])
  | accountDetailsSaved {calls : List Effect} : Passed handle .accredited calls →
      Passed handle .accountDetailsSaved calls
  | sessionOpened {calls : List Effect} (silent : Bool) :
      Passed handle .accountDetailsSaved calls →
      Passed handle .sessionOpened (calls ++ [.pam (.openSession silent) (some handle) .success])
  | sessionStarted {calls : List Effect} : Passed handle .sessionOpened calls →
      Passed handle .sessionStarted calls

theorem Passed.fullPamSequence {handle : Nat} {calls : List Effect}
    (h : Passed handle .sessionOpened calls) : FullPamSequence handle calls := by
  cases h with
  | sessionOpened silent hsaved =>
    cases hsaved with
    | accountDetailsSaved haccredited =>
      cases haccredited with
      | accredited hauthorized hflags =>
        cases hauthorized with
        | authorized hauthenticated haccount =>
          cases hauthenticated with
          | authenticated flag hsetup =>
            cases hsetup
            exact ⟨flag, _, _, silent, haccount, hflags, by simp⟩

variable {worker worker' : GdmSessionWorker}

/-- The calls that the state stands for have been made since NONE. -/
def Verified (worker : GdmSessionWorker) : Prop :=
  ∀ handle, worker.pamHandle = some handle →
    ∃ calls, Passed handle worker.state calls ∧ calls.Sublist (sinceNone worker.log)

/-- A transition that adds to the history what the new state stands for, and does
not pass through NONE, keeps the worker verified. -/
theorem Verified.advance (h : Verified worker) (new : List Effect)
    (hlog : worker'.log = worker.log ++ new) (hnew : ∀ effect ∈ new, effect.entersNone = false)
    (hhandle : worker'.pamHandle = worker.pamHandle)
    (hpassed : ∀ handle calls, worker.pamHandle = some handle →
      Passed handle worker.state calls →
      ∃ more, Passed handle worker'.state (calls ++ more) ∧ more.Sublist new) :
    Verified worker' := by
  intro handle hworker'
  rw [hhandle] at hworker'
  obtain ⟨calls, hcalls, hsublist⟩ := h handle hworker'
  obtain ⟨more, hmore, hmoreNew⟩ := hpassed handle calls hworker' hcalls
  refine ⟨calls ++ more, hmore, ?_⟩
  unfold sinceNone at hsublist ⊢
  rw [hlog, History.sinceLast_append hnew]
  exact hsublist.append hmoreNew

/-- Without a change of the state nothing has to be added. -/
theorem Verified.stay (h : Verified worker) {new : List Effect}
    (hlog : worker'.log = worker.log ++ new) (hnew : ∀ effect ∈ new, effect.entersNone = false)
    (hhandle : worker'.pamHandle = worker.pamHandle) (hstate : worker'.state = worker.state) :
    Verified worker' := by
  refine h.advance new hlog hnew hhandle ?_
  intro handle calls _ hcalls
  exact ⟨[], by simpa [hstate] using hcalls, List.nil_sublist _⟩

theorem verified_of_no_handle (h : worker.pamHandle = none) : Verified worker := by
  intro handle hhandle
  rw [h] at hhandle
  cases hhandle

theorem entersNone_of_isNotice {effect : Effect} (h : effect.isNotice = true) :
    effect.entersNone = false := by
  cases effect with
  | notifyState => cases h
  | _ => rfl

theorem entersNone_of_isAside {effect : Effect} (h : effect.isAside = true) :
    effect.entersNone = false := by
  cases effect with
  | notifyState => cases h
  | _ => rfl

theorem Quiet.verified (h : Quiet worker worker') (hv : Verified worker) : Verified worker' := by
  obtain ⟨notices, hlog, hnotices⟩ := h.log
  exact hv.stay hlog (fun effect heffect => entersNone_of_isNotice (hnotices effect heffect))
    h.pamHandle h.state

theorem Settles.verified (h : Settles worker worker') (hs : Sound worker)
    (hv : Verified worker) : Verified worker' := by
  induction h with
  | quiet hquiet => exact hquiet.verified hv
  | @wake w i hi =>
    rcases onSettingsIsLoadedChanged_cases w with hquiet | ⟨current, hwoken⟩
    · exact hquiet.verified hv
    · obtain ⟨settings, username, accounts, state, notices, heq, hstate | hstate⟩ :=
        hwoken.change
      · refine verified_of_no_handle ?_
        rw [heq]
        exact hs.handle.mp hstate.1
      · obtain ⟨haccredited, rfl, saved, rfl, hsaved⟩ := hstate
        rw [heq]
        refine hv.advance _ rfl ?_ rfl ?_
        · intro effect heffect
          rcases List.mem_cons.mp heffect with rfl | hlate
          · rfl
          · exact entersNone_of_isNotice (hsaved effect hlate)
        · intro handle calls _ hcalls
          rw [haccredited] at hcalls
          exact ⟨[], by simpa using Passed.accountDetailsSaved hcalls, List.nil_sublist _⟩
  | @trans w w' w'' h h' ih ih' => exact ih' (h.sound hs) (ih hs hv)

/-- A PAM call followed by the change to the state it stands for. -/
theorem Verified.call (h : Verified worker) {effect : Effect} {handle : Nat}
    {state : GdmSessionWorkerState} (heffect : effect.entersNone = false)
    (hhandle : worker.pamHandle = some handle) (hne : worker.state ≠ state)
    (hnone : state ≠ .none)
    (hpassed : ∀ calls, Passed handle worker.state calls →
      Passed handle state (calls ++ [effect])) :
    Verified ((worker.emit effect).setState state) := by
  have hne' : (worker.emit effect).state ≠ state := hne
  refine h.advance [effect, .notifyState state] ?_ ?_ (by simp [emit]) ?_
  · rw [setState_of_ne hne']
    simp [emit]
  · intro other hother
    simp only [List.mem_cons, List.not_mem_nil, or_false] at hother
    rcases hother with rfl | rfl
    · exact heffect
    · cases state with
      | none => exact absurd rfl hnone
      | _ => rfl
  · intro handle' calls hhandle' hcalls
    rw [hhandle] at hhandle'
    cases hhandle'
    exact ⟨[effect], by simpa using hpassed calls hcalls, by simp⟩

theorem verified_startPam (hstate : worker.state = .none) :
    Verified (worker.startPam.setState .setupComplete) := by
  have hne : worker.startPam.state ≠ .setupComplete := by simp [startPam, emit, hstate]
  intro handle hhandle
  have hnext : handle = worker.nextHandle := by
    simpa [startPam, emit, eq_comm] using hhandle
  subst hnext
  refine ⟨_, by simpa using Passed.setupComplete, ?_⟩
  have hlog : (worker.startPam.setState .setupComplete).log = worker.log ++
      [.pam .start (some worker.nextHandle) .success, .notifyState .setupComplete] := by
    rw [setState_of_ne hne]
    simp [startPam, emit]
  unfold sinceNone
  rw [hlog, History.sinceLast_append (by simp [Effect.entersNone])]
  exact List.sublist_append_right _ _

theorem AccountManaged.verified {handle : Nat} (h : AccountManaged handle worker worker')
    (hstate : worker.state = .authenticated) (hhandle : worker.pamHandle = some handle)
    (hv : Verified worker) : Verified (worker'.setState .authorized) := by
  cases h with
  | valid flag =>
    refine hv.call rfl hhandle (by simp [hstate]) (by decide) ?_
    intro calls hcalls
    rw [hstate] at hcalls
    exact .authorized hcalls (.valid flag)
  | @tokenChanged w' flag hquiet =>
    obtain ⟨notices, hlog, hnotices⟩ := hquiet.log
    have hstate' : w'.state = .authenticated := hquiet.state.trans hstate
    have hne : (w'.emit (.pam .chauthtok (some handle) .success)).state ≠ .authorized := by
      simp [emit, hstate']
    refine hv.advance (.pam (.acctMgmt flag) (some handle) .newAuthtokReqd ::
      (notices ++ [.pam .chauthtok (some handle) .success, .notifyState .authorized])) ?_ ?_ ?_ ?_
    · rw [setState_of_ne hne]
      simp [emit, hlog]
    · intro effect heffect
      simp only [List.mem_cons, List.mem_append, List.not_mem_nil, or_false] at heffect
      rcases heffect with rfl | hnotice | rfl | rfl
      · rfl
      · exact entersNone_of_isNotice (hnotices effect hnotice)
      · rfl
      · rfl
    · simpa [emit] using hquiet.pamHandle
    · intro handle' calls hhandle' hcalls
      rw [hhandle] at hhandle'
      cases hhandle'
      rw [hstate] at hcalls
      refine ⟨_, by simpa using Passed.authorized hcalls (.tokenChanged flag), ?_⟩
      refine List.Sublist.cons_cons _ ?_
      exact List.Sublist.trans (by simp) (List.sublist_append_right notices _)

/-- Every transition of PAM in a worker that is not for reauthentication keeps it
verified. -/
theorem PamStep.verified (h : PamStep worker worker') (hs : Sound worker)
    (hreauth : worker.isReauthSession = false) (hv : Verified worker) : Verified worker' := by
  cases h with
  | settles hsettles => exact hsettles.verified hs hv
  | sideline _ _ => exact hv
  | startFails _ => exact hv.stay rfl (by simp [Effect.entersNone]) rfl rfl
  | calls _ _ => exact hv.stay rfl (by simp [Effect.entersNone]) rfl rfl
  | starts hstate _ => exact verified_startPam hstate
  | startEnds _ _ _ => exact verified_of_no_handle (by simp [endPam])
  | authenticated flag hstate hhandle =>
    refine hv.call rfl hhandle (by simp [hstate]) (by decide) ?_
    intro calls hcalls
    rw [hstate] at hcalls
    exact .authenticated flag hcalls
  | authorized hstate hhandle hmanaged => exact hmanaged.verified hstate hhandle hv
  | accredited hstate hhandle hflags =>
    refine hv.call rfl hhandle (by simp [hstate]) (by decide) ?_
    intro calls hcalls
    rw [hstate] at hcalls
    exact .accredited hcalls hflags
  | opened silent hstate hhandle _ =>
    refine hv.call rfl hhandle (by simp [hstate]) (by decide) ?_
    intro calls hcalls
    rw [hstate] at hcalls
    exact .sessionOpened silent hcalls
  | reauthAuthorized hflag _ => exact absurd hflag (by simp [hreauth])
  | reauthAccredited hflag _ => exact absurd hflag (by simp [hreauth])
  | ended _ _ _ _ => exact verified_of_no_handle (by simp [endPam])
  | endedAccredited _ _ _ _ _ => exact verified_of_no_handle (by simp [endPam])
  | endedOpened _ _ _ _ _ _ => exact verified_of_no_handle (by simp [endPam])

/-! ## Forks are justified -/

/-- What has to be in the history before a fork. -/
def ForkJustified (isReauthSession : Bool) (before : List Effect) (effect : Effect) : Prop :=
  ∀ pid arguments, effect = .forked pid arguments →
    isReauthSession = false ∧
      ∃ handle calls, FullPamSequence handle calls ∧ calls.Sublist (sinceNone before)

/-- The invariant of the whole worker. -/
structure Sequenced (worker : GdmSessionWorker) : Prop where
  sound : Sound worker
  verified : worker.isReauthSession = false → Verified worker
  forks : History.Justified (ForkJustified worker.isReauthSession) worker.log

theorem sequenced_new (isReauthSession : Bool) (accounts : String → Option Account) :
    Sequenced (new isReauthSession accounts) :=
  ⟨sound_new _ _, fun _ => verified_of_no_handle rfl, by simp [new]⟩

theorem forkJustified_of_not_forked {isReauthSession : Bool} {before : List Effect}
    {effect : Effect} (h : ∀ pid arguments, effect ≠ .forked pid arguments) :
    ForkJustified isReauthSession before effect :=
  fun pid arguments heq => absurd heq (h pid arguments)

theorem Transition.sequenced (h : Transition worker worker') (hs : Sequenced worker) :
    Sequenced worker' := by
  have hsound := h.sound hs.sound
  cases h with
  | pam hstep =>
    have hframe := hstep.pamFrame
    obtain ⟨new, hlog, hnew⟩ := hframe.log
    refine ⟨hsound, ?_, ?_⟩
    · rw [hframe.isReauthSession]
      exact fun hreauth => hstep.verified hs.sound hreauth (hs.verified hreauth)
    · rw [hframe.isReauthSession, hlog]
      refine History.justified_append hs.forks ?_
      intro effect heffect before
      refine forkJustified_of_not_forked ?_
      rintro pid arguments rfl
      cases hnew _ heffect
  | saves hstate =>
    have hlog : (worker.setState .accountDetailsSaved).queueStateChange.log =
        worker.log ++ [.notifyState .accountDetailsSaved] := by
      rw [setState_of_ne (by simp [hstate])]
      rfl
    have hreauth : (worker.setState .accountDetailsSaved).queueStateChange.isReauthSession =
        worker.isReauthSession := by
      rw [setState_of_ne (by simp [hstate])]
      rfl
    refine ⟨hsound, ?_, ?_⟩
    · rw [hreauth]
      intro hflag
      refine (hs.verified hflag).advance _ hlog (by simp [Effect.entersNone]) ?_ ?_
      · simp [queueStateChange]
      · intro handle calls _ hcalls
        rw [hstate] at hcalls
        exact ⟨[], by simpa [queueStateChange] using Passed.accountDetailsSaved hcalls,
          List.nil_sublist _⟩
    · rw [hreauth, hlog, History.justified_concat]
      exact ⟨hs.forks, forkJustified_of_not_forked (by simp)⟩
  | connects i => exact ⟨hsound, hs.verified, hs.forks⟩
  | @forks handle pid arguments hat hflag =>
    have hv := hs.verified hflag
    obtain ⟨calls, hcalls, hsublist⟩ := hv handle hat.handle_eq
    rw [hat.state_eq] at hcalls
    have hne : { worker.emit (.forked pid arguments) with childPid := pid }.state ≠
        .sessionStarted := by simp [emit, hat.state_eq]
    have hlog : (worker.forks pid arguments).log =
        worker.log ++ [.forked pid arguments] ++ [.notifyState .sessionStarted] := by
      rw [GdmSessionWorker.forks, setState_of_ne hne]
      rfl
    have hreauth : (worker.forks pid arguments).isReauthSession = worker.isReauthSession := by
      rw [GdmSessionWorker.forks, setState_of_ne hne]
      rfl
    refine ⟨hsound, ?_, ?_⟩
    · intro _
      refine hv.advance [.forked pid arguments, .notifyState .sessionStarted]
        (by simpa using hlog) (by simp [Effect.entersNone]) ?_ ?_
      · simp [GdmSessionWorker.forks, emit]
      · intro handle' calls' _ hcalls'
        rw [hat.state_eq] at hcalls'
        exact ⟨[], by simpa [GdmSessionWorker.forks] using Passed.sessionStarted hcalls',
          List.nil_sublist _⟩
    · rw [hreauth, hlog, History.justified_concat, History.justified_concat]
      refine ⟨⟨hs.forks, ?_⟩, forkJustified_of_not_forked (by simp)⟩
      intro _ _ _
      exact ⟨hflag, handle, calls, hcalls.fullPamSequence, hsublist⟩
  | aside haside =>
    obtain ⟨new, hlog, hnew⟩ := haside.log
    refine ⟨hsound, ?_, ?_⟩
    · rw [haside.isReauthSession]
      intro hflag
      exact (hs.verified hflag).stay hlog
        (fun effect heffect => entersNone_of_isAside (hnew effect heffect))
        haside.pamHandle haside.state
    · rw [haside.isReauthSession, hlog]
      refine History.justified_append hs.forks ?_
      intro effect heffect before
      refine forkJustified_of_not_forked ?_
      rintro pid arguments rfl
      cases hnew _ heffect

theorem sequenced_step (hs : Sequenced worker) (event : WorkerEvent) :
    Sequenced (worker.step event) :=
  (step_transitions hs.sound event).preserves (fun _ _ h => h.sequenced) hs

theorem Transition.isReauthSession (h : Transition worker worker') :
    worker'.isReauthSession = worker.isReauthSession := by
  cases h with
  | pam hstep => exact hstep.pamFrame.isReauthSession
  | saves hstate => exact (pamFrame_setState .accountDetailsSaved).isReauthSession
  | connects i => rfl
  | forks pid arguments _ _ => exact (pamFrame_setState .sessionStarted).isReauthSession
  | aside haside => exact haside.isReauthSession

/-- The flag of a worker is the one it was constructed with. -/
theorem isReauthSession_step (hs : Sound worker) (event : WorkerEvent) :
    (worker.step event).isReauthSession = worker.isReauthSession :=
  (step_transitions hs event).preserves
    (P := fun w => w.isReauthSession = worker.isReauthSession)
    (fun _ _ h heq => h.isReauthSession.trans heq) rfl

theorem sequenced_run (isReauthSession : Bool) (accounts : String → Option Account)
    (events : List WorkerEvent) :
    Sequenced (machine.run (new isReauthSession accounts) events) ∧
      (machine.run (new isReauthSession accounts) events).isReauthSession = isReauthSession := by
  refine machine.run_invariant
    (fun w => Sequenced w ∧ w.isReauthSession = isReauthSession) ?_ events
    ⟨sequenced_new isReauthSession accounts, rfl⟩
  rintro w event ⟨hs, hflag⟩
  exact ⟨sequenced_step hs event, (isReauthSession_step hs.sound event).trans hflag⟩

/-- In every run of a worker, whatever it is asked and whatever PAM answers, the
session program is forked only when the full PAM sequence has succeeded on one
handle since the worker was last in NONE, and not at all for reauthentication. -/
theorem forked_only_after_full_pam_sequence (isReauthSession : Bool)
    (accounts : String → Option Account) (events : List WorkerEvent)
    (before after : List Effect) (pid : Int) (arguments : List String)
    (hlog : (machine.run (new isReauthSession accounts) events).log =
      before ++ .forked pid arguments :: after) :
    isReauthSession = false ∧
      ∃ handle calls, FullPamSequence handle calls ∧ calls.Sublist (sinceNone before) := by
  obtain ⟨hs, hflag⟩ := sequenced_run isReauthSession accounts events
  have hjustified := hs.forks before _ after hlog pid arguments rfl
  rw [hflag] at hjustified
  exact hjustified

/-- The history of a program login. -/
def programLoginLog : List Effect :=
  (machine.run (new false fun _ => none) programLogin).log

/-- The program does get forked in that run, at its end. -/
theorem programLogin_forks :
    false = false ∧ ∃ handle calls, FullPamSequence handle calls ∧
      calls.Sublist (sinceNone (programLoginLog.take 35)) :=
  forked_only_after_full_pam_sequence false (fun _ => none) programLogin
    (programLoginLog.take 35) (programLoginLog.drop 36) 1000 ["gnome-session"] (by rfl)

end GdmSessionWorker

end Gdm
