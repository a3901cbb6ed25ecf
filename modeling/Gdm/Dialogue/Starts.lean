import Gdm.Dialogue.Runs
import Gdm.Session.Signals
import Gdm.Worker.Backing

/-!
# Programs in turn

A worker is to be asked for a program only when its session is open.  It does not see to
that itself: the session asks when its owner does.  When the history of the session has
every StartProgram after the report that the session is open, and once, each of them finds
the worker as it is to be, whatever happens in between.
-/

namespace Gdm

/-- The conversation whose session is reported open by an entry that is dispatched. -/
def SessionEffect.reportsOpen : SessionEffect → Option Nat
  | delivered id (.success (.Open _)) => some id
  | _ => none

/-- The conversation whose worker is asked for a program. -/
def SessionEffect.asksProgram : SessionEffect → Option Nat
  | called id .StartProgram => some id
  | _ => none

/-- A program is asked for after the report that the session is open, and not again. -/
def StartedInTurn (before : List SessionEffect) (effect : SessionEffect) : Prop :=
  ∀ id ∈ effect.asksProgram, (∃ entry ∈ before, entry.reportsOpen = some id) ∧
    ∀ entry ∈ before, entry.asksProgram ≠ some id

instance (before : List SessionEffect) (effect : SessionEffect) :
    Decidable (StartedInTurn before effect) :=
  inferInstanceAs (Decidable (∀ id ∈ effect.asksProgram, _))

/-- The worker has replied to Open with a session. -/
def HasOpened (log : List Effect) : Prop :=
  ∃ invocation sessionId, .completed (some invocation) (.Open sessionId) ∈ log

theorem hasOpened_append {log new : List Effect} (h : HasOpened (log ++ new)) :
    HasOpened log ∨ HasOpened new := by
  obtain ⟨invocation, sessionId, hmem⟩ := h
  rcases List.mem_append.mp hmem with hold | hnew
  · exact .inl ⟨invocation, sessionId, hold⟩
  · exact .inr ⟨invocation, sessionId, hnew⟩

theorem not_hasOpened_of_not_isReport {new : List Effect}
    (h : ∀ effect ∈ new, effect.isReport = false) : ¬ HasOpened new := by
  rintro ⟨invocation, sessionId, hmem⟩
  cases h _ hmem

namespace GdmSessionWorker

variable {worker worker' : GdmSessionWorker}

/-- The worker has an open session, and nothing to do. -/
def StandsOpen (worker : GdmSessionWorker) : Prop :=
  worker.status = .running → worker.state = .sessionOpened ∧ worker.pendingInvocation = none

theorem StandsOpen.accepts (h : StandsOpen worker) (hrunning : worker.status = .running) :
    worker.Accepts .sessionStarted := by
  obtain ⟨hstate, hpending⟩ := h hrunning
  refine ⟨hpending, ?_⟩
  rw [hstate]
  rfl

theorem Discreet.hasOpened (h : Discreet worker worker') (hopened : HasOpened worker'.log) :
    HasOpened worker.log := by
  obtain ⟨new, hlog, hnew⟩ := h.log
  rw [hlog] at hopened
  exact (hasOpened_append hopened).resolve_right (not_hasOpened_of_not_isReport hnew)

theorem hasOpened_emit {effect : Effect} (hopened : HasOpened (worker.emit effect).log) :
    HasOpened worker.log ∨
      ∃ invocation sessionId, effect = .completed (some invocation) (.Open sessionId) := by
  rcases hasOpened_append hopened with hold | ⟨invocation, sessionId, hnew⟩
  · exact .inl hold
  · exact .inr ⟨invocation, sessionId, (List.mem_singleton.mp hnew).symm⟩

/-- A worker with an open session turns down every call but StartProgram. -/
theorem standsOpen_receive (h : RequestState worker) (hrunning : worker.status = .running)
    (hopen : HasOpened worker.log → StandsOpen worker) {request : Request}
    (hrequest : request.method ≠ .StartProgram)
    (hopened : HasOpened (worker.receive request).log) : StandsOpen (worker.receive request) := by
  have haccepted : worker.StartProgramAccepted (.call request) := by
    cases request with
    | StartProgram argv => exact absurd rfl hrequest
    | _ => trivial
  have hbefore : HasOpened worker.log := by
    have harrive : Discreet worker (worker.arrive request.method) :=
      ⟨rfl, [.received _], rfl, by simp [Effect.isReport]⟩
    obtain ⟨hhears, _⟩ := receive_hears h hrunning haccepted
    generalize worker.receive request = w at *
    cases hhears with
    | takes _ hdiscreet => exact harrive.hasOpened (hdiscreet.hasOpened hopened)
    | rejects error hdiscreet =>
      rcases hasOpened_emit hopened with hold | ⟨_, _, heq⟩
      · exact harrive.hasOpened (hdiscreet.hasOpened hold)
      · cases heq
  obtain ⟨hstate, hpending⟩ := hopen hbefore hrunning
  have hrefused : ¬ worker.Accepts request.method.newState := by
    rintro ⟨_, hnext⟩
    rw [hstate] at hnext
    cases request with
    | StartProgram argv => exact hrequest rfl
    | _ => cases hnext
  obtain ⟨hsame, _⟩ := refused_receive h hrunning hrefused haccepted.inOrder
  exact fun _ => ⟨hsame.state.trans hstate, hsame.pendingInvocation.trans hpending⟩

theorem standsOpen_utters (hrunning : worker.status = .running)
    (hopen : HasOpened worker.log → StandsOpen worker) (hutters : Utters worker worker')
    (hopened : HasOpened worker'.log) : StandsOpen worker' := by
  cases hutters with
  | nothing hdiscreet hvisible =>
    intro hrunning'
    obtain ⟨hstate, hpending⟩ := hopen (hdiscreet.hasOpened hopened) hrunning
    have hsame := hvisible hrunning'
    rw [hstate] at hsame
    refine ⟨?_, hdiscreet.pendingInvocation.trans hpending⟩
    cases hstate' : worker'.state with
    | sessionOpened => rfl
    | _ =>
      rw [hstate'] at hsame
      cases hsame
  | @replies w invocation reply hpending hdiscreet hanswers hsuccess _ =>
    rcases hasOpened_emit hopened with hold | ⟨_, sessionId, heq⟩
    · have hnone := (hopen (hdiscreet.hasOpened hold) hrunning).2
      rw [hpending] at hnone
      cases hnone
    · have hreply : reply = .Open sessionId := by
        injection heq
      subst hreply
      have hmethod : invocation.method = .Open := hanswers
      refine fun _ => ⟨?_, rfl⟩
      rw [hmethod] at hsuccess
      exact (hsuccess rfl).2
  | @exits w status pid hstarted hdiscreet _ =>
    rcases hasOpened_emit hopened with hold | ⟨_, _, heq⟩
    · rcases hasOpened_emit hold with hold | ⟨_, _, heq⟩
      · have hstate := (hopen (hdiscreet.hasOpened hold) hrunning).1
        rw [hstarted] at hstate
        cases hstate
      · cases heq
    · cases heq

end GdmSessionWorker

namespace Dialogue

variable {e e' : Dialogue} {id i : Nat}

/-! ## What an event does to a process -/

/-- The workers have done nothing, and no call has come. -/
def SameProcesses (e e' : Dialogue) : Prop :=
  ∀ i, (e'.processes i).worker = (e.processes i).worker ∧
    (e'.processes i).heard = (e.processes i).heard

theorem sameProcesses_post (e : Dialogue) (id : Nat) (effect : Effect) :
    SameProcesses e (e.post id effect) := by
  intro i
  unfold post
  split
  · split
    · exact ⟨rfl, rfl⟩
    · by_cases hi : i = id
      · subst hi
        rw [processes_modifyProcess]
        exact ⟨rfl, rfl⟩
      · rw [processes_modifyProcess_of_ne _ hi]
        exact ⟨rfl, rfl⟩
  · split <;> exact ⟨rfl, rfl⟩

theorem sameProcesses_posts (e : Dialogue) (id : Nat) (log : List Effect) :
    SameProcesses e (e.posts id log) := by
  induction log generalizing e with
  | nil => exact fun _ => ⟨rfl, rfl⟩
  | cons effect log ih =>
    intro i
    obtain ⟨hworker, hheard⟩ := sameProcesses_post e id effect i
    obtain ⟨hworker', hheard'⟩ := ih (e.post id effect) i
    exact ⟨hworker'.trans hworker, hheard'.trans hheard⟩

/-- What an event does to a process: nothing, or its worker runs a callback, for the next
call or for something else. -/
inductive Advances (e : Dialogue) (id : Nat) (p : WorkerProcess) : Prop
  | stays : p.worker = (e.processes id).worker → p.heard = (e.processes id).heard →
      Advances e id p
  | takes {call : WorkerCall} {left : List WorkerCall} {seat0HasVts : Bool}
      {argv : Except String (List String)} {request : Request} : e.runs id = true →
      e.unread id = call :: left → call.request seat0HasVts argv = some request →
      p.worker = (e.processes id).worker.step (.call request) →
      p.heard = (e.processes id).heard ++ [call] → Advances e id p
  | acts {event : WorkerEvent} : e.runs id = true → event.isCall = false →
      p.worker = (e.processes id).worker.step event → p.heard = (e.processes id).heard →
      Advances e id p

theorem act_process (e : Dialogue) (id : Nat) (event : WorkerEvent) (i : Nat) :
    ((e.act id event).processes i).worker =
        (if i = id then (e.processes i).worker.step event else (e.processes i).worker) ∧
      ((e.act id event).processes i).heard = (e.processes i).heard := by
  unfold act
  obtain ⟨hworker, hheard⟩ := sameProcesses_posts
    (e.modifyProcess id fun p => { p with worker := (e.processes id).worker.step event }) id
    (((e.processes id).worker.step event).log.drop (e.processes id).worker.log.length) i
  rw [hworker, hheard]
  by_cases hi : i = id
  · subst hi
    rw [processes_modifyProcess, if_pos rfl]
    exact ⟨rfl, rfl⟩
  · rw [processes_modifyProcess_of_ne _ hi, if_neg hi]
    exact ⟨rfl, rfl⟩

theorem step_advances (event : DialogueEvent) (i : Nat) :
    e.Advances i ((e.step event).processes i) := by
  have hstays : e.Advances i (e.processes i) := .stays rfl rfl
  cases event with
  | session event around =>
    dsimp only [step]
    split <;> exact hstays
  | receive id seat0HasVts argv =>
    dsimp only [step]
    split
    swap
    · exact hstays
    rename_i hruns
    unfold receive
    cases hunread : e.unread id with
    | nil => exact hstays
    | cons call left =>
      dsimp only
      cases hrequest : call.request seat0HasVts argv with
      | none => exact hstays
      | some request =>
        obtain ⟨hworker, hheard⟩ :=
          act_process (e.modifyProcess id fun p => p.takes call) id (.call request) i
        by_cases hi : i = id
        · subst hi
          rw [if_pos rfl, processes_modifyProcess] at hworker
          rw [processes_modifyProcess] at hheard
          exact .takes hruns hunread hrequest hworker hheard
        · rw [if_neg hi, processes_modifyProcess_of_ne _ hi] at hworker
          rw [processes_modifyProcess_of_ne _ hi] at hheard
          exact .stays hworker hheard
  | worker id event =>
    dsimp only [step]
    split
    swap
    · exact hstays
    rename_i hacts
    obtain ⟨hruns, hcall⟩ : e.runs id = true ∧ event.isCall = false := by simpa using hacts
    obtain ⟨hworker, hheard⟩ := act_process e id event i
    by_cases hi : i = id
    · subst hi
      rw [if_pos rfl] at hworker
      exact .acts hruns hcall hworker hheard
    · rw [if_neg hi] at hworker
      exact .stays hworker hheard

/-! ## What an event does to the session -/

/-- The session has taken some events. -/
def SessionRuns (s s' : GdmSession) : Prop :=
  ∃ events, s' = GdmSession.machine.run s events

theorem SessionRuns.trans {s s' s'' : GdmSession} (h : SessionRuns s s')
    (h' : SessionRuns s' s'') : SessionRuns s s'' := by
  obtain ⟨events, rfl⟩ := h
  obtain ⟨events', rfl⟩ := h'
  exact ⟨events ++ events', (EventMachine.run_append _ _ _ _).symm⟩

theorem sessionRuns_post (effect : Effect) : SessionRuns e.session (e.post id effect).session := by
  unfold post
  split
  · split
    · exact ⟨[], rfl⟩
    · exact ⟨[(_, {})], rfl⟩
  · split
    · exact ⟨[], rfl⟩
    · exact ⟨[(_, {})], rfl⟩

theorem sessionRuns_posts (log : List Effect) :
    SessionRuns e.session (e.posts id log).session := by
  induction log generalizing e with
  | nil => exact ⟨[], rfl⟩
  | cons effect log ih => exact (sessionRuns_post effect).trans ih

theorem sessionRuns_step (event : DialogueEvent) :
    SessionRuns e.session (e.step event).session := by
  have hstays : SessionRuns e.session e.session := ⟨[], rfl⟩
  have hact : ∀ (e : Dialogue) (id : Nat) (event : WorkerEvent),
      SessionRuns e.session (e.act id event).session := fun e id event =>
    sessionRuns_posts (e := e.modifyProcess id _) _
  cases event with
  | session event around =>
    dsimp only [step]
    split
    · exact ⟨[(event, around)], rfl⟩
    · exact hstays
  | receive id seat0HasVts argv =>
    dsimp only [step]
    split
    · unfold receive
      split
      · exact hstays
      · split
        · exact hstays
        · exact hact (e.modifyProcess id _) id _
    · exact hstays
  | worker id event =>
    dsimp only [step]
    split
    · exact hact e id event
    · exact hstays

theorem SessionRuns.log_extends {s s' : GdmSession} (h : SessionRuns s s') (hs : s.WellFormed) :
    s.log <+: s'.log := by
  obtain ⟨events, rfl⟩ := h
  refine (EventMachine.run_invariant (fun t : GdmSession => t.WellFormed ∧ s.log <+: t.log) ?_
    events ⟨hs, List.prefix_refl _⟩).2
  rintro t event ⟨ht, hprefix⟩
  obtain ⟨new, hlog, _⟩ := GdmSession.step_reasons ht event
  have hlog' : (GdmSession.machine.step t event).log = t.log ++ new := hlog
  refine ⟨GdmSession.step_wellFormed ht event, hprefix.trans ?_⟩
  rw [hlog']
  exact List.prefix_append _ _

theorem sessionRuns_run (events : List DialogueEvent) :
    SessionRuns e.session (machine.run e events).session := by
  induction events generalizing e with
  | nil => exact ⟨[], rfl⟩
  | cons event events ih => exact (sessionRuns_step event).trans ih

theorem wellFormed_run (hstart : machine.Start e) (events : List DialogueEvent) :
    (machine.run e events).session.WellFormed := by
  obtain ⟨sessionEvents, hrun⟩ := sessionRuns_run (e := e) events
  obtain ⟨owner, hostname, device, seatId, isLocal, accounts, rfl⟩ := hstart
  rw [hrun]
  exact GdmSession.run_wellFormed ⟨owner, hostname, device, seatId, isLocal, rfl⟩ sessionEvents

/-! ## Every StartProgram is accepted -/

/-- What holds of a session and its workers when its programs are started in turn. -/
structure InOrder (e : Dialogue) : Prop where
  inv : Inv e
  opened : ∀ id, HasOpened (e.processes id).worker.log →
    .StartProgram ∉ (e.processes id).heard → (e.processes id).worker.StandsOpen
  accountable : ∀ id, (e.processes id).worker.Accountable
  reauth : ∀ id, (e.processes id).worker.isReauthSession =
    decide (e.session.owner.verificationMode = .reauthenticate)

theorem Advances.opened {p : WorkerProcess} (hadvances : e.Advances id p) (h : InOrder e)
    (hopened : HasOpened p.worker.log) (hstart : .StartProgram ∉ p.heard) :
    p.worker.StandsOpen := by
  cases hadvances with
  | stays hworker hheard =>
    rw [hworker] at hopened ⊢
    exact h.opened id hopened (hheard ▸ hstart)
  | @takes call left _ _ request hruns hunread hrequest hworker hheard =>
    obtain ⟨_, hrunning⟩ := runs_iff.mp hruns
    rw [hheard, List.mem_append, not_or] at hstart
    have hreceive : (e.processes id).worker.step (.call request) =
        (e.processes id).worker.receive request := by
      unfold GdmSessionWorker.step
      rw [if_neg (not_not.mpr hrunning)]
    rw [hworker, hreceive] at hopened ⊢
    refine GdmSessionWorker.standsOpen_receive ((h.inv.inTurn id).gated.requests hrunning) hrunning
      (fun hold => h.opened id hold hstart.1) ?_ hopened
    intro hmethod
    refine hstart.2 ?_
    cases call with
    | StartProgram =>
      cases hrequest
      exact List.mem_singleton_self _
    | _ => cases hrequest <;> cases hmethod
  | acts hruns hcall hworker hheard =>
    obtain ⟨_, hrunning⟩ := runs_iff.mp hruns
    rw [hworker] at hopened ⊢
    exact GdmSessionWorker.standsOpen_utters hrunning
      (fun hold => h.opened id hold (hheard ▸ hstart))
      (GdmSessionWorker.step_utters (h.inv.inTurn id).gated hcall) hopened

theorem mem_plainCalls {call : WorkerCall} {log : List SessionEffect}
    (h : call ∈ plainCalls id log) : .called id call ∈ log := by
  obtain ⟨hcall, _⟩ := List.mem_filter.mp h
  obtain ⟨effect, heffect, hcalled⟩ := List.mem_filterMap.mp hcall
  cases effect with
  | called i other =>
    dsimp only at hcalled
    split at hcalled
    · rename_i hi
      rw [← hi, ← Option.some.inj hcalled]
      exact heffect
    · cases hcalled
  | _ => cases hcalled

/-- A program is asked for at most once. -/
theorem count_start_le (id : Nat) {log : List SessionEffect}
    (h : History.Justified StartedInTurn log) :
    (plainCalls id log).count .StartProgram ≤ 1 := by
  induction log using List.reverseRecOn with
  | nil => exact Nat.zero_le 1
  | append_singleton log effect ih =>
    obtain ⟨hlog, heffect⟩ := History.justified_concat.mp h
    rw [plainCalls_append, List.count_append]
    by_cases hstart : effect = .called id .StartProgram
    · subst hstart
      have hnone : (plainCalls id log).count .StartProgram = 0 :=
        List.count_eq_zero.mpr fun hmem => (heffect id rfl).2 _ (mem_plainCalls hmem) rfl
      have hone : plainCalls id [.called id .StartProgram] = [.StartProgram] := by
        simp [plainCalls, calledTo, WorkerCall.method?]
      rw [hnone, hone]
      exact Nat.le_refl 1
    · have hnone : (plainCalls id [effect]).count .StartProgram = 0 :=
        List.count_eq_zero.mpr fun hmem =>
          hstart (List.mem_singleton.mp (mem_plainCalls hmem)).symm
      rw [hnone]
      exact ih hlog

/-- The reply that a word stands for. -/
theorem completed_of_word {effect : Effect} {method : Method} {reply : Reply}
    (h : effect.word = some (.reply method reply)) :
    ∃ invocation, effect = .completed (some invocation) reply ∧ invocation.method = method := by
  cases effect with
  | completed invocation r =>
    cases invocation with
    | none => cases h
    | some invocation =>
      cases h
      exact ⟨invocation, rfl, rfl⟩
  | _ => cases h

/-- A reply that the session has dispatched is in the history of the worker. -/
theorem Inv.replied (h : Inv e) {message : WorkerMessage} (method : Method) (reply : Reply)
    (hword : message.word = some (.reply method reply))
    (hdelivered : .delivered id message ∈ e.session.log) :
    ∃ invocation, .completed (some invocation) reply ∈ (e.processes id).worker.log ∧
      invocation.method = method := by
  have hmessage : message ∈ deliveredTo id e.session.log :=
    List.mem_filterMap.mpr ⟨_, hdelivered, by simp [SessionEffect.dispatches]⟩
  have hheard : .reply method reply ∈ heardWords (deliveredTo id e.session.log) :=
    List.mem_filterMap.mpr ⟨message, hmessage, hword⟩
  obtain ⟨effect, heffect, hsaid⟩ :=
    List.mem_filterMap.mp ((h.inTurn id).words.subset hheard)
  obtain ⟨invocation, rfl, hmethod⟩ := completed_of_word hsaid
  exact ⟨invocation, heffect, hmethod⟩

/-- The history of the session sees to it that the worker is as StartProgram needs it. -/
theorem InOrder.acceptsStart (h : InOrder e)
    (hjustified : History.Justified StartedInTurn e.session.log) : e.AcceptsStart id := by
  intro hruns hhead
  obtain ⟨_, hrunning⟩ := runs_iff.mp hruns
  obtain ⟨after, hafter⟩ := (h.inv.inTurn id).heard
  have hcalls : plainCalls id e.session.log =
      (e.processes id).heard ++ .StartProgram :: after.tail := by
    rw [unread, ← hafter, List.drop_left] at hhead
    obtain ⟨rest, hrest⟩ := List.head?_eq_some_iff.mp hhead
    rw [← hafter, hrest, List.tail_cons]
  have hunheard : .StartProgram ∉ (e.processes id).heard := by
    intro hmem
    have hcount := count_start_le id hjustified
    rw [hcalls, List.count_append, List.count_cons_self] at hcount
    have hpos := List.count_pos_iff.mpr hmem
    omega
  have hcalled : .called id .StartProgram ∈ e.session.log := by
    refine mem_plainCalls ?_
    rw [hcalls]
    simp
  obtain ⟨before, rest, hlog⟩ := List.append_of_mem hcalled
  obtain ⟨⟨effect, heffect, hreports⟩, _⟩ := hjustified before _ rest hlog id rfl
  have hopened : HasOpened (e.processes id).worker.log := by
    have hmem : effect ∈ e.session.log := by
      rw [hlog]
      exact List.mem_append_left _ heffect
    unfold SessionEffect.reportsOpen at hreports
    split at hreports
    · rename_i i sessionId
      obtain rfl : i = id := Option.some.inj hreports
      obtain ⟨invocation, hreplied, _⟩ := h.inv.replied .Open (.Open sessionId) rfl hmem
      exact ⟨invocation, sessionId, hreplied⟩
    · cases hreports
  exact (h.opened id hopened hunheard).accepts hrunning

theorem InOrder.startsInTurn (h : InOrder e)
    (hjustified : History.Justified StartedInTurn e.session.log) (event : DialogueEvent) :
    e.StartsInTurn event := by
  cases event with
  | receive id seat0HasVts argv => exact h.acceptsStart hjustified
  | _ => trivial

theorem Advances.accountable {p : WorkerProcess} (hadvances : e.Advances id p) (h : InOrder e)
    (hjustified : History.Justified StartedInTurn e.session.log) :
    p.worker.Accountable ∧ p.worker.isReauthSession = (e.processes id).worker.isReauthSession := by
  have hstep : ∀ {event : WorkerEvent}, (e.processes id).worker.StartProgramAccepted event →
      ((e.processes id).worker.step event).Accountable ∧
        ((e.processes id).worker.step event).isReauthSession =
          (e.processes id).worker.isReauthSession := fun haccepted =>
    ⟨(h.accountable id).step haccepted,
      GdmSessionWorker.isReauthSession_step (h.inv.inTurn id).gated.sound _⟩
  cases hadvances with
  | stays hworker _ =>
    rw [hworker]
    exact ⟨h.accountable id, rfl⟩
  | @takes call _ _ _ request hruns hunread hrequest hworker _ =>
    rw [hworker]
    refine hstep ?_
    cases call with
    | StartProgram =>
      cases hrequest
      exact fun _ => h.acceptsStart hjustified hruns (by rw [hunread]; rfl)
    | StartReauthentication pid uid => cases hrequest
    | _ =>
      cases hrequest
      trivial
  | @acts event _ hcall hworker _ =>
    rw [hworker]
    refine hstep ?_
    cases event with
    | call request => cases hcall
    | _ => trivial

theorem SessionRuns.owner {s s' : GdmSession} (h : SessionRuns s s') (hs : s.WellFormed) :
    s'.owner = s.owner := by
  obtain ⟨events, rfl⟩ := h
  refine (EventMachine.run_invariant (fun t : GdmSession => t.WellFormed ∧ t.owner = s.owner) ?_
    events ⟨hs, rfl⟩).2
  rintro t event ⟨ht, howner⟩
  exact ⟨GdmSession.step_wellFormed ht event, (GdmSession.step_owner ht event).trans howner⟩

theorem InOrder.step (h : InOrder e)
    (hjustified : History.Justified StartedInTurn e.session.log) (event : DialogueEvent) :
    InOrder (e.step event) where
  inv := inv_step h.inv (h.startsInTurn hjustified event)
  opened id := (step_advances event id).opened h
  accountable id := ((step_advances event id).accountable h hjustified).1
  reauth id := by
    rw [((step_advances event id).accountable h hjustified).2,
      (sessionRuns_step event).owner h.inv.wellFormed]
    exact h.reauth id

theorem inOrder_new (owner : Owner) (hostname device seatId : Option String) (isLocal : Bool)
    (accounts : Nat → String → Option Account) :
    InOrder (new owner hostname device seatId isLocal accounts) where
  inv := inv_new owner hostname device seatId isLocal accounts
  opened id := by
    rintro ⟨invocation, sessionId, hmem⟩
    cases hmem
  accountable id := GdmSessionWorker.accountable_new _ _
  reauth id := rfl

/-- A run whose programs are started in turn. -/
theorem inOrder_run {events : List DialogueEvent} (hstart : machine.Start e)
    (hjustified : History.Justified StartedInTurn (machine.run e events).session.log) :
    machine.Meets StartsInTurn e events ∧ InOrder (machine.run e events) := by
  induction events using List.reverseRecOn with
  | nil =>
    obtain ⟨owner, hostname, device, seatId, isLocal, accounts, rfl⟩ := hstart
    exact ⟨trivial, inOrder_new owner hostname device seatId isLocal accounts⟩
  | append_singleton events event ih =>
    have hlater : History.Justified StartedInTurn
        ((machine.run e events).step event).session.log := by
      rw [EventMachine.run_concat] at hjustified
      exact hjustified
    obtain ⟨new, hlog⟩ := (sessionRuns_step event).log_extends (wellFormed_run hstart events)
    rw [← hlog] at hlater
    have hbefore := hlater.of_append
    obtain ⟨hmeets, hinOrder⟩ := ih hbefore
    rw [EventMachine.meets_append, EventMachine.run_concat]
    exact ⟨⟨hmeets, hinOrder.startsInTurn hbefore event, trivial⟩,
      hinOrder.step hbefore event⟩

end Dialogue

end Gdm
