import Gdm.Wrapper.Lifecycle

/-!
# What the programs around a session end with

The status that `main` returns is that of the call that it has given up at, or that of the
session, if the main loop has seen the session exit.  Once the loop is left, `main` returns as
soon as the processes that it keeps have ended.
-/

namespace Gdm

namespace WrapperProcess

variable {program : WrapperProgram} {config : WrapperConfig} {self : WrapperProcess}

/-- The status that is taken over from a session. -/
def reported : Option ProcessEnding → Nat
  | some (.exited status) => status
  | _ => exOk

/-- What `main` is to return: that it has given up comes first. -/
def verdict (failed : Option StartCall) (seen : Option ProcessEnding) : Nat :=
  match failed with
  | some call => call.failureStatus.getD exOk
  | none => reported seen

/-- What is known of the session where `main` is. -/
def SessionAtStage (wrapper : WrapperProcess) : MainStage → Prop
  | .starting calls =>
    wrapper.failed = none ∧ wrapper.seen = none ∧
      (.spawnSession ∉ calls → wrapper.held .session = true)
  | .looping =>
    wrapper.failed = none ∧ (wrapper.held .session = true ↔ wrapper.seen = none) ∧
      (wrapper.watched .session = true → wrapper.seen = none)
  | .waiting _ | .returned =>
    wrapper.exitStatus = verdict wrapper.failed wrapper.seen ∧
      (wrapper.failed = none → ∃ process, wrapper.processes .session = some process)

structure Reporting (wrapper : WrapperProcess) : Prop where
  status : wrapper.sessionExitStatus = reported wrapper.seen
  seen : ∀ ending, wrapper.seen = some ending →
    ∃ process, wrapper.processes .session = some process ∧ process.ending = some ending
  stage : wrapper.SessionAtStage wrapper.stage

theorem reporting_init : (init program).Reporting := by
  refine ⟨rfl, fun ending hseen => ?_, rfl, rfl, fun hnotMem => ?_⟩
  · cases hseen
  · have hmem : StartCall.spawnSession ∈ program.startCalls := by
      match program with
      | .gdmXSession => decide
      | .gdmWaylandSession true => decide
      | .gdmWaylandSession false => decide
    exact absurd hmem hnotMem

/-! ## The start -/

theorem spawnSession_held (started : Bool)
    (hret : (self.spawnSession program config started).2 = true) :
    (self.spawnSession program config started).1.held .session = true := by
  unfold WrapperProcess.spawnSession at hret ⊢
  split at hret
  · cases hret
  · split at hret
    · rename_i hstarted
      rw [if_pos hstarted]
      simp [keep]
    · cases hret

/-- The session is held once its call has succeeded. -/
theorem perform_session (program : WrapperProgram) (config : WrapperConfig) (self : WrapperProcess)
    (result : StartResult) (hheld : self.held .session = true ∨ result.call = .spawnSession)
    (hret : (self.perform program config result).2 = true ∨ result.call.failureStatus = none) :
    (self.perform program config result).1.held .session = true := by
  have hspawns := perform_spawns program config self result
  by_cases hcall : result.call = .spawnSession
  · cases result with
    | spawnSession started =>
      rcases hret with htrue | hnone
      · exact spawnSession_held started htrue
      · cases hnone
    | _ => cases hcall
  · have hkept : self.held .session = true := hheld.resolve_right hcall
    generalize self.perform program config result = performed at hspawns
    cases hspawns with
    | nothing hprocesses hsame =>
      rw [hsame]
      exact hkept
    | kept hrole hprocesses hsame =>
      rw [hsame]
      simp [Function.update_apply, hkept]
    | silent hrole hreads hprocesses hsame =>
      rw [hsame]
      exact hkept

/-- With the call that has been made, what is known of the session before `main` looks at what
it has returned. -/
structure SessionCalled (call : StartCall) (rest : List StartCall) (wrapper : WrapperProcess)
    (ret : Bool) : Prop where
  status : wrapper.sessionExitStatus = exOk
  failed : wrapper.failed = none
  seen : wrapper.seen = none
  held : ret = true ∨ call.failureStatus = none → .spawnSession ∉ rest →
    wrapper.held .session = true

theorem SessionCalled.goOn {call : StartCall} {rest : List StartCall} {ret : Bool}
    (h : SessionCalled call rest self ret) (hret : ret = true ∨ call.failureStatus = none) :
    (self.goOn rest).Reporting := by
  have hstatus : self.sessionExitStatus = reported self.seen := by
    rw [h.status, h.seen]
    rfl
  have hseen : ∀ ending, self.seen = some ending →
      ∃ process, self.processes .session = some process ∧ process.ending = some ending := by
    intro ending hsome
    rw [h.seen] at hsome
    cases hsome
  unfold WrapperProcess.goOn
  split
  · rename_i hrest
    subst hrest
    exact ⟨hstatus, hseen, h.failed, ⟨fun _ => h.seen, fun _ => h.held hret (by simp)⟩,
      fun _ => h.seen⟩
  · exact ⟨hstatus, hseen, h.failed, h.seen, h.held hret⟩

theorem SessionCalled.proceed {call : StartCall} {rest : List StartCall} {ret : Bool}
    (h : SessionCalled call rest self ret) : (proceed call rest (self, ret)).Reporting := by
  cases ret with
  | true => exact h.goOn (.inl rfl)
  | false =>
    simp only [WrapperProcess.proceed]
    split
    · rename_i hstatus
      exact h.goOn (.inr hstatus)
    · rename_i status hstatus
      obtain ⟨-, hcontrol⟩ := @signalSubprocesses_same self
      refine ⟨?_, ?_, ?_, ?_⟩
      · calc self.signalSubprocesses.sessionExitStatus = exOk :=
            hcontrol.sessionExitStatus.trans h.status
          _ = reported self.signalSubprocesses.seen := by rw [hcontrol.seen, h.seen]; rfl
      · intro ending hseen
        have hnone : self.signalSubprocesses.seen = none := hcontrol.seen.trans h.seen
        cases hnone.symm.trans hseen
      · exact (congrArg (fun status => Option.getD status exOk) hstatus).symm
      · intro hfailed
        cases hfailed

/-! ## The loop -/

structure SessionLooping (wrapper : WrapperProcess) : Prop where
  status : wrapper.sessionExitStatus = reported wrapper.seen
  seen : ∀ ending, wrapper.seen = some ending →
    ∃ process, wrapper.processes .session = some process ∧ process.ending = some ending
  failed : wrapper.failed = none
  held : wrapper.held .session = true ↔ wrapper.seen = none
  watched : wrapper.watched .session = true → wrapper.seen = none
  started : ∃ process, wrapper.processes .session = some process

theorem SessionLooping.onFinished {role : SubprocessRole} (hrole : role ≠ .session)
    (h : SessionLooping self) : SessionLooping (self.onFinished role fun self _ => self) := by
  unfold WrapperProcess.onFinished
  split
  · split
    · refine ⟨h.status, h.seen, h.failed, h.held, ?_, h.started⟩
      simp only [Function.update_of_ne hrole.symm]
      exact h.watched
    · split
      · exact h
      · refine ⟨h.status, h.seen, h.failed, ?_, ?_, h.started⟩
        · simp only [Function.update_of_ne hrole.symm]
          exact h.held
        · simp only [Function.update_of_ne hrole.symm]
          exact h.watched
  · exact h

theorem SessionLooping.onSessionFinished (h : SessionLooping self) :
    SessionLooping self.onSessionFinished := by
  unfold WrapperProcess.onSessionFinished WrapperProcess.onFinished
  split
  · rename_i hwatched
    have hnone := h.watched hwatched
    split
    · exact ⟨h.status, h.seen, h.failed, h.held, by simp, h.started⟩
    · split
      · exact h
      · rename_i ending hending
        obtain ⟨process, hprocess, hended⟩ := Option.bind_eq_some_iff.mp hending
        have hok : self.sessionExitStatus = exOk := by
          rw [h.status, hnone]
          rfl
        cases ending with
        | exited status =>
          exact ⟨rfl, fun ending hseen => ⟨process, hprocess, hended.trans hseen⟩, h.failed,
            by simp, by simp, h.started⟩
        | killed signal =>
          -- the status stays as it was, and it has not been set before
          exact ⟨hok, fun ending hseen => ⟨process, hprocess, hended.trans hseen⟩, h.failed,
            by simp, by simp, h.started⟩
  · exact h

theorem SessionLooping.dispatch (h : SessionLooping self) (callback : MainCallback) :
    SessionLooping (self.dispatch callback) := by
  cases callback with
  | onXServerFinished => exact h.onFinished (by decide)
  | onBusFinished => exact h.onFinished (by decide)
  | onSessionFinished => exact h.onSessionFinished
  | onSigterm => exact ⟨h.status, h.seen, h.failed, h.held, h.watched, h.started⟩
  | registerDisplayTimeoutCb =>
    simp only [WrapperProcess.dispatch, registerDisplayTimeoutCb]
    split
    · exact ⟨h.status, h.seen, h.failed, h.held, h.watched, h.started⟩
    · exact h

theorem SessionLooping.foldl_dispatch (h : SessionLooping self) (callbacks : List MainCallback) :
    SessionLooping (callbacks.foldl WrapperProcess.dispatch self) ∧
      (callbacks.foldl WrapperProcess.dispatch self).stage = self.stage := by
  induction callbacks generalizing self with
  | nil => exact ⟨h, rfl⟩
  | cons callback callbacks ih =>
    obtain ⟨hlooping, hstage⟩ := ih (h.dispatch callback)
    exact ⟨hlooping, hstage.trans (dispatch_stage callback)⟩

/-- The signals leave what is known of the session. -/
theorem signalSubprocesses_session {process : Subprocess}
    (h : self.processes .session = some process) :
    ∃ process', self.signalSubprocesses.processes .session = some process' ∧
      process'.ending = process.ending := by
  rw [signalSubprocesses_processes]
  split
  · exact ⟨process.sendSigterm, by rw [h]; rfl, process.sendSigterm_ending⟩
  · exact ⟨process, h, rfl⟩

theorem SessionLooping.leave (h : SessionLooping self) :
    (self.leave (if self.held .session then exOk else self.sessionExitStatus)).Reporting := by
  obtain ⟨-, hcontrol⟩ := @signalSubprocesses_same self
  refine ⟨?_, ?_, ?_, ?_⟩
  · calc self.signalSubprocesses.sessionExitStatus = reported self.seen :=
          hcontrol.sessionExitStatus.trans h.status
      _ = reported self.signalSubprocesses.seen := by rw [hcontrol.seen]
  · intro ending hseen
    obtain ⟨process, hprocess, hended⟩ := h.seen ending (hcontrol.seen.symm.trans hseen)
    obtain ⟨process', hprocess', hsame⟩ := signalSubprocesses_session hprocess
    exact ⟨process', hprocess', hsame.trans hended⟩
  · have hverdict : verdict self.signalSubprocesses.failed self.signalSubprocesses.seen =
        reported self.seen := by
      rw [hcontrol.failed, hcontrol.seen, h.failed]
      rfl
    refine Eq.trans ?_ hverdict.symm
    by_cases hheld : self.held .session = true
    · exact (if_pos hheld).trans (by rw [h.held.mp hheld]; rfl)
    · exact (if_neg hheld).trans h.status
  · intro hfailed
    obtain ⟨process, hprocess⟩ := h.started
    obtain ⟨process', hprocess', -⟩ := signalSubprocesses_session hprocess
    exact ⟨process', hprocess'⟩

theorem SessionLooping.iterate (h : SessionLooping self) (hstage : self.stage = .looping)
    (callbacks : List MainCallback) : (self.iterate callbacks).Reporting := by
  obtain ⟨hnext, hsame⟩ := h.foldl_dispatch callbacks
  unfold WrapperProcess.iterate
  dsimp only
  split
  · refine ⟨hnext.status, hnext.seen, ?_⟩
    rw [hsame, hstage]
    exact ⟨hnext.failed, hnext.held, hnext.watched⟩
  · exact hnext.leave

/-! ## Every run -/

theorem Reporting.waitOnSubprocess (h : self.Reporting) : self.waitOnSubprocess.Reporting := by
  have hmoves : ∀ (roles : List SubprocessRole), self.stage = .waiting roles →
      self.exitStatus = verdict self.failed self.seen ∧
        (self.failed = none → ∃ process, self.processes .session = some process) := by
    intro roles hstage
    have hself := h.stage
    rw [hstage] at hself
    exact hself
  unfold WrapperProcess.waitOnSubprocess
  split
  · rename_i hstage
    exact ⟨h.status, h.seen, hmoves _ hstage⟩
  · rename_i role roles hstage
    split
    · split
      · exact h
      · split
        · exact ⟨h.status, h.seen, hmoves _ hstage⟩
        · exact h
    · exact ⟨h.status, h.seen, hmoves _ hstage⟩
  · exact h

theorem Reporting.ends (h : self.Reporting) (role : SubprocessRole) (ending : ProcessEnding) :
    Reporting { self with
      processes := Function.update self.processes role
        ((self.processes role).map fun process => process.finish ending) } := by
  have hlater : ∀ process, self.processes .session = some process →
      ∃ process', Function.update self.processes role
          ((self.processes role).map fun process => process.finish ending) .session =
            some process' ∧
        ∀ ended, process.ending = some ended → process'.ending = some ended := by
    intro process hprocess
    by_cases hsame : SubprocessRole.session = role
    · subst hsame
      refine ⟨process.finish ending, by rw [Function.update_self, hprocess]; rfl, ?_⟩
      intro ended hended
      rw [Subprocess.finish_ending, hended]
      rfl
    · exact ⟨process, by rw [Function.update_of_ne hsame, hprocess], fun ended hended => hended⟩
  have hstarted : (∃ process, self.processes .session = some process) →
      ∃ process, Function.update self.processes role
        ((self.processes role).map fun process => process.finish ending) .session =
          some process := by
    rintro ⟨process, hprocess⟩
    obtain ⟨process', hprocess', -⟩ := hlater process hprocess
    exact ⟨process', hprocess'⟩
  refine ⟨h.status, ?_, ?_⟩
  · intro ended hseen
    obtain ⟨process, hprocess, hended⟩ := h.seen ended hseen
    obtain ⟨process', hprocess', hkept⟩ := hlater process hprocess
    exact ⟨process', hprocess', hkept ended hended⟩
  · have hself := h.stage
    show SessionAtStage _ self.stage
    cases hcase : self.stage with
    | starting calls =>
      rw [hcase] at hself
      exact hself
    | looping =>
      rw [hcase] at hself
      exact hself
    | waiting roles =>
      rw [hcase] at hself
      exact ⟨hself.1, fun hfailed => hstarted (hself.2 hfailed)⟩
    | returned =>
      rw [hcase] at hself
      exact ⟨hself.1, fun hfailed => hstarted (hself.2 hfailed)⟩

theorem Reporting.step (h : self.Reporting) (hinv : Inv program self) (event : WrapperEvent) :
    (self.step program config event).Reporting := by
  cases event with
  | ends role ending => exact h.ends role ending
  | call result =>
    simp only [WrapperProcess.step]
    split
    · rename_i call rest hstage
      split
      · rename_i hcall
        have hself := h.stage
        rw [hstage] at hself
        obtain ⟨hfailed, hseen, hheld⟩ := hself
        have hcontrol := @perform_sameControl program config self result
        have hcalled : SessionCalled call rest (self.perform program config result).1
            (self.perform program config result).2 := by
          refine ⟨?_, hcontrol.failed.trans hfailed, hcontrol.seen.trans hseen, ?_⟩
          · rw [hcontrol.sessionExitStatus, h.status, hseen]
            rfl
          · intro hret hnotMem
            subst hcall
            apply perform_session program config self result _ hret
            by_cases hcall : result.call = .spawnSession
            · exact .inr hcall
            · exact .inl (hheld (by simp [Ne.symm hcall, hnotMem]))
        exact hcalled.proceed
      · exact h
    · exact h
  | iterate callbacks =>
    simp only [WrapperProcess.step]
    split
    · rename_i hstage
      have hself := h.stage
      rw [hstage] at hself
      obtain ⟨hfailed, hheld, hwatched⟩ := hself
      have hstarted : ∃ process, self.processes .session = some process := by
        cases hseen : self.seen with
        | none => exact hinv.tracked.started .session (hheld.mpr hseen)
        | some ending =>
          obtain ⟨process, hprocess, -⟩ := h.seen ending hseen
          exact ⟨process, hprocess⟩
      exact SessionLooping.iterate ⟨h.status, h.seen, hfailed, hheld, hwatched, hstarted⟩ hstage
        callbacks
    · exact h
  | wait => exact h.waitOnSubprocess

theorem reporting_run {start : WrapperProcess} (hstart : (machine program config).Start start)
    (events : List WrapperEvent) : ((machine program config).run start events).Reporting := by
  subst hstart
  have hboth := EventMachine.run_invariant (M := machine program config)
    (fun wrapper : WrapperProcess => Inv program wrapper ∧ wrapper.Reporting)
    (fun self event h => ⟨h.1.step event, h.2.step h.1 event⟩) events
    ⟨@inv_init program, @reporting_init program⟩
  exact hboth.2

/-! ## The end -/

/-- `main` has come to its end, and waits at most for the three processes. -/
def Left (wrapper : WrapperProcess) : Prop :=
  wrapper.stage = .returned ∨ ∃ roles, wrapper.stage = .waiting roles ∧ roles.length ≤ 3

theorem Left.waitOnSubprocess (h : Left self) : Left self.waitOnSubprocess := by
  rcases h with hstage | ⟨roles, hstage, hlength⟩
  · unfold WrapperProcess.waitOnSubprocess
    rw [hstage]
    exact .inl hstage
  · unfold WrapperProcess.waitOnSubprocess
    rw [hstage]
    cases roles with
    | nil => exact .inl rfl
    | cons role roles =>
      have hless : roles.length ≤ 3 := Nat.le_of_succ_le hlength
      have hstays : Left self := .inr ⟨role :: roles, hstage, hlength⟩
      dsimp only
      split
      · split
        · exact hstays
        · split
          · exact .inr ⟨roles, rfl, hless⟩
          · exact hstays
      · exact .inr ⟨roles, rfl, hless⟩

theorem Left.step (h : Left self) (event : WrapperEvent) :
    Left (self.step program config event) := by
  cases event with
  | ends role ending => exact h
  | call result =>
    have hsame : self.step program config (.call result) = self := by
      rcases h with hstage | ⟨roles, hstage, -⟩ <;> simp only [WrapperProcess.step, hstage]
    rw [hsame]
    exact h
  | iterate callbacks =>
    have hsame : self.step program config (.iterate callbacks) = self := by
      rcases h with hstage | ⟨roles, hstage, -⟩ <;> simp only [WrapperProcess.step, hstage]
    rw [hsame]
    exact h
  | wait => exact h.waitOnSubprocess

theorem dispatch_loopRunning (callback : MainCallback) (h : self.loopRunning = false) :
    (self.dispatch callback).loopRunning = false := by
  have hfinished : ∀ (role : SubprocessRole)
      (noted : WrapperProcess → ProcessEnding → WrapperProcess),
        (self.onFinished role noted).loopRunning = false := by
    intro role noted
    unfold WrapperProcess.onFinished
    split
    · split
      · rfl
      · split
        · exact h
        · rfl
    · exact h
  cases callback with
  | onXServerFinished => exact hfinished _ _
  | onBusFinished => exact hfinished _ _
  | onSessionFinished => exact hfinished _ _
  | onSigterm => rfl
  | registerDisplayTimeoutCb =>
    simp only [WrapperProcess.dispatch, registerDisplayTimeoutCb]
    split <;> exact h

/-- A program that is told to end leaves its loop when it has gone round. -/
theorem iterate_left {callbacks : List MainCallback} (h : .onSigterm ∈ callbacks) :
    Left (self.iterate callbacks) := by
  have hstays : ∀ (callbacks : List MainCallback) (self : WrapperProcess),
      self.loopRunning = false →
        (callbacks.foldl WrapperProcess.dispatch self).loopRunning = false := by
    intro callbacks
    induction callbacks with
    | nil => exact fun self h => h
    | cons callback callbacks ih => exact fun self h => ih _ (dispatch_loopRunning callback h)
  have hquit : (callbacks.foldl WrapperProcess.dispatch self).loopRunning = false := by
    obtain ⟨before, after, rfl⟩ := List.append_of_mem h
    rw [List.foldl_append, List.foldl_cons]
    exact hstays after _ rfl
  unfold WrapperProcess.iterate
  dsimp only
  rw [if_neg (by rw [hquit]; simp)]
  exact .inr ⟨[.xServer, .bus, .session], rfl, Nat.le_refl 3⟩

/-- With every process ended, one wait is enough for each that is waited for, and one to return;
those that are left do nothing. -/
theorem run_waits (waits : Nat) (hleft : Left self)
    (hwaits : ∀ roles, self.stage = .waiting roles → roles.length < waits)
    (hended : ∀ role process, self.processes role = some process → process.ending.isSome)
    (hstarted : ∀ role, self.held role = true → ∃ process, self.processes role = some process) :
    ((machine program config).run self (List.replicate waits .wait)).stage = .returned := by
  induction waits generalizing self with
  | zero =>
    rcases hleft with hstage | ⟨roles, hstage, -⟩
    · exact hstage
    · exact absurd (hwaits roles hstage) (Nat.not_lt_zero _)
  | succ waits ih =>
    rw [List.replicate_succ, EventMachine.run_cons]
    have hstep : (machine program config).step self .wait = self.waitOnSubprocess := rfl
    rw [hstep]
    rcases hleft with hstage | ⟨roles, hstage, hlength⟩
    · have hnext : self.waitOnSubprocess = self := by
        simp only [WrapperProcess.waitOnSubprocess, hstage]
      rw [hnext]
      exact ih (.inl hstage) (fun roles hwaiting => by rw [hstage] at hwaiting; cases hwaiting)
        hended hstarted
    · cases roles with
      | nil =>
        have hnext : self.waitOnSubprocess = self.clearState := by
          simp only [WrapperProcess.waitOnSubprocess, hstage]
        rw [hnext]
        refine @ih self.clearState (.inl rfl) (fun roles hwaiting => ?_) hended ?_
        · have hreturned : self.clearState.stage = .returned := rfl
          rw [hreturned] at hwaiting
          cases hwaiting
        intro role hheld
        cases role with
        | bus => exact hstarted .bus hheld
        | xServer => cases hheld
        | session => cases hheld
      | cons role roles =>
        have hnext : self.waitOnSubprocess = { self with stage := .waiting roles } := by
          simp only [WrapperProcess.waitOnSubprocess, hstage]
          split
          · rename_i hheld
            obtain ⟨process, hprocess⟩ := hstarted role hheld
            simp [hprocess, hended role process hprocess]
          · rfl
        have hless := hwaits (role :: roles) hstage
        rw [List.length_cons] at hless hlength
        rw [hnext]
        refine @ih { self with stage := .waiting roles } (.inr ⟨roles, rfl, by omega⟩) ?_ hended
          hstarted
        · intro roles' hwaiting
          obtain rfl := MainStage.waiting.inj hwaiting
          omega

/-! ## Main results -/

/-- What the program owes to the system: no process is waited for before all have been told to
end, and when `main` returns nothing is left but an X server or a bus that has written no line.
That one has not been told to end. -/
structure LeavesNothing (wrapper : WrapperProcess) : Prop where
  told : ∀ roles, wrapper.stage = .waiting roles → ∀ role process, wrapper.held role = true →
    wrapper.processes role = some process → process.ending.isSome ∨ process.terminated = true
  ended : wrapper.stage = .returned → ∀ role process, wrapper.processes role = some process →
    process.ending.isSome ∨
      role ≠ .session ∧ process.line = none ∧ process.terminated = false ∧
        wrapper.failed = some role.startCall ∧ wrapper.exitStatus = exSoftware

/-- In every run, either program ends the processes that it has started, but for an X server or a
bus that has written no line. -/
theorem run_leavesNothing (program : WrapperProgram) (config : WrapperConfig)
    (events : List WrapperEvent) :
    LeavesNothing ((machine program config).run (init program) events) := by
  have hinv := @inv_run program config (init program) rfl events
  have hreporting := @reporting_run program config (init program) rfl events
  generalize (machine program config).run (init program) events = wrapper at hinv hreporting
  have hstage := hinv.stage
  constructor
  · intro roles hwaiting role process hheld hprocess
    rw [hwaiting] at hstage
    exact (hstage role process hheld hprocess).1
  · intro hreturned role process hprocess
    rw [hreturned] at hstage
    have hstatus := hreporting.stage
    rw [hreturned] at hstatus
    refine (hstage role process hprocess).imp_right fun halone => ?_
    refine ⟨halone.reads, halone.line, halone.terminated, halone.failed, hstatus.1.trans ?_⟩
    rw [halone.failed, verdict, role.failureStatus_startCall]
    rfl

/-- What the status of either program says. -/
structure ReportsRight (wrapper : WrapperProcess) : Prop where
  /-- `main` has given up at a call that may not fail, or the session has been started. -/
  status : wrapper.stage = .returned → wrapper.exitStatus = verdict wrapper.failed wrapper.seen
  session : wrapper.stage = .returned → wrapper.failed = none →
    ∃ process, wrapper.processes .session = some process
  /-- What has been seen of the session is how it has ended. -/
  seen : ∀ ending, wrapper.seen = some ending →
    ∃ process, wrapper.processes .session = some process ∧ process.ending = some ending

/-- In every run, the status is that of the call that has failed, or of the session whose exit has
been seen; a session that has been killed, or that has not been seen to end, is a success. -/
theorem run_reportsRight (program : WrapperProgram) (config : WrapperConfig)
    (events : List WrapperEvent) :
    ReportsRight ((machine program config).run (init program) events) := by
  have hreporting := @reporting_run program config (init program) rfl events
  generalize (machine program config).run (init program) events = wrapper at hreporting
  have hstage := hreporting.stage
  refine ⟨?_, ?_, hreporting.seen⟩
  · intro hreturned
    rw [hreturned] at hstage
    exact hstage.1
  · intro hreturned
    rw [hreturned] at hstage
    exact hstage.2

/-- A program that is told to end while it is in its loop returns, whatever happens then, as soon
as its processes have ended and it has had the time to wait for each. -/
theorem run_sigterm_returns {program : WrapperProgram} {config : WrapperConfig}
    {events later : List WrapperEvent} {callbacks : List MainCallback}
    (hloop : ((machine program config).run (init program) events).stage = .looping)
    (hsigterm : .onSigterm ∈ callbacks)
    (hended : ∀ role process,
      ((machine program config).run (init program)
        (events ++ .iterate callbacks :: later)).processes role = some process →
          process.ending.isSome) :
    ((machine program config).run (init program)
      (events ++ .iterate callbacks :: later ++ List.replicate 4 .wait)).stage = .returned := by
  have hinv := @inv_run program config (init program) rfl (events ++ .iterate callbacks :: later)
  rw [EventMachine.run_append]
  have hleft : Left ((machine program config).run (init program)
      (events ++ .iterate callbacks :: later)) := by
    rw [EventMachine.run_append, EventMachine.run_cons]
    apply EventMachine.run_invariant Left (fun self event h => h.step event)
    have hstep : (machine program config).step
        ((machine program config).run (init program) events) (.iterate callbacks) =
          ((machine program config).run (init program) events).iterate callbacks := by
      show ((machine program config).run (init program) events).step program config
        (.iterate callbacks) = _
      simp only [WrapperProcess.step, hloop]
    rw [hstep]
    exact iterate_left hsigterm
  apply run_waits 4 hleft
  · intro roles hwaiting
    rcases hleft with hstage | ⟨roles', hstage, hlength⟩
    · rw [hstage] at hwaiting
      cases hwaiting
    · rw [hstage] at hwaiting
      obtain rfl := MainStage.waiting.inj hwaiting
      omega
  · exact hended
  · exact hinv.tracked.started

theorem xSession_sigterm_returns :
    ((machine .gdmXSession {}).run (init .gdmXSession)
      (xSessionStarts ++ .iterate [.onSigterm] ::
        [.ends .session (.killed 15), .ends .bus (.killed 15), .ends .xServer (.exited 0)] ++
          List.replicate 4 .wait)).stage = .returned := by
  apply run_sigterm_returns
  · decide +kernel
  · exact List.mem_singleton.mpr rfl
  · have hall : ∀ role, (((machine .gdmXSession {}).run (init .gdmXSession)
        (xSessionStarts ++ .iterate [.onSigterm] ::
          [.ends .session (.killed 15), .ends .bus (.killed 15),
            .ends .xServer (.exited 0)])).processes role).all
              (fun process => process.ending.isSome) = true := by
      intro role
      cases role <;> decide +kernel
    intro role process hprocess
    have hone := hall role
    rw [hprocess] at hone
    exact hone

end WrapperProcess

end Gdm
