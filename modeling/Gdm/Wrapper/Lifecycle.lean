import Gdm.Wrapper.Main

/-!
# What the programs around a session leave

Each process that a program has started is one that it keeps, has ended, or is one that it has
started and then does not know, because nothing could be read from it.  The first it ends before
`main` returns, and only the last is left.
-/

namespace Gdm

namespace SubprocessRole

/-- The call that starts the process. -/
def startCall : SubprocessRole → StartCall
  | xServer => .spawnXServer
  | bus => .spawnBus
  | session => .spawnSession

theorem failureStatus_startCall (role : SubprocessRole) :
    role.startCall.failureStatus = some exSoftware := by
  cases role <;> rfl

end SubprocessRole

namespace Subprocess

variable (self : Subprocess)

@[simp] theorem finish_line (ending : ProcessEnding) : (self.finish ending).line = self.line := rfl

@[simp] theorem finish_terminated (ending : ProcessEnding) :
    (self.finish ending).terminated = self.terminated := rfl

@[simp] theorem finish_ending (ending : ProcessEnding) :
    (self.finish ending).ending = some (self.ending.getD ending) := rfl

@[simp] theorem sendSigterm_line : self.sendSigterm.line = self.line := by
  unfold sendSigterm
  split <;> rfl

@[simp] theorem sendSigterm_ending : self.sendSigterm.ending = self.ending := by
  unfold sendSigterm
  split <;> rfl

@[simp] theorem sendSigterm_environment : self.sendSigterm.environment = self.environment := by
  unfold sendSigterm
  split <;> rfl

@[simp] theorem sendSigterm_argv : self.sendSigterm.argv = self.argv := by
  unfold sendSigterm
  split <;> rfl

/-- A process that has been sent the signal has ended, or has it. -/
theorem sendSigterm_told : self.sendSigterm.ending.isSome ∨ self.sendSigterm.terminated = true := by
  unfold sendSigterm
  split
  · rename_i hended
    exact .inl hended
  · exact .inr rfl

end Subprocess

namespace WrapperProcess

variable {program : WrapperProgram} {config : WrapperConfig} {self next : WrapperProcess}

/-! ## One call of `main` -/

/-- What a call does to the processes: nothing, or it starts the one that it is for.  One that
is not kept is no session: nothing could be read from it, and then the call has failed. -/
inductive Spawns (self : WrapperProcess) (call : StartCall) : WrapperProcess × Bool → Prop
  | nothing {next : WrapperProcess} {ret : Bool} (hprocesses : next.processes = self.processes)
      (hheld : next.held = self.held) : Spawns self call (next, ret)
  | kept {next : WrapperProcess} {ret : Bool} {role : SubprocessRole} {process : Subprocess}
      (hrole : role.startCall = call)
      (hprocesses : next.processes = Function.update self.processes role (some process))
      (hheld : next.held = Function.update self.held role true) : Spawns self call (next, ret)
  | silent {next : WrapperProcess} {role : SubprocessRole} {process : Subprocess}
      (hrole : role.startCall = call) (hreads : role ≠ .session)
      (hprocesses : next.processes = Function.update self.processes role (some process))
      (hheld : next.held = self.held) (hline : process.line = none)
      (hterminated : process.terminated = false) : Spawns self call (next, false)

theorem perform_spawns (program : WrapperProgram) (config : WrapperConfig) (self : WrapperProcess)
    (result : StartResult) :
    Spawns self result.call (self.perform program config result) := by
  cases result with
  | takeArguments arguments =>
    cases arguments with
    | nil => exact .nothing rfl rfl
    | cons command rest => cases rest <;> exact .nothing rfl rfl
  | readSettings initialized debug disallowTcp =>
    cases initialized <;> exact .nothing rfl rfl
  | spawnXServer authFile launch =>
    cases launch with
    | noPipe => exact .nothing rfl rfl
    | notStarted => exact .nothing rfl rfl
    | silent => exact @Spawns.silent _ _ _ .xServer _ rfl (by decide) rfl rfl rfl rfl
    | wrote line => exact @Spawns.kept _ _ _ _ .xServer _ rfl rfl rfl
  | spawnBus running launch connected =>
    cases running with
    | true => exact .nothing rfl rfl
    | false =>
      cases launch with
      | noPipe => exact .nothing rfl rfl
      | notStarted => exact .nothing rfl rfl
      | silent => exact @Spawns.silent _ _ _ .bus _ rfl (by decide) rfl rfl rfl rfl
      | wrote line => exact @Spawns.kept _ _ _ _ .bus _ rfl rfl rfl
  | importEnvironment reply => cases reply <;> exact .nothing rfl rfl
  | updateBusEnvironment updated => cases updated <;> exact .nothing rfl rfl
  | connectToDisplayManager connected => exact .nothing rfl rfl
  | spawnSession started =>
    simp only [perform, spawnSession]
    split
    · exact .nothing rfl rfl
    · split
      · exact @Spawns.kept _ _ _ _ .session _ rfl rfl rfl
      · exact .nothing rfl rfl
  | registerSession registered => cases registered <;> exact .nothing rfl rfl

/-- The fields that no call of `main` has a use for. -/
structure SameControl (wrapper next : WrapperProcess) : Prop where
  failed : next.failed = wrapper.failed
  seen : next.seen = wrapper.seen
  sessionExitStatus : next.sessionExitStatus = wrapper.sessionExitStatus

theorem SameControl.refl (self : WrapperProcess) : SameControl self self := ⟨rfl, rfl, rfl⟩

theorem perform_sameControl (result : StartResult) :
    SameControl self (self.perform program config result).1 := by
  cases result with
  | takeArguments arguments =>
    cases arguments with
    | nil => exact .refl self
    | cons command rest => cases rest <;> exact ⟨rfl, rfl, rfl⟩
  | readSettings initialized debug disallowTcp => cases initialized <;> exact ⟨rfl, rfl, rfl⟩
  | spawnXServer authFile launch => cases launch <;> exact ⟨rfl, rfl, rfl⟩
  | spawnBus running launch connected =>
    cases running
    · cases launch <;> exact ⟨rfl, rfl, rfl⟩
    · exact .refl self
  | importEnvironment reply => cases reply <;> exact ⟨rfl, rfl, rfl⟩
  | updateBusEnvironment updated => cases updated <;> exact ⟨rfl, rfl, rfl⟩
  | connectToDisplayManager connected => exact .refl self
  | spawnSession started =>
    simp only [perform, spawnSession]
    split
    · exact .refl self
    · split <;> exact ⟨rfl, rfl, rfl⟩
  | registerSession registered => cases registered <;> exact ⟨rfl, rfl, rfl⟩

/-! ## The processes -/

/-- `main` has given up because nothing was read from the process, which is no session; it does
not have it. -/
structure LeftAlone (wrapper : WrapperProcess) (role : SubprocessRole) (process : Subprocess) :
    Prop where
  reads : role ≠ .session
  failed : wrapper.failed = some role.startCall
  line : process.line = none
  terminated : process.terminated = false

/-- A process that has been started is kept, has ended, or has been left alone. -/
structure Tracked (wrapper : WrapperProcess) : Prop where
  started : ∀ role, wrapper.held role = true → ∃ process, wrapper.processes role = some process
  known : ∀ role process, wrapper.processes role = some process →
    wrapper.held role = true ∨ process.ending.isSome ∨ wrapper.LeftAlone role process

/-- What is known where `main` is. -/
def AtStage (program : WrapperProgram) (self : WrapperProcess) : MainStage → Prop
  | .starting calls =>
    self.failed = none ∧ calls <:+ program.startCalls ∧
      ∀ role, role.startCall ∈ calls → self.processes role = none
  | .looping => self.failed = none
  | .waiting roles =>
    ∀ role process, self.held role = true → self.processes role = some process →
      (process.ending.isSome ∨ process.terminated = true) ∧
        (role ∉ roles → process.ending.isSome)
  | .returned =>
    ∀ role process, self.processes role = some process →
      process.ending.isSome ∨ self.LeftAlone role process

/-- What holds of the program at every time. -/
structure Inv (program : WrapperProgram) (wrapper : WrapperProcess) : Prop where
  tracked : wrapper.Tracked
  stage : AtStage program wrapper wrapper.stage

theorem startCalls_nodup (program : WrapperProgram) : program.startCalls.Nodup := by
  match program with
  | .gdmXSession => decide
  | .gdmWaylandSession true => decide
  | .gdmWaylandSession false => decide

theorem inv_init : Inv program (init program) := by
  constructor
  · constructor
    · intro role hheld
      cases hheld
    · intro role process hprocess
      cases hprocess
  · exact ⟨rfl, List.suffix_refl _, fun role _ => rfl⟩

/-! ## The signals -/

/-- What `signal_subprocesses` does: each process that is kept is sent the signal. -/
theorem signalSubprocesses_processes (role : SubprocessRole) :
    self.signalSubprocesses.processes role =
      if self.held role then (self.processes role).map Subprocess.sendSigterm
      else self.processes role := by
  have hheld : ∀ (self : WrapperProcess) (role : SubprocessRole),
      (self.signalSubprocess role).held = self.held := by
    intro self role
    unfold signalSubprocess
    split <;> rfl
  have hone : ∀ (self : WrapperProcess) (role role' : SubprocessRole),
      (self.signalSubprocess role).processes role' =
        if role' = role ∧ self.held role then (self.processes role').map Subprocess.sendSigterm
        else self.processes role' := by
    intro self role role'
    unfold signalSubprocess
    split
    · rename_i hkept
      by_cases hsame : role' = role
      · subst hsame
        simp [hkept]
      · simp [hsame]
    · rename_i hkept
      simp [hkept]
  simp only [signalSubprocesses, hone, hheld]
  cases role <;> simp

theorem signalSubprocesses_same :
    self.signalSubprocesses.held = self.held ∧ SameControl self self.signalSubprocesses := by
  have hone : ∀ (self : WrapperProcess) (role : SubprocessRole),
      (self.signalSubprocess role).held = self.held ∧
        SameControl self (self.signalSubprocess role) := by
    intro self role
    unfold signalSubprocess
    split
    · exact ⟨rfl, rfl, rfl, rfl⟩
    · exact ⟨rfl, .refl self⟩
  obtain ⟨h1, c1⟩ := hone self .session
  obtain ⟨h2, c2⟩ := hone (self.signalSubprocess .session) .bus
  obtain ⟨h3, c3⟩ := hone ((self.signalSubprocess .session).signalSubprocess .bus) .xServer
  exact ⟨h3.trans (h2.trans h1), c3.failed.trans (c2.failed.trans c1.failed),
    c3.seen.trans (c2.seen.trans c1.seen),
    c3.sessionExitStatus.trans (c2.sessionExitStatus.trans c1.sessionExitStatus)⟩

/-- What `main` leaves for `wrapper`, after the signals, is as it has to be where it waits. -/
theorem inv_of_leave {wrapper : WrapperProcess} (hheld : wrapper.held = self.held)
    (hprocesses : wrapper.processes = self.signalSubprocesses.processes)
    (hstage : wrapper.stage = .waiting [.xServer, .bus, .session])
    (hstarted : ∀ role, self.held role = true → ∃ process, self.processes role = some process)
    (hknown : ∀ role process, self.processes role = some process →
      self.held role = true ∨ process.ending.isSome ∨ wrapper.LeftAlone role process) :
    Inv program wrapper := by
  have hsignalled : ∀ role, wrapper.processes role =
      if self.held role then (self.processes role).map Subprocess.sendSigterm
      else self.processes role := by
    intro role
    rw [hprocesses, signalSubprocesses_processes]
  refine ⟨⟨?_, ?_⟩, ?_⟩
  · intro role hkept
    rw [hheld] at hkept
    obtain ⟨process, hprocess⟩ := hstarted role hkept
    exact ⟨process.sendSigterm, by rw [hsignalled, if_pos hkept, hprocess]; rfl⟩
  · intro role process hprocess
    rw [hheld]
    by_cases hkept : self.held role = true
    · exact .inl hkept
    · rw [hsignalled, if_neg hkept] at hprocess
      exact hknown role process hprocess
  · rw [hstage]
    intro role process hkept hprocess
    rw [hheld] at hkept
    rw [hsignalled, if_pos hkept] at hprocess
    obtain ⟨running, -, rfl⟩ := Option.map_eq_some_iff.mp hprocess
    refine ⟨running.sendSigterm_told, fun hrole => ?_⟩
    cases role <;> simp at hrole

/-! ## The start -/

/-- What is known after a call has returned, and before `main` has looked at what. -/
structure Called (call : StartCall) (rest : List StartCall) (wrapper : WrapperProcess)
    (ret : Bool) : Prop where
  failed : wrapper.failed = none
  started : ∀ role, wrapper.held role = true → ∃ process, wrapper.processes role = some process
  known : ∀ role process, wrapper.processes role = some process →
    wrapper.held role = true ∨ process.ending.isSome ∨
      ret = false ∧ role.startCall = call ∧ role ≠ .session ∧ process.line = none ∧
        process.terminated = false
  fresh : ∀ role, role.startCall ∈ rest → wrapper.processes role = none

theorem Spawns.called {call : StartCall} {rest : List StartCall} {ret : Bool}
    (h : Spawns self call (next, ret)) (htracked : self.Tracked) (hfailed : next.failed = none)
    (hself : self.failed = none) (hnodup : (call :: rest).Nodup)
    (hfresh : ∀ role, role.startCall ∈ call :: rest → self.processes role = none) :
    Called call rest next ret := by
  have hknown : ∀ role process, self.processes role = some process →
      self.held role = true ∨ process.ending.isSome := by
    intro role process hprocess
    rcases htracked.known role process hprocess with hheld | hended | halone
    · exact .inl hheld
    · exact .inr hended
    · rw [halone.failed] at hself
      cases hself
  have hnotMem : ∀ role : SubprocessRole, role.startCall ∈ rest → role.startCall ≠ call := by
    rintro role hmem rfl
    exact (List.nodup_cons.mp hnodup).1 hmem
  cases h with
  | nothing hprocesses hheld =>
    refine ⟨hfailed, ?_, ?_, ?_⟩
    · intro role hrole
      rw [hprocesses]
      rw [hheld] at hrole
      exact htracked.started role hrole
    · intro role process hprocess
      rw [hprocesses] at hprocess
      rw [hheld]
      rcases hknown role process hprocess with hkept | hended
      · exact .inl hkept
      · exact .inr (.inl hended)
    · intro role hmem
      rw [hprocesses]
      exact hfresh role (List.mem_cons_of_mem _ hmem)
  | @kept _ _ started process hrole hprocesses hheld =>
    refine ⟨hfailed, ?_, ?_, ?_⟩
    · intro role hkept
      by_cases hsame : role = started
      · subst hsame
        exact ⟨process, by rw [hprocesses, Function.update_self]⟩
      · rw [hheld, Function.update_of_ne hsame] at hkept
        rw [hprocesses, Function.update_of_ne hsame]
        exact htracked.started role hkept
    · intro role process' hprocess
      by_cases hsame : role = started
      · subst hsame
        exact .inl (by rw [hheld, Function.update_self])
      · rw [hprocesses, Function.update_of_ne hsame] at hprocess
        rw [hheld, Function.update_of_ne hsame]
        rcases hknown role process' hprocess with hkept | hended
        · exact .inl hkept
        · exact .inr (.inl hended)
    · intro role hmem
      have hne : role ≠ started := by
        rintro rfl
        exact hnotMem role hmem hrole
      rw [hprocesses, Function.update_of_ne hne]
      exact hfresh role (List.mem_cons_of_mem _ hmem)
  | @silent _ started process hrole hreads hprocesses hheld hline hterminated =>
    refine ⟨hfailed, ?_, ?_, ?_⟩
    · intro role hkept
      rw [hheld] at hkept
      by_cases hsame : role = started
      · subst hsame
        exact ⟨process, by rw [hprocesses, Function.update_self]⟩
      · rw [hprocesses, Function.update_of_ne hsame]
        exact htracked.started role hkept
    · intro role process' hprocess
      by_cases hsame : role = started
      · subst hsame
        rw [hprocesses, Function.update_self] at hprocess
        obtain rfl := Option.some.inj hprocess
        exact .inr (.inr ⟨rfl, hrole, hreads, hline, hterminated⟩)
      · rw [hprocesses, Function.update_of_ne hsame] at hprocess
        rw [hheld]
        rcases hknown role process' hprocess with hkept | hended
        · exact .inl hkept
        · exact .inr (.inl hended)
    · intro role hmem
      have hne : role ≠ started := by
        rintro rfl
        exact hnotMem role hmem hrole
      rw [hprocesses, Function.update_of_ne hne]
      exact hfresh role (List.mem_cons_of_mem _ hmem)

/-- A call that may fail starts no process. -/
theorem Called.goOn {call : StartCall} {rest : List StartCall} {ret : Bool}
    (h : Called call rest next ret) (hrest : rest <:+ program.startCalls)
    (hret : ret = true ∨ call.failureStatus = none) : Inv program (next.goOn rest) := by
  have hknown : ∀ role process, next.processes role = some process →
      next.held role = true ∨ process.ending.isSome ∨ next.LeftAlone role process := by
    intro role process hprocess
    rcases h.known role process hprocess with hkept | hended | ⟨hfalse, hcall, -⟩
    · exact .inl hkept
    · exact .inr (.inl hended)
    · rcases hret with htrue | hnone
      · rw [hfalse] at htrue
        cases htrue
      · rw [← hcall, role.failureStatus_startCall] at hnone
        cases hnone
  have htracked : next.Tracked := ⟨h.started, hknown⟩
  unfold WrapperProcess.goOn
  split
  · exact ⟨⟨htracked.started, fun role process hprocess =>
      (htracked.known role process hprocess).imp_right
        (Or.imp_right fun halone =>
          ⟨halone.reads, halone.failed, halone.line, halone.terminated⟩)⟩, h.failed⟩
  · exact ⟨⟨htracked.started, fun role process hprocess =>
      (htracked.known role process hprocess).imp_right
        (Or.imp_right fun halone => ⟨halone.reads, halone.failed, halone.line, halone.terminated⟩)⟩,
      h.failed, hrest, h.fresh⟩

theorem Called.giveUp {call : StartCall} {rest : List StartCall} (status : Nat)
    (h : Called call rest next false) :
    Inv program { next.leave status with failed := some call } := by
  apply @inv_of_leave _ next
  · exact signalSubprocesses_same.1
  · rfl
  · rfl
  · exact h.started
  · intro role process hprocess
    rcases h.known role process hprocess with
      hkept | hended | ⟨-, hcall, hreads, hline, hterminated⟩
    · exact .inl hkept
    · exact .inr (.inl hended)
    · exact .inr (.inr ⟨hreads, by rw [hcall], hline, hterminated⟩)

theorem Called.proceed {call : StartCall} {rest : List StartCall} {ret : Bool}
    (h : Called call rest next ret) (hrest : rest <:+ program.startCalls) :
    Inv program (proceed call rest (next, ret)) := by
  cases ret with
  | true => exact h.goOn hrest (.inl rfl)
  | false =>
    simp only [WrapperProcess.proceed]
    split
    · rename_i hstatus
      exact h.goOn hrest (.inr hstatus)
    · exact h.giveUp _

/-! ## The main loop -/

/-- What is known in the loop. -/
structure Looping (wrapper : WrapperProcess) : Prop where
  failed : wrapper.failed = none
  started : ∀ role, wrapper.held role = true → ∃ process, wrapper.processes role = some process
  known : ∀ role process, wrapper.processes role = some process →
    wrapper.held role = true ∨ process.ending.isSome

theorem Inv.looping (h : Inv program self) (hfailed : self.failed = none) : Looping self := by
  refine ⟨hfailed, h.tracked.started, ?_⟩
  intro role process hprocess
  rcases h.tracked.known role process hprocess with hkept | hended | halone
  · exact .inl hkept
  · exact .inr hended
  · rw [halone.failed] at hfailed
    cases hfailed

/-- The program gives up a process only when it has seen that it has ended. -/
theorem Looping.onFinished {role : SubprocessRole}
    {noted : WrapperProcess → ProcessEnding → WrapperProcess} (h : Looping self)
    (hnoted : ∀ ending, (noted self ending).processes = self.processes ∧
      (noted self ending).failed = self.failed) :
    Looping (self.onFinished role noted) := by
  unfold WrapperProcess.onFinished
  split
  · split
    · exact ⟨h.failed, h.started, h.known⟩
    · split
      · exact h
      · rename_i ending hending
        obtain ⟨hprocesses, hfailed⟩ := hnoted ending
        obtain ⟨process, hprocess, hended⟩ := Option.bind_eq_some_iff.mp hending
        refine ⟨hfailed.trans h.failed, ?_, ?_⟩
        · intro role' hkept
          rw [hprocesses]
          by_cases hsame : role' = role
          · subst hsame
            exact ⟨process, hprocess⟩
          · simp only [Function.update_of_ne hsame] at hkept
            exact h.started role' hkept
        · intro role' process' hprocess'
          rw [hprocesses] at hprocess'
          by_cases hsame : role' = role
          · subst hsame
            obtain rfl := Option.some.inj (hprocess.symm.trans hprocess')
            exact .inr (by rw [hended]; rfl)
          · simp only [Function.update_of_ne hsame]
            exact h.known role' process' hprocess'
  · exact h

theorem Looping.dispatch (h : Looping self) (callback : MainCallback) :
    Looping (self.dispatch callback) := by
  cases callback with
  | onXServerFinished =>
    apply h.onFinished
    intro ending
    exact ⟨rfl, rfl⟩
  | onBusFinished =>
    apply h.onFinished
    intro ending
    exact ⟨rfl, rfl⟩
  | onSessionFinished =>
    apply h.onFinished
    intro ending
    cases ending <;> exact ⟨rfl, rfl⟩
  | onSigterm => exact ⟨h.failed, h.started, h.known⟩
  | registerDisplayTimeoutCb =>
    simp only [WrapperProcess.dispatch, registerDisplayTimeoutCb]
    split
    · exact ⟨h.failed, h.started, h.known⟩
    · exact h

theorem dispatch_stage (callback : MainCallback) :
    (self.dispatch callback).stage = self.stage := by
  have hfinished : ∀ (role : SubprocessRole)
      (noted : WrapperProcess → ProcessEnding → WrapperProcess),
      (∀ ending, (noted self ending).stage = self.stage) →
        (self.onFinished role noted).stage = self.stage := by
    intro role noted hnoted
    unfold WrapperProcess.onFinished
    split
    · split
      · rfl
      · split
        · rfl
        · exact hnoted _
    · rfl
  cases callback with
  | onXServerFinished => exact hfinished _ _ fun ending => rfl
  | onBusFinished => exact hfinished _ _ fun ending => rfl
  | onSessionFinished => exact hfinished _ _ fun ending => by cases ending <;> rfl
  | onSigterm => rfl
  | registerDisplayTimeoutCb =>
    simp only [WrapperProcess.dispatch, registerDisplayTimeoutCb]
    split <;> rfl

theorem Looping.foldl_dispatch (h : Looping self) (callbacks : List MainCallback) :
    Looping (callbacks.foldl WrapperProcess.dispatch self) ∧
      (callbacks.foldl WrapperProcess.dispatch self).stage = self.stage := by
  induction callbacks generalizing self with
  | nil => exact ⟨h, rfl⟩
  | cons callback callbacks ih =>
    obtain ⟨hlooping, hstage⟩ := ih (h.dispatch callback)
    exact ⟨hlooping, hstage.trans (dispatch_stage callback)⟩

theorem Looping.leave (h : Looping self) (status : Nat) : Inv program (self.leave status) := by
  apply @inv_of_leave _ self
  · exact signalSubprocesses_same.1
  · rfl
  · rfl
  · exact h.started
  · intro role process hprocess
    exact (h.known role process hprocess).imp_right .inl

theorem Looping.iterate (h : Looping self) (hstage : self.stage = .looping)
    (callbacks : List MainCallback) : Inv program (self.iterate callbacks) := by
  obtain ⟨hnext, hsame⟩ := h.foldl_dispatch callbacks
  unfold WrapperProcess.iterate
  dsimp only
  split
  · refine ⟨⟨hnext.started, fun role process hprocess =>
      (hnext.known role process hprocess).imp_right .inl⟩, ?_⟩
    rw [hsame, hstage]
    exact hnext.failed
  · exact hnext.leave _

/-! ## The end -/

theorem Inv.clearState (h : Inv program self) (hstage : self.stage = .waiting []) :
    Inv program self.clearState := by
  have hwaiting := h.stage
  rw [hstage] at hwaiting
  have hended : ∀ role process, self.processes role = some process →
      process.ending.isSome ∨ self.LeftAlone role process := by
    intro role process hprocess
    rcases h.tracked.known role process hprocess with hkept | hended | halone
    · exact .inl ((hwaiting role process hkept hprocess).2 (by simp))
    · exact .inl hended
    · exact .inr halone
  refine ⟨⟨?_, ?_⟩, ?_⟩
  · intro role hkept
    cases role with
    | bus => exact h.tracked.started .bus hkept
    | xServer => cases hkept
    | session => cases hkept
  · intro role process hprocess
    exact .inr ((hended role process hprocess).imp_right fun halone =>
      ⟨halone.reads, halone.failed, halone.line, halone.terminated⟩)
  · intro role process hprocess
    exact (hended role process hprocess).imp_right fun halone =>
      ⟨halone.reads, halone.failed, halone.line, halone.terminated⟩

theorem Inv.waitOnSubprocess (h : Inv program self) : Inv program self.waitOnSubprocess := by
  have htracked : ∀ stage, ({ self with stage := stage } : WrapperProcess).Tracked := by
    intro stage
    exact ⟨h.tracked.started, fun role process hprocess =>
      (h.tracked.known role process hprocess).imp_right
        (Or.imp_right fun halone => ⟨halone.reads, halone.failed, halone.line, halone.terminated⟩)⟩
  unfold WrapperProcess.waitOnSubprocess
  split
  · rename_i hstage
    exact h.clearState hstage
  · rename_i role roles hstage
    have hwaiting := h.stage
    rw [hstage] at hwaiting
    split
    · split
      · exact h
      · rename_i process hprocess
        split
        · rename_i hended
          refine ⟨htracked _, fun role' process' hkept hprocess' => ?_⟩
          obtain ⟨htold, hover⟩ := hwaiting role' process' hkept hprocess'
          refine ⟨htold, fun hnotMem => ?_⟩
          by_cases hsame : role' = role
          · subst hsame
            obtain rfl := Option.some.inj (hprocess.symm.trans hprocess')
            exact hended
          · exact hover (by simp [hsame, hnotMem])
        · exact h
    · rename_i hnotHeld
      refine ⟨htracked _, fun role' process' hkept hprocess' => ?_⟩
      obtain ⟨htold, hover⟩ := hwaiting role' process' hkept hprocess'
      refine ⟨htold, fun hnotMem => hover ?_⟩
      have hne : role' ≠ role := by
        rintro rfl
        exact hnotHeld hkept
      simp [hne, hnotMem]
  · exact h

/-! ## A process ends -/

/-- The processes of a program with one of them ended. -/
theorem Inv.ends (h : Inv program self) (role : SubprocessRole) (ending : ProcessEnding) :
    Inv program { self with
      processes := Function.update self.processes role
        ((self.processes role).map fun process => process.finish ending) } := by
  generalize hnext : ({ self with
      processes := Function.update self.processes role
        ((self.processes role).map fun process => process.finish ending) } : WrapperProcess) = next
  have hheld : next.held = self.held := by rw [← hnext]
  have hstage : next.stage = self.stage := by rw [← hnext]
  have hfailed : next.failed = self.failed := by rw [← hnext]
  have hother : ∀ role', role' ≠ role → next.processes role' = self.processes role' := by
    intro role' hne
    rw [← hnext]
    exact Function.update_of_ne hne _ _
  have hthis : next.processes role =
      (self.processes role).map fun process => process.finish ending := by
    rw [← hnext]
    exact Function.update_self _ _ _
  -- A process that there is now has been there before, and may have ended.
  have hbefore : ∀ role' process', next.processes role' = some process' →
      ∃ process, self.processes role' = some process ∧ process'.line = process.line ∧
        process'.terminated = process.terminated ∧
        (process.ending.isSome → process'.ending.isSome) := by
    intro role' process' hprocess'
    by_cases hsame : role' = role
    · subst hsame
      rw [hthis] at hprocess'
      obtain ⟨process, hprocess, rfl⟩ := Option.map_eq_some_iff.mp hprocess'
      exact ⟨process, hprocess, rfl, rfl, fun _ => rfl⟩
    · rw [hother role' hsame] at hprocess'
      exact ⟨process', hprocess', rfl, rfl, id⟩
  have halone : ∀ role' process process', self.LeftAlone role' process →
      process'.line = process.line → process'.terminated = process.terminated →
        next.LeftAlone role' process' := by
    intro role' process process' halone hline hterminated
    exact ⟨halone.reads, hfailed.trans halone.failed, hline.trans halone.line,
      hterminated.trans halone.terminated⟩
  refine ⟨⟨?_, ?_⟩, ?_⟩
  · intro role' hkept
    rw [hheld] at hkept
    obtain ⟨process, hprocess⟩ := h.tracked.started role' hkept
    by_cases hsame : role' = role
    · subst hsame
      exact ⟨process.finish ending, by rw [hthis, hprocess]; rfl⟩
    · exact ⟨process, by rw [hother role' hsame, hprocess]⟩
  · intro role' process' hprocess'
    obtain ⟨process, hprocess, hline, hterminated, hended⟩ := hbefore role' process' hprocess'
    rw [hheld]
    rcases h.tracked.known role' process hprocess with hkept | hover | hleft
    · exact .inl hkept
    · exact .inr (.inl (hended hover))
    · exact .inr (.inr (halone role' process process' hleft hline hterminated))
  · have hself := h.stage
    rw [hstage]
    cases hcase : self.stage with
    | starting calls =>
      rw [hcase] at hself
      obtain ⟨hnone, hsuffix, hfresh⟩ := hself
      refine ⟨hfailed.trans hnone, hsuffix, fun role' hmem => ?_⟩
      by_cases hsame : role' = role
      · subst hsame
        rw [hthis, hfresh role' hmem]
        rfl
      · rw [hother role' hsame]
        exact hfresh role' hmem
    | looping =>
      rw [hcase] at hself
      exact hfailed.trans hself
    | waiting roles =>
      rw [hcase] at hself
      intro role' process' hkept hprocess'
      obtain ⟨process, hprocess, -, hterminated, hended⟩ := hbefore role' process' hprocess'
      rw [hheld] at hkept
      obtain ⟨htold, hover⟩ := hself role' process hkept hprocess
      exact ⟨htold.imp hended (fun h => hterminated.trans h), fun hnotMem => hended (hover hnotMem)⟩
    | returned =>
      rw [hcase] at hself
      intro role' process' hprocess'
      obtain ⟨process, hprocess, hline, hterminated, hended⟩ := hbefore role' process' hprocess'
      exact (hself role' process hprocess).imp hended
        (fun hleft => halone role' process process' hleft hline hterminated)

/-! ## Every run -/

theorem Inv.step (h : Inv program self) (event : WrapperEvent) :
    Inv program (self.step program config event) := by
  cases event with
  | ends role ending => exact h.ends role ending
  | call result =>
    simp only [WrapperProcess.step]
    split
    · rename_i call rest hstage
      split
      · rename_i hcall
        have hstarting := h.stage
        rw [hstage] at hstarting
        obtain ⟨hfailed, hsuffix, hfresh⟩ := hstarting
        have hspawns := perform_spawns program config self result
        rw [hcall] at hspawns
        have hcalled : Called call rest (self.perform program config result).1
            (self.perform program config result).2 :=
          hspawns.called h.tracked ((perform_sameControl result).failed.trans hfailed) hfailed
            ((startCalls_nodup program).sublist hsuffix.sublist) hfresh
        exact hcalled.proceed ((List.suffix_cons call rest).trans hsuffix)
      · exact h
    · exact h
  | iterate callbacks =>
    simp only [WrapperProcess.step]
    split
    · rename_i hstage
      have hlooping := h.stage
      rw [hstage] at hlooping
      exact (h.looping hlooping).iterate hstage callbacks
    · exact h
  | wait => exact h.waitOnSubprocess

theorem inv_run {start : WrapperProcess} (hstart : (machine program config).Start start)
    (events : List WrapperEvent) : Inv program ((machine program config).run start events) := by
  subst hstart
  exact EventMachine.run_invariant (Inv program) (fun self event h => h.step event) events inv_init

/-- An X session is started, and everything goes well. -/
def xSessionStarts : List WrapperEvent :=
  [.call (.takeArguments ["gnome-session".toList]),
    .call (.readSettings true false true),
    .call (.spawnXServer (some "/run/user/1000/gdm/Xauthority".toList) (.wrote "0".toList)),
    .call (.spawnBus false (.wrote "unix:path=/tmp/bus".toList) true),
    .call (.importEnvironment none),
    .call (.updateBusEnvironment true),
    .call (.connectToDisplayManager true),
    .call (.spawnSession true),
    .call (.registerSession true)]

end WrapperProcess

end Gdm
