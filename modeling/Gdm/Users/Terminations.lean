import Gdm.Library.History
import Gdm.Users.Changes

/-!
# The process groups that are sent a signal

A launch environment knows the process of its greeter from what its session has last told.  It
sends a signal only to the group of this process.
-/

namespace Gdm

/-- The process that a launch environment is told of. -/
def GreeterEffect.startedPid (e : ℕ) : GreeterEffect → Option Int
  | .started d pid => if d = e then some pid else none
  | _ => none

namespace Greeters

variable {config : UserdbConfig} {gdmGroupname : String} {self next : Greeters} {e : ℕ}

/-- The process that a launch environment was last told of. -/
def lastPid (e : ℕ) (log : List GreeterEffect) : Option Int :=
  History.lastSome (GreeterEffect.startedPid e) log

theorem lastPid_concat_none {log : List GreeterEffect} {effect : GreeterEffect}
    (h : effect.startedPid e = none) : lastPid e (log ++ [effect]) = lastPid e log := by
  apply History.lastSome_append
  intro x hx
  obtain rfl := List.mem_singleton.mp hx
  exact h

theorem startedPid_of_quiet {effect : GreeterEffect} (h : effect.Quiet) :
    effect.startedPid e = none := by
  cases effect with
  | started d pid => exact absurd rfl (h.1 d pid)
  | opened => rfl
  | exited => rfl
  | died => rfl
  | stopped => rfl
  | terminated => rfl

/-- The signal is for the group of the process that its sender was last told of. -/
def ForGreeter (told : List GreeterEffect) (e : ℕ) (target : Int) : Prop :=
  ∃ pid, lastPid e told = some pid ∧ 1 < pid ∧ target = -pid

/-- If it is a signal, it is for the greeter of its sender. -/
def Meant (told : List GreeterEffect) (effect : GreeterEffect) : Prop :=
  ∀ e target, effect = .terminated e target → ForGreeter told e target

/-- What the log tells of the launch environments. -/
structure Told (greeters : Greeters) : Prop where
  number : ∀ e, (lastPid e greeters.log).isSome → e < greeters.environments.length
  pid : ∀ (e : ℕ) environment, greeters.environments[e]? = some environment →
    environment.pid = (lastPid e greeters.log).getD 0
  meant : History.Justified Meant greeters.log

theorem told_init : Told (init config) := by
  constructor
  · intro e h
    cases h
  · intro e environment henvironment
    cases henvironment
  · exact History.justified_nil

/-- The launch environments that are there know the same processes. -/
theorem Told.modified (h : Told self) {f : GdmLaunchEnvironment → GdmLaunchEnvironment}
    {process : UserStoreProcess}
    (hpid : ∀ environment, self.environments[e]? = some environment →
      (f environment).pid = environment.pid) :
    Told ({ self with process := process }.modifyEnvironment e f) := by
  constructor
  · intro d hd
    rw [modifyEnvironment, List.length_modify]
    exact h.number d hd
  · intro d other hother
    rcases Leases.getElem?_modify_cases hother with ⟨rfl, x, hx, rfl⟩ | ⟨-, hold⟩
    · rw [hpid x hx]
      exact h.pid d x hx
    · exact h.pid d other hold
  · exact h.meant

theorem Told.emitted (h : Told self) {effect : GreeterEffect}
    (hquiet : ∀ e, effect.startedPid e = none) (hmeant : Meant self.log effect) :
    Told (self.emit effect) := by
  have hlast : ∀ e, lastPid e (self.log ++ [effect]) = lastPid e self.log := fun e =>
    lastPid_concat_none (hquiet e)
  constructor
  · intro e he
    rw [emit, hlast e] at he
    exact h.number e he
  · intro e environment henvironment
    rw [emit, hlast e]
    exact h.pid e environment henvironment
  · exact History.justified_concat.mpr ⟨h.meant, hmeant⟩

theorem Told.started (h : Told self) {environment : GdmLaunchEnvironment}
    (henvironment : self.environments[e]? = some environment) (pid : Int) :
    Told ((self.modifyEnvironment e fun environment => { environment with pid := pid }).emit
      (.started e pid)) := by
  have hlast : lastPid e (self.log ++ [.started e pid]) = some pid :=
    History.lastSome_concat (if_pos rfl)
  have hothers : ∀ d, d ≠ e → lastPid d (self.log ++ [.started e pid]) = lastPid d self.log :=
    fun d hne => lastPid_concat_none (if_neg (Ne.symm hne))
  have hlength : e < self.environments.length := (List.getElem?_eq_some_iff.mp henvironment).1
  constructor
  · intro d hd
    rw [emit_environments, modifyEnvironment, List.length_modify]
    by_cases hsame : d = e
    · rw [hsame]
      exact hlength
    · rw [emit, modifyEnvironment, hothers d hsame] at hd
      exact h.number d hd
  · intro d other hother
    rw [emit, modifyEnvironment]
    rcases Leases.getElem?_modify_cases hother with ⟨rfl, x, hx, rfl⟩ | ⟨hne, hold⟩
    · rw [hlast]
      rfl
    · rw [hothers d hne]
      exact h.pid d other hold
  · apply History.justified_concat.mpr ⟨h.meant, _⟩
    intro d target habsurd
    cases habsurd

theorem Told.created (h : Told self) (kind : GreeterKind) :
    Told { self with
      environments := self.environments ++ [GdmLaunchEnvironment.create gdmGroupname kind] } := by
  constructor
  · intro e he
    rw [List.length_append]
    exact Nat.lt_add_right _ (h.number e he)
  · intro e environment henvironment
    rw [List.getElem?_append] at henvironment
    split at henvironment
    · exact h.pid e environment henvironment
    · rename_i hlarge
      -- nothing has been told of the new one
      have hnone : lastPid e self.log = none := by
        cases hlast : lastPid e self.log with
        | none => rfl
        | some pid => exact absurd (h.number e (by rw [hlast]; rfl)) hlarge
      obtain rfl := List.mem_singleton.mp (List.mem_of_getElem? henvironment)
      rw [hnone]
      cases kind <;> rfl
  · exact h.meant

theorem Told.change (hchange : Change config e self next) (h : Told self) : Told next := by
  cases hchange with
  | created hnew gdmGroupname kind => exact h.created kind
  | aborted => exact ⟨h.number, h.pid, h.meant⟩
  | refused => exact ⟨h.number, h.pid, h.meant⟩
  | acquired => exact h.modified fun _ _ => rfl
  | released => exact h.modified fun _ _ => rfl
  | modified f henvironment hkeeps hpid =>
    apply h.modified
    intro x hx
    obtain rfl := Option.some.inj (hx.symm.trans henvironment)
    exact hpid
  | started henvironment hopen pid => exact h.started henvironment pid
  | @terminated environment henvironment hpid =>
    apply h.emitted (fun _ => rfl)
    rintro d target hsame
    cases hsame
    refine ⟨environment.pid, ?_, hpid, rfl⟩
    have hknown := h.pid e environment henvironment
    cases hlast : lastPid e self.log with
    | none =>
      rw [hlast, Option.getD_none] at hknown
      omega
    | some pid =>
      rw [hlast, Option.getD_some] at hknown
      rw [hknown]
  | emitted effect hquiet =>
    apply h.emitted (fun _ => startedPid_of_quiet hquiet)
    intro d target hsame
    exact absurd hsame (hquiet.2 d target)

/-! ## The sender -/

/-- A launch environment is the sender only when the change is to itself. -/
theorem Change.added (h : Change config e self next) :
    ∃ new, next.log = self.log ++ new ∧
      ∀ effect ∈ new, ∀ d target, effect = .terminated d target → d = e := by
  have hnothing : ∃ new, self.log = self.log ++ new ∧
      ∀ effect ∈ new, ∀ d target, effect = .terminated d target → d = e :=
    ⟨[], (List.append_nil _).symm, nofun⟩
  cases h with
  | created => exact hnothing
  | aborted => exact hnothing
  | refused => exact hnothing
  | acquired => exact hnothing
  | released => exact hnothing
  | modified => exact hnothing
  | started _ _ pid =>
    refine ⟨[.started e pid], rfl, ?_⟩
    rintro effect hmem d target rfl
    cases List.mem_singleton.mp hmem
  | terminated =>
    refine ⟨[.terminated e _], rfl, ?_⟩
    rintro effect hmem d target rfl
    exact (GreeterEffect.terminated.inj (List.mem_singleton.mp hmem)).1
  | emitted effect hquiet =>
    refine ⟨[effect], rfl, ?_⟩
    rintro effect hmem d target rfl
    exact absurd (List.mem_singleton.mp hmem).symm (hquiet.2 d target)

theorem Changes.added (h : Changes config e self next) :
    ∃ new, next.log = self.log ++ new ∧
      ∀ effect ∈ new, ∀ d target, effect = .terminated d target → d = e := by
  induction h with
  | refl => exact ⟨[], (List.append_nil _).symm, nofun⟩
  | tail _ hlast ih => exact History.exists_added_trans ih hlast.added

/-- A signal is sent in an event of its sender. -/
theorem step_added (event : GreeterEvent) :
    ∃ new, (step config gdmGroupname self event).log = self.log ++ new ∧
      ∀ effect ∈ new, ∀ d target, effect = .terminated d target →
        event.environment = some d := by
  cases hevent : event.environment with
  | none =>
    refine ⟨[], ?_, nofun⟩
    rw [List.append_nil]
    cases event with
    | create kind =>
      unfold step
      split
      · rfl
      · rfl
    | _ => cases hevent
  | some e =>
    have hsubject : self.subject event = e := by rw [subject, hevent, Option.getD_some]
    have hchanges := @step_changes config gdmGroupname self event
    rw [hsubject] at hchanges
    obtain ⟨new, hlog, hnew⟩ := hchanges.added
    refine ⟨new, hlog, ?_⟩
    intro effect hmem d target hsame
    rw [hnew effect hmem d target hsame]

/-- The entry behind `told` has been written in an event of the launch environment. -/
def WrittenBy (config : UserdbConfig) (gdmGroupname : String) (events : List GreeterEvent)
    (told : List GreeterEffect) (effect : GreeterEffect) (e : ℕ) : Prop :=
  ∃ before event after, events = before ++ event :: after ∧ event.environment = some e ∧
    ((machine config gdmGroupname).run (init config) before).log <+: told ∧
      told ++ [effect] <+: ((machine config gdmGroupname).run (init config) (before ++ [event])).log

/-- In every run, a launch environment sends a `SIGTERM` only in an event of its own, and only to
the group of the process that its own session has reported last; so never to every process, to the
own group or to one process. -/
theorem run_forGreeters (config : UserdbConfig) (gdmGroupname : String) (events : List GreeterEvent)
    (told : List GreeterEffect) (e : ℕ) (target : Int) (rest : List GreeterEffect)
    (hlog : ((machine config gdmGroupname).run (init config) events).log =
      told ++ .terminated e target :: rest) :
    target < -1 ∧ ForGreeter told e target ∧
      WrittenBy config gdmGroupname events told (.terminated e target) e := by
  have h : Told ((machine config gdmGroupname).run (init config) events) :=
    run_of_change told_init (fun _ _ _ hchange h => h.change hchange) events
  obtain ⟨pid, hlast, hpid, rfl⟩ := h.meant told _ rest hlog e target rfl
  refine ⟨by omega, ⟨pid, hlast, hpid, rfl⟩, ?_⟩
  obtain ⟨before, event, after, mid, last, rfl, htold, hstep⟩ :=
    @EventMachine.exists_step_of_entry _ _ (machine config gdmGroupname) _ Greeters.log
      (fun self event => by
        obtain ⟨new, hnew, -⟩ := @step_added config gdmGroupname self event
        exact ⟨new, hnew⟩) _ _ rfl _ _ _ hlog
  refine ⟨before, event, after, rfl, ?_, ⟨mid, htold.symm⟩, last, ?_⟩
  · obtain ⟨new, hnew, hsender⟩ := @step_added config gdmGroupname
      ((machine config gdmGroupname).run (init config) before) event
    have hsame : new = mid ++ .terminated e (-pid) :: last :=
      List.append_cancel_left (hnew.symm.trans hstep)
    exact hsender _ (hsame ▸ List.mem_append_right _ List.mem_cons_self) e (-pid) rfl
  · rw [EventMachine.run_concat, hstep, htold]
    simp

/-- The second greeter is stopped, and tells of its process only once. -/
theorem run_forGreeters_stopped :
    (-4711 : Int) < -1 ∧ ForGreeter [.started 0 100, .started 1 4711] 1 (-4711) ∧
      WrittenBy {} "gdm"
        [.create .greeter, .create .greeter, .prepareGreeterSession 0 {},
          .prepareGreeterSession 1 {}, .startGreeterSession 0, .startGreeterSession 1,
          .onSessionStarted 0 100, .onSessionStarted 1 4711, .onConversationStopped 1]
        [.started 0 100, .started 1 4711] (.terminated 1 (-4711)) 1 :=
  run_forGreeters {} "gdm" _ [.started 0 100, .started 1 4711] 1 (-4711) [.stopped 1]
    (by decide +kernel)

end Greeters

end Gdm
