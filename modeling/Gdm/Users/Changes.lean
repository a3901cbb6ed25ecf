import Gdm.Users.Greeters
import Mathlib.Logic.Relation

/-!
# What an event does to the greeters

An event is a chain of changes, each of them to one launch environment, to its user or to what
has been told of it.
-/

namespace Gdm

namespace GdmLaunchEnvironment

/-- A change of a launch environment leaves its user. -/
structure Keeps (environment next : GdmLaunchEnvironment) : Prop where
  userDispName : next.userDispName = environment.userDispName
  dynUserName : next.dynUserName = environment.dynUserName
  dynUid : next.dynUid = environment.dynUid
  dynUserHome : next.dynUserHome = environment.dynUserHome
  /-- A session is only held with a user. -/
  session : next.session = true → environment.session = true ∨ environment.dynUid ≠ 0
  /-- What is finalized has neither. -/
  finalized : next.finalized = true → next.dynUid = 0 ∧ next.session = false

end GdmLaunchEnvironment

/-- It neither starts a process nor ends one. -/
def GreeterEffect.Quiet (effect : GreeterEffect) : Prop :=
  (∀ e pid, effect ≠ .started e pid) ∧ ∀ e target, effect ≠ .terminated e target

namespace Greeters

/-- One change, to the launch environment with the number. -/
inductive Change (config : UserdbConfig) (e : ℕ) : Greeters → Greeters → Prop
  | created {self : Greeters} (hnew : e = self.environments.length) (gdmGroupname : String)
      (kind : GreeterKind) :
      Change config e self
        { self with
          environments := self.environments ++ [GdmLaunchEnvironment.create gdmGroupname kind] }
  /-- A call of the store aborts the process. -/
  | aborted {self : Greeters} {event : UserStoreEvent}
      (hstep : UserStoreProcess.step config self.process event =
        { self.process with aborted := true }) :
      Change config e self { self with process := { self.process with aborted := true } }
  | refused {self : Greeters} {database : UserDatabase} {request : UserRequest}
      {store : GdmDynamicUserStore} {error : DynamicUserError}
      (hlive : self.process.aborted = false)
      (hcreate : self.process.store.create config database request = some (store, .error error)) :
      Change config e self { self with process := { self.process with store := store } }
  | acquired {self : Greeters} {environment : GdmLaunchEnvironment} {database : UserDatabase}
      {store : GdmDynamicUserStore} {user : DynamicUser} (hlive : self.process.aborted = false)
      (henvironment : self.environments[e]? = some environment)
      (hopen : environment.finalized = false) (hfree : environment.dynUid = 0)
      (hcreate : self.process.store.create config database environment.request =
        some (store, .ok user)) :
      Change config e self
        ({ self with process := { self.process with store := store } }.modifyEnvironment e
          (GdmLaunchEnvironment.takeUser user))
  | released {self : Greeters} {environment : GdmLaunchEnvironment} {store : GdmDynamicUserStore}
      (hlive : self.process.aborted = false)
      (henvironment : self.environments[e]? = some environment)
      (hclosed : environment.session = false) (hheld : environment.dynUid ≠ 0)
      (hremove : self.process.store.remove environment.dynUid = some store) :
      Change config e self
        ({ self with process := { self.process with store := store } }.modifyEnvironment e
          fun environment => { environment with dynUid := 0 })
  | modified {self : Greeters} {environment : GdmLaunchEnvironment}
      (f : GdmLaunchEnvironment → GdmLaunchEnvironment)
      (henvironment : self.environments[e]? = some environment)
      (hkeeps : environment.Keeps (f environment)) (hpid : (f environment).pid = environment.pid) :
      Change config e self (self.modifyEnvironment e f)
  | started {self : Greeters} {environment : GdmLaunchEnvironment}
      (henvironment : self.environments[e]? = some environment)
      (hopen : environment.finalized = false) (pid : Int) :
      Change config e self
        ((self.modifyEnvironment e fun environment => { environment with pid := pid }).emit
          (.started e pid))
  | terminated {self : Greeters} {environment : GdmLaunchEnvironment}
      (henvironment : self.environments[e]? = some environment) (hpid : 1 < environment.pid) :
      Change config e self (self.emit (.terminated e (-environment.pid)))
  | emitted {self : Greeters} (effect : GreeterEffect) (hquiet : effect.Quiet) :
      Change config e self (self.emit effect)

/-- A chain of them. -/
def Changes (config : UserdbConfig) (e : ℕ) : Greeters → Greeters → Prop :=
  Relation.ReflTransGen (Change config e)

variable {config : UserdbConfig} {gdmGroupname : String} {self : Greeters} {e : ℕ}
  {environment : GdmLaunchEnvironment}

theorem Change.once {next : Greeters} (h : Change config e self next) :
    Changes config e self next :=
  Relation.ReflTransGen.single h

@[simp] theorem modifyEnvironment_process (f : GdmLaunchEnvironment → GdmLaunchEnvironment) :
    (self.modifyEnvironment e f).process = self.process := rfl

@[simp] theorem emit_process (effect : GreeterEffect) : (self.emit effect).process = self.process :=
  rfl

@[simp] theorem emit_environments (effect : GreeterEffect) :
    (self.emit effect).environments = self.environments := rfl

theorem modifyEnvironment_getElem? {f : GdmLaunchEnvironment → GdmLaunchEnvironment}
    (h : self.environments[e]? = some environment) :
    (self.modifyEnvironment e f).environments[e]? = some (f environment) := by
  rw [modifyEnvironment, List.getElem?_modify_eq, h]
  rfl

/-! ## The user -/

theorem ensureUid_changes (hlive : self.process.aborted = false)
    (henvironment : self.environments[e]? = some environment)
    (hopen : environment.finalized = false) (database : UserDatabase) :
    Changes config e self (self.ensureUid config e environment database) := by
  unfold ensureUid
  split
  · exact Relation.ReflTransGen.refl
  · rename_i hfree
    split
    · rename_i hcreate
      have hstep : UserStoreProcess.step config self.process
          (.create database environment.request) = { self.process with aborted := true } := by
        simp [UserStoreProcess.step, hlive, hcreate]
      exact (Change.aborted hstep).once
    · rename_i store error hcreate
      exact (Change.refused hlive hcreate).once
    · rename_i store user hcreate
      exact (Change.acquired hlive henvironment hopen (not_not.mp hfree) hcreate).once

/-- The user is given back, unless the process is aborted. -/
theorem removeUser_changes {holder : GdmLaunchEnvironment} (hlive : self.process.aborted = false)
    (henvironment : self.environments[e]? = some environment)
    (hclosed : environment.session = false) (hsame : holder.dynUid = environment.dynUid) :
    Changes config e self (self.removeUser e holder) ∧
      ((self.removeUser e holder).process.aborted = false →
        (self.removeUser e holder).environments[e]? = some { environment with dynUid := 0 }) := by
  unfold removeUser
  rw [hsame]
  split
  · rename_i hheld
    split
    · rename_i hremove
      have hstep : UserStoreProcess.step config self.process (.remove environment.dynUid) =
          { self.process with aborted := true } := by
        simp [UserStoreProcess.step, hlive, hremove]
      refine ⟨(Change.aborted hstep).once, ?_⟩
      intro habsurd
      cases habsurd
    · rename_i store hremove
      refine ⟨(Change.released hlive henvironment hclosed hheld hremove).once, ?_⟩
      intro _
      exact modifyEnvironment_getElem? (by exact henvironment)
  · rename_i hfree
    refine ⟨Relation.ReflTransGen.refl, ?_⟩
    intro _
    rw [henvironment, ← not_not.mp hfree]

/-! ## The process -/

theorem signalGreeter_changes (henvironment : self.environments[e]? = some environment) :
    Changes config e self (self.signalGreeter e environment) := by
  unfold signalGreeter
  split
  · rename_i hpid
    exact (Change.terminated henvironment hpid).once
  · exact Relation.ReflTransGen.refl

@[simp] theorem signalGreeter_process :
    (self.signalGreeter e environment).process = self.process := by
  unfold signalGreeter
  split <;> rfl

@[simp] theorem signalGreeter_environments :
    (self.signalGreeter e environment).environments = self.environments := by
  unfold signalGreeter
  split <;> rfl

/-- The session is let go. -/
theorem closed_changes (henvironment : self.environments[e]? = some environment)
    (hopen : environment.finalized = false) :
    Changes config e self
      (self.modifyEnvironment e fun environment => { environment with session := false }) := by
  apply Change.once
  apply Change.modified _ henvironment _ rfl
  constructor
  · rfl
  · rfl
  · rfl
  · rfl
  · intro habsurd
    cases habsurd
  · intro habsurd
    rw [hopen] at habsurd
    cases habsurd

theorem emitted_changes {effect : GreeterEffect} (hquiet : effect.Quiet) :
    Changes config e self (self.emit effect) :=
  (Change.emitted effect hquiet).once

/-- When the process has not been aborted, neither a session nor a user is left. -/
theorem stop_changes (hlive : self.process.aborted = false)
    (henvironment : self.environments[e]? = some environment)
    (hopen : environment.finalized = false) :
    Changes config e self (self.stop e environment) ∧
      ((self.stop e environment).process.aborted = false →
        (self.stop e environment).environments[e]? =
          some { environment with session := false, dynUid := 0 }) := by
  have hsignalled : (self.signalGreeter e environment).environments[e]? = some environment := by
    rw [signalGreeter_environments, henvironment]
  have hclosed := modifyEnvironment_getElem?
    (f := fun environment => { environment with session := false }) hsignalled
  have hclose : Changes config e self ((self.signalGreeter e environment).modifyEnvironment e
      fun environment => { environment with session := false }) :=
    (signalGreeter_changes henvironment).trans (closed_changes hsignalled hopen)
  obtain ⟨hremove, hleft⟩ := @removeUser_changes config _ e _ environment
    (by simpa using hlive) hclosed rfl rfl
  simp only [stop]
  split
  · rename_i haborted
    refine ⟨hclose.trans hremove, ?_⟩
    intro hnot
    rw [haborted] at hnot
    cases hnot
  · refine ⟨(hclose.trans hremove).trans (emitted_changes ⟨nofun, nofun⟩), ?_⟩
    intro hnot
    exact hleft hnot

theorem finalize_changes (hlive : self.process.aborted = false)
    (henvironment : self.environments[e]? = some environment)
    (hopen : environment.finalized = false) : Changes config e self (self.finalize e) := by
  obtain ⟨hstop, hleft⟩ := @stop_changes config _ _ _ hlive henvironment hopen
  unfold finalize
  rw [henvironment]
  dsimp only
  split
  · exact hstop
  · rename_i hnot
    have hstopped := hleft (by simpa using hnot)
    apply hstop.tail
    apply Change.modified _ hstopped _ rfl
    constructor
    · rfl
    · rfl
    · rfl
    · rfl
    · intro habsurd
      cases habsurd
    · intro _
      exact ⟨rfl, rfl⟩

/-! ## Events -/

theorem start_changes (henvironment : self.environments[e]? = some environment)
    (hopen : environment.finalized = false) :
    Changes config e self (self.start e environment) := by
  unfold start
  split
  · rename_i hheld
    apply Change.once
    apply Change.modified _ henvironment _ rfl
    constructor
    · rfl
    · rfl
    · rfl
    · rfl
    · intro _
      exact .inr hheld
    · intro habsurd
      rw [hopen] at habsurd
      cases habsurd
  · exact Relation.ReflTransGen.refl

theorem handle_changes (hlive : self.process.aborted = false)
    (henvironment : self.environments[e]? = some environment)
    (hopen : environment.finalized = false) (event : GreeterEvent) :
    Changes config e self (self.handle config e environment event) := by
  cases event with
  | create => exact Relation.ReflTransGen.refl
  | prepareGreeterSession _ database => exact ensureUid_changes hlive henvironment hopen database
  | startGreeterSession => exact start_changes henvironment hopen
  | stopGreeterSession =>
    obtain ⟨hstop, hleft⟩ := @stop_changes config _ _ _ hlive henvironment hopen
    simp only [handle]
    split
    · exact hstop
    · rename_i hnot
      have hlive' : (self.stop e environment).process.aborted = false := by simpa using hnot
      exact hstop.trans (finalize_changes hlive' (hleft hlive') hopen)
  | onSessionOpened => exact emitted_changes ⟨nofun, nofun⟩
  | onSessionStarted _ pid => exact (Change.started henvironment hopen pid).once
  | onSessionExited => exact emitted_changes ⟨nofun, nofun⟩
  | onSessionDied => exact emitted_changes ⟨nofun, nofun⟩
  | onConversationStopped =>
    have hclose := @closed_changes config _ _ _ henvironment hopen
    have hclosed := modifyEnvironment_getElem?
      (f := fun environment => { environment with session := false }) henvironment
    simp only [handle]
    split
    · rename_i hpid
      exact (hclose.tail (Change.terminated hclosed hpid)).trans
        (emitted_changes ⟨nofun, nofun⟩)
    · exact hclose
  | clear => exact finalize_changes hlive henvironment hopen

/-- The launch environment that an event is about; one that is created is the next. -/
def subject (self : Greeters) (event : GreeterEvent) : ℕ :=
  event.environment.getD self.environments.length

theorem step_changes (event : GreeterEvent) :
    Changes config (self.subject event) self (step config gdmGroupname self event) := by
  unfold step
  split
  · exact Relation.ReflTransGen.refl
  · rename_i hnot
    have hlive : self.process.aborted = false := by simpa using hnot
    split
    · exact (Change.created rfl gdmGroupname _).once
    · split
      · exact Relation.ReflTransGen.refl
      · rename_i e hsubject
        have hsubject' : self.subject event = e := by rw [subject, hsubject, Option.getD_some]
        split
        · exact Relation.ReflTransGen.refl
        · rename_i environment henvironment
          split
          · exact Relation.ReflTransGen.refl
          · rename_i hopen
            rw [hsubject']
            exact handle_changes hlive henvironment (by simpa using hopen) event

/-- What every change keeps, every chain keeps. -/
theorem Changes.invariant {Inv : Greeters → Prop} {next : Greeters}
    (hchanges : Changes config e self next)
    (hchange : ∀ e self next, Change config e self next → Inv self → Inv next) (h : Inv self) :
    Inv next := by
  induction hchanges with
  | refl => exact h
  | tail _ hlast ih => exact hchange _ _ _ hlast ih

/-- What every change keeps, every run keeps. -/
theorem run_of_change {Inv : Greeters → Prop} (hinit : Inv (init config))
    (hchange : ∀ e self next, Change config e self next → Inv self → Inv next)
    (events : List GreeterEvent) :
    Inv ((machine config gdmGroupname).run (init config) events) := by
  apply EventMachine.run_invariant Inv _ events hinit
  intro self event h
  have hsteps := @step_changes config gdmGroupname self event
  exact hsteps.invariant hchange h

end Greeters

end Gdm
