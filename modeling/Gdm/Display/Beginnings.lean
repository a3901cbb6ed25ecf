import Gdm.Display.Iterations

/-!
# Where iterations begin

A login screen is asked for during an iteration only when a display ends that the factory
makes up for.  Which displays an iteration ends is known where it begins, and so it is
there that one can tell whether the iteration will find the displays that it needs.
-/

namespace Gdm

open ObjectTable

/-- The callback finishes the display. -/
def StoreCallback.Takes (callback : StoreCallback) (x : DisplayObject) : Prop :=
  match callback with
  | finishDisplayOnSeatIfWaiting => x.status = .waitingToFinish
  | listifyDisplayIds => False
  | unexportDisplay => False
  | finishDisplay => True

instance (callback : StoreCallback) (x : DisplayObject) : Decidable (callback.Takes x) :=
  match callback with
  | .finishDisplayOnSeatIfWaiting => inferInstanceAs (Decidable (x.status = .waitingToFinish))
  | .listifyDisplayIds => inferInstanceAs (Decidable False)
  | .unexportDisplay => inferInstanceAs (Decidable False)
  | .finishDisplay => inferInstanceAs (Decidable True)

/-- The factory does not make up for the end of the display: it has been stopped, or the
display is remote, or it is that of the greeter of seat0, whose session has registered,
and another VT than the initial one is active. -/
def EndsAside (factory : GdmLocalDisplayFactory) (x : DisplayObject) : Prop :=
  factory.isStarted = false ∨ x.isLocal = false ∨
    x.sessionRegistered = true ∧ x.sessionClass = "greeter" ∧ x.seatId = some "seat0" ∧
      factory.activeVt ≠ factory.initialVt

instance (factory : GdmLocalDisplayFactory) (x : DisplayObject) :
    Decidable (EndsAside factory x) := by
  unfold EndsAside
  infer_instance

/-- The status is one that the end of the display gives to it. -/
def Ending (x : DisplayObject) : Prop :=
  x.status = .finished ∨ x.status = Displays.unmanagedStatus x

/-- Nothing of the display has changed that its end depends on, but that it may have
ended. -/
structure MayEnd (x y : DisplayObject) : Prop where
  isLocal : y.isLocal = x.isLocal
  sessionRegistered : y.sessionRegistered = x.sessionRegistered
  sessionClass : y.sessionClass = x.sessionClass
  seatId : y.seatId = x.seatId
  status : y.status = x.status ∨ Ending y

variable {x y z : DisplayObject} {factory : GdmLocalDisplayFactory}

theorem Ending.of_same (h : Ending x) (hregistered : y.sessionRegistered = x.sessionRegistered)
    (hstatus : y.status = x.status) : Ending y := by
  unfold Ending Displays.unmanagedStatus at h ⊢
  rw [hstatus, hregistered]
  exact h

/-- A display whose session has registered does not fail. -/
theorem Ending.cases (h : Ending x) :
    x.status = .finished ∨ x.status = .unmanaged ∨
      x.status = .failed ∧ x.sessionRegistered = false := by
  rcases h with hfinished | hunmanaged
  · exact .inl hfinished
  · unfold Displays.unmanagedStatus at hunmanaged
    split at hunmanaged
    · exact .inr (.inl hunmanaged)
    · rename_i hnot
      exact .inr (.inr ⟨hunmanaged, by simpa using hnot⟩)

theorem Ending.ne_prepared (h : Ending x) : x.status ≠ .prepared := by
  rcases h.cases with hstatus | hstatus | ⟨hstatus, _⟩ <;> simp [hstatus]

theorem Ending.ne_waiting (h : Ending x) : x.status ≠ .waitingToFinish := by
  rcases h.cases with hstatus | hstatus | ⟨hstatus, _⟩ <;> simp [hstatus]

theorem Ending.ne_managed (h : Ending x) : x.status ≠ .managed := by
  rcases h.cases with hstatus | hstatus | ⟨hstatus, _⟩ <;> simp [hstatus]

theorem MayEnd.refl (x : DisplayObject) : MayEnd x x :=
  ⟨rfl, rfl, rfl, rfl, .inl rfl⟩

theorem MayEnd.ending (h : MayEnd x y) (hx : Ending x) : Ending y := by
  rcases h.status with hsame | hending
  · exact hx.of_same h.sessionRegistered hsame
  · exact hending

theorem MayEnd.trans (h : MayEnd x y) (h' : MayEnd y z) : MayEnd x z := by
  refine ⟨h'.isLocal.trans h.isLocal, h'.sessionRegistered.trans h.sessionRegistered,
    h'.sessionClass.trans h.sessionClass, h'.seatId.trans h.seatId, ?_⟩
  rcases h'.status with hsame | hending
  · exact h.status.imp hsame.trans fun hy => hy.of_same h'.sessionRegistered hsame
  · exact .inr hending

/-- A display that has ended is not taken again. -/
theorem MayEnd.takes {callback : StoreCallback} (h : MayEnd x y) (hy : callback.Takes y) :
    callback.Takes x := by
  cases callback with
  | finishDisplayOnSeatIfWaiting =>
    rcases h.status with hsame | hending
    · exact hsame.symm.trans hy
    · exact absurd hy hending.ne_waiting
  | listifyDisplayIds => exact hy
  | unexportDisplay => exact hy
  | finishDisplay => trivial

namespace Displays

variable {self m m' : Displays} {around : DisplaySurroundings}
  {c : WithCalls Displays DisplayCall} {d : Nat}

/-- The factory makes up for no display that the callback finishes. -/
def TakesAside (self : Displays) (callback : StoreCallback) (entries : List Nat) : Prop :=
  ∀ d ∈ entries, ∀ x, self.displays[d]? = some x → callback.Takes x → EndsAside self.factory x

instance (self : Displays) (callback : StoreCallback) (entries : List Nat) :
    Decidable (self.TakesAside callback entries) :=
  inferInstanceAs (Decidable (∀ d ∈ entries, ∀ x ∈ self.displays[d]?,
    callback.Takes x → EndsAside self.factory x))

/-- An iteration begins where the factory makes up for no display that it finishes. -/
def BeginsAside (c : WithCalls Displays DisplayCall) : Step × DisplaySurroundings → Prop
  | (.event _, _) => True
  | (.call, around) => match c.calls with
    | .storeForeach callback :: _ => c.state.TakesAside callback (c.state.entries around)
    | _ => True

instance (c : WithCalls Displays DisplayCall) (input : Step × DisplaySurroundings) :
    Decidable (BeginsAside c input) := by
  unfold BeginsAside
  split
  · infer_instance
  · split <;> infer_instance

/-- What the call does is part of the end of a display that the factory does not make up
for. -/
def EndsOne (self : Displays) : DisplayCall → Prop
  | .managerStatusChanged d => ∀ x, self.displays[d]? = some x → Ending x
  | .factoryStatusChanged d => ∀ x, self.displays[d]? = some x →
      Ending x ∧ EndsAside self.factory x
  | .finish d => ∀ x, self.displays[d]? = some x → EndsAside self.factory x
  | _ => False

/-- Displays may have ended that the factory does not make up for. -/
structure EndsSome (m m' : Displays) : Prop where
  displays : Keeps MayEnd m m'
  isStarted : m'.factory.isStarted = m.factory.isStarted
  activeVt : m'.factory.activeVt = m.factory.activeVt
  initialVt : m'.factory.initialVt = m.factory.initialVt

/-- Displays may have ended that the factory does not make up for, and the calls are part
of such ends. -/
def EndsBy (m : Displays) (c : WithCalls Displays DisplayCall) : Prop :=
  EndsSome m c.state ∧ ∀ call ∈ c.calls, c.state.EndsOne call

/-- The calls that are to be made before an iteration goes on, if there is one, are part of
ends that the factory does not make up for, and so is what the iteration will do. -/
inductive Calm (self : Displays) : List DisplayCall → Prop
  | outside {calls : List DisplayCall} (h : ∀ call ∈ calls, call.iterates = false) :
      Calm self calls
  | during {callback : StoreCallback} {left : List Nat} {first others calls : List DisplayCall}
      (hcalls : calls = first ++ .foreach callback left :: others)
      (hfirst : ∀ call ∈ first, self.EndsOne call) (hleft : self.TakesAside callback left)
      (hothers : ∀ call ∈ others, call.iterates = false) : Calm self calls
  | removing {predicate : StorePredicate} {left : List Nat} {others : List DisplayCall}
      (hothers : ∀ call ∈ others, call.iterates = false) :
      Calm self (.foreachRemove predicate left :: others)

/-! ## Ends -/

theorem EndsSome.refl (m : Displays) : EndsSome m m :=
  ⟨Evolves.refl MayEnd.refl _ _, rfl, rfl, rfl⟩

theorem EndsSome.trans {m'' : Displays} (h : EndsSome m m') (h' : EndsSome m' m'') :
    EndsSome m m'' :=
  ⟨Evolves.trans MayEnd.trans (fun h _ => h) h.displays h'.displays,
    h'.isStarted.trans h.isStarted, h'.activeVt.trans h.activeVt, h'.initialVt.trans h.initialVt⟩

theorem EndsSome.done (h : EndsSome m m') : EndsBy m ⟨m', []⟩ :=
  ⟨h, fun _ hcall => nomatch hcall⟩

/-- A function goes on from a state in which displays have ended. -/
theorem EndsBy.after (h : EndsBy m' c) (hm : EndsSome m m') : EndsBy m c :=
  ⟨hm.trans h.1, h.2⟩

theorem endsSome_modifyDisplay {f : DisplayObject → DisplayObject}
    (hf : ∀ x, self.displays[d]? = some x → MayEnd x (f x)) :
    EndsSome self (self.modifyDisplay d f) :=
  ⟨Evolves.modify MayEnd.refl _ hf, rfl, rfl, rfl⟩

/-- Each display has come from one before. -/
theorem EndsSome.origin (h : EndsSome m m') (hy : m'.displays[d]? = some y) :
    ∃ x, m.displays[d]? = some x ∧ MayEnd x y :=
  (h.displays.origin hy).resolve_right fun hadded => hadded.2

theorem EndsSome.endsAside (h : EndsSome m m') (hxy : MayEnd x y) (hx : EndsAside m.factory x) :
    EndsAside m'.factory y := by
  unfold EndsAside at hx ⊢
  rw [h.isStarted, h.activeVt, h.initialVt, hxy.isLocal, hxy.sessionRegistered,
    hxy.sessionClass, hxy.seatId]
  exact hx

theorem EndsSome.endsOne (h : EndsSome m m') {call : DisplayCall} (hcall : m.EndsOne call) :
    m'.EndsOne call := by
  cases call with
  | managerStatusChanged d =>
    intro y hy
    obtain ⟨x, hx, hxy⟩ := h.origin hy
    exact hxy.ending (hcall x hx)
  | factoryStatusChanged d =>
    intro y hy
    obtain ⟨x, hx, hxy⟩ := h.origin hy
    obtain ⟨hending, haside⟩ := hcall x hx
    exact ⟨hxy.ending hending, h.endsAside hxy haside⟩
  | finish d =>
    intro y hy
    obtain ⟨x, hx, hxy⟩ := h.origin hy
    exact h.endsAside hxy (hcall x hx)
  | _ => exact hcall.elim

theorem EndsSome.takesAside (h : EndsSome m m') {callback : StoreCallback} {left : List Nat}
    (hleft : m.TakesAside callback left) : m'.TakesAside callback left := by
  intro d hd y hy htakes
  obtain ⟨x, hx, hxy⟩ := h.origin hy
  exact h.endsAside hxy (hleft d hd x hx (hxy.takes htakes))

/-- A status is set that the end of the display gives to it. -/
theorem endsBy_setStatus {status : GdmDisplayStatus}
    (h : ∀ x, self.displays[d]? = some x → EndsAside self.factory x ∧
      (status = .finished ∨ status = unmanagedStatus x)) :
    EndsBy self (self.setStatus d status) := by
  unfold setStatus
  split
  · have hends : EndsSome self (self.modifyDisplay d fun x => { x with status := status }) :=
      endsSome_modifyDisplay fun x hx => ⟨rfl, rfl, rfl, rfl, .inr (h x hx).2⟩
    refine ⟨hends, fun call hcall => ?_⟩
    have hended : ∀ y, (self.modifyDisplay d fun x => { x with status := status }).displays[d]? =
        some y → Ending y ∧ EndsAside self.factory y := by
      intro y hy
      unfold modifyDisplay at hy
      rw [List.getElem?_modify_eq] at hy
      obtain ⟨x, hx, rfl⟩ := Option.map_eq_some_iff.mp hy
      exact ⟨(h x hx).2, (h x hx).1⟩
    rcases mem_notifyStatus hcall with rfl | rfl
    · exact fun y hy => (hended y hy).1
    · exact hended
  · exact (EndsSome.refl self).done

/-- What the end of a display depends on is as it was before others have ended. -/
theorem EndsSome.all_endsAside (h : EndsSome m m')
    (hd : ∀ x, m.displays[d]? = some x → EndsAside m.factory x) :
    ∀ y, m'.displays[d]? = some y → EndsAside m'.factory y := by
  intro y hy
  obtain ⟨x, hx, hxy⟩ := h.origin hy
  exact h.endsAside hxy (hd x hx)

theorem endsBy_finish (h : ∀ x, self.displays[d]? = some x → EndsAside self.factory x) :
    EndsBy self (self.finish d) := by
  have hquiet : EndsSome self (self.modifyDisplay d fun x => { x with finishIdle := false }) :=
    endsSome_modifyDisplay fun _ _ => ⟨rfl, rfl, rfl, rfl, .inl rfl⟩
  refine EndsBy.after (endsBy_setStatus fun y hy => ⟨?_, .inl rfl⟩) hquiet
  exact hquiet.all_endsAside h y hy

theorem endsSome_stopGreeterSession : EndsSome self (self.stopGreeterSession d) :=
  endsSome_modifyDisplay fun _ _ => ⟨rfl, rfl, rfl, rfl, .inl rfl⟩

theorem endsBy_unmanage (h : ∀ x, self.displays[d]? = some x → EndsAside self.factory x) :
    EndsBy self (self.unmanage d) := by
  unfold unmanage
  split
  · rename_i x hx
    apply endsBy_setStatus
    intro y hy
    obtain rfl := Option.some.inj (hx.symm.trans hy)
    exact ⟨h x hx, .inr rfl⟩
  · exact (EndsSome.refl self).done

/-- A display is stopped and unmanaged, and then finished. -/
theorem endsBy_stopped (h : ∀ x, self.displays[d]? = some x → EndsAside self.factory x) :
    EndsBy self (((self.stopGreeterSession d).unmanage d).andThen [.finish d]) := by
  have hstopped : EndsSome self (self.stopGreeterSession d) := endsSome_stopGreeterSession
  have hunmanaged : EndsBy self ((self.stopGreeterSession d).unmanage d) :=
    (endsBy_unmanage (hstopped.all_endsAside h)).after hstopped
  refine ⟨hunmanaged.1, fun call hcall => ?_⟩
  rcases List.mem_append.mp hcall with hin | hin
  · exact hunmanaged.2 call hin
  · rw [List.mem_singleton.mp hin]
    exact hunmanaged.1.all_endsAside h

/-! ## Iterations -/

/-- The callback finishes only displays that the factory does not make up for. -/
theorem endsBy_callback {callback : StoreCallback}
    (h : ∀ x, self.displays[d]? = some x → callback.Takes x → EndsAside self.factory x) :
    EndsBy self (self.callback callback d) := by
  have hsame : EndsBy self ⟨self, []⟩ := (EndsSome.refl self).done
  cases callback with
  | finishDisplayOnSeatIfWaiting =>
    unfold Displays.callback finishDisplayOnSeatIfWaiting
    dsimp only
    split
    · rename_i hwaiting
      apply endsBy_stopped
      intro x hx
      rw [hx] at hwaiting
      have hstatus : x.status = .waitingToFinish := of_decide_eq_true hwaiting
      exact h x hx hstatus
    · exact hsame
  | listifyDisplayIds => exact hsame
  | unexportDisplay => exact hsame
  | finishDisplay =>
    have haside : ∀ x, self.displays[d]? = some x → EndsAside self.factory x :=
      fun x hx => h x hx trivial
    unfold Displays.callback finishDisplay
    dsimp only
    split
    · exact endsBy_stopped haside
    · have hstopped : EndsSome self (self.stopGreeterSession d) := endsSome_stopGreeterSession
      exact (endsBy_finish (hstopped.all_endsAside haside)).after hstopped

/-- The manager does nothing for a display that has ended. -/
theorem managerStatusChanged_ending (h : ∀ x, self.displays[d]? = some x → Ending x) :
    self.managerStatusChanged around d = ⟨self, []⟩ := by
  unfold managerStatusChanged
  rw [if_neg]
  intro hprepared
  rw [Option.any_eq_true] at hprepared
  obtain ⟨x, hx, hstatus⟩ := hprepared
  exact (h x (storedDisplay_eq_some.mp hx).1).ne_prepared (of_decide_eq_true hstatus).1

/-- The factory queues the purge at most for the display. -/
theorem endsBy_factoryStatusChanged
    (h : ∀ x, self.displays[d]? = some x → Ending x ∧ EndsAside self.factory x) :
    EndsBy self (self.factoryStatusChanged around d) := by
  have hsame : EndsBy self ⟨self, []⟩ := (EndsSome.refl self).done
  have hqueued : EndsSome self self.queuePurgeDisplays :=
    ⟨Evolves.refl MayEnd.refl _ _, rfl, rfl, rfl⟩
  unfold factoryStatusChanged
  split
  · exact hsame
  · rename_i x hx
    split
    · exact hsame
    · rename_i hstarted
      obtain ⟨hending, haside⟩ := h x (storedDisplay_eq_some.mp hx).1
      have haside := haside.resolve_left fun hnot => hstarted (by simp [hnot])
      split
      · dsimp only
        rw [if_neg]
        · exact hqueued.done
        · rintro ⟨hlocal, hresets⟩
          rcases haside with hremote | ⟨_, hgreeter, hseat, hvt⟩
          · cases hremote.symm.trans hlocal
          · rcases hresets with ⟨hclass, _⟩ | hinitial | hother
            · exact hclass hgreeter
            · exact hvt hinitial
            · exact hother hseat
      · rename_i hfailed
        have hregistered : x.sessionRegistered = false := by
          rcases hending.cases with hstatus | hstatus | ⟨_, hregistered⟩
          · cases hfailed.symm.trans hstatus
          · cases hfailed.symm.trans hstatus
          · exact hregistered
        have hremote : x.isLocal = false :=
          haside.resolve_right fun hgreeter => nomatch hregistered.symm.trans hgreeter.1
        dsimp only
        rw [if_neg (by simp [hremote])]
        exact hqueued.done
      · rename_i hmanaged
        exact absurd hmanaged hending.ne_managed
      all_goals exact hsame

/-- What is part of such an end makes only calls that are. -/
theorem endsBy_exec (around : DisplaySurroundings) {call : DisplayCall} (h : self.EndsOne call) :
    EndsBy self (self.exec around call) := by
  cases call with
  | managerStatusChanged d =>
    change EndsBy self (self.managerStatusChanged around d)
    rw [managerStatusChanged_ending h]
    exact (EndsSome.refl self).done
  | factoryStatusChanged d => exact endsBy_factoryStatusChanged h
  | finish d => exact endsBy_finish h
  | _ => exact h.elim

theorem calm_storeForeach {callback : StoreCallback} {others : List DisplayCall}
    (h : self.TakesAside callback (self.entries around))
    (hothers : ∀ call ∈ others, call.iterates = false) :
    Calm self ((self.storeForeach around callback).andThen others).calls :=
  .during (List.nil_append _).symm (fun _ hcall => nomatch hcall) h hothers

/-- A call that is made outside of an iteration begins one at most. -/
theorem calm_exec_outside {call : DisplayCall} {rest : List DisplayCall}
    (hcall : call.iterates = false) (hrest : ∀ later ∈ rest, later.iterates = false)
    (hbegins : ∀ callback, call = .storeForeach callback →
      self.TakesAside callback (self.entries around)) :
    Calm ((self.exec around call).andThen rest).state ((self.exec around call).andThen rest).calls
    := by
  cases hchanges : call.changesStore with
  | true =>
    rw [WithCalls.andThen_calls]
    rcases exec_calls_of_changesStore self around hchanges with hnone | ⟨predicate, left, hone⟩
    · rw [hnone]
      exact .outside hrest
    · rw [hone]
      exact .removing hrest
  | false =>
    have hplain : call.plain = true := by
      unfold DisplayCall.plain
      rw [hcall, hchanges]
      rfl
    rcases plain_exec self around hplain with hmade | ⟨callback, rfl⟩
    · exact .outside (no_iteration_append (fun made hin => iterates_of_plain (hmade made hin))
        hrest)
    · exact calm_storeForeach (hbegins callback rfl) hrest

/-- An iteration goes on to the next entry, or is over. -/
theorem calm_exec_foreach {callback : StoreCallback} {left : List Nat}
    {others : List DisplayCall} (hleft : self.TakesAside callback left)
    (hothers : ∀ call ∈ others, call.iterates = false) :
    Calm ((self.exec around (.foreach callback left)).andThen others).state
      ((self.exec around (.foreach callback left)).andThen others).calls := by
  cases left with
  | nil => exact .outside hothers
  | cons d left =>
    obtain ⟨hends, hcalls⟩ := endsBy_callback (hleft d List.mem_cons_self)
    have hrest : self.TakesAside callback left :=
      fun e he => hleft e (List.mem_cons_of_mem d he)
    have heq : ((self.exec around (.foreach callback (d :: left))).andThen others).calls =
        (self.callback callback d).calls ++ .foreach callback left :: others := by
      change ((self.callback callback d).calls ++ [.foreach callback left]) ++ others = _
      rw [List.append_assoc, List.singleton_append]
    exact .during heq hcalls (hends.takesAside hrest) hothers

theorem Calm.step {input : Step × DisplaySurroundings} (h : Calm c.state c.calls)
    (hbegins : BeginsAside c input) :
    Calm (machine.step c input).state (machine.step c input).calls := by
  rcases step_cases c input with hsame | ⟨event, around, rfl, _, hstep⟩ |
    ⟨call, rest, around, rfl, hcalls, hstep⟩
  · rw [hsame]
    exact h
  · rw [hstep]
    rcases beginsOne_handleEvent c.state around event with hnone | ⟨predicate, left, hone⟩
    · exact .outside hnone
    · rw [hone]
      exact .removing fun _ hcall => nomatch hcall
  · rw [hstep]
    rw [hcalls] at h
    cases h with
    | outside hnone =>
      apply calm_exec_outside (hnone call List.mem_cons_self)
      · exact fun later hlater => hnone later (List.mem_cons_of_mem _ hlater)
      · rintro callback rfl
        unfold BeginsAside at hbegins
        rw [hcalls] at hbegins
        exact hbegins
    | @during callback left first others _ heq hfirst hleft hothers =>
      cases first with
      | nil =>
        obtain ⟨rfl, rfl⟩ := List.cons.inj heq
        exact calm_exec_foreach hleft hothers
      | cons part first =>
        obtain ⟨rfl, rfl⟩ := List.cons.inj heq
        obtain ⟨hends, hmade⟩ := endsBy_exec around (hfirst call List.mem_cons_self)
        refine .during (List.append_assoc _ _ _).symm ?_ (hends.takesAside hleft) hothers
        intro made hin
        rcases List.mem_append.mp hin with hnew | hold
        · exact hmade made hnew
        · exact hends.endsOne (hfirst made (List.mem_cons_of_mem _ hold))
    | @removing predicate left _ hothers =>
      cases left with
      | nil => exact .outside hothers
      | cons d left => exact .removing hothers

/-- No login screen is asked for in an iteration that is calm. -/
theorem Calm.findsDisplay (h : Calm c.state c.calls) (input : Step × DisplaySurroundings) :
    FindsDisplay c input := by
  rcases input with ⟨event | _, around⟩
  · trivial
  · rintro seatId after rest hcalls ⟨later, hlater, hiterates⟩
    rw [hcalls] at h
    cases h with
    | outside hnone =>
      cases hiterates.symm.trans (hnone later (List.mem_cons_of_mem _ hlater))
    | @during callback left first others _ heq hfirst _ _ =>
      cases first with
      | nil => cases (List.cons.inj heq).1
      | cons part first =>
        obtain ⟨rfl, _⟩ := List.cons.inj heq
        exact (hfirst _ List.mem_cons_self).elim

/-- When each iteration begins where the factory makes up for no display that it finishes,
no display has to be created during one. -/
theorem run_findsDisplay (vt : Nat) (inputs : List (Step × DisplaySurroundings))
    (hbegins : machine.Meets BeginsAside (initially vt) inputs) :
    machine.Meets FindsDisplay (initially vt) inputs := by
  have hstart : Calm (initially vt).state (initially vt).calls :=
    .outside fun _ hcall => nomatch hcall
  exact hbegins.imp_of_invariant
    (fun c : WithCalls Displays DisplayCall => Calm c.state c.calls)
    (fun _ input h hbegin => ⟨h.findsDisplay input, h.step hbegin⟩) hstart

/-- A user logs in and comes to another VT, where their session registers its display. -/
def loginDone : List (Step × DisplaySurroundings) :=
  [happens (.start ["seat0"])] ++ calls 3 ++
    [happens (.greeterOpened 0 (some "c1")), happens (.registerSession "c1"),
      happens (.registerDisplay "c1")] ++ calls 5 ++
    [happens (.vtChanged 1), happens (.startUserSession 0 (some "seat0") (some "c2") true false)] ++
    calls 1 ++ [happens (.vtChanged 2) { loginWindow := some "c1", loginWindowVt := 1 }] ++
    calls 2 ++ [happens (.registerDisplay "c2")] ++ calls 10

/-- The display of the greeter waits, and is finished by the iteration. -/
example : machine.Meets BeginsAside (initially 1) loginDone ∧
    ((machine.run (initially 1) loginDone).state.displays.map fun x => x.status) =
      [.finished, .managed] := by
  decide +kernel

end Displays

end Gdm
