import Gdm.Display.Iterations
import Gdm.Display.Rows

/-!
# Calls and failures come to an end

What a failure sets off is a chain of calls: the display is unmanaged and finished, the
factory is told of it and creates another display, which is prepared and may fail in turn.
A failure that is counted brings the counter nearer to its end, a display that waits is
finished only once, and a display that finishes is not replaced again after a failure.
So the chain comes to an end, and what is left of it is bounded by a number.
-/

namespace Gdm

open ObjectTable

namespace Displays

variable {self m : Displays} {around : DisplaySurroundings} {d b : Nat} {x : DisplayObject}
  {status : GdmDisplayStatus}

/-- The displays that wait to finish. -/
def waiting (self : Displays) : Nat :=
  self.displays.countP fun x => x.status = .waitingToFinish

/-- No failure has been counted, or a display that has failed is in the store. -/
def Spent (self : Displays) : Prop :=
  self.factory.numFailures = 0 ∨
    ∃ d < self.displays.length, (self.storedDisplay d).isSome = true ∧ .failed d ∈ self.log

instance : Decidable self.Spent := by
  unfold Spent
  infer_instance

/-- A bound on what calls can set off: each display that waits, each failure that can be
counted, and the one time that the counter can be set back. -/
def budget (self : Displays) : Nat :=
  self.waiting + (2 ^ 32 - self.factory.numFailures) + if self.Spent then 0 else 2 ^ 32

/-- All answers to the calls that keep the count bring them to an end, within the bound. -/
def Closes (m : Displays) (c : WithCalls Displays DisplayCall) : Prop :=
  displayCalls.Ends (fun self call around => self.KeepsCount around call)
    (fun s => s.budget ≤ m.budget) c

theorem setStatus_eq (hx : self.displays[d]? = some x) (hne : x.status ≠ status) :
    self.setStatus d status =
      (self.modifyDisplay d fun x => { x with status := status }).notifyStatus d := by
  unfold setStatus
  rw [hx]
  exact if_pos (by simpa using hne)

theorem unmanage_eq (hx : self.displays[d]? = some x) :
    self.unmanage d = self.setStatus d (unmanagedStatus x) := by
  unfold unmanage
  rw [hx]

/-! ## The bound -/

theorem Spent.of_le (h : self.Spent) (hnum : m.factory.numFailures = self.factory.numFailures)
    (hlog : ∀ d, .failed d ∈ self.log → .failed d ∈ m.log)
    (hstored : ∀ d x, self.storedDisplay d = some x → ∃ y, m.storedDisplay d = some y) :
    m.Spent := by
  rcases h with hzero | ⟨d, _, hsome, hfailed⟩
  · exact .inl (hnum.trans hzero)
  · obtain ⟨x, hx⟩ := Option.isSome_iff_exists.mp hsome
    obtain ⟨y, hy⟩ := hstored d x hx
    refine .inr ⟨d, ?_, Option.isSome_iff_exists.mpr ⟨y, hy⟩, hlog d hfailed⟩
    exact (List.getElem?_eq_some_iff.mp (storedDisplay_eq_some.mp hy).1).1

theorem budget_le (hnum : m.factory.numFailures = self.factory.numFailures)
    (hspent : self.Spent → m.Spent) :
    m.budget + self.waiting ≤ self.budget + m.waiting := by
  unfold budget
  rw [hnum]
  by_cases hself : self.Spent
  · rw [if_pos hself, if_pos (hspent hself)]
    omega
  · rw [if_neg hself]
    split <;> omega

/-- A change of one display that leaves it in the store. -/
theorem budget_modifyDisplay {f : DisplayObject → DisplayObject}
    (hstored : ∀ x, (f x).stored = x.stored)
    (hwaiting : ∀ x, self.displays[d]? = some x → (f x).status = .waitingToFinish →
      x.status = .waitingToFinish) :
    (self.modifyDisplay d f).budget + self.waiting ≤
      self.budget + (self.modifyDisplay d f).waiting ∧
        (self.modifyDisplay d f).waiting ≤ self.waiting := by
  have hle : (self.modifyDisplay d f).waiting ≤ self.waiting := by
    unfold waiting modifyDisplay
    dsimp only
    cases hx : self.displays[d]? with
    | none =>
      have hlength : self.displays.length ≤ d := List.getElem?_eq_none_iff.mp hx
      rw [List.modify_eq_self hlength]
    | some x =>
      have hcount := countP_modify (fun x => decide (x.status = .waitingToFinish)) f hx
      have hmono := hwaiting x hx
      by_cases hfx : (f x).status = .waitingToFinish
      · simp only [hfx, hmono hfx, decide_true, if_true] at hcount
        omega
      · simp only [hfx, decide_false] at hcount
        simp only [Bool.false_eq_true, if_false] at hcount
        omega
  refine ⟨budget_le rfl fun hspent => ?_, hle⟩
  have hlog : ∀ d, .failed d ∈ self.log → .failed d ∈ (self.modifyDisplay d f).log := fun _ h => h
  apply hspent.of_le (m := self.modifyDisplay d f) rfl hlog
  intro e x hx
  obtain ⟨hentry, hx'⟩ := storedDisplay_eq_some.mp hx
  by_cases he : d = e
  · subst he
    refine ⟨f x, storedDisplay_eq_some.mpr ⟨?_, (hstored x).trans hx'⟩⟩
    unfold modifyDisplay
    rw [List.getElem?_modify_eq, hentry]
    rfl
  · refine ⟨x, storedDisplay_eq_some.mpr ⟨?_, hx'⟩⟩
    unfold modifyDisplay
    rw [List.getElem?_modify_ne f _ he]
    exact hentry

theorem budget_modifyDisplay_le {f : DisplayObject → DisplayObject}
    (hstored : ∀ x, (f x).stored = x.stored)
    (hwaiting : ∀ x, self.displays[d]? = some x → (f x).status = .waitingToFinish →
      x.status = .waitingToFinish) :
    (self.modifyDisplay d f).budget ≤ self.budget := by
  obtain ⟨hbudget, hle⟩ := budget_modifyDisplay (d := d) hstored hwaiting
  omega

/-- A display stops waiting. -/
theorem budget_modifyDisplay_lt {f : DisplayObject → DisplayObject}
    (hstored : ∀ x, (f x).stored = x.stored) (hx : self.displays[d]? = some x)
    (hbefore : x.status = .waitingToFinish) (hafter : (f x).status ≠ .waitingToFinish) :
    (self.modifyDisplay d f).budget < self.budget := by
  have hwaiting : ∀ y, self.displays[d]? = some y → (f y).status = .waitingToFinish →
      y.status = .waitingToFinish := by
    intro y hy _
    obtain rfl := Option.some.inj (hy.symm.trans hx)
    exact hbefore
  obtain ⟨hbudget, _⟩ := budget_modifyDisplay (d := d) hstored hwaiting
  have hcount := countP_modify (fun x => decide (x.status = .waitingToFinish)) f hx
  simp only [hbefore, hafter, decide_true, decide_false, if_true] at hcount
  simp only [Bool.false_eq_true, if_false] at hcount
  have hlt : (self.modifyDisplay d f).waiting < self.waiting := by
    unfold waiting modifyDisplay
    dsimp only
    omega
  omega

theorem unmanagedStatus_ne_waiting (x : DisplayObject) : unmanagedStatus x ≠ .waitingToFinish := by
  unfold unmanagedStatus
  split <;> exact nofun

theorem budget_stopGreeterSession_le (self : Displays) (d : Nat) :
    (self.stopGreeterSession d).budget ≤ self.budget :=
  budget_modifyDisplay_le (fun _ => rfl) fun _ _ hwaits => hwaits

/-- A display that waits is stopped and unmanaged. -/
theorem budget_unmanage_stopGreeterSession_lt (hx : self.displays[d]? = some x)
    (hstatus : x.status = .waitingToFinish) :
    ((self.stopGreeterSession d).unmanage d).state.budget < self.budget := by
  refine Nat.lt_of_lt_of_le ?_ (budget_stopGreeterSession_le self d)
  have hstopped : (self.stopGreeterSession d).displays[d]? =
      some { x with launchEnvironment := none } := by
    unfold stopGreeterSession modifyDisplay
    rw [List.getElem?_modify_eq, hx]
    rfl
  have hne : x.status ≠ unmanagedStatus { x with launchEnvironment := none } := by
    rw [hstatus]
    exact fun heq => unmanagedStatus_ne_waiting _ heq.symm
  rw [unmanage_eq hstopped, setStatus_eq hstopped hne]
  exact budget_modifyDisplay_lt (fun _ => rfl) hstopped hstatus (unmanagedStatus_ne_waiting _)

/-! ## Notifications -/

theorem notifyStatus_eq (hx : self.storedDisplay d = some x) :
    self.notifyStatus d = ⟨self, [.managerStatusChanged d, .factoryStatusChanged d]⟩ := by
  unfold notifyStatus
  rw [hx]
  rfl

/-- The manager looks at displays that have been prepared. -/
theorem managerStatusChanged_eq (h : ∀ x, self.storedDisplay d = some x → x.status ≠ .prepared) :
    self.managerStatusChanged around d = ⟨self, []⟩ := by
  unfold managerStatusChanged
  rw [if_neg]
  intro hprepared
  rw [Option.any_eq_true] at hprepared
  obtain ⟨x, hx, hstatus⟩ := hprepared
  exact h x hx (of_decide_eq_true hstatus).1

theorem factoryStatusChanged_stopped (h : self.factory.isStarted = false) :
    self.factoryStatusChanged around d = ⟨self, []⟩ := by
  unfold factoryStatusChanged
  split
  · rfl
  · rw [if_pos (by simp [h])]

theorem factoryStatusChanged_prepared (hx : self.storedDisplay d = some x)
    (hstatus : x.status = .prepared) : self.factoryStatusChanged around d = ⟨self, []⟩ := by
  unfold factoryStatusChanged
  rw [hx]
  dsimp only
  rw [hstatus]
  split <;> rfl

theorem factoryStatusChanged_managed (around : DisplaySurroundings)
    (hx : self.storedDisplay d = some x) (hstatus : x.status = .managed) :
    self.factoryStatusChanged around d = ⟨self, []⟩ ∨
      self.factoryStatusChanged around d =
        ⟨self, [.storeForeach .finishDisplayOnSeatIfWaiting]⟩ := by
  unfold factoryStatusChanged
  rw [hx]
  dsimp only
  rw [hstatus]
  split
  · exact .inl rfl
  · exact .inr rfl

/-- The counter is set back when that is no loss. -/
theorem budget_reset (hno : self.factory.numFailures = 0 ∨ self.NoRow)
    (hdisplays : m.displays = self.displays) (hnum : m.factory.numFailures = 0) :
    m.budget ≤ self.budget := by
  have hwaiting : m.waiting = self.waiting := by
    unfold waiting
    rw [hdisplays]
  unfold budget
  rw [hwaiting, hnum, if_pos (.inl hnum)]
  rcases hno with hzero | hno
  · rw [hzero, if_pos (.inl hzero)]
  · by_cases hspent : self.Spent
    · rcases hspent with hzero | ⟨d, _, hsome, hfailed⟩
      · rw [hzero]
        omega
      · obtain ⟨x, hx⟩ := Option.isSome_iff_exists.mp hsome
        exact absurd hfailed (hno d x hx).1
    · rw [if_neg hspent]
      omega

/-- A failure that is counted uses the bound up. -/
theorem budget_failed (hwrap : self.factory.numFailures + 1 < 2 ^ 32)
    (hx : self.storedDisplay d = some x) (hdisplays : m.displays = self.displays)
    (hlog : .failed d ∈ m.log)
    (hnum : m.factory.numFailures = self.factory.numFailures + 1) : m.budget < self.budget := by
  have hwaiting : m.waiting = self.waiting := by
    unfold waiting
    rw [hdisplays]
  have hspent : m.Spent := by
    have hx' : m.storedDisplay d = some x := by
      unfold storedDisplay at hx ⊢
      rw [hdisplays]
      exact hx
    refine .inr ⟨d, ?_, Option.isSome_iff_exists.mpr ⟨x, hx'⟩, hlog⟩
    exact (List.getElem?_eq_some_iff.mp (storedDisplay_eq_some.mp hx').1).1
  unfold budget
  rw [hwaiting, hnum, if_pos hspent]
  omega

theorem factoryStatusChanged_failed
    (hkeeps : self.KeepsCount around (.factoryStatusChanged d))
    (hstarted : self.factory.isStarted = true) (hx : self.storedDisplay d = some x)
    (hstatus : x.status = .failed) (hlocal : x.isLocal = true) :
    (self.factoryStatusChanged around d).state.budget < self.budget := by
  have hwrap := (hkeeps x hx hstarted).2 hstatus hlocal
  unfold factoryStatusChanged
  rw [hx]
  dsimp only
  rw [if_neg (by simp [hstarted]), hstatus]
  dsimp only
  rw [if_pos hlocal]
  refine budget_failed hwrap hx rfl ?_ (Nat.mod_eq_of_lt hwrap)
  exact List.mem_append_right _ List.mem_cons_self

/-- What the factory does when it is told of a status. -/
theorem factoryStatusChanged_cases
    (hkeeps : self.KeepsCount around (.factoryStatusChanged d)) :
    (∃ m, m.budget ≤ self.budget ∧ self.factoryStatusChanged around d = ⟨m, []⟩) ∨
      (∃ m seatId, m.budget ≤ self.budget ∧
        self.factoryStatusChanged around d = ⟨m, [.ensureDisplayForSeat seatId (some d)]⟩) ∨
      self.factoryStatusChanged around d =
        ⟨self, [.storeForeach .finishDisplayOnSeatIfWaiting]⟩ := by
  have hsame : self.budget ≤ self.budget := Nat.le_refl _
  cases hx : self.storedDisplay d with
  | none =>
    refine .inl ⟨self, hsame, ?_⟩
    unfold factoryStatusChanged
    rw [hx]
  | some x =>
    cases hstarted : self.factory.isStarted with
    | false => exact .inl ⟨self, hsame, factoryStatusChanged_stopped hstarted⟩
    | true =>
      obtain ⟨hfinished, hfailed⟩ := hkeeps x hx hstarted
      unfold factoryStatusChanged
      rw [hx]
      dsimp only
      rw [if_neg (by simp [hstarted])]
      cases hstatus : x.status with
      | finished =>
        dsimp only
        split
        · rename_i hresets
          refine .inr (.inl ⟨_, _, ?_, rfl⟩)
          exact budget_reset (hfinished hstatus hresets) rfl rfl
        · refine .inl ⟨_, ?_, rfl⟩
          exact hsame
      | failed =>
        dsimp only
        split
        · rename_i hlocal
          have hwrap := hfailed hstatus hlocal
          have hmod : (self.factory.numFailures + 1) % 2 ^ 32 = self.factory.numFailures + 1 :=
            Nat.mod_eq_of_lt hwrap
          have hlt : ∀ m : Displays, m.displays = self.displays → .failed d ∈ m.log →
              m.factory.numFailures = (self.factory.numFailures + 1) % 2 ^ 32 →
                m.budget ≤ self.budget := by
            intro m hdisplays hlog hnum
            exact Nat.le_of_lt (budget_failed hwrap hx hdisplays hlog (hnum.trans hmod))
          have hlast : DisplayEffect.failed d ∈ self.log ++ [.failed d] :=
            List.mem_append_right _ List.mem_cons_self
          split
          · refine .inl ⟨_, ?_, rfl⟩
            exact hlt _ rfl hlast rfl
          · refine .inr (.inl ⟨_, _, ?_, rfl⟩)
            exact hlt _ rfl hlast rfl
        · refine .inl ⟨_, ?_, rfl⟩
          exact hsame
      | managed => exact .inr (.inr rfl)
      | unmanaged => exact .inl ⟨self, hsame, rfl⟩
      | prepared => exact .inl ⟨self, hsame, rfl⟩
      | waitingToFinish => exact .inl ⟨self, hsame, rfl⟩

/-! ## Chains of calls -/

theorem Closes.mono {c : WithCalls Displays DisplayCall} (h : Closes m c)
    (hle : m.budget ≤ self.budget) : Closes self c :=
  h.imp fun _ hs => Nat.le_trans hs hle

theorem Closes.done (hle : m.budget ≤ self.budget) : Closes self ⟨m, []⟩ :=
  .nil hle

/-- One call, whatever it meets. -/
theorem Closes.call {call : DisplayCall}
    (h : ∀ around, self.KeepsCount around call → Closes m (self.exec around call)) :
    Closes m ⟨self, [call]⟩ :=
  .single h

/-- Below the bound `b` every call that leaves the store as it is comes to an end. -/
def ClosesBelow (b : Nat) : Prop :=
  ∀ m : Displays, m.budget < b → ∀ call : DisplayCall, call.changesStore = false →
    Closes m ⟨m, [call]⟩

theorem ClosesBelow.calls (ih : ClosesBelow b) (hlt : m.budget < b)
    (hle : m.budget ≤ self.budget) {calls : List DisplayCall}
    (hcalls : ∀ call ∈ calls, call.changesStore = false) : Closes self ⟨m, calls⟩ := by
  have hall : Closes m ⟨m, calls⟩ := by
    apply CallSemantics.Ends.all
    · intro call hcall s hs
      exact (ih s (Nat.lt_of_le_of_lt hs hlt) call (hcalls call hcall)).mono hs
    · exact Nat.le_refl _
  exact hall.mono hle

/-- The displays that wait are finished; each of them uses the bound up. -/
theorem closes_foreach_waiting (ih : ClosesBelow b) (rest : List Nat) (hm : m.budget ≤ b) :
    Closes m ⟨m, [.foreach .finishDisplayOnSeatIfWaiting rest]⟩ := by
  induction rest with
  | nil => exact .call fun _ _ => .done (Nat.le_refl _)
  | cons d rest ihrest =>
    refine .call fun around _ => ?_
    have hquiet : ∀ call ∈ ((m.callback .finishDisplayOnSeatIfWaiting d).andThen
        [.foreach .finishDisplayOnSeatIfWaiting rest]).calls, call.changesStore = false := by
      intro call hcall
      rcases List.mem_append.mp hcall with hin | hin
      · exact changesStore_of_plain (plain_callback _ call hin)
      · rw [List.mem_singleton.mp hin]
        rfl
    change Closes m ((m.callback .finishDisplayOnSeatIfWaiting d).andThen _)
    by_cases hwaits : ∃ x, m.displays[d]? = some x ∧ x.status = .waitingToFinish
    · obtain ⟨x, hx, hstatus⟩ := hwaits
      have hlt : (m.callback .finishDisplayOnSeatIfWaiting d).state.budget < m.budget := by
        change (m.finishDisplayOnSeatIfWaiting d).state.budget < m.budget
        unfold finishDisplayOnSeatIfWaiting
        rw [hx, if_pos (by simpa using hstatus)]
        exact budget_unmanage_stopGreeterSession_lt hx hstatus
      exact ih.calls (Nat.lt_of_lt_of_le hlt hm) (Nat.le_of_lt hlt) hquiet
    · have hnone : m.callback .finishDisplayOnSeatIfWaiting d = ⟨m, []⟩ := by
        change m.finishDisplayOnSeatIfWaiting d = ⟨m, []⟩
        unfold finishDisplayOnSeatIfWaiting
        apply if_neg
        rw [Option.any_eq_true]
        rintro ⟨x, hx, hstatus⟩
        exact hwaits ⟨x, hx, of_decide_eq_true hstatus⟩
      rw [hnone]
      exact ihrest

theorem closes_finishWaiting (ih : ClosesBelow b) (hm : m.budget ≤ b) :
    Closes m ⟨m, [.storeForeach .finishDisplayOnSeatIfWaiting]⟩ :=
  .call fun _ _ => closes_foreach_waiting ih _ hm

theorem closes_factory_stopped (hstopped : m.factory.isStarted = false)
    {rest : List DisplayCall} (h : Closes self ⟨m, rest⟩) :
    Closes self ⟨m, .factoryStatusChanged d :: rest⟩ := by
  apply CallSemantics.Ends.cons
  intro around _
  change Closes self ((m.factoryStatusChanged around d).andThen rest)
  rw [factoryStatusChanged_stopped hstopped]
  exact h

theorem closes_manager_quiet (hx : m.storedDisplay d = some x) (hstatus : x.status ≠ .prepared)
    {rest : List DisplayCall} (h : Closes self ⟨m, rest⟩) :
    Closes self ⟨m, .managerStatusChanged d :: rest⟩ := by
  apply CallSemantics.Ends.cons
  intro around _
  change Closes self ((m.managerStatusChanged around d).andThen rest)
  have hquiet : m.managerStatusChanged around d = ⟨m, []⟩ := by
    apply managerStatusChanged_eq
    intro y hy
    obtain rfl := Option.some.inj (hy.symm.trans hx)
    exact hstatus
  rw [hquiet]
  exact h

theorem storedDisplay_modifyDisplay {f : DisplayObject → DisplayObject}
    (hx : self.storedDisplay d = some x) (hstored : (f x).stored = x.stored) :
    (self.modifyDisplay d f).storedDisplay d = some (f x) := by
  obtain ⟨hentry, hx'⟩ := storedDisplay_eq_some.mp hx
  refine storedDisplay_eq_some.mpr ⟨?_, hstored.trans hx'⟩
  unfold modifyDisplay
  rw [List.getElem?_modify_eq, hentry]
  rfl

/-- A login window is activated. -/
theorem closes_activate (ih : ClosesBelow b) (hm : m.budget ≤ b)
    (hx : m.storedDisplay d = some x) : Closes m (m.setStatusProperty d .managed) := by
  have hstored : (m.modifyDisplay d fun x => { x with status := .managed }).storedDisplay d =
      some { x with status := .managed } := storedDisplay_modifyDisplay hx rfl
  have hle : (m.modifyDisplay d fun x => { x with status := .managed }).budget ≤ m.budget :=
    budget_modifyDisplay_le (fun _ => rfl) fun _ _ hwaits => nomatch hwaits
  unfold setStatusProperty
  rw [notifyStatus_eq hstored]
  refine closes_manager_quiet hstored nofun (.call fun around _ => ?_)
  change Closes m (factoryStatusChanged _ around d)
  rcases factoryStatusChanged_managed around hstored rfl with hnone | hfinish
  · rw [hnone]
    exact .done hle
  · rw [hfinish]
    exact (closes_finishWaiting ih (Nat.le_trans hle hm)).mono hle

/-- When the factory has been stopped, nothing comes of the end of a display. -/
theorem closes_stopped (hle : m.budget ≤ self.budget) (hstopped : m.factory.isStarted = false)
    (hx : m.storedDisplay d = some x) :
    Closes self ⟨m, [.finish d, .factoryStatusChanged d]⟩ := by
  apply CallSemantics.Ends.cons
  intro around _
  change Closes self ((m.finish d).andThen [.factoryStatusChanged d])
  have hidle : (m.modifyDisplay d fun x => { x with finishIdle := false }).budget ≤ m.budget :=
    budget_modifyDisplay_le (fun _ => rfl) fun _ _ hwaits => hwaits
  have hidle' := storedDisplay_modifyDisplay (f := fun x => { x with finishIdle := false }) hx rfl
  unfold finish setStatus
  split
  · have hfinished := storedDisplay_modifyDisplay
      (f := fun x => { x with status := .finished }) hidle' rfl
    rw [notifyStatus_eq hfinished]
    refine closes_manager_quiet hfinished nofun ?_
    refine closes_factory_stopped ?_ (closes_factory_stopped ?_ (.done ?_))
    · exact hstopped
    · exact hstopped
    · refine Nat.le_trans (budget_modifyDisplay_le (fun _ => rfl) ?_) (Nat.le_trans hidle hle)
      exact fun _ _ hwaits => nomatch hwaits
  · refine closes_factory_stopped ?_ (.done (Nat.le_trans hidle hle))
    exact hstopped

/-- A new greeter has failed before the factory was told that it had been prepared. -/
theorem closes_failed (ih : ClosesBelow b) (hle : m.budget ≤ self.budget)
    (hself : self.budget ≤ b) (hx : m.storedDisplay d = some x) (hstatus : x.status = .failed)
    (hlocal : x.isLocal = true) :
    Closes self ⟨m, [.managerStatusChanged d, .factoryStatusChanged d, .finish d,
      .factoryStatusChanged d]⟩ := by
  refine closes_manager_quiet hx ?_ ?_
  · rw [hstatus]
    exact nofun
  · cases hstarted : m.factory.isStarted with
    | true =>
      apply CallSemantics.Ends.cons
      intro around hkeeps
      -- the failure is counted, and what comes after it is below the bound
      have hlt := factoryStatusChanged_failed hkeeps hstarted hx hstatus hlocal
      apply ih.calls (Nat.lt_of_lt_of_le hlt (Nat.le_trans hle hself))
        (Nat.le_of_lt (Nat.lt_of_lt_of_le hlt hle))
      intro call hcall
      rcases List.mem_append.mp hcall with hin | hin
      · exact changesStore_of_plain (plain_factoryStatusChanged call hin)
      · have hlast : call = .finish d ∨ call = .factoryStatusChanged d := by simpa using hin
        rcases hlast with rfl | rfl <;> rfl
    | false => exact closes_factory_stopped hstarted (closes_stopped hle hstarted hx)

/-- A new greeter cannot be set up: it is unmanaged, and then finished. -/
theorem closes_failing (ih : ClosesBelow b) (hm : m.budget ≤ b) (hx : m.storedDisplay d = some x)
    (hstatus : x.status = .prepared) (hregistered : x.sessionRegistered = false)
    (hlocal : x.isLocal = true) :
    Closes m (((m.unmanage d).andThen [.finish d]).andThen [.factoryStatusChanged d]) := by
  obtain ⟨hentry, _⟩ := storedDisplay_eq_some.mp hx
  have hunmanaged : unmanagedStatus x = .failed := by
    unfold unmanagedStatus
    rw [hregistered]
    rfl
  have hne : x.status ≠ .failed := by
    rw [hstatus]
    exact nofun
  have hfailed := storedDisplay_modifyDisplay (f := fun x => { x with status := .failed }) hx rfl
  rw [unmanage_eq hentry, hunmanaged, setStatus_eq hentry hne, notifyStatus_eq hfailed]
  refine closes_failed ih (budget_modifyDisplay_le (fun _ => rfl) ?_) hm hfailed rfl hlocal
  exact fun _ _ hwaits => nomatch hwaits

/-- A greeter that has just been created is set up, or it fails and that is counted. -/
theorem closes_new (ih : ClosesBelow b) (hm : m.budget ≤ b) (hx : m.storedDisplay d = some x)
    (hstatus : x.status = .prepared) (hregistered : x.sessionRegistered = false)
    (hlocal : x.isLocal = true) :
    Closes m ⟨m, [.managerStatusChanged d, .factoryStatusChanged d]⟩ := by
  have hset : ∀ m', m'.budget ≤ m.budget →
      (∃ y, m'.storedDisplay d = some y ∧ y.status = .prepared) →
        Closes m ⟨m', [.factoryStatusChanged d]⟩ := by
    rintro m' hle ⟨y, hy, hprepared⟩
    refine .call fun around _ => ?_
    change Closes m (factoryStatusChanged _ around d)
    rw [factoryStatusChanged_prepared hy hprepared]
    exact .done hle
  have hsame : Closes m ⟨m, [.factoryStatusChanged d]⟩ := hset m (Nat.le_refl _) ⟨x, hx, hstatus⟩
  apply CallSemantics.Ends.cons
  intro around _
  change Closes m ((m.managerStatusChanged around d).andThen _)
  have hgreeter : Closes m ((m.setUpGreeterSession around d).andThen
      [.factoryStatusChanged d]) := by
    unfold setUpGreeterSession
    split
    · apply hset
      · exact budget_modifyDisplay_le (fun _ => rfl) fun _ _ hwaits => hwaits
      · exact ⟨_, storedDisplay_modifyDisplay hx rfl, hstatus⟩
    · exact closes_failing ih hm hx hstatus hregistered hlocal
  unfold managerStatusChanged setUpSession
  split
  · split
    · exact hgreeter
    · exact hsame
    · exact hgreeter
    · exact hset _ (Nat.le_refl _) ⟨x, hx, hstatus⟩
  · exact hsame

/-- Another display changes nothing of the bound. -/
theorem budget_append (hx : x.status ≠ .waitingToFinish)
    (hdisplays : m.displays = self.displays ++ [x])
    (hlog : ∀ d, .failed d ∈ self.log → .failed d ∈ m.log)
    (hnum : m.factory.numFailures = self.factory.numFailures) : m.budget ≤ self.budget := by
  have hwaiting : m.waiting = self.waiting := by
    unfold waiting
    rw [hdisplays, List.countP_append, List.countP_singleton]
    simp [hx]
  have hbudget : m.budget + self.waiting ≤ self.budget + m.waiting := by
    apply budget_le hnum
    intro hspent
    apply hspent.of_le hnum hlog
    intro d y hy
    obtain ⟨hentry, hstored⟩ := storedDisplay_eq_some.mp hy
    refine ⟨y, storedDisplay_eq_some.mpr ⟨?_, hstored⟩⟩
    rw [hdisplays, List.getElem?_append_left (List.getElem?_eq_some_iff.mp hentry).1]
    exact hentry
  omega

theorem Settles.budget (h : Settles self m) : m.budget ≤ self.budget := by
  have hwaiting : m.waiting = self.waiting := by
    unfold waiting
    rw [h.displays]
  have hbudget : m.budget + self.waiting ≤ self.budget + m.waiting := by
    apply budget_le h.numFailures
    intro hspent
    apply hspent.of_le h.numFailures fun _ hfailed => h.log ▸ hfailed
    intro d y hy
    unfold storedDisplay at hy ⊢
    rw [h.displays]
    exact ⟨y, hy⟩
  omega

/-- `ensure_display_for_seat` and what it sets off. -/
theorem closes_ensureDisplayForSeat (ih : ClosesBelow b) (hm : m.budget ≤ b)
    (seatId : Option String) (after : Option Nat) :
    Closes m ⟨m, [.ensureDisplayForSeat seatId after]⟩ := by
  refine .call fun around _ => ?_
  change Closes m (m.ensureDisplayForSeat around seatId after)
  rcases m.ensureDisplayForSeat_cases around seatId after with
    ⟨d, x, _, hx, _, heq⟩ | ⟨settled, hsettled, heq⟩ | ⟨_, settled, hsettled, heq⟩
  · rw [heq]
    exact closes_activate ih hm hx
  · rw [heq]
    exact .done hsettled.budget
  · rw [heq]
    have hle : ({ settled with
        displays := settled.displays ++ [prepared around { seatId := seatId }]
        log := settled.log ++ [.created settled.displays.length seatId after] } :
          Displays).budget ≤ m.budget := by
      refine Nat.le_trans (budget_append ?_ rfl ?_ rfl) hsettled.budget
      · exact nofun
      · exact fun d hfailed => List.mem_append_left _ hfailed
    have hnew : ({ settled with
        displays := settled.displays ++ [prepared around { seatId := seatId }]
        log := settled.log ++ [.created settled.displays.length seatId after] } :
          Displays).storedDisplay settled.displays.length =
            some (prepared around { seatId := seatId }) :=
      storedDisplay_eq_some.mpr ⟨List.getElem?_concat_length, rfl⟩
    exact (closes_new ih (Nat.le_trans hle hm) hnew rfl rfl rfl).mono hle

theorem closes_factoryStatusChanged (ih : ClosesBelow b) (hm : m.budget ≤ b) (d : Nat) :
    Closes m ⟨m, [.factoryStatusChanged d]⟩ := by
  refine .call fun around hkeeps => ?_
  change Closes m (m.factoryStatusChanged around d)
  rcases factoryStatusChanged_cases hkeeps with
    ⟨m', hle, heq⟩ | ⟨m', seatId, hle, heq⟩ | heq
  · rw [heq]
    exact .done hle
  · rw [heq]
    exact (closes_ensureDisplayForSeat ih (Nat.le_trans hle hm) seatId (some d)).mono hle
  · rw [heq]
    exact closes_finishWaiting ih hm

/-- A display gets a status in which there is nothing to set up. -/
theorem closes_setStatus (ih : ClosesBelow b) (hm : m.budget ≤ b)
    (hprepared : status ≠ .prepared) (hwaits : status ≠ .waitingToFinish) :
    Closes m (m.setStatus d status) := by
  have hle : (m.modifyDisplay d fun x => { x with status := status }).budget ≤ m.budget :=
    budget_modifyDisplay_le (fun _ => rfl) fun _ _ h => absurd h hwaits
  unfold setStatus
  split
  · cases hx : (m.modifyDisplay d fun x => { x with status := status }).storedDisplay d with
    | none =>
      unfold notifyStatus
      rw [hx]
      exact .done hle
    | some y =>
      rw [notifyStatus_eq hx]
      refine closes_manager_quiet hx ?_ ((closes_factoryStatusChanged ih ?_ d).mono hle)
      · have hentry := (storedDisplay_eq_some.mp hx).1
        unfold modifyDisplay at hentry
        rw [List.getElem?_modify_eq] at hentry
        obtain ⟨x, _, rfl⟩ := Option.map_eq_some_iff.mp hentry
        exact hprepared
      · exact Nat.le_trans hle hm
  · exact .done (Nat.le_refl _)

theorem closes_finish (ih : ClosesBelow b) (hm : m.budget ≤ b) (d : Nat) :
    Closes m (m.finish d) := by
  have hle : (m.modifyDisplay d fun x => { x with finishIdle := false }).budget ≤ m.budget :=
    budget_modifyDisplay_le (fun _ => rfl) fun _ _ hwaits => hwaits
  have hfinished : Closes (m.modifyDisplay d fun x => { x with finishIdle := false })
      ((m.modifyDisplay d fun x => { x with finishIdle := false }).setStatus d .finished) :=
    closes_setStatus ih (Nat.le_trans hle hm) nofun nofun
  exact hfinished.mono hle

theorem closes_unmanage (ih : ClosesBelow b) (hm : m.budget ≤ b) (d : Nat) :
    Closes m (m.unmanage d) := by
  unfold unmanage
  split
  · apply closes_setStatus ih hm
    · unfold unmanagedStatus
      split <;> exact nofun
    · exact unmanagedStatus_ne_waiting _
  · exact .done (Nat.le_refl _)

/-- A display is unmanaged and then finished. -/
theorem closes_unmanage_finish (ih : ClosesBelow b) (hm : m.budget ≤ b) (d : Nat) :
    Closes m ((m.unmanage d).andThen [.finish d]) := by
  apply (closes_unmanage ih hm d).andThen
  intro s hs
  have hfinish : Closes s ⟨s, [.finish d]⟩ :=
    .call fun _ _ => closes_finish ih (Nat.le_trans hs hm) d
  exact hfinish.mono hs

theorem closes_managerStatusChanged (ih : ClosesBelow b) (hm : m.budget ≤ b) (d : Nat) :
    Closes m ⟨m, [.managerStatusChanged d]⟩ := by
  refine .call fun around _ => ?_
  change Closes m (m.managerStatusChanged around d)
  have hgreeter : Closes m (m.setUpGreeterSession around d) := by
    unfold setUpGreeterSession
    split
    · exact .done (budget_modifyDisplay_le (fun _ => rfl) fun _ _ hwaits => hwaits)
    · exact closes_unmanage_finish ih hm d
  have hsame : Closes m ⟨m, []⟩ := .done (Nat.le_refl _)
  unfold managerStatusChanged setUpSession
  split
  · split
    · exact hgreeter
    · exact hsame
    · exact hgreeter
    · exact .done (Nat.le_refl _)
  · exact hsame

theorem closes_callback (ih : ClosesBelow b) (hm : m.budget ≤ b) (callback : StoreCallback)
    (d : Nat) : Closes m (m.callback callback d) := by
  have hle : (m.stopGreeterSession d).budget ≤ m.budget := budget_stopGreeterSession_le m d
  have hstopped : Closes m (((m.stopGreeterSession d).unmanage d).andThen [.finish d]) :=
    (closes_unmanage_finish ih (Nat.le_trans hle hm) d).mono hle
  cases callback with
  | finishDisplayOnSeatIfWaiting =>
    change Closes m (m.finishDisplayOnSeatIfWaiting d)
    unfold finishDisplayOnSeatIfWaiting
    split
    · exact hstopped
    · exact .done (Nat.le_refl _)
  | listifyDisplayIds => exact .done (Nat.le_refl _)
  | unexportDisplay => exact .done (Nat.le_refl _)
  | finishDisplay =>
    change Closes m (m.finishDisplay d)
    unfold finishDisplay
    dsimp only
    split
    · exact hstopped
    · exact (closes_finish ih (Nat.le_trans hle hm) d).mono hle

theorem closes_foreach (ih : ClosesBelow b) (callback : StoreCallback) (rest : List Nat)
    (hm : m.budget ≤ b) : Closes m ⟨m, [.foreach callback rest]⟩ := by
  induction rest generalizing m with
  | nil => exact .call fun _ _ => .done (Nat.le_refl _)
  | cons d rest ihrest =>
    refine .call fun around _ => ?_
    apply (closes_callback ih hm callback d).andThen
    intro s hs
    exact (ihrest (Nat.le_trans hs hm)).mono hs

/-- One more call can be made below one more. -/
theorem ClosesBelow.succ (ih : ClosesBelow b) : ClosesBelow (b + 1) := by
  intro m hlt call hcall
  have hm : m.budget ≤ b := Nat.le_of_lt_succ hlt
  cases call with
  | managerStatusChanged d => exact closes_managerStatusChanged ih hm d
  | factoryStatusChanged d => exact closes_factoryStatusChanged ih hm d
  | ensureDisplayForSeat seatId after => exact closes_ensureDisplayForSeat ih hm seatId after
  | finish d => exact .call fun _ _ => closes_finish ih hm d
  | queueFinish d =>
    refine .call fun _ _ => .done ?_
    exact budget_modifyDisplay_le (fun _ => rfl) fun _ _ hwaits => hwaits
  | finishUnlessFailed d =>
    refine .call fun around _ => ?_
    change Closes m (m.finishUnlessFailed d)
    unfold finishUnlessFailed
    split
    · exact closes_finish ih hm d
    · exact .done (Nat.le_refl _)
  | createDisplayForUserSession seatId sessionId isLocal => cases hcall
  | storeRemove d => cases hcall
  | storeForeach callback => exact .call fun _ _ => closes_foreach ih callback _ hm
  | foreach callback rest => exact closes_foreach ih callback rest hm
  | foreachRemove predicate rest => cases hcall
  | storeClear => cases hcall

theorem closesBelow (b : Nat) : ClosesBelow b := by
  induction b with
  | zero => exact fun _ hlt => absurd hlt (Nat.not_lt_zero _)
  | succ b ih => exact ih.succ

/-! ## All calls -/

/-- The answers to a list of calls that keep the count bring it to an end. -/
def AllEnd (c : WithCalls Displays DisplayCall) : Prop :=
  displayCalls.Ends (fun self call around => self.KeepsCount around call) (fun _ => True) c

theorem allEnd_foreachRemove (predicate : StorePredicate) (rest : List Nat) :
    AllEnd ⟨m, [.foreachRemove predicate rest]⟩ := by
  induction rest generalizing m with
  | nil => exact .single fun _ _ => .nil trivial
  | cons d rest ih => exact .single fun _ _ => ih

theorem allEnd (m : Displays) (calls : List DisplayCall) : AllEnd ⟨m, calls⟩ := by
  apply CallSemantics.Ends.all
  · intro call _ s _
    cases hchanges : call.changesStore with
    | false =>
      have hcloses := closesBelow (s.budget + 1) s (Nat.lt_succ_self _) call hchanges
      exact hcloses.imp fun _ _ => trivial
    | true =>
      cases call with
      | createDisplayForUserSession seatId sessionId isLocal =>
        exact .single fun _ _ => .nil trivial
      | storeRemove d => exact .single fun _ _ => allEnd_foreachRemove _ _
      | foreachRemove predicate rest => exact allEnd_foreachRemove predicate rest
      | storeClear => exact .single fun _ _ => .nil trivial
      | _ => cases hchanges
  · trivial

/-- At most `MAX_DISPLAY_FAILURES` displays are created in a row because the one before has
failed. -/
def RowsBounded (self : Displays) : Prop :=
  ∀ seatId d n, InARow self.log seatId d n → n ≤ maxDisplayFailures

/-- However the calls that are under way are answered, as long as the count is kept, they
come to an end. -/
def CallsEnd (c : WithCalls Displays DisplayCall) : Prop :=
  ∀ answers : ℕ → DisplaySurroundings,
    (∀ n call rest, (displayCalls.after c answers n).calls = call :: rest →
      (displayCalls.after c answers n).state.KeepsCount (answers n) call) →
        ∃ n, (displayCalls.after c answers n).calls = []

/-- In every run in which the count is kept, the failures in a row are bounded, and all that
a failure sets off comes to an end. -/
theorem run_failures (vt : Nat) (inputs : List (Step × DisplaySurroundings))
    (h : machine.Meets CountsFailures (initially vt) inputs) :
    RowsBounded (machine.run (initially vt) inputs).state ∧
      CallsEnd (machine.run (initially vt) inputs) := by
  constructor
  · have hrows : RowsCounted (machine.run (initially vt) inputs) := run_rowsCounted vt inputs h
    exact hrows.covered.bounded
  · exact (allEnd _ _).exists_nil

/-- No greeter can be set up on seat1. -/
def failingGreeters (n : Nat) : List (Step × DisplaySurroundings) :=
  happens (.start ["seat1"]) { greeterUser := false } :: calls n { greeterUser := false }

/-- A greeter that fails is unmanaged and then finished, and at its end the counter is set
back: there are six replacements in a row, and none of them has been managed. -/
theorem failingGreeters_six_in_a_row :
    InARow (machine.run (initially 1) (failingGreeters 28)).state.log (some "seat1") 6 6 ∧
      ¬ RowsBounded (machine.run (initially 1) (failingGreeters 28)).state ∧
        ((machine.run (initially 1) (failingGreeters 28)).state.displays.all fun x =>
          !x.sessionRegistered && x.status ≠ .managed) := by
  have hreplaces : ∀ d < 6, Replaces (machine.run (initially 1) (failingGreeters 28)).state.log
      (some "seat1") d (d + 1) := by
    decide +kernel
  have hrow : ∀ n ≤ 6, InARow (machine.run (initially 1) (failingGreeters 28)).state.log
      (some "seat1") n n := by
    intro n hn
    induction n with
    | zero => exact .first 0
    | succ n ih => exact .next (ih (Nat.le_of_succ_le hn)) (hreplaces n hn)
  refine ⟨hrow 6 (Nat.le_refl 6), fun hbounded => ?_, by decide +kernel⟩
  have hle := hbounded _ _ _ (hrow 6 (Nat.le_refl 6))
  exact absurd hle (by decide)

/-- On seat0, away from the initial VT, a greeter that ends is replaced once. -/
theorem run_failures_seat0 :
    RowsBounded (machine.run (initially 1) ([happens (.start ["seat0"])] ++ calls 3 ++
      [happens (.greeterGone 0)] ++ calls 8 ++ [happens (.finishIdle 0)] ++ calls 3)).state ∧
    CallsEnd (machine.run (initially 1) ([happens (.start ["seat0"])] ++ calls 3 ++
      [happens (.greeterGone 0)] ++ calls 8 ++ [happens (.finishIdle 0)] ++ calls 3)) := by
  apply run_failures
  have hkeeps : machine.Meets (fun c input => c.state.factory.numFailures < 2 ∧
      ∀ x ∈ c.state.displays, ¬ FinishResets c.state.factory input.2 x) (initially 1)
        ([happens (.start ["seat0"])] ++ calls 3 ++ [happens (.greeterGone 0)] ++ calls 8 ++
          [happens (.finishIdle 0)] ++ calls 3) := by
    decide +kernel
  refine hkeeps.imp fun c input h => ?_
  obtain ⟨hnum, hresets⟩ := h
  rcases input with ⟨event | _, around⟩
  · trivial
  · intro call rest _
    cases call with
    | factoryStatusChanged d =>
      intro x hx _
      have hmem := List.mem_of_getElem? (storedDisplay_eq_some.mp hx).1
      exact ⟨fun _ hreset => absurd hreset (hresets x hmem), fun _ _ => by omega⟩
    | _ => trivial

end Displays

end Gdm
