import Gdm.Display.Evolution

/-!
# Failures in a row

A display that is created when another one has failed makes up for it.  The factory counts
the failures, and gives up after some, but the counter is one for all seats, and is set
back whenever a local display is reported to have finished, be it one that has failed
before.  The counter covers the rows of failures as long as that happens only when no row
is under way.
-/

namespace Gdm

open ObjectTable

/-- The display `e` was created on the seat because `d` had ended, which had failed. -/
def Replaces (log : List DisplayEffect) (seatId : Option String) (d e : Nat) : Prop :=
  ∃ i < log.length, log[i]? = some (.created e seatId (some d)) ∧ .failed d ∈ log.take i

instance (log : List DisplayEffect) (seatId : Option String) (d e : Nat) :
    Decidable (Replaces log seatId d e) := by
  unfold Replaces
  infer_instance

/-- The display is the `n`-th replacement in a row on the seat. -/
inductive InARow (log : List DisplayEffect) (seatId : Option String) : Nat → Nat → Prop
  | first (d : Nat) : InARow log seatId d 0
  | next {d e n : Nat} (h : InARow log seatId d n) (hreplaces : Replaces log seatId d e) :
      InARow log seatId e (n + 1)

/-- The display that an effect is about. -/
def DisplayEffect.display : DisplayEffect → Nat
  | failed display => display
  | created display _ _ => display

/-- The factory makes up for the end of another display. -/
def DisplayCall.replaces : DisplayCall → Bool
  | ensureDisplayForSeat _ (some _) => true
  | _ => false

/-- The factory may count a failure, or create a display. -/
def DisplayCall.counts : DisplayCall → Bool
  | factoryStatusChanged _ => true
  | ensureDisplayForSeat _ _ => true
  | _ => false

variable {d e n : Nat} {seatId : Option String} {log : List DisplayEffect}
  {effect : DisplayEffect}

/-! ## The log grows -/

theorem replaces_append :
    Replaces (log ++ [effect]) seatId d e ↔
      Replaces log seatId d e ∨ effect = .created e seatId (some d) ∧ .failed d ∈ log := by
  constructor
  · rintro ⟨i, hi, hcreated, hfailed⟩
    rw [List.length_append, List.length_singleton] at hi
    by_cases hlt : i < log.length
    · refine .inl ⟨i, hlt, ?_, ?_⟩
      · rwa [List.getElem?_append_left hlt] at hcreated
      · rwa [List.take_append_of_le_length (Nat.le_of_lt hlt)] at hfailed
    · obtain rfl : i = log.length := by omega
      rw [List.getElem?_concat_length] at hcreated
      rw [List.take_left] at hfailed
      exact .inr ⟨Option.some.inj hcreated, hfailed⟩
  · rintro (⟨i, hi, hcreated, hfailed⟩ | ⟨rfl, hfailed⟩)
    · refine ⟨i, ?_, ?_, ?_⟩
      · rw [List.length_append]
        omega
      · rwa [List.getElem?_append_left hi]
      · rwa [List.take_append_of_le_length (Nat.le_of_lt hi)]
    · refine ⟨log.length, ?_, ?_, ?_⟩
      · rw [List.length_append, List.length_singleton]
        omega
      · exact List.getElem?_concat_length
      · rwa [List.take_left]

/-- The replacement has been created, and the display it makes up for has failed. -/
theorem Replaces.mem (h : Replaces log seatId d e) :
    .created e seatId (some d) ∈ log ∧ .failed d ∈ log := by
  obtain ⟨i, _, hcreated, hfailed⟩ := h
  exact ⟨List.mem_of_getElem? hcreated, List.mem_of_mem_take hfailed⟩

/-- An effect that is no replacement of a failed display leaves the rows as they are. -/
theorem InARow.of_append
    (hnot : ∀ d e, effect = .created e seatId (some d) → .failed d ∉ log)
    (h : InARow (log ++ [effect]) seatId e n) : InARow log seatId e n := by
  induction h with
  | first d => exact .first d
  | next _ hreplaces ih =>
    rcases replaces_append.mp hreplaces with hold | ⟨hcreated, hfailed⟩
    · exact .next ih hold
    · exact absurd hfailed (hnot _ _ hcreated)

/-- A display that nothing is known of is in no row. -/
theorem InARow.eq_zero (h : InARow log seatId e n) (hnew : ∀ d, ¬ Replaces log seatId d e) :
    n = 0 := by
  cases h with
  | first => rfl
  | next _ hreplaces => exact absurd hreplaces (hnew _)

/-- A replacement makes the row of the display before longer by one. -/
theorem InARow.of_created {new : Nat} {at' : Option String}
    (hnew : ∀ effect ∈ log, effect.display ≠ new)
    (h : InARow (log ++ [.created new at' (some d)]) seatId e n) :
    e ≠ new ∧ InARow log seatId e n ∨
      e = new ∧ (n = 0 ∨ ∃ k, n = k + 1 ∧ .failed d ∈ log ∧ InARow log seatId d k) := by
  induction h with
  | first e =>
    by_cases he : e = new
    · exact .inr ⟨he, .inl rfl⟩
    · exact .inl ⟨he, .first e⟩
  | @next a b n _ hreplaces ih =>
    -- a display that has failed is not the one that is created now
    have hold : .failed a ∈ log → InARow log seatId a n := by
      intro hfailed
      rcases ih with ⟨_, hrow⟩ | ⟨rfl, _⟩
      · exact hrow
      · exact absurd rfl (hnew _ hfailed)
    rcases replaces_append.mp hreplaces with hrep | ⟨hcreated, hfailed⟩
    · obtain ⟨hb, ha⟩ := hrep.mem
      exact .inl ⟨hnew _ hb, .next (hold ha) hrep⟩
    · obtain ⟨rfl, rfl, hsome⟩ := DisplayEffect.created.inj hcreated
      obtain rfl := Option.some.inj hsome
      exact .inr ⟨rfl, .inr ⟨n, rfl, hfailed, hold hfailed⟩⟩

namespace Displays

variable {self m : Displays} {around : DisplaySurroundings}

/-- No display in the store has failed, or makes up for one that has. -/
def NoRow (self : Displays) : Prop :=
  ∀ d x, self.storedDisplay d = some x →
    .failed d ∉ self.log ∧ ∀ seatId e, ¬ Replaces self.log seatId e d

/-- The counter is not set back during a row, and does not pass its 32 bits. -/
def KeepsCount (self : Displays) (around : DisplaySurroundings) : DisplayCall → Prop
  | .factoryStatusChanged d => ∀ x, self.storedDisplay d = some x →
      self.factory.isStarted = true →
        (x.status = .finished → FinishResets self.factory around x →
          self.factory.numFailures = 0 ∨ self.NoRow) ∧
        (x.status = .failed → x.isLocal = true → self.factory.numFailures + 1 < 2 ^ 32)
  | _ => True

/-- The call that a step makes keeps the count. -/
def CountsFailures (c : WithCalls Displays DisplayCall) : Step × DisplaySurroundings → Prop
  | (.event _, _) => True
  | (.call, around) => ∀ call rest, c.calls = call :: rest → c.state.KeepsCount around call

/-! ## Functions that count no failure -/

/-- Nothing has been counted, and the calls make up for no display. -/
structure Aside (m : Displays) (c : WithCalls Displays DisplayCall) : Prop where
  log : c.state.log = m.log
  numFailures : c.state.factory.numFailures = m.factory.numFailures
  calls : ∀ call ∈ c.calls, call.replaces = false

theorem Aside.refl (m : Displays) : Aside m ⟨m, []⟩ :=
  ⟨rfl, rfl, fun _ h => nomatch h⟩

theorem Aside.andThen {c : WithCalls Displays DisplayCall} {more : List DisplayCall}
    (h : Aside self c) (hmore : ∀ call ∈ more, call.replaces = false) :
    Aside self (c.andThen more) := by
  refine ⟨h.log, h.numFailures, fun call hcall => ?_⟩
  rcases List.mem_append.mp hcall with hin | hin
  · exact h.calls call hin
  · exact hmore call hin

/-- The function goes on from a state in which nothing has been counted. -/
theorem Aside.after {c : WithCalls Displays DisplayCall} (h : Aside m c)
    (hlog : m.log = self.log) (hnum : m.factory.numFailures = self.factory.numFailures) :
    Aside self c :=
  ⟨h.log.trans hlog, h.numFailures.trans hnum, h.calls⟩

/-- Nothing is done but to make one call. -/
theorem Aside.single {call : DisplayCall} (h : call.replaces = false) (hlog : m.log = self.log)
    (hnum : m.factory.numFailures = self.factory.numFailures) : Aside self ⟨m, [call]⟩ :=
  ⟨hlog, hnum, fun _ hcall => List.mem_singleton.mp hcall ▸ h⟩

theorem Aside.done (hlog : m.log = self.log)
    (hnum : m.factory.numFailures = self.factory.numFailures) : Aside self ⟨m, []⟩ :=
  ⟨hlog, hnum, fun _ h => nomatch h⟩

theorem replaces_notified {call : DisplayCall}
    (h : call = .managerStatusChanged d ∨ call = .factoryStatusChanged d) :
    call.replaces = false := by
  rcases h with rfl | rfl <;> rfl

theorem aside_notifyStatus : Aside self (self.notifyStatus d) :=
  ⟨rfl, rfl, fun _ h => replaces_notified (mem_notifyStatus h)⟩

theorem aside_setStatus {status : GdmDisplayStatus} : Aside self (self.setStatus d status) := by
  unfold setStatus
  split
  · exact aside_notifyStatus.after rfl rfl
  · exact Aside.refl self

theorem aside_setStatusProperty {status : GdmDisplayStatus} :
    Aside self (self.setStatusProperty d status) :=
  aside_notifyStatus.after rfl rfl

theorem aside_finish : Aside self (self.finish d) :=
  aside_setStatus.after rfl rfl

theorem aside_unmanage : Aside self (self.unmanage d) := by
  unfold unmanage
  split
  · exact aside_setStatus
  · exact Aside.refl self

theorem replaces_single {call later : DisplayCall} (hlater : later.replaces = false)
    (h : call ∈ [later]) : call.replaces = false := by
  rw [List.mem_singleton.mp h]
  exact hlater

theorem aside_setUpGreeterSession : Aside self (self.setUpGreeterSession around d) := by
  unfold setUpGreeterSession
  split
  · exact Aside.done rfl rfl
  · exact aside_unmanage.andThen fun _ h => replaces_single rfl h

theorem aside_managerStatusChanged : Aside self (self.managerStatusChanged around d) := by
  unfold managerStatusChanged setUpSession
  split
  · split
    · exact aside_setUpGreeterSession
    · exact Aside.refl self
    · exact aside_setUpGreeterSession
    · exact Aside.done rfl rfl
  · exact Aside.refl self

theorem aside_finishUnlessFailed : Aside self (self.finishUnlessFailed d) := by
  unfold finishUnlessFailed
  split
  · exact aside_finish
  · exact Aside.refl self

theorem aside_callback (callback : StoreCallback) : Aside self (self.callback callback d) := by
  cases callback with
  | finishDisplayOnSeatIfWaiting =>
    change Aside self (self.finishDisplayOnSeatIfWaiting d)
    unfold finishDisplayOnSeatIfWaiting
    split
    · have hstopped : Aside self ((self.stopGreeterSession d).unmanage d) :=
        aside_unmanage.after rfl rfl
      exact hstopped.andThen fun _ h => replaces_single rfl h
    · exact Aside.refl self
  | listifyDisplayIds => exact Aside.refl self
  | unexportDisplay => exact Aside.refl self
  | finishDisplay =>
    change Aside self (self.finishDisplay d)
    unfold finishDisplay
    dsimp only
    split
    · have hstopped : Aside self ((self.stopGreeterSession d).unmanage d) :=
        aside_unmanage.after rfl rfl
      exact hstopped.andThen fun _ h => replaces_single rfl h
    · have hstopped : Aside self ((self.stopGreeterSession d).finish d) :=
        aside_finish.after rfl rfl
      exact hstopped

theorem aside_exec {call : DisplayCall} (h : call.counts = false) :
    Aside self (self.exec around call) := by
  cases call with
  | managerStatusChanged e => exact aside_managerStatusChanged
  | factoryStatusChanged e => cases h
  | ensureDisplayForSeat seatId after => cases h
  | finish e => exact aside_finish
  | queueFinish e => exact Aside.done rfl rfl
  | finishUnlessFailed e => exact aside_finishUnlessFailed
  | createDisplayForUserSession seatId sessionId isLocal => exact Aside.done rfl rfl
  | storeRemove e => exact Aside.single rfl rfl rfl
  | storeForeach callback => exact Aside.single rfl rfl rfl
  | foreach callback rest =>
    cases rest with
    | nil => exact Aside.refl self
    | cons e rest => exact (aside_callback callback).andThen fun _ h => replaces_single rfl h
  | foreachRemove predicate rest =>
    cases rest with
    | nil => exact Aside.refl self
    | cons e rest =>
      change Aside self ⟨self.removeIf predicate e, _⟩
      unfold removeIf
      split
      · exact Aside.single rfl rfl rfl
      · exact Aside.single rfl rfl rfl
  | storeClear => exact Aside.done rfl rfl

theorem aside_leaveLoginWindow {previousVt loginWindowVt : Nat} :
    Aside self (self.leaveLoginWindow around previousVt loginWindowVt) := by
  unfold leaveLoginWindow maybeStopGreeterInBackground
  dsimp only
  split
  · split
    · split
      · exact aside_setStatusProperty
      · exact Aside.refl self
    · exact Aside.refl self
  · exact Aside.refl self

theorem reapLoginScreen_counts (self : Displays) (around : DisplaySurroundings)
    (loginWindowVt : Nat) :
    (self.reapLoginScreen around loginWindowVt).log = self.log ∧
      (self.reapLoginScreen around loginWindowVt).factory.numFailures =
        self.factory.numFailures := by
  unfold reapLoginScreen
  split
  · dsimp only
    split <;> exact ⟨rfl, rfl⟩
  · exact ⟨rfl, rfl⟩

theorem aside_onVtChanged (vt : Nat) : Aside self (self.onVtChanged around vt) := by
  unfold onVtChanged
  dsimp only
  split
  · exact Aside.done rfl rfl
  · apply Aside.andThen
    · obtain ⟨hlog, hnum⟩ := reapLoginScreen_counts
        { self with factory := { self.factory with activeVt := vt } } around
        (if around.loginWindow = none then 0 else around.loginWindowVt)
      exact aside_leaveLoginWindow.after hlog hnum
    · split
      · exact fun _ h => replaces_single rfl h
      · exact fun _ h => nomatch h

/-- A display that nobody has asked the factory to replace is prepared. -/
theorem aside_createDisplay {x : DisplayObject} (hx : x.status = .unmanaged) :
    Aside self (self.createDisplay around x) := by
  rw [createDisplay_eq hx]
  exact ⟨rfl, rfl, fun _ h => replaces_notified (by simpa using h)⟩

theorem aside_handleEvent (event : DisplayEvent) : Aside self (self.handleEvent around event) := by
  have hsame : Aside self ⟨self, []⟩ := Aside.refl self
  cases event with
  | start seats =>
    refine ⟨rfl, rfl, fun call hcall => ?_⟩
    obtain ⟨seat, _, rfl⟩ := List.mem_map.mp hcall
    rfl
  | activateGreeter seatId => exact Aside.single rfl rfl rfl
  | seatRemoved seatId => exact Aside.single rfl rfl rfl
  | canGraphicalChanged seatId =>
    change Aside self (self.onSeatPropertiesChanged around seatId)
    unfold onSeatPropertiesChanged
    split
    · exact hsame
    · exact Aside.single rfl rfl rfl
    · exact Aside.single rfl rfl rfl
  | graphicsCheckTimeout =>
    change Aside self self.onSeat0GraphicsCheckTimeout
    unfold onSeat0GraphicsCheckTimeout
    split
    · exact Aside.single rfl rfl rfl
    · exact hsame
  | uevent =>
    change Aside self (self.onUevent around)
    have hsettles : Settles self (self.udevIsSettled around).2 := settles_udevIsSettled
    unfold onUevent
    split
    · dsimp only
      split
      · exact Aside.single rfl hsettles.log hsettles.numFailures
      · exact Aside.done hsettles.log hsettles.numFailures
    · exact hsame
  | vtChanged vt => exact aside_onVtChanged vt
  | finishWaitingTimeout =>
    change Aside self self.onFinishWaitingTimeout
    unfold onFinishWaitingTimeout
    split
    · exact Aside.single rfl rfl rfl
    · exact hsame
  | createDisplay autologinUser => exact aside_createDisplay rfl
  | createRemoteDisplay autologinUser remoteHostname => exact aside_createDisplay rfl
  | registerDisplay sessionId =>
    change Aside self (self.registerDisplay around sessionId)
    unfold registerDisplay
    split
    · exact aside_setStatusProperty
    · exact hsame
  | registerSession sessionId =>
    change Aside self (self.registerSession around sessionId)
    unfold registerSession
    split
    · exact Aside.done rfl rfl
    · exact hsame
  | greeterOpened e sessionId =>
    change Aside self (self.onGreeterOpened e sessionId)
    unfold onGreeterOpened
    split
    · exact Aside.done rfl rfl
    · exact hsame
  | greeterGone e =>
    change Aside self (self.onGreeterGone e)
    unfold onGreeterGone
    split
    · exact aside_unmanage.andThen fun _ h => replaces_single rfl h
    · exact hsame
  | finishIdle e =>
    change Aside self (self.onFinishIdle e)
    unfold onFinishIdle
    split
    · exact aside_finish
    · exact hsame
  | purgeDisplays =>
    change Aside self (self.onPurgeDisplays around)
    unfold onPurgeDisplays
    split
    · exact Aside.single rfl rfl rfl
    · exact hsame
  | userLoaded e =>
    change Aside self (self.onUserLoaded around e)
    unfold onUserLoaded
    split
    · dsimp only
      split
      · exact aside_setUpGreeterSession.after rfl rfl
      · exact Aside.done rfl rfl
    · exact hsame
  | startUserSession e seatId sessionId isLocal automatic =>
    change Aside self (self.onStartUserSession e seatId sessionId isLocal automatic)
    unfold onStartUserSession
    apply Aside.andThen
    · split
      · exact aside_setStatusProperty
      · exact hsame
    · intro call hcall
      rcases List.mem_cons.mp hcall with rfl | hremove
      · rfl
      · split at hremove
        · exact replaces_single rfl hremove
        · cases hremove
  | userSessionEnded e => exact aside_unmanage.andThen fun _ h => replaces_single rfl h
  | getDisplays => exact Aside.single rfl rfl rfl
  | dispose =>
    refine ⟨rfl, rfl, fun call hcall => ?_⟩
    have hthree : call = .storeForeach .unexportDisplay ∨ call = .storeForeach .finishDisplay ∨
        call = .storeClear := by
      simpa [handleEvent, dispose] using hcall
    rcases hthree with rfl | rfl | rfl <;> rfl

/-! ## The counter covers the rows -/

/-- A display that is not in the store does not come into it again. -/
def StaysOut (x y : DisplayObject) : Prop :=
  y.stored = true → x.stored = true

theorem staysOut_rule : DisplayRule StaysOut where
  trans h h' := fun hz => h (h' hz)
  quiet h := fun hy => h.stored ▸ hy
  status _ := id

/-- Each display in the store has no more failures before it in a row than have been
counted, its own among them. -/
structure Covered (m : Displays) : Prop where
  known : ∀ effect ∈ m.log, effect.display < m.displays.length
  bounded : ∀ seatId d n, InARow m.log seatId d n → n ≤ maxDisplayFailures
  stored : ∀ d x seatId n, m.storedDisplay d = some x → InARow m.log seatId d n →
    n ≤ m.factory.numFailures ∧ (.failed d ∈ m.log → n < m.factory.numFailures)

/-- The failure of the display has been counted, and the factory has not given up. -/
def NextCovered (m : Displays) (d : Nat) : Prop :=
  .failed d ∈ m.log → m.factory.numFailures ≤ maxDisplayFailures ∧
    ∀ seatId n, InARow m.log seatId d n → n < m.factory.numFailures

/-- The rows are covered, and only the first call may make up for a display. -/
inductive RowsCounted : WithCalls Displays DisplayCall → Prop
  | quiet {m : Displays} {calls : List DisplayCall} (h : Covered m)
      (hcalls : ∀ call ∈ calls, call.replaces = false) : RowsCounted ⟨m, calls⟩
  | next {m : Displays} {seatId : Option String} {d : Nat} {rest : List DisplayCall}
      (h : Covered m) (hnext : NextCovered m d) (hrest : ∀ call ∈ rest, call.replaces = false) :
      RowsCounted ⟨m, .ensureDisplayForSeat seatId (some d) :: rest⟩

/-- A display that has just got its number is in no row. -/
theorem Covered.fresh (h : Covered m) {d : Nat} (hd : m.displays.length ≤ d) :
    .failed d ∉ m.log ∧ ∀ seatId n, InARow m.log seatId d n → n = 0 := by
  refine ⟨fun hfailed => ?_, fun seatId n hrow => hrow.eq_zero fun e hreplaces => ?_⟩
  · exact absurd (h.known _ hfailed) (Nat.not_lt.mpr hd)
  · exact absurd (h.known _ hreplaces.mem.1) (Nat.not_lt.mpr hd)

/-- What counts no failure keeps the rows covered, whatever displays it adds. -/
theorem Covered.aside {c : WithCalls Displays DisplayCall} (h : Covered m) (haside : Aside m c)
    (hevolves : Evolves StaysOut (fun _ => True) m.displays c.state.displays) :
    Covered c.state := by
  constructor
  · intro effect heffect
    rw [haside.log] at heffect
    exact Nat.lt_of_lt_of_le (h.known effect heffect) hevolves.length_le
  · rw [haside.log]
    exact h.bounded
  · intro d y seatId n hy hrow
    rw [haside.log] at hrow ⊢
    rw [haside.numFailures]
    obtain ⟨hentry, hstored⟩ := storedDisplay_eq_some.mp hy
    rcases hevolves.origin hentry with ⟨x, hx, hbefore⟩ | ⟨hnone, _⟩
    · exact h.stored d x seatId n (storedDisplay_eq_some.mpr ⟨hx, hbefore hstored⟩) hrow
    · obtain ⟨hnot, hzero⟩ := h.fresh (List.getElem?_eq_none_iff.mp hnone)
      rw [hzero seatId n hrow]
      exact ⟨Nat.zero_le _, fun hfailed => absurd hfailed hnot⟩

theorem Covered.of_eq (h : Covered m) {m' : Displays} (hdisplays : m'.displays = m.displays)
    (hlog : m'.log = m.log) (hnum : m'.factory.numFailures = m.factory.numFailures) :
    Covered m' := by
  have haside : Aside m ⟨m', []⟩ := Aside.done hlog hnum
  apply h.aside haside
  rw [hdisplays]
  exact Evolves.refl (fun _ => id) _ _

/-- When no row is under way the counter can be set back. -/
theorem Covered.reset (h : Covered m) (hno : m.factory.numFailures = 0 ∨ m.NoRow)
    {m' : Displays} (hdisplays : m'.displays = m.displays) (hlog : m'.log = m.log) :
    Covered { m' with factory := { m'.factory with numFailures := 0 } } := by
  rcases hno with hzero | hno
  · exact h.of_eq hdisplays hlog hzero.symm
  · constructor
    · dsimp only
      rw [hlog, hdisplays]
      exact h.known
    · dsimp only
      rw [hlog]
      exact h.bounded
    · intro d x seatId n hx hrow
      dsimp only at hrow ⊢
      rw [hlog] at hrow ⊢
      have hx' : m.storedDisplay d = some x := by
        unfold storedDisplay at hx ⊢
        rw [← hdisplays]
        exact hx
      obtain ⟨hnot, hreplaces⟩ := hno d x hx'
      rw [hrow.eq_zero (hreplaces seatId)]
      exact ⟨Nat.le_refl 0, fun hfailed => absurd hfailed hnot⟩

/-- A failure is counted. -/
theorem Covered.failed (h : Covered m) {d : Nat} {x : DisplayObject}
    (hx : m.storedDisplay d = some x) {m' : Displays} (hdisplays : m'.displays = m.displays)
    (hlog : m'.log = m.log ++ [.failed d])
    (hnum : m'.factory.numFailures = m.factory.numFailures + 1) : Covered m' := by
  have hrows : ∀ {seatId e n}, InARow m'.log seatId e n → InARow m.log seatId e n := by
    intro seatId e n hrow
    rw [hlog] at hrow
    exact hrow.of_append fun _ _ heq => by cases heq
  constructor
  · intro effect heffect
    rw [hlog] at heffect
    rw [hdisplays]
    rcases List.mem_append.mp heffect with hold | hnew
    · exact h.known effect hold
    · rw [List.mem_singleton.mp hnew]
      exact (List.getElem?_eq_some_iff.mp (storedDisplay_eq_some.mp hx).1).1
  · exact fun seatId e n hrow => h.bounded seatId e n (hrows hrow)
  · intro e y seatId n hy hrow
    have hy' : m.storedDisplay e = some y := by
      unfold storedDisplay at hy ⊢
      rw [← hdisplays]
      exact hy
    obtain ⟨hle, _⟩ := h.stored e y seatId n hy' (hrows hrow)
    rw [hnum]
    exact ⟨Nat.le_succ_of_le hle, fun _ => Nat.lt_succ_of_le hle⟩

theorem covered_factoryStatusChanged (h : Covered m) {d : Nat}
    (hkeeps : m.KeepsCount around (.factoryStatusChanged d)) :
    Covered (m.factoryStatusChanged around d).state ∧
      ((∀ call ∈ (m.factoryStatusChanged around d).calls, call.replaces = false) ∨
        ∃ seatId, (m.factoryStatusChanged around d).calls =
            [.ensureDisplayForSeat seatId (some d)] ∧
          NextCovered (m.factoryStatusChanged around d).state d) := by
  have hnone : ∀ call ∈ ([] : List DisplayCall), call.replaces = false := fun _ h => nomatch h
  unfold factoryStatusChanged
  split
  · exact ⟨h, .inl hnone⟩
  · rename_i x hx
    split
    · exact ⟨h, .inl hnone⟩
    · rename_i hstarted
      obtain ⟨hfinished, hfailed⟩ := hkeeps x hx (by simpa using hstarted)
      split
      · rename_i hstatus
        dsimp only
        split
        · rename_i hresets
          have hno := hfinished hstatus hresets
          refine ⟨h.reset hno rfl rfl, .inr ⟨x.seatId, rfl, fun hlogged => ?_⟩⟩
          -- a display that has failed is in the store, so a row is under way
          have hcounted := (h.stored d x none 0 hx (.first d)).2 hlogged
          rcases hno with hzero | hno
          · omega
          · exact absurd hlogged (hno d x hx).1
        · exact ⟨h.of_eq rfl rfl rfl, .inl hnone⟩
      · rename_i hstatus
        dsimp only
        split
        · rename_i hlocal
          have hwrap := hfailed hstatus hlocal
          have hmod : (m.factory.numFailures + 1) % 2 ^ 32 = m.factory.numFailures + 1 :=
            Nat.mod_eq_of_lt hwrap
          refine ⟨h.failed hx rfl rfl hmod, ?_⟩
          split
          · exact .inl hnone
          · rename_i hmax
            refine .inr ⟨x.seatId, rfl, fun _ => ⟨Nat.not_lt.mp hmax, fun seatId n hrow => ?_⟩⟩
            have hold : InARow m.log seatId d n := hrow.of_append fun _ _ heq => by cases heq
            have hle := (h.stored d x seatId n hx hold).1
            change n < (m.factory.numFailures + 1) % 2 ^ 32
            omega
        · exact ⟨h.of_eq rfl rfl rfl, .inl hnone⟩
      · exact ⟨h, .inl fun _ hcall => replaces_single rfl hcall⟩
      all_goals exact ⟨h, .inl hnone⟩

/-- A display is created, to make up for one whose failure has been counted. -/
theorem Covered.created (h : Covered m) {seatId : Option String} {after : Option Nat}
    (hnext : ∀ d, after = some d → NextCovered m d) {x : DisplayObject} {m' : Displays}
    (hdisplays : m'.displays = m.displays ++ [x])
    (hlog : m'.log = m.log ++ [.created m.displays.length seatId after])
    (hnum : m'.factory.numFailures = m.factory.numFailures) : Covered m' := by
  have hnew : ∀ effect ∈ m.log, effect.display ≠ m.displays.length :=
    fun effect heffect => Nat.ne_of_lt (h.known effect heffect)
  -- the rows of the displays that were there, and the row of the new one
  have hrows : ∀ {seatId e n}, InARow m'.log seatId e n →
      e ≠ m.displays.length ∧ InARow m.log seatId e n ∨
        e = m.displays.length ∧
          (n = 0 ∨ n ≤ m.factory.numFailures ∧ m.factory.numFailures ≤ maxDisplayFailures) := by
    intro seatId e n hrow
    rw [hlog] at hrow
    cases after with
    | none =>
      have hold : InARow m.log seatId e n := hrow.of_append fun _ _ heq => by cases heq
      by_cases he : e = m.displays.length
      · subst he
        exact .inr ⟨rfl, .inl ((h.fresh (Nat.le_refl _)).2 seatId n hold)⟩
      · exact .inl ⟨he, hold⟩
    | some d =>
      rcases hrow.of_created hnew with hold | ⟨he, hzero | ⟨k, rfl, hfailed, hbefore⟩⟩
      · exact .inl hold
      · exact .inr ⟨he, .inl hzero⟩
      · obtain ⟨hmax, hlt⟩ := hnext d rfl hfailed
        exact .inr ⟨he, .inr ⟨hlt seatId k hbefore, hmax⟩⟩
  have hfailed : ∀ e, .failed e ∈ m'.log → .failed e ∈ m.log := by
    intro e he
    rw [hlog] at he
    rcases List.mem_append.mp he with hold | hlast
    · exact hold
    · cases List.mem_singleton.mp hlast
  constructor
  · intro effect heffect
    rw [hlog] at heffect
    rw [hdisplays, List.length_append, List.length_singleton]
    rcases List.mem_append.mp heffect with hold | hlast
    · exact Nat.lt_succ_of_lt (h.known effect hold)
    · rw [List.mem_singleton.mp hlast]
      exact Nat.lt_succ_self _
  · intro seatId e n hrow
    rcases hrows hrow with ⟨_, hold⟩ | ⟨_, rfl | ⟨hle, hmax⟩⟩
    · exact h.bounded seatId e n hold
    · exact Nat.zero_le _
    · exact Nat.le_trans hle hmax
  · intro e y seatId n hy hrow
    rw [hnum]
    rcases hrows hrow with ⟨hne, hold⟩ | ⟨rfl, hn⟩
    · have hy' : m.storedDisplay e = some y := by
        obtain ⟨hentry, hstored⟩ := storedDisplay_eq_some.mp hy
        rw [hdisplays] at hentry
        have hlt : e < (m.displays ++ [x]).length := (List.getElem?_eq_some_iff.mp hentry).1
        rw [List.length_append, List.length_singleton] at hlt
        rw [List.getElem?_append_left (by omega)] at hentry
        exact storedDisplay_eq_some.mpr ⟨hentry, hstored⟩
      obtain ⟨hle, hlt⟩ := h.stored e y seatId n hy' hold
      exact ⟨hle, fun he => hlt (hfailed e he)⟩
    · refine ⟨?_, fun he => absurd (hfailed _ he) (h.fresh (Nat.le_refl _)).1⟩
      rcases hn with rfl | ⟨hle, _⟩
      · exact Nat.zero_le _
      · exact hle

theorem covered_ensureDisplayForSeat (h : Covered m) (seatId : Option String)
    {after : Option Nat} (hnext : ∀ d, after = some d → NextCovered m d) :
    Covered (m.ensureDisplayForSeat around seatId after).state ∧
      ∀ call ∈ (m.ensureDisplayForSeat around seatId after).calls, call.replaces = false := by
  rcases m.ensureDisplayForSeat_cases around seatId after with
    ⟨d, x, _, hx, _, heq⟩ | ⟨settled, hm, heq⟩ | ⟨_, settled, hm, heq⟩
  · rw [heq]
    have haside : Aside m (m.setStatusProperty d .managed) := aside_setStatusProperty
    refine ⟨h.aside haside (keeps_setStatusProperty staysOut_rule fun _ _ => ?_).evolves,
      haside.calls⟩
    exact id
  · rw [heq]
    exact ⟨h.of_eq hm.displays hm.log hm.numFailures, fun _ hcall => nomatch hcall⟩
  · rw [heq]
    refine ⟨?_, fun _ hcall => replaces_notified (by simpa using hcall)⟩
    have hdisplays : settled.displays ++ [prepared around { seatId := seatId }] =
        m.displays ++ [prepared around { seatId := seatId }] := by rw [hm.displays]
    have hlog : settled.log ++ [.created settled.displays.length seatId after] =
        m.log ++ [.created m.displays.length seatId after] := by rw [hm.log, hm.displays]
    exact h.created hnext hdisplays hlog hm.numFailures

theorem RowsCounted.covered {c : WithCalls Displays DisplayCall} (h : RowsCounted c) :
    Covered c.state := by
  cases h with
  | quiet h _ => exact h
  | next h _ _ => exact h

/-- A step that keeps the count keeps the rows covered. -/
theorem RowsCounted.step {c : WithCalls Displays DisplayCall}
    {input : Step × DisplaySurroundings} (h : RowsCounted c) (hcounts : CountsFailures c input) :
    RowsCounted (machine.step c input) := by
  have hcovered : Covered c.state := h.covered
  rcases step_cases c input with hsame | ⟨event, around, rfl, hcalls, hstep⟩ |
    ⟨call, rest, around, rfl, hcalls, hstep⟩
  · rw [hsame]
    exact h
  · rw [hstep]
    have haside : Aside c.state (c.state.handleEvent around event) := aside_handleEvent event
    refine .quiet (hcovered.aside haside (evolves_handleEvent staysOut_rule event (.inr ?_) ?_))
      haside.calls
    · exact fun _ _ => id
    · exact fun _ _ => trivial
  · rw [hstep]
    have hkeeps := hcounts call rest hcalls
    have hrest : ∀ later ∈ rest, later.replaces = false := by
      cases h with
      | quiet _ hquiet =>
        intro later hlater
        obtain rfl := hcalls
        exact hquiet later (List.mem_cons_of_mem _ hlater)
      | next _ _ hrest =>
        obtain ⟨rfl, rfl⟩ := List.cons.inj hcalls
        exact hrest
    have hquiet : ∀ {made : WithCalls Displays DisplayCall}, Covered made.state →
        (∀ later ∈ made.calls, later.replaces = false) → RowsCounted (made.andThen rest) := by
      intro made hmade hcalls
      refine .quiet hmade fun later hlater => ?_
      rcases List.mem_append.mp hlater with hin | hin
      · exact hcalls later hin
      · exact hrest later hin
    by_cases hcount : call.counts = false
    · have haside : Aside c.state (c.state.exec around call) := aside_exec hcount
      refine hquiet (hcovered.aside haside (evolves_exec staysOut_rule call ?_ ?_)) haside.calls
      · exact fun _ x y hfreed hy => nomatch hfreed.stored.symm.trans hy
      · exact fun _ _ => trivial
    · cases call with
      | factoryStatusChanged d =>
        obtain ⟨hmade, hcalls | ⟨seatId, hcalls, hnext⟩⟩ :=
          covered_factoryStatusChanged hcovered hkeeps
        · exact hquiet hmade hcalls
        · change RowsCounted ((c.state.factoryStatusChanged around d).andThen rest)
          unfold WithCalls.andThen
          rw [hcalls]
          exact .next hmade hnext hrest
      | ensureDisplayForSeat seatId after =>
        have hnext : ∀ d, after = some d → NextCovered c.state d := by
          rintro d rfl
          cases h with
          | quiet _ hquiet =>
            obtain rfl := hcalls
            cases hquiet _ List.mem_cons_self
          | next _ hnext _ =>
            obtain ⟨heq, _⟩ := List.cons.inj hcalls
            cases heq
            exact hnext
        obtain ⟨hmade, hcalls⟩ := covered_ensureDisplayForSeat hcovered seatId hnext
        exact hquiet hmade hcalls
      | _ => exact absurd rfl hcount

theorem run_rowsCounted (vt : Nat) (inputs : List (Step × DisplaySurroundings))
    (h : machine.Meets CountsFailures (initially vt) inputs) :
    RowsCounted (machine.run (initially vt) inputs) := by
  have hstart : Covered (initially vt).state := by
    constructor
    · exact fun _ heffect => nomatch heffect
    · intro seatId d n hrow
      rw [hrow.eq_zero fun e hreplaces => nomatch hreplaces.mem.1]
      exact Nat.zero_le _
    · exact fun _ _ _ _ hx => nomatch hx
  have hrows : RowsCounted (initially vt) := .quiet hstart fun _ hcall => nomatch hcall
  exact h.invariant RowsCounted (fun _ _ hrows hcounts => hrows.step hcounts) hrows

end Displays

end Gdm
