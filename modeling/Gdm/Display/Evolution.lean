import Gdm.Display.Events
import Gdm.Library.ObjectTable

/-!
# What a step does to the displays

A step changes displays one at a time, and a display that has ended is given another
status only by the events that do not look whether it has.  So a relation between a
display before and after is kept by every step when it is kept by the few changes of
`DisplayRule`, and by the removal of entries where there is one.
-/

namespace Gdm

open ObjectTable

/-- The displays differ in nothing that others look at to tell displays apart. -/
structure Quiet (x y : DisplayObject) : Prop where
  status : y.status = x.status
  stored : y.stored = x.stored
  seatId : y.seatId = x.seatId
  sessionClass : y.sessionClass = x.sessionClass

/-- The display before and after its entry has been removed. -/
structure Freed (x y : DisplayObject) : Prop where
  status : y.status = x.status
  stored : y.stored = false
  seatId : y.seatId = x.seatId
  sessionClass : y.sessionClass = x.sessionClass

/-- A relation that holds of a display before and after each change. -/
structure DisplayRule (R : DisplayObject → DisplayObject → Prop) : Prop where
  trans : ∀ {x y z}, R x y → R y z → R x z
  quiet : ∀ {x y}, Quiet x y → R x y
  status : ∀ {x : DisplayObject} {status : GdmDisplayStatus},
    (x.status.ended = true → status.ended = true) → R x { x with status := status }

variable {R : DisplayObject → DisplayObject → Prop} {N : DisplayObject → Prop}

theorem DisplayRule.refl (hR : DisplayRule R) (x : DisplayObject) : R x x :=
  hR.quiet ⟨rfl, rfl, rfl, rfl⟩

/-- A display that has not ended can be unmanaged. -/
theorem DisplayRule.unmanaged (hR : DisplayRule R) {x : DisplayObject}
    (h : x.status.ended = false) : R x { x with status := Displays.unmanagedStatus x } :=
  hR.status fun hended => nomatch h.symm.trans hended

/-- The calls that remove entries. -/
def DisplayCall.removes : DisplayCall → Bool
  | foreachRemove _ _ => true
  | storeClear => true
  | _ => false

namespace Displays

variable {self m : Displays} {around : DisplaySurroundings} {d : Nat} {x y : DisplayObject}
  {status : GdmDisplayStatus}

/-- No display is created, and the others have changed as `R` says. -/
def Keeps (R : DisplayObject → DisplayObject → Prop) (m m' : Displays) : Prop :=
  Evolves R (fun _ => False) m.displays m'.displays

theorem storedDisplay_eq_some :
    self.storedDisplay d = some x ↔ self.displays[d]? = some x ∧ x.stored = true :=
  Option.filter_eq_some_iff

theorem mem_entries : d ∈ self.entries around ↔ ∃ x, self.storedDisplay d = some x := by
  unfold entries
  rw [List.mem_insertionSort, List.mem_filter, List.mem_range, Option.isSome_iff_exists]
  constructor
  · exact fun h => h.2
  · rintro ⟨x, hx⟩
    exact ⟨(List.getElem?_eq_some_iff.mp (storedDisplay_eq_some.mp hx).1).1, x, hx⟩

/-- What is found is in the store. -/
theorem storeFind_eq_some {predicate : DisplayObject → Bool}
    (h : self.storeFind around predicate = some d) :
    ∃ x, self.storedDisplay d = some x ∧ predicate x = true := by
  have hfound := List.find?_some h
  rw [Option.any_eq_true] at hfound
  exact hfound

/-- Nothing in the store is found. -/
theorem storeFind_eq_none {predicate : DisplayObject → Bool}
    (h : self.storeFind around predicate = none) (hx : self.storedDisplay d = some x) :
    predicate x = false := by
  have hnot := List.find?_eq_none.mp h d (mem_entries.mpr ⟨x, hx⟩)
  rw [hx] at hnot
  simpa using hnot

/-! ## Changes -/

theorem Keeps.of_displays (hR : DisplayRule R) (h : m.displays = self.displays) :
    Keeps R self m := by
  unfold Keeps
  rw [h]
  exact Evolves.refl hR.refl _ _

theorem Keeps.trans {m' : Displays} (hR : DisplayRule R) (h : Keeps R self m)
    (h' : Keeps R m m') : Keeps R self m' :=
  Evolves.trans hR.trans (fun h _ => h) h h'

theorem keeps_modifyDisplay (hR : DisplayRule R) {f : DisplayObject → DisplayObject}
    (h : ∀ x, self.displays[d]? = some x → R x (f x)) : Keeps R self (self.modifyDisplay d f) :=
  Evolves.modify hR.refl _ h

theorem keeps_setStatus (hR : DisplayRule R)
    (h : ∀ x, self.displays[d]? = some x → R x { x with status := status }) :
    Keeps R self (self.setStatus d status).state := by
  unfold setStatus
  split
  · exact keeps_modifyDisplay hR h
  · exact .of_displays hR rfl

theorem keeps_setStatusProperty (hR : DisplayRule R)
    (h : ∀ x, self.displays[d]? = some x → R x { x with status := status }) :
    Keeps R self (self.setStatusProperty d status).state :=
  keeps_modifyDisplay hR h

theorem keeps_finish (hR : DisplayRule R) : Keeps R self (self.finish d).state := by
  have hquiet : Keeps R self (self.modifyDisplay d fun x => { x with finishIdle := false }) :=
    keeps_modifyDisplay hR fun x _ => hR.quiet ⟨rfl, rfl, rfl, rfl⟩
  exact hquiet.trans hR (keeps_setStatus hR fun _ _ => hR.status fun _ => rfl)

theorem keeps_unmanage (hR : DisplayRule R)
    (h : ∀ x, self.displays[d]? = some x → R x { x with status := unmanagedStatus x }) :
    Keeps R self (self.unmanage d).state := by
  unfold unmanage
  split
  · rename_i x hx
    refine keeps_setStatus hR fun y hy => ?_
    obtain rfl := Option.some.inj (hy.symm.trans hx)
    exact h y hy
  · exact .of_displays hR rfl

theorem keeps_stopGreeterSession (hR : DisplayRule R) :
    Keeps R self (self.stopGreeterSession d) :=
  keeps_modifyDisplay hR fun _ _ => hR.quiet ⟨rfl, rfl, rfl, rfl⟩

theorem getElem?_stopGreeterSession {y : DisplayObject}
    (h : (self.stopGreeterSession d).displays[d]? = some y) :
    ∃ x, self.displays[d]? = some x ∧ y.status = x.status := by
  unfold stopGreeterSession modifyDisplay at h
  dsimp only at h
  rw [List.getElem?_modify_eq] at h
  obtain ⟨x, hx, rfl⟩ := Option.map_eq_some_iff.mp h
  exact ⟨x, hx, rfl⟩

/-- A display with a status that is not one of the last is stopped and unmanaged. -/
theorem keeps_unmanage_stopGreeterSession (hR : DisplayRule R)
    (h : (self.displays[d]?).any (fun x => x.status.ended) = false) :
    Keeps R self ((self.stopGreeterSession d).unmanage d).state := by
  refine (keeps_stopGreeterSession hR).trans hR (keeps_unmanage hR fun y hy => ?_)
  obtain ⟨x, hx, hstatus⟩ := getElem?_stopGreeterSession hy
  apply hR.unmanaged
  rw [hstatus]
  rw [hx] at h
  exact h

/-! ## Notifications -/

theorem mem_notifyStatus {call : DisplayCall} (h : call ∈ (self.notifyStatus d).calls) :
    call = .managerStatusChanged d ∨ call = .factoryStatusChanged d := by
  unfold notifyStatus at h
  dsimp only at h
  split at h
  · simpa using h
  · cases h

theorem mem_setStatus {call : DisplayCall} (h : call ∈ (self.setStatus d status).calls) :
    call = .managerStatusChanged d ∨ call = .factoryStatusChanged d := by
  unfold setStatus at h
  split at h
  · exact mem_notifyStatus h
  · cases h

theorem mem_unmanage {call : DisplayCall} (h : call ∈ (self.unmanage d).calls) :
    call = .managerStatusChanged d ∨ call = .factoryStatusChanged d := by
  unfold unmanage at h
  split at h
  · exact mem_setStatus h
  · cases h

/-! ## Functions -/

theorem keeps_finishDisplayOnSeatIfWaiting (hR : DisplayRule R) :
    Keeps R self (self.finishDisplayOnSeatIfWaiting d).state := by
  unfold finishDisplayOnSeatIfWaiting
  split
  · rename_i hwaiting
    apply keeps_unmanage_stopGreeterSession hR
    cases hx : self.displays[d]? with
    | none => rfl
    | some x =>
      rw [hx] at hwaiting
      have hstatus : x.status = .waitingToFinish := by simpa using hwaiting
      simp [hstatus, GdmDisplayStatus.ended]
  · exact .of_displays hR rfl

theorem keeps_finishDisplay (hR : DisplayRule R) :
    Keeps R self (self.finishDisplay d).state := by
  unfold finishDisplay
  dsimp only
  split
  · rename_i hmanaged
    apply keeps_unmanage_stopGreeterSession hR
    cases hx : self.displays[d]? with
    | none => rfl
    | some x =>
      rw [hx] at hmanaged
      have hstatus : x.status = .managed := by simpa using hmanaged
      simp [hstatus, GdmDisplayStatus.ended]
  · exact (keeps_stopGreeterSession hR).trans hR (keeps_finish hR)

theorem keeps_setUpGreeterSession (hR : DisplayRule R)
    (h : ∀ x, self.displays[d]? = some x → around.greeterUser = false →
      R x { x with status := unmanagedStatus x }) :
    Keeps R self (self.setUpGreeterSession around d).state := by
  unfold setUpGreeterSession
  split
  · exact keeps_modifyDisplay hR fun _ _ => hR.quiet ⟨rfl, rfl, rfl, rfl⟩
  · rename_i hnone
    exact keeps_unmanage hR fun x hx => h x hx (by simpa using hnone)

theorem keeps_managerStatusChanged (hR : DisplayRule R) :
    Keeps R self (self.managerStatusChanged around d).state := by
  unfold managerStatusChanged
  split
  · rename_i hprepared
    have hnot : ∀ x, self.displays[d]? = some x → around.greeterUser = false →
        R x { x with status := unmanagedStatus x } := by
      intro x hx _
      apply hR.unmanaged
      rw [Option.any_eq_true] at hprepared
      obtain ⟨y, hy, hstatus⟩ := hprepared
      obtain rfl := Option.some.inj (hx.symm.trans (storedDisplay_eq_some.mp hy).1)
      have hstatus' : x.status = .prepared := (of_decide_eq_true hstatus).1
      simp [hstatus', GdmDisplayStatus.ended]
    unfold setUpSession
    split
    · exact keeps_setUpGreeterSession hR hnot
    · exact .of_displays hR rfl
    · exact keeps_setUpGreeterSession hR hnot
    · exact .of_displays hR rfl
  · exact .of_displays hR rfl

theorem factoryStatusChanged_displays :
    (self.factoryStatusChanged around d).state.displays = self.displays := by
  unfold factoryStatusChanged
  split
  · rfl
  · split
    · rfl
    · split
      · dsimp only
        split <;> rfl
      · dsimp only
        split <;> rfl
      all_goals rfl

theorem keeps_finishUnlessFailed (hR : DisplayRule R) :
    Keeps R self (self.finishUnlessFailed d).state := by
  unfold finishUnlessFailed
  split
  · exact keeps_finish hR
  · exact .of_displays hR rfl

/-- Nothing is different but what is known of the graphics of seat0. -/
structure Settles (m m' : Displays) : Prop where
  displays : m'.displays = m.displays
  lookups : m'.lookups = m.lookups
  log : m'.log = m.log
  numFailures : m'.factory.numFailures = m.factory.numFailures
  isStarted : m'.factory.isStarted = m.factory.isStarted
  purgeDisplays : m'.factory.purgeDisplays = m.factory.purgeDisplays
  activeVt : m'.factory.activeVt = m.factory.activeVt
  initialVt : m'.factory.initialVt = m.factory.initialVt

theorem Settles.withTimeout (h : Settles self m) (timeout : Bool) :
    Settles self { m with factory :=
      { m.factory with seat0GraphicsCheckTimeout := timeout } } :=
  ⟨h.displays, h.lookups, h.log, h.numFailures, h.isStarted, h.purgeDisplays, h.activeVt,
    h.initialVt⟩

theorem settles_udevIsSettled : Settles self (self.udevIsSettled around).2 := by
  unfold udevIsSettled
  dsimp only
  split
  · exact ⟨rfl, rfl, rfl, rfl, rfl, rfl, rfl, rfl⟩
  · split
    · exact ⟨rfl, rfl, rfl, rfl, rfl, rfl, rfl, rfl⟩
    · split <;> exact ⟨rfl, rfl, rfl, rfl, rfl, rfl, rfl, rfl⟩

theorem keeps_callback (hR : DisplayRule R) (callback : StoreCallback) :
    Keeps R self (self.callback callback d).state := by
  cases callback with
  | finishDisplayOnSeatIfWaiting => exact keeps_finishDisplayOnSeatIfWaiting hR
  | listifyDisplayIds => exact .of_displays hR rfl
  | unexportDisplay => exact .of_displays hR rfl
  | finishDisplay => exact keeps_finishDisplay hR

/-! ## New displays -/

/-- A display that is added to the store and prepared. -/
def prepared (around : DisplaySurroundings) (x : DisplayObject) : DisplayObject :=
  { x with
    stored := true
    status := .prepared
    doingInitialSetup := around.wantsInitialSetup
    launchEnvironment := some .created }

theorem createDisplay_eq (hx : x.status = .unmanaged) :
    self.createDisplay around x =
      ⟨{ self with displays := self.displays ++ [prepared around x] },
        [.managerStatusChanged self.displays.length,
          .factoryStatusChanged self.displays.length]⟩ := by
  unfold createDisplay storeAdd prepare setStatus modifyDisplay notifyStatus
  dsimp only
  rw [modify_concat, List.getElem?_concat_length]
  simp [hx, modify_concat, storedDisplay, prepared]

/-- `ensure_display_for_seat` comes to look for a display. -/
def LooksForDisplay (self : Displays) (around : DisplaySurroundings) : Prop :=
  self.loginWindowDisplay around = none ∧ (self.udevIsSettled around).1 = true ∧
    around.canGraphical = some true

/-- `ensure_display_for_seat` creates a display. -/
def NeedsDisplay (self : Displays) (around : DisplaySurroundings) (seatId : Option String) :
    Prop :=
  self.LooksForDisplay around ∧ self.getDisplayForSeat around seatId = none

theorem storeFind_congr (h : m.displays = self.displays) (predicate : DisplayObject → Bool) :
    m.storeFind around predicate = self.storeFind around predicate := by
  unfold storeFind entries storedDisplay
  rw [h]

theorem loginWindowDisplay_eq_some (h : self.loginWindowDisplay around = some d) :
    ∃ x, self.storedDisplay d = some x ∧ (x.status = .managed ∨ x.status = .waitingToFinish) := by
  obtain ⟨sessionId, _, hfound⟩ := Option.bind_eq_some_iff.mp h
  obtain ⟨hfind, hstatus⟩ := Option.filter_eq_some_iff.mp hfound
  obtain ⟨x, hx, _⟩ := storeFind_eq_some hfind
  refine ⟨x, hx, ?_⟩
  rw [(storedDisplay_eq_some.mp hx).1] at hstatus
  simpa using hstatus

/-- `ensure_display_for_seat` activates the login window, or does nothing to displays, or
creates one. -/
theorem ensureDisplayForSeat_cases (self : Displays) (around : DisplaySurroundings)
    (seatId : Option String) (after : Option Nat) :
    (∃ d x, self.loginWindowDisplay around = some d ∧ self.storedDisplay d = some x ∧
        (x.status = .managed ∨ x.status = .waitingToFinish) ∧
        self.ensureDisplayForSeat around seatId after = self.setStatusProperty d .managed) ∨
      (∃ m, Settles self m ∧ self.ensureDisplayForSeat around seatId after = ⟨m, []⟩) ∨
      self.NeedsDisplay around seatId ∧ ∃ m, Settles self m ∧
        self.ensureDisplayForSeat around seatId after =
          ⟨{ m with
            displays := m.displays ++ [prepared around { seatId := seatId }]
            log := m.log ++ [.created m.displays.length seatId after] },
            [.managerStatusChanged m.displays.length,
              .factoryStatusChanged m.displays.length]⟩ := by
  have hsettles : Settles self (self.udevIsSettled around).2 := settles_udevIsSettled
  unfold ensureDisplayForSeat
  split
  · rename_i d hlogin
    obtain ⟨x, hx, hstatus⟩ := loginWindowDisplay_eq_some hlogin
    exact .inl ⟨d, x, hlogin, hx, hstatus, rfl⟩
  · rename_i hlogin
    refine .inr ?_
    dsimp only
    split
    · split
      · exact .inl ⟨_, hsettles.withTimeout true, rfl⟩
      · exact .inl ⟨_, hsettles, rfl⟩
    · rename_i hsettled
      split
      · exact .inl ⟨_, hsettles.withTimeout false, rfl⟩
      · rename_i hgraphical
        split
        · exact .inl ⟨_, hsettles.withTimeout false, rfl⟩
        · rename_i hnone
          refine .inr ⟨⟨⟨hlogin, ?_, ?_⟩, ?_⟩, _, hsettles.withTimeout false,
            createDisplay_eq rfl⟩
          · simpa using hsettled
          · simpa using hgraphical
          · unfold getDisplayForSeat at hnone ⊢
            rw [← hnone]
            exact (storeFind_congr hsettles.displays _).symm

/-! ## Calls -/

/-- The display that a call adds to the store. -/
def Adds (self : Displays) (around : DisplaySurroundings) : DisplayCall → DisplayObject → Prop
  | .ensureDisplayForSeat seatId _, x =>
    self.NeedsDisplay around seatId ∧ x = prepared around { seatId := seatId }
  | .createDisplayForUserSession _ _ _, x => x.sessionClass = "user"
  | _, _ => False

theorem Keeps.evolves (h : Keeps R self m) : Evolves R N self.displays m.displays :=
  h.mono fun _ hfalse => hfalse.elim

theorem evolves_ensureDisplayForSeat (hR : DisplayRule R) (seatId : Option String)
    (after : Option Nat)
    (hN : self.NeedsDisplay around seatId → N (prepared around { seatId := seatId })) :
    Evolves R N self.displays
      (self.ensureDisplayForSeat around seatId after).state.displays := by
  rcases self.ensureDisplayForSeat_cases around seatId after with
    ⟨e, x, _, hx, hstatus, heq⟩ | ⟨m, hm, heq⟩ | ⟨hneeds, m, hm, heq⟩
  · rw [heq]
    refine (keeps_setStatusProperty hR fun y hy => hR.status fun hended => ?_).evolves
    obtain rfl := Option.some.inj (hy.symm.trans (storedDisplay_eq_some.mp hx).1)
    rcases hstatus with h | h <;> rw [h] at hended <;> cases hended
  · rw [heq]
    exact (Keeps.of_displays hR hm.displays).evolves
  · rw [heq]
    change Evolves R N self.displays (m.displays ++ [_])
    rw [hm.displays]
    exact Evolves.append hR.refl (hN hneeds)

theorem evolves_exec (hR : DisplayRule R) (call : DisplayCall)
    (hremove : call.removes = true → ∀ x y, Freed x y → R x y)
    (hN : ∀ x, self.Adds around call x → N x) :
    Evolves R N self.displays (self.exec around call).state.displays := by
  cases call with
  | managerStatusChanged e => exact (keeps_managerStatusChanged hR).evolves
  | factoryStatusChanged e =>
    exact (Keeps.of_displays hR factoryStatusChanged_displays).evolves
  | ensureDisplayForSeat seatId after =>
    exact evolves_ensureDisplayForSeat hR seatId after fun hneeds => hN _ ⟨hneeds, rfl⟩
  | finish e => exact (keeps_finish hR).evolves
  | queueFinish e =>
    have hqueued : Keeps R self (self.queueFinish e) :=
      keeps_modifyDisplay hR fun _ _ => hR.quiet ⟨rfl, rfl, rfl, rfl⟩
    exact hqueued.evolves
  | finishUnlessFailed e => exact (keeps_finishUnlessFailed hR).evolves
  | createDisplayForUserSession seatId sessionId isLocal =>
    exact Evolves.append hR.refl (hN _ rfl)
  | storeRemove e => exact (Keeps.of_displays hR rfl).evolves
  | storeForeach callback => exact (Keeps.of_displays hR rfl).evolves
  | foreach callback rest =>
    cases rest with
    | nil => exact (Keeps.of_displays hR rfl).evolves
    | cons e rest => exact (keeps_callback hR callback).evolves
  | foreachRemove predicate rest =>
    cases rest with
    | nil => exact (Keeps.of_displays hR rfl).evolves
    | cons e rest =>
      have hfreed := hremove rfl
      change Evolves R N self.displays (self.removeIf predicate e).displays
      unfold removeIf
      split
      · refine (keeps_modifyDisplay hR fun x _ => hfreed x _ ?_).evolves
        split <;> exact ⟨rfl, rfl, rfl, rfl⟩
      · exact (Keeps.of_displays hR rfl).evolves
  | storeClear => exact Evolves.map N fun x => hremove rfl x _ ⟨rfl, rfl, rfl, rfl⟩

/-! ## Events -/

/-- The event gives no display that has ended a status from before its end. -/
def KeepsEnded (self : Displays) (around : DisplaySurroundings) : DisplayEvent → Prop
  | .registerDisplay sessionId => ∀ d x,
      self.storeFind around (lookupBySessionId sessionId) = some d → self.displays[d]? = some x →
        x.status.ended = false
  | .greeterGone d => ∀ x, self.displays[d]? = some x → x.launchEnvironment = some .started →
      x.status.ended = true → x.sessionRegistered = false
  | .userLoaded d => ∀ x, self.displays[d]? = some x → d ∈ self.lookups →
      around.automaticLogin = .userNonexistent → around.greeterUser = false →
        x.status.ended = true → x.sessionRegistered = false
  | .startUserSession d _ _ _ _ => ∀ x, self.displays[d]? = some x →
      x.doingInitialSetup = true → x.status.ended = false
  | .userSessionEnded d => ∀ x, self.displays[d]? = some x →
      x.status.ended = true → x.sessionRegistered = false
  | _ => True

/-- The display that an event adds to the store. -/
def AddsAt (around : DisplaySurroundings) : DisplayEvent → DisplayObject → Prop
  | .createDisplay autologinUser, x => x = prepared around
      { seatId := some "seat0", allowTimedLogin := false, autologinUser := autologinUser }
  | .createRemoteDisplay autologinUser remoteHostname, x => x = prepared around
      { isRemoteDisplay := true, isLocal := false, remoteHostname := remoteHostname
        autologinUser := autologinUser }
  | _, _ => False

theorem rule_unmanaged (hR : DisplayRule R)
    (h : x.status.ended = true → x.sessionRegistered = false) :
    R x { x with status := unmanagedStatus x } := by
  apply hR.status
  intro hended
  simp [unmanagedStatus, h hended, GdmDisplayStatus.ended]

theorem reapLoginScreen_displays (loginWindowVt : Nat) :
    (self.reapLoginScreen around loginWindowVt).displays = self.displays := by
  unfold reapLoginScreen
  split
  · dsimp only
    split <;> rfl
  · rfl

theorem keeps_leaveLoginWindow (hR : DisplayRule R) (previousVt loginWindowVt : Nat) :
    Keeps R self (self.leaveLoginWindow around previousVt loginWindowVt).state := by
  unfold leaveLoginWindow
  dsimp only
  split
  · split
    · unfold maybeStopGreeterInBackground
      split
      · rename_i hmanaged
        refine keeps_setStatusProperty hR fun y hy => hR.status fun hended => ?_
        rw [hy] at hmanaged
        have hstatus : y.status = .managed := (of_decide_eq_true hmanaged).1
        rw [hstatus] at hended
        cases hended
      · exact .of_displays hR rfl
    · exact .of_displays hR rfl
  · exact .of_displays hR rfl

theorem keeps_onVtChanged (hR : DisplayRule R) (vt : Nat) :
    Keeps R self (self.onVtChanged around vt).state := by
  unfold onVtChanged
  dsimp only
  split
  · exact .of_displays hR rfl
  · rw [WithCalls.andThen_state]
    generalize (if around.loginWindow = none then 0 else around.loginWindowVt) = loginWindowVt
    generalize hchanged : ({ self with
      factory := { self.factory with activeVt := vt } } : Displays) = changed
    have hreaped : Keeps R self (changed.reapLoginScreen around loginWindowVt) := by
      apply Keeps.of_displays hR
      rw [reapLoginScreen_displays, ← hchanged]
    exact hreaped.trans hR (keeps_leaveLoginWindow hR _ _)

theorem keeps_onStartUserSession (hR : DisplayRule R) {seatId sessionId : Option String}
    {isLocal automatic : Bool}
    (h : ∀ x, self.displays[d]? = some x → x.doingInitialSetup = true →
      R x { x with status := .waitingToFinish }) :
    Keeps R self (self.onStartUserSession d seatId sessionId isLocal automatic).state := by
  unfold onStartUserSession
  dsimp only
  rw [WithCalls.andThen_state]
  split
  · rename_i hsetup
    refine keeps_setStatusProperty hR fun x hx => h x hx ?_
    rw [hx] at hsetup
    exact hsetup
  · exact .of_displays hR rfl

/-- An event keeps the relation, if it is one on the displays that have not ended or the
relation does not look at the status. -/
theorem evolves_handleEvent (hR : DisplayRule R) (event : DisplayEvent)
    (hstatus : self.KeepsEnded around event ∨
      ∀ (x : DisplayObject) status, R x { x with status := status })
    (hN : ∀ x, AddsAt around event x → N x) :
    Evolves R N self.displays (self.handleEvent around event).state.displays := by
  have hsame : Evolves R N self.displays self.displays := Evolves.refl hR.refl _ _
  have hunmanaged : ∀ x : DisplayObject, (self.KeepsEnded around event →
      x.status.ended = true → x.sessionRegistered = false) →
        R x { x with status := unmanagedStatus x } := by
    intro x hx
    rcases hstatus with hkeeps | hany
    · exact rule_unmanaged hR (hx hkeeps)
    · exact hany x _
  cases event with
  | start seats => exact hsame
  | activateGreeter seatId => exact hsame
  | seatRemoved seatId => exact hsame
  | canGraphicalChanged seatId =>
    change Evolves R N _ (self.onSeatPropertiesChanged around seatId).state.displays
    unfold onSeatPropertiesChanged
    split <;> exact hsame
  | graphicsCheckTimeout =>
    change Evolves R N _ self.onSeat0GraphicsCheckTimeout.state.displays
    unfold onSeat0GraphicsCheckTimeout
    split <;> exact hsame
  | uevent =>
    change Evolves R N _ (self.onUevent around).state.displays
    unfold onUevent
    split
    · exact (Keeps.of_displays hR settles_udevIsSettled.displays).evolves
    · exact hsame
  | vtChanged vt => exact (keeps_onVtChanged hR vt).evolves
  | finishWaitingTimeout =>
    change Evolves R N _ self.onFinishWaitingTimeout.state.displays
    unfold onFinishWaitingTimeout
    split <;> exact hsame
  | createDisplay autologinUser =>
    change Evolves R N _ (self.createDisplay around _).state.displays
    rw [createDisplay_eq rfl]
    exact Evolves.append hR.refl (hN _ rfl)
  | createRemoteDisplay autologinUser remoteHostname =>
    change Evolves R N _ (self.createDisplay around _).state.displays
    rw [createDisplay_eq rfl]
    exact Evolves.append hR.refl (hN _ rfl)
  | registerDisplay sessionId =>
    change Evolves R N _ (self.registerDisplay around sessionId).state.displays
    unfold registerDisplay
    split
    · rename_i e hfound
      refine (keeps_setStatusProperty hR fun x hx => ?_).evolves
      rcases hstatus with hkeeps | hany
      · exact hR.status fun hended => nomatch (hkeeps e x hfound hx).symm.trans hended
      · exact hany x _
    · exact hsame
  | registerSession sessionId =>
    change Evolves R N _ (self.registerSession around sessionId).state.displays
    unfold registerSession
    split
    · exact Evolves.modify hR.refl N fun _ _ => hR.quiet ⟨rfl, rfl, rfl, rfl⟩
    · exact hsame
  | greeterOpened e sessionId =>
    change Evolves R N _ (self.onGreeterOpened e sessionId).state.displays
    unfold onGreeterOpened
    split
    · exact Evolves.modify hR.refl N fun _ _ => hR.quiet ⟨rfl, rfl, rfl, rfl⟩
    · exact hsame
  | greeterGone e =>
    change Evolves R N _ (self.onGreeterGone e).state.displays
    unfold onGreeterGone
    split
    · rename_i hstarted
      refine (keeps_unmanage hR fun x hx => hunmanaged x fun hkeeps => ?_).evolves
      rw [hx] at hstarted
      exact hkeeps x hx (of_decide_eq_true hstarted)
    · exact hsame
  | finishIdle e =>
    change Evolves R N _ (self.onFinishIdle e).state.displays
    unfold onFinishIdle
    split
    · exact (keeps_finish hR).evolves
    · exact hsame
  | purgeDisplays =>
    change Evolves R N _ (self.onPurgeDisplays around).state.displays
    unfold onPurgeDisplays
    split <;> exact hsame
  | userLoaded e =>
    change Evolves R N _ (self.onUserLoaded around e).state.displays
    unfold onUserLoaded
    split
    · rename_i hlookup
      dsimp only
      split
      · rename_i hnonexistent
        refine (Keeps.of_displays hR ?_ |>.trans hR (keeps_setUpGreeterSession hR
          fun x hx hno => hunmanaged x fun hkeeps => ?_)).evolves
        · rfl
        · exact hkeeps x hx hlookup hnonexistent hno
      · exact hsame
    · exact hsame
  | startUserSession e seatId sessionId isLocal automatic =>
    refine (keeps_onStartUserSession hR fun x hx hsetup => ?_).evolves
    rcases hstatus with hkeeps | hany
    · exact hR.status fun hended => nomatch (hkeeps x hx hsetup).symm.trans hended
    · exact hany x _
  | userSessionEnded e =>
    exact (keeps_unmanage hR fun x hx => hunmanaged x fun hkeeps => hkeeps x hx).evolves
  | getDisplays => exact hsame
  | dispose => exact hsame

/-! ## Steps -/

/-- The display that a step adds to the store. -/
def StepAdds (c : WithCalls Displays DisplayCall) :
    Step × DisplaySurroundings → DisplayObject → Prop
  | (.event event, around), x => c.calls = [] ∧ AddsAt around event x
  | (.call, around), x => ∃ call rest, c.calls = call :: rest ∧ c.state.Adds around call x

theorem evolves_step (hR : DisplayRule R) (hfreed : ∀ x y, Freed x y → R x y)
    {c : WithCalls Displays DisplayCall} (input : Step × DisplaySurroundings)
    (hstatus : (∀ event around, input = (.event event, around) → c.calls = [] →
      c.state.KeepsEnded around event) ∨
        ∀ (x : DisplayObject) status, R x { x with status := status })
    (hN : ∀ x, StepAdds c input x → N x) :
    Evolves R N c.state.displays (machine.step c input).state.displays := by
  rcases step_cases c input with hsame | ⟨event, around, rfl, hcalls, hstep⟩ |
    ⟨call, rest, around, rfl, hcalls, hstep⟩
  · rw [hsame]
    exact Evolves.refl hR.refl _ _
  · rw [hstep]
    exact evolves_handleEvent hR event (hstatus.imp_left fun h => h event around rfl hcalls)
      fun x hx => hN x ⟨hcalls, hx⟩
  · rw [hstep]
    exact evolves_exec hR call (fun _ => hfreed) fun x hx => hN x ⟨call, rest, hcalls, hx⟩

end Displays

end Gdm
