import Gdm.Display.Failures

/-!
# Displays that wait to finish

When the user of a display goes to a display of their own, or the VT of the login window
is left, the display waits to finish.  `finish_waiting_displays_on_seat` is called for a
seat, from the timeout that follows a switch and when a display becomes managed.  It goes
through the displays of all seats, and its callback gets the seat but does not look at
it.

The handlers that hear of a finished display act in between: they may ask for a login
screen on its seat, which is activated or created there.
-/

namespace Gdm

open ObjectTable

namespace Displays

variable {self m : Displays} {around : DisplaySurroundings}
  {c : WithCalls Displays DisplayCall} {d : Nat} {x y : DisplayObject}
  {status : GdmDisplayStatus} {seats : Set (Option String)} {seatId : String}

/-- `finish_waiting_displays_on_seat` -/
def finishWaitingDisplaysOnSeat (self : Displays) (_seatId : String) :
    WithCalls Displays DisplayCall :=
  ⟨self, [.storeForeach .finishDisplayOnSeatIfWaiting]⟩

/-- The session that logind names as the login window of a seat is shown on that seat. -/
def LoginWindowOnSeat (self : Displays) (call : DisplayCall) (around : DisplaySurroundings) :
    Prop :=
  ∀ seatId after, call = .ensureDisplayForSeat seatId after →
    ∀ d x, self.loginWindowDisplay around = some d → self.displays[d]? = some x →
      x.seatId = seatId

/-- The callback has come to the display, and does something to it. -/
def FinishesDisplay (c : WithCalls Displays DisplayCall) (d : Nat) : Prop :=
  (∃ rest others, c.calls = .foreach .finishDisplayOnSeatIfWaiting (d :: rest) :: others) ∧
    c.state.finishDisplayOnSeatIfWaiting d ≠ ⟨c.state, []⟩

/-- What is finished next waits on the seat, and the displays elsewhere have the status that
they had before. -/
structure PerSeat (seatId : String) (before : Displays) (c : WithCalls Displays DisplayCall) :
    Prop where
  finishes : ∀ d, FinishesDisplay c d →
    ∃ x, c.state.displays[d]? = some x ∧ x.status = .waitingToFinish ∧ x.seatId = some seatId
  status : ∀ (d : Nat) (x : DisplayObject), before.displays[d]? = some x →
    x.seatId ≠ some seatId →
      ∃ y, c.state.displays[d]? = some y ∧ y.status = x.status

/-- However the calls are answered, only the displays of the seat are finished. -/
def FinishesPerSeat (self : Displays) (seatId : String) : Prop :=
  ∀ answers, displayCalls.AnswersMeet LoginWindowOnSeat (self.finishWaitingDisplaysOnSeat seatId)
    answers →
      ∀ n, PerSeat seatId self
        (displayCalls.after (self.finishWaitingDisplaysOnSeat seatId) answers n)

/-- The displays in the store that wait are all on one of the seats. -/
def WaitsOn (seats : Set (Option String)) (self : Displays) : Prop :=
  ∀ d x, self.storedDisplay d = some x → x.status = .waitingToFinish → x.seatId ∈ seats

/-! ## What stays as it is -/

/-- A display of another seat is the same, and none begins to wait. -/
structure Stays (seats : Set (Option String)) (x y : DisplayObject) : Prop where
  seatId : y.seatId = x.seatId
  stored : y.stored = x.stored
  waits : y.status = .waitingToFinish → x.status = .waitingToFinish
  elsewhere : x.seatId ∉ seats → y = x

/-- A display that is new is on one of the seats, and does not wait. -/
def NewOn (seats : Set (Option String)) (x : DisplayObject) : Prop :=
  x.seatId ∈ seats ∧ x.status ≠ .waitingToFinish

theorem Stays.refl (seats : Set (Option String)) (x : DisplayObject) : Stays seats x x := by
  constructor
  · rfl
  · rfl
  · exact fun h => h
  · exact fun _ => rfl

theorem Stays.trans {z : DisplayObject} (h : Stays seats x y) (h' : Stays seats y z) :
    Stays seats x z := by
  constructor
  · rw [h'.seatId, h.seatId]
  · rw [h'.stored, h.stored]
  · exact fun hz => h.waits (h'.waits hz)
  · intro hx
    have hy : y = x := h.elsewhere hx
    rw [← hy] at hx
    rw [h'.elsewhere hx, hy]

/-- A change of a display on one of the seats. -/
theorem Stays.changed (hseat : x.seatId ∈ seats) (hseatId : y.seatId = x.seatId)
    (hstored : y.stored = x.stored) (hwaits : y.status = .waitingToFinish →
      x.status = .waitingToFinish) : Stays seats x y :=
  ⟨hseatId, hstored, hwaits, fun hnot => absurd hseat hnot⟩

/-- The displays have changed as `Stays` says. -/
def Stay (seats : Set (Option String)) (m m' : Displays) : Prop :=
  Evolves (Stays seats) (NewOn seats) m.displays m'.displays

theorem Stay.of_displays (h : m.displays = self.displays) : Stay seats self m := by
  unfold Stay
  rw [h]
  exact Evolves.refl (Stays.refl seats) _ _

theorem Stay.trans {m' : Displays} (h : Stay seats self m) (h' : Stay seats m m') :
    Stay seats self m' := by
  apply Evolves.trans (fun hxy hyz => hxy.trans hyz) _ h h'
  rintro x y ⟨hseat, hwaits⟩ hxy
  constructor
  · rwa [hxy.seatId]
  · exact fun hy => hwaits (hxy.waits hy)

/-- The display is on one of the seats. -/
def On (seats : Set (Option String)) (self : Displays) (d : Nat) : Prop :=
  ∀ x, self.displays[d]? = some x → x.seatId ∈ seats

theorem On.stay (h : On seats self d) (hstay : Stay seats self m) : On seats m d := by
  intro y hy
  rcases hstay.origin hy with ⟨x, hx, hxy⟩ | ⟨_, hnew⟩
  · rw [hxy.seatId]
    exact h x hx
  · exact hnew.1

theorem WaitsOn.stay (h : WaitsOn seats self) (hstay : Stay seats self m) : WaitsOn seats m := by
  intro d y hy hwaits
  obtain ⟨hentry, hstored⟩ := storedDisplay_eq_some.mp hy
  rcases hstay.origin hentry with ⟨x, hx, hxy⟩ | ⟨_, hnew⟩
  · rw [hxy.seatId]
    rw [hxy.stored] at hstored
    exact h d x (storedDisplay_eq_some.mpr ⟨hx, hstored⟩) (hxy.waits hwaits)
  · exact hnew.1

/-! ## What the calls are about -/

/-- The call comes of finishing displays on one of the seats. -/
def Concerns (seats : Set (Option String)) (self : Displays) : DisplayCall → Prop
  | .managerStatusChanged d => On seats self d
  | .factoryStatusChanged d => On seats self d
  | .ensureDisplayForSeat seatId _ => seatId ∈ seats
  | .finish d => On seats self d
  | .storeForeach callback => callback = .finishDisplayOnSeatIfWaiting
  | .foreach callback rest => callback = .finishDisplayOnSeatIfWaiting ∧
      ∀ d ∈ rest, ∀ x, self.displays[d]? = some x → x.status = .waitingToFinish →
        x.seatId ∈ seats
  | _ => False

theorem Concerns.stay {call : DisplayCall} (h : Concerns seats self call)
    (hstay : Stay seats self m) : Concerns seats m call := by
  cases call with
  | managerStatusChanged d => exact On.stay h hstay
  | factoryStatusChanged d => exact On.stay h hstay
  | ensureDisplayForSeat seatId after => exact h
  | finish d => exact On.stay h hstay
  | storeForeach callback => exact h
  | foreach callback rest =>
    obtain ⟨hcallback, hrest⟩ := h
    refine ⟨hcallback, ?_⟩
    intro d hd y hy hwaits
    rcases hstay.origin hy with ⟨x, hx, hxy⟩ | ⟨_, hnew⟩
    · rw [hxy.seatId]
      exact hrest d hd x hx (hxy.waits hwaits)
    · exact hnew.1
  | _ => exact h.elim

/-- A function has done nothing to displays elsewhere, and what it calls is about the
seats. -/
structure GoesOn (seats : Set (Option String)) (m : Displays) (c : WithCalls Displays DisplayCall) :
    Prop where
  stay : Stay seats m c.state
  calls : ∀ call ∈ c.calls, Concerns seats c.state call

theorem GoesOn.none (h : m.displays = self.displays) : GoesOn seats self ⟨m, []⟩ := by
  constructor
  · exact .of_displays h
  · simp

theorem GoesOn.single {call : DisplayCall} (h : m.displays = self.displays)
    (hcall : Concerns seats m call) : GoesOn seats self ⟨m, [call]⟩ := by
  constructor
  · exact .of_displays h
  · simpa using hcall

theorem GoesOn.after (hstay : Stay seats self m) (h : GoesOn seats m c) : GoesOn seats self c :=
  ⟨hstay.trans h.stay, h.calls⟩

theorem GoesOn.andThen {more : List DisplayCall} (h : GoesOn seats self c)
    (hmore : ∀ call ∈ more, Concerns seats self call) : GoesOn seats self (c.andThen more) := by
  constructor
  · exact h.stay
  · intro call hcall
    rcases List.mem_append.mp hcall with hin | hin
    · exact h.calls call hin
    · exact (hmore call hin).stay h.stay

/-! ## Functions -/

theorem stay_modifyDisplay (hd : On seats self d) {f : DisplayObject → DisplayObject}
    (hseatId : ∀ x, (f x).seatId = x.seatId) (hstored : ∀ x, (f x).stored = x.stored)
    (hwaits : ∀ x, (f x).status = .waitingToFinish → x.status = .waitingToFinish) :
    Stay seats self (self.modifyDisplay d f) := by
  apply Evolves.modify (Stays.refl seats)
  intro x hx
  exact .changed (hd x hx) (hseatId x) (hstored x) (hwaits x)

theorem goesOn_notifyStatus (hd : On seats self d) : GoesOn seats self (self.notifyStatus d) := by
  constructor
  · exact .of_displays rfl
  · intro call hcall
    rcases mem_notifyStatus hcall with rfl | rfl
    · exact hd
    · exact hd

theorem goesOn_setStatusProperty (hd : On seats self d) (hstatus : status ≠ .waitingToFinish) :
    GoesOn seats self (self.setStatusProperty d status) := by
  have hstay : Stay seats self
      (self.modifyDisplay d fun x => { x with status := status }) := by
    apply stay_modifyDisplay hd
    · simp
    · simp
    · exact fun _ hwaits => absurd hwaits hstatus
  exact .after hstay (goesOn_notifyStatus (hd.stay hstay))

theorem goesOn_setStatus (hd : On seats self d) (hstatus : status ≠ .waitingToFinish) :
    GoesOn seats self (self.setStatus d status) := by
  unfold setStatus
  split
  · exact goesOn_setStatusProperty hd hstatus
  · exact .none rfl

theorem goesOn_unmanage (hd : On seats self d) : GoesOn seats self (self.unmanage d) := by
  unfold unmanage
  split
  · rename_i x _
    exact goesOn_setStatus hd (unmanagedStatus_ne_waiting x)
  · exact .none rfl

theorem goesOn_finish (hd : On seats self d) : GoesOn seats self (self.finish d) := by
  have hstay : Stay seats self (self.modifyDisplay d fun x => { x with finishIdle := false }) := by
    apply stay_modifyDisplay hd
    · simp
    · simp
    · exact fun _ hwaits => hwaits
  exact .after hstay (goesOn_setStatus (hd.stay hstay) (by simp))

theorem goesOn_setUpGreeterSession (hd : On seats self d) :
    GoesOn seats self (self.setUpGreeterSession around d) := by
  unfold setUpGreeterSession
  split
  · constructor
    · apply stay_modifyDisplay hd
      · simp
      · simp
      · exact fun _ hwaits => hwaits
    · simp
  · apply (goesOn_unmanage hd).andThen
    simpa [Concerns] using hd

theorem goesOn_managerStatusChanged (hd : On seats self d) :
    GoesOn seats self (self.managerStatusChanged around d) := by
  unfold managerStatusChanged setUpSession
  split
  · split
    · exact goesOn_setUpGreeterSession hd
    · exact .none rfl
    · exact goesOn_setUpGreeterSession hd
    · exact .none rfl
  · exact .none rfl

theorem goesOn_factoryStatusChanged (hd : On seats self d) :
    GoesOn seats self (self.factoryStatusChanged around d) := by
  constructor
  · exact .of_displays factoryStatusChanged_displays
  · unfold factoryStatusChanged
    split
    · simp
    · rename_i x hx
      have hseat : x.seatId ∈ seats := hd x (storedDisplay_eq_some.mp hx).1
      split
      · simp
      · split
        · dsimp only
          split
          · simpa [Concerns] using hseat
          · simp
        · dsimp only
          split
          · split
            · simp
            · simpa [Concerns] using hseat
          · simp
        · simp [Concerns]
        all_goals simp

/-- What is asked for on one of the seats is activated or created there. -/
theorem goesOn_ensureDisplayForSeat {seat : Option String} (hseat : seat ∈ seats)
    (after : Option Nat)
    (hlogin : ∀ d, self.loginWindowDisplay around = some d → On seats self d) :
    GoesOn seats self (self.ensureDisplayForSeat around seat after) := by
  rcases self.ensureDisplayForSeat_cases around seat after with
    ⟨d, x, hwindow, _, _, heq⟩ | ⟨m, hm, heq⟩ | ⟨_, m, hm, heq⟩
  · rw [heq]
    exact goesOn_setStatusProperty (hlogin d hwindow) (by simp)
  · rw [heq]
    exact .none hm.displays
  · rw [heq]
    have hnew : On seats { m with
        displays := m.displays ++ [prepared around { seatId := seat }]
        log := m.log ++ [.created m.displays.length seat after] } m.displays.length := by
      intro x hx
      rw [List.getElem?_concat_length] at hx
      cases hx
      exact hseat
    constructor
    · change Evolves (Stays seats) (NewOn seats) self.displays (m.displays ++ [_])
      rw [hm.displays]
      exact Evolves.append (Stays.refl seats) ⟨hseat, by simp [prepared]⟩
    · simpa [Concerns] using hnew

theorem goesOn_finishDisplayOnSeatIfWaiting
    (hd : ∀ x, self.displays[d]? = some x → x.status = .waitingToFinish → x.seatId ∈ seats) :
    GoesOn seats self (self.finishDisplayOnSeatIfWaiting d) := by
  unfold finishDisplayOnSeatIfWaiting
  split
  · rename_i hwaiting
    have hon : On seats self d := by
      intro x hx
      rw [hx] at hwaiting
      exact hd x hx (by simpa using hwaiting)
    have hstay : Stay seats self (self.stopGreeterSession d) := by
      apply stay_modifyDisplay hon
      · simp
      · simp
      · exact fun _ hwaits => hwaits
    have hstopped : On seats (self.stopGreeterSession d) d := hon.stay hstay
    apply GoesOn.after hstay
    apply (goesOn_unmanage hstopped).andThen
    simpa [Concerns] using hstopped
  · exact .none rfl

/-! ## Calls -/

theorem goesOn_exec {call : DisplayCall} (hcall : Concerns seats self call)
    (hwaits : WaitsOn seats self)
    (hlogin : ∀ seat after, call = .ensureDisplayForSeat seat after →
      ∀ d, self.loginWindowDisplay around = some d → On seats self d) :
    GoesOn seats self (self.exec around call) := by
  cases call with
  | managerStatusChanged d => exact goesOn_managerStatusChanged hcall
  | factoryStatusChanged d => exact goesOn_factoryStatusChanged hcall
  | ensureDisplayForSeat seat after =>
    exact goesOn_ensureDisplayForSeat hcall after (hlogin seat after rfl)
  | finish d => exact goesOn_finish hcall
  | storeForeach callback =>
    apply GoesOn.single rfl
    refine ⟨hcall, ?_⟩
    intro d hd x hx hstatus
    obtain ⟨y, hy⟩ := mem_entries.mp hd
    obtain rfl := Option.some.inj (hx.symm.trans (storedDisplay_eq_some.mp hy).1)
    exact hwaits d x hy hstatus
  | foreach callback rest =>
    obtain ⟨rfl, hrest⟩ := hcall
    cases rest with
    | nil => exact .none rfl
    | cons d rest =>
      apply (goesOn_finishDisplayOnSeatIfWaiting (hrest d List.mem_cons_self)).andThen
      intro call hcall
      rw [List.mem_singleton.mp hcall]
      exact ⟨rfl, fun e he => hrest e (List.mem_cons_of_mem d he)⟩
  | _ => exact hcall.elim

/-- As long as the displays that wait are on the seats, the calls stay on them. -/
structure KeepsTo (seats : Set (Option String)) (before : Displays)
    (c : WithCalls Displays DisplayCall) : Prop where
  waits : WaitsOn seats c.state
  goes : GoesOn seats before c

theorem KeepsTo.exec {before : Displays} {call : DisplayCall} {rest : List DisplayCall}
    (h : KeepsTo seats before ⟨self, call :: rest⟩)
    (hlogin : ∀ seat after, call = .ensureDisplayForSeat seat after →
      ∀ d, self.loginWindowDisplay around = some d → On seats self d) :
    KeepsTo seats before ((self.exec around call).andThen rest) := by
  have hcall : Concerns seats self call := h.goes.calls call List.mem_cons_self
  have hexec : GoesOn seats self ((self.exec around call).andThen rest) := by
    apply (goesOn_exec hcall h.waits hlogin).andThen
    exact fun later hlater => h.goes.calls later (List.mem_cons_of_mem call hlater)
  constructor
  · exact h.waits.stay hexec.stay
  · exact .after h.goes.stay hexec

theorem keepsTo_finishWaiting (hwaits : WaitsOn seats self) (seatId : String) :
    KeepsTo seats self (self.finishWaitingDisplaysOnSeat seatId) := by
  constructor
  · exact hwaits
  · exact .single rfl rfl

/-- The condition is enough: nothing happens to the displays of the other seats. -/
theorem WaitsOn.perSeat (h : WaitsOn {some seatId} self) : self.FinishesPerSeat seatId := by
  intro answers hanswers n
  have hkeeps : KeepsTo {some seatId} self
      (displayCalls.after (self.finishWaitingDisplaysOnSeat seatId) answers n) := by
    apply CallSemantics.after_invariant (KeepsTo {some seatId} self) _ hanswers
    · exact keepsTo_finishWaiting h seatId
    · intro m call rest around hm hwindow
      apply hm.exec
      intro seat after hcall d hd x hx
      have hconcerns : Concerns {some seatId} m call := hm.goes.calls call List.mem_cons_self
      rw [hwindow seat after hcall d x hd hx]
      rw [hcall] at hconcerns
      exact hconcerns
  generalize displayCalls.after (self.finishWaitingDisplaysOnSeat seatId) answers n = c at hkeeps
  constructor
  · rintro d ⟨⟨rest, others, hcalls⟩, hfinishes⟩
    have hcall : Concerns {some seatId} c.state (.foreach .finishDisplayOnSeatIfWaiting
        (d :: rest)) := hkeeps.goes.calls _ (by rw [hcalls]; exact List.mem_cons_self)
    by_contra hnone
    apply hfinishes
    unfold finishDisplayOnSeatIfWaiting
    rw [if_neg]
    intro hwaiting
    obtain ⟨x, hx, hstatus⟩ := Option.any_eq_true _ _ |>.mp hwaiting
    have hstatus : x.status = .waitingToFinish := by simpa using hstatus
    exact hnone ⟨x, hx, hstatus, hcall.2 d List.mem_cons_self x hx hstatus⟩
  · intro d x hx hseat
    obtain ⟨y, hy, hxy⟩ := hkeeps.goes.stay.kept d x hx
    refine ⟨y, hy, ?_⟩
    rw [hxy.elsewhere (by simpa using hseat)]

/-! ## What is finished -/

/-- The callback leaves no display waiting that it has come to. -/
theorem finishDisplayOnSeatIfWaiting_status
    (hy : (self.finishDisplayOnSeatIfWaiting d).state.displays[d]? = some y) :
    y.status ≠ .waitingToFinish := by
  unfold finishDisplayOnSeatIfWaiting at hy
  split at hy
  · rename_i hwaiting
    obtain ⟨x, hx, hstatus⟩ := Option.any_eq_true _ _ |>.mp hwaiting
    have hstatus : x.status = .waitingToFinish := by simpa using hstatus
    have hstopped : (self.stopGreeterSession d).displays[d]? =
        some { x with launchEnvironment := none } := by
      simp [stopGreeterSession, modifyDisplay, hx]
    have hne : x.status ≠ unmanagedStatus { x with launchEnvironment := none } := by
      rw [hstatus]
      exact fun heq => unmanagedStatus_ne_waiting _ heq.symm
    rw [unmanage_eq hstopped, setStatus_eq hstopped hne] at hy
    simp only [WithCalls.andThen_state, notifyStatus, modifyDisplay,
      List.getElem?_modify_eq, hstopped] at hy
    cases hy
    exact unmanagedStatus_ne_waiting _
  · rename_i hwaiting
    intro hstatus
    apply hwaiting
    change self.displays[d]? = some y at hy
    simp [hy, hstatus]

/-- The display has been finished, or the iteration has not come to it. -/
def Pending (d : Nat) (c : WithCalls Displays DisplayCall) : Prop :=
  ∃ y, c.state.displays[d]? = some y ∧ y.stored = true ∧
    (y.status ≠ .waitingToFinish ∨ .storeForeach .finishDisplayOnSeatIfWaiting ∈ c.calls ∨
      ∃ rest, .foreach .finishDisplayOnSeatIfWaiting rest ∈ c.calls ∧ d ∈ rest)

theorem Pending.exec {call : DisplayCall} {rest : List DisplayCall}
    (h : Pending d ⟨self, call :: rest⟩)
    (hstay : Stay Set.univ self (self.exec around call).state) :
    Pending d ((self.exec around call).andThen rest) := by
  obtain ⟨x, hx, hstored, hpending⟩ := h
  obtain ⟨y, hy, hxy⟩ := hstay.kept d x hx
  refine ⟨y, hy, hxy.stored.trans hstored, ?_⟩
  rcases hpending with hfinished | hcall | ⟨entries, hcall, hd⟩
  · exact .inl fun hwaits => hfinished (hxy.waits hwaits)
  · rcases List.mem_cons.mp hcall with rfl | hlater
    · -- the iteration begins
      refine .inr (.inr ⟨self.entries around, List.mem_cons_self, ?_⟩)
      exact mem_entries.mpr ⟨x, storedDisplay_eq_some.mpr ⟨hx, hstored⟩⟩
    · exact .inr (.inl (List.mem_append_right _ hlater))
  · rcases List.mem_cons.mp hcall with rfl | hlater
    · cases entries with
      | nil => cases hd
      | cons e entries =>
        rcases List.mem_cons.mp hd with rfl | hd
        · -- the iteration has come to the display
          exact .inl (finishDisplayOnSeatIfWaiting_status hy)
        · refine .inr (.inr ⟨entries, ?_, hd⟩)
          simp [Displays.exec]
    · exact .inr (.inr ⟨entries, List.mem_append_right _ hlater, hd⟩)

/-- When the calls have come to an end, every display that was waiting has been finished,
whatever its seat. -/
theorem finishWaiting_finishes (hx : self.storedDisplay d = some x) (seatId : String)
    (answers : ℕ → DisplaySurroundings) {n : Nat}
    (hend : (displayCalls.after (self.finishWaitingDisplaysOnSeat seatId) answers n).calls = []) :
    ∃ y, (displayCalls.after (self.finishWaitingDisplaysOnSeat seatId) answers n).state.displays[d]?
      = some y ∧ y.status ≠ .waitingToFinish := by
  obtain ⟨hentry, hstored⟩ := storedDisplay_eq_some.mp hx
  have hboth : KeepsTo Set.univ self
        (displayCalls.after (self.finishWaitingDisplaysOnSeat seatId) answers n) ∧
      Pending d (displayCalls.after (self.finishWaitingDisplaysOnSeat seatId) answers n) := by
    apply CallSemantics.after_invariant (C := fun _ _ _ => True)
      (fun c => KeepsTo Set.univ self c ∧ Pending d c)
    · rintro m call rest around ⟨hkeeps, hpending⟩ -
      have hnext : KeepsTo Set.univ self ((m.exec around call).andThen rest) := by
        apply hkeeps.exec
        exact fun _ _ _ _ _ x _ => Set.mem_univ x.seatId
      refine ⟨hnext, hpending.exec ?_⟩
      apply (goesOn_exec (hkeeps.goes.calls call List.mem_cons_self) hkeeps.waits _).stay
      exact fun _ _ _ _ _ x _ => Set.mem_univ x.seatId
    · exact fun _ _ _ _ => trivial
    · constructor
      · apply keepsTo_finishWaiting
        exact fun _ x _ _ => Set.mem_univ x.seatId
      · exact ⟨x, hentry, hstored, .inr (.inl List.mem_cons_self)⟩
  obtain ⟨-, y, hy, -, hpending⟩ := hboth
  refine ⟨y, hy, ?_⟩
  simpa [hend] using hpending

/-- The hash table may have the display first. -/
def firstInTable (d : Nat) : DisplaySurroundings :=
  { position := fun e => if e = d then 0 else e + 1 }

theorem entries_firstInTable (hx : self.storedDisplay d = some x) :
    ∃ rest, self.entries (firstInTable d) = d :: rest := by
  have hmem : d ∈ self.entries (firstInTable d) := mem_entries.mpr ⟨x, hx⟩
  have hsorted : (self.entries (firstInTable d)).Pairwise fun d' e =>
      (firstInTable d).position d' ≤ (firstInTable d).position e := by
    have : Std.Total fun d' e : Nat =>
        (firstInTable d).position d' ≤ (firstInTable d).position e :=
      ⟨fun _ _ => Nat.le_total _ _⟩
    have : IsTrans Nat fun d' e =>
        (firstInTable d).position d' ≤ (firstInTable d).position e :=
      ⟨fun _ _ _ => Nat.le_trans⟩
    exact List.pairwise_insertionSort _ _
  generalize self.entries (firstInTable d) = entries at hmem hsorted
  cases entries with
  | nil => cases hmem
  | cons e rest =>
    rcases List.mem_cons.mp hmem with rfl | hrest
    · exact ⟨rest, rfl⟩
    · have hle := (List.pairwise_cons.mp hsorted).1 d hrest
      by_cases hed : e = d
      · exact ⟨rest, by rw [hed]⟩
      · simp [firstInTable, hed] at hle

/-- The condition is needed: when the table has a display of another seat first, it is
finished at once. -/
theorem FinishesPerSeat.waitsOn (h : self.FinishesPerSeat seatId) :
    WaitsOn {some seatId} self := by
  intro d x hx hwaits
  by_contra hseat
  obtain ⟨rest, hentries⟩ := entries_firstInTable hx
  have hanswers : displayCalls.AnswersMeet LoginWindowOnSeat
      (self.finishWaitingDisplaysOnSeat seatId) fun _ => firstInTable d := by
    intro n call others _ seat after _ e y he
    cases he
  obtain ⟨y, hy, hstatus⟩ := (h _ hanswers 2).status d x (storedDisplay_eq_some.mp hx).1
    (by simpa using hseat)
  have hstate : (displayCalls.after (self.finishWaitingDisplaysOnSeat seatId)
      (fun _ => firstInTable d) 2).state = (self.finishDisplayOnSeatIfWaiting d).state := by
    change (displayCalls.next ⟨self, [.foreach .finishDisplayOnSeatIfWaiting
      (self.entries (firstInTable d))]⟩ (firstInTable d)).state = _
    rw [hentries]
    rfl
  rw [hstate] at hy
  exact finishDisplayOnSeatIfWaiting_status hy (hstatus.trans hwaits)

/-- The displays of one seat only are finished exactly when all the displays that wait are
on that seat; those of the other seats are finished with them. -/
theorem finishWaiting_perSeat_iff (self : Displays) (seatId : String) :
    (self.FinishesPerSeat seatId ↔ WaitsOn {some seatId} self) ∧
    ∀ d x, self.storedDisplay d = some x → ∀ (answers : ℕ → DisplaySurroundings) n,
      (displayCalls.after (self.finishWaitingDisplaysOnSeat seatId) answers n).calls = [] →
        ∃ y, (displayCalls.after (self.finishWaitingDisplaysOnSeat seatId) answers
          n).state.displays[d]? = some y ∧ y.status ≠ .waitingToFinish := by
  constructor
  · constructor
    · exact FinishesPerSeat.waitsOn
    · exact WaitsOn.perSeat
  · intro d x hx answers n hend
    exact finishWaiting_finishes hx seatId answers hend

/-- The first user of a system with two seats has logged in on seat1, from the initial setup
there. -/
def setupOnSecondSeat : List (Step × DisplaySurroundings) :=
  happens (.start ["seat0", "seat1"]) :: calls 6 { wantsInitialSetup := true } ++
    [happens (.startUserSession 1 (some "seat1") (some "u1") true false)] ++ calls 5

/-- The display on seat1 is finished when it is the turn of seat0. -/
theorem setupOnSecondSeat_finished :
    ¬ ∀ (self : Displays) (seatId : String), self.FinishesPerSeat seatId := by
  intro h
  have hwaits := (h (machine.run (initially 1) setupOnSecondSeat).state "seat0").waitsOn
  obtain ⟨x, hx, hstatus, hseat⟩ : ∃ x,
      (machine.run (initially 1) setupOnSecondSeat).state.storedDisplay 1 = some x ∧
        x.status = .waitingToFinish ∧ x.seatId = some "seat1" := by
    decide +kernel
  have hzero := hwaits 1 x hx hstatus
  rw [hseat] at hzero
  simp at hzero

end Displays

end Gdm
