import Gdm.Display.Evolution

/-!
# One greeter for a seat

`ensure_display_for_seat` looks for a display that has been prepared on seat0, and for one
that is managed on the other seats.  A greeter has each of these statuses for a part of
its time only, so while it is starting up on another seat, or has registered on seat0, it
is not found, unless logind knows the session of the login window.
-/

namespace Gdm

open ObjectTable

/-- The display is one for a greeter on the seat. -/
def GreeterOn (seat : String) (x : DisplayObject) : Prop :=
  x.sessionClass = "greeter" ∧ x.seatId = some seat

instance (seat : String) (x : DisplayObject) : Decidable (GreeterOn seat x) := by
  unfold GreeterOn
  infer_instance

namespace Displays

variable {self m : Displays} {around : DisplaySurroundings} {seat : String}
  {c : WithCalls Displays DisplayCall} {input : Step × DisplaySurroundings}

/-- A call of the factory over D-Bus creates another greeter on purpose. -/
def Step.createsDisplay : Step → Bool
  | .event (.createDisplay _) => true
  | _ => false

/-- There is at most one greeter in the store for the seat that has not ended. -/
def OneGreeter (self : Displays) (seat : String) : Prop :=
  ∀ d e x y, self.storedDisplay d = some x → self.storedDisplay e = some y →
    GreeterOn seat x → GreeterOn seat y → x.status.ended = false → y.status.ended = false → d = e

/-- No display of the seat has ended, and none is created by a call of the factory. -/
def SeatRun (seat : String) (c : WithCalls Displays DisplayCall)
    (input : Step × DisplaySurroundings) : Prop :=
  (∀ x ∈ c.state.displays, x.stored = true → x.seatId = some seat → x.status.ended = false) ∧
    input.1.createsDisplay = false

instance : Decidable (SeatRun seat c input) := by
  unfold SeatRun
  infer_instance

/-- A display on the seat has the status that is looked for, or no greeter of the seat is
left that has not ended. -/
def GreeterFound (self : Displays) (seat : String) : Prop :=
  (∃ x ∈ self.displays, x.stored = true ∧ x.seatId = some seat ∧
      x.status = statusForSeat (some seat)) ∨
    ∀ x ∈ self.displays, x.stored = true → GreeterOn seat x → x.status.ended = true

instance : Decidable (GreeterFound self seat) := by
  unfold GreeterFound
  infer_instance

/-- When a display is looked for on the seat, the greeter is found if there is one. -/
def LookupFinds (seat : String) (c : WithCalls Displays DisplayCall) :
    Step × DisplaySurroundings → Prop
  | (.event _, _) => True
  | (.call, around) => ∀ after rest,
      c.calls = .ensureDisplayForSeat (some seat) after :: rest → c.state.LooksForDisplay around →
        GreeterFound c.state seat

/-! ## Greeters in the store -/

/-- There is at most one greeter in the store for the seat. -/
def OneStored (self : Displays) (seat : String) : Prop :=
  ∀ d e x y, self.storedDisplay d = some x → self.storedDisplay e = some y →
    GreeterOn seat x → GreeterOn seat y → d = e

/-- A display keeps its seat and its class, and does not come into the store again. -/
def KeepsSeat (x y : DisplayObject) : Prop :=
  y.seatId = x.seatId ∧ y.sessionClass = x.sessionClass ∧ (y.stored = true → x.stored = true)

theorem keepsSeat_rule : DisplayRule KeepsSeat where
  trans h h' := ⟨h'.1.trans h.1, h'.2.1.trans h.2.1, fun hz => h.2.2 (h'.2.2 hz)⟩
  quiet h := ⟨h.seatId, h.sessionClass, fun hy => h.stored ▸ hy⟩
  status _ := ⟨rfl, rfl, id⟩

/-- A greeter of the seat that is in the store afterwards was there before. -/
theorem stored_of_evolves
    (h : Evolves KeepsSeat (fun x => ¬ GreeterOn seat x) self.displays m.displays) {d : Nat}
    {y : DisplayObject} (hy : m.storedDisplay d = some y) (hgreeter : GreeterOn seat y) :
    ∃ x, self.storedDisplay d = some x ∧ GreeterOn seat x := by
  obtain ⟨hentry, hstored⟩ := storedDisplay_eq_some.mp hy
  rcases h.origin hentry with ⟨x, hx, hseat, hclass, hbefore⟩ | ⟨_, hnot⟩
  · refine ⟨x, storedDisplay_eq_some.mpr ⟨hx, hbefore hstored⟩, ?_⟩
    exact ⟨hclass ▸ hgreeter.1, hseat ▸ hgreeter.2⟩
  · exact absurd hgreeter hnot

theorem OneStored.of_evolves (h : OneStored self seat)
    (hevolves : Evolves KeepsSeat (fun x => ¬ GreeterOn seat x) self.displays m.displays) :
    OneStored m seat := by
  intro d e x y hx hy hgx hgy
  obtain ⟨x', hx', hgx'⟩ := stored_of_evolves hevolves hx hgx
  obtain ⟨y', hy', hgy'⟩ := stored_of_evolves hevolves hy hgy
  exact h d e x' y' hx' hy' hgx' hgy'

/-- With no greeter of the seat in the store, one can be added. -/
theorem OneStored.of_none {new : DisplayObject}
    (hnone : ∀ d x, self.storedDisplay d = some x → ¬ GreeterOn seat x)
    (hdisplays : m.displays = self.displays ++ [new]) : OneStored m seat := by
  have hlast : ∀ d x, m.storedDisplay d = some x → GreeterOn seat x → d = self.displays.length := by
    intro d x hx hgreeter
    obtain ⟨hentry, hstored⟩ := storedDisplay_eq_some.mp hx
    rw [hdisplays] at hentry
    by_contra hne
    have hold : self.displays[d]? = some x := by
      rw [List.getElem?_append] at hentry
      split at hentry
      · exact hentry
      · rename_i hge
        obtain ⟨hlt, _⟩ := List.getElem?_eq_some_iff.mp hentry
        rw [List.length_singleton] at hlt
        omega
    exact hnone d x (storedDisplay_eq_some.mpr ⟨hold, hstored⟩) hgreeter
  intro d e x y hx hy hgx hgy
  exact (hlast d x hx hgx).trans (hlast e y hy hgy).symm

/-- The step creates a greeter on the seat. -/
def CreatesGreeter (seat : String) (c : WithCalls Displays DisplayCall)
    (input : Step × DisplaySurroundings) : Prop :=
  ∃ after rest, input.1 = .call ∧ c.calls = .ensureDisplayForSeat (some seat) after :: rest ∧
    c.state.NeedsDisplay input.2 (some seat)

/-- A step that creates no greeter on the seat adds other displays only. -/
theorem not_greeterOn_of_stepAdds {x : DisplayObject} (hseat : SeatRun seat c input)
    (hnot : ¬ CreatesGreeter seat c input) (hadds : StepAdds c input x) : ¬ GreeterOn seat x := by
  rintro ⟨hclass, hon⟩
  rcases input with ⟨event | _, around⟩
  · have hcreates := hseat.2
    obtain ⟨_, hadds⟩ := hadds
    cases event with
    | createDisplay autologinUser => cases hcreates
    | createRemoteDisplay autologinUser remoteHostname =>
      rw [hadds] at hon
      cases hon
    | _ => exact hadds
  · obtain ⟨call, rest, hcalls, hadds⟩ := hadds
    cases call with
    | ensureDisplayForSeat seatId after =>
      obtain ⟨hneeds, rfl⟩ := hadds
      have hon : seatId = some seat := hon
      subst hon
      exact hnot ⟨after, rest, rfl, hcalls, hneeds⟩
    | createDisplayForUserSession seatId sessionId isLocal =>
      have huser : x.sessionClass = "user" := hadds
      exact absurd (hclass.symm.trans huser) (by decide)
    | _ => exact hadds

/-- A greeter is created only when there is none of the seat in the store. -/
theorem OneStored.create (hseat : SeatRun seat c input) (hfinds : LookupFinds seat c input)
    (hcreates : CreatesGreeter seat c input) :
    OneStored (machine.step c input).state seat := by
  obtain ⟨after, rest, hcall, hcalls, hlooks, hnone⟩ := hcreates
  obtain ⟨_, around⟩ := input
  obtain rfl := hcall
  -- nothing is found, so no greeter of the seat is left that has not ended
  have hended : ∀ d x, c.state.storedDisplay d = some x → ¬ GreeterOn seat x := by
    rcases hfinds after rest hcalls hlooks with ⟨x, hx, hstored, hon, hstatus⟩ | hended
    · obtain ⟨d, hd⟩ := List.mem_iff_getElem?.mp hx
      have hnot := storeFind_eq_none hnone (storedDisplay_eq_some.mpr ⟨hd, hstored⟩)
      simp [hon, hstatus] at hnot
    · intro d x hx hgreeter
      obtain ⟨hentry, hstored⟩ := storedDisplay_eq_some.mp hx
      have hmem := List.mem_of_getElem? hentry
      have hlive := hseat.1 x hmem hstored hgreeter.2
      cases hlive.symm.trans (hended x hmem hstored hgreeter)
  have hstep : machine.step c (.call, around) =
      (c.state.ensureDisplayForSeat around (some seat) after).andThen rest := by
    obtain ⟨state, calls⟩ := c
    obtain rfl := hcalls
    rfl
  rw [hstep, WithCalls.andThen_state]
  have hsame : ∀ m : Displays, m.displays = c.state.displays → OneStored m seat := by
    intro m hm d e x y hx _ hgx _
    have hx' : c.state.storedDisplay d = some x := by
      unfold storedDisplay at hx ⊢
      rw [← hm]
      exact hx
    exact absurd hgx (hended d x hx')
  rcases c.state.ensureDisplayForSeat_cases around (some seat) after with
    ⟨d, x, _, hx, _, heq⟩ | ⟨m, hm, heq⟩ | ⟨_, m, hm, heq⟩
  · have hlogin : (c.state.setStatusProperty d .managed).state =
        (c.state.ensureDisplayForSeat around (some seat) after).state := by rw [heq]
    rw [← hlogin]
    have hold : OneStored c.state seat := hsame c.state rfl
    exact hold.of_evolves
      (keeps_setStatusProperty keepsSeat_rule fun _ _ => ⟨rfl, rfl, id⟩).evolves
  · rw [heq]
    exact hsame m hm.displays
  · rw [heq]
    exact .of_none hended (congrArg (· ++ _) hm.displays)

theorem OneStored.step (h : OneStored c.state seat) (hseat : SeatRun seat c input)
    (hfinds : LookupFinds seat c input) : OneStored (machine.step c input).state seat := by
  by_cases hcreates : CreatesGreeter seat c input
  · exact .create hseat hfinds hcreates
  · apply h.of_evolves
    apply evolves_step keepsSeat_rule
    · exact fun x y h => ⟨h.seatId, h.sessionClass, fun hy => nomatch h.stored.symm.trans hy⟩
    · exact .inr fun _ _ => ⟨rfl, rfl, id⟩
    · exact fun x hadds => not_greeterOn_of_stepAdds hseat hcreates hadds

/-- As long as no display of the seat ends, there is at most one greeter for the seat in
every run in which the greeter is found whenever a display is looked for. -/
theorem run_oneGreeter (vt : Nat) (seat : String) (inputs : List (Step × DisplaySurroundings))
    (hseat : machine.Meets (SeatRun seat) (initially vt) inputs)
    (hfinds : machine.Meets (LookupFinds seat) (initially vt) inputs) :
    OneGreeter (machine.run (initially vt) inputs).state seat := by
  have hrun : ∀ (inputs : List (Step × DisplaySurroundings)) (c : WithCalls Displays DisplayCall),
      OneStored c.state seat → machine.Meets (SeatRun seat) c inputs →
        machine.Meets (LookupFinds seat) c inputs →
          OneStored (machine.run c inputs).state seat := by
    intro inputs
    induction inputs with
    | nil => exact fun c h _ _ => h
    | cons input inputs ih =>
      intro c h hseat hfinds
      exact ih _ (h.step hseat.1 hfinds.1) hseat.2 hfinds.2
  have hstart : OneStored (initially vt).state seat := by
    intro d e x y hx
    cases hx
  intro d e x y hx hy hgx hgy _ _
  exact hrun inputs _ hstart hseat hfinds d e x y hx hy hgx hgy

/-- A greeter of seat1 is starting up when the user asks for it again. -/
def secureAttention : List (Step × DisplaySurroundings) :=
  [happens (.start ["seat1"])] ++ calls 3 ++ [happens (.activateGreeter "seat1")] ++ calls 3

theorem secureAttention_two_greeters :
    machine.Meets (SeatRun "seat1") (initially 1) secureAttention ∧
      ¬ OneGreeter (machine.run (initially 1) secureAttention).state "seat1" := by
  refine ⟨by decide +kernel, fun h => ?_⟩
  let greeter : DisplayObject :=
    { prepared {} { seatId := some "seat1" } with launchEnvironment := some .started }
  have htwo : (machine.run (initially 1) secureAttention).state.storedDisplay 0 = some greeter ∧
      (machine.run (initially 1) secureAttention).state.storedDisplay 1 = some greeter := by
    decide +kernel
  have hsame := h 0 1 greeter greeter htwo.1 htwo.2 ⟨rfl, rfl⟩ ⟨rfl, rfl⟩ rfl rfl
  cases hsame

/-- On seat0 the greeter is found while it is starting up. -/
theorem run_oneGreeter_seat0 :
    OneGreeter (machine.run (initially 1) ([happens (.start ["seat0"])] ++ calls 3 ++
      [happens (.activateGreeter "seat0")] ++ calls 3)).state "seat0" := by
  apply run_oneGreeter
  · decide +kernel
  · have hfound : machine.Meets (fun c _ => GreeterFound c.state "seat0") (initially 1)
        ([happens (.start ["seat0"])] ++ calls 3 ++ [happens (.activateGreeter "seat0")] ++
          calls 3) := by
      decide +kernel
    refine hfound.imp fun c input h => ?_
    rcases input with ⟨event | _, around⟩
    · trivial
    · exact fun _ _ _ _ => h

end Displays

end Gdm
