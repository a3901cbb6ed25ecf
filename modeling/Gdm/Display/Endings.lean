import Gdm.Display.Evolution

/-!
# Displays that have ended

A display that has finished or failed is in the store until it is purged, which is left
to the idle function.  Until then a client of its session can still register the display,
and the end of its greeter or of its user is still reported.  The functions that set the
status for these do not look at the status that there is.
-/

namespace Gdm

open ObjectTable

namespace Displays

variable {self : Displays} {around : DisplaySurroundings}
  {c : WithCalls Displays DisplayCall} {input : Step × DisplaySurroundings} {d : Nat}

/-- The status of the display is one of the last. -/
def Ended (self : Displays) (d : Nat) : Prop :=
  ∃ x, self.displays[d]? = some x ∧ x.status.ended = true

/-- The event that is handled gives no display that has ended another status. -/
def StaysEnded (c : WithCalls Displays DisplayCall) : Step × DisplaySurroundings → Prop
  | (.event event, around) => c.calls = [] → c.state.KeepsEnded around event
  | (.call, _) => True

instance (self : Displays) (d : Nat) : Decidable (Ended self d) :=
  decidable_of_iff ((self.displays[d]?).any (fun x => x.status.ended) = true) (by
    rw [Option.any_eq_true]
    rfl)

/-! ## The status -/

/-- What has ended has ended afterwards. -/
def EndsStay (x y : DisplayObject) : Prop :=
  x.status.ended = true → y.status.ended = true

theorem endsStay_rule : DisplayRule EndsStay where
  trans h h' := fun hx => h' (h hx)
  quiet h := fun hx => h.status ▸ hx
  status h := h

theorem Ended.step (h : Ended c.state d) (hstays : StaysEnded c input) :
    Ended (machine.step c input).state d := by
  obtain ⟨x, hx, hended⟩ := h
  have hevolves : Evolves EndsStay (fun _ => True) c.state.displays
      (machine.step c input).state.displays := by
    apply evolves_step endsStay_rule
    · exact fun x y h hx => h.status ▸ hx
    · left
      rintro event around rfl hcalls
      exact hstays hcalls
    · exact fun _ _ => trivial
  obtain ⟨y, hy, hxy⟩ := hevolves.kept d x hx
  exact ⟨y, hy, hxy hended⟩

/-! ## The purge -/

/-- What is not in the store does not come back. -/
def LeavesStore (x y : DisplayObject) : Prop :=
  y.stored = true → x.stored = true

theorem leavesStore_rule : DisplayRule LeavesStore where
  trans h h' := fun hz => h (h' hz)
  quiet h := fun hy => h.stored ▸ hy
  status _ := fun hy => hy

theorem evolves_leavesStore (c : WithCalls Displays DisplayCall)
    (input : Step × DisplaySurroundings) :
    Evolves LeavesStore (fun _ => True) c.state.displays (machine.step c input).state.displays := by
  apply evolves_step leavesStore_rule
  · exact fun x y h hy => nomatch h.stored.symm.trans hy
  · exact .inr fun _ _ hy => hy
  · exact fun _ _ => trivial

theorem storedDisplay_step_none (hx : c.state.displays[d]? ≠ none)
    (h : c.state.storedDisplay d = none) : (machine.step c input).state.storedDisplay d = none := by
  obtain ⟨x, hx⟩ := Option.ne_none_iff_exists'.mp hx
  obtain ⟨y, hy, hxy⟩ := (evolves_leavesStore c input).kept d x hx
  unfold storedDisplay at h ⊢
  rw [hx, Option.filter_eq_none_iff] at h
  rw [hy, Option.filter_eq_none_iff]
  intro z hz hstored
  obtain rfl := Option.some.inj hz
  exact h x rfl (hxy hstored)

/-- What is not in the store is not there at the end of a run. -/
theorem storedDisplay_run_none (inputs : List (Step × DisplaySurroundings))
    (hx : c.state.displays[d]? ≠ none) (h : c.state.storedDisplay d = none) :
    (machine.run c inputs).state.storedDisplay d = none := by
  induction inputs generalizing c with
  | nil => exact h
  | cons input inputs ih =>
    apply ih
    · intro hnone
      obtain ⟨x, hx⟩ := Option.ne_none_iff_exists'.mp hx
      obtain ⟨y, hy, _⟩ := (evolves_leavesStore c input).kept d x hx
      cases hy.symm.trans hnone
    · exact storedDisplay_step_none hx h

/-- The entry of a display that has ended is removed when the purge comes to it. -/
theorem storedDisplay_removeIf (h : Ended self d) :
    (self.removeIf .purgeDisplay d).storedDisplay d = none := by
  unfold removeIf
  obtain ⟨x, hx, hended⟩ := h
  split
  · unfold storedDisplayFree modifyDisplay storedDisplay
    dsimp only
    rw [List.getElem?_modify_eq, hx, Option.filter_eq_none_iff]
    intro y hy
    obtain rfl := Option.some.inj hy
    split <;> exact Bool.false_ne_true
  · rename_i hnot
    unfold storedDisplay at hnot ⊢
    rw [hx] at hnot ⊢
    rw [Option.filter_eq_none_iff]
    rintro y hy hstored
    obtain rfl := Option.some.inj hy
    apply hnot
    simp [Option.filter, hstored, StorePredicate.holds, hended]

/-- A purge that is under way removes the display when it comes to the entry. -/
theorem storedDisplay_purge {rest : List Nat} (answers : List DisplaySurroundings)
    (hcalls : c.calls = [.foreachRemove .purgeDisplay rest]) (hended : Ended c.state d)
    (hrest : c.state.storedDisplay d ≠ none → d ∈ rest) (hlength : rest.length ≤ answers.length) :
    (machine.run c (answers.map fun around => (.call, around))).state.storedDisplay d = none := by
  induction rest generalizing c answers with
  | nil =>
    apply storedDisplay_run_none
    · obtain ⟨x, hx, _⟩ := hended
      rw [hx]
      exact Option.some_ne_none x
    · by_contra hstored
      exact List.not_mem_nil (hrest hstored)
  | cons e rest ih =>
    cases answers with
    | nil => cases hlength
    | cons around answers =>
      have hstep : machine.step c (.call, around) =
          ⟨c.state.removeIf .purgeDisplay e, [.foreachRemove .purgeDisplay rest]⟩ := by
        obtain ⟨state, calls⟩ := c
        obtain rfl := hcalls
        rfl
      have hended' : Ended (machine.step c (.call, around)).state d := hended.step trivial
      rw [List.map_cons, EventMachine.run_cons]
      refine ih answers (by rw [hstep]) hended' (fun hstored => ?_)
        (Nat.le_of_succ_le_succ hlength)
      have hbefore : c.state.storedDisplay d ≠ none := by
        intro hnone
        apply hstored
        apply storedDisplay_step_none _ hnone
        obtain ⟨x, hx, _⟩ := hended
        rw [hx]
        exact Option.some_ne_none x
      rcases List.mem_cons.mp (hrest hbefore) with rfl | hmem
      · rw [hstep] at hstored
        exact absurd (storedDisplay_removeIf hended) hstored
      · exact hmem

/-- When all calls have been made and the purge is queued, the display is not in the
store any more after the purge. -/
def PurgedNext (c : WithCalls Displays DisplayCall) (d : Nat) : Prop :=
  ∀ (around : DisplaySurroundings) (answers : List DisplaySurroundings),
    c.calls = [] → c.state.factory.purgeDisplays = true →
      c.state.displays.length ≤ answers.length →
        (machine.run c ((.event .purgeDisplays, around) ::
          answers.map fun around => (.call, around))).state.storedDisplay d = none

theorem length_entries (self : Displays) (around : DisplaySurroundings) :
    (self.entries around).length ≤ self.displays.length := by
  unfold entries
  rw [List.length_insertionSort]
  calc
    _ ≤ (List.range self.displays.length).length := List.length_filter_le _ _
    _ = self.displays.length := List.length_range

theorem Ended.purgedNext (h : Ended c.state d) : PurgedNext c d := by
  intro around answers hcalls hqueued hlength
  have hstep : machine.step c (.event .purgeDisplays, around) =
      ⟨{ c.state with factory := { c.state.factory with purgeDisplays := false } },
        [.foreachRemove .purgeDisplay (c.state.entries around)]⟩ := by
    obtain ⟨state, calls⟩ := c
    obtain rfl := hcalls
    change state.onPurgeDisplays around = _
    unfold onPurgeDisplays
    rw [if_pos hqueued]
    rfl
  rw [EventMachine.run_cons, hstep]
  apply storedDisplay_purge answers rfl
  · exact h
  · intro hstored
    obtain ⟨x, hx⟩ := Option.ne_none_iff_exists'.mp hstored
    exact mem_entries.mpr ⟨x, hx⟩
  · exact (length_entries _ _).trans hlength

/-- In a run that gives no display that has ended another status, a display that has
ended has ended for good, and the next purge removes it from the store. -/
theorem run_ended (vt : Nat) (before after : List (Step × DisplaySurroundings))
    (hstays : machine.Meets StaysEnded (initially vt) (before ++ after))
    (hended : Ended (machine.run (initially vt) before).state d) :
    Ended (machine.run (initially vt) (before ++ after)).state d ∧
      PurgedNext (machine.run (initially vt) (before ++ after)) d := by
  rw [EventMachine.meets_append] at hstays
  have hafter : Ended (machine.run (initially vt) (before ++ after)).state d := by
    rw [EventMachine.run_append]
    exact hstays.2.invariant (fun c => Ended c.state d)
      (fun c input h hstep => Ended.step h hstep) hended
  exact ⟨hafter, hafter.purgedNext⟩

/-- The greeter of seat0 is started, and dies. -/
def greeterDies : List (Step × DisplaySurroundings) :=
  [happens (.start ["seat0"])] ++ calls 3 ++
    [happens (.greeterOpened 0 (some "c1")), happens (.greeterGone 0)] ++ calls 6

/-- A client that is left of the session registers the display, which has failed. -/
theorem registered_not_ended :
    Ended (machine.run (initially 1) greeterDies).state 0 ∧
      ¬ Ended (machine.run (initially 1)
        (greeterDies ++ [happens (.registerDisplay "c1")])).state 0 := by
  constructor <;> decide +kernel

/-- The display that has failed is finished. -/
theorem run_ended_finished :
    Ended (machine.run (initially 1) (greeterDies ++ [happens (.finishIdle 0)])).state 0 ∧
      PurgedNext (machine.run (initially 1)
        (greeterDies ++ [happens (.finishIdle 0)])) 0 := by
  apply run_ended
  · rw [EventMachine.meets_append]
    refine ⟨⟨fun _ => trivial, trivial, trivial, trivial, fun _ => trivial, ?_, trivial, trivial,
      trivial, trivial, trivial, trivial, trivial⟩, fun _ => trivial, trivial⟩
    -- the greeter dies before its display has ended
    intro _ x hx _ hended
    have hnot : ¬ Ended (machine.run (initially 1) (greeterDies.take 5)).state 0 := by
      decide +kernel
    exact absurd ⟨x, hx, hended⟩ hnot
  · decide +kernel

end Displays

end Gdm
