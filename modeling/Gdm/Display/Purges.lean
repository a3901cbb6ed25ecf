import Gdm.Display.Endings

/-!
# Purges to come

The factory queues the purge when it is told of the end of a display.  It is told of every
end of a display in the store, by a call that is to be made when the status has been set,
and listens as long as it is started.  So a display that has ended stays in the store only
until the idle function runs.
-/

namespace Gdm

open ObjectTable

/-- A display that has ended and is in the store was so before the change. -/
def EndedBefore (x y : DisplayObject) : Prop :=
  y.stored = true → y.status.ended = true → x.stored = true ∧ x.status.ended = true

namespace Displays

variable {self m : Displays} {around : DisplaySurroundings}
  {c : WithCalls Displays DisplayCall} {input : Step × DisplaySurroundings} {d e : Nat}

/-- The display has ended, and is in the store. -/
def EndedInStore (self : Displays) (d : Nat) : Prop :=
  ∃ x, self.storedDisplay d = some x ∧ x.status.ended = true

/-- The factory is going to be told of each display that has ended, and a purge that has
been queued stays queued. -/
structure Announces (m : Displays) (c : WithCalls Displays DisplayCall) : Prop where
  isStarted : m.factory.isStarted = true → c.state.factory.isStarted = true
  queued : m.factory.purgeDisplays = true → c.state.factory.purgeDisplays = true
  ended : ∀ d, c.state.EndedInStore d →
    m.EndedInStore d ∨ .factoryStatusChanged d ∈ c.calls

/-- The factory is started, and each display in the store that has ended is one that the
purge takes: the purge is queued, or the factory is going to be told, or the purge is
under way and has not come to the display. -/
structure PurgeComes (c : WithCalls Displays DisplayCall) : Prop where
  isStarted : c.state.factory.isStarted = true
  ended : ∀ d, c.state.EndedInStore d → c.state.factory.purgeDisplays = true ∨
    .factoryStatusChanged d ∈ c.calls ∨
      ∃ rest, c.calls = [.foreachRemove .purgeDisplay rest] ∧ d ∈ rest

/-! ## Changes -/

theorem endedInStore_iff :
    self.EndedInStore d ↔
      ∃ x, self.displays[d]? = some x ∧ x.stored = true ∧ x.status.ended = true := by
  constructor
  · rintro ⟨x, hx, hended⟩
    obtain ⟨hentry, hstored⟩ := storedDisplay_eq_some.mp hx
    exact ⟨x, hentry, hstored, hended⟩
  · rintro ⟨x, hentry, hstored, hended⟩
    exact ⟨x, storedDisplay_eq_some.mpr ⟨hentry, hstored⟩, hended⟩

theorem Announces.refl (m : Displays) : Announces m ⟨m, []⟩ :=
  ⟨id, id, fun _ h => .inl h⟩

/-- No display ends. -/
theorem Announces.of_evolves {calls : List DisplayCall}
    (h : Evolves EndedBefore (fun x => x.status.ended = false) self.displays m.displays)
    (hstarted : self.factory.isStarted = true → m.factory.isStarted = true)
    (hqueued : m.factory.purgeDisplays = self.factory.purgeDisplays) :
    Announces self ⟨m, calls⟩ := by
  refine ⟨hstarted, fun hq => hqueued.trans hq, fun d hd => .inl ?_⟩
  obtain ⟨y, hy, hstored, hended⟩ := endedInStore_iff.mp hd
  rcases h.origin hy with ⟨x, hx, hbefore⟩ | ⟨_, hnot⟩
  · exact endedInStore_iff.mpr ⟨x, hx, hbefore hstored hended⟩
  · cases hnot.symm.trans hended

/-- The displays are as they were. -/
theorem Announces.of_displays {calls : List DisplayCall} (h : m.displays = self.displays)
    (hstarted : self.factory.isStarted = true → m.factory.isStarted = true)
    (hqueued : m.factory.purgeDisplays = self.factory.purgeDisplays) :
    Announces self ⟨m, calls⟩ := by
  apply Announces.of_evolves _ hstarted hqueued
  rw [h]
  exact Evolves.refl (fun _ hstored hended => ⟨hstored, hended⟩) _ _

/-- A display is changed that does not end. -/
theorem Announces.of_modify {f : DisplayObject → DisplayObject} {calls : List DisplayCall}
    (hf : ∀ x, EndedBefore x (f x)) : Announces self ⟨self.modifyDisplay d f, calls⟩ :=
  .of_evolves (Evolves.modify (fun _ hstored hended => ⟨hstored, hended⟩) _ fun x _ => hf x)
    id rfl

/-- A display is created that has not ended. -/
theorem Announces.of_append {x : DisplayObject} {calls : List DisplayCall}
    (hdisplays : m.displays = self.displays ++ [x]) (hx : x.status.ended = false)
    (hfactory : m.factory = self.factory) : Announces self ⟨m, calls⟩ := by
  apply Announces.of_evolves
  · rw [hdisplays]
    exact Evolves.append (fun _ hstored hended => ⟨hstored, hended⟩) hx
  · rw [hfactory]
    exact id
  · rw [hfactory]

theorem Announces.andThen (h : Announces self c) (more : List DisplayCall) :
    Announces self (c.andThen more) :=
  ⟨h.isStarted, h.queued, fun d hd => (h.ended d hd).imp_right fun hmem =>
    List.mem_append_left more hmem⟩

/-- A function goes on from a state in which no display has ended. -/
theorem Announces.after (h : Announces m c) (hm : Announces self ⟨m, []⟩) :
    Announces self c := by
  refine ⟨fun hs => h.isStarted (hm.isStarted hs), fun hq => h.queued (hm.queued hq),
    fun d hd => ?_⟩
  rcases h.ended d hd with hbefore | hmem
  · exact .inl ((hm.ended d hbefore).resolve_right List.not_mem_nil)
  · exact .inr hmem

/-! ## Functions -/

/-- The factory is told of the display whose status is set. -/
theorem announces_notifyStatus {f : DisplayObject → DisplayObject} :
    Announces self ((self.modifyDisplay d f).notifyStatus d) := by
  refine ⟨id, id, fun e he => ?_⟩
  by_cases hed : e = d
  · right
    subst hed
    obtain ⟨x, hx, _⟩ := he
    have hx : (self.modifyDisplay e f).storedDisplay e = some x := hx
    unfold notifyStatus
    rw [hx]
    exact List.mem_cons_of_mem _ List.mem_cons_self
  · left
    obtain ⟨x, hx, hended⟩ := endedInStore_iff.mp he
    refine endedInStore_iff.mpr ⟨x, ?_, hended⟩
    rw [← hx]
    exact (List.getElem?_modify_ne _ _ (Ne.symm hed)).symm

theorem announces_setStatus {status : GdmDisplayStatus} :
    Announces self (self.setStatus d status) := by
  unfold setStatus
  split
  · exact announces_notifyStatus
  · exact Announces.refl self

theorem announces_setStatusProperty {status : GdmDisplayStatus} :
    Announces self (self.setStatusProperty d status) :=
  announces_notifyStatus

theorem announces_finish : Announces self (self.finish d) :=
  announces_setStatus.after (.of_modify fun _ hstored hended => ⟨hstored, hended⟩)

theorem announces_unmanage : Announces self (self.unmanage d) := by
  unfold unmanage
  split
  · exact announces_setStatus
  · exact Announces.refl self

theorem announces_stopGreeterSession : Announces self ⟨self.stopGreeterSession d, []⟩ :=
  .of_modify fun _ hstored hended => ⟨hstored, hended⟩

theorem announces_setUpGreeterSession :
    Announces self (self.setUpGreeterSession around d) := by
  unfold setUpGreeterSession
  split
  · exact .of_modify fun _ hstored hended => ⟨hstored, hended⟩
  · exact announces_unmanage.andThen _

theorem announces_managerStatusChanged :
    Announces self (self.managerStatusChanged around d) := by
  unfold managerStatusChanged setUpSession
  split
  · split
    · exact announces_setUpGreeterSession
    · exact Announces.refl self
    · exact announces_setUpGreeterSession
    · exact .of_displays rfl id rfl
  · exact Announces.refl self

/-- What the factory does when a display has changed leaves the displays as they are, and
can only queue the purge. -/
theorem announces_factoryStatusChanged :
    Announces self (self.factoryStatusChanged around d) := by
  have hended : ∀ e, (self.factoryStatusChanged around d).state.EndedInStore e →
      self.EndedInStore e := by
    intro e he
    rw [endedInStore_iff, factoryStatusChanged_displays] at he
    exact endedInStore_iff.mpr he
  suffices h : (self.factory.isStarted = true →
        (self.factoryStatusChanged around d).state.factory.isStarted = true) ∧
      (self.factory.purgeDisplays = true →
        (self.factoryStatusChanged around d).state.factory.purgeDisplays = true) from
    ⟨h.1, h.2, fun e he => .inl (hended e he)⟩
  unfold factoryStatusChanged
  split
  · exact ⟨id, id⟩
  · split
    · exact ⟨id, id⟩
    · split
      · dsimp only
        split
        · exact ⟨id, fun _ => rfl⟩
        · exact ⟨id, fun _ => rfl⟩
      · dsimp only
        split
        · exact ⟨id, fun _ => rfl⟩
        · exact ⟨id, fun _ => rfl⟩
      all_goals exact ⟨id, id⟩

/-- The factory queues the purge for a display that has ended. -/
theorem factoryStatusChanged_queues (hstarted : self.factory.isStarted = true)
    (h : self.EndedInStore d) :
    (self.factoryStatusChanged around d).state.factory.purgeDisplays = true := by
  obtain ⟨x, hx, hended⟩ := h
  unfold factoryStatusChanged
  rw [hx]
  dsimp only
  rw [if_neg (not_not_intro hstarted)]
  split
  · split <;> rfl
  · split <;> rfl
  all_goals
    rename_i hstatus
    rw [hstatus] at hended
    cases hended

theorem announces_ensureDisplayForSeat (seatId : Option String) (after : Option Nat) :
    Announces self (self.ensureDisplayForSeat around seatId after) := by
  rcases self.ensureDisplayForSeat_cases around seatId after with
    ⟨d, x, _, _, _, heq⟩ | ⟨settled, hm, heq⟩ | ⟨_, settled, hm, heq⟩
  · rw [heq]
    exact announces_setStatusProperty
  · rw [heq]
    exact .of_displays hm.displays (fun hs => hm.isStarted.trans hs) hm.purgeDisplays
  · rw [heq]
    have hsettled : Announces self ⟨settled, []⟩ :=
      .of_displays hm.displays (fun hs => hm.isStarted.trans hs) hm.purgeDisplays
    exact Announces.after (.of_append rfl rfl rfl) hsettled

theorem announces_finishUnlessFailed : Announces self (self.finishUnlessFailed d) := by
  unfold finishUnlessFailed
  split
  · exact announces_finish
  · exact Announces.refl self

theorem announces_callback (callback : StoreCallback) :
    Announces self (self.callback callback d) := by
  cases callback with
  | finishDisplayOnSeatIfWaiting =>
    change Announces self (self.finishDisplayOnSeatIfWaiting d)
    unfold finishDisplayOnSeatIfWaiting
    split
    · exact (announces_unmanage.after announces_stopGreeterSession).andThen _
    · exact Announces.refl self
  | listifyDisplayIds => exact Announces.refl self
  | unexportDisplay => exact Announces.refl self
  | finishDisplay =>
    change Announces self (self.finishDisplay d)
    unfold finishDisplay
    dsimp only
    split
    · exact (announces_unmanage.after announces_stopGreeterSession).andThen _
    · exact announces_finish.after announces_stopGreeterSession

theorem announces_removeIf (predicate : StorePredicate) (calls : List DisplayCall) :
    Announces self ⟨self.removeIf predicate d, calls⟩ := by
  unfold removeIf
  split
  · apply Announces.of_modify
    intro x
    split
    · exact fun hstored => nomatch hstored
    · exact fun hstored => nomatch hstored
  · exact .of_displays rfl id rfl

theorem announces_exec (call : DisplayCall) : Announces self (self.exec around call) := by
  cases call with
  | managerStatusChanged d => exact announces_managerStatusChanged
  | factoryStatusChanged d => exact announces_factoryStatusChanged
  | ensureDisplayForSeat seatId after => exact announces_ensureDisplayForSeat seatId after
  | finish d => exact announces_finish
  | queueFinish d => exact .of_modify fun _ hstored hended => ⟨hstored, hended⟩
  | finishUnlessFailed d => exact announces_finishUnlessFailed
  | createDisplayForUserSession seatId sessionId isLocal => exact .of_append rfl rfl rfl
  | storeRemove d => exact .of_displays rfl id rfl
  | storeForeach callback => exact .of_displays rfl id rfl
  | foreach callback rest =>
    cases rest with
    | nil => exact Announces.refl self
    | cons d rest => exact (announces_callback callback).andThen _
  | foreachRemove predicate rest =>
    cases rest with
    | nil => exact Announces.refl self
    | cons d rest => exact announces_removeIf predicate _
  | storeClear =>
    exact .of_evolves (Evolves.map _ fun _ hstored => nomatch hstored) id rfl

/-! ## Events -/

theorem announces_leaveLoginWindow {previousVt loginWindowVt : Nat} :
    Announces self (self.leaveLoginWindow around previousVt loginWindowVt) := by
  unfold leaveLoginWindow maybeStopGreeterInBackground
  dsimp only
  split
  · split
    · split
      · exact announces_setStatusProperty
      · exact Announces.refl self
    · exact Announces.refl self
  · exact Announces.refl self

theorem announces_reapLoginScreen (around : DisplaySurroundings) (loginWindowVt : Nat) :
    Announces self ⟨self.reapLoginScreen around loginWindowVt, []⟩ := by
  apply Announces.of_displays (reapLoginScreen_displays loginWindowVt)
  · unfold reapLoginScreen
    dsimp only
    split
    · split <;> exact id
    · exact id
  · unfold reapLoginScreen
    dsimp only
    split
    · split <;> rfl
    · rfl

theorem announces_onVtChanged (vt : Nat) : Announces self (self.onVtChanged around vt) := by
  have hchanged : Announces self
      ⟨{ self with factory := { self.factory with activeVt := vt } }, []⟩ :=
    .of_displays rfl id rfl
  unfold onVtChanged
  dsimp only
  split
  · exact hchanged
  · have hreaped := (announces_reapLoginScreen around
      (if around.loginWindow = none then 0 else around.loginWindowVt)).after hchanged
    exact (announces_leaveLoginWindow.after hreaped).andThen _

theorem announces_createDisplay {x : DisplayObject} (hx : x.status = .unmanaged) :
    Announces self (self.createDisplay around x) := by
  rw [createDisplay_eq hx]
  exact .of_append rfl rfl rfl

/-- The factory is told of the displays that an event ends, unless it has been stopped. -/
theorem announces_handleEvent {event : DisplayEvent} (hdispose : event ≠ .dispose)
    (hpurge : event ≠ .purgeDisplays) : Announces self (self.handleEvent around event) := by
  have hsame : Announces self ⟨self, []⟩ := Announces.refl self
  have hcalls : ∀ calls : List DisplayCall, Announces self ⟨self, calls⟩ :=
    fun calls => .of_displays rfl id rfl
  cases event with
  | start seats => exact .of_displays rfl (fun _ => rfl) rfl
  | activateGreeter seatId => exact hcalls _
  | seatRemoved seatId => exact hcalls _
  | canGraphicalChanged seatId =>
    change Announces self (self.onSeatPropertiesChanged around seatId)
    unfold onSeatPropertiesChanged
    split
    · exact hsame
    · exact hcalls _
    · exact hcalls _
  | graphicsCheckTimeout =>
    change Announces self self.onSeat0GraphicsCheckTimeout
    unfold onSeat0GraphicsCheckTimeout
    split
    · exact .of_displays rfl id rfl
    · exact hsame
  | uevent =>
    change Announces self (self.onUevent around)
    have hsettles : Settles self (self.udevIsSettled around).2 := settles_udevIsSettled
    unfold onUevent
    split
    · exact .of_displays hsettles.displays (fun hs => hsettles.isStarted.trans hs)
        hsettles.purgeDisplays
    · exact hsame
  | vtChanged vt => exact announces_onVtChanged vt
  | finishWaitingTimeout =>
    change Announces self self.onFinishWaitingTimeout
    unfold onFinishWaitingTimeout
    split
    · exact .of_displays rfl id rfl
    · exact hsame
  | createDisplay autologinUser => exact announces_createDisplay rfl
  | createRemoteDisplay autologinUser remoteHostname => exact announces_createDisplay rfl
  | registerDisplay sessionId =>
    change Announces self (self.registerDisplay around sessionId)
    unfold registerDisplay
    split
    · exact announces_setStatusProperty
    · exact hsame
  | registerSession sessionId =>
    change Announces self (self.registerSession around sessionId)
    unfold registerSession
    split
    · exact .of_modify fun _ hstored hended => ⟨hstored, hended⟩
    · exact hsame
  | greeterOpened d sessionId =>
    change Announces self (self.onGreeterOpened d sessionId)
    unfold onGreeterOpened
    split
    · exact .of_modify fun _ hstored hended => ⟨hstored, hended⟩
    · exact hsame
  | greeterGone d =>
    change Announces self (self.onGreeterGone d)
    unfold onGreeterGone
    split
    · exact announces_unmanage.andThen _
    · exact hsame
  | finishIdle d =>
    change Announces self (self.onFinishIdle d)
    unfold onFinishIdle
    split
    · exact announces_finish
    · exact hsame
  | purgeDisplays => exact absurd rfl hpurge
  | userLoaded d =>
    change Announces self (self.onUserLoaded around d)
    have hloaded : Announces self ⟨{ self with lookups := self.lookups.erase d }, []⟩ :=
      .of_displays rfl id rfl
    unfold onUserLoaded
    split
    · dsimp only
      split
      · exact announces_setUpGreeterSession.after hloaded
      · exact hloaded
    · exact hsame
  | startUserSession d seatId sessionId isLocal automatic =>
    change Announces self (self.onStartUserSession d seatId sessionId isLocal automatic)
    unfold onStartUserSession
    dsimp only
    apply Announces.andThen
    split
    · exact announces_setStatusProperty
    · exact hsame
  | userSessionEnded d => exact announces_unmanage.andThen _
  | getDisplays => exact hcalls _
  | dispose => exact absurd rfl hdispose

/-! ## Runs -/

/-- The idle function takes every display in the store that has ended. -/
theorem purgeComes_onPurgeDisplays (hstarted : self.factory.isStarted = true)
    (h : ∀ d, self.EndedInStore d → self.factory.purgeDisplays = true) :
    PurgeComes (self.onPurgeDisplays around) := by
  unfold onPurgeDisplays
  split
  · refine ⟨hstarted, fun d hd => .inr (.inr ⟨_, rfl, ?_⟩)⟩
    obtain ⟨x, hx, _⟩ := hd
    exact mem_entries.mpr ⟨x, hx⟩
  · exact ⟨hstarted, fun d hd => .inl (h d hd)⟩

/-- What ended before a call is taken by the purge after it. -/
theorem PurgeComes.exec {call : DisplayCall} {rest : List DisplayCall}
    (h : PurgeComes ⟨self, call :: rest⟩) :
    PurgeComes ((self.exec around call).andThen rest) := by
  have hannounces : Announces self (self.exec around call) := announces_exec call
  refine ⟨hannounces.isStarted h.isStarted, fun d hd => ?_⟩
  rcases hannounces.ended d hd with hbefore | hmem
  · rcases h.ended d hbefore with hqueued | hmem | ⟨left, hcalls, hmem⟩
    · exact .inl (hannounces.queued hqueued)
    · rcases List.mem_cons.mp hmem with rfl | hmem
      · exact .inl (factoryStatusChanged_queues h.isStarted hbefore)
      · exact .inr (.inl (List.mem_append_right _ hmem))
    · obtain ⟨rfl, rfl⟩ := List.cons.inj hcalls
      cases left with
      | nil => cases hmem
      | cons e left =>
        refine .inr (.inr ⟨left, rfl, (List.mem_cons.mp hmem).resolve_left ?_⟩)
        -- the purge has come to the display, which is not in the store any more
        rintro rfl
        obtain ⟨x, hx, hended⟩ := endedInStore_iff.mp hbefore
        have hnone : (self.removeIf .purgeDisplay d).storedDisplay d = none :=
          storedDisplay_removeIf ⟨x, hx, hended.2⟩
        obtain ⟨y, hy, _⟩ := hd
        cases hnone.symm.trans hy
  · exact .inr (.inl (List.mem_append_left _ hmem))

theorem PurgeComes.step (h : PurgeComes c) (hdispose : input.1 ≠ .event .dispose) :
    PurgeComes (machine.step c input) := by
  rcases step_cases c input with hsame | ⟨event, around, rfl, hcalls, hstep⟩ |
    ⟨call, rest, around, rfl, hcalls, hstep⟩
  · rw [hsame]
    exact h
  · rw [hstep]
    have hqueued : ∀ d, c.state.EndedInStore d → c.state.factory.purgeDisplays = true := by
      intro d hd
      rcases h.ended d hd with hqueued | hmem | ⟨rest, hrest, _⟩
      · exact hqueued
      · rw [hcalls] at hmem
        cases hmem
      · cases hcalls.symm.trans hrest
    by_cases hpurge : event = .purgeDisplays
    · subst hpurge
      exact purgeComes_onPurgeDisplays h.isStarted hqueued
    · have hannounces : Announces c.state (c.state.handleEvent around event) :=
        announces_handleEvent (fun heq => hdispose (by rw [heq])) hpurge
      refine ⟨hannounces.isStarted h.isStarted, fun d hd => ?_⟩
      rcases hannounces.ended d hd with hbefore | hmem
      · exact .inl (hannounces.queued (hqueued d hbefore))
      · exact .inr (.inl hmem)
  · rw [hstep]
    obtain ⟨state, calls⟩ := c
    obtain rfl := hcalls
    exact h.exec

/-- While the manager is there, from the start of the factory on, the purge is queued
whenever all calls have been made and a display that has ended is in the store. -/
theorem run_purgeQueued (vt : Nat) (seats : List String) (around : DisplaySurroundings)
    (inputs : List (Step × DisplaySurroundings))
    (hdispose : ∀ input ∈ inputs, input.1 ≠ .event .dispose)
    (hcalls : (machine.run (initially vt) ((.event (.start seats), around) :: inputs)).calls = [])
    (hended : (machine.run (initially vt)
      ((.event (.start seats), around) :: inputs)).state.EndedInStore d) :
    (machine.run (initially vt)
      ((.event (.start seats), around) :: inputs)).state.factory.purgeDisplays = true := by
  have hstart : PurgeComes (machine.step (initially vt) (.event (.start seats), around)) := by
    refine ⟨rfl, fun e he => ?_⟩
    obtain ⟨x, hx, _⟩ := he
    cases hx
  have hmeets : machine.Meets (fun _ input => input.1 ≠ .event .dispose)
      (machine.step (initially vt) (.event (.start seats), around)) inputs :=
    EventMachine.meets_of_forall fun _ => hdispose
  have hcomes := hmeets.invariant PurgeComes (fun _ _ h hnot => h.step hnot) hstart
  rw [EventMachine.run_cons] at hcalls hended ⊢
  rcases hcomes.ended d hended with hqueued | hmem | ⟨rest, hrest, _⟩
  · exact hqueued
  · rw [hcalls] at hmem
    cases hmem
  · cases hcalls.symm.trans hrest

/-- The greeter has died, and its display has failed. -/
example : (machine.run (initially 1) greeterDies).state.factory.purgeDisplays = true := by
  apply run_purgeQueued (d := 0) 1 ["seat0"] {} greeterDies.tail
  · decide
  · decide +kernel
  · exact ⟨_, rfl, rfl⟩

/-- So the idle function that runs next removes it. -/
theorem run_purged (vt : Nat) (seats : List String) (around after : DisplaySurroundings)
    (inputs : List (Step × DisplaySurroundings)) (answers : List DisplaySurroundings)
    (hdispose : ∀ input ∈ inputs, input.1 ≠ .event .dispose)
    (hcalls : (machine.run (initially vt) ((.event (.start seats), around) :: inputs)).calls = [])
    (hended : (machine.run (initially vt)
      ((.event (.start seats), around) :: inputs)).state.EndedInStore d)
    (hlength : (machine.run (initially vt)
      ((.event (.start seats), around) :: inputs)).state.displays.length ≤ answers.length) :
    (machine.run (initially vt) ((.event (.start seats), around) :: inputs ++
      (.event .purgeDisplays, after) ::
        answers.map fun around => (.call, around))).state.storedDisplay d = none := by
  have hqueued := run_purgeQueued vt seats around inputs hdispose hcalls hended
  obtain ⟨x, hx, _, hend⟩ := endedInStore_iff.mp hended
  have hpurged : PurgedNext (machine.run (initially vt)
      ((.event (.start seats), around) :: inputs)) d := Ended.purgedNext ⟨x, hx, hend⟩
  rw [EventMachine.run_append]
  exact hpurged after answers hcalls hqueued hlength

end Displays

end Gdm
