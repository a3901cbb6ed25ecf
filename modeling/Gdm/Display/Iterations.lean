import Gdm.Display.Evolution

/-!
# Iterations over the store

While the hash table of the store is being iterated over, a callback may change the
status of a display, and the handlers of that may change others, finish displays that
wait, and ask for a login screen.  The table itself is changed by none of these functions
but one: `ensure_display_for_seat` adds the display that it creates.
-/

namespace Gdm

open ObjectTable

/-- An iteration is under way. -/
def DisplayCall.iterates : DisplayCall → Bool
  | foreach _ _ => true
  | foreachRemove _ _ => true
  | _ => false

/-- What the call does changes the store, and not only because no display is found. -/
def DisplayCall.changesStore : DisplayCall → Bool
  | createDisplayForUserSession _ _ _ => true
  | storeRemove _ => true
  | foreachRemove _ _ => true
  | storeClear => true
  | _ => false

/-- The call is no iteration, and does not change the store for itself. -/
def DisplayCall.plain (call : DisplayCall) : Bool :=
  !call.iterates && !call.changesStore

namespace Displays

variable {self m : Displays} {around : DisplaySurroundings}
  {c : WithCalls Displays DisplayCall} {d : Nat}

/-- There is an entry for the display. -/
def inStore (self : Displays) (d : Nat) : Bool :=
  (self.storedDisplay d).isSome

/-- The entries are the same. -/
def SameStore (m m' : Displays) : Prop :=
  ∀ d, m'.inStore d = m.inStore d

/-- If an iteration is under way, the step leaves the entries as they are, or it is an
iteration that removes the entry that it has come to, and there is no other. -/
def Undisturbed (c : WithCalls Displays DisplayCall) (input : Step × DisplaySurroundings) :
    Prop :=
  (∃ call ∈ c.calls, call.iterates = true) →
    SameStore c.state (machine.step c input).state ∨
      ∃ predicate e rest others,
        c.calls = .foreachRemove predicate (e :: rest) :: others ∧
          (∀ call ∈ others, call.iterates = false) ∧
            ∀ d, d ≠ e → (machine.step c input).state.inStore d = c.state.inStore d

/-- When a login screen is asked for during an iteration, no display has to be created. -/
def FindsDisplay (c : WithCalls Displays DisplayCall) : Step × DisplaySurroundings → Prop
  | (.event _, _) => True
  | (.call, around) => ∀ seatId after rest,
      c.calls = .ensureDisplayForSeat seatId after :: rest →
        (∃ call ∈ rest, call.iterates = true) → ¬ c.state.NeedsDisplay around seatId

/-! ## Calls under way -/

/-- No call before an iteration changes the store. -/
def Sheltered (calls : List DisplayCall) : Prop :=
  calls.Pairwise fun call later => later.iterates = true → call.changesStore = false

theorem sheltered_of_no_iteration {calls : List DisplayCall}
    (h : ∀ call ∈ calls, call.iterates = false) : Sheltered calls := by
  rw [Sheltered, List.pairwise_iff_forall_sublist]
  intro call later hsub hiterates
  have hmem : later ∈ calls := hsub.subset (List.mem_cons_of_mem _ List.mem_cons_self)
  cases (h later hmem).symm.trans hiterates

/-- The calls that a call makes before others do not change the store. -/
theorem Sheltered.andThen {new rest : List DisplayCall} (hrest : Sheltered rest)
    (hnew : ∀ call ∈ new, call.changesStore = false) : Sheltered (new ++ rest) := by
  rw [Sheltered, List.pairwise_append]
  refine ⟨?_, hrest, fun call hcall _ _ _ => hnew call hcall⟩
  rw [List.pairwise_iff_forall_sublist]
  intro call later hsub _
  exact hnew call (hsub.subset List.mem_cons_self)

theorem changesStore_of_plain {call : DisplayCall} (h : call.plain = true) :
    call.changesStore = false := by
  unfold DisplayCall.plain at h
  rw [Bool.and_eq_true] at h
  simpa using h.2

theorem iterates_of_plain {call : DisplayCall} (h : call.plain = true) :
    call.iterates = false := by
  unfold DisplayCall.plain at h
  rw [Bool.and_eq_true] at h
  simpa using h.1

theorem plain_notified {call : DisplayCall}
    (h : call = .managerStatusChanged d ∨ call = .factoryStatusChanged d) :
    call.plain = true := by
  rcases h with rfl | rfl <;> rfl

theorem plain_notified_append {new : List DisplayCall} {later : DisplayCall}
    (hnew : ∀ call ∈ new, call = .managerStatusChanged d ∨ call = .factoryStatusChanged d)
    (hlater : later.plain = true) :
    ∀ call ∈ new ++ [later], call.plain = true := by
  intro call hcall
  rcases List.mem_append.mp hcall with h | h
  · exact plain_notified (hnew call h)
  · rw [List.mem_singleton.mp h]
    exact hlater

theorem plain_setUpGreeterSession :
    ∀ call ∈ (self.setUpGreeterSession around d).calls, call.plain = true := by
  unfold setUpGreeterSession
  split
  · exact fun _ h => nomatch h
  · exact plain_notified_append (fun _ h => mem_unmanage h) rfl

theorem plain_managerStatusChanged :
    ∀ call ∈ (self.managerStatusChanged around d).calls, call.plain = true := by
  unfold managerStatusChanged setUpSession
  split
  · split
    · exact plain_setUpGreeterSession
    · exact fun _ h => nomatch h
    · exact plain_setUpGreeterSession
    · exact fun _ h => nomatch h
  · exact fun _ h => nomatch h

theorem plain_factoryStatusChanged :
    ∀ call ∈ (self.factoryStatusChanged around d).calls, call.plain = true := by
  have hnone : ∀ call ∈ ([] : List DisplayCall), call.plain = true :=
    fun _ h => nomatch h
  unfold factoryStatusChanged
  split
  · exact hnone
  · split
    · exact hnone
    · split
      · dsimp only
        split
        · exact fun _ h => by rw [List.mem_singleton.mp h]; rfl
        · exact hnone
      · dsimp only
        split
        · split
          · exact hnone
          · exact fun _ h => by rw [List.mem_singleton.mp h]; rfl
        · exact hnone
      · exact fun _ h => by rw [List.mem_singleton.mp h]; rfl
      all_goals exact hnone

theorem plain_ensureDisplayForSeat (seatId : Option String) (after : Option Nat) :
    ∀ call ∈ (self.ensureDisplayForSeat around seatId after).calls,
      call.plain = true := by
  rcases self.ensureDisplayForSeat_cases around seatId after with
    ⟨e, x, _, hx, hstatus, heq⟩ | ⟨m, hm, heq⟩ | ⟨hneeds, m, hm, heq⟩
  · rw [heq]
    exact fun _ h => plain_notified (mem_notifyStatus h)
  · rw [heq]
    exact fun _ h => nomatch h
  · rw [heq]
    exact fun _ h => plain_notified (by simpa using h)

theorem plain_callback (callback : StoreCallback) :
    ∀ call ∈ (self.callback callback d).calls, call.plain = true := by
  cases callback with
  | finishDisplayOnSeatIfWaiting =>
    change ∀ call ∈ (self.finishDisplayOnSeatIfWaiting d).calls, _
    unfold finishDisplayOnSeatIfWaiting
    split
    · exact plain_notified_append (fun _ h => mem_unmanage h) rfl
    · exact fun _ h => nomatch h
  | listifyDisplayIds => exact fun _ h => nomatch h
  | unexportDisplay => exact fun _ h => nomatch h
  | finishDisplay =>
    change ∀ call ∈ (self.finishDisplay d).calls, _
    unfold finishDisplay
    dsimp only
    split
    · exact plain_notified_append (fun _ h => mem_unmanage h) rfl
    · exact fun _ h => plain_notified (mem_setStatus h)

/-- What a plain call makes is plain, but for the iteration that one begins. -/
theorem plain_exec (self : Displays) (around : DisplaySurroundings) {call : DisplayCall}
    (h : call.plain = true) :
    (∀ made ∈ (self.exec around call).calls, made.plain = true) ∨
      ∃ callback, call = .storeForeach callback := by
  cases call with
  | managerStatusChanged e => exact .inl plain_managerStatusChanged
  | factoryStatusChanged e => exact .inl plain_factoryStatusChanged
  | ensureDisplayForSeat seatId after => exact .inl (plain_ensureDisplayForSeat seatId after)
  | finish e => exact .inl fun _ h => plain_notified (mem_setStatus h)
  | queueFinish e => exact .inl fun _ h => nomatch h
  | finishUnlessFailed e =>
    left
    change ∀ made ∈ (self.finishUnlessFailed e).calls, _
    unfold finishUnlessFailed
    split
    · exact fun _ h => plain_notified (mem_setStatus h)
    · exact fun _ h => nomatch h
  | createDisplayForUserSession seatId sessionId isLocal => cases h
  | storeRemove e => cases h
  | storeForeach callback => exact .inr ⟨callback, rfl⟩
  | foreach callback rest => cases h
  | foreachRemove predicate rest => cases h
  | storeClear => cases h

/-- A call that does not change the store makes only such calls. -/
theorem quiet_exec {call : DisplayCall} (h : call.changesStore = false) :
    ∀ made ∈ (self.exec around call).calls, made.changesStore = false := by
  cases hiterates : call.iterates with
  | false =>
    have hplain : call.plain = true := by
      unfold DisplayCall.plain
      rw [hiterates, h]
      rfl
    rcases plain_exec self around hplain with hmade | ⟨callback, rfl⟩
    · exact fun made hin => changesStore_of_plain (hmade made hin)
    · exact fun _ hin => by rw [List.mem_singleton.mp hin]; rfl
  | true =>
    cases call with
    | foreach callback rest =>
      cases rest with
      | nil => exact fun _ h => nomatch h
      | cons e rest =>
        intro made hmade
        rcases List.mem_append.mp hmade with hin | hin
        · exact changesStore_of_plain (plain_callback callback made hin)
        · rw [List.mem_singleton.mp hin]
          rfl
    | foreachRemove predicate rest => cases h
    | _ => cases hiterates

/-- The calls of a call that changes the store are one iteration at most. -/
theorem exec_calls_of_changesStore (self : Displays) (around : DisplaySurroundings)
    {call : DisplayCall} (h : call.changesStore = true) :
    (self.exec around call).calls = [] ∨
      ∃ predicate rest, (self.exec around call).calls = [.foreachRemove predicate rest] := by
  cases call with
  | createDisplayForUserSession seatId sessionId isLocal => exact .inl rfl
  | storeRemove e => exact .inr ⟨_, _, rfl⟩
  | foreachRemove predicate rest =>
    cases rest with
    | nil => exact .inl rfl
    | cons e rest => exact .inr ⟨_, _, rfl⟩
  | storeClear => exact .inl rfl
  | _ => cases h

theorem Sheltered.exec {call : DisplayCall} {rest : List DisplayCall}
    (h : Sheltered (call :: rest)) :
    Sheltered ((self.exec around call).andThen rest).calls := by
  obtain ⟨hfirst, hrest⟩ := List.pairwise_cons.mp h
  have hrest : Sheltered rest := hrest
  cases hchanges : call.changesStore with
  | false => exact hrest.andThen (quiet_exec hchanges)
  | true =>
    have hnone : ∀ later ∈ rest, later.iterates = false := by
      intro later hlater
      by_contra hiterates
      cases hchanges.symm.trans (hfirst later hlater (by simpa using hiterates))
    rw [WithCalls.andThen_calls]
    rcases exec_calls_of_changesStore self around hchanges with
      hcalls | ⟨predicate, left, hcalls⟩
    · rw [hcalls]
      exact hrest
    · rw [hcalls, List.singleton_append]
      refine List.pairwise_cons.mpr ⟨fun later hlater hiterates => ?_, hrest⟩
      cases (hnone later hlater).symm.trans hiterates

theorem no_iteration_notified {calls : List DisplayCall}
    (h : ∀ call ∈ calls, call = .managerStatusChanged d ∨ call = .factoryStatusChanged d) :
    ∀ call ∈ calls, call.iterates = false :=
  fun call hcall => iterates_of_plain (plain_notified (h call hcall))

theorem no_iteration_append {calls more : List DisplayCall}
    (h : ∀ call ∈ calls, call.iterates = false) (hmore : ∀ call ∈ more, call.iterates = false) :
    ∀ call ∈ calls ++ more, call.iterates = false := by
  intro call hcall
  rcases List.mem_append.mp hcall with hin | hin
  · exact h call hin
  · exact hmore call hin

theorem no_iteration_leaveLoginWindow {previousVt loginWindowVt : Nat} :
    ∀ call ∈ (self.leaveLoginWindow around previousVt loginWindowVt).calls,
      call.iterates = false := by
  have hnone : ∀ call ∈ ([] : List DisplayCall), call.iterates = false := fun _ h => nomatch h
  unfold leaveLoginWindow maybeStopGreeterInBackground
  dsimp only
  split
  · split
    · split
      · exact no_iteration_notified fun _ h => mem_notifyStatus h
      · exact hnone
    · exact hnone
  · exact hnone

/-- The calls that are to be made begin no iteration, or are one that removes entries. -/
def BeginsOne (calls : List DisplayCall) : Prop :=
  (∀ call ∈ calls, call.iterates = false) ∨
    ∃ predicate left, calls = [.foreachRemove predicate left]

theorem BeginsOne.sheltered {calls : List DisplayCall} (h : BeginsOne calls) :
    Sheltered calls := by
  rcases h with hnone | ⟨predicate, left, rfl⟩
  · exact sheltered_of_no_iteration hnone
  · exact List.pairwise_singleton _ _

/-- An event begins an iteration only to remove entries, and does nothing else then. -/
theorem beginsOne_handleEvent (self : Displays) (around : DisplaySurroundings)
    (event : DisplayEvent) :
    BeginsOne (self.handleEvent around event).calls := by
  have hnone : BeginsOne [] := .inl fun _ h => nomatch h
  have hsingle : ∀ {call : DisplayCall}, call.iterates = false → BeginsOne [call] :=
    fun hcall => .inl fun _ h => List.mem_singleton.mp h ▸ hcall
  have hnotified : ∀ {e : Nat} {calls more : List DisplayCall},
      (∀ call ∈ calls, call = .managerStatusChanged e ∨ call = .factoryStatusChanged e) →
        (∀ call ∈ more, call.iterates = false) → BeginsOne (calls ++ more) :=
    fun h hmore => .inl (no_iteration_append (no_iteration_notified h) hmore)
  have hstatus : ∀ {m : Displays} {e : Nat} {status : GdmDisplayStatus},
      BeginsOne (m.setStatusProperty e status).calls :=
    fun {_ _ _} => .inl (no_iteration_notified fun _ h => mem_notifyStatus h)
  cases event with
  | start seats =>
    left
    intro call hcall
    obtain ⟨seat, _, rfl⟩ := List.mem_map.mp hcall
    rfl
  | activateGreeter seatId => exact hsingle rfl
  | seatRemoved seatId => exact .inr ⟨_, _, rfl⟩
  | canGraphicalChanged seatId =>
    change BeginsOne (self.onSeatPropertiesChanged around seatId).calls
    unfold onSeatPropertiesChanged
    split
    · exact hnone
    · exact hsingle rfl
    · exact .inr ⟨_, _, rfl⟩
  | graphicsCheckTimeout =>
    change BeginsOne self.onSeat0GraphicsCheckTimeout.calls
    unfold onSeat0GraphicsCheckTimeout
    split
    · exact hsingle rfl
    · exact hnone
  | uevent =>
    change BeginsOne (self.onUevent around).calls
    unfold onUevent
    dsimp only
    split
    · dsimp only
      split
      · exact hsingle rfl
      · exact hnone
    · exact hnone
  | vtChanged vt =>
    change BeginsOne (self.onVtChanged around vt).calls
    unfold onVtChanged
    dsimp only
    split
    · exact hnone
    · refine .inl (no_iteration_append no_iteration_leaveLoginWindow ?_)
      split
      · exact fun _ h => by rw [List.mem_singleton.mp h]; rfl
      · exact fun _ h => nomatch h
  | finishWaitingTimeout =>
    change BeginsOne self.onFinishWaitingTimeout.calls
    unfold onFinishWaitingTimeout
    split
    · exact hsingle rfl
    · exact hnone
  | createDisplay autologinUser =>
    change BeginsOne (self.createDisplay around _).calls
    rw [createDisplay_eq rfl]
    exact .inl (no_iteration_notified fun _ h => by simpa using h)
  | createRemoteDisplay autologinUser remoteHostname =>
    change BeginsOne (self.createDisplay around _).calls
    rw [createDisplay_eq rfl]
    exact .inl (no_iteration_notified fun _ h => by simpa using h)
  | registerDisplay sessionId =>
    change BeginsOne (self.registerDisplay around sessionId).calls
    unfold registerDisplay
    split
    · exact hstatus
    · exact hnone
  | registerSession sessionId =>
    change BeginsOne (self.registerSession around sessionId).calls
    unfold registerSession
    split <;> exact hnone
  | greeterOpened e sessionId =>
    change BeginsOne (self.onGreeterOpened e sessionId).calls
    unfold onGreeterOpened
    split <;> exact hnone
  | greeterGone e =>
    change BeginsOne (self.onGreeterGone e).calls
    unfold onGreeterGone
    split
    · exact hnotified (fun _ h => mem_unmanage h) fun _ h => by rw [List.mem_singleton.mp h]; rfl
    · exact hnone
  | finishIdle e =>
    change BeginsOne (self.onFinishIdle e).calls
    unfold onFinishIdle
    split
    · exact .inl (no_iteration_notified fun _ h => mem_setStatus h)
    · exact hnone
  | purgeDisplays =>
    change BeginsOne (self.onPurgeDisplays around).calls
    unfold onPurgeDisplays
    split
    · exact .inr ⟨_, _, rfl⟩
    · exact hnone
  | userLoaded e =>
    change BeginsOne (self.onUserLoaded around e).calls
    unfold onUserLoaded setUpGreeterSession
    dsimp only
    split
    · split
      · split
        · exact hnone
        · exact hnotified (fun _ h => mem_unmanage h)
            fun _ h => by rw [List.mem_singleton.mp h]; rfl
      · exact hnone
    · exact hnone
  | startUserSession e seatId sessionId isLocal automatic =>
    change BeginsOne (self.onStartUserSession e seatId sessionId isLocal automatic).calls
    unfold onStartUserSession
    dsimp only
    rw [WithCalls.andThen_calls]
    have hmore : ∀ call ∈ (DisplayCall.createDisplayForUserSession seatId sessionId isLocal ::
        if automatic then [DisplayCall.storeRemove e] else []), call.iterates = false := by
      intro call hcall
      rcases List.mem_cons.mp hcall with rfl | hcall
      · rfl
      · split at hcall
        · rw [List.mem_singleton.mp hcall]
          rfl
        · cases hcall
    split
    · exact hnotified (fun _ h => mem_notifyStatus h) hmore
    · exact .inl hmore
  | userSessionEnded e =>
    exact hnotified (fun _ h => mem_unmanage h) fun _ h => by rw [List.mem_singleton.mp h]; rfl
  | getDisplays => exact hsingle rfl
  | dispose =>
    left
    intro call hcall
    change call ∈ [DisplayCall.storeForeach .unexportDisplay, .storeForeach .finishDisplay,
      .storeClear] at hcall
    have hcases : call = .storeForeach .unexportDisplay ∨ call = .storeForeach .finishDisplay ∨
        call = .storeClear := by simpa using hcall
    rcases hcases with rfl | rfl | rfl <;> rfl

theorem sheltered_step (h : Sheltered c.calls) (input : Step × DisplaySurroundings) :
    Sheltered (machine.step c input).calls := by
  rcases step_cases c input with hsame | ⟨event, around, _, _, hstep⟩ |
    ⟨call, rest, around, _, hcalls, hstep⟩
  · rw [hsame]
    exact h
  · rw [hstep]
    exact (beginsOne_handleEvent _ _ event).sheltered
  · rw [hstep]
    rw [hcalls] at h
    exact h.exec

/-! ## The store -/

/-- What has an entry is told by the object. -/
def SameEntry (x y : DisplayObject) : Prop :=
  y.stored = x.stored

theorem sameEntry_rule : DisplayRule SameEntry where
  trans h h' := h'.trans h
  quiet h := h.stored
  status _ := rfl

theorem SameStore.of_keeps (h : Keeps SameEntry self m) : SameStore self m := by
  intro e
  unfold inStore storedDisplay
  cases hx : self.displays[e]? with
  | none =>
    cases hy : m.displays[e]? with
    | none => rfl
    | some y => exact (h.added e y hy hx).elim
  | some x =>
    obtain ⟨y, hy, hxy⟩ := h.kept e x hx
    have hxy : y.stored = x.stored := hxy
    rw [hy, Option.filter_some, Option.filter_some, hxy]
    split <;> rfl

theorem inStore_removeIf {predicate : StorePredicate} {e : Nat} (h : d ≠ e) :
    (self.removeIf predicate e).inStore d = self.inStore d := by
  unfold removeIf
  split
  · unfold inStore storedDisplay storedDisplayFree modifyDisplay
    dsimp only
    rw [List.getElem?_modify_ne _ _ h.symm]
  · rfl

/-- A call leaves the store as it is when an iteration is under way after it, unless it
creates a display. -/
theorem sameStore_exec {call : DisplayCall} (hchanges : call.changesStore = false)
    (hfinds : ∀ seatId after, call = .ensureDisplayForSeat seatId after →
      ¬ self.NeedsDisplay around seatId) : SameStore self (self.exec around call).state := by
  apply SameStore.of_keeps
  apply evolves_exec sameEntry_rule
  · intro hremoves
    cases call with
    | foreachRemove predicate rest => cases hchanges
    | storeClear => cases hchanges
    | _ => cases hremoves
  · intro x hadds
    cases call with
    | ensureDisplayForSeat seatId after => exact hfinds seatId after rfl hadds.1
    | createDisplayForUserSession seatId sessionId isLocal => cases hchanges
    | _ => exact hadds

theorem Sheltered.undisturbed {input : Step × DisplaySurroundings} (h : Sheltered c.calls)
    (hfinds : FindsDisplay c input) : Undisturbed c input := by
  rintro ⟨iteration, hmem, hiterates⟩
  rcases step_cases c input with hsame | ⟨event, around, _, hcalls, _⟩ |
    ⟨call, rest, around, rfl, hcalls, hstep⟩
  · rw [hsame]
    exact .inl fun _ => rfl
  · rw [hcalls] at hmem
    cases hmem
  · rw [hstep]
    rw [hcalls] at h hmem
    have hfirst := (List.pairwise_cons.mp h).1
    by_cases hrest : ∃ later ∈ rest, later.iterates = true
    · obtain ⟨later, hlater, hiterates⟩ := hrest
      refine .inl (sameStore_exec (hfirst later hlater hiterates) ?_)
      rintro seatId after rfl
      exact hfinds seatId after rest hcalls ⟨later, hlater, hiterates⟩
    · -- the iteration is the call itself
      have hnone : ∀ later ∈ rest, later.iterates = false := fun later hlater => by
        by_contra hlater'
        exact hrest ⟨later, hlater, by simpa using hlater'⟩
      rcases List.mem_cons.mp hmem with rfl | hmem
      · cases iteration with
        | foreach callback left =>
          exact .inl (sameStore_exec rfl fun _ _ h => nomatch h)
        | foreachRemove predicate left =>
          cases left with
          | nil => exact .inl fun _ => rfl
          | cons e left =>
            exact .inr ⟨predicate, e, left, rest, hcalls, hnone, fun d hd => inStore_removeIf hd⟩
        | _ => cases hiterates
      · exact absurd ⟨iteration, hmem, hiterates⟩ hrest

/-- In a run in which no display has to be created during an iteration, no step of an
iteration disturbs it. -/
theorem run_undisturbed (vt : Nat) (inputs : List (Step × DisplaySurroundings))
    (hfinds : machine.Meets FindsDisplay (initially vt) inputs) :
    machine.Meets Undisturbed (initially vt) inputs := by
  have hstart : Sheltered (initially vt).calls := List.Pairwise.nil
  exact hfinds.imp_of_invariant (fun c : WithCalls Displays DisplayCall => Sheltered c.calls)
    (fun _ input h hfind => ⟨h.undisturbed hfind, sheltered_step h input⟩) hstart

/-- A user has done the initial setup of the system, and their session registers. -/
def setupDone : List (Step × DisplaySurroundings) :=
  [happens (.start ["seat0"])] ++ calls 3 { wantsInitialSetup := true } ++
    [happens (.greeterOpened 0 (some "c1")), happens (.registerDisplay "c1")] ++ calls 5 ++
      [happens (.startUserSession 0 (some "seat0") (some "c2") true false)] ++ calls 3 ++
        [happens (.registerDisplay "c2")] ++ calls 6

/-- The display that waits fails when it is finished, and the display that makes up for
it is added while the waiting ones are iterated over. -/
theorem setupDone_disturbs :
    ¬ machine.Meets Undisturbed (initially 1) (setupDone ++ calls 1) := by
  intro h
  have hundisturbed := h.at_step.2
  have hcalls : (machine.run (initially 1) setupDone).calls =
      [.ensureDisplayForSeat (some "seat0") (some 0), .finish 0,
        .foreach .finishDisplayOnSeatIfWaiting [1]] := by
    decide +kernel
  rcases hundisturbed ⟨.foreach .finishDisplayOnSeatIfWaiting [1], by rw [hcalls]; simp, rfl⟩ with
    hsame | ⟨predicate, e, rest, others, hother, _⟩
  · have hadded : (machine.run (initially 1) setupDone).state.inStore 2 = false ∧
        (machine.step (machine.run (initially 1) setupDone) (.call, {})).state.inStore 2 =
          true := by
      decide +kernel
    cases hadded.2.symm.trans ((hsame 2).trans hadded.1)
  · cases hcalls.symm.trans hother

/-- No login screen is asked for during an iteration. -/
def asksDuringIteration (c : WithCalls Displays DisplayCall) : Bool :=
  match c.calls with
  | .ensureDisplayForSeat _ _ :: rest => rest.any DisplayCall.iterates
  | _ => false

theorem findsDisplay_of_not_asks (input : Step × DisplaySurroundings)
    (h : asksDuringIteration c = false) : FindsDisplay c input := by
  rcases input with ⟨event | _, around⟩
  · trivial
  · rintro seatId after rest hcalls ⟨later, hlater, hiterates⟩
    unfold asksDuringIteration at h
    rw [hcalls] at h
    cases h.symm.trans (List.any_eq_true.mpr ⟨later, hlater, hiterates⟩)

/-- A greeter registers, and the displays are looked through for one that waits. -/
theorem run_undisturbed_registered :
    machine.Meets Undisturbed (initially 1) ([happens (.start ["seat0"])] ++ calls 3 ++
      [happens (.greeterOpened 0 (some "c1")), happens (.registerDisplay "c1")] ++ calls 5) := by
  apply run_undisturbed
  have hnone : machine.Meets (fun c _ => asksDuringIteration c = false) (initially 1)
      ([happens (.start ["seat0"])] ++ calls 3 ++
        [happens (.greeterOpened 0 (some "c1")), happens (.registerDisplay "c1")] ++
          calls 5) := by
    decide +kernel
  exact hnone.imp fun c input h => findsDisplay_of_not_asks input h

end Displays

end Gdm
