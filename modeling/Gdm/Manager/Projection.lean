import Gdm.Manager.Touches
import Gdm.Session.StepCases

/-!
# Each session of the manager is a run of the session machine

Whatever the manager does to a session are steps of the session machine, so what holds
in every run of a session holds of each session of the manager.
-/

namespace Gdm

/-- A state that the session machine reaches, for an owner that the manager is. -/
def GdmSession.Reached (session : GdmSession) : Prop :=
  ∃ start events, GdmSession.machine.Start start ∧
    (start.owner = .userSession ∨ start.owner = .transient) ∧
    session = GdmSession.machine.run start events

theorem GdmSession.Reached.step {session : GdmSession} (h : session.Reached)
    (event : SessionEvent × Surroundings) : (session.step event).Reached := by
  obtain ⟨start, events, hstart, howner, rfl⟩ := h
  exact ⟨start, events ++ [event], hstart, howner, (GdmSession.machine.run_concat _ _ _).symm⟩

theorem GdmSession.reached_new {owner : Owner} (howner : owner = .userSession ∨ owner = .transient)
    (hostname device seatId : Option String) (isLocal : Bool) :
    (GdmSession.new owner hostname device seatId isLocal).Reached :=
  ⟨_, [], ⟨owner, hostname, device, seatId, isLocal, rfl⟩, howner, rfl⟩

theorem GdmSession.Reached.wellFormed {session : GdmSession} (h : session.Reached) :
    GdmSession.WellFormed session := by
  obtain ⟨start, events, hstart, _, rfl⟩ := h
  exact GdmSession.run_wellFormed hstart events

theorem ManagedSession.Retained.reached {s s' : ManagedSession} (h : s.Retained s')
    (hs : s.session.Reached) : s'.session.Reached := by
  rcases h with ⟨hsession, _⟩ | ⟨_, _, _, _, hsession⟩
  · rw [hsession]
    exact hs
  · rw [hsession]
    exact hs.step _

theorem ManagedSession.Fresh.reached {s : ManagedSession} (h : s.Fresh) : s.session.Reached := by
  obtain ⟨start, calls, hstart, howner, _, hrun⟩ := h.session
  exact ⟨start, _, hstart, .inl howner, hrun⟩

namespace GdmManager

variable {self self' : GdmManager} {around : ManagerSurroundings} {k : Nat}
  {P : ManagerEffect → Prop}

/-- Each session is in a state that the session machine reaches. -/
def Projects (m : GdmManager) : Prop :=
  ∀ (k : Nat) (s : ManagedSession), m.sessions[k]? = some s → s.session.Reached

theorem Projects.retains (hs : Projects self) (h : Retains self self') : Projects self' := by
  intro k s' hs'
  cases hk : self.sessions[k]? with
  | some s =>
    obtain ⟨t, ht, hretained, _⟩ := h.sessions k s hk
    rw [hs'] at ht
    cases ht
    exact hretained.reached (hs k s hk)
  | none =>
    obtain ⟨s, hfresh, hretained, _⟩ := h.fresh k s' hs' hk
    exact hretained.reached hfresh.reached

theorem Projects.touches (hs : Projects self) (h : Touches P self self') : Projects self' :=
  hs.retains h.retains

theorem Projects.arranges (hs : Projects self) (h : Arranges self self') : Projects self' :=
  hs.retains h.retains

theorem Projects.of_eq (hs : Projects self) (hsessions : self'.sessions = self.sessions) :
    Projects self' :=
  hs.retains (.of_eq hsessions)

/-- What is done to one session are steps of it. -/
theorem Projects.modifySession (hs : Projects self) {f : ManagedSession → ManagedSession}
    (hf : ∀ s, self.sessions[k]? = some s → s.session.Reached → (f s).session.Reached) :
    Projects (self.modifySession k f) := by
  intro j t ht
  rw [getElem?_modifySession] at ht
  split at ht
  · rename_i hkj
    subst hkj
    obtain ⟨s, hsk, rfl⟩ := Option.map_eq_some_iff.mp ht
    exact hf s hsk (hs k s hsk)
  · exact hs j t ht

theorem Projects.callSession (hs : Projects self) (call : OwnerCall) :
    Projects (self.callSession k around call) :=
  hs.modifySession fun _ _ hreached => hreached.step _

theorem Projects.append (hs : Projects self) {s : ManagedSession} (hnew : s.session.Reached) :
    Projects { self with sessions := self.sessions ++ [s] } := by
  intro j t ht
  rcases getElem?_concat ht with hold | ⟨_, rfl⟩
  · exact hs j t hold
  · exact hnew

/-! ## The signals of a session -/

theorem retains_onUserSessionOpened (serviceName : String) :
    Retains self (self.onUserSessionOpened k serviceName) := by
  unfold onUserSessionOpened
  have hlisted : Retains self
      (({ self with userSessions := self.userSessions ++ [k] }.emit (.listed k)).refSession k) := by
    refine Retains.trans ?_ arranges_refSession.retains
    exact .of_eq rfl
  have hwilling : Retains self ((({ self with userSessions := self.userSessions ++ [k] }.emit
      (.listed k)).refSession k).modifySession k fun s => { s with startWhenReady := true }) :=
    hlisted.trans (.modifySession fun s _ => ⟨.refl s, rfl⟩)
  dsimp only
  split
  · exact hwilling.trans (touches_startUserSessionIfReady (P := fun _ => True) serviceName).retains
  · exact hlisted.trans (touches_startUserSessionIfReady (P := fun _ => True) serviceName).retains

theorem retains_removeUserSession : Retains self (self.removeUserSession k) := by
  unfold removeUserSession
  have hended : Retains self (self.onDisplay (self.getDisplayForUserSession k) endDisplay) :=
    (arranges_onDisplay (fun _ => arranges_endDisplay) _).retains
  dsimp only
  split
  · refine Retains.trans ?_ arranges_unrefSession.retains
    exact hended.trans (.of_eq rfl)
  · exact hended

theorem retains_onSessionReauthenticationStarted (pidOfCaller : Int) (address : String) :
    Retains self (self.onSessionReauthenticationStarted pidOfCaller address) := by
  unfold onSessionReauthenticationStarted
  split
  · exact .refl self
  · exact .of_eq rfl

/-- What the manager does on a signal of a session is nothing to the sessions. -/
theorem retains_handleEffect (owner : Owner) (isOwnClient : Bool) (effect : SessionEffect) :
    Retains self (handleEffect around k owner isOwnClient self effect) := by
  unfold handleEffect
  split
  · rename_i signal
    cases owner with
    | userSession =>
      cases signal with
      | reauthenticationStarted pidOfCaller address =>
        exact retains_onSessionReauthenticationStarted _ _
      | reauthenticated _ pidOfCaller _ => exact (touches_onSessionReauthenticated _).retains
      | stopConflictingSession _ => exact touches_onStopConflictingSession.retains
      | clientReadyForSessionToStart serviceName clientIsReady =>
        exact (touches_onSessionClientReadyForSessionToStart (P := fun _ => True) _ _).retains
      | cancelled => exact (touches_queueSessionReset (P := fun _ => True)).retains
      | sessionOpened serviceName _ => exact retains_onUserSessionOpened _
      | sessionStartFailed _ _ => exact retains_removeUserSession
      | sessionExited _ _ => exact retains_removeUserSession
      | sessionDied _ _ => exact retains_removeUserSession
      | _ => exact .refl self
    | transient => exact (touches_handleTransient _ _).retains
    | launchEnvironment => exact .refl self
    | reauthenticationRequest => exact .refl self
  · exact .refl self

theorem retains_foldEffects (around : ManagerSurroundings) (owner : Owner) (isOwnClient : Bool)
    (effects : List SessionEffect) :
    Retains self (effects.foldl (handleEffect around k owner isOwnClient) self) := by
  induction effects generalizing self with
  | nil => exact .refl self
  | cons effect rest ih => exact (retains_handleEffect owner isOwnClient effect).trans ih

/-! ## Runs -/

theorem Projects.receive (hs : Projects self) (event : SessionEvent) :
    Projects (self.receive around k event) := by
  unfold GdmManager.receive
  split
  · exact hs
  · rename_i s hk
    split
    · exact hs
    · refine Projects.arranges ?_ arranges_unrefSession
      refine Projects.retains ?_ (retains_foldEffects _ _ _ _)
      have hstepped : Projects (self.modifySession k fun t =>
          { t with session := s.session.step (event, self.surroundings around k s event) }) :=
        hs.modifySession fun _ _ _ => (hs k s hk).step _
      exact hstepped.arranges arranges_refSession

theorem Projects.handleIdle (hs : Projects self) : Projects (self.handleIdle around) := by
  unfold GdmManager.handleIdle
  split
  · exact hs
  · rename_i k serviceName rest _
    have hpopped : Projects { self with idle := rest } := hs.of_eq rfl
    have hswitched : Projects ({ self with idle := rest }.switchToCompatibleUserSession around
        k k true).1 := hpopped.touches (touches_switchToCompatibleUserSession k true)
    unfold onStartUserSession
    dsimp only
    split
    · exact hswitched
    · split
      · exact (hswitched.callSession .reset).arranges arranges_unrefSession
      · have hstarted : Projects ((({ self with idle := rest }.switchToCompatibleUserSession around
            k k true).1.moveToOwnDisplay around k serviceName).emit
              (.startedSession k serviceName)) :=
          (hswitched.arranges (arranges_moveToOwnDisplay serviceName)).of_eq rfl
        exact (hstarted.callSession (.startSession serviceName)).arranges arranges_unrefSession
  · rename_i k rest _
    have hpopped : Projects { self with idle := rest } := hs.of_eq rfl
    have hreset : Projects (({ self with idle := rest }.callSession k around .reset).modifySession k
        fun s => { s with resetSessionOperation := false }) :=
      (hpopped.callSession .reset).modifySession fun _ _ hreached => hreached
    exact hreset.arranges arranges_unrefSession

theorem Projects.emit (hs : Projects self) (effect : ManagerEffect) : Projects (self.emit effect) :=
  hs.of_eq rfl

theorem Projects.openTemporaryReauthenticationChannel (hs : Projects self)
    (userSession : Option Nat) (seatId : Option String) (callerSessionId : String) (pid : Int)
    (uid : Nat) (isRemote : Bool) :
    Projects (self.openTemporaryReauthenticationChannel around userSession seatId callerSessionId
      pid uid isRemote) := by
  unfold GdmManager.openTemporaryReauthenticationChannel
  have hcreated := hs.append (s :=
    { session := .new .transient none none seatId (!isRemote)
      allowedUser := uid
      serverAddress := around.serverAddress
      callerSessionId := some callerSessionId
      userSession := userSession
      callerPid := pid }) (GdmSession.reached_new (.inr rfl) none none seatId (!isRemote))
  have hdropped : ∀ {m : GdmManager}, Projects m → Projects (m.dropTransientSession pid) :=
    fun hm => hm.touches (touches_dropTransientSession (P := fun _ => True) pid)
  dsimp only
  split
  · exact (hdropped (hcreated.arranges arranges_refSession)).of_eq rfl
  · exact (hdropped hcreated).of_eq rfl

theorem Projects.openReauthenticationChannel (hs : Projects self) (invocation : Nat)
    (details : SenderDetails) (sessionId username : String) :
    Projects (self.openReauthenticationChannel around invocation details sessionId username) := by
  have hremembered := hs.arranges (arranges_rememberCaller details)
  unfold GdmManager.openReauthenticationChannel
  dsimp only
  split
  · exact hremembered.emit _
  · split
    · rename_i k _
      have hstarted : Projects ((self.rememberCaller details).callSession k around
          (.startReauthentication details.pid details.uid)) := hremembered.callSession _
      exact hstarted.of_eq rfl
    · split
      · exact hremembered.emit _
      · exact (hremembered.openTemporaryReauthenticationChannel _ _ _ _ _ _).emit _

theorem Projects.handleEvent (hs : Projects self) (event : ManagerEvent) :
    Projects (self.handleEvent around event) := by
  have hcalled : Projects { self with nextInvocation := self.nextInvocation + 1 } := hs.of_eq rfl
  cases event with
  | session k event =>
    simp only [GdmManager.handleEvent]
    split
    · exact hs
    · exact hs.receive event
  | idle => exact hs.handleIdle
  | displayAdded display => exact hs.of_eq rfl
  | displayStatus d status => exact hs.arranges (arranges_setDisplayStatus status)
  | displaySessionId d sessionId => exact hs.of_eq rfl
  | displayRemoved d => exact hs.arranges arranges_removeDisplay
  | userLoaded d userExists => exact hs.arranges (arranges_onUserIsLoadedChanged userExists)
  | registerDisplay sender =>
    simp only [GdmManager.handleEvent, call, handleRegisterDisplay]
    split
    · exact hcalled.emit _
    · exact (hcalled.arranges (arranges_setDisplayStatus _)).emit _
  | registerSession sender =>
    simp only [GdmManager.handleEvent, call, handleRegisterSession]
    split
    · exact hcalled.emit _
    · split
      · exact ((hcalled.callSession _).arranges (.modifyDisplay _)).emit _
      · exact (hcalled.arranges (.modifyDisplay _)).emit _
  | openSession sender =>
    simp only [GdmManager.handleEvent, call, handleOpenSession]
    split
    · exact hcalled.emit _
    · split
      · exact hcalled.of_eq rfl
      · split
        · exact hcalled.emit _
        · split <;> exact hcalled.emit _
  | openReauthenticationChannel sender username =>
    simp only [GdmManager.handleEvent, call, handleOpenReauthenticationChannel]
    split
    · exact (hcalled.emit _).emit _
    · exact (hcalled.emit _).openReauthenticationChannel _ _ _ _

theorem Projects.step (hs : Projects self) (event : ManagerEvent × ManagerSurroundings) :
    Projects (self.step event) := by
  unfold GdmManager.step
  split
  · exact hs.handleEvent event.1
  · exact hs

/-- In every run of the manager, each of its sessions is a run of the session machine. -/
theorem projects_run (events : List (ManagerEvent × ManagerSurroundings)) :
    Projects (machine.run {} events) :=
  EventMachine.run_invariant Projects (fun _ event hs => hs.step event) events
    fun _ _ hs => nomatch hs

end GdmManager

end Gdm
