import Gdm.Manager.Projection

/-!
# The table of transient sessions

A session for reauthentication is entered in `transient_sessions` under the process that has
asked for it, and it leaves the table when it is closed.  What leaves is whatever there is
under that process, and what is entered takes the place of it.
-/

namespace Gdm

namespace GdmManager

variable {self self' : GdmManager} {around : ManagerSurroundings} {k : Nat}

/-! ## What the table is no matter for -/

theorem sessionUnlock_transientSessions (behalf : Nat) (session : Option Nat)
    (sessionId : Option String) :
    (self.sessionUnlock behalf session sessionId).transientSessions = self.transientSessions := by
  unfold sessionUnlock
  split
  · rfl
  · rfl

theorem jumpToSession_transientSessions (behalf : Nat) (seatId : Option String) (existing : Nat)
    (sessionId : Option String) :
    (self.jumpToSession around behalf seatId existing sessionId).1.transientSessions =
      self.transientSessions := by
  unfold jumpToSession
  split
  · exact sessionUnlock_transientSessions _ _ _
  · rfl
  · dsimp only
    split
    · exact sessionUnlock_transientSessions _ _ _
    · rfl

theorem switchToCompatibleUserSession_transientSessions (behalf : Nat)
    (failIfAlreadySwitched : Bool) :
    (self.switchToCompatibleUserSession around behalf k failIfAlreadySwitched).1.transientSessions =
      self.transientSessions := by
  unfold switchToCompatibleUserSession
  split
  · rfl
  · split
    · rfl
    · split
      · rfl
      · exact jumpToSession_transientSessions _ _ _ _

theorem startUserSessionIfReady_transientSessions (serviceName : String) :
    (self.startUserSessionIfReady k serviceName).transientSessions = self.transientSessions := by
  unfold startUserSessionIfReady
  split
  · rfl
  · dsimp only
    split
    · rfl
    · rfl

theorem onUserSessionOpened_transientSessions (serviceName : String) :
    (self.onUserSessionOpened k serviceName).transientSessions = self.transientSessions := by
  unfold onUserSessionOpened
  dsimp only
  rw [startUserSessionIfReady_transientSessions]
  split
  · rfl
  · rfl

theorem onSessionClientReadyForSessionToStart_transientSessions (serviceName : String)
    (clientIsReady : Bool) :
    (self.onSessionClientReadyForSessionToStart k serviceName clientIsReady).transientSessions =
      self.transientSessions := by
  unfold onSessionClientReadyForSessionToStart
  split
  · rfl
  · dsimp only
    split
    · exact startUserSessionIfReady_transientSessions _
    · rfl

theorem removeUserSession_transientSessions :
    (self.removeUserSession k).transientSessions = self.transientSessions := by
  have hended := (arranges_onDisplay (fun _ => arranges_endDisplay)
    (self.getDisplayForUserSession k) : Arranges self _).transientSessions
  unfold removeUserSession
  dsimp only
  split
  · rw [arranges_unrefSession.transientSessions]
    exact hended
  · exact hended

theorem queueSessionReset_transientSessions :
    (self.queueSessionReset k).transientSessions = self.transientSessions := by
  unfold queueSessionReset
  split
  · rfl
  · split
    · rfl
    · rfl

theorem onStopConflictingSession_transientSessions :
    (self.onStopConflictingSession around).transientSessions = self.transientSessions := by
  unfold onStopConflictingSession
  induction around.conflictingSessions generalizing self with
  | nil => rfl
  | cons sessionId rest ih =>
    rw [List.foldl_cons, ih]
    rfl

theorem onSessionReauthenticated_transientSessions (pidOfCaller : Int) :
    (self.onSessionReauthenticated around k pidOfCaller).transientSessions =
      self.transientSessions := by
  unfold onSessionReauthenticated
  split
  · rfl
  · dsimp only
    rw [switchToCompatibleUserSession_transientSessions]
    exact (arranges_onDisplay (fun _ => arranges_redirectRemoteDisplay _) _).transientSessions

theorem onSessionReauthenticationStarted_transientSessions (pidOfCaller : Int)
    (address : String) :
    (self.onSessionReauthenticationStarted pidOfCaller address).transientSessions =
      self.transientSessions := by
  unfold onSessionReauthenticationStarted
  split
  · rfl
  · rfl

theorem handleUserSession_transientSessions (signal : SessionSignal) :
    (self.handleUserSession around k signal).transientSessions = self.transientSessions := by
  cases signal with
  | reauthenticationStarted pidOfCaller address =>
    exact onSessionReauthenticationStarted_transientSessions _ _
  | reauthenticated _ pidOfCaller _ => exact onSessionReauthenticated_transientSessions _
  | stopConflictingSession _ => exact onStopConflictingSession_transientSessions
  | clientReadyForSessionToStart serviceName clientIsReady =>
    exact onSessionClientReadyForSessionToStart_transientSessions _ _
  | cancelled => exact queueSessionReset_transientSessions
  | sessionOpened serviceName _ => exact onUserSessionOpened_transientSessions _
  | sessionStartFailed _ _ => exact removeUserSession_transientSessions
  | sessionExited _ _ => exact removeUserSession_transientSessions
  | sessionDied _ _ => exact removeUserSession_transientSessions
  | _ => rfl

theorem handleIdle_transientSessions :
    (self.handleIdle around).transientSessions = self.transientSessions := by
  unfold handleIdle
  split
  · rfl
  · rename_i k serviceName rest _
    have hswitched :
        ({ self with idle := rest }.switchToCompatibleUserSession around k k
          true).1.transientSessions = self.transientSessions := by
      rw [switchToCompatibleUserSession_transientSessions]
    unfold onStartUserSession
    dsimp only
    split
    · exact hswitched
    · split
      · rw [arranges_unrefSession.transientSessions]
        exact hswitched
      · rw [arranges_unrefSession.transientSessions]
        exact (arranges_moveToOwnDisplay serviceName).transientSessions.trans hswitched
  · unfold onResetSession
    exact arranges_unrefSession.transientSessions

/-! ## Entries -/

/-- What is there under the process leaves the table. -/
theorem dropTransientSession_transientSessions (pid : Int) :
    (self.dropTransientSession pid).transientSessions =
      self.transientSessions.filter fun entry => entry.1 ≠ pid := by
  unfold dropTransientSession
  split
  · rename_i hnone
    rw [List.lookup_eq_none_iff] at hnone
    symm
    apply List.filter_eq_self.mpr
    intro entry hentry
    have hne : pid ≠ entry.1 := by simpa using hnone entry hentry
    exact decide_eq_true hne.symm
  · exact arranges_unrefSession.transientSessions

theorem openTemporaryReauthenticationChannel_transientSessions (userSession : Option Nat)
    (seatId : Option String) (callerSessionId : String) (pid : Int) (uid : Nat)
    (isRemote : Bool) :
    (self.openTemporaryReauthenticationChannel around userSession seatId callerSessionId pid uid
      isRemote).transientSessions =
      (pid, self.sessions.length) ::
        self.transientSessions.filter fun entry => entry.1 ≠ pid := by
  unfold openTemporaryReauthenticationChannel
  dsimp only
  rw [dropTransientSession_transientSessions]
  split
  · rfl
  · rfl

/-! ## The end of a transient session -/

/-- The manager closes the transient session on an entry in its history. -/
def closesTransient (session : GdmSession) (isOwnClient : Bool) : SessionEffect → Bool
  | .signal (.clientDisconnected _) | .signal .cancelled | .signal (.verificationComplete _) => true
  | .signal (.clientRejected _) => !session.clientIsConnected && isOwnClient
  | _ => false

theorem closeTransientSession_transientSessions {t : ManagedSession}
    (ht : self.sessions[k]? = some t) :
    (self.closeTransientSession k).transientSessions =
      self.transientSessions.filter fun entry => entry.1 ≠ t.callerPid := by
  unfold closeTransientSession
  rw [ht]
  exact dropTransientSession_transientSessions _

/-- A handler closes the session, or the table is no matter for it. -/
theorem handleTransient_transientSessions {t : ManagedSession} (ht : self.sessions[k]? = some t)
    (isOwnClient : Bool) (signal : SessionSignal) :
    (self.handleTransient around k isOwnClient signal).transientSessions =
      if closesTransient t.session isOwnClient (.signal signal) then
        self.transientSessions.filter fun entry => entry.1 ≠ t.callerPid
      else self.transientSessions := by
  cases signal with
  | clientDisconnected _ => exact closeTransientSession_transientSessions ht
  | cancelled => exact closeTransientSession_transientSessions ht
  | clientRejected _ =>
    simp only [handleTransient, onReauthenticationClientRejected, closesTransient, ht,
      Option.any_some]
    by_cases hconnected : t.session.clientIsConnected = true
    · simp [hconnected]
    · rw [Bool.not_eq_true] at hconnected
      cases isOwnClient with
      | true => simpa [hconnected] using closeTransientSession_transientSessions ht
      | false => simp [hconnected]
  | verificationComplete _ =>
    -- what is asked of logind does nothing to the session
    have hretained : ∀ {m : GdmManager}, Retains self m →
        m.transientSessions = self.transientSessions →
        (m.closeTransientSession k).transientSessions =
          self.transientSessions.filter fun entry => entry.1 ≠ t.callerPid := by
      intro m hretains htable
      obtain ⟨t', ht', -, horigin⟩ := hretains.sessions k t ht
      have hpid : t'.callerPid = t.callerPid := congrArg (fun o => o.2.2.2) horigin
      rw [closeTransientSession_transientSessions ht', htable, hpid]
    simp only [handleTransient, onReauthenticationVerificationComplete, ht, closesTransient,
      if_true]
    split
    · exact hretained (touches_switchToCompatibleUserSession _ _).retains
        (switchToCompatibleUserSession_transientSessions _ _)
    · exact hretained (touches_sessionUnlock _ _ _).retains
        (sessionUnlock_transientSessions _ _ _)
  | _ => rfl

/-- A session that a running handler refers to is left as it is by the others. -/
theorem session_of_linked {ks ds : List Nat} {t : ManagedSession} (hretains : Retains self self')
    (h : Linked ks ds self') (hk : k ∈ ks) (ht : self.sessions[k]? = some t) :
    ∃ t', self'.sessions[k]? = some t' ∧ t'.session = t.session ∧ t'.callerPid = t.callerPid := by
  obtain ⟨t', ht', hretained, horigin⟩ := hretains.sessions k t ht
  refine ⟨t', ht', ?_, congrArg (fun o => o.2.2.2) horigin⟩
  have hlive : t'.disposed = false := by
    by_contra hdisposed
    rw [Bool.not_eq_false] at hdisposed
    exact (h.living k t' ht' hdisposed).2 (List.mem_append_left _ hk)
  exact (hretained.session hlive).1

theorem handleEffect_transientSessions {t : ManagedSession} (ht : self.sessions[k]? = some t)
    (isOwnClient : Bool) (effect : SessionEffect) :
    (handleEffect around k .transient isOwnClient self effect).transientSessions =
      if closesTransient t.session isOwnClient effect then
        self.transientSessions.filter fun entry => entry.1 ≠ t.callerPid
      else self.transientSessions := by
  cases effect with
  | signal signal => exact handleTransient_transientSessions ht isOwnClient signal
  | _ => rfl

theorem foldEffects_transientSessions {ks ds : List Nat} (h : Linked ks ds self) (hk : k ∈ ks)
    {t : ManagedSession} (ht : self.sessions[k]? = some t) (isOwnClient : Bool)
    (effects : List SessionEffect) :
    (effects.foldl (handleEffect around k .transient isOwnClient) self).transientSessions =
      if effects.any (closesTransient t.session isOwnClient) then
        self.transientSessions.filter fun entry => entry.1 ≠ t.callerPid
      else self.transientSessions := by
  induction effects generalizing self t with
  | nil => rfl
  | cons effect rest ih =>
    have hnext : Linked ks ds (handleEffect around k .transient isOwnClient self effect) :=
      h.handleEffect hk .transient isOwnClient effect
    obtain ⟨t', ht', hsession, hpid⟩ :=
      session_of_linked (retains_handleEffect .transient isOwnClient effect) hnext hk ht
    rw [List.foldl_cons, ih hnext ht', hsession, hpid,
      handleEffect_transientSessions ht isOwnClient effect, List.any_cons]
    cases closesTransient t.session isOwnClient effect with
    | true =>
      simp only [Bool.true_or, if_true, List.filter_filter, Bool.and_self, ite_self]
    | false => simp only [Bool.false_or, Bool.false_eq_true, if_false]

theorem foldEffects_userSession (owner : Owner) (howner : owner ≠ .transient)
    (isOwnClient : Bool) (effects : List SessionEffect) :
    (effects.foldl (handleEffect around k owner isOwnClient) self).transientSessions =
      self.transientSessions := by
  induction effects generalizing self with
  | nil => rfl
  | cons effect rest ih =>
    rw [List.foldl_cons, ih]
    cases effect with
    | signal signal =>
      cases owner with
      | userSession => exact handleUserSession_transientSessions signal
      | transient => exact absurd rfl howner
      | launchEnvironment => rfl
      | reauthenticationRequest => rfl
    | _ => rfl

/-! ## Events -/

/-- What a session of the manager is after an event, as far as it gets it. -/
def sessionAfter (self : GdmManager) (around : ManagerSurroundings) (k : Nat) (s : ManagedSession)
    (event : SessionEvent) : GdmSession :=
  s.session.step (event, self.surroundings around k s event)

/-- A transient session is closed when it gets this event: it is told to, or it tells the manager
that its client has gone, has been rejected while none is connected, or has been verified. -/
def EndsTransient (self : GdmManager) (event : ManagerEvent × ManagerSurroundings) (k : Nat)
    (s : ManagedSession) : Prop :=
  ∃ received, event.1 = .session k received ∧ isOwnerCall received = false ∧
    self.running = true ∧ self.sessions[k]? = some s ∧ s.disposed = false ∧
    s.session.owner = .transient ∧
    (((sessionAfter self event.2 k s received).log.drop s.session.log.length).any
      (closesTransient (sessionAfter self event.2 k s received)
        (isOwnClient s event.2 received))) = true

theorem receive_transientSessions {ds : List Nat} (h : Linked [] ds self) {s : ManagedSession}
    (hs : self.sessions[k]? = some s) (hlive : s.disposed = false) (event : SessionEvent) :
    (self.receive around k event).transientSessions =
      if s.session.owner = .transient ∧
          ((sessionAfter self around k s event).log.drop s.session.log.length).any
            (closesTransient (sessionAfter self around k s event)
              (isOwnClient s around event)) = true
      then self.transientSessions.filter fun entry => entry.1 ≠ s.callerPid
      else self.transientSessions := by
  unfold receive
  rw [hs]
  dsimp only
  rw [if_neg (by simp [hlive]), arranges_unrefSession.transientSessions]
  have hstepped : Linked [] ds (self.modifySession k fun t =>
      { t with session := s.session.step (event, self.surroundings around k s event) }) :=
    h.modifySession fun _ _ => rfl
  have hs' : (self.modifySession k fun t => { t with
      session := s.session.step (event, self.surroundings around k s event) }).sessions[k]? =
        some { s with session := s.session.step (event, self.surroundings around k s event) } :=
    getElem?_modifySession_self hs
  have hemitting := hstepped.refSession hs' hlive
  have hs'' : ((self.modifySession k fun t =>
      { t with session := s.session.step (event, self.surroundings around k s event) }).refSession
        k).sessions[k]? =
        some { s with
          session := s.session.step (event, self.surroundings around k s event)
          refs := s.refs + 1 } :=
    getElem?_modifySession_self hs'
  by_cases howner : s.session.owner = .transient
  · rw [howner, foldEffects_transientSessions hemitting List.mem_cons_self hs'']
    simp only [true_and]
    rfl
  · rw [foldEffects_userSession _ howner, if_neg (fun hboth => howner hboth.1)]
    rfl

theorem reply_transientSessions (invocation : Nat) (reply : ManagerReply) :
    (self.reply invocation reply).transientSessions = self.transientSessions := rfl

/-- The caller gets a channel of its own: it does not ask for a session that can be told to
reauthenticate, and it is not a login screen that has nothing to ask for. -/
def opensTransient (self : GdmManager) (around : ManagerSurroundings) (details : SenderDetails)
    (username : String) : Bool :=
  let sessions := self.sessionsToReauthenticate details username
  let running := sessions.1.any fun k => (self.sessions[k]?).any fun s => s.session.isRunning
  !self.areIncompatible sessions && !(running && !around.isFrozen) &&
    !(!running && details.isLoginScreen)

theorem rememberCaller_sessions (details : SenderDetails) :
    (self.rememberCaller details).sessions = self.sessions := by
  unfold rememberCaller onDisplay
  split
  · split
    · rfl
    · rfl
  · rfl

theorem areIncompatible_congr (h : self'.sessions = self.sessions)
    (sessions : Option Nat × Option Nat) :
    self'.areIncompatible sessions = self.areIncompatible sessions := by
  unfold areIncompatible
  rw [h]

theorem openReauthenticationChannel_transientSessions (invocation : Nat) (details : SenderDetails)
    (sessionId username : String) :
    (self.openReauthenticationChannel around invocation details sessionId
      username).transientSessions =
      if self.opensTransient around details username then
        (details.pid, self.sessions.length) ::
          self.transientSessions.filter fun entry => entry.1 ≠ details.pid
      else self.transientSessions := by
  have hsessions : (self.rememberCaller details).sessions = self.sessions :=
    rememberCaller_sessions details
  have htable : (self.rememberCaller details).transientSessions = self.transientSessions :=
    (arranges_rememberCaller details).transientSessions
  unfold openReauthenticationChannel opensTransient
  simp only [areIncompatible_congr hsessions, hsessions]
  by_cases hincompatible : self.areIncompatible
      (self.sessionsToReauthenticate details username) = true
  · simpa [hincompatible, returnAccessDenied, reply, emit] using htable
  · rw [Bool.not_eq_true] at hincompatible
    simp only [hincompatible, Bool.false_eq_true, if_false, Bool.not_false, Bool.true_and]
    generalize hrunning : ((self.sessionsToReauthenticate details username).1.any fun k =>
      (self.sessions[k]?).any fun s => s.session.isRunning) = running
    cases running with
    | false =>
      simp only [Bool.false_eq_true, false_and, if_false, Bool.false_and, Bool.not_false,
        Bool.true_and]
      cases hlogin : details.isLoginScreen with
      | true => simpa [returnAccessDenied, reply, emit] using htable
      | false =>
        simp only [Bool.false_eq_true, and_false, if_false, Bool.not_false, if_true]
        rw [reply_transientSessions, openTemporaryReauthenticationChannel_transientSessions,
          hsessions, htable]
    | true =>
      simp only [true_and, Bool.true_and, Bool.not_true, Bool.false_and, Bool.not_false,
        Bool.and_true, reduceCtorEq, false_and, if_false]
      cases hfrozen : around.isFrozen with
      | true =>
        simp only [Bool.true_eq_false, if_false, Bool.not_true, Bool.not_false, if_true]
        rw [reply_transientSessions, openTemporaryReauthenticationChannel_transientSessions,
          hsessions, htable]
      | false =>
        obtain ⟨k, hk, -⟩ := (Option.any_eq_true _ _).mp hrunning
        simpa [hk, startReauthentication, callSession, modifySession] using htable

/-- A channel for reauthentication is opened for the process. -/
def OpensTransient (self : GdmManager) (event : ManagerEvent × ManagerSurroundings)
    (pid : Int) : Prop :=
  ∃ sender username details, event.1 = .openReauthenticationChannel sender username ∧
    self.running = true ∧ details = self.getDisplayAndDetailsForBusSender sender true ∧
    details.pid = pid ∧ pid ≠ 0 ∧ details.uid ≠ noUid ∧ details.sessionId ≠ none ∧
    self.opensTransient event.2 details username = true

theorem handleOpenReauthenticationChannel_transientSessions (invocation : Nat)
    (sender : BusSender) (username : String) (details : SenderDetails)
    (hdetails : details = self.getDisplayAndDetailsForBusSender sender true) :
    (self.handleOpenReauthenticationChannel around invocation sender username).transientSessions =
      if details.pid ≠ 0 ∧ details.uid ≠ noUid ∧ details.sessionId ≠ none ∧
          self.opensTransient around details username = true then
        (details.pid, self.sessions.length) ::
          self.transientSessions.filter fun entry => entry.1 ≠ details.pid
      else self.transientSessions := by
  unfold handleOpenReauthenticationChannel
  rw [← hdetails]
  dsimp only
  by_cases hknown : details.pid = 0 ∨ details.uid = noUid
  · rw [if_pos hknown, if_neg]
    · rfl
    · rintro ⟨hpid, huid, -⟩
      exact hknown.elim hpid huid
  · rw [if_neg hknown]
    rw [not_or] at hknown
    cases hsession : details.sessionId with
    | none => simp [returnAccessDenied, reply, emit]
    | some sessionId =>
      dsimp only
      rw [openReauthenticationChannel_transientSessions]
      simp only [ne_eq, hknown.1, hknown.2, not_false_eq_true, reduceCtorEq, true_and]
      rfl

/-- An event that neither ends a transient session nor opens a channel leaves the table. -/
theorem step_transientSessions {ds : List Nat} (h : Linked [] ds self)
    (event : ManagerEvent × ManagerSurroundings) :
    (∀ k s, EndsTransient self event k s → (self.step event).transientSessions =
      self.transientSessions.filter fun entry => entry.1 ≠ s.callerPid) ∧
    (∀ pid, OpensTransient self event pid → (self.step event).transientSessions =
      (pid, self.sessions.length) ::
        self.transientSessions.filter fun entry => entry.1 ≠ pid) ∧
    ((∀ k s, ¬ EndsTransient self event k s) → (∀ pid, ¬ OpensTransient self event pid) →
      (self.step event).transientSessions = self.transientSessions) := by
  obtain ⟨event, around⟩ := event
  refine ⟨?_, ?_, ?_⟩
  · rintro k s ⟨received, hevent, hcall, hrunning, hs, hlive, howner, hcloses⟩
    simp only at hevent hcloses
    subst hevent
    rw [step, if_pos hrunning, handleEvent, hcall, if_neg (by simp),
      receive_transientSessions h hs hlive, if_pos ⟨howner, hcloses⟩]
  · rintro pid ⟨sender, username, details, hevent, hrunning, hdetails, hpid, hzero, huid, hid,
      hopens⟩
    simp only at hevent hopens
    subst hevent
    subst hpid
    have htable : ({ self with nextInvocation := self.nextInvocation + 1
        }.handleOpenReauthenticationChannel around self.nextInvocation sender
          username).transientSessions = _ :=
      handleOpenReauthenticationChannel_transientSessions self.nextInvocation sender username
        details hdetails
    rw [if_pos ⟨hzero, huid, hid, hopens⟩] at htable
    rw [step, if_pos hrunning]
    exact htable
  · intro hends hopens
    unfold step
    split
    · rename_i hrunning
      cases event with
      | session k received =>
        simp only [handleEvent]
        split
        · rfl
        · rename_i hcall
          cases hs : self.sessions[k]? with
          | none => rw [receive, hs]
          | some s =>
            by_cases hlive : s.disposed = true
            · simp [receive, hs, hlive]
            · rw [Bool.not_eq_true] at hlive
              rw [receive_transientSessions h hs hlive, if_neg]
              rintro ⟨howner, hcloses⟩
              exact hends k s ⟨received, rfl, by simpa using hcall, hrunning, hs, hlive, howner,
                hcloses⟩
      | idle => exact handleIdle_transientSessions
      | displayAdded display => rfl
      | displayStatus d status => exact (arranges_setDisplayStatus status).transientSessions
      | displaySessionId d sessionId => rfl
      | displayRemoved d => exact arranges_removeDisplay.transientSessions
      | userLoaded d userExists =>
        exact (arranges_onUserIsLoadedChanged userExists).transientSessions
      | registerDisplay sender =>
        simp only [handleEvent, call, handleRegisterDisplay]
        split
        · rfl
        · exact (arranges_setDisplayStatus _).transientSessions
      | registerSession sender =>
        simp only [handleEvent, call, handleRegisterSession]
        split
        · rfl
        · split
          · rfl
          · rfl
      | openSession sender =>
        simp only [handleEvent, call, handleOpenSession]
        split
        · rfl
        · split
          · rfl
          · split
            · rfl
            · split
              · rfl
              · rfl
      | openReauthenticationChannel sender username =>
        simp only [handleEvent, call]
        rw [handleOpenReauthenticationChannel_transientSessions _ _ _ _ rfl, if_neg]
        rintro ⟨hpid, huid, hid, htransient⟩
        exact hopens _ ⟨sender, username, _, rfl, hrunning, rfl, rfl, hpid, huid, hid, htransient⟩
    · rfl

/-! ## The processes of the sessions -/

/-- The sessions stay, with the processes that they are for. -/
def SamePids (m m' : GdmManager) : Prop :=
  ∀ (j : Nat) (s : ManagedSession), m.sessions[j]? = some s →
    ∃ s', m'.sessions[j]? = some s' ∧ s'.callerPid = s.callerPid

theorem SamePids.refl (self : GdmManager) : SamePids self self :=
  fun _ s hs => ⟨s, hs, rfl⟩

theorem SamePids.trans {self'' : GdmManager} (h : SamePids self self')
    (h' : SamePids self' self'') : SamePids self self'' := by
  intro j s hs
  obtain ⟨s', hs', hpid⟩ := h j s hs
  obtain ⟨s'', hs'', hpid'⟩ := h' j s' hs'
  exact ⟨s'', hs'', hpid'.trans hpid⟩

theorem SamePids.retains {m : GdmManager} (h : SamePids self m) (hretains : Retains m self') :
    SamePids self self' := by
  refine h.trans ?_
  intro j s hs
  obtain ⟨s', hs', -, horigin⟩ := hretains.sessions j s hs
  exact ⟨s', hs', congrArg (fun o => o.2.2.2) horigin⟩

theorem SamePids.arranges {m : GdmManager} (h : SamePids self m) (harranges : Arranges m self') :
    SamePids self self' :=
  h.retains harranges.retains

theorem SamePids.of_eq {m : GdmManager} (h : SamePids self m)
    (hsessions : self'.sessions = m.sessions) : SamePids self self' :=
  h.retains (.of_eq hsessions)

theorem SamePids.emit {m : GdmManager} (h : SamePids self m) (effect : ManagerEffect) :
    SamePids self (m.emit effect) :=
  h.of_eq rfl

theorem SamePids.modifySession {m : GdmManager} (h : SamePids self m)
    {f : ManagedSession → ManagedSession} (hf : ∀ s, (f s).callerPid = s.callerPid) :
    SamePids self (m.modifySession k f) := by
  refine h.trans ?_
  intro j s hs
  rw [getElem?_modifySession]
  split
  · rename_i hkj
    subst hkj
    exact ⟨f s, by rw [hs]; rfl, hf s⟩
  · exact ⟨s, hs, rfl⟩

theorem SamePids.callSession {m : GdmManager} (h : SamePids self m) (call : OwnerCall) :
    SamePids self (m.callSession k around call) :=
  h.modifySession fun _ => rfl

theorem SamePids.append {m : GdmManager} (h : SamePids self m) (s : ManagedSession) :
    SamePids self { m with sessions := m.sessions ++ [s] } := by
  refine h.trans ?_
  intro j t ht
  refine ⟨t, ?_, rfl⟩
  dsimp only
  rw [List.getElem?_append_left (List.getElem?_eq_some_iff.mp ht).1]
  exact ht

theorem SamePids.receive {m : GdmManager} (h : SamePids self m) (event : SessionEvent) :
    SamePids self (m.receive around k event) := by
  unfold GdmManager.receive
  split
  · exact h
  · rename_i s _
    split
    · exact h
    · have hstepped : SamePids self (m.modifySession k fun t =>
          { t with session := s.session.step (event, m.surroundings around k s event) }) :=
        h.modifySession fun _ => rfl
      exact ((hstepped.arranges arranges_refSession).retains
        (retains_foldEffects _ _ _ _)).arranges arranges_unrefSession

theorem SamePids.handleIdle {m : GdmManager} (h : SamePids self m) :
    SamePids self (m.handleIdle around) := by
  unfold GdmManager.handleIdle
  split
  · exact h
  · rename_i k serviceName rest _
    have hpopped : SamePids self { m with idle := rest } := h.of_eq rfl
    have hswitched : SamePids self
        ({ m with idle := rest }.switchToCompatibleUserSession around k k true).1 :=
      hpopped.retains (touches_switchToCompatibleUserSession k true).retains
    unfold onStartUserSession
    dsimp only
    split
    · exact hswitched
    · split
      · exact (hswitched.callSession .reset).arranges arranges_unrefSession
      · have hstarted : SamePids self ((({ m with idle := rest }.switchToCompatibleUserSession
            around k k true).1.moveToOwnDisplay around k serviceName).emit
              (.startedSession k serviceName)) :=
          (hswitched.arranges (arranges_moveToOwnDisplay serviceName)).of_eq rfl
        exact (hstarted.callSession (.startSession serviceName)).arranges arranges_unrefSession
  · rename_i k rest _
    have hpopped : SamePids self { m with idle := rest } := h.of_eq rfl
    have hreset : SamePids self (({ m with idle := rest }.callSession k around .reset).modifySession
        k fun s => { s with resetSessionOperation := false }) :=
      (hpopped.callSession .reset).modifySession fun _ => rfl
    exact hreset.arranges arranges_unrefSession

theorem SamePids.openTemporaryReauthenticationChannel {m : GdmManager} (h : SamePids self m)
    (userSession : Option Nat) (seatId : Option String) (callerSessionId : String) (pid : Int)
    (uid : Nat) (isRemote : Bool) :
    SamePids self (m.openTemporaryReauthenticationChannel around userSession seatId
      callerSessionId pid uid isRemote) := by
  unfold GdmManager.openTemporaryReauthenticationChannel
  have hcreated := h.append
    { session := .new .transient none none seatId (!isRemote)
      allowedUser := uid
      serverAddress := around.serverAddress
      callerSessionId := some callerSessionId
      userSession := userSession
      callerPid := pid }
  have hdropped : ∀ {m' : GdmManager}, SamePids self m' →
      SamePids self (m'.dropTransientSession pid) :=
    fun hm => hm.retains (touches_dropTransientSession (P := fun _ => True) pid).retains
  dsimp only
  split
  · exact (hdropped (hcreated.arranges arranges_refSession)).of_eq rfl
  · exact (hdropped hcreated).of_eq rfl

theorem SamePids.openReauthenticationChannel {m : GdmManager} (h : SamePids self m)
    (invocation : Nat) (details : SenderDetails) (sessionId username : String) :
    SamePids self
      (m.openReauthenticationChannel around invocation details sessionId username) := by
  have hremembered : SamePids self (m.rememberCaller details) :=
    h.arranges (arranges_rememberCaller details)
  unfold GdmManager.openReauthenticationChannel
  dsimp only
  split
  · exact hremembered.of_eq rfl
  · split
    · rename_i k _
      have hstarted : SamePids self ((m.rememberCaller details).callSession k around
          (.startReauthentication details.pid details.uid)) := hremembered.callSession _
      exact hstarted.of_eq rfl
    · split
      · exact hremembered.of_eq rfl
      · exact (hremembered.openTemporaryReauthenticationChannel _ _ _ _ _ _).of_eq rfl

theorem samePids_handleEvent (event : ManagerEvent) :
    SamePids self (self.handleEvent around event) := by
  have hself := SamePids.refl self
  have hcalled : SamePids self { self with nextInvocation := self.nextInvocation + 1 } :=
    hself.of_eq rfl
  cases event with
  | session k event =>
    simp only [handleEvent]
    split
    · exact hself
    · exact hself.receive event
  | idle => exact hself.handleIdle
  | displayAdded display => exact hself.of_eq rfl
  | displayStatus d status => exact hself.arranges (arranges_setDisplayStatus status)
  | displaySessionId d sessionId => exact hself.of_eq rfl
  | displayRemoved d => exact hself.arranges arranges_removeDisplay
  | userLoaded d userExists => exact hself.arranges (arranges_onUserIsLoadedChanged userExists)
  | registerDisplay sender =>
    simp only [handleEvent, call, handleRegisterDisplay]
    split
    · exact hcalled.of_eq rfl
    · exact (hcalled.arranges (arranges_setDisplayStatus _)).of_eq rfl
  | registerSession sender =>
    simp only [handleEvent, call, handleRegisterSession]
    split
    · exact hcalled.of_eq rfl
    · split
      · rename_i k tty _ _
        exact (hcalled.callSession (.setDisplayDevice tty)).of_eq rfl
      · exact hcalled.of_eq rfl
  | openSession sender =>
    simp only [handleEvent, call, handleOpenSession]
    split
    · exact hcalled.of_eq rfl
    · split
      · exact hcalled.of_eq rfl
      · split
        · exact hcalled.of_eq rfl
        · split
          · exact hcalled.of_eq rfl
          · exact hcalled.of_eq rfl
  | openReauthenticationChannel sender username =>
    simp only [handleEvent, call, handleOpenReauthenticationChannel]
    split
    · exact hcalled.of_eq rfl
    · exact (hcalled.emit _).openReauthenticationChannel _ _ _ _

theorem samePids_step (event : ManagerEvent × ManagerSurroundings) :
    SamePids self (self.step event) := by
  unfold step
  split
  · exact samePids_handleEvent event.1
  · exact .refl self

/-! ## The order of openings and ends -/

/-- An entry is for the process of its session. -/
def Entered (m : GdmManager) : Prop :=
  ∀ pid j, (pid, j) ∈ m.transientSessions → ∃ s, m.sessions[j]? = some s ∧ s.callerPid = pid

theorem EndsTransient.unique {event : ManagerEvent × ManagerSurroundings} {j : Nat}
    {s t : ManagedSession} (h : EndsTransient self event k s) (h' : EndsTransient self event j t) :
    k = j ∧ s = t := by
  obtain ⟨_, hevent, -, -, hs, -⟩ := h
  obtain ⟨_, hevent', -, -, ht, -⟩ := h'
  rw [hevent] at hevent'
  cases hevent'
  rw [hs] at ht
  exact ⟨rfl, Option.some.inj ht⟩

theorem EndsTransient.not_opens {event : ManagerEvent × ManagerSurroundings}
    {s : ManagedSession} (h : EndsTransient self event k s) (pid : Int) :
    ¬ OpensTransient self event pid := by
  obtain ⟨_, hevent, -⟩ := h
  rintro ⟨_, _, _, hevent', -⟩
  rw [hevent] at hevent'
  cases hevent'

/-- When a session ends, no other one has an entry for its process; when a channel is opened,
there is none for the process. -/
def OwnEntry (self : GdmManager) (event : ManagerEvent × ManagerSurroundings) : Prop :=
  (∀ k s, EndsTransient self event k s →
    ∀ j, (s.callerPid, j) ∈ self.transientSessions → j = k) ∧
  ∀ pid, OpensTransient self event pid → ∀ j, (pid, j) ∉ self.transientSessions

/-- An entry is there after the event unless its own session has ended. -/
def RemovesOwn (self : GdmManager) (event : ManagerEvent × ManagerSurroundings) : Prop :=
  ∀ pid j, (pid, j) ∈ self.transientSessions →
    ((pid, j) ∈ (self.step event).transientSessions ↔ ¬ ∃ s, EndsTransient self event j s)

theorem removesOwn_iff {ds : List Nat} (h : Linked [] ds self) (hentered : Entered self)
    (event : ManagerEvent × ManagerSurroundings) :
    RemovesOwn self event ↔ OwnEntry self event := by
  obtain ⟨hends, hopens, hkeeps⟩ := step_transientSessions h event
  constructor
  · intro hremoves
    constructor
    · intro k s hk j hj
      by_contra hne
      have hgone : (s.callerPid, j) ∉ (self.step event).transientSessions := by
        rw [hends k s hk]
        simp
      rw [hremoves _ j hj, not_not] at hgone
      obtain ⟨t, ht⟩ := hgone
      exact hne (ht.unique hk).1
    · intro pid hpid j hj
      obtain ⟨s, hs, -⟩ := hentered pid j hj
      have hlt : j < self.sessions.length := (List.getElem?_eq_some_iff.mp hs).1
      have hgone : (pid, j) ∉ (self.step event).transientSessions := by
        rw [hopens pid hpid]
        simp only [List.mem_cons, Prod.mk.injEq, true_and, List.mem_filter, ne_eq,
          not_true_eq_false, decide_false, Bool.false_eq_true, and_false, or_false]
        omega
      rw [hremoves pid j hj, not_not] at hgone
      obtain ⟨t, ht⟩ := hgone
      exact ht.not_opens pid hpid
  · rintro ⟨hownEnd, hnew⟩ pid j hj
    by_cases hsome : ∃ k s, EndsTransient self event k s
    · obtain ⟨k, s, hk⟩ := hsome
      rw [hends k s hk, List.mem_filter]
      simp only [hj, true_and, decide_eq_true_eq]
      constructor
      · rintro hne ⟨t, ht⟩
        obtain ⟨rfl, rfl⟩ := hk.unique ht
        obtain ⟨t, ht', hpid⟩ := hentered pid k hj
        obtain ⟨_, _, _, _, hs, _⟩ := hk
        rw [hs] at ht'
        obtain rfl := Option.some.inj ht'
        exact hne hpid.symm
      · rintro hnot rfl
        obtain rfl := hownEnd k s hk j hj
        exact hnot ⟨s, hk⟩
    · have hnone : ∀ k s, ¬ EndsTransient self event k s :=
        fun k s hk => hsome ⟨k, s, hk⟩
      have hnot : ¬ ∃ s, EndsTransient self event j s := fun ⟨s, hs⟩ => hnone j s hs
      simp only [hnot, not_false_eq_true, iff_true]
      by_cases hopening : ∃ pid', OpensTransient self event pid'
      · obtain ⟨pid', hpid'⟩ := hopening
        rw [hopens pid' hpid']
        refine List.mem_cons_of_mem _ (List.mem_filter.mpr ⟨hj, decide_eq_true ?_⟩)
        rintro rfl
        exact hnew pid hpid' j hj
      · rw [hkeeps hnone fun pid' hpid' => hopening ⟨pid', hpid'⟩]
        exact hj

theorem Entered.mono (h : Entered self) (hpids : SamePids self self')
    (htable : ∀ entry ∈ self'.transientSessions, entry ∈ self.transientSessions) :
    Entered self' := by
  intro pid j hj
  obtain ⟨s, hs, hpid⟩ := h pid j (htable _ hj)
  obtain ⟨s', hs', hpid'⟩ := hpids j s hs
  exact ⟨s', hs', hpid'.trans hpid⟩

theorem Entered.openTemporaryReauthenticationChannel (h : Entered self)
    (userSession : Option Nat) (seatId : Option String) (callerSessionId : String) (pid : Int)
    (uid : Nat) (isRemote : Bool) :
    Entered (self.openTemporaryReauthenticationChannel around userSession seatId callerSessionId
      pid uid isRemote) := by
  intro pid' j hj
  rw [openTemporaryReauthenticationChannel_transientSessions] at hj
  rcases List.mem_cons.mp hj with hnew | hold
  · obtain ⟨rfl, rfl⟩ := Prod.mk.inj hnew
    -- the new session is the last one, and what is let go of stays where it is
    unfold GdmManager.openTemporaryReauthenticationChannel
    obtain ⟨session, hsession⟩ : ∃ session : ManagedSession, session =
      { session := .new .transient none none seatId (!isRemote)
        allowedUser := uid
        serverAddress := around.serverAddress
        callerSessionId := some callerSessionId
        userSession := userSession
        callerPid := pid' } := ⟨_, rfl⟩
    have hcreated := SamePids.refl { self with sessions := self.sessions ++ [session] }
    have hlast : (self.sessions ++ [session])[self.sessions.length]? = some session := by simp
    have hdropped : ∀ {m : GdmManager},
        SamePids { self with sessions := self.sessions ++ [session] } m →
        ∃ s, (m.dropTransientSession pid').sessions[self.sessions.length]? = some s ∧
          s.callerPid = pid' := by
      intro m hm
      obtain ⟨s, hs, hpid⟩ := hm.retains
        (touches_dropTransientSession (P := fun _ => True) pid').retains _ session hlast
      exact ⟨s, hs, by rw [hpid, hsession]⟩
    dsimp only
    rw [← hsession]
    split
    · exact hdropped (hcreated.arranges arranges_refSession)
    · exact hdropped hcreated
  · obtain ⟨s, hs, hpid⟩ := h pid' j (List.mem_filter.mp hold).1
    obtain ⟨s', hs', hpid'⟩ := (SamePids.refl self).openTemporaryReauthenticationChannel
      userSession seatId callerSessionId pid uid isRemote j s hs
    exact ⟨s', hs', hpid'.trans hpid⟩

theorem Entered.openReauthenticationChannel (h : Entered self) (invocation : Nat)
    (details : SenderDetails) (sessionId username : String) :
    Entered (self.openReauthenticationChannel around invocation details sessionId username) := by
  have hremembered : Entered (self.rememberCaller details) :=
    h.mono ((SamePids.refl self).arranges (arranges_rememberCaller details)) fun entry hentry =>
      (arranges_rememberCaller details).transientSessions ▸ hentry
  unfold GdmManager.openReauthenticationChannel
  dsimp only
  split
  · exact hremembered
  · split
    · rename_i k _
      refine hremembered.mono ?_ fun _ hentry => hentry
      exact (SamePids.refl _).callSession _
    · split
      · exact hremembered
      · exact hremembered.openTemporaryReauthenticationChannel _ _ _ _ _ _

theorem Entered.step {ds : List Nat} (h : Linked [] ds self) (hentered : Entered self)
    (event : ManagerEvent × ManagerSurroundings) : Entered (self.step event) := by
  obtain ⟨hends, hopens, hkeeps⟩ := step_transientSessions h event
  by_cases hopening : ∃ pid, OpensTransient self event pid
  · obtain ⟨_, sender, username, _, hevent, hrunning, -⟩ := hopening
    obtain ⟨event, around⟩ := event
    simp only at hevent
    subst hevent
    rw [GdmManager.step, if_pos hrunning]
    simp only [handleEvent, call, handleOpenReauthenticationChannel]
    split
    · exact hentered
    · apply Entered.openReauthenticationChannel
      exact hentered
  · refine hentered.mono (samePids_step event) ?_
    intro entry hentry
    by_cases hsome : ∃ k s, EndsTransient self event k s
    · obtain ⟨k, s, hk⟩ := hsome
      rw [hends k s hk] at hentry
      exact (List.mem_filter.mp hentry).1
    · rw [hkeeps (fun k s hk => hsome ⟨k, s, hk⟩) fun pid hpid => hopening ⟨pid, hpid⟩] at hentry
      exact hentry

theorem run_entered (events : List (ManagerEvent × ManagerSurroundings)) :
    Entered (machine.run {} events) := by
  have hboth : Linked [] [] (machine.run {} events) ∧ Entered (machine.run {} events) := by
    apply machine.run_invariant (fun self => Linked [] [] self ∧ Entered self)
    · rintro self event ⟨hlinked, hentered⟩
      exact ⟨hlinked.step event, hentered.step hlinked event⟩
    · exact ⟨linked_init, fun pid j hj => nomatch hj⟩
  exact hboth.2

/-- All through a run, a session leaves the table when it ends and no other one does, just when
no event meets the entry of another session for the process it is about. -/
theorem run_removesOwn (events : List (ManagerEvent × ManagerSurroundings)) :
    machine.Meets OwnEntry {} events ↔
      ∀ before event after, events = before ++ event :: after →
        RemovesOwn (machine.run {} before) event := by
  rw [EventMachine.meets_iff_forall_step]
  constructor
  · intro h before event after hes
    exact (removesOwn_iff (linked_run before) (run_entered before) event).mpr
      (h before event after hes)
  · intro h before event after hes
    exact (removesOwn_iff (linked_run before) (run_entered before) event).mp
      (h before event after hes)

/-- A process in a session of its user that the manager does not know. -/
def senderOfSession : BusSender :=
  { pid := some 700, uid := some 1000, sessionId := some "c1", isLoginScreen := some false
    sessionUid := some 1000 }

/-- A process opens a second channel, and the first one is dropped though its session has not
ended. -/
theorem run_second_channel :
    ¬ ∀ (before : List (ManagerEvent × ManagerSurroundings))
      (event : ManagerEvent × ManagerSurroundings),
      RemovesOwn (machine.run {} before) event := by
  intro h
  have hremoves := h [(.openReauthenticationChannel senderOfSession "alice", {})]
    (.openReauthenticationChannel senderOfSession "alice", {}) 700 0 (by decide +kernel)
  have hstays := hremoves.mpr (by
    rintro ⟨s, received, hevent, -⟩
    cases hevent)
  exact absurd hstays (by decide +kernel)

end GdmManager

end Gdm
