import Gdm.Library.History
import Gdm.Manager.Arranges

/-!
# What the handlers leave alone

Most handlers for the signals of a session neither list it nor answer a request, and
no handler does anything to what is in a session, but dispose of it.
-/

namespace Gdm

/-- What logind is asked for when a user has a session already. -/
def ManagerEffect.isSwitch : ManagerEffect → Bool
  | activated _ _ _ _ | unlocked _ _ _ => true
  | _ => false

def ManagerEffect.isTermination : ManagerEffect → Bool
  | terminated _ => true
  | _ => false

namespace GdmManager

variable {self self' self'' : GdmManager} {around : ManagerSurroundings} {k : Nat}
  {P Q : ManagerEffect → Prop}

/-- The sessions are retained, `user_sessions` and the requests are the same, and what is
added to the history is of the kind `P`. -/
structure Touches (P : ManagerEffect → Prop) (m m' : GdmManager) : Prop where
  retains : Retains m m'
  userSessions : m'.userSessions = m.userSessions
  openReauthenticationRequests : m'.openReauthenticationRequests = m.openReauthenticationRequests
  nextInvocation : m'.nextInvocation = m.nextInvocation
  log : ∃ new, m'.log = m.log ++ new ∧ ∀ effect ∈ new, P effect

theorem Touches.refl (P : ManagerEffect → Prop) (self : GdmManager) : Touches P self self :=
  ⟨.refl self, rfl, rfl, rfl, [], by simp, by simp⟩

theorem Touches.trans (h : Touches P self self') (h' : Touches P self' self'') :
    Touches P self self'' where
  retains := h.retains.trans h'.retains
  userSessions := h'.userSessions.trans h.userSessions
  openReauthenticationRequests :=
    h'.openReauthenticationRequests.trans h.openReauthenticationRequests
  nextInvocation := h'.nextInvocation.trans h.nextInvocation
  log := History.exists_added_trans h.log h'.log

theorem Arranges.touches (h : Arranges self self') : Touches P self self' :=
  ⟨h.retains, h.userSessions, h.openReauthenticationRequests, h.nextInvocation, [],
    by rw [h.log, List.append_nil], by simp⟩

/-- Queues, flags of the process and the table of transient sessions are no matter. -/
theorem Touches.of_eq (hsessions : self'.sessions = self.sessions)
    (huserSessions : self'.userSessions = self.userSessions)
    (hrequests : self'.openReauthenticationRequests = self.openReauthenticationRequests)
    (hnext : self'.nextInvocation = self.nextInvocation) (hlog : self'.log = self.log) :
    Touches P self self' :=
  ⟨.of_eq hsessions, huserSessions, hrequests, hnext, [], by rw [hlog, List.append_nil], by simp⟩

theorem touches_emit {effect : ManagerEffect} (h : P effect) : Touches P self (self.emit effect) :=
  ⟨.of_eq rfl, rfl, rfl, rfl, [effect], rfl, by simpa using h⟩

theorem touches_crash : Touches P self self.crash :=
  .of_eq rfl rfl rfl rfl rfl

/-- Flags of a session are set. -/
theorem touches_modifySession {f : ManagedSession → ManagedSession}
    (hsession : ∀ s, (f s).session = s.session) (hdisposed : ∀ s, (f s).disposed = s.disposed)
    (huser : ∀ s, (f s).userSession = s.userSession) (horigin : ∀ s, (f s).origin = s.origin) :
    Touches P self (self.modifySession k f) :=
  ⟨.modifySession fun s _ => ⟨.inl ⟨hsession s, hdisposed s, huser s⟩, horigin s⟩, rfl, rfl, rfl,
    [], (List.append_nil _).symm, by simp⟩

/-! ## Switching to a session -/

theorem touches_sessionUnlock (behalf : Nat) (session : Option Nat) (sessionId : Option String) :
    Touches (fun effect => effect.isSwitch) self (self.sessionUnlock behalf session sessionId) := by
  unfold sessionUnlock
  split
  · exact touches_emit rfl
  · exact .refl _ _

theorem touches_jumpToSession (behalf : Nat) (seatId : Option String) (existing : Nat)
    (sessionId : Option String) :
    Touches (fun effect => effect.isSwitch) self
      (self.jumpToSession around behalf seatId existing sessionId).1 := by
  unfold jumpToSession
  split
  · exact touches_sessionUnlock _ _ _
  · exact .refl _ _
  · rename_i seatId sessionId
    have hactivated : Touches (fun effect => effect.isSwitch) self
        (self.emit (.activated behalf existing seatId sessionId)) := touches_emit rfl
    dsimp only
    split
    · exact hactivated.trans (touches_sessionUnlock behalf (some existing) (some sessionId))
    · exact hactivated

theorem touches_switchToCompatibleUserSession (behalf : Nat) (failIfAlreadySwitched : Bool) :
    Touches (fun effect => effect.isSwitch) self
      (self.switchToCompatibleUserSession around behalf k failIfAlreadySwitched).1 := by
  unfold switchToCompatibleUserSession
  split
  · exact .refl _ _
  · split
    · exact .refl _ _
    · split
      · exact touches_crash
      · exact touches_jumpToSession _ _ _ _

/-! ## The signals of the session of a display -/

theorem touches_queueStartUserSession (serviceName : String) :
    Touches P self (self.queueStartUserSession k serviceName) := by
  have hqueued : Touches P self
      { self with idle := self.idle ++ [IdleOperation.startUserSession k serviceName] } :=
    .of_eq rfl rfl rfl rfl rfl
  exact hqueued.trans arranges_refSession.touches

theorem touches_startUserSessionIfReady (serviceName : String) :
    Touches P self (self.startUserSessionIfReady k serviceName) := by
  unfold startUserSessionIfReady
  split
  · exact .refl _ _
  · have hnoted : Touches P self (self.modifySession k fun t =>
        { t with waitingToStart := !t.startWhenReady }) :=
      touches_modifySession (fun _ => rfl) (fun _ => rfl) (fun _ => rfl) fun _ => rfl
    dsimp only
    split
    · exact hnoted.trans (touches_queueStartUserSession _)
    · exact hnoted

theorem touches_onSessionClientReadyForSessionToStart (serviceName : String)
    (clientIsReady : Bool) :
    Touches P self (self.onSessionClientReadyForSessionToStart k serviceName clientIsReady) := by
  unfold onSessionClientReadyForSessionToStart
  split
  · exact .refl _ _
  · have hnoted : Touches P self (self.modifySession k fun t =>
        { t with startWhenReady := clientIsReady }) :=
      touches_modifySession (fun _ => rfl) (fun _ => rfl) (fun _ => rfl) fun _ => rfl
    dsimp only
    split
    · exact hnoted.trans (touches_startUserSessionIfReady _)
    · exact hnoted

theorem touches_queueSessionReset : Touches P self (self.queueSessionReset k) := by
  unfold queueSessionReset
  split
  · exact .refl _ _
  · split
    · exact .refl _ _
    · have hqueued : Touches P self
          { self with idle := self.idle ++ [IdleOperation.resetSession k] } :=
        .of_eq rfl rfl rfl rfl rfl
      exact (hqueued.trans arranges_refSession.touches).trans
        (touches_modifySession (fun _ => rfl) (fun _ => rfl) (fun _ => rfl) fun _ => rfl)

theorem touches_onStopConflictingSession :
    Touches (fun effect => effect.isTermination) self
      (self.onStopConflictingSession around) := by
  unfold onStopConflictingSession
  induction around.conflictingSessions generalizing self with
  | nil => exact .refl _ _
  | cons sessionId rest ih =>
    have hterminated : Touches (fun effect => effect.isTermination) self
        (self.emit (.terminated sessionId)) := touches_emit rfl
    exact hterminated.trans ih

theorem touches_onSessionReauthenticated (pidOfCaller : Int) :
    Touches (fun effect => effect.isSwitch) self
      (self.onSessionReauthenticated around k pidOfCaller) := by
  unfold onSessionReauthenticated
  split
  · exact touches_crash
  · exact (arranges_onDisplay (fun _ => arranges_redirectRemoteDisplay _) _).touches.trans
      (touches_switchToCompatibleUserSession _ _)

/-! ## The signals of a session for reauthentication -/

theorem touches_dropTransientSession (pid : Int) :
    Touches P self (self.dropTransientSession pid) := by
  unfold dropTransientSession
  split
  · exact .refl _ _
  · have hdropped : Touches P self { self with
        transientSessions := self.transientSessions.filter fun entry => entry.1 ≠ pid } :=
      .of_eq rfl rfl rfl rfl rfl
    exact hdropped.trans arranges_unrefSession.touches

theorem touches_closeTransientSession : Touches P self (self.closeTransientSession k) := by
  unfold closeTransientSession
  split
  · exact .refl _ _
  · exact touches_dropTransientSession _

theorem touches_onReauthenticationClientRejected (isOwnClient : Bool) :
    Touches P self (self.onReauthenticationClientRejected k isOwnClient) := by
  unfold onReauthenticationClientRejected
  split
  · exact .refl _ _
  · split
    · exact touches_closeTransientSession
    · exact .refl _ _

theorem touches_onReauthenticationVerificationComplete :
    Touches (fun effect => effect.isSwitch) self
      (self.onReauthenticationVerificationComplete around k) := by
  unfold onReauthenticationVerificationComplete
  split
  · exact .refl _ _
  · refine Touches.trans ?_ touches_closeTransientSession
    split
    · exact touches_switchToCompatibleUserSession _ _
    · exact touches_sessionUnlock _ _ _

theorem touches_handleTransient (isOwnClient : Bool) (signal : SessionSignal) :
    Touches (fun effect => effect.isSwitch) self
      (self.handleTransient around k isOwnClient signal) := by
  cases signal with
  | clientDisconnected _ => exact touches_closeTransientSession
  | cancelled => exact touches_closeTransientSession
  | clientRejected _ => exact touches_onReauthenticationClientRejected _
  | verificationComplete _ => exact touches_onReauthenticationVerificationComplete
  | _ => exact .refl _ _

end GdmManager

end Gdm
