import Gdm.Manager.Bijection

/-!
# What the pointers leave alone

Displays come and go, and pointers are moved from one to another.  None of this does
anything to a session that is referred to, or writes anything in the books of the
manager: at most sessions without conversations are disposed of, and new ones are
created.
-/

namespace Gdm

/-- Whom a session is for: what it is created with. -/
def ManagedSession.origin (s : ManagedSession) : Nat × String × Option String × Int :=
  (s.allowedUser, s.serverAddress, s.callerSessionId, s.callerPid)

/-- How far a session is on the way to its start, or to a reset. -/
def ManagedSession.flags (s : ManagedSession) : Bool × Bool × Bool :=
  (s.startWhenReady, s.waitingToStart, s.resetSessionOperation)

/-- The data of a session that have nothing to do with pointers. -/
def ManagedSession.marks (s : ManagedSession) :
    (Nat × String × Option String × Int) × Bool × Bool × Bool :=
  (s.origin, s.flags)

/-- A session that is left alone, or disposed of for want of references. -/
def ManagedSession.Retained (s s' : ManagedSession) : Prop :=
  s'.session = s.session ∧ s'.disposed = s.disposed ∧ s'.userSession = s.userSession ∨
    s.disposed = false ∧ s.session.conversations = [] ∧ s'.disposed = true ∧
      s'.userSession = none ∧ s'.session = s.session.step (.owner .close, {})

/-- The calls that set up a session which has just been created, or close it. -/
def OwnerCall.isSetUp : OwnerCall → Bool
  | setDisplayIsInitial _ | startConversation _ | close => true
  | _ => false

/-- A session for a display that has had no time to do anything. -/
structure ManagedSession.Fresh (s : ManagedSession) : Prop where
  startWhenReady : s.startWhenReady = false
  waitingToStart : s.waitingToStart = false
  resetSessionOperation : s.resetSessionOperation = false
  userSession : s.userSession = none
  session : ∃ (start : GdmSession) (calls : List (OwnerCall × Surroundings)),
    GdmSession.machine.Start start ∧ start.owner = .userSession ∧
    (∀ call ∈ calls, call.1.isSetUp = true) ∧
    s.session = GdmSession.machine.run start (calls.map fun call => (.owner call.1, call.2))

theorem ManagedSession.Retained.refl (s : ManagedSession) : s.Retained s :=
  .inl ⟨rfl, rfl, rfl⟩

theorem ManagedSession.Retained.trans {s s' s'' : ManagedSession} (h : s.Retained s')
    (h' : s'.Retained s'') : s.Retained s'' := by
  rcases h with ⟨hsession, hdisposed, huser⟩ | ⟨hlive, hempty, hdisposed, huser, hsession⟩
  · unfold Retained at h' ⊢
    rwa [hsession, hdisposed, huser] at h'
  · rcases h' with ⟨hsession', hdisposed', huser'⟩ | ⟨hlive, _⟩
    · exact .inr ⟨hlive, hempty, hdisposed'.trans hdisposed, huser'.trans huser,
        hsession'.trans hsession⟩
    · rw [hdisposed] at hlive
      cases hlive

/-- A session that has not been disposed of in the end has been left alone. -/
theorem ManagedSession.Retained.session {s s' : ManagedSession} (h : s.Retained s')
    (hlive : s'.disposed = false) : s'.session = s.session ∧ s.disposed = false := by
  rcases h with ⟨hsession, hdisposed, _⟩ | ⟨_, _, hgone, _⟩
  · exact ⟨hsession, hdisposed.symm.trans hlive⟩
  · rw [hlive] at hgone
    cases hgone

theorem ManagedSession.Retained.owner {s s' : ManagedSession} (h : s.Retained s') :
    s'.session.owner = s.session.owner := by
  rcases h with ⟨hsession, _⟩ | ⟨_, _, _, _, hsession⟩
  · rw [hsession]
  · rw [hsession]
    unfold GdmSession.step
    split <;> rfl

theorem ManagedSession.retained_dispose {s : ManagedSession} (h : s.isUnreferenced = true) :
    s.Retained s.dispose := by
  simp only [isUnreferenced, Bool.and_eq_true, decide_eq_true_eq, List.isEmpty_iff,
    Bool.not_eq_true'] at h
  exact .inr ⟨h.2, h.1.2, rfl, rfl, rfl⟩

theorem ManagedSession.Fresh.retained {s s' : ManagedSession} (h : s.Fresh)
    (hretained : s.Retained s') (hmarks : s'.marks = s.marks) : s'.Fresh := by
  simp only [marks, flags, Prod.mk.injEq] at hmarks
  obtain ⟨_, hready, hwaiting, hreset⟩ := hmarks
  obtain ⟨start, calls, hstart, howner, hcalls, hrun⟩ := h.session
  refine ⟨hready.trans h.startWhenReady, hwaiting.trans h.waitingToStart,
    hreset.trans h.resetSessionOperation, ?_, ?_⟩
  · rcases hretained with ⟨_, _, huser⟩ | ⟨_, _, _, huser, _⟩
    · exact huser.trans h.userSession
    · exact huser
  · rcases hretained with ⟨hsession, _⟩ | ⟨_, _, _, _, hsession⟩
    · exact ⟨start, calls, hstart, howner, hcalls, hsession.trans hrun⟩
    · refine ⟨start, calls ++ [(.close, ({} : Surroundings))], hstart, howner, ?_, ?_⟩
      · intro call hcall
        rcases List.mem_append.mp hcall with hcall | hcall
        · exact hcalls call hcall
        · rw [List.mem_singleton.mp hcall]
          rfl
      · rw [hsession, hrun, List.map_append, GdmSession.machine.run_append]
        rfl

theorem ManagedSession.Fresh.call {s : ManagedSession} (h : s.Fresh) {call : OwnerCall}
    (hcall : call.isSetUp = true) (around : Surroundings) :
    ({ s with session := s.session.step (.owner call, around) } : ManagedSession).Fresh := by
  obtain ⟨start, calls, hstart, howner, hcalls, hrun⟩ := h.session
  refine ⟨h.startWhenReady, h.waitingToStart, h.resetSessionOperation, h.userSession, start,
    calls ++ [(call, around)], hstart, howner, ?_, ?_⟩
  · intro c hc
    rcases List.mem_append.mp hc with hc | hc
    · exact hcalls c hc
    · rw [List.mem_singleton.mp hc]
      exact hcall
  · rw [List.map_append, GdmSession.machine.run_append, ← hrun]
    rfl

namespace GdmManager

variable {self self' self'' : GdmManager} {around : ManagerSurroundings} {k d : Nat}

/-- What the manager keeps next to sessions, displays and lookups. -/
def books (self : GdmManager) : List Nat × List (Int × Nat) × List (Int × Nat) ×
    List IdleOperation × Nat × Bool × List ManagerEffect :=
  (self.userSessions, self.transientSessions, self.openReauthenticationRequests, self.idle,
    self.nextInvocation, self.crashed, self.log)

/-- Each session is left alone or disposed of, and the new ones are fresh. -/
structure Retains (m m' : GdmManager) : Prop where
  sessions : ∀ (j : Nat) (s : ManagedSession), m.sessions[j]? = some s →
    ∃ s', m'.sessions[j]? = some s' ∧ s.Retained s' ∧ s'.origin = s.origin
  fresh : ∀ (j : Nat) (s' : ManagedSession), m'.sessions[j]? = some s' → m.sessions[j]? = none →
    ∃ s : ManagedSession, s.Fresh ∧ s.Retained s' ∧ s'.origin = s.origin

/-- Only displays and pointers have been arranged. -/
structure Arranges (m m' : GdmManager) : Prop where
  sessions : ∀ (j : Nat) (s : ManagedSession), m.sessions[j]? = some s →
    ∃ s', m'.sessions[j]? = some s' ∧ s.Retained s' ∧ s'.marks = s.marks
  fresh : ∀ (j : Nat) (s' : ManagedSession), m'.sessions[j]? = some s' → m.sessions[j]? = none →
    s'.Fresh
  books : m'.books = m.books

theorem Retains.refl (self : GdmManager) : Retains self self where
  sessions _ s hs := ⟨s, hs, .refl s, rfl⟩
  fresh j s' hs' hnone := by
    rw [hnone] at hs'
    cases hs'

theorem Retains.trans (h : Retains self self') (h' : Retains self' self'') :
    Retains self self'' where
  sessions := by
    intro j s hs
    obtain ⟨s', hs', hretained, horigin⟩ := h.sessions j s hs
    obtain ⟨s'', hs'', hretained', horigin'⟩ := h'.sessions j s' hs'
    exact ⟨s'', hs'', hretained.trans hretained', horigin'.trans horigin⟩
  fresh := by
    intro j s'' hs'' hnone
    cases hs' : self'.sessions[j]? with
    | none => exact h'.fresh j s'' hs'' hs'
    | some s' =>
      obtain ⟨t, ht, hretained, horigin⟩ := h'.sessions j s' hs'
      rw [hs''] at ht
      cases ht
      obtain ⟨s, hfresh, hretained', horigin'⟩ := h.fresh j s' hs' hnone
      exact ⟨s, hfresh, hretained'.trans hretained, horigin.trans horigin'⟩

theorem Retains.of_eq (h : self'.sessions = self.sessions) : Retains self self' where
  sessions _ s hs := ⟨s, h ▸ hs, .refl s, rfl⟩
  fresh j s' hs' hnone := by
    rw [h, hnone] at hs'
    cases hs'

theorem Retains.modifySession {f : ManagedSession → ManagedSession}
    (hf : ∀ s, self.sessions[k]? = some s → s.Retained (f s) ∧ (f s).origin = s.origin) :
    Retains self (self.modifySession k f) where
  sessions := by
    intro j s hs
    rw [getElem?_modifySession]
    split
    · rename_i hkj
      subst hkj
      exact ⟨f s, by rw [hs]; rfl, hf s hs⟩
    · exact ⟨s, hs, .refl s, rfl⟩
  fresh := by
    intro j s' hs' hnone
    rw [getElem?_modifySession, hnone] at hs'
    split at hs' <;> cases hs'

theorem Arranges.retains (h : Arranges self self') : Retains self self' where
  sessions := by
    intro j s hs
    obtain ⟨s', hs', hretained, hmarks⟩ := h.sessions j s hs
    exact ⟨s', hs', hretained, congrArg Prod.fst hmarks⟩
  fresh := by
    intro j s' hs' hnone
    exact ⟨s', h.fresh j s' hs' hnone, .refl s', rfl⟩

theorem Arranges.refl (self : GdmManager) : Arranges self self where
  sessions _ s hs := ⟨s, hs, .refl s, rfl⟩
  fresh j s' hs' hnone := by
    rw [hnone] at hs'
    cases hs'
  books := rfl

theorem Arranges.trans (h : Arranges self self') (h' : Arranges self' self'') :
    Arranges self self'' where
  sessions := by
    intro j s hs
    obtain ⟨s', hs', hretained, hmarks⟩ := h.sessions j s hs
    obtain ⟨s'', hs'', hretained', hmarks'⟩ := h'.sessions j s' hs'
    exact ⟨s'', hs'', hretained.trans hretained', hmarks'.trans hmarks⟩
  fresh := by
    intro j s'' hs'' hnone
    cases hs' : self'.sessions[j]? with
    | none => exact h'.fresh j s'' hs'' hs'
    | some s' =>
      obtain ⟨t, ht, hretained, hmarks⟩ := h'.sessions j s' hs'
      rw [hs''] at ht
      cases ht
      exact (h.fresh j s' hs' hnone).retained hretained hmarks
  books := h'.books.trans h.books

theorem Arranges.userSessions (h : Arranges self self') :
    self'.userSessions = self.userSessions :=
  congrArg Prod.fst h.books

theorem Arranges.transientSessions (h : Arranges self self') :
    self'.transientSessions = self.transientSessions :=
  congrArg (fun b => b.2.1) h.books

theorem Arranges.openReauthenticationRequests (h : Arranges self self') :
    self'.openReauthenticationRequests = self.openReauthenticationRequests :=
  congrArg (fun b => b.2.2.1) h.books

theorem Arranges.idle (h : Arranges self self') : self'.idle = self.idle :=
  congrArg (fun b => b.2.2.2.1) h.books

theorem Arranges.nextInvocation (h : Arranges self self') :
    self'.nextInvocation = self.nextInvocation :=
  congrArg (fun b => b.2.2.2.2.1) h.books

theorem Arranges.crashed (h : Arranges self self') : self'.crashed = self.crashed :=
  congrArg (fun b => b.2.2.2.2.2.1) h.books

theorem Arranges.log (h : Arranges self self') : self'.log = self.log :=
  congrArg (fun b => b.2.2.2.2.2.2) h.books

/-- Displays and lookups are no session, and not in the books. -/
theorem Arranges.of_eq (hsessions : self'.sessions = self.sessions)
    (hbooks : self'.books = self.books) : Arranges self self' where
  sessions _ s hs := ⟨s, hsessions ▸ hs, .refl s, rfl⟩
  fresh j s' hs' hnone := by
    rw [hsessions, hnone] at hs'
    cases hs'
  books := hbooks

theorem Arranges.modifySession {f : ManagedSession → ManagedSession}
    (hf : ∀ s, self.sessions[k]? = some s → s.Retained (f s) ∧ (f s).marks = s.marks) :
    Arranges self (self.modifySession k f) where
  sessions := by
    intro j s hs
    rw [getElem?_modifySession]
    split
    · rename_i hkj
      subst hkj
      exact ⟨f s, by rw [hs]; rfl, hf s hs⟩
    · exact ⟨s, hs, .refl s, rfl⟩
  fresh := by
    intro j s' hs' hnone
    rw [getElem?_modifySession, hnone] at hs'
    split at hs' <;> cases hs'
  books := rfl

theorem Arranges.modifyDisplay (f : GdmDisplay → GdmDisplay) :
    Arranges self (self.modifyDisplay d f) :=
  .of_eq rfl rfl

/-- What a session is changed into keeps its own data. -/
theorem arranges_tie {f : ManagedSession → ManagedSession}
    (hsession : ∀ s, (f s).session = s.session) (hdisposed : ∀ s, (f s).disposed = s.disposed)
    (huser : ∀ s, (f s).userSession = s.userSession) (hmarks : ∀ s, (f s).marks = s.marks) :
    Arranges self (self.modifySession k f) :=
  .modifySession fun s _ => ⟨.inl ⟨hsession s, hdisposed s, huser s⟩, hmarks s⟩

/-! ## References -/

theorem arranges_refSession : Arranges self (self.refSession k) :=
  arranges_tie (fun _ => rfl) (fun _ => rfl) (fun _ => rfl) fun _ => rfl

theorem arranges_disposeIfUnreferenced : Arranges self (self.disposeIfUnreferenced k) := by
  refine .modifySession fun s _ => ?_
  split
  · rename_i hunreferenced
    exact ⟨s.retained_dispose hunreferenced, rfl⟩
  · exact ⟨.refl s, rfl⟩

theorem arranges_unref :
    Arranges self (self.modifySession k fun s => { s with refs := s.refs - 1 }) :=
  arranges_tie (fun _ => rfl) (fun _ => rfl) (fun _ => rfl) fun _ => rfl

theorem arranges_collectSession : Arranges self (self.collectSession k) := by
  unfold collectSession
  split
  · exact .refl self
  · split
    · exact arranges_disposeIfUnreferenced
    · exact (arranges_disposeIfUnreferenced.trans arranges_unref).trans
        arranges_disposeIfUnreferenced

theorem arranges_unrefSession : Arranges self (self.unrefSession k) :=
  arranges_unref.trans arranges_collectSession

/-! ## The session of a display -/

theorem arranges_clearDisplay :
    Arranges self (self.modifySession k fun s => { s with gdmDisplay := none }) :=
  arranges_tie (fun _ => rfl) (fun _ => rfl) (fun _ => rfl) fun _ => rfl

theorem arranges_setUserSession (session : Option Nat) :
    Arranges self (self.setUserSession d session) := by
  unfold setUserSession
  split
  · exact .modifyDisplay _
  · exact (Arranges.modifyDisplay _).trans (arranges_clearDisplay.trans arranges_unrefSession)

/-- A new session for a display is a fresh one. -/
theorem arranges_append {s : ManagedSession} (hs : s.Fresh) :
    Arranges self { self with sessions := self.sessions ++ [s] } where
  sessions j t ht := by
    have hlt : j < self.sessions.length := (List.getElem?_eq_some_iff.mp ht).1
    exact ⟨t, (List.getElem?_append_left hlt).trans ht, .refl t, rfl⟩
  fresh j t ht hnone := by
    rcases getElem?_concat ht with hold | ⟨_, rfl⟩
    · rw [hnone] at hold
      cases hold
    · exact hs
  books := rfl

theorem arranges_createUserSessionForDisplay (display : Option Nat) (allowedUser : Nat) :
    Arranges self (self.createUserSessionForDisplay around display allowedUser) := by
  unfold createUserSessionForDisplay
  dsimp only
  cases display with
  | none =>
    exact arranges_append ⟨rfl, rfl, rfl, rfl, _, [], ⟨_, _, _, _, _, rfl⟩, rfl, by simp, rfl⟩
  | some d =>
    refine .trans ?_ (arranges_setUserSession _)
    exact arranges_append ⟨rfl, rfl, rfl, rfl, _, [], ⟨_, _, _, _, _, rfl⟩, rfl, by simp, rfl⟩

theorem arranges_createDisplayForUserSession (sessionId : Option String) :
    Arranges self (self.createDisplayForUserSession k sessionId) := by
  unfold createDisplayForUserSession
  split
  · exact .refl self
  · have htied : Arranges self (self.modifySession k fun s =>
        { s with gdmDisplay := some self.displays.length, refs := s.refs + 1 }) :=
      arranges_tie (fun _ => rfl) (fun _ => rfl) (fun _ => rfl) fun _ => rfl
    exact htied.trans (.of_eq rfl rfl)

/-! ## The end of a display -/

theorem arranges_disposeDisplay : Arranges self (self.disposeDisplay d) := by
  have hcleared : Arranges self { self with
      automaticLoginDisplay := self.automaticLoginDisplay.filter (· ≠ d) } := .of_eq rfl rfl
  exact hcleared.trans (arranges_setUserSession none)

theorem arranges_unrefDisplay : Arranges self (self.unrefDisplay d) := by
  unfold unrefDisplay
  split
  · exact .refl self
  · split
    · exact arranges_disposeDisplay.trans (.modifyDisplay _)
    · exact .modifyDisplay _

theorem arranges_removeDisplay : Arranges self (self.removeDisplay d) := by
  unfold removeDisplay
  split
  · exact .refl self
  · split
    · exact (Arranges.modifyDisplay _).trans arranges_unrefDisplay
    · exact .refl self

theorem arranges_onDisplayEnded : Arranges self (self.onDisplayEnded d) := by
  unfold onDisplayEnded
  dsimp only
  split
  · exact (arranges_setUserSession none).trans (.of_eq rfl rfl)
  · exact arranges_setUserSession none

theorem arranges_setEndStatus (status : GdmDisplayStatus) :
    Arranges self (self.setEndStatus d status) := by
  unfold setEndStatus
  split
  · exact .refl self
  · dsimp only
    split
    · exact .refl self
    · split
      · exact (Arranges.modifyDisplay _).trans arranges_onDisplayEnded
      · exact .modifyDisplay _

theorem arranges_unmanageDisplay : Arranges self (self.unmanageDisplay d) := by
  unfold unmanageDisplay
  split
  · exact .refl self
  · exact arranges_setEndStatus _

theorem arranges_finishDisplay : Arranges self (self.finishDisplay d) :=
  arranges_setEndStatus _

/-- What is done to a display arranges, if it does so for each. -/
theorem arranges_onDisplay {act : GdmManager → Nat → GdmManager}
    (hact : ∀ d, Arranges self (act self d)) (display : Option Nat) :
    Arranges self (self.onDisplay display act) := by
  unfold onDisplay
  split
  · exact .refl self
  · exact hact _

theorem arranges_endDisplay : Arranges self (self.endDisplay d) := by
  unfold endDisplay
  dsimp only
  split
  · exact arranges_unmanageDisplay.trans arranges_finishDisplay
  · exact arranges_unmanageDisplay

/-! ## Setting up displays -/

/-- A session that has not been there before is set up. -/
theorem Arranges.call (h : Arranges self self') (hnew : self.sessions[k]? = none)
    {call : OwnerCall} (hcall : call.isSetUp = true) :
    Arranges self (self'.callSession k around call) where
  sessions := by
    intro j s hs
    have hne : k ≠ j := by
      rintro rfl
      rw [hnew] at hs
      cases hs
    unfold callSession
    rw [getElem?_modifySession, if_neg hne]
    exact h.sessions j s hs
  fresh := by
    intro j s' hs' hnone
    unfold callSession at hs'
    rw [getElem?_modifySession] at hs'
    split at hs'
    · obtain ⟨s, hs, rfl⟩ := Option.map_eq_some_iff.mp hs'
      exact (h.fresh _ s hs hnone).call hcall _
    · exact h.fresh j s' hs' hnone
  books := h.books

theorem arranges_setUpAutomaticLoginSession :
    Arranges self (self.setUpAutomaticLoginSession around d) := by
  have hnew : self.sessions[self.sessions.length]? = none := List.getElem?_eq_none (Nat.le_refl _)
  exact ((arranges_createUserSessionForDisplay (some d) 0).call hnew rfl).call hnew rfl

theorem arranges_setUpGreeterSession : Arranges self (self.setUpGreeterSession around d) := by
  unfold setUpGreeterSession
  split
  · exact arranges_unmanageDisplay.trans arranges_finishDisplay
  · exact arranges_createUserSessionForDisplay _ _

theorem arranges_setUpAutomaticLoginSessionIfUserExists (userExists : Bool) :
    Arranges self (self.setUpAutomaticLoginSessionIfUserExists around d userExists) := by
  unfold setUpAutomaticLoginSessionIfUserExists
  split
  · exact arranges_setUpAutomaticLoginSession
  · exact arranges_setUpGreeterSession

theorem arranges_setUpSession : Arranges self (self.setUpSession around d) := by
  unfold setUpSession
  split
  · exact arranges_setUpGreeterSession
  · split
    · exact arranges_setUpAutomaticLoginSessionIfUserExists _
    · exact .of_eq rfl rfl

theorem arranges_onUserIsLoadedChanged (userExists : Bool) :
    Arranges self (self.onUserIsLoadedChanged around d userExists) := by
  unfold onUserIsLoadedChanged
  split
  · have hfound : Arranges self { self with lookups := self.lookups.erase d } := .of_eq rfl rfl
    exact (hfound.trans (arranges_setUpAutomaticLoginSessionIfUserExists _)).trans
      arranges_unrefDisplay
  · exact .refl self

theorem arranges_onDisplayStatusChanged (x : GdmDisplay) (status : GdmDisplayStatus) :
    Arranges self (self.onDisplayStatusChanged around d x status) := by
  cases status with
  | prepared =>
    simp only [onDisplayStatusChanged]
    split
    · exact arranges_setUpSession
    · exact .refl self
  | failed => exact arranges_onDisplayEnded
  | unmanaged => exact arranges_onDisplayEnded
  | finished => exact arranges_onDisplayEnded
  | managed => exact .refl self
  | waitingToFinish => exact .refl self

theorem arranges_setDisplayStatus (status : GdmDisplayStatus) :
    Arranges self (self.setDisplayStatus around d status) := by
  unfold setDisplayStatus
  split
  · exact .refl self
  · dsimp only
    split
    · exact .refl self
    · split
      · exact (Arranges.modifyDisplay _).trans (arranges_onDisplayStatusChanged _ _)
      · exact .modifyDisplay _

/-! ## A session that moves -/

theorem arranges_keepDisplay : Arranges self (self.keepDisplay around d) := by
  unfold keepDisplay
  split
  · exact .refl self
  · dsimp only
    split
    · exact (Arranges.modifyDisplay _).trans (arranges_setDisplayStatus _)
    · exact .modifyDisplay _

theorem arranges_untieSession (display : Option Nat) :
    Arranges self (self.untieSession k display) :=
  (arranges_onDisplay (fun _ => arranges_setUserSession none) display).trans arranges_clearDisplay

theorem arranges_dropGreeterDisplay (serviceName : String) (display : Option Nat) :
    Arranges self (self.dropGreeterDisplay k serviceName display) := by
  unfold dropGreeterDisplay
  split
  · exact (arranges_onDisplay (fun _ => arranges_removeDisplay) display).trans (.of_eq rfl rfl)
  · exact .refl self

theorem arranges_moveToOwnDisplay (serviceName : String) :
    Arranges self (self.moveToOwnDisplay around k serviceName) := by
  unfold moveToOwnDisplay
  split
  · exact .refl self
  · rename_i s _
    have hkept : Arranges self
        (self.onDisplay s.gdmDisplay fun self d => self.keepDisplay around d) :=
      arranges_onDisplay (fun _ => arranges_keepDisplay) s.gdmDisplay
    have huntied := hkept.trans (arranges_untieSession (k := k) s.gdmDisplay)
    have hcreated : Arranges self
        (((self.onDisplay s.gdmDisplay fun self d => self.keepDisplay around d).untieSession k
          s.gdmDisplay).createUserSessionForDisplay around s.gdmDisplay s.allowedUser) :=
      huntied.trans (arranges_createUserSessionForDisplay s.gdmDisplay s.allowedUser)
    have hgiven := hcreated.trans (arranges_createDisplayForUserSession (k := k)
      (s.session.getConversationSessionId serviceName))
    exact (hgiven.trans (arranges_dropGreeterDisplay (k := k) serviceName s.gdmDisplay)).trans
      (arranges_onDisplay (fun _ => arranges_unrefDisplay) s.gdmDisplay)

theorem arranges_redirectRemoteDisplay (sessionId : Option String) :
    Arranges self (self.redirectRemoteDisplay d sessionId) := by
  unfold redirectRemoteDisplay
  split
  · exact .refl self
  · split
    · exact arranges_onDisplay (fun _ => .modifyDisplay _) _
    · exact .refl self

theorem arranges_rememberCaller (details : SenderDetails) :
    Arranges self (self.rememberCaller details) := by
  unfold rememberCaller
  split
  · exact arranges_onDisplay (fun _ => .modifyDisplay _) _
  · exact .refl self

end GdmManager

end Gdm
