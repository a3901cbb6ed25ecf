import Gdm.Manager.Links

/-!
# The bijection of displays and sessions

Every handler of the manager keeps displays and sessions linked, and so in every run
the pointers between them are inverse to each other and never dangle.
-/

namespace Gdm

namespace GdmManager

variable {self self' : GdmManager} {around : ManagerSurroundings} {ks ds : List Nat} {k d : Nat}

/-! ## Setting up displays -/

theorem Linked.refDisplay (h : Linked ks ds self) {x : GdmDisplay}
    (hx : self.displays[d]? = some x) :
    Linked ks (d :: ds) (self.modifyDisplay d fun x => { x with refs := x.refs + 1 }) := by
  have hstored := h.stored d x hx
  refine h.recountDisplay hx (fun _ => rfl) ?_ ?_ ?_
  · intro e he
    exact Nat.le_of_eq (List.count_cons_of_ne (Ne.symm he))
  · rw [List.cons_append, List.count_cons_self]
    show (ds ++ self.lookups).count d + 1 + x.stored.toNat ≤ x.refs + 1
    omega
  · intro hzero
    cases hzero

theorem Linked.setUpAutomaticLoginSession (h : Linked ks ds self) {x : GdmDisplay}
    (hx : self.displays[d]? = some x) (hrefs : 0 < x.refs) :
    Linked ks ds (self.setUpAutomaticLoginSession around d) :=
  ((h.createUserSessionForDisplay hx hrefs 0).callSession _).callSession _

theorem Linked.setUpGreeterSession (h : Linked ks ds self) {x : GdmDisplay}
    (hx : self.displays[d]? = some x) (hrefs : 0 < x.refs) :
    Linked ks ds (self.setUpGreeterSession around d) := by
  unfold GdmManager.setUpGreeterSession
  split
  · exact h.unmanageDisplay.finishDisplay
  · exact h.createUserSessionForDisplay hx hrefs _

theorem Linked.setUpAutomaticLoginSessionIfUserExists (h : Linked ks ds self) {x : GdmDisplay}
    (hx : self.displays[d]? = some x) (hrefs : 0 < x.refs) (userExists : Bool) :
    Linked ks ds (self.setUpAutomaticLoginSessionIfUserExists around d userExists) := by
  unfold GdmManager.setUpAutomaticLoginSessionIfUserExists
  split
  · exact h.setUpAutomaticLoginSession hx hrefs
  · exact h.setUpGreeterSession hx hrefs

theorem Linked.lookUpUser (h : Linked ks ds self) {x : GdmDisplay}
    (hx : self.displays[d]? = some x) : Linked ks ds (self.lookUpUser d) := by
  refine (h.refDisplay hx).rearrange rfl rfl (fun _ => Nat.le_refl _) ?_
  intro e
  simp only [GdmManager.lookUpUser, GdmManager.modifyDisplay, List.count_append,
    List.count_cons, List.count_nil]
  omega

theorem Linked.setUpSession (h : Linked ks ds self) {x : GdmDisplay}
    (hx : self.displays[d]? = some x) (hrefs : 0 < x.refs) :
    Linked ks ds (self.setUpSession around d) := by
  unfold GdmManager.setUpSession
  split
  · exact h.setUpGreeterSession hx hrefs
  · split
    · exact h.setUpAutomaticLoginSessionIfUserExists hx hrefs _
    · exact h.lookUpUser hx

theorem Linked.onUserIsLoadedChanged (h : Linked ks ds self) (userExists : Bool) :
    Linked ks ds (self.onUserIsLoadedChanged around d userExists) := by
  unfold GdmManager.onUserIsLoadedChanged
  split
  · rename_i hd
    have htaken : Linked ks (d :: ds) { self with lookups := self.lookups.erase d } := by
      refine h.rearrange rfl rfl (fun _ => Nat.le_refl _) ?_
      intro e
      have hperm := (List.perm_cons_erase hd).count_eq e
      simp only [List.cons_append, List.count_cons, List.count_append] at hperm ⊢
      omega
    obtain ⟨x, hx, hrefs⟩ := htaken.exists_display (d := d) (by simp)
    exact (htaken.setUpAutomaticLoginSessionIfUserExists hx hrefs userExists).unrefDisplay
  · exact h

theorem Linked.onDisplayStatusChanged (h : Linked ks ds self) {x y : GdmDisplay}
    (hx : self.displays[d]? = some x) (hrefs : 0 < x.refs) (status : GdmDisplayStatus) :
    Linked ks ds (self.onDisplayStatusChanged around d y status) := by
  cases status with
  | prepared =>
    simp only [GdmManager.onDisplayStatusChanged]
    split
    · exact h.setUpSession hx hrefs
    · exact h
  | failed => exact h.onDisplayEnded
  | unmanaged => exact h.onDisplayEnded
  | finished => exact h.onDisplayEnded
  | managed => exact h
  | waitingToFinish => exact h

theorem Linked.setDisplayStatus (h : Linked ks ds self) (status : GdmDisplayStatus) :
    Linked ks ds (self.setDisplayStatus around d status) := by
  unfold GdmManager.setDisplayStatus
  split
  · exact h
  · rename_i x hx
    split
    · exact h
    · have hchanged : Linked ks ds (self.modifyDisplay d fun x => { x with status := status }) :=
        h.modifyDisplay fun _ => rfl
      split
      · rename_i hstored
        have hcounted := h.stored d x hx
        rw [hstored] at hcounted
        have hx' : (self.modifyDisplay d fun x => { x with status := status }).displays[d]? =
            some { x with status := status } := by
          rw [getElem?_modifyDisplay, if_pos rfl, hx]
          rfl
        have hrefs : 0 < x.refs := by simp at hcounted; omega
        exact hchanged.onDisplayStatusChanged hx' hrefs status
      · exact hchanged

theorem Linked.addDisplay (h : Linked ks ds self) (x : GdmDisplay) :
    Linked ks ds (self.addDisplay x) :=
  h.appendDisplay rfl (by simp)

/-! ## Starting a session -/

theorem Linked.emit (h : Linked ks ds self) (effect : ManagerEffect) :
    Linked ks ds (self.emit effect) :=
  h.of_eq rfl rfl rfl rfl

theorem Linked.crash (h : Linked ks ds self) : Linked ks ds self.crash :=
  h.of_eq rfl rfl rfl rfl

theorem Linked.sessionUnlock (h : Linked ks ds self) (behalf : Nat) (session : Option Nat)
    (sessionId : Option String) : Linked ks ds (self.sessionUnlock behalf session sessionId) := by
  unfold GdmManager.sessionUnlock
  split
  · exact h.emit _
  · exact h

theorem Linked.switchToCompatibleUserSession (h : Linked ks ds self) (behalf : Nat)
    (failIfAlreadySwitched : Bool) :
    Linked ks ds
      (self.switchToCompatibleUserSession around behalf k failIfAlreadySwitched).1 := by
  unfold GdmManager.switchToCompatibleUserSession
  split
  · exact h
  · split
    · exact h
    · split
      · exact h.crash
      · unfold jumpToSession
        split
        · exact h.sessionUnlock _ _ _
        · exact h
        · simp only
          split
          · dsimp only
            exact (h.emit _).sessionUnlock _ _ _
          · exact h.emit _

/-- A session that a handler refers to has not been disposed of. -/
theorem Linked.session_of_mem (h : Linked ks ds self) (hk : k ∈ ks) :
    ∃ s, self.sessions[k]? = some s ∧ s.disposed = false :=
  h.exists_session (List.mem_append_left _ hk)

theorem createUserSessionForDisplay_displays (display : Option Nat) (allowedUser : Nat) :
    (self.createUserSessionForDisplay around display allowedUser).displays =
      match display with
      | none => self.displays
      | some d => self.displays.modify d fun x =>
        { x with userSession := some self.sessions.length } := by
  cases display with
  | none => rfl
  | some d => exact setUserSession_displays _

/-- A session that points nowhere still does when other displays have been given to other
sessions. -/
theorem Linked.display_none_of (h : Linked ks ds self) (hlink : Linked ks ds self')
    (hnone : self.getDisplayForUserSession k = none)
    (hdisplays : ∀ e, self'.getUserSessionForDisplay e = some k →
      self.getUserSessionForDisplay e = some k) :
    self'.getDisplayForUserSession k = none := by
  refine hlink.paired.eq_none_of_forall_ne fun e he => ?_
  have hback := (h.paired e k).mp (hdisplays e he)
  rw [hnone] at hback
  cases hback

theorem Linked.keepDisplay (h : Linked ks ds self) {x : GdmDisplay}
    (hx : self.displays[d]? = some x) : Linked ks (d :: ds) (self.keepDisplay around d) := by
  unfold GdmManager.keepDisplay
  simp only [hx]
  split
  · exact (h.refDisplay hx).setDisplayStatus _
  · exact h.refDisplay hx

/-- The manager does nothing about a display that waits for its end. -/
theorem setDisplayStatus_waitingToFinish_sessions :
    (self.setDisplayStatus around d .waitingToFinish).sessions = self.sessions := by
  unfold GdmManager.setDisplayStatus
  split
  · rfl
  · dsimp only
    split
    · rfl
    · split <;> rfl

theorem keepDisplay_sessions : (self.keepDisplay around d).sessions = self.sessions := by
  unfold GdmManager.keepDisplay
  split
  · rfl
  · dsimp only
    split
    · exact setDisplayStatus_waitingToFinish_sessions
    · rfl

theorem setUserSession_getUserSession (hx : d < self.displays.length) :
    (self.setUserSession d none).getUserSessionForDisplay =
      Function.update self.getUserSessionForDisplay d none := by
  obtain ⟨x, hx⟩ : ∃ x, self.displays[d]? = some x := ⟨_, List.getElem?_eq_getElem hx⟩
  rw [← getUserSessionForDisplay_modifyDisplay hx none]
  funext e
  unfold getUserSessionForDisplay
  rw [setUserSession_displays]
  rfl

/-- A session points nowhere when its display has let go of it. -/
theorem Linked.untied (h : Linked ks ds self) (hk : self.getDisplayForUserSession k = some d) :
    (self.setUserSession d none).getDisplayForUserSession k = none := by
  obtain ⟨x, hx, _⟩ := h.display_of_session hk
  have hupdate := setUserSession_getUserSession (List.getElem?_eq_some_iff.mp hx).1
  refine (h.setUserSession_none (d := d)).paired.eq_none_of_forall_ne fun e he => ?_
  rw [hupdate] at he
  by_cases hed : e = d
  · subst hed
    rw [Function.update_self] at he
    cases he
  · rw [Function.update_of_ne hed] at he
    have hback := (h.paired e k).mp he
    rw [hk] at hback
    exact hed (Option.some.inj hback).symm

/-- The new session of a display is not the session that leaves it. -/
theorem Linked.created_none (h : Linked ks ds self) (display : Option Nat) (allowedUser : Nat)
    (hlink : Linked ks ds (self.createUserSessionForDisplay around display allowedUser))
    (hk : k < self.sessions.length) (hnone : self.getDisplayForUserSession k = none) :
    (self.createUserSessionForDisplay around display allowedUser).getDisplayForUserSession k =
      none := by
  refine h.display_none_of hlink hnone fun e he => ?_
  unfold getUserSessionForDisplay at he ⊢
  rw [createUserSessionForDisplay_displays] at he
  cases display with
  | none => exact he
  | some d =>
    simp only [List.getElem?_modify] at he
    cases hx : self.displays[e]? with
    | none => simp [hx] at he
    | some x =>
      by_cases hde : d = e
      · subst hde
        simp only [hx, if_true, Option.map_eq_map, Option.map_some, Option.bind_some,
          Option.some.injEq] at he
        omega
      · simpa [hx, hde] using he

/-- A display that a handler refers to gets a new session. -/
theorem Linked.createForKept (h : Linked ks ds self) (around : ManagerSurroundings)
    (display : Option Nat) (hdisplay : ∀ d, display = some d → d ∈ ds) (allowedUser : Nat) :
    Linked ks ds (self.createUserSessionForDisplay around display allowedUser) := by
  cases display with
  | none => exact h.createUserSessionForNone _
  | some d =>
    obtain ⟨x, hx, hrefs⟩ := h.exists_display (List.mem_append_left _ (hdisplay d rfl))
    exact h.createUserSessionForDisplay hx hrefs _

/-- The display gets a new session and the session a new display. -/
theorem Linked.giveDisplay (h : Linked ks ds self) (hk : k ∈ ks)
    (hnone : self.getDisplayForUserSession k = none) (around : ManagerSurroundings)
    (display : Option Nat) (hdisplay : ∀ d, display = some d → d ∈ ds) (allowedUser : Nat)
    (sessionId : Option String) :
    Linked ks ds ((self.createUserSessionForDisplay around display
      allowedUser).createDisplayForUserSession k sessionId) := by
  have hcreated := h.createForKept around display hdisplay allowedUser
  have hlt : k < self.sessions.length := by
    obtain ⟨s, hs, _⟩ := h.session_of_mem hk
    exact (List.getElem?_eq_some_iff.mp hs).1
  have hfree := h.created_none display allowedUser hcreated hlt hnone
  obtain ⟨t, ht, hlive⟩ := hcreated.session_of_mem hk
  rw [getDisplayForUserSession_of_session ht] at hfree
  exact hcreated.createDisplayForUserSession ht hfree hlive sessionId

theorem Linked.clearDisplay (h : Linked ks ds self)
    (hnone : self.getDisplayForUserSession k = none) :
    Linked ks ds (self.modifySession k fun s => { s with gdmDisplay := none }) := by
  refine h.modifySession fun s hs => ?_
  rw [getDisplayForUserSession_of_session hs] at hnone
  simp [ManagedSession.ties, hnone]

theorem clearDisplay_getDisplay :
    (self.modifySession k fun s => { s with gdmDisplay := none }).getDisplayForUserSession k =
      none := by
  unfold getDisplayForUserSession
  rw [getElem?_modifySession, if_pos rfl]
  cases self.sessions[k]? <;> rfl

theorem Linked.untieSession (h : Linked ks ds self) {display : Option Nat}
    (hk : self.getDisplayForUserSession k = display) :
    Linked ks ds (self.untieSession k display) := by
  cases display with
  | none => exact h.clearDisplay hk
  | some d => exact h.setUserSession_none.clearDisplay (h.untied hk)

theorem Linked.dropGreeterDisplay (h : Linked ks ds self) (serviceName : String)
    (display : Option Nat) : Linked ks ds (self.dropGreeterDisplay k serviceName display) := by
  unfold GdmManager.dropGreeterDisplay
  split
  · cases display with
    | none => exact h.of_eq rfl rfl rfl rfl
    | some d => exact h.removeDisplay.of_eq rfl rfl rfl rfl
  · exact h

/-- The session that is started moves to a display of its own, and its old display gets a
new session. -/
theorem Linked.moveToOwnDisplay (h : Linked ks ds self) (hk : k ∈ ks) (serviceName : String) :
    Linked ks ds (self.moveToOwnDisplay around k serviceName) := by
  unfold GdmManager.moveToOwnDisplay
  split
  · exact h
  · rename_i s hs
    have hback := getDisplayForUserSession_of_session hs
    cases hd : s.gdmDisplay with
    | none =>
      rw [hd] at hback
      have huntied := h.untieSession hback
      have hgiven := huntied.giveDisplay hk clearDisplay_getDisplay around none
        (fun _ he => nomatch he) s.allowedUser
        (s.session.getConversationSessionId serviceName)
      exact hgiven.dropGreeterDisplay serviceName none
    | some d =>
      rw [hd] at hback
      obtain ⟨x, hx, _⟩ := h.display_of_session hback
      have hkept : Linked ks (d :: ds) (self.keepDisplay around d) := h.keepDisplay hx
      have hback' : (self.keepDisplay around d).getDisplayForUserSession k = some d := by
        unfold getDisplayForUserSession
        rw [keepDisplay_sessions]
        exact hback
      have huntied := hkept.untieSession hback'
      have hgiven := huntied.giveDisplay hk clearDisplay_getDisplay around (some d)
        (fun _ he => Option.some.inj he ▸ List.mem_cons_self) s.allowedUser
        (s.session.getConversationSessionId serviceName)
      exact (hgiven.dropGreeterDisplay serviceName (some d)).unrefDisplay

theorem Linked.onStartUserSession (h : Linked (k :: ks) ds self) (serviceName : String) :
    Linked ks ds (self.onStartUserSession around k serviceName) := by
  have hswitched : Linked (k :: ks) ds
      (self.switchToCompatibleUserSession around k k true).1 :=
    h.switchToCompatibleUserSession k true
  unfold GdmManager.onStartUserSession
  simp only
  split
  · exact hswitched.forget
  · split
    · exact (hswitched.callSession .reset).unrefSession
    · exact (((hswitched.moveToOwnDisplay List.mem_cons_self serviceName).emit _).callSession
        _).unrefSession

/-- What a handler queues for a session that it refers to is a reference of its own. -/
theorem Linked.queue (h : Linked ks ds self) (hk : k ∈ ks) {operation : IdleOperation}
    (hsession : operation.session = k) :
    Linked ks ds ({ self with idle := self.idle ++ [operation] }.refSession k) := by
  obtain ⟨s, hs, hlive⟩ := h.session_of_mem hk
  refine (h.refSession hs hlive).rearrange rfl rfl ?_ fun _ => Nat.le_refl _
  intro j
  simp only [heldByManager, GdmManager.refSession, GdmManager.modifySession, List.map_append,
    List.map_cons, List.map_nil, hsession, List.count_append, List.count_cons, List.count_nil,
    List.cons_append]
  omega

theorem Linked.startUserSessionIfReady (h : Linked ks ds self) (hk : k ∈ ks)
    (serviceName : String) : Linked ks ds (self.startUserSessionIfReady k serviceName) := by
  unfold GdmManager.startUserSessionIfReady
  split
  · exact h
  · have hnoted : Linked ks ds (self.modifySession k fun s =>
        { s with waitingToStart := !s.startWhenReady }) := h.modifySession fun _ _ => rfl
    dsimp only
    split
    · exact hnoted.queue hk rfl
    · exact hnoted

theorem Linked.onUserSessionOpened (h : Linked ks ds self) (hk : k ∈ ks) (serviceName : String) :
    Linked ks ds (self.onUserSessionOpened k serviceName) := by
  unfold GdmManager.onUserSessionOpened
  obtain ⟨s, hs, hlive⟩ := h.session_of_mem hk
  have hlisted : Linked ks ds (({ self with userSessions := self.userSessions ++ [k] }.emit
      (.listed k)).refSession k) := by
    refine (h.refSession hs hlive).rearrange rfl rfl ?_ fun _ => Nat.le_refl _
    intro j
    simp only [heldByManager, GdmManager.refSession, GdmManager.modifySession, GdmManager.emit,
      List.count_append, List.count_cons, List.count_nil, List.cons_append]
    omega
  have hwilling : Linked ks ds ((({ self with userSessions := self.userSessions ++ [k] }.emit
      (.listed k)).refSession k).modifySession k fun s => { s with startWhenReady := true }) :=
    hlisted.modifySession fun _ _ => rfl
  dsimp only
  split
  · exact hwilling.startUserSessionIfReady hk serviceName
  · exact hlisted.startUserSessionIfReady hk serviceName

theorem Linked.onSessionClientReadyForSessionToStart (h : Linked ks ds self) (hk : k ∈ ks)
    (serviceName : String) (clientIsReady : Bool) :
    Linked ks ds (self.onSessionClientReadyForSessionToStart k serviceName clientIsReady) := by
  unfold GdmManager.onSessionClientReadyForSessionToStart
  split
  · exact h
  · have hnoted : Linked ks ds (self.modifySession k fun s =>
        { s with startWhenReady := clientIsReady }) := h.modifySession fun _ _ => rfl
    dsimp only
    split
    · exact hnoted.startUserSessionIfReady hk serviceName
    · exact hnoted

/-! ## The end of a session -/

theorem Linked.endDisplay (h : Linked ks ds self) : Linked ks ds (self.endDisplay d) := by
  unfold GdmManager.endDisplay
  dsimp only
  split
  · exact h.unmanageDisplay.finishDisplay
  · exact h.unmanageDisplay

/-- What the lists of the manager let go of is a reference of the handler. -/
theorem Linked.release (h : Linked ks ds self)
    (hsessions : self'.sessions = self.sessions) (hdisplays : self'.displays = self.displays)
    (hlookups : self'.lookups = self.lookups)
    (hheld : ∀ j, (k :: self'.heldByManager).count j ≤ self.heldByManager.count j) :
    Linked (k :: ks) ds self' := by
  refine h.rearrange (congrArg _ hsessions) (congrArg _ hdisplays) ?_ ?_
  · intro j
    have hj := hheld j
    simp only [List.cons_append, List.count_cons, List.count_append] at hj ⊢
    omega
  · intro e
    exact Nat.le_of_eq (by rw [hlookups])

theorem Linked.removeUserSession (h : Linked ks ds self) :
    Linked ks ds (self.removeUserSession k) := by
  unfold GdmManager.removeUserSession
  have hended :
      Linked ks ds (self.onDisplay (self.getDisplayForUserSession k) GdmManager.endDisplay) := by
    unfold onDisplay
    split
    · exact h
    · exact h.endDisplay
  dsimp only
  split
  · rename_i hmem
    refine Linked.unrefSession (hended.release rfl rfl rfl ?_)
    intro j
    have hperm := (List.perm_cons_erase hmem).count_eq j
    simp only [heldByManager, GdmManager.emit, List.count_append, List.count_cons] at hperm ⊢
    omega
  · exact hended

theorem Linked.queueSessionReset (h : Linked ks ds self) (hk : k ∈ ks) :
    Linked ks ds (self.queueSessionReset k) := by
  unfold GdmManager.queueSessionReset
  split
  · exact h
  · split
    · exact h
    · exact (h.queue hk rfl).modifySession fun _ _ => rfl

theorem Linked.onResetSession (h : Linked (k :: ks) ds self) :
    Linked ks ds (self.onResetSession around k) := by
  have hreset : Linked (k :: ks) ds ((self.callSession k around .reset).modifySession k fun s =>
      { s with resetSessionOperation := false }) :=
    (h.callSession .reset).modifySession fun _ _ => rfl
  exact hreset.unrefSession

theorem Linked.onStopConflictingSession (h : Linked ks ds self) :
    Linked ks ds (self.onStopConflictingSession around) := by
  unfold GdmManager.onStopConflictingSession
  induction around.conflictingSessions generalizing self with
  | nil => exact h
  | cons sessionId rest ih => exact ih (h.emit _)

/-! ## Reauthentication -/

theorem Linked.redirectRemoteDisplay (h : Linked ks ds self) (sessionId : Option String) :
    Linked ks ds (self.redirectRemoteDisplay d sessionId) := by
  unfold GdmManager.redirectRemoteDisplay
  split
  · exact h
  · split
    · unfold onDisplay
      split
      · exact h
      · refine h.modifyDisplay fun y => ?_
        split <;> rfl
    · exact h

theorem Linked.onSessionReauthenticated (h : Linked ks ds self) (pidOfCaller : Int) :
    Linked ks ds (self.onSessionReauthenticated around k pidOfCaller) := by
  unfold GdmManager.onSessionReauthenticated
  split
  · exact h.crash
  · refine Linked.switchToCompatibleUserSession ?_ k false
    unfold onDisplay
    split
    · exact h
    · exact h.redirectRemoteDisplay _

theorem Linked.onSessionReauthenticationStarted (h : Linked ks ds self) (pidOfCaller : Int)
    (address : String) :
    Linked ks ds (self.onSessionReauthenticationStarted pidOfCaller address) := by
  unfold GdmManager.onSessionReauthenticationStarted
  split
  · exact h
  · exact h.of_eq rfl rfl rfl rfl

theorem count_map_filter_lookup {l : List (Int × Nat)} {pid : Int} {j : Nat}
    (h : l.lookup pid = some j) (i : Nat) :
    (j :: (l.filter fun entry => entry.1 ≠ pid).map Prod.snd).count i ≤
      (l.map Prod.snd).count i := by
  induction l with
  | nil => cases h
  | cons entry rest ih =>
    obtain ⟨p, k⟩ := entry
    by_cases hp : pid = p
    · subst hp
      have hjk : k = j := by simpa using h
      subst hjk
      have hsub : ((rest.filter fun entry => entry.1 ≠ pid).map Prod.snd).Sublist
          (rest.map Prod.snd) := List.filter_sublist.map _
      have hle := hsub.count_le i
      simpa [List.count_cons] using hle
    · have hrest : rest.lookup pid = some j := by
        simpa [List.lookup_cons, beq_false_of_ne hp] using h
      have hle := ih hrest
      simp only [List.filter_cons, ne_eq, Ne.symm hp, not_false_eq_true, decide_true, if_true,
        List.map_cons, List.count_cons] at hle ⊢
      omega

theorem Linked.dropTransientSession (h : Linked ks ds self) (pid : Int) :
    Linked ks ds (self.dropTransientSession pid) := by
  unfold GdmManager.dropTransientSession
  split
  · exact h
  · rename_i j hj
    refine Linked.unrefSession (h.release rfl rfl rfl ?_)
    intro i
    have hle := count_map_filter_lookup hj i
    simp only [heldByManager, List.count_append, List.count_cons] at hle ⊢
    omega

theorem Linked.closeTransientSession (h : Linked ks ds self) :
    Linked ks ds (self.closeTransientSession k) := by
  unfold GdmManager.closeTransientSession
  split
  · exact h
  · exact h.dropTransientSession _

theorem Linked.onReauthenticationClientRejected (h : Linked ks ds self) (isOwnClient : Bool) :
    Linked ks ds (self.onReauthenticationClientRejected k isOwnClient) := by
  unfold GdmManager.onReauthenticationClientRejected
  split
  · exact h
  · split
    · exact h.closeTransientSession
    · exact h

theorem Linked.onReauthenticationVerificationComplete (h : Linked ks ds self) :
    Linked ks ds (self.onReauthenticationVerificationComplete around k) := by
  unfold GdmManager.onReauthenticationVerificationComplete
  split
  · exact h
  · refine Linked.closeTransientSession ?_
    split
    · exact h.switchToCompatibleUserSession _ _
    · exact h.sessionUnlock _ _ _

/-- A new session for reauthentication keeps the user session that it is for. -/
theorem Linked.appendTransient (h : Linked ks ds self) {s : ManagedSession}
    (huser : ∀ j, s.userSession = some j → j ∈ self.userSessions) (hdisplay : s.gdmDisplay = none)
    (hrefs : s.refs = 1) (hlive : s.disposed = false) :
    Linked (self.sessions.length :: ks) ds
      (match s.userSession with
        | some j => ({ self with sessions := self.sessions ++ [s] } : GdmManager).refSession j
        | none => { self with sessions := self.sessions ++ [s] }) := by
  split
  · rename_i j hs
    have hmem : j ∈ ks ++ self.held := by
      have hj := huser j hs
      simp [held, heldByManager, hj]
    obtain ⟨t, ht, htlive⟩ := h.exists_session hmem
    have hlt : j < self.sessions.length := (List.getElem?_eq_some_iff.mp ht).1
    have happend := Linked.append (s := s) (by rw [hs]; exact h.refSession ht htlive)
      hdisplay hrefs hlive
    have hlength : (self.refSession j).sessions.length = self.sessions.length :=
      length_modifySession
    rw [hlength] at happend
    simpa only [GdmManager.refSession, GdmManager.modifySession, modify_concat hlt] using happend
  · rename_i hs
    exact Linked.append (by rw [hs]; exact h) hdisplay hrefs hlive

/-- The table takes over the reference of the handler. -/
theorem Linked.enterTransient (h : Linked (k :: ks) ds self) (pid : Int) :
    Linked ks ds { self with transientSessions := (pid, k) :: self.transientSessions } := by
  refine h.rearrange rfl rfl (fun i => ?_) fun _ => Nat.le_refl _
  simp only [heldByManager, List.map_cons, List.count_append, List.count_cons, List.cons_append]
  omega

/-- A new session for reauthentication takes the place of one for the same process. -/
theorem Linked.openTemporaryReauthenticationChannel (h : Linked ks ds self)
    {userSession : Option Nat} (huser : ∀ j, userSession = some j → j ∈ self.userSessions)
    (seatId : Option String) (callerSessionId : String) (pid : Int) (uid : Nat)
    (isRemote : Bool) :
    Linked ks ds (self.openTemporaryReauthenticationChannel around userSession seatId
      callerSessionId pid uid isRemote) := by
  have hopened := h.appendTransient huser (s :=
    { session := .new .transient none none seatId (!isRemote)
      allowedUser := uid
      serverAddress := around.serverAddress
      callerSessionId := some callerSessionId
      userSession := userSession
      callerPid := pid }) rfl rfl rfl
  exact (hopened.dropTransientSession pid).enterTransient pid

/-! ## The events of a session -/

theorem Linked.handleUserSession (h : Linked ks ds self) (hk : k ∈ ks) (signal : SessionSignal) :
    Linked ks ds (self.handleUserSession around k signal) := by
  cases signal with
  | reauthenticationStarted pidOfCaller address =>
    exact h.onSessionReauthenticationStarted pidOfCaller address
  | reauthenticated _ pidOfCaller _ => exact h.onSessionReauthenticated pidOfCaller
  | stopConflictingSession _ => exact h.onStopConflictingSession
  | clientReadyForSessionToStart serviceName clientIsReady =>
    exact h.onSessionClientReadyForSessionToStart hk serviceName clientIsReady
  | cancelled => exact h.queueSessionReset hk
  | sessionOpened serviceName _ => exact h.onUserSessionOpened hk serviceName
  | sessionStartFailed _ _ => exact h.removeUserSession
  | sessionExited _ _ => exact h.removeUserSession
  | sessionDied _ _ => exact h.removeUserSession
  | _ => exact h

theorem Linked.handleTransient (h : Linked ks ds self) (isOwnClient : Bool)
    (signal : SessionSignal) : Linked ks ds (self.handleTransient around k isOwnClient signal) := by
  cases signal with
  | clientDisconnected _ => exact h.closeTransientSession
  | cancelled => exact h.closeTransientSession
  | clientRejected _ => exact h.onReauthenticationClientRejected isOwnClient
  | verificationComplete _ => exact h.onReauthenticationVerificationComplete
  | _ => exact h

theorem Linked.handleEffect (h : Linked ks ds self) (hk : k ∈ ks) (owner : Owner)
    (isOwnClient : Bool) (effect : SessionEffect) :
    Linked ks ds (handleEffect around k owner isOwnClient self effect) := by
  cases effect with
  | signal signal =>
    cases owner with
    | userSession => exact h.handleUserSession hk signal
    | transient => exact h.handleTransient isOwnClient signal
    | launchEnvironment => exact h
    | reauthenticationRequest => exact h
  | _ => exact h

theorem Linked.foldEffects (h : Linked ks ds self) (hk : k ∈ ks) (owner : Owner)
    (isOwnClient : Bool) (effects : List SessionEffect) :
    Linked ks ds (effects.foldl (GdmManager.handleEffect around k owner isOwnClient) self) := by
  induction effects generalizing self with
  | nil => exact h
  | cons effect rest ih => exact ih (h.handleEffect hk owner isOwnClient effect)

theorem Linked.receive (h : Linked ks ds self) (event : SessionEvent) :
    Linked ks ds (self.receive around k event) := by
  unfold GdmManager.receive
  split
  · exact h
  · rename_i s hs
    split
    · exact h
    · rename_i hlive
      rw [Bool.not_eq_true] at hlive
      have hstepped : Linked ks ds (self.modifySession k fun t =>
          { t with session := s.session.step (event, self.surroundings around k s event) }) :=
        h.modifySession fun _ _ => rfl
      have hs' : (self.modifySession k fun t => { t with
          session := s.session.step (event, self.surroundings around k s event) }).sessions[k]? =
            some { s with session := s.session.step (event, self.surroundings around k s event) } :=
        getElem?_modifySession_self hs
      have hemitting := hstepped.refSession hs' hlive
      exact (hemitting.foldEffects List.mem_cons_self _ _ _).unrefSession

/-- An operation brings the reference that has been kept for it. -/
theorem Linked.takeIdle (h : Linked ks ds self) {operation : IdleOperation}
    {rest : List IdleOperation} (hidle : self.idle = operation :: rest) :
    Linked (operation.session :: ks) ds { self with idle := rest } := by
  refine h.release rfl rfl rfl fun j => ?_
  simp only [heldByManager, hidle, List.map_cons, List.count_append, List.count_cons]
  omega

theorem Linked.handleIdle (h : Linked ks ds self) :
    Linked ks ds (self.handleIdle around) := by
  unfold GdmManager.handleIdle
  split
  · exact h
  · rename_i k serviceName rest hidle
    exact (h.takeIdle hidle).onStartUserSession serviceName
  · rename_i k rest hidle
    exact (h.takeIdle hidle).onResetSession

/-! ## The D-Bus methods -/

theorem Linked.handleRegisterDisplay (h : Linked ks ds self) (invocation : Nat)
    (sender : BusSender) :
    Linked ks ds (self.handleRegisterDisplay around invocation sender) := by
  unfold GdmManager.handleRegisterDisplay
  split
  · exact h.emit _
  · exact (h.setDisplayStatus _).emit _

theorem Linked.handleRegisterSession (h : Linked ks ds self) (invocation : Nat)
    (sender : BusSender) :
    Linked ks ds (self.handleRegisterSession around invocation sender) := by
  unfold GdmManager.handleRegisterSession
  dsimp only
  split
  · exact h.emit _
  · rename_i d _
    have hregistered : ∀ {m : GdmManager}, Linked ks ds m →
        Linked ks ds (m.modifyDisplay d fun x => { x with sessionRegistered := true }) :=
      fun hm => hm.modifyDisplay fun _ => rfl
    split
    · exact (hregistered (h.callSession _)).emit _
    · exact (hregistered h).emit _

theorem Linked.handleOpenSession (h : Linked ks ds self) (invocation : Nat)
    (sender : BusSender) : Linked ks ds (self.handleOpenSession invocation sender) := by
  unfold GdmManager.handleOpenSession
  dsimp only
  split
  · exact h.emit _
  · split
    · exact h.crash
    · split
      · exact h.emit _
      · split
        · exact h.emit _
        · exact h.emit _

theorem Linked.rememberCaller (h : Linked ks ds self) (details : SenderDetails) :
    Linked ks ds (self.rememberCaller details) := by
  unfold GdmManager.rememberCaller onDisplay
  split
  · split
    · exact h
    · exact h.modifyDisplay fun _ => rfl
  · exact h

theorem rememberCaller_userSessions (details : SenderDetails) :
    (self.rememberCaller details).userSessions = self.userSessions := by
  unfold GdmManager.rememberCaller onDisplay
  split
  · split <;> rfl
  · rfl

theorem mem_userSessions_of_findSessionForUser {username : Option String} {j : Nat}
    {dontCountSession : Option Nat}
    (h : self.findSessionForUser username dontCountSession = some j) : j ∈ self.userSessions :=
  List.mem_of_find?_eq_some h

theorem Linked.startReauthentication (h : Linked ks ds self) (invocation : Nat) (pid : Int)
    (uid : Nat) : Linked ks ds (self.startReauthentication around invocation k pid uid) :=
  (h.callSession (.startReauthentication pid uid)).of_eq rfl rfl rfl rfl

theorem Linked.openReauthenticationChannel (h : Linked ks ds self) (invocation : Nat)
    (details : SenderDetails) (sessionId username : String) :
    Linked ks ds
      (self.openReauthenticationChannel around invocation details sessionId username) := by
  have hremembered := h.rememberCaller details
  unfold GdmManager.openReauthenticationChannel
  dsimp only
  split
  · exact hremembered.emit _
  · split
    · exact hremembered.startReauthentication _ _ _
    · split
      · exact hremembered.emit _
      · refine (hremembered.openTemporaryReauthenticationChannel ?_ _ _ _ _ _).emit _
        intro j hj
        rw [rememberCaller_userSessions]
        split at hj
        · rename_i hlogin
          rw [sessionsToReauthenticate, if_pos hlogin] at hj
          exact mem_userSessions_of_findSessionForUser hj
        · cases hj

theorem Linked.handleOpenReauthenticationChannel (h : Linked ks ds self) (invocation : Nat)
    (sender : BusSender) (username : String) :
    Linked ks ds
      (self.handleOpenReauthenticationChannel around invocation sender username) := by
  unfold GdmManager.handleOpenReauthenticationChannel
  dsimp only
  split
  · exact (h.emit _).emit _
  · exact (h.emit _).openReauthenticationChannel _ _ _ _

/-! ## Runs -/

theorem Linked.handleEvent (h : Linked ks ds self) (event : ManagerEvent) :
    Linked ks ds (self.handleEvent around event) := by
  have hcalled : Linked ks ds { self with nextInvocation := self.nextInvocation + 1 } :=
    h.of_eq rfl rfl rfl rfl
  cases event with
  | session k event =>
    simp only [GdmManager.handleEvent]
    split
    · exact h
    · exact h.receive event
  | idle => exact h.handleIdle
  | displayAdded display => exact h.addDisplay display
  | displayStatus d status => exact h.setDisplayStatus status
  | displaySessionId d sessionId => exact h.modifyDisplay fun _ => rfl
  | displayRemoved d => exact h.removeDisplay
  | userLoaded d userExists => exact h.onUserIsLoadedChanged userExists
  | registerDisplay sender => exact hcalled.handleRegisterDisplay _ sender
  | registerSession sender => exact hcalled.handleRegisterSession _ sender
  | openSession sender => exact hcalled.handleOpenSession _ sender
  | openReauthenticationChannel sender username =>
    exact hcalled.handleOpenReauthenticationChannel _ sender username

theorem Linked.step (h : Linked ks ds self) (event : ManagerEvent × ManagerSurroundings) :
    Linked ks ds (self.step event) := by
  unfold GdmManager.step
  split
  · exact h.handleEvent event.1
  · exact h

theorem linked_init : Linked [] [] ({} : GdmManager) := by
  refine ⟨?_, ?_, ?_, ?_, ?_, ?_, ?_⟩
  · intro d k
    simp [getUserSessionForDisplay, getDisplayForUserSession]
  · intro k s hs
    cases hs
  · intro k hk
    cases hk
  · intro k s hs
    cases hs
  · intro d x hx
    cases hx
  · intro d hd
    cases hd
  · intro d x hx
    cases hx

/-- Displays and sessions are linked in every run. -/
theorem linked_run (events : List (ManagerEvent × ManagerSurroundings)) :
    Linked [] [] (machine.run {} events) :=
  EventMachine.run_invariant (Linked [] []) (fun _ event h => h.step event) events linked_init

/-- In every run the pointers of displays and sessions are inverse to each other: two
displays do not point to one session, and what a pointer leads to exists and has not
been disposed of. -/
theorem run_paired (events : List (ManagerEvent × ManagerSurroundings)) :
    let self := machine.run {} events
    (∀ d k, self.getUserSessionForDisplay d = some k ↔ self.getDisplayForUserSession k = some d) ∧
    (∀ d e k, self.getUserSessionForDisplay d = some k →
      self.getUserSessionForDisplay e = some k → d = e) ∧
    (∀ d k, self.getUserSessionForDisplay d = some k →
      ∃ s, self.sessions[k]? = some s ∧ s.disposed = false) ∧
    (∀ d k, self.getDisplayForUserSession k = some d →
      ∃ x, self.displays[d]? = some x ∧ 0 < x.refs) := by
  have h := linked_run events
  refine ⟨h.paired, ?_, ?_, ?_⟩
  · intro d e k hd he
    exact h.paired.injective hd he
  · intro d k hd
    obtain ⟨s, hs, _, hlive⟩ := h.session_of_display hd
    exact ⟨s, hs, hlive⟩
  · intro d k hk
    obtain ⟨x, hx, _, hrefs⟩ := h.display_of_session hk
    exact ⟨x, hx, hrefs⟩

end GdmManager

end Gdm
