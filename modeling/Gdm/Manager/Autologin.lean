import Gdm.Manager.Touches

/-!
# The automatic login that is configured

Once a session has been started for nobody but the configuration, its display is
remembered, and a flag takes over when the display ends.  The reference that such a
display is created with is never dropped.  So the pointer to it stays until the flag
is set, and the details of the automatic login are not handed out again.
-/

namespace Gdm

namespace GdmManager

variable {self self' : GdmManager} {around : ManagerSurroundings} {ks ds ds' : List Nat}
  {k d e : Nat}

/-- Next to the references that are accounted for, there is one to the display that
nobody drops. -/
def Kept (ds : List Nat) (m : GdmManager) (d : Nat) : Prop :=
  ∃ x, m.displays[d]? = some x ∧ (ds ++ m.lookups).count d + x.stored.toNat < x.refs

/-- The automatic login that is configured has been done, or its display is there. -/
def AutologinDone (ds : List Nat) (m : GdmManager) : Prop :=
  m.didAutomaticLogin = true ∨ ∃ d, m.automaticLoginDisplay = some d ∧ Kept ds m d

/-- The displays, with what the manager keeps about them. -/
def displayBooks (self : GdmManager) : List GdmDisplay × List Nat × Option Nat × Bool :=
  (self.displays, self.lookups, self.automaticLoginDisplay, self.didAutomaticLogin)

/-- Nothing but what is done to displays can undo an automatic login. -/
theorem AutologinDone.of_kept (h : AutologinDone ds self)
    (hdisplay : self'.automaticLoginDisplay = self.automaticLoginDisplay)
    (hdid : self'.didAutomaticLogin = self.didAutomaticLogin)
    (hkept : ∀ d, Kept ds self d → Kept ds' self' d) : AutologinDone ds' self' := by
  rcases h with hdone | ⟨d, hd, hk⟩
  · exact .inl (hdid.trans hdone)
  · exact .inr ⟨d, hdisplay.trans hd, hkept d hk⟩

theorem Kept.of_eq (h : Kept ds self d) (hdisplays : self'.displays = self.displays)
    (hlookups : self'.lookups = self.lookups) : Kept ds self' d := by
  unfold Kept
  rw [hdisplays, hlookups]
  exact h

theorem Kept.of_books (h : Kept ds self d) (hbooks : self'.displayBooks = self.displayBooks) :
    Kept ds self' d := by
  simp only [displayBooks, Prod.mk.injEq] at hbooks
  exact h.of_eq hbooks.1 hbooks.2.1

theorem AutologinDone.of_books (h : AutologinDone ds self)
    (hbooks : self'.displayBooks = self.displayBooks) : AutologinDone ds self' := by
  have hkept : ∀ d, Kept ds self d → Kept ds self' d := fun _ hk => hk.of_books hbooks
  simp only [displayBooks, Prod.mk.injEq] at hbooks
  exact h.of_kept hbooks.2.2.1 hbooks.2.2.2 hkept

/-! ## Sessions are not in the books -/

@[simp] theorem displayBooks_modifySession (f : ManagedSession → ManagedSession) :
    (self.modifySession k f).displayBooks = self.displayBooks := rfl

@[simp] theorem displayBooks_refSession : (self.refSession k).displayBooks = self.displayBooks :=
  rfl

@[simp] theorem displayBooks_emit (effect : ManagerEffect) :
    (self.emit effect).displayBooks = self.displayBooks := rfl

@[simp] theorem displayBooks_callSession (call : OwnerCall) :
    (self.callSession k around call).displayBooks = self.displayBooks := rfl

@[simp] theorem displayBooks_unrefSession :
    (self.unrefSession k).displayBooks = self.displayBooks := by
  unfold unrefSession collectSession
  split
  · rfl
  · split
    · rfl
    · rfl

@[simp] theorem displayBooks_cleanUserSession :
    (self.cleanUserSession k).displayBooks = self.displayBooks := by
  unfold cleanUserSession
  rw [displayBooks_unrefSession, displayBooks_modifySession]

theorem displayBooks_setUserSession (session : Option Nat) :
    (self.setUserSession d session).displayBooks =
      (self.modifyDisplay d fun x => { x with userSession := session }).displayBooks := by
  unfold setUserSession
  dsimp only
  split
  · rfl
  · exact displayBooks_cleanUserSession

theorem automaticLoginDisplay_setUserSession (session : Option Nat) :
    (self.setUserSession d session).automaticLoginDisplay = self.automaticLoginDisplay :=
  congrArg (fun books => books.2.2.1) (displayBooks_setUserSession session)

theorem didAutomaticLogin_setUserSession (session : Option Nat) :
    (self.setUserSession d session).didAutomaticLogin = self.didAutomaticLogin :=
  congrArg (fun books => books.2.2.2) (displayBooks_setUserSession session)

theorem displayBooks_sessionUnlock (behalf : Nat) (session : Option Nat)
    (sessionId : Option String) :
    (self.sessionUnlock behalf session sessionId).displayBooks = self.displayBooks := by
  unfold sessionUnlock
  split <;> rfl

/-- Switching to a session asks logind for it. -/
theorem switchToCompatibleUserSession_same (behalf : Nat) (failIfAlreadySwitched : Bool) :
    (self.switchToCompatibleUserSession around behalf k failIfAlreadySwitched).1.displayBooks =
        self.displayBooks ∧
      (self.switchToCompatibleUserSession around behalf k failIfAlreadySwitched).1.sessions =
        self.sessions := by
  have hunlock : ∀ (m : GdmManager) (session : Option Nat) (sessionId : Option String),
      (m.sessionUnlock behalf session sessionId).sessions = m.sessions := by
    intro m session sessionId
    unfold sessionUnlock
    split <;> rfl
  unfold switchToCompatibleUserSession
  split
  · exact ⟨rfl, rfl⟩
  · split
    · exact ⟨rfl, rfl⟩
    · split
      · exact ⟨rfl, rfl⟩
      · unfold jumpToSession
        split
        · exact ⟨displayBooks_sessionUnlock _ _ _, hunlock _ _ _⟩
        · exact ⟨rfl, rfl⟩
        · dsimp only
          split
          · exact ⟨displayBooks_sessionUnlock _ _ _, hunlock _ _ _⟩
          · exact ⟨rfl, rfl⟩

/-! ## What is done to displays -/

theorem Kept.modifyDisplay (h : Kept ds self d) {f : GdmDisplay → GdmDisplay}
    (hf : ∀ x, (f x).stored = x.stored ∧ (f x).refs = x.refs) :
    Kept ds (self.modifyDisplay e f) d := by
  obtain ⟨x, hx, hcount⟩ := h
  unfold Kept
  rw [getElem?_modifyDisplay]
  split
  · refine ⟨f x, by rw [hx]; rfl, ?_⟩
    rw [(hf x).1, (hf x).2]
    exact hcount
  · exact ⟨x, hx, hcount⟩

theorem AutologinDone.modifyDisplay (h : AutologinDone ds self) {f : GdmDisplay → GdmDisplay}
    (hf : ∀ x, (f x).stored = x.stored ∧ (f x).refs = x.refs) :
    AutologinDone ds (self.modifyDisplay e f) :=
  h.of_kept rfl rfl fun _ hk => hk.modifyDisplay hf

theorem Kept.setUserSession (h : Kept ds self d) (session : Option Nat) :
    Kept ds (self.setUserSession e session) d := by
  have hmodified : Kept ds (self.modifyDisplay e fun x => { x with userSession := session }) d :=
    h.modifyDisplay fun _ => ⟨rfl, rfl⟩
  exact hmodified.of_books (displayBooks_setUserSession session)

theorem AutologinDone.setUserSession (h : AutologinDone ds self) (session : Option Nat) :
    AutologinDone ds (self.setUserSession e session) := by
  have hmodified : AutologinDone ds
      (self.modifyDisplay e fun x => { x with userSession := session }) :=
    h.modifyDisplay fun _ => ⟨rfl, rfl⟩
  exact hmodified.of_books (displayBooks_setUserSession session)

/-- A new reference is accounted for. -/
theorem Kept.refDisplay (h : Kept ds self d) :
    Kept (e :: ds) (self.modifyDisplay e fun x => { x with refs := x.refs + 1 }) d := by
  obtain ⟨x, hx, hcount⟩ := h
  unfold Kept
  rw [getElem?_modifyDisplay]
  have hlookups : (self.modifyDisplay e fun x => { x with refs := x.refs + 1 }).lookups =
      self.lookups := rfl
  split
  · rename_i hed
    refine ⟨{ x with refs := x.refs + 1 }, by rw [hx]; rfl, ?_⟩
    rw [hlookups, hed, List.cons_append, List.count_cons_self]
    show (ds ++ self.lookups).count d + 1 + x.stored.toNat < x.refs + 1
    omega
  · rename_i hed
    refine ⟨x, hx, ?_⟩
    rw [hlookups, List.cons_append, List.count_cons_of_ne hed]
    exact hcount

theorem Kept.append (h : Kept ds self d) {x : GdmDisplay} :
    Kept ds { self with displays := self.displays ++ [x] } d := by
  obtain ⟨y, hy, hcount⟩ := h
  have hlt : d < self.displays.length := (List.getElem?_eq_some_iff.mp hy).1
  exact ⟨y, (List.getElem?_append_left hlt).trans hy, hcount⟩

/-- The display is not disposed of when another reference to it is dropped. -/
theorem Kept.unrefDisplay (h : Kept (e :: ds) self d) : Kept ds (self.unrefDisplay e) d := by
  unfold GdmManager.unrefDisplay
  split
  · obtain ⟨x, hx, hcount⟩ := h
    refine ⟨x, hx, Nat.lt_of_le_of_lt (Nat.add_le_add_right ?_ _) hcount⟩
    rw [List.cons_append]
    exact List.count_le_count_cons
  · rename_i y hy
    by_cases hed : e = d
    · obtain ⟨x, hx, hcount⟩ := h
      subst hed
      rw [hx] at hy
      obtain rfl : x = y := Option.some.inj hy
      rw [List.cons_append, List.count_cons_self] at hcount
      have hmany : x.refs ≠ 1 := by omega
      rw [if_neg hmany]
      refine ⟨{ x with refs := x.refs - 1 }, ?_, ?_⟩
      · rw [getElem?_modifyDisplay, if_pos rfl, hx]
        rfl
      · show (ds ++ self.lookups).count e + x.stored.toNat < x.refs - 1
        omega
    · have hother : ∀ m : GdmManager, Kept (e :: ds) m d →
          Kept ds (m.modifyDisplay e fun x => { x with refs := x.refs - 1 }) d := by
        rintro m ⟨x, hx, hcount⟩
        refine ⟨x, ?_, ?_⟩
        · rw [getElem?_modifyDisplay, if_neg hed]
          exact hx
        · rw [List.cons_append, List.count_cons_of_ne hed] at hcount
          exact hcount
      split
      · have hcleared : Kept (e :: ds) { self with
            automaticLoginDisplay := self.automaticLoginDisplay.filter (· ≠ e) } d :=
          h.of_eq rfl rfl
        exact hother _ (hcleared.setUserSession none)
      · exact hother _ h

/-- The pointer to a display that is kept stays when another reference is dropped. -/
theorem Kept.pointer_unrefDisplay (h : Kept (e :: ds) self d)
    (hd : self.automaticLoginDisplay = some d) :
    (self.unrefDisplay e).automaticLoginDisplay = some d := by
  unfold GdmManager.unrefDisplay
  split
  · exact hd
  · rename_i y hy
    split
    · rename_i hone
      have hed : d ≠ e := by
        rintro rfl
        obtain ⟨x, hx, hcount⟩ := h
        obtain rfl : x = y := Option.some.inj (hx.symm.trans hy)
        rw [List.cons_append, List.count_cons_self] at hcount
        omega
      refine (automaticLoginDisplay_setUserSession none).trans ?_
      show self.automaticLoginDisplay.filter (· ≠ e) = some d
      rw [hd]
      simp [hed]
    · exact hd

theorem didAutomaticLogin_unrefDisplay :
    (self.unrefDisplay e).didAutomaticLogin = self.didAutomaticLogin := by
  unfold GdmManager.unrefDisplay
  split
  · rfl
  · split
    · exact didAutomaticLogin_setUserSession none
    · rfl

theorem AutologinDone.unrefDisplay (h : AutologinDone (e :: ds) self) :
    AutologinDone ds (self.unrefDisplay e) := by
  rcases h with hdone | ⟨d, hd, hkept⟩
  · exact .inl (didAutomaticLogin_unrefDisplay.trans hdone)
  · exact .inr ⟨d, hkept.pointer_unrefDisplay hd, hkept.unrefDisplay⟩

/-- The reference of the store is accounted for until it is dropped. -/
theorem Kept.unstore (h : Kept ds self d) {x : GdmDisplay} (hx : self.displays[e]? = some x)
    (hstored : x.stored = true) :
    Kept (e :: ds) (self.modifyDisplay e fun x => { x with stored := false }) d := by
  obtain ⟨y, hy, hcount⟩ := h
  unfold Kept
  rw [getElem?_modifyDisplay]
  have hlookups : (self.modifyDisplay e fun x => { x with stored := false }).lookups =
      self.lookups := rfl
  split
  · rename_i hed
    subst hed
    obtain rfl : x = y := Option.some.inj (hx.symm.trans hy)
    rw [hstored, Bool.toNat_true] at hcount
    refine ⟨{ x with stored := false }, by rw [hx]; rfl, ?_⟩
    rw [hlookups, List.cons_append, List.count_cons_self, Bool.toNat_false]
    exact hcount
  · rename_i hed
    refine ⟨y, hy, ?_⟩
    rw [hlookups, List.cons_append, List.count_cons_of_ne hed]
    exact hcount

theorem Kept.removeDisplay (h : Kept ds self d) : Kept ds (self.removeDisplay e) d := by
  unfold GdmManager.removeDisplay
  split
  · exact h
  · rename_i x hx
    split
    · rename_i hstored
      exact (h.unstore hx hstored).unrefDisplay
    · exact h

theorem AutologinDone.removeDisplay (h : AutologinDone ds self) :
    AutologinDone ds (self.removeDisplay e) := by
  unfold GdmManager.removeDisplay
  split
  · exact h
  · rename_i x hx
    split
    · rename_i hstored
      have hunstored : AutologinDone (e :: ds)
          (self.modifyDisplay e fun x => { x with stored := false }) :=
        h.of_kept rfl rfl fun _ hk => hk.unstore hx hstored
      exact hunstored.unrefDisplay
    · exact h

/-- When the display ends that is remembered, the flag is set. -/
theorem AutologinDone.onDisplayEnded (h : AutologinDone ds self) :
    AutologinDone ds (self.onDisplayEnded e) := by
  unfold GdmManager.onDisplayEnded
  dsimp only
  split
  · exact .inl rfl
  · exact h.setUserSession none

theorem AutologinDone.setEndStatus (h : AutologinDone ds self) (status : GdmDisplayStatus) :
    AutologinDone ds (self.setEndStatus e status) := by
  unfold GdmManager.setEndStatus
  split
  · exact h
  · split
    · exact h
    · have hchanged :
          AutologinDone ds (self.modifyDisplay e fun x => { x with status := status }) :=
        h.modifyDisplay fun _ => ⟨rfl, rfl⟩
      dsimp only
      split
      · exact hchanged.onDisplayEnded
      · exact hchanged

theorem AutologinDone.unmanageDisplay (h : AutologinDone ds self) :
    AutologinDone ds (self.unmanageDisplay e) := by
  unfold GdmManager.unmanageDisplay
  split
  · exact h
  · exact h.setEndStatus _

theorem AutologinDone.finishDisplay (h : AutologinDone ds self) :
    AutologinDone ds (self.finishDisplay e) :=
  h.setEndStatus _

theorem AutologinDone.endDisplay (h : AutologinDone ds self) :
    AutologinDone ds (self.endDisplay e) := by
  unfold GdmManager.endDisplay
  dsimp only
  split
  · exact h.unmanageDisplay.finishDisplay
  · exact h.unmanageDisplay

/-! ## Setting up displays -/

theorem AutologinDone.createUserSessionForDisplay (h : AutologinDone ds self)
    (display : Option Nat) (allowedUser : Nat) :
    AutologinDone ds (self.createUserSessionForDisplay around display allowedUser) := by
  unfold GdmManager.createUserSessionForDisplay
  dsimp only
  split
  · exact h.of_books rfl
  · refine AutologinDone.setUserSession ?_ _
    exact h.of_books rfl

theorem AutologinDone.setUpAutomaticLoginSession (h : AutologinDone ds self) :
    AutologinDone ds (self.setUpAutomaticLoginSession around e) := by
  have hcreated : AutologinDone ds (self.createUserSessionForDisplay around (some e) 0) :=
    h.createUserSessionForDisplay _ _
  exact hcreated.of_books rfl

theorem AutologinDone.setUpGreeterSession (h : AutologinDone ds self) :
    AutologinDone ds (self.setUpGreeterSession around e) := by
  unfold GdmManager.setUpGreeterSession
  split
  · exact h.unmanageDisplay.finishDisplay
  · exact h.createUserSessionForDisplay _ _

theorem AutologinDone.setUpAutomaticLoginSessionIfUserExists (h : AutologinDone ds self)
    (userExists : Bool) :
    AutologinDone ds (self.setUpAutomaticLoginSessionIfUserExists around e userExists) := by
  unfold GdmManager.setUpAutomaticLoginSessionIfUserExists
  split
  · exact h.setUpAutomaticLoginSession
  · exact h.setUpGreeterSession

/-- A lookup is a reference that is accounted for, wherever it is written down. -/
theorem Kept.recount (h : Kept ds self d) (hdisplays : self'.displays = self.displays)
    (hcount : (ds' ++ self'.lookups).count d = (ds ++ self.lookups).count d) :
    Kept ds' self' d := by
  unfold Kept
  rw [hdisplays, hcount]
  exact h

theorem AutologinDone.lookUpUser (h : AutologinDone ds self) :
    AutologinDone ds (self.lookUpUser e) := by
  refine h.of_kept rfl rfl fun d hk => ?_
  refine (hk.refDisplay (e := e)).recount rfl ?_
  simp only [GdmManager.lookUpUser, GdmManager.modifyDisplay, List.count_append,
    List.cons_append, List.count_cons, List.count_nil]
  omega

theorem AutologinDone.setUpSession (h : AutologinDone ds self) :
    AutologinDone ds (self.setUpSession around e) := by
  unfold GdmManager.setUpSession
  split
  · exact h.setUpGreeterSession
  · split
    · exact h.setUpAutomaticLoginSessionIfUserExists _
    · exact h.lookUpUser

theorem AutologinDone.onUserIsLoadedChanged (h : AutologinDone ds self) (userExists : Bool) :
    AutologinDone ds (self.onUserIsLoadedChanged around e userExists) := by
  unfold GdmManager.onUserIsLoadedChanged
  split
  · rename_i he
    have htaken : AutologinDone (e :: ds) { self with lookups := self.lookups.erase e } := by
      refine h.of_kept rfl rfl fun d hk => hk.recount rfl ?_
      have hperm := (List.perm_cons_erase he).count_eq d
      simp only [List.cons_append, List.count_cons, List.count_append] at hperm ⊢
      omega
    exact (htaken.setUpAutomaticLoginSessionIfUserExists userExists).unrefDisplay
  · exact h

theorem AutologinDone.onDisplayStatusChanged (h : AutologinDone ds self) (x : GdmDisplay)
    (status : GdmDisplayStatus) :
    AutologinDone ds (self.onDisplayStatusChanged around e x status) := by
  cases status with
  | prepared =>
    simp only [GdmManager.onDisplayStatusChanged]
    split
    · exact h.setUpSession
    · exact h
  | failed => exact h.onDisplayEnded
  | unmanaged => exact h.onDisplayEnded
  | finished => exact h.onDisplayEnded
  | managed => exact h
  | waitingToFinish => exact h

theorem AutologinDone.setDisplayStatus (h : AutologinDone ds self) (status : GdmDisplayStatus) :
    AutologinDone ds (self.setDisplayStatus around e status) := by
  unfold GdmManager.setDisplayStatus
  split
  · exact h
  · split
    · exact h
    · have hchanged :
          AutologinDone ds (self.modifyDisplay e fun x => { x with status := status }) :=
        h.modifyDisplay fun _ => ⟨rfl, rfl⟩
      dsimp only
      split
      · exact hchanged.onDisplayStatusChanged _ status
      · exact hchanged

theorem AutologinDone.addDisplay (h : AutologinDone ds self) (x : GdmDisplay) :
    AutologinDone ds (self.addDisplay x) :=
  h.of_kept rfl rfl fun _ hk => hk.append

/-! ## Starting a session -/

theorem AutologinDone.keepDisplay (h : AutologinDone ds self) :
    AutologinDone (e :: ds) (self.keepDisplay around e) := by
  have hreferred : AutologinDone (e :: ds)
      (self.modifyDisplay e fun x => { x with refs := x.refs + 1 }) :=
    h.of_kept rfl rfl fun _ hk => hk.refDisplay
  unfold GdmManager.keepDisplay
  split
  · rename_i hnone
    refine h.of_kept rfl rfl fun d hk => hk.recount rfl ?_
    have hed : e ≠ d := by
      rintro rfl
      obtain ⟨x, hx, _⟩ := hk
      cases hnone.symm.trans hx
    rw [List.cons_append, List.count_cons_of_ne hed]
  · dsimp only
    split
    · exact hreferred.setDisplayStatus _
    · exact hreferred

theorem AutologinDone.untieSession (h : AutologinDone ds self) (display : Option Nat) :
    AutologinDone ds (self.untieSession k display) := by
  cases display with
  | none => exact h.of_books rfl
  | some d => exact (h.setUserSession none).of_books rfl

theorem AutologinDone.createDisplayForUserSession (h : AutologinDone ds self)
    (sessionId : Option String) :
    AutologinDone ds (self.createDisplayForUserSession k sessionId) := by
  unfold GdmManager.createDisplayForUserSession
  split
  · exact h
  · dsimp only
    refine AutologinDone.of_books ?_ (displayBooks_modifySession _)
    exact h.of_kept rfl rfl fun _ hk => hk.append

/-- The display that a session gets is kept for good. -/
theorem Linked.kept_createDisplayForUserSession (h : Linked ks ds self) (hk : k ∈ ks)
    (sessionId : Option String) :
    ∃ d, (self.createDisplayForUserSession k sessionId).getDisplayForUserSession k = some d ∧
      Kept ds (self.createDisplayForUserSession k sessionId) d := by
  obtain ⟨s, hs, _⟩ := h.session_of_mem hk
  refine ⟨self.displays.length, ?_, ?_⟩
  · unfold GdmManager.createDisplayForUserSession getDisplayForUserSession
    simp only [hs]
    rw [getElem?_modifySession, if_pos rfl]
    show (Option.map _ self.sessions[k]?).bind ManagedSession.gdmDisplay = _
    rw [hs]
    rfl
  · unfold GdmManager.createDisplayForUserSession
    simp only [hs]
    refine ⟨_, List.getElem?_concat_length, ?_⟩
    have hnew : self.displays.length ∉ ds ++ self.lookups := fun hmem =>
      Nat.lt_irrefl _ (h.knownDisplays _ hmem)
    show (ds ++ self.lookups).count self.displays.length + 1 < 2
    rw [List.count_eq_zero_of_not_mem hnew]
    exact Nat.lt_add_one 1

/-- With nobody to wait for, the display of the session is remembered; otherwise nothing
is forgotten. -/
theorem Kept.dropGreeterDisplay (h : Kept ds self d)
    (hd : self.getDisplayForUserSession k = some d) {serviceName : String}
    (hdone : AutologinDone ds self ∨ self.isUnattendedAutologin k serviceName = true)
    (display : Option Nat) :
    AutologinDone ds (self.dropGreeterDisplay k serviceName display) := by
  unfold GdmManager.dropGreeterDisplay
  split
  · refine .inr ⟨d, hd, ?_⟩
    cases display with
    | none => exact h.of_eq rfl rfl
    | some e =>
      have hremoved : Kept ds (self.removeDisplay e) d := h.removeDisplay
      exact hremoved.of_eq rfl rfl
  · rename_i hattended
    exact hdone.resolve_right hattended

/-- A session that is referred to has its clients as long as pointers are arranged. -/
theorem Arranges.isUnattendedAutologin (h : Arranges self self') (hlinked : Linked ks ds self')
    (hk : k ∈ ks) {serviceName : String}
    (hunattended : self.isUnattendedAutologin k serviceName = true) :
    self'.isUnattendedAutologin k serviceName = true := by
  unfold GdmManager.isUnattendedAutologin at hunattended ⊢
  cases hs : self.sessions[k]? with
  | none => simp [hs] at hunattended
  | some s =>
    obtain ⟨s', hs', hretained, _⟩ := h.sessions k s hs
    obtain ⟨t, ht, hlive⟩ := hlinked.session_of_mem hk
    obtain rfl : s' = t := Option.some.inj (hs'.symm.trans ht)
    rw [hs] at hunattended
    rw [hs']
    simpa [(hretained.session hlive).1] using hunattended

theorem Linked.autologinDone_moveToOwnDisplay (h : Linked ks ds self) (hk : k ∈ ks)
    {serviceName : String}
    (hdone : AutologinDone ds self ∨ self.isUnattendedAutologin k serviceName = true) :
    AutologinDone ds (self.moveToOwnDisplay around k serviceName) := by
  unfold GdmManager.moveToOwnDisplay
  split
  · rename_i hnone
    obtain ⟨s, hs, _⟩ := h.session_of_mem hk
    cases hnone.symm.trans hs
  · rename_i s hs
    have hback := getDisplayForUserSession_of_session hs
    have hmove : ∀ (es : List Nat) (kept : GdmManager) (display : Option Nat),
        Linked ks es kept → Arranges self kept →
        (AutologinDone ds self → AutologinDone es kept) →
        kept.getDisplayForUserSession k = display → (∀ d, display = some d → d ∈ es) →
        AutologinDone es ((((kept.untieSession k display).createUserSessionForDisplay around
          display s.allowedUser).createDisplayForUserSession k
            (s.session.getConversationSessionId serviceName)).dropGreeterDisplay k serviceName
              display) := by
      intro es kept display hlinked harranges hkept hdisplay hmem
      have huntied := hlinked.untieSession hdisplay
      have hcreated := huntied.createForKept around display hmem s.allowedUser
      have hnone : (kept.untieSession k display).getDisplayForUserSession k = none := by
        unfold GdmManager.untieSession
        exact clearDisplay_getDisplay
      have hgiven := huntied.giveDisplay hk hnone around display hmem s.allowedUser
        (s.session.getConversationSessionId serviceName)
      obtain ⟨d, hd, hnew⟩ := hcreated.kept_createDisplayForUserSession hk
        (s.session.getConversationSessionId serviceName)
      refine hnew.dropGreeterDisplay hd ?_ display
      rcases hdone with hdone | hunattended
      · exact .inl (((hkept hdone).untieSession display).createUserSessionForDisplay display
          s.allowedUser |>.createDisplayForUserSession _)
      · have huntie : Arranges self (kept.untieSession k display) :=
          harranges.trans (arranges_untieSession display)
        have hcreate : Arranges self ((kept.untieSession k display).createUserSessionForDisplay
            around display s.allowedUser) :=
          huntie.trans (arranges_createUserSessionForDisplay display s.allowedUser)
        have hgive := hcreate.trans (arranges_createDisplayForUserSession (k := k)
          (s.session.getConversationSessionId serviceName))
        exact .inr (hgive.isUnattendedAutologin hgiven hk hunattended)
    cases hd : s.gdmDisplay with
    | none =>
      rw [hd] at hback
      exact hmove ds self none h (.refl self) id hback (fun _ he => nomatch he)
    | some d =>
      rw [hd] at hback
      obtain ⟨x, hx, _⟩ := h.display_of_session hback
      have hback' : (self.keepDisplay around d).getDisplayForUserSession k = some d := by
        unfold getDisplayForUserSession
        rw [keepDisplay_sessions]
        exact hback
      have hdropped := hmove (d :: ds) (self.keepDisplay around d) (some d) (h.keepDisplay hx)
        arranges_keepDisplay (fun hdone => hdone.keepDisplay) hback'
        (fun e he => Option.some.inj he ▸ List.mem_cons_self)
      exact hdropped.unrefDisplay

theorem Linked.autologinDone_onStartUserSession (h : Linked (k :: ks) ds self)
    (hdone : AutologinDone ds self) (serviceName : String) :
    AutologinDone ds (self.onStartUserSession around k serviceName) := by
  have hswitched : Linked (k :: ks) ds
      (self.switchToCompatibleUserSession around k k true).1 :=
    h.switchToCompatibleUserSession k true
  have hdone' : AutologinDone ds (self.switchToCompatibleUserSession around k k true).1 :=
    hdone.of_books (switchToCompatibleUserSession_same k true).1
  unfold GdmManager.onStartUserSession
  dsimp only
  split
  · exact hdone'
  · split
    · exact hdone'.of_books (by simp)
    · have hmoved : AutologinDone ds ((self.switchToCompatibleUserSession around k k
          true).1.moveToOwnDisplay around k serviceName) :=
        hswitched.autologinDone_moveToOwnDisplay List.mem_cons_self (.inl hdone')
      exact hmoved.of_books (by simp)

/-! ## The other handlers -/

theorem displayBooks_startUserSessionIfReady (serviceName : String) :
    (self.startUserSessionIfReady k serviceName).displayBooks = self.displayBooks := by
  unfold startUserSessionIfReady
  split
  · rfl
  · dsimp only
    split <;> rfl

theorem displayBooks_onUserSessionOpened (serviceName : String) :
    (self.onUserSessionOpened k serviceName).displayBooks = self.displayBooks := by
  unfold onUserSessionOpened
  dsimp only
  rw [displayBooks_startUserSessionIfReady]
  split <;> rfl

theorem displayBooks_onSessionClientReadyForSessionToStart (serviceName : String)
    (clientIsReady : Bool) :
    (self.onSessionClientReadyForSessionToStart k serviceName clientIsReady).displayBooks =
      self.displayBooks := by
  unfold onSessionClientReadyForSessionToStart
  split
  · rfl
  · dsimp only
    split
    · exact displayBooks_startUserSessionIfReady _
    · rfl

theorem displayBooks_queueSessionReset :
    (self.queueSessionReset k).displayBooks = self.displayBooks := by
  unfold queueSessionReset
  split
  · rfl
  · split <;> rfl

theorem displayBooks_onStopConflictingSession :
    (self.onStopConflictingSession around).displayBooks = self.displayBooks := by
  unfold onStopConflictingSession
  generalize around.conflictingSessions = conflicting
  induction conflicting generalizing self with
  | nil => rfl
  | cons sessionId rest ih => exact ih

theorem displayBooks_onSessionReauthenticationStarted (pidOfCaller : Int) (address : String) :
    (self.onSessionReauthenticationStarted pidOfCaller address).displayBooks =
      self.displayBooks := by
  unfold onSessionReauthenticationStarted
  split <;> rfl

theorem displayBooks_dropTransientSession (pid : Int) :
    (self.dropTransientSession pid).displayBooks = self.displayBooks := by
  unfold dropTransientSession
  split
  · rfl
  · exact displayBooks_unrefSession

theorem displayBooks_closeTransientSession :
    (self.closeTransientSession k).displayBooks = self.displayBooks := by
  unfold closeTransientSession
  split
  · rfl
  · exact displayBooks_dropTransientSession _

theorem displayBooks_onReauthenticationVerificationComplete :
    (self.onReauthenticationVerificationComplete around k).displayBooks = self.displayBooks := by
  unfold onReauthenticationVerificationComplete
  split
  · rfl
  · dsimp only
    rw [displayBooks_closeTransientSession]
    split
    · exact (switchToCompatibleUserSession_same _ _).1
    · exact displayBooks_sessionUnlock _ _ _

theorem displayBooks_handleTransient (isOwnClient : Bool) (signal : SessionSignal) :
    (self.handleTransient around k isOwnClient signal).displayBooks = self.displayBooks := by
  unfold handleTransient
  split
  · exact displayBooks_closeTransientSession
  · exact displayBooks_closeTransientSession
  · unfold onReauthenticationClientRejected
    split
    · rfl
    · split
      · exact displayBooks_closeTransientSession
      · rfl
  · exact displayBooks_onReauthenticationVerificationComplete
  · rfl

theorem AutologinDone.removeUserSession (h : AutologinDone ds self) :
    AutologinDone ds (self.removeUserSession k) := by
  have hended : AutologinDone ds
      (self.onDisplay (self.getDisplayForUserSession k) GdmManager.endDisplay) := by
    cases self.getDisplayForUserSession k with
    | none => exact h
    | some d => exact h.endDisplay
  unfold GdmManager.removeUserSession
  dsimp only
  split
  · refine AutologinDone.of_books ?_ displayBooks_unrefSession
    exact hended.of_books rfl
  · exact hended

theorem AutologinDone.redirectRemoteDisplay (h : AutologinDone ds self)
    (sessionId : Option String) : AutologinDone ds (self.redirectRemoteDisplay e sessionId) := by
  unfold GdmManager.redirectRemoteDisplay
  split
  · exact h
  · split
    · unfold GdmManager.onDisplay
      split
      · exact h
      · refine h.modifyDisplay fun y => ?_
        split <;> exact ⟨rfl, rfl⟩
    · exact h

theorem AutologinDone.onSessionReauthenticated (h : AutologinDone ds self) (pidOfCaller : Int) :
    AutologinDone ds (self.onSessionReauthenticated around k pidOfCaller) := by
  unfold GdmManager.onSessionReauthenticated
  split
  · exact h.of_books rfl
  · dsimp only
    refine AutologinDone.of_books ?_ (switchToCompatibleUserSession_same _ _).1
    unfold GdmManager.onDisplay
    split
    · exact h
    · exact h.redirectRemoteDisplay _

theorem AutologinDone.handleUserSession (h : AutologinDone ds self) (signal : SessionSignal) :
    AutologinDone ds (self.handleUserSession around k signal) := by
  unfold GdmManager.handleUserSession
  split
  · exact h.of_books (displayBooks_onSessionReauthenticationStarted _ _)
  · exact h.onSessionReauthenticated _
  · exact h.of_books displayBooks_onStopConflictingSession
  · exact h.of_books (displayBooks_onSessionClientReadyForSessionToStart _ _)
  · exact h.of_books displayBooks_queueSessionReset
  · exact h.of_books (displayBooks_onUserSessionOpened _)
  · exact h.removeUserSession
  · exact h.removeUserSession
  · exact h.removeUserSession
  · exact h

theorem AutologinDone.foldEffects (h : AutologinDone ds self) (owner : Owner)
    (isOwnClient : Bool) (effects : List SessionEffect) :
    AutologinDone ds (effects.foldl (GdmManager.handleEffect around k owner isOwnClient) self) := by
  induction effects generalizing self with
  | nil => exact h
  | cons effect rest ih =>
    refine ih ?_
    unfold GdmManager.handleEffect
    split
    · split
      · exact h.handleUserSession _
      · exact h.of_books (displayBooks_handleTransient _ _)
      · exact h
      · exact h
    · exact h

theorem AutologinDone.receive (h : AutologinDone ds self) (event : SessionEvent) :
    AutologinDone ds (self.receive around k event) := by
  unfold GdmManager.receive
  split
  · exact h
  · split
    · exact h
    · dsimp only
      refine AutologinDone.of_books ?_ displayBooks_unrefSession
      refine AutologinDone.foldEffects ?_ _ _ _
      exact h.of_books rfl

theorem Linked.autologinDone_handleIdle (h : Linked ks ds self) (hdone : AutologinDone ds self) :
    AutologinDone ds (self.handleIdle around) := by
  unfold GdmManager.handleIdle
  split
  · exact hdone
  · rename_i k serviceName rest hidle
    have hdone' : AutologinDone ds { self with idle := rest } := hdone.of_books rfl
    exact (h.takeIdle hidle).autologinDone_onStartUserSession hdone' serviceName
  · unfold GdmManager.onResetSession
    exact hdone.of_books displayBooks_unrefSession

/-! ## The D-Bus methods -/

theorem AutologinDone.handleRegisterDisplay (h : AutologinDone ds self) (invocation : Nat)
    (sender : BusSender) :
    AutologinDone ds (self.handleRegisterDisplay around invocation sender) := by
  unfold GdmManager.handleRegisterDisplay
  split
  · exact h.of_books rfl
  · exact (h.setDisplayStatus _).of_books rfl

theorem AutologinDone.handleRegisterSession (h : AutologinDone ds self) (invocation : Nat)
    (sender : BusSender) :
    AutologinDone ds (self.handleRegisterSession around invocation sender) := by
  unfold GdmManager.handleRegisterSession
  dsimp only
  split
  · exact h.of_books rfl
  · rename_i d _
    have hregistered : ∀ m : GdmManager, AutologinDone ds m →
        AutologinDone ds (m.modifyDisplay d fun x => { x with sessionRegistered := true }) :=
      fun m hm => hm.modifyDisplay fun _ => ⟨rfl, rfl⟩
    split
    · exact (hregistered _ (h.of_books rfl)).of_books rfl
    · exact (hregistered _ h).of_books rfl

theorem displayBooks_handleOpenSession (invocation : Nat) (sender : BusSender) :
    (self.handleOpenSession invocation sender).displayBooks = self.displayBooks := by
  unfold handleOpenSession
  dsimp only
  split
  · rfl
  · split
    · rfl
    · split
      · rfl
      · split <;> rfl

theorem AutologinDone.rememberCaller (h : AutologinDone ds self) (details : SenderDetails) :
    AutologinDone ds (self.rememberCaller details) := by
  unfold GdmManager.rememberCaller GdmManager.onDisplay
  split
  · split
    · exact h
    · exact h.modifyDisplay fun _ => ⟨rfl, rfl⟩
  · exact h

theorem displayBooks_openTemporaryReauthenticationChannel (userSession : Option Nat)
    (seatId : Option String) (callerSessionId : String) (pid : Int) (uid : Nat)
    (isRemote : Bool) :
    (self.openTemporaryReauthenticationChannel around userSession seatId callerSessionId pid uid
      isRemote).displayBooks = self.displayBooks := by
  unfold openTemporaryReauthenticationChannel
  dsimp only
  split
  · exact displayBooks_dropTransientSession _
  · exact displayBooks_dropTransientSession _

theorem AutologinDone.openReauthenticationChannel (h : AutologinDone ds self) (invocation : Nat)
    (details : SenderDetails) (sessionId username : String) :
    AutologinDone ds
      (self.openReauthenticationChannel around invocation details sessionId username) := by
  have hremembered := h.rememberCaller details
  unfold GdmManager.openReauthenticationChannel
  dsimp only
  split
  · exact hremembered.of_books rfl
  · split
    · exact hremembered.of_books rfl
    · split
      · exact hremembered.of_books rfl
      · exact hremembered.of_books (displayBooks_openTemporaryReauthenticationChannel _ _ _ _ _ _)

theorem AutologinDone.handleOpenReauthenticationChannel (h : AutologinDone ds self)
    (invocation : Nat) (sender : BusSender) (username : String) :
    AutologinDone ds
      (self.handleOpenReauthenticationChannel around invocation sender username) := by
  unfold GdmManager.handleOpenReauthenticationChannel
  dsimp only
  split
  · exact h.of_books rfl
  · refine AutologinDone.openReauthenticationChannel ?_ _ _ _ _
    exact h.of_books rfl

/-! ## Runs -/

theorem Linked.autologinDone_handleEvent (h : Linked ks ds self) (hdone : AutologinDone ds self)
    (event : ManagerEvent) : AutologinDone ds (self.handleEvent around event) := by
  have hcalled : AutologinDone ds { self with nextInvocation := self.nextInvocation + 1 } :=
    hdone.of_books rfl
  cases event with
  | session k event =>
    simp only [GdmManager.handleEvent]
    split
    · exact hdone
    · exact hdone.receive event
  | idle => exact h.autologinDone_handleIdle hdone
  | displayAdded display => exact hdone.addDisplay display
  | displayStatus d status => exact hdone.setDisplayStatus status
  | displaySessionId d sessionId => exact hdone.modifyDisplay fun _ => ⟨rfl, rfl⟩
  | displayRemoved d => exact hdone.removeDisplay
  | userLoaded d userExists => exact hdone.onUserIsLoadedChanged userExists
  | registerDisplay sender => exact hcalled.handleRegisterDisplay _ sender
  | registerSession sender => exact hcalled.handleRegisterSession _ sender
  | openSession sender => exact hcalled.of_books (displayBooks_handleOpenSession _ sender)
  | openReauthenticationChannel sender username =>
    exact hcalled.handleOpenReauthenticationChannel _ sender username

theorem Linked.autologinDone_step (h : Linked ks ds self) (hdone : AutologinDone ds self)
    (event : ManagerEvent × ManagerSurroundings) : AutologinDone ds (self.step event) := by
  unfold GdmManager.step
  split
  · exact h.autologinDone_handleEvent hdone event.1
  · exact hdone

/-- What has been done stays done. -/
theorem Linked.autologinDone_run (h : Linked [] [] self) (hdone : AutologinDone [] self)
    (events : List (ManagerEvent × ManagerSurroundings)) :
    AutologinDone [] (machine.run self events) :=
  (EventMachine.run_invariant (fun m => Linked [] [] m ∧ AutologinDone [] m)
    (fun _ event hm => ⟨hm.1.step event, hm.1.autologinDone_step hm.2 event⟩) events
    ⟨h, hdone⟩).2

theorem AutologinDone.getAutomaticLoginDetails (h : AutologinDone ds self) (settings : Settings)
    {x : GdmDisplay} (hown : x.autologinUser = none) :
    self.getAutomaticLoginDetails settings x = none := by
  unfold GdmManager.getAutomaticLoginDetails
  rw [hown]
  refine if_neg ?_
  rintro ⟨-, hdid, hdisplay, -⟩
  rcases h with hdone | ⟨d, hd, -⟩
  · rw [hdid] at hdone
    cases hdone
  · rw [hdisplay] at hd
    cases hd

/-- The next operation starts a session for the service of automatic logins, while no
client is connected: it does not just switch to another session. -/
structure StartsUnattended (m : GdmManager) (around : ManagerSurroundings) (k : Nat) : Prop where
  running : m.running = true
  queued : ∃ rest, m.idle = .startUserSession k "gdm-autologin" :: rest
  unattended : m.isUnattendedAutologin k "gdm-autologin" = true
  started : ∃ new, (m.step (.idle, around)).log = m.log ++ new ∧
    .startedSession k "gdm-autologin" ∈ new

theorem Linked.autologinDone_of_startsUnattended (h : Linked ks ds self)
    (hstarts : StartsUnattended self around k) :
    AutologinDone ds (self.step (.idle, around)) := by
  obtain ⟨hrunning, ⟨rest, hidle⟩, hunattended, new, hlog, hnew⟩ := hstarts
  have hstep : self.step (.idle, around) =
      { self with idle := rest }.onStartUserSession around k "gdm-autologin" := by
    simp only [GdmManager.step, hrunning, if_true, GdmManager.handleEvent,
      GdmManager.handleIdle, hidle]
  rw [hstep] at hlog ⊢
  have hpopped := h.takeIdle hidle
  have hunattended' :
      { self with idle := rest }.isUnattendedAutologin k "gdm-autologin" = true := hunattended
  have hlog' : ({ self with idle := rest } : GdmManager).log = self.log := rfl
  rw [← hlog'] at hlog
  generalize ({ self with idle := rest } : GdmManager) = m at hpopped hunattended' hlog ⊢
  have hswitched : Linked (k :: ks) ds (m.switchToCompatibleUserSession around k k true).1 :=
    hpopped.switchToCompatibleUserSession k true
  have hsessions : (m.switchToCompatibleUserSession around k k true).1.sessions = m.sessions :=
    (switchToCompatibleUserSession_same k true).2
  have htouches : Touches (fun effect => effect.isSwitch) m
      (m.switchToCompatibleUserSession around k k true).1 :=
    touches_switchToCompatibleUserSession k true
  obtain ⟨switches, hswitches, hkind⟩ := htouches.log
  -- a session that is only switched to leaves nothing but what logind is asked for
  have hno : (m.switchToCompatibleUserSession around k k true).1.log = m.log ++ new → False := by
    intro heq
    obtain rfl := List.append_cancel_left (hswitches.symm.trans heq)
    cases hkind _ hnew
  unfold GdmManager.onStartUserSession at hlog ⊢
  dsimp only at hlog ⊢
  split at hlog
  · exact (hno hlog).elim
  · split at hlog
    · rw [arranges_unrefSession.log] at hlog
      exact (hno hlog).elim
    · rename_i hcrashed hmigrated
      rw [if_neg hcrashed, if_neg hmigrated]
      have hunattended'' : (m.switchToCompatibleUserSession around k k
          true).1.isUnattendedAutologin k "gdm-autologin" = true := by
        unfold GdmManager.isUnattendedAutologin at hunattended' ⊢
        rw [hsessions]
        exact hunattended'
      have hmoved : AutologinDone ds ((m.switchToCompatibleUserSession around k k
          true).1.moveToOwnDisplay around k "gdm-autologin") :=
        hswitched.autologinDone_moveToOwnDisplay List.mem_cons_self (.inr hunattended'')
      exact hmoved.of_books (by simp)

/-- Once a session has been started for an automatic login with no client connected, in
no continuation of the run are the details of the configured automatic login handed out
again for a display that has no user of its own. -/
theorem configured_automatic_login_once (events later : List (ManagerEvent × ManagerSurroundings))
    {k : Nat} (hstarts : StartsUnattended (machine.run {} events) around k) (settings : Settings)
    {x : GdmDisplay} (hown : x.autologinUser = none) :
    (machine.run {} (events ++ (.idle, around) :: later)).getAutomaticLoginDetails settings x =
      none := by
  have hlinked := linked_run events
  have hdone := hlinked.autologinDone_of_startsUnattended hstarts
  rw [EventMachine.run_append, EventMachine.run_cons]
  exact ((hlinked.step (.idle, around)).autologinDone_run hdone later).getAutomaticLoginDetails
    settings hown

/-- An automatic login is configured. -/
def configuredLogin : ManagerSurroundings :=
  { settings := { automaticLoginEnable := some true, automaticLogin := "alice" } }

/-- The automatic login on the seat, as far as the opening of the session. -/
def automaticLogin : List (ManagerEvent × ManagerSurroundings) :=
  [.displayAdded { seatId := some "seat0" }, .displayStatus 0 .prepared,
    .session 0 (.hello 1000),
    .session 0 (.workerAnswers 0 (.Initialize [.service "gdm-autologin", .extensions [],
      .username "alice", .displayIsLocal true, .seatId "seat0"]) (.Initialize (some "alice"))),
    .session 0 (.deliver 0),
    .session 0 (.workerAnswers 0 .Authenticate (.Authenticate (some "alice"))),
    .session 0 (.deliver 0),
    .session 0 (.workerAnswers 0 .Authorize .Authorize),
    .session 0 (.deliver 0),
    .session 0 (.workerAnswers 0 .EstablishCredentials .EstablishCredentials),
    .session 0 (.deliver 0),
    .session 0 (.workerAnswers 0 .Open (.Open "c1")),
    .session 0 (.deliver 0)].map fun event => (event, configuredLogin)

/-- The session is started, and a display that comes later on the seat has a greeter. -/
theorem configured_automatic_login_once_seat :
    (machine.run {} (automaticLogin ++ (.idle, configuredLogin) ::
      [(.displayAdded { seatId := some "seat0" }, configuredLogin)])).getAutomaticLoginDetails
        configuredLogin.settings { seatId := some "seat0" } = none :=
  configured_automatic_login_once automaticLogin _
    (⟨by decide +kernel, ⟨[], by decide +kernel⟩, by decide +kernel,
      [.startedSession 0 "gdm-autologin"], by decide +kernel, List.mem_singleton.mpr rfl⟩ :
        StartsUnattended _ configuredLogin 0) configuredLogin.settings rfl

end GdmManager

end Gdm
