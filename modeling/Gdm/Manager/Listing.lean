import Gdm.Manager.Projection
import Gdm.Session.Signals

/-!
# The list of the sessions of users

A session is put into `user_sessions` when it is opened, and taken out when it fails to
start or comes to its end.  A reset does not take it out, so that the list is as it
should be only as long as no session of the list is reset or opened once more.
-/

namespace Gdm

/-- Whether an entry tells that the session `k` is put into the list, or taken out. -/
def ManagerEffect.lists (k : Nat) : ManagerEffect → Option Bool
  | listed j => if j = k then some true else none
  | unlisted j => if j = k then some false else none
  | _ => none

/-- The session has been opened and not been reset since. -/
def OpenedSinceReset (log : List SessionEffect) : Prop :=
  ∃ effect ∈ recent log, SessionEffect.isOpening effect = true

instance (log : List SessionEffect) : Decidable (OpenedSinceReset log) :=
  inferInstanceAs (Decidable (∃ effect ∈ recent log, SessionEffect.isOpening effect = true))

theorem OpenedSinceReset.append {log new : List SessionEffect} (h : OpenedSinceReset log)
    (hnew : .reset ∉ new) : OpenedSinceReset (log ++ new) := by
  obtain ⟨effect, heffect, hopening⟩ := h
  refine ⟨effect, ?_, hopening⟩
  rw [recent_append hnew]
  exact List.mem_append_left _ heffect

theorem openedSinceReset_concat (log : List SessionEffect) (serviceName sessionId : String) :
    OpenedSinceReset (log ++ [.signal (.sessionOpened serviceName sessionId)]) := by
  refine ⟨.signal (.sessionOpened serviceName sessionId), ?_, rfl⟩
  rw [recent_append (by simp)]
  exact List.mem_append_right _ (by simp)

namespace GdmManager

variable {self self' : GdmManager} {around : ManagerSurroundings} {k : Nat}
  {P : ManagerEffect → Prop}

/-- The list has each session once, and only sessions that are open; what has been
taken out last is not in it. -/
structure Registered (m : GdmManager) : Prop where
  once : m.userSessions.Nodup
  opened : ∀ k ∈ m.userSessions, ∃ s, m.sessions[k]? = some s ∧ OpenedSinceReset s.session.log
  removed : ∀ k, History.lastSome (ManagerEffect.lists k) m.log = some false → k ∉ m.userSessions

/-! ## The condition -/

/-- The user of a session has another session, which can be switched to. -/
def migrates (self : GdmManager) (around : ManagerSurroundings) (k : Nat) : Bool :=
  match self.sessions[k]? with
  | none => false
  | some s =>
    match self.findSessionForUser s.session.getUsername (some k) with
    | none => false
    | some existing =>
      match (self.sessions[existing]?).bind fun s => s.session.getSessionId with
      | none => false
      | some sessionId =>
        s.session.displaySeatId.isNone || (sessionId.isSome && around.activates)

/-- The session that a step resets, or finds open. -/
def reuses (self : GdmManager) (event : ManagerEvent × ManagerSurroundings) : Option Nat :=
  match event.1 with
  | .session k event =>
    if (self.sessions[k]?).any fun s => s.session.opensSession event then some k else none
  | .idle =>
    match self.idle with
    | .resetSession k :: _ => some k
    | .startUserSession k _ :: _ => if self.migrates event.2 k then some k else none
    | [] => none
  | _ => none

/-- A session that the step resets or opens is not in the list. -/
def ReusesUnlisted (self : GdmManager) (event : ManagerEvent × ManagerSurroundings) : Prop :=
  ∀ k ∈ self.reuses event, k ∉ self.userSessions

instance (event : ManagerEvent × ManagerSurroundings) : Decidable (self.ReusesUnlisted event) :=
  inferInstanceAs (Decidable (∀ k ∈ self.reuses event, k ∉ self.userSessions))

theorem switch_eq_migrates (behalf : Nat) :
    (self.switchToCompatibleUserSession around behalf k true).2 = self.migrates around k := by
  unfold switchToCompatibleUserSession migrates
  cases self.sessions[k]? with
  | none => rfl
  | some s =>
    simp only [if_true]
    cases self.findSessionForUser s.session.getUsername (some k) with
    | none => rfl
    | some existing =>
      cases hexisting : (self.sessions[existing]?).bind fun s => s.session.getSessionId with
      | none => simp only [hexisting]
      | some sessionId =>
        simp only [hexisting, jumpToSession]
        cases s.session.displaySeatId <;> cases sessionId <;> cases around.activates <;> rfl

/-! ## The invariant -/

/-- The list while the signals of the sessions in `ks` are handled.  A session that has
been disposed of is in no list, which the pointers show. -/
structure Lists (ks : List Nat) (m : GdmManager) : Prop where
  once : m.userSessions.Nodup
  owned : ∀ k ∈ m.userSessions, ∃ s, m.sessions[k]? = some s ∧ s.session.owner = .userSession
  opened : ∀ k ∈ m.userSessions, k ∉ ks → ∀ s, m.sessions[k]? = some s →
    s.disposed = true ∨ OpenedSinceReset s.session.log
  removed : ∀ k, History.lastSome (ManagerEffect.lists k) m.log = some false → k ∉ m.userSessions

variable {ks : List Nat}

/-- Neither the sessions nor the list are touched. -/
theorem Lists.retains (h : Lists ks self) (hretains : Retains self self')
    (huserSessions : self'.userSessions = self.userSessions)
    (hlog : ∃ new, self'.log = self.log ++ new ∧
      ∀ effect ∈ new, ∀ j, ManagerEffect.lists j effect = none) : Lists ks self' := by
  obtain ⟨new, hlog, hnew⟩ := hlog
  refine ⟨huserSessions ▸ h.once, ?_, ?_, ?_⟩
  · intro k hk
    rw [huserSessions] at hk
    obtain ⟨s, hs, howner⟩ := h.owned k hk
    obtain ⟨s', hs', hretained, _⟩ := hretains.sessions k s hs
    exact ⟨s', hs', hretained.owner.trans howner⟩
  · intro k hk hnot s' hs'
    rw [huserSessions] at hk
    obtain ⟨s, hs, _⟩ := h.owned k hk
    obtain ⟨t, ht, hretained, _⟩ := hretains.sessions k s hs
    rw [hs'] at ht
    cases ht
    rcases hretained with ⟨hsession, hdisposed, _⟩ | ⟨_, _, hdisposed, _⟩
    · rw [hsession, hdisposed]
      exact h.opened k hk hnot s hs
    · exact .inl hdisposed
  · intro k hk
    rw [huserSessions]
    refine h.removed k ?_
    rw [hlog, History.lastSome_append fun effect heffect => hnew effect heffect k] at hk
    exact hk

theorem Lists.touches (h : Lists ks self) (htouches : Touches P self self')
    (hP : ∀ effect, P effect → ∀ j, ManagerEffect.lists j effect = none) : Lists ks self' := by
  obtain ⟨new, hlog, hnew⟩ := htouches.log
  exact h.retains htouches.retains htouches.userSessions
    ⟨new, hlog, fun effect heffect => hP effect (hnew effect heffect)⟩

theorem Lists.arranges (h : Lists ks self) (harranges : Arranges self self') : Lists ks self' :=
  h.touches (P := fun _ => False) harranges.touches fun _ hfalse => hfalse.elim

/-- An entry that has nothing to do with the list. -/
theorem Lists.emit (h : Lists ks self) {effect : ManagerEffect}
    (heffect : ∀ j, ManagerEffect.lists j effect = none) : Lists ks (self.emit effect) :=
  h.retains (.of_eq rfl) rfl ⟨[effect], rfl, by simpa using heffect⟩

theorem Lists.of_eq (h : Lists ks self) (hsessions : self'.sessions = self.sessions)
    (huserSessions : self'.userSessions = self.userSessions) (hlog : self'.log = self.log) :
    Lists ks self' :=
  h.retains (.of_eq hsessions) huserSessions ⟨[], by rw [hlog, List.append_nil], by simp⟩

theorem lists_of_isSwitch (effect : ManagerEffect) (h : effect.isSwitch = true) (j : Nat) :
    ManagerEffect.lists j effect = none := by
  cases effect with
  | listed
  | unlisted => cases h
  | _ => rfl

theorem lists_of_isTermination (effect : ManagerEffect) (h : effect.isTermination = true)
    (j : Nat) : ManagerEffect.lists j effect = none := by
  cases effect with
  | listed
  | unlisted => cases h
  | _ => rfl

/-- What is done to a session that is not in the list, or in `ks`. -/
theorem Lists.modifySession (h : Lists ks self) {f : ManagedSession → ManagedSession}
    (howner : ∀ s, self.sessions[k]? = some s → (f s).session.owner = s.session.owner)
    (hopened : k ∈ self.userSessions → k ∉ ks → ∀ s, self.sessions[k]? = some s →
      s.disposed = true ∨ OpenedSinceReset s.session.log →
      (f s).disposed = true ∨ OpenedSinceReset (f s).session.log) :
    Lists ks (self.modifySession k f) := by
  refine ⟨h.once, ?_, ?_, h.removed⟩
  · intro j hj
    obtain ⟨s, hs, hown⟩ := h.owned j hj
    rw [getElem?_modifySession]
    split
    · rename_i hkj
      subst hkj
      exact ⟨f s, by rw [hs]; rfl, (howner s hs).trans hown⟩
    · exact ⟨s, hs, hown⟩
  · intro j hj hnot t ht
    rw [getElem?_modifySession] at ht
    split at ht
    · rename_i hkj
      subst hkj
      obtain ⟨s, hs, rfl⟩ := Option.map_eq_some_iff.mp ht
      exact hopened hj hnot s hs (h.opened k hj hnot s hs)
    · exact h.opened j hj hnot t ht

/-- A function that is called on a session resets it only when it is not in the list. -/
theorem Lists.callSession (h : Lists [] self) (hprojects : Projects self) (call : OwnerCall)
    (hcall : k ∈ self.userSessions → call ≠ .reset ∧ call ≠ .close) :
    Lists [] (self.callSession k around call) := by
  refine h.modifySession (fun s hs => GdmSession.step_owner (hprojects k s hs).wellFormed _) ?_
  intro hk _ s hs hopened
  obtain ⟨hreset, hclose⟩ := hcall hk
  have hcloses : s.session.closes around.session (.owner call) = false := by
    cases call with
    | reset => exact absurd rfl hreset
    | close => exact absurd rfl hclose
    | _ => rfl
  obtain ⟨new, hlog, hnew⟩ := GdmSession.step_keeps (hprojects k s hs).wellFormed
    (.owner call, around.session) hcloses
  refine hopened.imp id fun hopened => ?_
  show OpenedSinceReset (s.session.step (.owner call, around.session)).log
  rw [hlog]
  exact hopened.append hnew

/-! ## The signals of a session -/

theorem lists_append {j : Nat} {log : List ManagerEffect} {effect : ManagerEffect} :
    History.lastSome (ManagerEffect.lists j) (log ++ [effect]) =
      (ManagerEffect.lists j effect <|> History.lastSome (ManagerEffect.lists j) log) := by
  cases heffect : ManagerEffect.lists j effect with
  | none => exact History.lastSome_append (by simp [heffect])
  | some b => exact History.lastSome_concat heffect

/-- A session that is not in the list is put into it. -/
theorem Lists.onUserSessionOpened (h : Lists [] self) {s : ManagedSession}
    (hs : self.sessions[k]? = some s) (howner : s.session.owner = .userSession)
    (hopened : s.disposed = true ∨ OpenedSinceReset s.session.log) (hk : k ∉ self.userSessions)
    (serviceName : String) : Lists [] (self.onUserSessionOpened k serviceName) := by
  have hlisted : Lists [] ({ self with userSessions := self.userSessions ++ [k] }.emit
      (.listed k)) := by
    refine ⟨?_, ?_, ?_, ?_⟩
    · refine List.nodup_append.mpr ⟨h.once, List.nodup_singleton k, ?_⟩
      rintro j hj _ hnew rfl
      exact hk (List.mem_singleton.mp hnew ▸ hj)
    · intro j hj
      rcases List.mem_append.mp hj with hj | hj
      · exact h.owned j hj
      · rw [List.mem_singleton.mp hj]
        exact ⟨s, hs, howner⟩
    · intro j hj hnot t ht
      rcases List.mem_append.mp hj with hj | hj
      · exact h.opened j hj hnot t ht
      · have ht' : self.sessions[j]? = some t := ht
        rw [List.mem_singleton.mp hj, hs] at ht'
        cases ht'
        exact hopened
    · intro j hj
      have hlast : History.lastSome (ManagerEffect.lists j) (self.log ++ [.listed k]) =
        some false := hj
      rw [lists_append] at hlast
      intro hmem
      by_cases hkj : k = j
      · simp [ManagerEffect.lists, hkj] at hlast
      · simp only [ManagerEffect.lists, if_neg hkj] at hlast
        rcases List.mem_append.mp hmem with hmem | hmem
        · exact h.removed j hlast hmem
        · exact hkj (List.mem_singleton.mp hmem).symm
  have hready : ∀ {m : GdmManager}, Lists [] m →
      Lists [] (m.startUserSessionIfReady k serviceName) :=
    fun hm => hm.touches (P := fun _ => False) (touches_startUserSessionIfReady serviceName)
      fun _ hfalse => hfalse.elim
  have hkept := hlisted.arranges (arranges_refSession (k := k))
  have hwilling := hkept.modifySession (k := k)
    (f := fun s => { s with startWhenReady := true }) (fun _ _ => rfl) fun _ _ _ _ hold => hold
  unfold GdmManager.onUserSessionOpened
  dsimp only
  split
  · exact hready hwilling
  · exact hready hkept

/-- A session that comes to its end is taken out. -/
theorem Lists.removeUserSession (h : Lists ks self) (k : Nat) :
    Lists ks (self.removeUserSession k) ∧ k ∉ (self.removeUserSession k).userSessions ∧
      ∀ j ∈ (self.removeUserSession k).userSessions, j ∈ self.userSessions := by
  have harranges : Arranges self (self.onDisplay (self.getDisplayForUserSession k) endDisplay) :=
    arranges_onDisplay (fun _ => arranges_endDisplay) _
  have hended := h.arranges harranges
  unfold GdmManager.removeUserSession
  dsimp only
  split
  · rename_i hmem
    have herased : Lists ks
        ({ self.onDisplay (self.getDisplayForUserSession k) endDisplay with
            userSessions := (self.onDisplay (self.getDisplayForUserSession k)
              endDisplay).userSessions.erase k }.emit (.unlisted k)) := by
      refine ⟨hended.once.erase k, fun j hj => hended.owned j (List.mem_of_mem_erase hj),
        fun j hj => hended.opened j (List.mem_of_mem_erase hj), ?_⟩
      intro j hj hmemj
      have hlast : History.lastSome (ManagerEffect.lists j)
        ((self.onDisplay (self.getDisplayForUserSession k) endDisplay).log ++ [.unlisted k]) =
          some false := hj
      rw [lists_append] at hlast
      by_cases hkj : k = j
      · subst hkj
        exact hended.once.not_mem_erase hmemj
      · simp only [ManagerEffect.lists, if_neg hkj] at hlast
        exact hended.removed j hlast (List.mem_of_mem_erase hmemj)
    refine ⟨herased.arranges arranges_unrefSession, ?_, ?_⟩
    · rw [arranges_unrefSession.userSessions]
      exact hended.once.not_mem_erase
    · intro j hj
      rw [arranges_unrefSession.userSessions] at hj
      rw [← harranges.userSessions]
      exact List.mem_of_mem_erase hj
  · rename_i hmem
    refine ⟨hended, hmem, fun j hj => ?_⟩
    rw [harranges.userSessions] at hj
    exact hj

/-- The handling of an entry that does not say that the session is open. -/
theorem Lists.handleEffect (h : Lists ks self) (around : ManagerSurroundings) (k : Nat)
    (owner : Owner) (isOwnClient : Bool) {effect : SessionEffect}
    (heffect : owner = .userSession → effect.isOpening = false) :
    Lists ks (handleEffect around k owner isOwnClient self effect) ∧
      (∀ j ∈ (GdmManager.handleEffect around k owner isOwnClient self effect).userSessions,
        j ∈ self.userSessions) ∧
      (owner = .userSession → effect.isRemoval = true →
        k ∉ (GdmManager.handleEffect around k owner isOwnClient self effect).userSessions) := by
  have hremoved : Lists ks (self.removeUserSession k) ∧
      (∀ j ∈ (self.removeUserSession k).userSessions, j ∈ self.userSessions) ∧
      (owner = .userSession → effect.isRemoval = true →
        k ∉ (self.removeUserSession k).userSessions) := by
    obtain ⟨hlists, hgone, hsubset⟩ := h.removeUserSession k
    exact ⟨hlists, hsubset, fun _ _ => hgone⟩
  have hsame : ∀ m : GdmManager, Lists ks m → m.userSessions = self.userSessions →
      (owner = .userSession → effect.isRemoval = false) →
      Lists ks m ∧ (∀ j ∈ m.userSessions, j ∈ self.userSessions) ∧
        (owner = .userSession → effect.isRemoval = true → k ∉ m.userSessions) := by
    intro m hm huserSessions hnot
    refine ⟨hm, fun j hj => huserSessions ▸ hj, fun howner hremoval => ?_⟩
    rw [hnot howner] at hremoval
    cases hremoval
  have hnone : ∀ effect : ManagerEffect, False → ∀ j, ManagerEffect.lists j effect = none :=
    fun _ hfalse => hfalse.elim
  cases effect with
  | signal signal =>
    cases owner with
    | userSession =>
      cases signal with
      | reauthenticationStarted pidOfCaller address =>
        refine hsame (self.onSessionReauthenticationStarted pidOfCaller address) ?_ ?_ fun _ => rfl
        · unfold onSessionReauthenticationStarted
          split
          · exact h
          · refine Lists.emit ?_ fun _ => rfl
            exact h.of_eq rfl rfl rfl
        · unfold onSessionReauthenticationStarted
          split <;> rfl
      | reauthenticated _ pidOfCaller _ =>
        have htouches : Touches (fun effect => effect.isSwitch) self
            (self.onSessionReauthenticated around k pidOfCaller) :=
          touches_onSessionReauthenticated pidOfCaller
        exact hsame _ (h.touches htouches lists_of_isSwitch) htouches.userSessions fun _ => rfl
      | stopConflictingSession _ =>
        have htouches : Touches (fun effect => effect.isTermination) self
            (self.onStopConflictingSession around) := touches_onStopConflictingSession
        exact hsame _ (h.touches htouches lists_of_isTermination) htouches.userSessions fun _ => rfl
      | clientReadyForSessionToStart serviceName clientIsReady =>
        have htouches : Touches (fun _ => False) self
            (self.onSessionClientReadyForSessionToStart k serviceName clientIsReady) :=
          touches_onSessionClientReadyForSessionToStart serviceName clientIsReady
        exact hsame _ (h.touches htouches hnone) htouches.userSessions fun _ => rfl
      | cancelled =>
        have htouches : Touches (fun _ => False) self (self.queueSessionReset k) :=
          touches_queueSessionReset
        exact hsame _ (h.touches htouches hnone) htouches.userSessions fun _ => rfl
      | sessionOpened _ _ => cases heffect rfl
      | sessionStartFailed _ _ => exact hremoved
      | sessionExited _ _ => exact hremoved
      | sessionDied _ _ => exact hremoved
      | _ => exact hsame self h rfl fun _ => rfl
    | transient =>
      have htouches : Touches (fun effect => effect.isSwitch) self
          (self.handleTransient around k isOwnClient signal) :=
        touches_handleTransient isOwnClient signal
      exact hsame _ (h.touches htouches lists_of_isSwitch) htouches.userSessions
        fun howner => by cases howner
    | launchEnvironment => exact hsame self h rfl fun howner => by cases howner
    | reauthenticationRequest => exact hsame self h rfl fun howner => by cases howner
  | _ => exact hsame self h rfl fun _ => rfl

theorem Lists.foldEffects (h : Lists ks self) (around : ManagerSurroundings) (k : Nat)
    (owner : Owner) (isOwnClient : Bool) (effects : List SessionEffect)
    (heffects : ∀ effect ∈ effects, owner = .userSession → effect.isOpening = false) :
    Lists ks (effects.foldl (GdmManager.handleEffect around k owner isOwnClient) self) ∧
      (∀ j ∈ (effects.foldl (GdmManager.handleEffect around k owner isOwnClient) self).userSessions,
        j ∈ self.userSessions) ∧
      (owner = .userSession → (∃ effect ∈ effects, effect.isRemoval = true) →
        k ∉ (effects.foldl (GdmManager.handleEffect around k owner isOwnClient)
          self).userSessions) := by
  induction effects generalizing self with
  | nil => exact ⟨h, fun _ hj => hj, fun _ hremoval => by simp at hremoval⟩
  | cons effect rest ih =>
    obtain ⟨hlists, hsubset, hgone⟩ := h.handleEffect around k owner isOwnClient
      (heffects effect List.mem_cons_self)
    obtain ⟨hlists', hsubset', hgone'⟩ := ih hlists fun effect heffect =>
      heffects effect (List.mem_cons_of_mem _ heffect)
    refine ⟨hlists', fun j hj => hsubset j (hsubset' j hj), ?_⟩
    rintro howner ⟨removal, hmem, hremoval⟩
    rcases List.mem_cons.mp hmem with rfl | hmem
    · exact fun hk => hgone howner hremoval (hsubset' k hk)
    · exact hgone' howner ⟨removal, hmem, hremoval⟩

/-! ## The events -/

/-- A session with what an event makes of it. -/
def stepped (self : GdmManager) (k : Nat) (session : GdmSession) : GdmManager :=
  (self.modifySession k fun s => { s with session := session }).refSession k

theorem stepped_sessions {s : ManagedSession} (hs : self.sessions[k]? = some s)
    (session : GdmSession) :
    (self.stepped k session).sessions[k]? =
      some { s with session := session, refs := s.refs + 1 } :=
  getElem?_modifySession_self (getElem?_modifySession_self hs)

/-- What is left of the session when the manager has handled what it tells. -/
theorem session_of_retains {s : ManagedSession} (hs : self.sessions[k]? = some s)
    {session : GdmSession} (h : Retains (self.stepped k session) self') :
    ∃ t, self'.sessions[k]? = some t ∧ t.session.owner = session.owner ∧
      (t.disposed = true ∨ t.session = session) := by
  obtain ⟨t, ht, hretained, _⟩ := h.sessions k _ (stepped_sessions hs session)
  refine ⟨t, ht, hretained.owner, ?_⟩
  rcases hretained with ⟨hsession, _⟩ | ⟨_, _, hdisposed, _⟩
  · exact .inr hsession
  · exact .inl hdisposed

theorem Lists.stepped (h : Lists [] self) {s : ManagedSession} (hs : self.sessions[k]? = some s)
    {session : GdmSession} (howner : session.owner = s.session.owner)
    (hks : k ∈ self.userSessions → k ∈ ks) : Lists ks (self.stepped k session) := by
  have hweak : Lists ks self :=
    ⟨h.once, h.owned, fun j hj _ => h.opened j hj (by simp), h.removed⟩
  have hmodified : Lists ks (self.modifySession k fun s => { s with session := session }) := by
    refine hweak.modifySession (fun t ht => ?_) fun hk hnot => absurd (hks hk) hnot
    rw [hs] at ht
    cases ht
    exact howner
  exact hmodified.arranges arranges_refSession

/-- An event of a session, unless it opens a session that is in the list. -/
theorem Lists.receive (h : Lists [] self) (hprojects : Projects self)
    (hrunning : self.running = true) {event : SessionEvent}
    (hcall : isOwnerCall event = false)
    (hopens : ∀ s, self.sessions[k]? = some s → s.session.opensSession event = true →
      k ∉ self.userSessions) : Lists [] (self.receive around k event) := by
  unfold GdmManager.receive
  split
  · exact h
  · rename_i s hs
    split
    · exact h
    · rename_i hlive
      refine Lists.arranges ?_ arranges_unrefSession
      obtain ⟨outside, houtside⟩ : ∃ a, a = self.surroundings around k s event := ⟨_, rfl⟩
      simp only [← houtside]
      have hw := (hprojects k s hs).wellFormed
      have howner := GdmSession.step_owner hw (event, outside)
      have hstatus : s.session.status = .running := by
        have hall := (Bool.and_eq_true_iff.mp hrunning).2
        exact of_decide_eq_true (List.all_eq_true.mp hall s (List.mem_of_getElem? hs))
      by_cases hdisplay : s.session.owner = .userSession
      · by_cases hopen : s.session.opensSession event = true
        · obtain ⟨before, serviceName, sessionId, hlog, hbefore⟩ :=
            GdmSession.step_opens hdisplay hstatus (event, outside) hopen
          have hk := hopens s hs hopen
          have hnew : (s.session.step (event, outside)).log.drop s.session.log.length =
              before ++ [.signal (.sessionOpened serviceName sessionId)] := by
            simp [hlog]
          rw [hnew, List.foldl_append]
          have hstepped : Lists [] (self.stepped k (s.session.step (event, outside))) :=
            h.stepped hs howner fun hmem => absurd hmem hk
          obtain ⟨hlists, hsubset, _⟩ := hstepped.foldEffects around k s.session.owner
            (isOwnClient s around event) before fun effect heffect _ => (hbefore effect heffect).2.1
          obtain ⟨t, ht, htowner, hleft⟩ := session_of_retains hs
            (retains_foldEffects around s.session.owner (isOwnClient s around event) before)
          rw [hdisplay]
          refine Lists.onUserSessionOpened (s := t) ?_ ?_ ?_ ?_ ?_ serviceName
          · rw [← hdisplay]
            exact hlists
          · rw [← hdisplay]
            exact ht
          · rw [htowner, howner, hdisplay]
          · refine hleft.imp id fun hsession => ?_
            rw [hsession, hlog]
            exact openedSinceReset_concat _ _ _
          · rw [← hdisplay]
            exact fun hmem => hk (hsubset k hmem)
        · obtain ⟨new, hlog, hnew⟩ := GdmSession.step_reasons hw (event, outside)
          have hdrop : (s.session.step (event, outside)).log.drop s.session.log.length = new := by
            simp [hlog]
          rw [hdrop]
          have hclosed : ∀ effect ∈ new, effect.isOpening = false := by
            intro effect heffect
            cases hopening : effect.isOpening with
            | false => rfl
            | true =>
              rcases hnew effect heffect with ⟨id, message, rfl⟩ | ⟨u, _, hreason⟩
              · cases hopening
              · exact absurd (GdmSession.opensSession_of_reason hopening hreason) hopen
          have hstepped : Lists [k] (self.stepped k (s.session.step (event, outside))) :=
            h.stepped hs howner fun _ => List.mem_singleton_self k
          obtain ⟨hlists, hsubset, hgone⟩ := hstepped.foldEffects around k s.session.owner
            (isOwnClient s around event) new fun effect heffect _ => hclosed effect heffect
          refine ⟨hlists.once, hlists.owned, ?_, hlists.removed⟩
          intro j hj _ u hu
          by_cases hjk : j ∈ [k]
          · rw [List.mem_singleton.mp hjk] at hj hu
            have hstays : ¬ ∃ effect ∈ new, effect.isRemoval = true := fun hremoval =>
              hgone hdisplay hremoval hj
            have hcloses : s.session.closes outside event = false := by
              cases hcloses : s.session.closes outside event with
              | false => rfl
              | true =>
                obtain ⟨before, signal, after, hremoves, hlog'⟩ := GdmSession.step_closes hdisplay
                  hstatus (fun call heq => by rw [heq] at hcall; cases hcall) hcloses
                have heq : new = before ++ .signal signal :: after :=
                  List.append_cancel_left (hlog.symm.trans (hlog'.trans (List.append_assoc ..)))
                exact absurd ⟨.signal signal, by rw [heq]; simp, hremoves⟩ hstays
            obtain ⟨new', hlog', hreset⟩ := GdmSession.step_keeps hw (event, outside) hcloses
            obtain ⟨t, ht, _, hleft⟩ := session_of_retains hs
              (retains_foldEffects around s.session.owner (isOwnClient s around event) new)
            have hut : u = t := Option.some.inj (hu.symm.trans ht)
            rw [hut]
            refine hleft.imp id fun hsession => ?_
            rcases h.opened k (hsubset k hj) (by simp) s hs with hdisposed | hopened
            · exact absurd hdisposed hlive
            · rw [hsession, hlog']
              exact hopened.append hreset
          · exact hlists.opened j hj hjk u hu
      · have hk : k ∉ self.userSessions := by
          intro hk
          obtain ⟨t, ht, htowner⟩ := h.owned k hk
          rw [hs] at ht
          cases ht
          exact hdisplay htowner
        have hstepped : Lists [] (self.stepped k (s.session.step (event, outside))) :=
          h.stepped hs howner fun hmem => absurd hmem hk
        exact (hstepped.foldEffects around k s.session.owner (isOwnClient s around event) _
          fun _ _ howner => absurd howner hdisplay).1

theorem Lists.onStartUserSession (h : Lists [] self) (hprojects : Projects self)
    (hmigrates : self.migrates around k = true → k ∉ self.userSessions) (serviceName : String) :
    Lists [] (self.onStartUserSession around k serviceName) := by
  have htouches : Touches (fun effect => effect.isSwitch) self
      (self.switchToCompatibleUserSession around k k true).1 :=
    touches_switchToCompatibleUserSession k true
  have hswitched := h.touches htouches lists_of_isSwitch
  have hprojected := hprojects.touches htouches
  unfold GdmManager.onStartUserSession
  dsimp only
  split
  · exact hswitched
  · split
    · rename_i hmigrated
      rw [switch_eq_migrates] at hmigrated
      refine Lists.arranges (hswitched.callSession hprojected .reset ?_) arranges_unrefSession
      intro hk
      rw [htouches.userSessions] at hk
      exact absurd hk (hmigrates hmigrated)
    · have hmoved : Arranges (self.switchToCompatibleUserSession around k k true).1
          ((self.switchToCompatibleUserSession around k k true).1.moveToOwnDisplay around k
            serviceName) := arranges_moveToOwnDisplay serviceName
      have hstarted : Lists [] (((self.switchToCompatibleUserSession around k k
          true).1.moveToOwnDisplay around k serviceName).emit (.startedSession k serviceName)) :=
        (hswitched.arranges hmoved).emit fun _ => rfl
      have hstarting := (hprojected.arranges hmoved).emit (.startedSession k serviceName)
      exact (hstarted.callSession hstarting (.startSession serviceName) fun _ =>
        ⟨OwnerCall.noConfusion, OwnerCall.noConfusion⟩).arranges arranges_unrefSession

theorem Lists.handleIdle (h : Lists [] self) (hprojects : Projects self)
    (hreuses : self.ReusesUnlisted (.idle, around)) : Lists [] (self.handleIdle around) := by
  unfold GdmManager.handleIdle
  split
  · exact h
  · rename_i k serviceName rest hidle
    have hpopped : Lists [] { self with idle := rest } := h.of_eq rfl rfl rfl
    have hprojected : Projects { self with idle := rest } := hprojects.of_eq rfl
    refine hpopped.onStartUserSession hprojected ?_ serviceName
    intro hmigrates
    have hmigrates' : self.migrates around k = true := hmigrates
    exact hreuses k (by simp [reuses, hidle, hmigrates'])
  · rename_i k rest hidle
    have hpopped : Lists [] { self with idle := rest } := h.of_eq rfl rfl rfl
    have hprojected : Projects { self with idle := rest } := hprojects.of_eq rfl
    have hk : k ∉ self.userSessions := hreuses k (by simp [reuses, hidle])
    have hreset : Lists [] ({ self with idle := rest }.callSession k around .reset) :=
      hpopped.callSession hprojected .reset fun hmem => absurd hmem hk
    have hcleared := hreset.modifySession (k := k)
      (f := fun s => { s with resetSessionOperation := false }) (fun _ _ => rfl)
      fun _ _ _ _ hold => hold
    exact hcleared.arranges arranges_unrefSession

/-- A new session is in no list. -/
theorem Lists.append (h : Lists ks self) (s : ManagedSession) :
    Lists ks { self with sessions := self.sessions ++ [s] } := by
  have hold : ∀ j ∈ self.userSessions, ∀ t, (self.sessions ++ [s])[j]? = some t →
      self.sessions[j]? = some t := by
    intro j hj t ht
    obtain ⟨u, hu, _⟩ := h.owned j hj
    rwa [List.getElem?_append_left (List.getElem?_eq_some_iff.mp hu).1] at ht
  refine ⟨h.once, ?_, fun j hj hnot t ht => h.opened j hj hnot t (hold j hj t ht), h.removed⟩
  intro j hj
  obtain ⟨u, hu, howner⟩ := h.owned j hj
  have hlt : j < self.sessions.length := (List.getElem?_eq_some_iff.mp hu).1
  exact ⟨u, (List.getElem?_append_left hlt).trans hu, howner⟩

theorem Lists.openTemporaryReauthenticationChannel (h : Lists [] self) (userSession : Option Nat)
    (seatId : Option String) (callerSessionId : String) (pid : Int) (uid : Nat)
    (isRemote : Bool) :
    Lists [] (self.openTemporaryReauthenticationChannel around userSession seatId
      callerSessionId pid uid isRemote) := by
  have hdropped : ∀ {m : GdmManager}, Lists [] m → Lists [] (m.dropTransientSession pid) :=
    fun hm => hm.touches (P := fun _ => False) (touches_dropTransientSession pid)
      fun _ hfalse => hfalse.elim
  unfold GdmManager.openTemporaryReauthenticationChannel
  dsimp only
  split
  · exact (hdropped ((h.append _).arranges arranges_refSession)).of_eq rfl rfl rfl
  · exact (hdropped (h.append _)).of_eq rfl rfl rfl

theorem Lists.openReauthenticationChannel (h : Lists [] self) (hprojects : Projects self)
    (invocation : Nat) (details : SenderDetails) (sessionId username : String) :
    Lists [] (self.openReauthenticationChannel around invocation details sessionId username) := by
  have hremembered := h.arranges (arranges_rememberCaller details)
  have hprojected := hprojects.arranges (arranges_rememberCaller details)
  unfold GdmManager.openReauthenticationChannel
  dsimp only
  split
  · exact hremembered.emit fun _ => rfl
  · split
    · rename_i k _
      have hstarted : Lists [] ((self.rememberCaller details).callSession k around
          (.startReauthentication details.pid details.uid)) :=
        hremembered.callSession hprojected _ fun _ =>
          ⟨OwnerCall.noConfusion, OwnerCall.noConfusion⟩
      exact hstarted.of_eq rfl rfl rfl
    · split
      · exact hremembered.emit fun _ => rfl
      · exact (hremembered.openTemporaryReauthenticationChannel _ _ _ _ _ _).emit fun _ => rfl

theorem Lists.handleEvent (h : Lists [] self) (hprojects : Projects self)
    (hrunning : self.running = true) {event : ManagerEvent}
    (hreuses : self.ReusesUnlisted (event, around)) :
    Lists [] (self.handleEvent around event) := by
  have hcalled : Lists [] { self with nextInvocation := self.nextInvocation + 1 } :=
    h.of_eq rfl rfl rfl
  have hprojected : Projects { self with nextInvocation := self.nextInvocation + 1 } :=
    hprojects.of_eq rfl
  cases event with
  | session k event =>
    simp only [GdmManager.handleEvent]
    split
    · exact h
    · rename_i hcall
      refine h.receive hprojects hrunning (Bool.not_eq_true _ ▸ hcall) fun s hs hopens => ?_
      exact hreuses k (by simp [reuses, hs, hopens])
  | idle => exact h.handleIdle hprojects hreuses
  | displayAdded display => exact h.of_eq rfl rfl rfl
  | displayStatus d status => exact h.arranges (arranges_setDisplayStatus status)
  | displaySessionId d sessionId => exact h.of_eq rfl rfl rfl
  | displayRemoved d => exact h.arranges arranges_removeDisplay
  | userLoaded d userExists => exact h.arranges (arranges_onUserIsLoadedChanged userExists)
  | registerDisplay sender =>
    simp only [GdmManager.handleEvent, call, handleRegisterDisplay]
    split
    · exact hcalled.emit fun _ => rfl
    · exact (hcalled.arranges (arranges_setDisplayStatus _)).emit fun _ => rfl
  | registerSession sender =>
    simp only [GdmManager.handleEvent, call, handleRegisterSession]
    split
    · exact hcalled.emit fun _ => rfl
    · split
      · rename_i k tty _ _
        exact ((hcalled.callSession hprojected (.setDisplayDevice tty) fun _ =>
          ⟨OwnerCall.noConfusion, OwnerCall.noConfusion⟩).arranges (.modifyDisplay _)).emit
            fun _ => rfl
      · exact (hcalled.arranges (.modifyDisplay _)).emit fun _ => rfl
  | openSession sender =>
    simp only [GdmManager.handleEvent, call, handleOpenSession]
    split
    · exact hcalled.emit fun _ => rfl
    · split
      · exact hcalled.of_eq rfl rfl rfl
      · split
        · exact hcalled.emit fun _ => rfl
        · split <;> exact hcalled.emit fun _ => rfl
  | openReauthenticationChannel sender username =>
    simp only [GdmManager.handleEvent, call, handleOpenReauthenticationChannel]
    have hrequested : ∀ invocation pid uid, Lists [] ({ self with
        nextInvocation := self.nextInvocation + 1 }.emit (.requested invocation pid uid)) :=
      fun _ _ _ => hcalled.emit fun _ => rfl
    split
    · exact (hrequested _ _ _).emit fun _ => rfl
    · exact (hrequested _ _ _).openReauthenticationChannel (hprojected.emit _) _ _ _ _

theorem Lists.step (h : Lists [] self) (hprojects : Projects self)
    {event : ManagerEvent × ManagerSurroundings} (hreuses : self.ReusesUnlisted event) :
    Lists [] (self.step event) := by
  unfold GdmManager.step
  split
  · rename_i hrunning
    exact h.handleEvent hprojects hrunning hreuses
  · exact h

theorem lists_run {events : List (ManagerEvent × ManagerSurroundings)}
    (h : machine.Meets ReusesUnlisted {} events) : Lists [] (machine.run {} events) := by
  have hboth : Lists [] (machine.run {} events) ∧ Projects (machine.run {} events) := by
    refine h.invariant (fun m => Lists [] m ∧ Projects m) ?_ ⟨⟨List.nodup_nil, by simp, by simp,
      by simp⟩, projects_run []⟩
    rintro m event ⟨hlists, hprojects⟩ hreuses
    exact ⟨hlists.step hprojects hreuses, hprojects.step event⟩
  exact hboth.1

/-- As long as no session of the list is reset or opened once more, the list has each
session once, only those that are open, and none that has been taken out. -/
theorem run_registered {events : List (ManagerEvent × ManagerSurroundings)}
    (h : machine.Meets ReusesUnlisted {} events) : Registered (machine.run {} events) := by
  have hlists := lists_run h
  refine ⟨hlists.once, ?_, hlists.removed⟩
  intro k hk
  -- what is in the list is referred to, and so has not been disposed of
  obtain ⟨s, hs, hlive⟩ := (linked_run events).exists_session (k := k)
    (by simp [held, heldByManager, hk])
  rcases hlists.opened k hk (by simp) s hs with hdisposed | hopened
  · rw [hlive] at hdisposed
    cases hdisposed
  · exact ⟨s, hs, hopened⟩

/-- A login whose session is started and exits. -/
def loginAndExit : List (ManagerEvent × ManagerSurroundings) :=
  greeterOnSeat ++
    ofSession 0 (passwordLogin 0 ++ [.client (.startSessionWhenReady "gdm-password" true)]) ++
    runIdle ++
    ofSession 0 [.workerAnswers 0 .StartProgram (.StartProgram 1200), .deliver 0,
      .workerSends 0 (.sessionExited "gdm-password" (.exited 0)), .deliver 0]

theorem loginAndExit_registered : Registered (machine.run {} loginAndExit) :=
  run_registered (by decide)

/-- The client cancels after the session has been opened, and logs in once more: the
session of the greeter is in the list twice. -/
theorem cancelledLogin_not_registered : ¬ Registered (machine.run {}
    (greeterOnSeat ++ ofSession 0 (passwordLogin 0 ++ [.client .cancel]) ++ runIdle ++
      ofSession 0 (passwordLogin 1))) := by
  intro h
  exact absurd h.once (by decide +kernel)

end GdmManager

end Gdm
