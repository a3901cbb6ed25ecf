import Gdm.Manager.Records

/-!
# Logins that are logged out

Every login that has been recorded is to be matched by a logout of the same process on the
same line when its session is not in the list of the manager any more.  The record of the
logout is written on an exit only, and from what the session is like then.
-/

namespace Gdm

/-- The records of a kind for a session that have the mark. -/
def recordCount (event : GdmSessionRecordEvent) (k : Nat) (mark : RecordMark)
    (records : List (Nat × SessionRecord)) : Nat :=
  records.countP fun entry => entry.1 = k ∧ entry.2.event = event ∧ entry.2.mark = mark

/-- The signal for which a logout is recorded. -/
def SessionSignal.isExit : SessionSignal → Bool
  | sessionExited _ _ => true
  | _ => false

/-- The session has a user and a process, and is on the line. -/
def GdmSession.HasMark (session : GdmSession) (mark : RecordMark) : Prop :=
  session.selectedUser ≠ none ∧ 0 ≤ session.sessionPid ∧
    mark = { pid := session.sessionPid
             line := (recordLine session.displayDevice session.displaySeatId).take 32 }

instance (session : GdmSession) (mark : RecordMark) : Decidable (session.HasMark mark) := by
  unfold GdmSession.HasMark
  infer_instance

namespace GdmManager

variable {self self' : GdmManager} {around : ManagerSurroundings} {k j : Nat} {mark : RecordMark}

/-- The signals of the session `k` that an event leads to. -/
def told (self : GdmManager) (around : ManagerSurroundings) (k : Nat) :
    ManagerEvent → List SessionSignal
  | .session j event =>
    if j = k ∧ isOwnerCall event = false then self.signalsOf around k event else []
  | _ => []

/-- How often the event tells the exit of the session, if it has the mark. -/
def exits (self : GdmManager) (around : ManagerSurroundings) (event : ManagerEvent) (k : Nat)
    (mark : RecordMark) : Nat :=
  if (self.sessions[k]?).any fun s => s.session.HasMark mark then
    (self.told around k event).countP SessionSignal.isExit
  else 0

/-- The session is in the list, and the event tells its end: that it has exited, has died or
has failed to start. -/
def TakesOut (self : GdmManager) (around : ManagerSurroundings) (event : ManagerEvent) (k : Nat) :
    Prop :=
  k ∈ self.userSessions ∧
    self.userSessions.count k ≤ (self.told around k event).countP SessionSignal.removes

end GdmManager

namespace RecordedManager

variable {self : RecordedManager} {around : ManagerSurroundings} {k : Nat} {mark : RecordMark}

/-- No logout is without a login, and each login of a session that is not in the list has its
logout. -/
structure Balanced (m : RecordedManager) : Prop where
  preceded : ∀ k mark, recordCount .logout k mark m.records ≤
    recordCount .login k mark m.records
  matched : ∀ k, k ∉ m.manager.userSessions → ∀ mark,
    recordCount .logout k mark m.records = recordCount .login k mark m.records

/-- The logins of the session that have no logout. -/
def openLogins (self : RecordedManager) (k : Nat) (mark : RecordMark) : Nat :=
  recordCount .login k mark self.records - recordCount .logout k mark self.records

/-- A session that exits is logged in with the mark that it has, and a session that leaves
the list has no other login that is open; at the end of the manager none of its sessions has
one. -/
def EndsLoggedOut (self : RecordedManager) (input : RecordedEvent × ManagerSurroundings) : Prop :=
  self.running = true →
    match input with
    | (.manager event, around) => ∀ k mark,
      self.manager.exits around event k mark ≤ self.openLogins k mark ∧
        (self.manager.TakesOut around event k →
          self.openLogins k mark = self.manager.exits around event k mark)
    | (.dispose, _) => ∀ k ∈ self.manager.userSessions, ∀ mark, self.openLogins k mark = 0

end RecordedManager

/-! ## The records of a step -/

theorem recordCount_append (event : GdmSessionRecordEvent) (k : Nat) (mark : RecordMark)
    (records new : List (Nat × SessionRecord)) :
    recordCount event k mark (records ++ new) =
      recordCount event k mark records + recordCount event k mark new :=
  List.countP_append

theorem gdmSessionRecord_event {event : GdmSessionRecordEvent} {session : GdmSession}
    {pid : Int} {record : SessionRecord} (h : gdmSessionRecord event session pid = some record) :
    record.event = event := by
  unfold gdmSessionRecord at h
  split at h
  · cases h
  · obtain ⟨-, hrecord⟩ := Option.ite_none_left_eq_some.mp h
    rw [← Option.some.inj hrecord]

/-- A record for which the session is asked for its process has the mark of the session. -/
theorem gdmSessionRecord_eq_some {event : GdmSessionRecordEvent} {session : GdmSession}
    {record : SessionRecord} (h : gdmSessionRecord event session (-1) = some record) :
    session.HasMark record.mark := by
  unfold gdmSessionRecord at h
  split at h
  · cases h
  · rename_i username husername
    obtain ⟨hpid, hrecord⟩ := Option.ite_none_left_eq_some.mp h
    rw [← Option.some.inj hrecord]
    have huser : session.selectedUser = some username := husername
    constructor
    · simp [huser]
    · constructor
      · exact Int.not_lt.mp hpid
      · rfl

theorem gdmSessionRecord_eq_none {event : GdmSessionRecordEvent} {session : GdmSession}
    (h : gdmSessionRecord event session (-1) = none) (mark : RecordMark) :
    ¬ session.HasMark mark := by
  rintro ⟨huser, hpid, -⟩
  unfold gdmSessionRecord at h
  split at h
  · rename_i husername
    exact huser husername
  · have hnot : ¬ (if (-1 : Int) < 0 then session.sessionPid else -1) < 0 := Int.not_lt.mpr hpid
    dsimp only at h
    rw [if_neg hnot] at h
    cases h

/-- One entry is counted or not. -/
theorem recordCount_cons (event : GdmSessionRecordEvent) (k j : Nat) (mark : RecordMark)
    (record : SessionRecord) (rest : List (Nat × SessionRecord)) :
    recordCount event k mark ((j, record) :: rest) = recordCount event k mark rest +
      if j = k ∧ record.event = event ∧ record.mark = mark then 1 else 0 := by
  simp [recordCount, List.countP_cons]

/-- Of the signals of a session each exit is a logout, if the session can be recorded. -/
theorem recordCount_logout (session : GdmSession) (j k : Nat) (mark : RecordMark)
    (signals : List SessionSignal) :
    recordCount .logout k mark ((signals.filterMap (·.record session)).map (j, ·)) =
      if j = k ∧ session.HasMark mark then signals.countP SessionSignal.isExit else 0 := by
  induction signals with
  | nil => simp [recordCount]
  | cons signal rest ih =>
    have hskip : ∀ (s : SessionSignal), s.isExit = false → s.record session = none →
        recordCount .logout k mark (((s :: rest).filterMap (·.record session)).map (j, ·)) =
          if j = k ∧ session.HasMark mark then (s :: rest).countP SessionSignal.isExit else 0 := by
      intro s hexit hrecord
      rw [List.filterMap_cons_none hrecord, List.countP_cons_of_neg (by simp [hexit])]
      exact ih
    cases signal with
    | sessionExited code id =>
      rw [List.countP_cons_of_pos (by rfl)]
      cases hrecord : (SessionSignal.sessionExited code id).record session with
      | none =>
        rw [List.filterMap_cons_none hrecord, ih]
        have hnot : ¬ session.HasMark mark := gdmSessionRecord_eq_none hrecord mark
        simp [hnot]
      | some record =>
        have hevent : record.event = .logout := gdmSessionRecord_event hrecord
        have hmark : session.HasMark record.mark := gdmSessionRecord_eq_some hrecord
        have hiff : record.mark = mark ↔ session.HasMark mark := by
          constructor
          · intro heq
            rwa [← heq]
          · intro hthis
            rw [hmark.2.2, hthis.2.2]
        rw [List.filterMap_cons_some hrecord, List.map_cons, recordCount_cons, ih]
        simp only [hevent, hiff, true_and]
        split
        · rfl
        · rfl
    | authenticationFailed serviceName pid =>
      rw [List.countP_cons_of_neg (by simp [SessionSignal.isExit])]
      cases hrecord : (SessionSignal.authenticationFailed serviceName pid).record session with
      | none =>
        rw [List.filterMap_cons_none hrecord]
        exact ih
      | some record =>
        have hevent : record.event = .failed := gdmSessionRecord_event hrecord
        rw [List.filterMap_cons_some hrecord, List.map_cons, recordCount_cons, ih, hevent]
        simp
    | _ => exact hskip _ rfl rfl

theorem recordCount_login (session : GdmSession) (j k : Nat) (mark : RecordMark)
    (signals : List SessionSignal) :
    recordCount .login k mark ((signals.filterMap (·.record session)).map (j, ·)) = 0 := by
  rw [recordCount, List.countP_eq_zero]
  intro entry hentry
  obtain ⟨record, hrecord, rfl⟩ := List.mem_map.mp hentry
  obtain ⟨signal, -, hsignal⟩ := List.mem_filterMap.mp hrecord
  have hevent : record.event ≠ .login := by
    cases signal with
    | sessionExited code id => simp [gdmSessionRecord_event hsignal]
    | authenticationFailed serviceName pid => simp [gdmSessionRecord_event hsignal]
    | _ => cases hsignal
  simp [hevent]

namespace GdmManager

variable {self self' : GdmManager} {around : ManagerSurroundings} {k j : Nat} {mark : RecordMark}

/-- The logouts that an event makes the manager write. -/
theorem recordCount_logout_recordsOf (event : ManagerEvent) (k : Nat) (mark : RecordMark) :
    recordCount .logout k mark (self.recordsOf around event) = self.exits around event k mark := by
  cases event with
  | session j event =>
    simp only [recordsOf, exits, told]
    by_cases hcall : isOwnerCall event = true
    · simp [hcall, recordCount]
    · have hcall' : isOwnerCall event = false := by simpa using hcall
      rw [if_neg hcall]
      unfold recordsOfSession
      split
      · rename_i hnone
        by_cases hjk : j = k
        · subst hjk
          simp [hnone, recordCount]
        · simp [hjk, recordCount]
      · rename_i s hs
        rw [recordCount_logout]
        by_cases hjk : j = k
        · subst hjk
          simp [hs, hcall']
        · simp [hjk]
  | registerSession sender =>
    have hzero : recordCount .logout k mark (self.recordsOfRegistration around sender) = 0 := by
      rw [recordCount, List.countP_eq_zero]
      intro entry hentry
      obtain ⟨⟨i, s⟩, -, hentry⟩ := Option.bind_eq_some_iff.mp (Option.mem_toList.mp hentry)
      obtain ⟨record, hrecord, rfl⟩ := Option.map_eq_some_iff.mp hentry
      simp [gdmSessionRecord_event hrecord]
    simp [recordsOf, hzero, exits, told]
  | _ => simp [recordsOf, recordCount, exits, told]

/-- No login is written for what a session does. -/
theorem recordCount_login_session (j : Nat) (event : SessionEvent) (mark : RecordMark) :
    recordCount .login k mark (self.recordsOf around (.session j event)) = 0 := by
  simp only [recordsOf, recordsOfSession]
  split
  · simp [recordCount]
  · split
    · simp [recordCount]
    · exact recordCount_login _ _ _ _ _

/-- A login is written for a session in the list. -/
theorem recordCount_login_recordsOf (event : ManagerEvent) (hk : k ∉ self.userSessions)
    (mark : RecordMark) : recordCount .login k mark (self.recordsOf around event) = 0 := by
  cases event with
  | session j event => exact recordCount_login_session j event mark
  | registerSession sender =>
    rw [recordCount, List.countP_eq_zero]
    intro entry hentry
    obtain ⟨⟨i, s⟩, hregistered, hentry⟩ :=
      Option.bind_eq_some_iff.mp (Option.mem_toList.mp hentry)
    obtain ⟨record, -, rfl⟩ := Option.map_eq_some_iff.mp hentry
    have hi : i ∈ self.userSessions := by
      obtain ⟨found, hfound, hsession⟩ := Option.bind_eq_some_iff.mp hregistered
      obtain ⟨t, -, heq⟩ := Option.map_eq_some_iff.mp hsession
      obtain ⟨d, -, hfind⟩ := Option.bind_eq_some_iff.mp hfound
      cases heq
      exact List.mem_of_find?_eq_some hfind
    have hne : i ≠ k := by
      rintro rfl
      exact hk hi
    simp [hne]
  | _ => simp [recordsOf, recordCount]

/-! ## The list after a step -/

theorem removeUserSession_userSessions :
    (self.removeUserSession k).userSessions = self.userSessions.erase k := by
  have hended : Arranges self (self.onDisplay (self.getDisplayForUserSession k) endDisplay) :=
    arranges_onDisplay (fun _ => arranges_endDisplay) _
  unfold removeUserSession
  dsimp only
  rw [hended.userSessions]
  split
  · rw [arranges_unrefSession.userSessions]
    rfl
  · rename_i hnot
    rw [List.erase_of_not_mem hnot]
    exact hended.userSessions

/-- A signal that does not say that the session is open takes it out, or leaves the list as it
is. -/
theorem handleEffect_userSessions (isOwnClient : Bool) {effect : SessionEffect}
    (hopening : effect.isOpening = false) :
    (handleEffect around k .userSession isOwnClient self effect).userSessions =
      if effect.isRemoval then self.userSessions.erase k else self.userSessions := by
  cases effect with
  | signal signal =>
    cases signal with
    | reauthenticationStarted pidOfCaller address =>
      change (self.onSessionReauthenticationStarted pidOfCaller address).userSessions = _
      unfold onSessionReauthenticationStarted
      split
      · rfl
      · rfl
    | reauthenticated _ pidOfCaller _ =>
      have htouches : Touches (fun effect => effect.isSwitch) self
          (self.onSessionReauthenticated around k pidOfCaller) :=
        touches_onSessionReauthenticated pidOfCaller
      exact htouches.userSessions
    | stopConflictingSession _ =>
      have htouches : Touches (fun effect => effect.isTermination) self
          (self.onStopConflictingSession around) := touches_onStopConflictingSession
      exact htouches.userSessions
    | clientReadyForSessionToStart serviceName clientIsReady =>
      have htouches : Touches (fun _ => False) self
          (self.onSessionClientReadyForSessionToStart k serviceName clientIsReady) :=
        touches_onSessionClientReadyForSessionToStart serviceName clientIsReady
      exact htouches.userSessions
    | cancelled =>
      have htouches : Touches (fun _ => False) self (self.queueSessionReset k) :=
        touches_queueSessionReset
      exact htouches.userSessions
    | sessionOpened _ _ => cases hopening
    | sessionStartFailed _ _ => exact removeUserSession_userSessions
    | sessionExited _ _ => exact removeUserSession_userSessions
    | sessionDied _ _ => exact removeUserSession_userSessions
    | _ => rfl
  | _ => rfl

/-- What the manager does for other sessions is not to do with the list. -/
theorem handleEffect_userSessions_of_ne {owner : Owner} (howner : owner ≠ .userSession)
    (isOwnClient : Bool) (effect : SessionEffect) :
    (handleEffect around k owner isOwnClient self effect).userSessions = self.userSessions := by
  cases effect with
  | signal signal =>
    cases owner with
    | userSession => exact absurd rfl howner
    | transient =>
      have htouches : Touches (fun effect => effect.isSwitch) self
          (self.handleTransient around k isOwnClient signal) :=
        touches_handleTransient isOwnClient signal
      exact htouches.userSessions
    | launchEnvironment => rfl
    | reauthenticationRequest => rfl
  | _ => rfl

theorem foldEffects_userSessions_of_ne {owner : Owner} (howner : owner ≠ .userSession)
    (isOwnClient : Bool) (effects : List SessionEffect) :
    (effects.foldl (handleEffect around k owner isOwnClient) self).userSessions =
      self.userSessions := by
  induction effects generalizing self with
  | nil => rfl
  | cons effect rest ih =>
    rw [List.foldl_cons, ih]
    exact handleEffect_userSessions_of_ne howner isOwnClient effect

/-- Each signal for the end of the session takes it out once. -/
theorem count_foldEffects (isOwnClient : Bool) {effects : List SessionEffect}
    (hopening : ∀ effect ∈ effects, effect.isOpening = false) (j : Nat) :
    (effects.foldl (handleEffect around k .userSession isOwnClient) self).userSessions.count j =
      if j = k then self.userSessions.count j - effects.countP SessionEffect.isRemoval
      else self.userSessions.count j := by
  induction effects generalizing self with
  | nil => simp
  | cons effect rest ih =>
    rw [List.foldl_cons, ih fun e he => hopening e (List.mem_cons_of_mem _ he),
      handleEffect_userSessions isOwnClient (hopening effect List.mem_cons_self), List.countP_cons]
    by_cases hjk : j = k
    · subst hjk
      cases effect.isRemoval with
      | true =>
        simp only [if_true, List.count_erase_self]
        omega
      | false => simp
    · simp only [if_neg hjk]
      split
      · exact List.count_erase_of_ne hjk
      · rfl

theorem countP_emits (effects : List SessionEffect) :
    (effects.filterMap SessionEffect.emits).countP SessionSignal.removes =
      effects.countP SessionEffect.isRemoval := by
  induction effects with
  | nil => rfl
  | cons effect rest ih =>
    cases effect with
    | signal signal =>
      have hcons : (SessionEffect.signal signal :: rest).filterMap SessionEffect.emits =
          signal :: rest.filterMap SessionEffect.emits := List.filterMap_cons_some rfl
      rw [hcons, List.countP_cons, List.countP_cons, ih]
      rfl
    | _ =>
      rw [List.filterMap_cons_none rfl, List.countP_cons_of_neg (by simp [SessionEffect.isRemoval])]
      exact ih

theorem onUserSessionOpened_userSessions (serviceName : String) :
    (self.onUserSessionOpened k serviceName).userSessions = self.userSessions ++ [k] := by
  have hready : ∀ m : GdmManager,
      (m.startUserSessionIfReady k serviceName).userSessions = m.userSessions := by
    intro m
    unfold startUserSessionIfReady queueStartUserSession
    split
    · rfl
    · dsimp only
      split
      · rfl
      · rfl
  unfold onUserSessionOpened
  dsimp only
  rw [hready]
  split
  · rfl
  · rfl

/-- A session leaves the list when it tells its end as often as it is there. -/
theorem receive_leaves_iff (hprojects : Projects self) (hrunning : self.running = true)
    {event : SessionEvent} (hj : j ∈ self.userSessions) :
    j ∉ (self.receive around k event).userSessions ↔
      j = k ∧ self.userSessions.count j ≤
        (self.signalsOf around k event).countP SessionSignal.removes := by
  have hpos : 0 < self.userSessions.count j := List.count_pos_iff.mpr hj
  have hsame : ∀ {m : GdmManager}, m.userSessions = self.userSessions →
      (self.signalsOf around k event).countP SessionSignal.removes = 0 →
        (j ∉ m.userSessions ↔ j = k ∧ self.userSessions.count j ≤
          (self.signalsOf around k event).countP SessionSignal.removes) := by
    intro m hm hnone
    rw [hm, hnone]
    constructor
    · exact fun hnot => absurd hj hnot
    · rintro ⟨-, hle⟩
      omega
  unfold receive
  cases hs : self.sessions[k]? with
  | none => exact hsame rfl (by simp [signalsOf, hs])
  | some s =>
    dsimp only
    split
    · rename_i hdisposed
      exact hsame rfl (by simp [signalsOf, hs, hdisposed])
    · rename_i hlive
      obtain ⟨outside, houtside⟩ : ∃ a, a = self.surroundings around k s event := ⟨_, rfl⟩
      rw [arranges_unrefSession.userSessions, ← houtside]
      by_cases howner : s.session.owner = .userSession
      · have hsignals : self.signalsOf around k event =
            ((s.session.step (event, outside)).log.drop s.session.log.length).filterMap
              SessionEffect.emits := by
          simp [signalsOf, hs, hlive, howner, houtside]
        rw [hsignals, countP_emits, howner]
        have hstatus : s.session.status = .running := by
          have hall := (Bool.and_eq_true_iff.mp hrunning).2
          exact of_decide_eq_true (List.all_eq_true.mp hall s (List.mem_of_getElem? hs))
        by_cases hopen : s.session.opensSession event = true
        · -- a session that is opened does not come to its end
          obtain ⟨before, serviceName, sessionId, hlog, hbefore⟩ :=
            GdmSession.step_opens howner hstatus (event, outside) hopen
          have hnew : (s.session.step (event, outside)).log.drop s.session.log.length =
              before ++ [.signal (.sessionOpened serviceName sessionId)] := by
            simp [hlog]
          have hzero : before.countP SessionEffect.isRemoval = 0 := by
            rw [List.countP_eq_zero]
            intro effect heffect
            simp [(hbefore effect heffect).2.2]
          rw [hnew, List.foldl_append, List.countP_append, hzero]
          constructor
          · intro hnot
            refine absurd ?_ hnot
            change j ∈ (onUserSessionOpened _ k serviceName).userSessions
            rw [onUserSessionOpened_userSessions, List.mem_append]
            left
            rw [← List.count_pos_iff, count_foldEffects _
              (fun effect heffect => (hbefore effect heffect).2.1)]
            change 0 < if j = k then self.userSessions.count j - _ else self.userSessions.count j
            rw [hzero]
            simpa using hpos
          · rintro ⟨-, hle⟩
            simp [SessionEffect.isRemoval, SessionSignal.removes] at hle
            omega
        · obtain ⟨new, hlog, hnew⟩ :=
            GdmSession.step_reasons (hprojects k s hs).wellFormed (event, outside)
          have hdrop : (s.session.step (event, outside)).log.drop s.session.log.length = new := by
            simp [hlog]
          have hclosed : ∀ effect ∈ new, effect.isOpening = false := by
            intro effect heffect
            by_contra hopening
            have hopening : effect.isOpening = true := by simpa using hopening
            rcases hnew effect heffect with ⟨id, message, rfl⟩ | ⟨u, _, hreason⟩
            · cases hopening
            · exact hopen (GdmSession.opensSession_of_reason hopening hreason)
          rw [hdrop, ← List.count_eq_zero, count_foldEffects _ hclosed]
          change (if j = k then self.userSessions.count j - _
            else self.userSessions.count j) = 0 ↔ _
          by_cases hjk : j = k
          · subst hjk
            rw [if_pos rfl]
            constructor
            · exact fun hzero => ⟨rfl, Nat.le_of_sub_eq_zero hzero⟩
            · exact fun hle => Nat.sub_eq_zero_of_le hle.2
          · rw [if_neg hjk]
            constructor
            · exact fun hzero => absurd hzero (Nat.ne_of_gt hpos)
            · exact fun hle => absurd hle.1 hjk
      · rw [foldEffects_userSessions_of_ne howner]
        exact hsame rfl (by simp [signalsOf, hs, howner])

theorem onStartUserSession_userSessions (serviceName : String) :
    (self.onStartUserSession around k serviceName).userSessions = self.userSessions := by
  have htouches : Touches (fun effect => effect.isSwitch) self
      (self.switchToCompatibleUserSession around k k true).1 :=
    touches_switchToCompatibleUserSession k true
  unfold onStartUserSession
  dsimp only
  split
  · exact htouches.userSessions
  · split
    · rw [arranges_unrefSession.userSessions]
      exact htouches.userSessions
    · rw [arranges_unrefSession.userSessions]
      exact (arranges_moveToOwnDisplay serviceName).userSessions.trans htouches.userSessions

theorem openReauthenticationChannel_userSessions (invocation : Nat) (details : SenderDetails)
    (sessionId username : String) :
    (self.openReauthenticationChannel around invocation details sessionId username).userSessions =
      self.userSessions := by
  have hremembered : (self.rememberCaller details).userSessions = self.userSessions :=
    (arranges_rememberCaller details).userSessions
  have hopened : ∀ (m : GdmManager) (userSession : Option Nat) (seatId : Option String) (pid : Int)
      (uid : Nat) (isRemote : Bool), (m.openTemporaryReauthenticationChannel around userSession
        seatId sessionId pid uid isRemote).userSessions = m.userSessions := by
    intro m userSession seatId pid uid isRemote
    have hdropped : ∀ m' : GdmManager, (m'.dropTransientSession pid).userSessions =
        m'.userSessions := fun m' =>
      (touches_dropTransientSession (P := fun _ => False) pid).userSessions
    unfold openTemporaryReauthenticationChannel
    dsimp only
    rw [hdropped]
    split
    · rfl
    · rfl
  unfold openReauthenticationChannel
  dsimp only
  split
  · exact hremembered
  · split
    · exact hremembered
    · split
      · exact hremembered
      · exact (hopened _ _ _ _ _ _).trans hremembered

/-- An event that is not one of a session leaves the list as it is. -/
theorem handleEvent_userSessions {event : ManagerEvent} (h : ∀ k e, event ≠ .session k e) :
    (self.handleEvent around event).userSessions = self.userSessions := by
  cases event with
  | session k event => exact absurd rfl (h k event)
  | idle =>
    simp only [handleEvent, handleIdle]
    split
    · rfl
    · rename_i k serviceName rest _
      exact onStartUserSession_userSessions serviceName
    · exact arranges_unrefSession.userSessions
  | displayAdded display => rfl
  | displayStatus d status => exact (arranges_setDisplayStatus status).userSessions
  | displaySessionId d sessionId => rfl
  | displayRemoved d => exact arranges_removeDisplay.userSessions
  | userLoaded d userExists => exact (arranges_onUserIsLoadedChanged userExists).userSessions
  | registerDisplay sender =>
    simp only [handleEvent, call, handleRegisterDisplay]
    split
    · rfl
    · exact (arranges_setDisplayStatus GdmDisplayStatus.managed).userSessions
  | registerSession sender =>
    simp only [handleEvent, call, handleRegisterSession]
    split
    · rfl
    · split
      · rfl
      · rfl
  | openSession sender =>
    simp only [handleEvent, call, handleOpenSession]
    split
    · rfl
    · split
      · rfl
      · split
        · rfl
        · split
          · rfl
          · rfl
  | openReauthenticationChannel sender username =>
    simp only [handleEvent, call, handleOpenReauthenticationChannel]
    split
    · rfl
    · exact openReauthenticationChannel_userSessions _ _ _ _

/-- A session that is in the list is taken out by the event that tells its end. -/
theorem handleEvent_leaves_iff (hprojects : Projects self) (hrunning : self.running = true)
    (event : ManagerEvent) (hk : k ∈ self.userSessions) :
    k ∉ (self.handleEvent around event).userSessions ↔ self.TakesOut around event k := by
  have hpos : 0 < self.userSessions.count k := List.count_pos_iff.mpr hk
  have hsame : (self.handleEvent around event).userSessions = self.userSessions →
      self.told around k event = [] →
      (k ∉ (self.handleEvent around event).userSessions ↔ self.TakesOut around event k) := by
    intro heq htold
    rw [heq]
    constructor
    · exact fun hnot => absurd hk hnot
    · intro htakes
      have hle := htakes.2
      rw [htold, List.countP_nil] at hle
      omega
  by_cases hsession : ∃ j e, event = .session j e
  · obtain ⟨j, e, rfl⟩ := hsession
    by_cases hcall : isOwnerCall e = true
    · apply hsame
      · simp [handleEvent, hcall]
      · simp [told, hcall]
    · have hleaves : k ∉ (self.receive around j e).userSessions ↔ k = j ∧
          self.userSessions.count k ≤ (self.signalsOf around j e).countP SessionSignal.removes :=
        receive_leaves_iff hprojects hrunning hk
      have hcall : isOwnerCall e = false := by simpa using hcall
      have hhandled : self.handleEvent around (.session j e) = self.receive around j e := by
        simp [handleEvent, hcall]
      rw [hhandled, hleaves]
      by_cases hkj : k = j
      · subst hkj
        simp [TakesOut, told, hcall, hk]
      · have hjk : j ≠ k := fun heq => hkj heq.symm
        simp only [TakesOut, told, hkj, hjk, false_and, if_false, List.countP_nil, false_iff]
        rintro ⟨-, hle⟩
        omega
  · have hother : ∀ j e, event ≠ .session j e := fun j e heq => hsession ⟨j, e, heq⟩
    apply hsame
    · exact handleEvent_userSessions hother
    · cases event with
      | session j e => exact absurd rfl (hother j e)
      | _ => rfl

/-- Logins are recorded in a call of the bus, and the ends are told by the sessions. -/
theorem recordCount_login_or_told (event : ManagerEvent) (mark : RecordMark) :
    recordCount .login k mark (self.recordsOf around event) = 0 ∨
      self.told around k event = [] := by
  cases event with
  | session j event =>
    left
    exact recordCount_login_session j event mark
  | _ =>
    right
    rfl

theorem recordCount_login_of_takesOut {event : ManagerEvent} (h : self.TakesOut around event k)
    (mark : RecordMark) : recordCount .login k mark (self.recordsOf around event) = 0 := by
  rcases recordCount_login_or_told event mark with hnone | htold
  · exact hnone
  · have hpos : 0 < self.userSessions.count k := List.count_pos_iff.mpr h.1
    have hle := h.2
    rw [htold, List.countP_nil] at hle
    omega

end GdmManager

/-! ## The runs -/

namespace RecordedManager

variable {self : RecordedManager} {around : ManagerSurroundings}

theorem step_of_not_running (h : self.running ≠ true)
    (input : RecordedEvent × ManagerSurroundings) : self.step input = self := by
  simp [step, h]

theorem step_of_running (h : self.running = true) (input : RecordedEvent × ManagerSurroundings) :
    self.step input = self.handleEvent input.2 input.1 := by
  simp [step, h]

/-- After the manager has gone nothing is recorded any more. -/
theorem step_base (hbase : self.disposed = true ∨ GdmManager.Projects self.manager)
    (input : RecordedEvent × ManagerSurroundings) :
    (self.step input).disposed = true ∨ GdmManager.Projects (self.step input).manager := by
  by_cases hrunning : self.running = true
  · rw [step_of_running hrunning]
    obtain ⟨event, around⟩ := input
    cases event with
    | manager event =>
      rcases hbase with hdisposed | hprojects
      · left
        exact hdisposed
      · right
        exact hprojects.handleEvent event
    | dispose =>
      left
      rfl
  · rw [step_of_not_running hrunning]
    exact hbase

/-- An event of the main loop keeps the balance exactly when each session that it ends is
logged out by it. -/
theorem handleEvent_balanced_iff (hprojects : GdmManager.Projects self.manager)
    (hrunning : self.manager.running = true) (h : self.Balanced) (event : ManagerEvent) :
    (self.handleEvent around (.manager event)).Balanced ↔ ∀ k mark,
      self.manager.exits around event k mark ≤ self.openLogins k mark ∧
        (self.manager.TakesOut around event k →
          self.openLogins k mark = self.manager.exits around event k mark) := by
  have hlogout : ∀ k mark, recordCount .logout k mark
      (self.handleEvent around (.manager event)).records =
        recordCount .logout k mark self.records + self.manager.exits around event k mark := by
    intro k mark
    rw [← GdmManager.recordCount_logout_recordsOf]
    exact recordCount_append _ _ _ _ _
  have hlogin : ∀ k mark, recordCount .login k mark
      (self.handleEvent around (.manager event)).records =
        recordCount .login k mark self.records +
          recordCount .login k mark (self.manager.recordsOf around event) :=
    fun k mark => recordCount_append _ _ _ _ _
  constructor
  · intro hafter k mark
    have hpreceded := h.preceded k mark
    constructor
    · have hexits := hafter.preceded k mark
      rw [hlogout, hlogin] at hexits
      unfold openLogins
      rcases @GdmManager.recordCount_login_or_told self.manager around k event mark with
        hnone | htold
      · rw [hnone] at hexits
        omega
      · have hzero : self.manager.exits around event k mark = 0 := by
          simp [GdmManager.exits, htold]
        omega
    · intro htakes
      have hleft : k ∉ (self.manager.handleEvent around event).userSessions :=
        (GdmManager.handleEvent_leaves_iff hprojects hrunning event htakes.1).mpr htakes
      have hmatched := hafter.matched k hleft mark
      rw [hlogout, hlogin, GdmManager.recordCount_login_of_takesOut htakes mark] at hmatched
      unfold openLogins
      omega
  · intro hends
    constructor
    · intro k mark
      have hexits := (hends k mark).1
      have hpreceded := h.preceded k mark
      rw [hlogout, hlogin]
      unfold openLogins at hexits
      omega
    · intro k hk mark
      rw [hlogout, hlogin]
      have hpreceded := h.preceded k mark
      obtain ⟨hexits, htaken⟩ := hends k mark
      unfold openLogins at hexits htaken
      by_cases hbefore : k ∈ self.manager.userSessions
      · have htakes : self.manager.TakesOut around event k :=
          (GdmManager.handleEvent_leaves_iff hprojects hrunning event hbefore).mp hk
        have hopen := htaken htakes
        rw [GdmManager.recordCount_login_of_takesOut htakes mark]
        omega
      · have hmatched := h.matched k hbefore mark
        rw [GdmManager.recordCount_login_recordsOf event hbefore mark]
        omega

/-- At its end the manager has no session left, and nothing is written. -/
theorem dispose_balanced_iff (h : self.Balanced) :
    (self.handleEvent around .dispose).Balanced ↔
      ∀ k ∈ self.manager.userSessions, ∀ mark, self.openLogins k mark = 0 := by
  have hempty : (self.handleEvent around .dispose).manager.userSessions = [] := rfl
  constructor
  · intro hafter k _ mark
    have hmatched := hafter.matched k (by simp [hempty]) mark
    exact Nat.sub_eq_zero_of_le (Nat.le_of_eq hmatched.symm)
  · intro hends
    constructor
    · exact h.preceded
    · intro k _ mark
      by_cases hk : k ∈ self.manager.userSessions
      · have hopen := hends k hk mark
        exact Nat.le_antisymm (h.preceded k mark) (Nat.le_of_sub_eq_zero hopen)
      · exact h.matched k hk mark

theorem step_balanced_iff (hbase : self.disposed = true ∨ GdmManager.Projects self.manager)
    (h : self.Balanced) (input : RecordedEvent × ManagerSurroundings) :
    (self.step input).Balanced ↔ self.EndsLoggedOut input := by
  by_cases hrunning : self.running = true
  · obtain ⟨hlive, hmanager⟩ := Bool.and_eq_true_iff.mp hrunning
    have hprojects : GdmManager.Projects self.manager := by
      rcases hbase with hdisposed | hprojects
      · simp [hdisposed] at hlive
      · exact hprojects
    rw [step_of_running hrunning]
    obtain ⟨event, around⟩ := input
    cases event with
    | manager event =>
      rw [handleEvent_balanced_iff hprojects hmanager h event]
      simp [EndsLoggedOut, hrunning]
    | dispose =>
      rw [dispose_balanced_iff h]
      simp [EndsLoggedOut, hrunning]
  · rw [step_of_not_running hrunning]
    simp [h, EndsLoggedOut, hrunning]

/-- The logins and the logouts are in balance all along a run exactly when every session that
comes to its end in the run is logged out by what ends it. -/
theorem run_balanced_iff (events : List (RecordedEvent × ManagerSurroundings)) :
    machine.Meets EndsLoggedOut {} events ↔
      ∀ before after, events = before ++ after → (machine.run {} before).Balanced := by
  apply EventMachine.meets_iff_forall_prefix
    (fun m => m.disposed = true ∨ GdmManager.Projects m.manager) Balanced
  · intro m input hbase
    exact step_base hbase input
  · intro m input hbase h
    exact step_balanced_iff hbase h input
  · right
    exact GdmManager.projects_run []
  · constructor
    · exact fun _ _ => le_rfl
    · exact fun _ _ _ => rfl

/-- The events of the main loop, nothing else. -/
def mainLoop (events : List (ManagerEvent × ManagerSurroundings)) :
    List (RecordedEvent × ManagerSurroundings) :=
  events.map fun event => (.manager event.1, event.2)

/-- The session of the user registers. -/
def registerUser : List (ManagerEvent × ManagerSurroundings) :=
  [(.registerSession {
      pid := some 1300, uid := some 1000, sessionId := some "c2", sessionUid := some 1000
      seatId := some "seat0", tty := some "/dev/tty2" }, {})]

/-- A user has logged in, and the session registers. -/
def registeredLogin : List (ManagerEvent × ManagerSurroundings) :=
  GdmManager.greeterOnSeat ++
    GdmManager.ofSession 0 (GdmManager.passwordLogin 0 ++
      [.client (.startSessionWhenReady "gdm-password" true)]) ++
    GdmManager.runIdle ++
    GdmManager.ofSession 0 [.workerAnswers 0 .StartProgram (.StartProgram 1200), .deliver 0] ++
    registerUser

/-- The session is killed by a signal after that. -/
def killedSession : List (RecordedEvent × ManagerSurroundings) :=
  mainLoop (registeredLogin ++
    GdmManager.ofSession 0 [.workerSends 0 (.sessionExited "gdm-password" (.signaled 15)),
      .deliver 0])

theorem killedSession_not_balanced :
    ¬ ∀ events : List (RecordedEvent × ManagerSurroundings), (machine.run {} events).Balanced := by
  intro h
  have hmatched := (h killedSession).matched 0 (by decide +kernel)
    { pid := 1200, line := recordBytes "tty2" }
  exact absurd hmatched (by decide +kernel)

end RecordedManager

end Gdm
