import Gdm.Manager.Bijection
import Gdm.Manager.Touches

/-!
# Who gets a channel

The function that finds out about the sender of a call stops at the first check that
fails, and the handler tells from what has been filled in whether it has come to its
end.  The user of the sender is filled in before it is compared with the owner of the
session, so a sender who is another user is taken for one that has been found.

A display is found for the sender of OpenSession as long as it is in the display store.
Its session may not be there yet, or not any more, and is used all the same.
-/

namespace Gdm

/-- The checks of `get_display_and_details_for_bus_sender`, in their order. -/
inductive SenderCheck
  | pid
  | uid
  | session
  | loginScreen
  | sessionUid
  | sameUid
  deriving DecidableEq, Repr

/-- The check that stops the search for the details of a sender. -/
def BusSender.stopsAt (sender : BusSender) : Option SenderCheck :=
  if sender.pid = none then some .pid
  else if sender.uid = none then some .uid
  else if sender.sessionId = none then some .session
  else if sender.isLoginScreen = none then some .loginScreen
  else if sender.sessionUid = none then some .sessionUid
  else if sender.uid ≠ sender.sessionUid then some .sameUid
  else none

namespace GdmManager

variable {self : GdmManager} {around : ManagerSurroundings}

/-- The call is refused, and nothing is started for it. -/
structure Refuses (m m' : GdmManager) (invocation : Nat) : Prop where
  reply : ∃ pid uid message, m'.log = m.log ++
    [.requested invocation pid uid, .returned invocation (.accessDenied message)]
  sessions : m'.sessions = m.sessions
  openReauthenticationRequests : m'.openReauthenticationRequests = m.openReauthenticationRequests
  transientSessions : m'.transientSessions = m.transientSessions

/-- The sender is taken for one that has been found, though it is not the user of its
session: unless it is a login screen that asks for a user who has no session. -/
def Admits (m : GdmManager) (sender : BusSender) (username : String) : Prop :=
  sender.stopsAt = some .sameUid ∧ sender.pid ≠ some 0 ∧ sender.uid ≠ some noUid ∧
    (sender.isLoginScreen = some true → m.findSessionForUser (some username) none ≠ none)

theorem refuses_denied (invocation : Nat) (pid : Int) (uid : Nat) (message : String) :
    Refuses self ((self.emit (.requested invocation pid uid)).returnAccessDenied invocation message)
      invocation := by
  refine ⟨⟨pid, uid, message, ?_⟩, rfl, rfl, rfl⟩
  simp [returnAccessDenied, reply, emit]

/-- A check before the last leaves the user of the sender unknown. -/
theorem uid_of_stopsAt {sender : BusSender} {check : SenderCheck}
    (h : sender.stopsAt = some check) (hcheck : check ≠ .sameUid) :
    (self.getDisplayAndDetailsForBusSender sender true).uid = noUid := by
  unfold BusSender.stopsAt at h
  unfold getDisplayAndDetailsForBusSender
  cases hpid : sender.pid with
  | none => rfl
  | some pid =>
    cases huid : sender.uid with
    | none => rfl
    | some callerUid =>
      cases hsession : sender.sessionId with
      | none => rfl
      | some sessionId =>
        cases hlogin : sender.isLoginScreen with
        | none => rfl
        | some isLoginScreen =>
          cases howner : sender.sessionUid with
          | none => rfl
          | some sessionUid =>
            by_cases hsame : callerUid = sessionUid
            · simp [hpid, huid, hsession, hlogin, howner, hsame] at h
            · simp only [hpid, huid, hsession, hlogin, howner] at h
              simp [hsame] at h
              exact absurd h.symm hcheck

/-- The last check leaves a sender that looks as if it had been found, but for its display. -/
theorem details_of_sameUid (self : GdmManager) {sender : BusSender}
    (h : sender.stopsAt = some .sameUid) :
    ∃ pid uid sessionId isLoginScreen, sender.pid = some pid ∧ sender.uid = some uid ∧
      sender.isLoginScreen = some isLoginScreen ∧
      self.getDisplayAndDetailsForBusSender sender true =
        { pid := pid
          uid := uid
          sessionId := some sessionId
          isLoginScreen := isLoginScreen } := by
  unfold BusSender.stopsAt at h
  unfold getDisplayAndDetailsForBusSender
  cases hpid : sender.pid with
  | none => simp [hpid] at h
  | some pid =>
    cases huid : sender.uid with
    | none => simp [hpid, huid] at h
    | some callerUid =>
      cases hsession : sender.sessionId with
      | none => simp [hpid, huid, hsession] at h
      | some sessionId =>
        cases hlogin : sender.isLoginScreen with
        | none => simp [hpid, huid, hsession, hlogin] at h
        | some isLoginScreen =>
          cases howner : sender.sessionUid with
          | none => simp [hpid, huid, hsession, hlogin, howner] at h
          | some sessionUid =>
            have hne : callerUid ≠ sessionUid := by
              rintro rfl
              simp [hpid, huid, hsession, hlogin, howner] at h
            exact ⟨pid, callerUid, sessionId, isLoginScreen, rfl, rfl, rfl, by simp [hne]⟩

/-- A channel that is opened is no refusal. -/
theorem not_refuses_address {m m' : GdmManager} {invocation : Nat} {request : ManagerEffect}
    {address : String}
    (hlog : m'.log = m.log ++ [request, .returned invocation (.address address)]) :
    ¬ Refuses m m' invocation := by
  intro h
  obtain ⟨pid, uid, message, hlog'⟩ := h.reply
  have heq := List.append_cancel_left (hlog.symm.trans hlog')
  simp at heq

/-- An invocation that waits has not been refused. -/
theorem not_refuses_waiting {m m' : GdmManager} {invocation : Nat} {request : ManagerEffect}
    (hlog : m'.log = m.log ++ [request]) : ¬ Refuses m m' invocation := by
  intro h
  obtain ⟨pid, uid, message, hlog'⟩ := h.reply
  have heq := List.append_cancel_left (hlog.symm.trans hlog')
  simp at heq

theorem isRunning_of_findSessionForUser {username : Option String} {dontCountSession : Option Nat}
    {k : Nat} (h : self.findSessionForUser username dontCountSession = some k) :
    (self.sessions[k]?).any (fun s => s.session.isRunning) = true := by
  have hfound := List.find?_some h
  simp only [decide_eq_true_eq] at hfound
  cases hs : self.sessions[k]? with
  | none => simp [hs] at hfound
  | some s =>
    simp only [hs, Option.any_some, Bool.and_eq_true] at hfound ⊢
    exact hfound.2.1

theorem dropTransientSession_log (pid : Int) :
    (self.dropTransientSession pid).log = self.log := by
  unfold dropTransientSession
  split
  · rfl
  · exact arranges_unrefSession.log

theorem openTemporaryReauthenticationChannel_log (userSession : Option Nat)
    (seatId : Option String) (callerSessionId : String) (pid : Int) (uid : Nat) (isRemote : Bool) :
    (self.openTemporaryReauthenticationChannel around userSession seatId callerSessionId pid uid
      isRemote).log = self.log := by
  unfold openTemporaryReauthenticationChannel
  dsimp only
  split <;> exact dropTransientSession_log pid

/-- What the handler does for a sender whose display has not been looked up. -/
theorem openReauthenticationChannel_of_no_display {details : SenderDetails}
    (hdisplay : details.display = none) (pid : Int) (uid invocation : Nat)
    (sessionId username : String) :
    Refuses self ((self.emit (.requested invocation pid uid)).openReauthenticationChannel around
        invocation details sessionId username) invocation ↔
      details.isLoginScreen = true ∧ self.findSessionForUser (some username) none = none := by
  generalize hrequest : ManagerEffect.requested invocation pid uid = request
  have hremembered : (self.emit request).rememberCaller details = self.emit request := by
    unfold rememberCaller onDisplay
    rw [hdisplay]
    split <;> rfl
  have hsessions : (self.emit request).sessionsToReauthenticate details username =
      (if details.isLoginScreen then self.findSessionForUser (some username) none else none,
        none) := by
    unfold sessionsToReauthenticate
    rw [hdisplay]
    split <;> rfl
  have hcompatible : ∀ session, (self.emit request).areIncompatible (session, none) = false := by
    intro session
    cases session <;> rfl
  have hopened : ∀ userSession,
      ¬ Refuses self (((self.emit request).openTemporaryReauthenticationChannel around userSession
        details.seatId sessionId details.pid details.uid details.isRemote).reply invocation
          (.address around.serverAddress)) invocation := by
    intro userSession
    have hlog : (((self.emit request).openTemporaryReauthenticationChannel around userSession
        details.seatId sessionId details.pid details.uid details.isRemote).reply invocation
          (.address around.serverAddress)).log =
        self.log ++ [request, .returned invocation (.address around.serverAddress)] := by
      simp [reply, emit, openTemporaryReauthenticationChannel_log]
    exact not_refuses_address hlog
  unfold openReauthenticationChannel
  simp only [hremembered, hsessions, hcompatible, Bool.false_eq_true, if_false]
  cases hlogin : details.isLoginScreen with
  | false => simpa using hopened none
  | true =>
    cases hfind : self.findSessionForUser (some username) none with
    | none => simpa [← hrequest] using refuses_denied invocation pid uid _
    | some k =>
      have hrunning :
          ((self.emit request).sessions[k]?).any (fun s => s.session.isRunning) = true :=
        isRunning_of_findSessionForUser hfind
      cases hfrozen : around.isFrozen with
      | false =>
        simp only [if_true, Option.any_some, hrunning, and_self, true_and, reduceCtorEq, iff_false]
        exact not_refuses_waiting rfl
      | true => simpa [hrunning] using hopened (some k)

/-- A call whose sender fails a check is refused, unless it is the last check that
fails and the sender is admitted all the same. -/
theorem refuses_iff_not_admits (invocation : Nat) (sender : BusSender) (username : String) :
    (sender.stopsAt ≠ none → Refuses self
        (self.handleOpenReauthenticationChannel around invocation sender username) invocation) ↔
      ¬ Admits self sender username := by
  cases hstop : sender.stopsAt with
  | none => simp [Admits, hstop]
  | some check =>
    rw [imp_iff_right (Option.some_ne_none check)]
    unfold handleOpenReauthenticationChannel
    dsimp only
    by_cases hsame : check = .sameUid
    · subst hsame
      obtain ⟨pid, uid, sessionId, isLoginScreen, hpid, huid, hlogin, hdetails⟩ :=
        details_of_sameUid self hstop
      simp only [hdetails]
      by_cases hunknown : pid = 0 ∨ uid = noUid
      · have hnot : ¬ Admits self sender username := by
          rintro ⟨-, hpid', huid', -⟩
          rcases hunknown with rfl | rfl
          · exact hpid' hpid
          · exact huid' huid
        rw [if_pos hunknown]
        exact iff_of_true (refuses_denied _ _ _ _) hnot
      · rw [if_neg hunknown, openReauthenticationChannel_of_no_display rfl]
        obtain ⟨hpid', huid'⟩ := not_or.mp hunknown
        simp [Admits, hstop, hpid, huid, hlogin, hpid', huid']
    · have hnot : ¬ Admits self sender username := by
        rintro ⟨hcheck, -⟩
        rw [hstop] at hcheck
        exact hsame (Option.some.inj hcheck)
      rw [if_pos (.inr (uid_of_stopsAt hstop hsame))]
      exact iff_of_true (refuses_denied _ _ _ _) hnot

/-- A process of one user in the session of another one. -/
def senderOfAnotherUser : BusSender :=
  { pid := some 700, uid := some 1000, sessionId := some "c1", isLoginScreen := some false
    sessionUid := some 1001 }

/-- The process gets a channel, though its user is not the one of the session. -/
theorem handleOpenReauthenticationChannel_admits_another_user :
    ¬ (senderOfAnotherUser.stopsAt ≠ none → Refuses {}
        (GdmManager.handleOpenReauthenticationChannel {} {} 0 senderOfAnotherUser "alice") 0) := by
  intro h
  have hchannels : (GdmManager.handleOpenReauthenticationChannel {} {} 0 senderOfAnotherUser
      "alice").transientSessions = [] := (h (by decide)).transientSessions
  have hopened : (GdmManager.handleOpenReauthenticationChannel {} {} 0 senderOfAnotherUser
      "alice").transientSessions = [(700, 0)] := by decide +kernel
  rw [hopened] at hchannels
  cases hchannels

/-! ## OpenSession -/

/-- The display that is found for the sender of a call of OpenSession. -/
def displayOfSender (m : GdmManager) (sender : BusSender) : Option Nat :=
  (m.getDisplayAndDetailsForBusSender sender false).display

/-- A call of OpenSession is answered, and nothing that is missing is worked on: when
the display of the sender has no session the answer is an error. -/
structure AnswersOpenSession (m : GdmManager) (invocation : Nat) (sender : BusSender) : Prop where
  crashed : (m.handleOpenSession invocation sender).crashed = m.crashed
  answer : ∃ reply,
    (m.handleOpenSession invocation sender).log = m.log ++ [.returned invocation reply]
  denied : ∀ d, m.displayOfSender sender = some d → m.getUserSessionForDisplay d = none →
    ∃ message, (m.handleOpenSession invocation sender).log =
      m.log ++ [.returned invocation (.accessDenied message)]

theorem handleOpenSession_of_no_display {sender : BusSender} (invocation : Nat)
    (h : self.displayOfSender sender = none) :
    self.handleOpenSession invocation sender =
      self.returnAccessDenied invocation "No session available" := by
  unfold displayOfSender at h
  unfold handleOpenSession
  simp only [h]

/-- The session that is missing is looked at before anything else. -/
theorem handleOpenSession_of_no_session {sender : BusSender} {d : Nat} (invocation : Nat)
    (hd : self.displayOfSender sender = some d)
    (hsession : self.getUserSessionForDisplay d = none) :
    self.handleOpenSession invocation sender = self.crash := by
  unfold displayOfSender at hd
  unfold handleOpenSession
  simp only [hd, hsession, Option.bind_none]

theorem handleOpenSession_of_session {sender : BusSender} {d k : Nat} {s : ManagedSession}
    (invocation : Nat) (hd : self.displayOfSender sender = some d)
    (hk : self.getUserSessionForDisplay d = some k) (hs : self.sessions[k]? = some s) :
    ∃ reply, self.handleOpenSession invocation sender = self.reply invocation reply := by
  unfold displayOfSender at hd
  unfold handleOpenSession
  simp only [hd, hk, Option.bind_some, hs]
  split
  · exact ⟨_, rfl⟩
  · split
    · exact ⟨_, rfl⟩
    · exact ⟨_, rfl⟩

/-- The process ends without an answer when the session is missing. -/
theorem not_answersOpenSession {invocation : Nat} {sender : BusSender} {d : Nat}
    (hd : self.displayOfSender sender = some d)
    (hsession : self.getUserSessionForDisplay d = none) :
    ¬ AnswersOpenSession self invocation sender := by
  intro h
  obtain ⟨reply, hlog⟩ := h.answer
  rw [handleOpenSession_of_no_session invocation hd hsession] at hlog
  have hlength := congrArg List.length hlog
  simp [GdmManager.crash] at hlength

/-- In every run a call of OpenSession is answered as it should be just when the display
that is found for the sender has a session. -/
theorem answersOpenSession_iff (events : List (ManagerEvent × ManagerSurroundings))
    (invocation : Nat) (sender : BusSender) :
    AnswersOpenSession (machine.run {} events) invocation sender ↔
      ∀ d, (machine.run {} events).displayOfSender sender = some d →
        (machine.run {} events).getUserSessionForDisplay d ≠ none := by
  have hlinked := linked_run events
  generalize machine.run {} events = m at hlinked ⊢
  constructor
  · intro h d hd hsession
    exact not_answersOpenSession hd hsession h
  · intro h
    cases hd : m.displayOfSender sender with
    | none =>
      have hdenied := handleOpenSession_of_no_display invocation hd
      refine ⟨?_, ?_, ?_⟩
      · rw [hdenied]
        rfl
      · rw [hdenied]
        exact ⟨_, rfl⟩
      · intro d hd'
        cases hd.symm.trans hd'
    | some d =>
      obtain ⟨k, hk⟩ := Option.ne_none_iff_exists'.mp (h d hd)
      obtain ⟨s, hs, _, _⟩ := hlinked.session_of_display hk
      obtain ⟨reply, hreply⟩ := handleOpenSession_of_session invocation hd hk hs
      refine ⟨?_, ?_, ?_⟩
      · rw [hreply]
        rfl
      · rw [hreply]
        exact ⟨_, rfl⟩
      · intro e he hnone
        exact absurd hnone (h e he)

/-- The greeter of the seat, after its display has finished. -/
def afterGreeter : List (ManagerEvent × ManagerSurroundings) :=
  greeterOnSeat ++
    [(.displaySessionId 0 (some "c1"), ({} : ManagerSurroundings)),
      (.displayStatus 0 .finished, {})]

/-- The process of the greeter. -/
def senderOfGreeter : BusSender :=
  { pid := some 700, uid := some 120, sessionId := some "c1", sessionUid := some 120
    seatId := some "seat0" }

/-- The display that has finished is still in the store when the greeter calls. -/
theorem handleOpenSession_crashes_after_greeter :
    ¬ AnswersOpenSession (machine.run {} afterGreeter) 0 senderOfGreeter := by
  intro h
  have hcrashed := h.crashed
  revert hcrashed
  decide +kernel

end GdmManager

end Gdm
