import Gdm.Session.Images

/-!
# What a reset leaves of an exchange

`do_reset` clears the fields of an exchange one after the other.  It misses two
of them, `is_opened` and `saved_session_type`, so that a session is as new after
a reset if it has not been opened and no type has been read for its user.
-/

namespace Gdm

/-- What a session keeps of the exchange under way.  The process number of the
session counts as far as it says that the session runs.  The interfaces, the
extensions and the connections of the clients last longer than an exchange, and so
do the user and the delay of the timed login: the manager sets them when the client
connects, and the greeter that is still there after a reset needs them again.  The
types that are supported, the names of the display and whether the session is that
of a program belong to the session as an object, which a reset keeps. -/
structure Exchange where
  selectedSession : Option String := none
  savedSession : Option String := none
  savedSessionType : Option String := none
  savedLanguage : Option String := none
  selectedUser : Option String := none
  conversations : List Conversation := []
  nullConversations : List String := []
  sessionConversation : Option Nat := none
  environment : List (String × String) := []
  isRunning : Bool := false
  sessionOpened : Option String := none
  isOpened : Bool := false
  deriving DecidableEq, Repr

namespace GdmSession

variable {self self' : GdmSession} {p : Permits} {around : Surroundings}

def exchange (self : GdmSession) : Exchange where
  selectedSession := self.selectedSession
  savedSession := self.savedSession
  savedSessionType := self.savedSessionType
  savedLanguage := self.savedLanguage
  selectedUser := self.selectedUser
  conversations := self.conversations
  nullConversations := self.nullConversations
  sessionConversation := self.sessionConversation
  environment := self.environment
  isRunning := self.isRunning
  sessionOpened := self.sessionOpened
  isOpened := self.isOpened

theorem exchange_of_start {s : GdmSession} (hstart : machine.Start s) : s.exchange = {} := by
  obtain ⟨owner, hostname, device, seatId, isLocal, rfl⟩ := hstart
  rfl

/-- What a reset leaves of the exchange: the two fields that it misses. -/
def leftovers (self : GdmSession) : Exchange :=
  { isOpened := self.isOpened, savedSessionType := self.savedSessionType }

/-- Nothing is set that a reset misses. -/
structure Unopened (s : GdmSession) : Prop where
  isOpened : s.isOpened = false
  savedSessionType : s.savedSessionType = none

instance : Decidable (Unopened self) :=
  decidable_of_iff (self.isOpened = false ∧ self.savedSessionType = none)
    ⟨fun h => ⟨h.1, h.2⟩, fun h => ⟨h.1, h.2⟩⟩

theorem leftovers_eq_iff : self.leftovers = {} ↔ Unopened self := by
  constructor
  · intro h
    exact ⟨congrArg Exchange.isOpened h, congrArg Exchange.savedSessionType h⟩
  · rintro ⟨hopened, htype⟩
    rw [leftovers, hopened, htype]

/-! ## The reset and the signals that lead to it -/

theorem exchange_doReset : self.doReset.exchange = self.leftovers := by
  simp only [exchange, doReset_conversations]
  rfl

theorem exchange_close : self.close.exchange = self.leftovers :=
  (exchange_doReset : self.doReset.exchange = self.leftovers)

/-- On a signal that closes the session nothing but the leftovers remains. -/
theorem exchange_signal {signal : SessionSignal}
    (hcloses : self.closesOn around signal = true) :
    (self.signal around signal).exchange = self.leftovers := by
  have howner : (self.emit (.signal signal)).owner = self.owner := rfl
  have hclose : (self.emit (.signal signal)).close.exchange = self.leftovers := exchange_close
  have hreset : (self.emit (.signal signal)).reset.exchange = self.leftovers := exchange_doReset
  unfold GdmSession.signal react
  rw [howner]
  unfold closesOn at hcloses
  cases hself : self.owner with
  | userSession =>
    simp only [hself] at hcloses
    cases signal with
    | sessionStartFailed serviceName message
    | sessionExited code id
    | sessionDied signum id =>
      simp only [reactUserSession, if_pos hcloses]
      exact hclose
    | _ => cases hcloses
  | transient =>
    simp only [hself] at hcloses
    cases signal with
    | clientDisconnected pid
    | cancelled
    | verificationComplete serviceName => exact hclose
    | clientRejected pid =>
      obtain ⟨hconnected, hown⟩ := Bool.and_eq_true_iff.mp hcloses
      have hconnected' :
          (self.emit (.signal (.clientRejected pid))).clientIsConnected = false := by
        simpa [clientIsConnected, emit] using hconnected
      simp only [reactTransient, hconnected', if_pos hown]
      exact hclose
    | _ => cases hcloses
  | launchEnvironment =>
    simp only [hself] at hcloses
    cases signal with
    | conversationStopped serviceName =>
      simp only [reactLaunchEnvironment, if_pos hcloses]
      exact hclose
    | _ => cases hcloses
  | reauthenticationRequest =>
    simp only [hself] at hcloses
    cases signal with
    | cancelled
    | verificationComplete serviceName => exact hreset
    | clientDisconnected pid =>
      simp only [reactReauthenticationRequest, if_pos hcloses]
      exact hclose
    | _ => cases hcloses

theorem leftovers_stopConversation (serviceName : String) :
    (self.stopConversation serviceName).leftovers = self.leftovers := by
  unfold stopConversation
  split <;> rfl

/-- A signal on which the owner starts nothing sets nothing that a reset misses. -/
theorem leftovers_signal {signal : SessionSignal} (hstarts : signal.starts = false) :
    (self.signal around signal).leftovers = self.leftovers := by
  have hcloses : ∀ b : Bool,
      (if b then (self.emit (.signal signal)).close else self.emit (.signal signal)).leftovers =
        self.leftovers := by
    intro b
    split <;> rfl
  unfold GdmSession.signal react
  split
  · cases signal with
    | conversationStarted _ => cases hstarts
    | clientConnected _ => cases hstarts
    | sessionStartFailed _ _ => exact hcloses _
    | sessionExited _ _ => exact hcloses _
    | sessionDied _ _ => exact hcloses _
    | _ => rfl
  · cases signal with
    | clientRejected _ =>
      simp only [reactTransient]
      split
      · rfl
      · exact hcloses _
    | _ => rfl
  · have hstops : (if around.launchHasSession then
        (self.emit (.signal signal)).stopConversation "gdm-launch-environment"
        else self.emit (.signal signal)).leftovers = self.leftovers := by
      split
      · exact leftovers_stopConversation _
      · rfl
    cases signal with
    | conversationStarted _ => cases hstarts
    | sessionOpened _ _ => cases hstarts
    | sessionExited _ _ => exact hstops
    | sessionDied _ _ => exact hstops
    | conversationStopped _ => exact hcloses _
    | _ => rfl
  · cases signal with
    | clientDisconnected _ => exact hcloses _
    | _ => rfl

/-! ## The steps that reset -/

/-- The owner closes the session when the verification is complete. -/
theorem exchange_onEstablishCredentialsCb {conversation : Conversation}
    (hmode : self.verificationMode = .reauthenticate)
    (hverifier : self.userVerifierInterface = true)
    (hcloses : self.closesOn around (.verificationComplete conversation.serviceName) = true) :
    (self.onEstablishCredentialsCb around conversation none).exchange = self.leftovers := by
  have hsame : self.signal around
      (.credentialsEstablished conversation.serviceName conversation.workerPid) =
        self.emit (.signal
          (.credentialsEstablished conversation.serviceName conversation.workerPid)) :=
    signal_of_isSilent _ rfl
  unfold onEstablishCredentialsCb
  simp only [hsame]
  split
  · rename_i hlogin
    exact absurd (hlogin.symm.trans hmode) VerificationMode.noConfusion
  · rw [if_pos (show (self.emit _).userVerifierInterface = true from hverifier)]
    exact exchange_signal hcloses

/-- The dispatch of a message that makes the owner close the session. -/
theorem exchange_onMessage {conversation : Conversation} {message : WorkerMessage}
    (hcloses : self.messageCloses around conversation message = true) :
    ((self.taken conversation message).onMessage around (conversation.take message)
      message).exchange = self.leftovers := by
  cases message with
  | success answer =>
    cases answer with
    | EstablishCredentials =>
      simp only [messageCloses, Bool.and_eq_true, decide_eq_true_eq] at hcloses
      obtain ⟨⟨hmode, hverifier⟩, hon⟩ := hcloses
      exact exchange_onEstablishCredentialsCb hmode hverifier hon
    | _ => cases hcloses
  | failure method error =>
    cases method with
    | StartProgram =>
      refine (exchange_signal ?_).trans (leftovers_stopConversation _)
      rw [closesOn_stopConversation]
      exact hcloses
    | _ => cases hcloses
  | signal signal =>
    cases signal with
    | sessionExited serviceName status =>
      cases status with
      | exited code => exact exchange_signal hcloses
      | signaled signum => exact exchange_signal hcloses
    | _ => cases hcloses

/-- The end of a conversation in a session that has been closed. -/
theorem exchange_concludeConversation {conversation : Conversation}
    (h : self.exchange = self.leftovers) :
    (self.concludeConversation around conversation).exchange = self.leftovers := by
  show (self.signal around (.conversationStopped conversation.serviceName)).exchange = _
  by_cases hcloses : self.closesOn around (.conversationStopped conversation.serviceName) = true
  · exact exchange_signal hcloses
  · have hsame : self.signal around (.conversationStopped conversation.serviceName) =
        self.emit (.signal (.conversationStopped conversation.serviceName)) := by
      have howner : (self.emit (.signal (.conversationStopped conversation.serviceName))).owner =
        self.owner := rfl
      unfold closesOn at hcloses
      unfold GdmSession.signal react
      rw [howner]
      cases hself : self.owner with
      | userSession
      | transient
      | reauthenticationRequest => rfl
      | launchEnvironment =>
        simp only [hself] at hcloses
        exact if_neg hcloses
    rw [hsame]
    exact h

/-- The end of a worker that makes the owner close the session, either with the
session or with the conversation. -/
theorem exchange_workerEnds {conversation : Conversation} {signal : SessionSignal}
    (hsignal : signal.isEnd = true) (hw : WellFormed self)
    (hc : conversation ∈ self.conversations)
    (hcloses : self.endCloses around conversation.id signal = true)
    {s : GdmSession} (hws : WellFormed s) (hleft : s.leftovers = self.leftovers)
    (howner : s.owner = self.owner) :
    ((if (self.stealConversation conversation.id).sessionConversation = some conversation.id then
        { s.signal around signal with sessionConversation := none }
      else self.stealConversation conversation.id).concludeConversation around
        conversation).exchange = self.leftovers := by
  have hstarts : signal.starts = false := by
    cases signal with
    | sessionExited code id
    | sessionDied signum id => rfl
    | _ => cases hsignal
  have hsession : (self.stealConversation conversation.id).sessionConversation =
      self.sessionConversation := rfl
  simp only [endCloses, hw.conversationAt hc, Bool.or_eq_true, Bool.and_eq_true,
    decide_eq_true_eq] at hcloses
  have hstopped : ∀ s' : GdmSession, s'.owner = self.owner → s'.leftovers = self.leftovers →
      self.closesOn around (.conversationStopped conversation.serviceName) = true →
      (s'.concludeConversation around conversation).exchange = self.leftovers := by
    intro s' howner' hleft' hstop
    show (s'.signal around (.conversationStopped conversation.serviceName)).exchange = _
    rw [← closesOn_of_owner howner' fun _ => SessionSignal.noConfusion] at hstop
    exact (exchange_signal hstop).trans hleft'
  have hended : ({ s.signal around signal with sessionConversation := none } :
      GdmSession).leftovers = self.leftovers := (leftovers_signal hstarts).trans hleft
  split
  · rename_i hown
    rcases hcloses with ⟨_, hend⟩ | hstop
    · rw [← closesOn_of_owner howner (by rintro pid rfl; cases hsignal)] at hend
      have hclosed : (s.signal around signal).exchange = s.leftovers := exchange_signal hend
      refine (exchange_concludeConversation ?_).trans hended
      calc ({ s.signal around signal with sessionConversation := none } : GdmSession).exchange
          = { (s.signal around signal).exchange with sessionConversation := none } := rfl
        _ = s.leftovers := by rw [hclosed]; rfl
        _ = _ := hleft.trans hended.symm
    · have hmoves : Moves Permits.all s (s.signal around signal) :=
        moves_signal hws (.marks hsignal trivial)
          (.of_closes hstarts fun _ => ⟨trivial, fun _ _ => trivial⟩)
      exact hstopped _ (hmoves.owner.trans howner) hended hstop
  · rename_i hown
    rw [hsession] at hown
    rcases hcloses with ⟨hown', _⟩ | hstop
    · exact absurd hown' hown
    · exact hstopped _ rfl rfl hstop

theorem mem_of_endCloses {id : Nat} {ended : SessionSignal}
    (h : self.endCloses around id ended = true) :
    ∃ c, self.conversationAt id = some c ∧ c ∈ self.conversations ∧ c.id = id := by
  unfold endCloses at h
  split at h
  · cases h
  · rename_i c hat
    obtain ⟨hc, hid⟩ := mem_of_conversationAt hat
    exact ⟨c, hat, hc, hid⟩

/-- A step that is to close the session leaves nothing but what a reset misses. -/
theorem exchange_handleEvent {event : SessionEvent} (hw : WellFormed self)
    (hcloses : self.closes around event = true) :
    (self.handleEvent around event).exchange = self.leftovers := by
  have hstolen : ∀ {c : Conversation}, WellFormed (self.stealConversation c.id) := by
    intro c
    have hmove : Move Permits.all self (self.stealConversation c.id) :=
      .steals trivial fun _ _ _ => trivial
    exact hmove.wellFormed hw
  cases event with
  | clientDisconnected pid =>
    obtain ⟨hmem, hon⟩ := Bool.and_eq_true_iff.mp hcloses
    have hmem' : pid ∈ self.outsideConnections := by simpa using hmem
    simp only [handleEvent, onOutsideConnectionClosed, if_pos hmem']
    have hsame : { self with outsideConnections := self.outsideConnections.erase pid }.closesOn
        around (.clientDisconnected pid) = self.closesOn around (.clientDisconnected pid) := by
      refine closesOn_of_owner ?_ fun _ => SessionSignal.noConfusion
      rfl
    exact exchange_signal (hsame.trans hon)
  | clientRejected pid => exact exchange_signal hcloses
  | client call =>
    cases call with
    | cancel =>
      obtain ⟨hexports, hon⟩ := Bool.and_eq_true_iff.mp hcloses
      simp only [handleEvent, receiveCall, ClientCall.interface, hexports, if_true]
      exact exchange_signal hon
    | _ => cases hcloses
  | owner call =>
    cases call with
    | reset => exact exchange_doReset
    | close => exact exchange_close
    | _ => cases hcloses
  | deliver id =>
    simp only [closes] at hcloses
    split at hcloses
    · cases hcloses
    · rename_i conversation message holdest
      obtain ⟨hat, rest, hinbox⟩ := mem_of_oldestMessage holdest
      simp only [handleEvent, deliver, hat, hinbox]
      exact exchange_onMessage hcloses
  | workerExited id code =>
    obtain ⟨conversation, hat, hc, rfl⟩ := mem_of_endCloses hcloses
    simp only [handleEvent, whenPresent, hat]
    exact exchange_workerEnds rfl hw hc hcloses hstolen rfl rfl
  | workerDied id signum =>
    obtain ⟨conversation, hat, hc, rfl⟩ := mem_of_endCloses hcloses
    simp only [handleEvent, whenPresent, hat]
    refine exchange_workerEnds rfl hw hc hcloses ?_ ?_ ?_
    · split
      · exact hstolen.emit rfl
      · exact hstolen
    · split <;> rfl
    · split <;> rfl
  | _ => cases hcloses

/-! ## Completeness -/

/-- The step resets the session. -/
def Resets (self : GdmSession) (event : SessionEvent × Surroundings) : Prop :=
  (self.step event).log.count .reset ≠ self.log.count .reset

/-- Every reset up to here has made the exchange as new as it was in the session
`s` when that was constructed, the session is marked as opened exactly if there
is the identifier of an opened one, and no conflict has been reported without
one. -/
structure ResetsCompletely (s : GdmSession) (events : List (SessionEvent × Surroundings)) :
    Prop where
  fresh : ∀ before event after, events = before ++ event :: after →
    Resets (machine.run s before) event →
    ((machine.run s before).step event).exchange = s.exchange
  opened : (machine.run s events).isOpened = true ↔ (machine.run s events).sessionOpened ≠ none
  conflicts : .signal (.stopConflictingSession none) ∉ (machine.run s events).log

/-- A step that resets the session finds nothing set that a reset misses. -/
def ResetsUnopened (s : GdmSession) (event : SessionEvent × Surroundings) : Prop :=
  s.closes event.2 event.1 = true → Unopened s

instance (s : GdmSession) (event : SessionEvent × Surroundings) :
    Decidable (ResetsUnopened s event) :=
  inferInstanceAs (Decidable (_ → _))

/-- Only the steps that are to close the session reset it. -/
theorem closes_of_resets (hw : WellFormed self) {event : SessionEvent × Surroundings}
    (h : Resets self event) :
    self.status = .running ∧ self.closes event.2 event.1 = true := by
  constructor
  · by_contra hstatus
    exact h (by simp [step, hstatus])
  · by_contra hcloses
    refine h (step_invariant (P := fun s => s.log.count .reset = self.log.count .reset) ?_ ?_ hw
      rfl)
    · intro s c message rest _ _ _ hcount
      have hlog : (s.taken c message).log = s.log ++ [.delivered c.id message] := rfl
      rw [hlog, List.count_append, hcount]
      simp
    · intro s s' hws hmove hcount
      obtain ⟨new, hlog, hreasons⟩ := hmove.reasons hws
      have hnone : SessionEffect.reset ∉ new := fun hmem => hcloses (hreasons _ hmem)
      rw [hlog, List.count_append, hcount, List.count_eq_zero_of_not_mem hnone, Nat.add_zero]

/-- What a step keeps of the flag and the identifier of an opened session, as long
as it runs. -/
structure OpenedInv (p : Permits) (wasOpened : Bool) (s : GdmSession) : Prop where
  identifier : s.isOpened = true → s.sessionOpened ≠ none
  flag : s.sessionOpened ≠ none → s.isOpened = true ∨ p.opens
  origin : s.isOpened = true → wasOpened = true ∨ p.opens
  conflicts : .signal (.stopConflictingSession none) ∉ s.log

theorem callWorker_opened (c : Conversation) (call : WorkerCall) :
    (self.callWorker c call).isOpened = self.isOpened ∧
      (self.callWorker c call).sessionOpened = self.sessionOpened := by
  unfold callWorker
  split <;> exact ⟨rfl, rfl⟩

theorem Move.openedInv (h : Move p self self') (hw : WellFormed self) {wasOpened : Bool}
    (hresets : p.resets → wasOpened = false ∧ ¬ p.opens) (hs : OpenedInv p wasOpened self) :
    OpenedInv p wasOpened self' := by
  have hconflicts : .signal (.stopConflictingSession none) ∉ self'.log := by
    obtain ⟨new, hlog, hreasons⟩ := h.reasons hw
    rw [hlog]
    intro hmem
    rcases List.mem_append.mp hmem with hold | hnew
    · exact hs.conflicts hold
    · obtain ⟨hopened, hnone⟩ := hreasons _ hnew
      exact hs.identifier hopened hnone.symm
  cases h with
  | aside h =>
    exact ⟨h.isOpened ▸ h.sessionOpened ▸ hs.identifier,
      h.isOpened ▸ h.sessionOpened ▸ hs.flag, h.isOpened ▸ hs.origin, hconflicts⟩
  | @calls c call _ _ _ =>
    obtain ⟨hopened, hidentifier⟩ := self.callWorker_opened c call
    exact ⟨hopened ▸ hidentifier ▸ hs.identifier, hopened ▸ hidentifier ▸ hs.flag,
      hopened ▸ hs.origin, hconflicts⟩
  | @asks c pid uid _ _ =>
    obtain ⟨hopened, hidentifier⟩ := (self.modifyConversation c.id fun c =>
      { c with reauthPidOfCaller := pid }).callWorker_opened c (.StartReauthentication pid uid)
    exact ⟨hopened ▸ hidentifier ▸ hs.identifier, hopened ▸ hidentifier ▸ hs.flag,
      hopened ▸ hs.origin, hconflicts⟩
  | resets hr _ =>
    obtain ⟨hwas, hopens⟩ := hresets hr
    have hnot : self.isOpened ≠ true := by
      intro hopened
      rcases hs.origin hopened with h | h
      · exact Bool.false_ne_true (hwas.symm.trans h)
      · exact hopens h
    exact ⟨fun hopened => absurd hopened hnot, fun hne => absurd rfl hne, hs.origin, hconflicts⟩
  | keepsSessionId sessionId hopens =>
    exact ⟨fun _ => Option.some_ne_none sessionId, fun _ => .inr hopens, hs.origin, hconflicts⟩
  | setsOpened hopens hne =>
    exact ⟨fun _ => hne, fun _ => .inr hopens, fun _ => .inr hopens, hconflicts⟩
  | _ => exact ⟨hs.identifier, hs.flag, hs.origin, hconflicts⟩

/-- The identifier and the flag of an opened session agree between the steps. -/
structure OpenedAgree (s : GdmSession) : Prop where
  opened : s.isOpened = true ↔ s.sessionOpened ≠ none
  conflicts : .signal (.stopConflictingSession none) ∉ s.log

/-- The dispatch of the success of Open ends with the flag set. -/
theorem isOpened_of_opensSession {event : SessionEvent × Surroundings}
    (hstatus : self.status = .running) (hopens : self.opensSession event.1 = true) :
    (self.step event).isOpened = true := by
  obtain ⟨event, around⟩ := event
  cases event with
  | deliver id =>
    simp only [opensSession] at hopens
    split at hopens
    · rename_i conversation sessionId holdest
      obtain ⟨hat, rest, hinbox⟩ := mem_of_oldestMessage holdest
      simp only [step, if_pos hstatus, handleEvent, deliver, hat, hinbox]
      rfl
    · cases hopens
  | _ => cases hopens

/-- No step both resets the session and opens one. -/
theorem not_opens_of_closes {event : SessionEvent × Surroundings}
    (h : self.closes event.2 event.1 = true) : self.opensSession event.1 = false := by
  obtain ⟨event, around⟩ := event
  cases event with
  | deliver id =>
    simp only [closes, opensSession] at h ⊢
    split at h
    · rename_i hnone
      rw [hnone]
    · rename_i conversation message holdest
      rw [holdest]
      cases message with
      | success answer => cases answer with
        | Open sessionId => cases h
        | _ => rfl
      | _ => rfl
  | _ => rfl

theorem step_openedAgree (hw : WellFormed self) {event : SessionEvent × Surroundings}
    (h : ResetsUnopened self event) (hs : OpenedAgree self) : OpenedAgree (self.step event) := by
  by_cases hstatus : self.status = .running
  · have hinv : OpenedInv (self.permits event.2 event.1) self.isOpened (self.step event) := by
      refine step_invariant ?_ ?_ hw ⟨hs.opened.mp, fun hne => .inl (hs.opened.mpr hne), .inl,
        hs.conflicts⟩
      · intro s c message rest _ _ _ hs
        have hlog : (s.taken c message).log = s.log ++ [.delivered c.id message] := rfl
        exact ⟨hs.identifier, hs.flag, hs.origin, by simpa [hlog] using hs.conflicts⟩
      · intro s s' hws hmove hs
        refine hmove.openedInv hws ?_ hs
        intro hcloses
        refine ⟨(h hcloses).isOpened, ?_⟩
        intro hopens
        exact Bool.false_ne_true ((not_opens_of_closes hcloses).symm.trans hopens)
    refine ⟨⟨hinv.identifier, ?_⟩, hinv.conflicts⟩
    intro hne
    rcases hinv.flag hne with hopened | hopens
    · exact hopened
    · exact isOpened_of_opensSession hstatus hopens
  · rw [step, if_neg hstatus]
    exact hs

/-- In every run whose resets find nothing set that they miss, each of them is
complete. -/
theorem run_resetsCompletely {s : GdmSession} (hstart : machine.Start s)
    {events : List (SessionEvent × Surroundings)}
    (h : machine.Meets ResetsUnopened s events) : ResetsCompletely s events := by
  have hagree : WellFormed (machine.run s events) ∧ OpenedAgree (machine.run s events) := by
    refine h.invariant (fun s => WellFormed s ∧ OpenedAgree s) ?_ ⟨run_wellFormed hstart [], ?_⟩
    · rintro s event ⟨hw, hs⟩ hevent
      exact ⟨step_wellFormed hw event, step_openedAgree hw hevent hs⟩
    · obtain ⟨owner, hostname, device, seatId, isLocal, rfl⟩ := hstart
      exact ⟨by simp [new], by simp [new]⟩
  refine ⟨?_, hagree.2.opened, hagree.2.conflicts⟩
  rintro before event after rfl hresets
  have hw := run_wellFormed hstart before
  obtain ⟨hstatus, hcloses⟩ := closes_of_resets hw hresets
  rw [exchange_of_start hstart, step, if_pos hstatus, exchange_handleEvent hw hcloses]
  exact leftovers_eq_iff.mpr (h.at_step.2 hcloses)

/-- A login that is cancelled before the session is opened. -/
def cancelledLogin : List (SessionEvent × Surroundings) :=
  passwordLogin.take 10 ++ ([(.client .cancel, {}), (.owner .reset, {})] :
    List (SessionEvent × Surroundings))

theorem cancelledLogin_resetsCompletely : ResetsCompletely greeterSession cancelledLogin :=
  run_resetsCompletely start_greeterSession (by decide)

/-- A session that is reset after it has been opened is still marked as opened. -/
theorem resetAfterOpen_not_resetsCompletely : ¬ ResetsCompletely greeterSession
    (passwordLogin.take 13 ++ ([(.owner .reset, {})] : List (SessionEvent × Surroundings))) := by
  intro h
  exact absurd h.opened (by decide)

end GdmSession

end Gdm
