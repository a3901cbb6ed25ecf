import Gdm.Session.Chain

/-!
# What a step tells the manager

What a step adds to the history has its reason at some point of the step.  For a
session of a display there are two kinds of steps that the manager keeps account of:
those that open the session, and those in which the session is closed.
-/

namespace Gdm

/-- The signals on which the manager removes the session from its list. -/
def SessionSignal.removes : SessionSignal → Bool
  | sessionStartFailed _ _ | sessionExited _ _ | sessionDied _ _ => true
  | _ => false

/-- The entry that says that the session is open. -/
def SessionEffect.isOpening : SessionEffect → Bool
  | signal (.sessionOpened _ _) => true
  | _ => false

/-- The entries that say that the manager is to remove the session from its list. -/
def SessionEffect.isRemoval : SessionEffect → Bool
  | .signal ended => ended.removes
  | _ => false

namespace GdmSession

variable {self self' : GdmSession} {p : Permits} {around : Surroundings}

theorem Moves.reasons (h : Moves p self self') (hw : WellFormed self) :
    ∃ new, self'.log = self.log ++ new ∧
      ∀ effect ∈ new, ∃ s, WellFormed s ∧ Reason p s effect := by
  refine (h.preserves (P := fun t => WellFormed t ∧ ∃ new, t.log = self.log ++ new ∧
    ∀ effect ∈ new, ∃ s, WellFormed s ∧ Reason p s effect) ?_
      ⟨hw, [], by simp, by simp⟩).2
  rintro t t' hmove ⟨ht, hadded⟩
  obtain ⟨new', hlog', hnew'⟩ := hmove.reasons ht
  exact ⟨hmove.wellFormed ht, History.exists_added_trans hadded
    ⟨new', hlog', fun effect heffect => ⟨t, ht, hnew' effect heffect⟩⟩⟩

/-- The history of a session grows, and nothing but the dispatch of a message comes
without a reason. -/
theorem step_reasons (hw : WellFormed self) (event : SessionEvent × Surroundings) :
    ∃ new, (self.step event).log = self.log ++ new ∧
      ∀ effect ∈ new, (∃ id message, effect = .delivered id message) ∨
        ∃ s, WellFormed s ∧ Reason (self.permits event.2 event.1) s effect := by
  obtain ⟨s, htakes, hmoves⟩ := step_moves hw event.1 event.2
  obtain ⟨new, hlog, hnew⟩ := hmoves.reasons (htakes.wellFormed hw)
  cases htakes with
  | nothing => exact ⟨new, hlog, fun effect heffect => .inr (hnew effect heffect)⟩
  | @message conversation message _ _ _ _ _ =>
    refine ⟨.delivered conversation.id message :: new, ?_, ?_⟩
    · rw [hlog, taken_log, List.append_assoc]
      rfl
    · intro effect heffect
      rcases List.mem_cons.mp heffect with rfl | heffect
      · exact .inl ⟨_, _, rfl⟩
      · exact .inr (hnew effect heffect)

theorem step_owner (hw : WellFormed self) (event : SessionEvent × Surroundings) :
    (self.step event).owner = self.owner := by
  obtain ⟨s, htakes, hmoves⟩ := step_moves hw event.1 event.2
  rw [hmoves.owner]
  cases htakes <;> rfl

/-- A step that is not said to close the session does not reset it. -/
theorem step_keeps (hw : WellFormed self) (event : SessionEvent × Surroundings)
    (hcloses : self.closes event.2 event.1 = false) :
    ∃ new, (self.step event).log = self.log ++ new ∧ .reset ∉ new := by
  obtain ⟨new, hlog, hnew⟩ := step_reasons hw event
  refine ⟨new, hlog, fun hreset => ?_⟩
  rcases hnew _ hreset with ⟨id, message, heq⟩ | ⟨s, _, hreason⟩
  · cases heq
  · have hcloses' : self.closes event.2 event.1 = true := hreason
    rw [hcloses] at hcloses'
    cases hcloses'

/-- Only the dispatch of a success of Open says that the session is open. -/
theorem opensSession_of_reason {s : GdmSession} {event : SessionEvent × Surroundings}
    {effect : SessionEffect} (hopening : effect.isOpening = true)
    (h : Reason (self.permits event.2 event.1) s effect) : self.opensSession event.1 = true := by
  cases effect with
  | signal signal =>
    cases signal with
    | sessionOpened serviceName sessionId => exact h.1
    | _ => cases hopening
  | _ => cases hopening

/-! ## The opening of a session -/

/-- The owner of the session of a display leaves these signals to the manager. -/
theorem signal_of_userSession (howner : self.owner = .userSession) {signal : SessionSignal}
    (hstarts : ∀ serviceName, signal ≠ .conversationStarted serviceName)
    (hconnects : ∀ pid, signal ≠ .clientConnected pid) (hremoves : signal.removes = false) :
    self.signal around signal = self.emit (.signal signal) := by
  have howner' : (self.emit (.signal signal)).owner = .userSession := howner
  unfold GdmSession.signal react
  rw [howner']
  cases signal with
  | conversationStarted serviceName => exact absurd rfl (hstarts serviceName)
  | clientConnected pid => exact absurd rfl (hconnects pid)
  | sessionStartFailed _ _ => cases hremoves
  | sessionExited _ _ => cases hremoves
  | sessionDied _ _ => cases hremoves
  | _ => rfl

theorem onOpened_log (around : Surroundings) (howner : self.owner = .userSession)
    (conversation : Conversation) (sessionId : String) :
    ∃ before, (self.onOpened around conversation (.ok sessionId)).log = self.log ++ before ++
        [.signal (.sessionOpened conversation.serviceName sessionId)] ∧
      ∀ effect ∈ before, effect = .signal (.verificationComplete conversation.serviceName) := by
  obtain ⟨opened, hopened⟩ : ∃ s, s = { self.modifyConversation conversation.id
      (fun c => { c with sessionId := some sessionId }) with
    sessionOpened := some sessionId } := ⟨_, rfl⟩
  have hlog : opened.log = self.log := by rw [hopened]; rfl
  have howner' : opened.owner = .userSession := by rw [hopened]; exact howner
  have hverified : opened.signal around (.verificationComplete conversation.serviceName) =
      opened.emit (.signal (.verificationComplete conversation.serviceName)) :=
    signal_of_userSession howner' (by simp) (by simp) rfl
  have hplain : ∀ s : GdmSession, s.owner = .userSession →
      (s.signal around (.sessionOpened conversation.serviceName sessionId)).log =
        s.log ++ [.signal (.sessionOpened conversation.serviceName sessionId)] := by
    intro s hs
    rw [signal_of_userSession hs (by simp) (by simp) rfl]
    rfl
  unfold onOpened
  simp only [← hopened]
  split
  · rw [hverified, hplain (opened.emit _) howner']
    refine ⟨[.signal (.verificationComplete conversation.serviceName)], ?_, by simp⟩
    simp only [emit, hlog]
  · rw [hplain _ howner', hlog]
    exact ⟨[], by simp, by simp⟩

/-- The last thing that is told in the step that opens a session is that it is open. -/
theorem step_opens (howner : self.owner = .userSession) (hstatus : self.status = .running)
    (event : SessionEvent × Surroundings) (hopens : self.opensSession event.1 = true) :
    ∃ before serviceName sessionId, (self.step event).log =
        self.log ++ before ++ [.signal (.sessionOpened serviceName sessionId)] ∧
      ∀ effect ∈ before, effect ≠ .reset ∧ effect.isOpening = false ∧
        effect.isRemoval = false := by
  obtain ⟨event, around⟩ := event
  cases event with
  | deliver id =>
    simp only [opensSession] at hopens
    split at hopens
    · rename_i conversation sessionId holdest
      obtain ⟨hat, rest, hinbox⟩ := mem_of_oldestMessage holdest
      simp only [step, if_pos hstatus, handleEvent, deliver, hat, hinbox, onMessage, onSuccess]
      have htaken : (self.taken conversation (.success (.Open sessionId))).owner = .userSession :=
        howner
      obtain ⟨before, hlog, hbefore⟩ := onOpened_log around htaken
        (conversation.take (.success (.Open sessionId))) sessionId
      rw [hlog, taken_log]
      refine ⟨.delivered conversation.id (.success (.Open sessionId)) :: before,
        conversation.serviceName, sessionId, by simp [Conversation.take], ?_⟩
      intro effect heffect
      rcases List.mem_cons.mp heffect with rfl | heffect
      · simp [SessionEffect.isOpening, SessionEffect.isRemoval]
      · rw [hbefore effect heffect]
        simp [SessionEffect.isOpening, SessionEffect.isRemoval, SessionSignal.removes]
    · cases hopens
  | _ => cases hopens

/-! ## The steps that close a session -/

/-- The owner of the session of a display closes it on the signals for its end. -/
theorem removes_of_closesOn (howner : self.owner = .userSession) {signal : SessionSignal}
    (h : self.closesOn around signal = true) : signal.removes = true := by
  unfold closesOn at h
  rw [howner] at h
  cases signal with
  | sessionStartFailed
  | sessionExited
  | sessionDied => rfl
  | _ => cases h

/-- The owner closes the session on the signals for its end, if it has it in its list. -/
theorem signal_of_removes (howner : self.owner = .userSession) {signal : SessionSignal}
    (hremoves : signal.removes = true) :
    self.signal around signal =
      if around.inUserSessions then (self.emit (.signal signal)).close
      else self.emit (.signal signal) := by
  have howner' : (self.emit (.signal signal)).owner = .userSession := howner
  unfold GdmSession.signal react
  rw [howner']
  cases signal with
  | sessionStartFailed
  | sessionExited
  | sessionDied => rfl
  | _ => cases hremoves

/-- What such a signal adds to the history begins with itself. -/
theorem log_of_removes (around : Surroundings) (howner : self.owner = .userSession)
    (signal : SessionSignal) (hremoves : signal.removes = true) :
    ∃ after, (self.signal around signal).log = self.log ++ .signal signal :: after := by
  rw [signal_of_removes howner hremoves]
  split
  · have hlog : (self.emit (.signal signal)).close.log = _ := doReset_log
    rw [hlog, emit, List.append_assoc, List.append_assoc]
    exact ⟨_, rfl⟩
  · exact ⟨[], rfl⟩

theorem concludeConversation_log (howner : self.owner = .userSession)
    (conversation : Conversation) :
    (self.concludeConversation around conversation).log = self.log ++
      [.signal (.conversationStopped conversation.serviceName),
        .freed conversation.id conversation.pendingInvocation conversation.startingInvocation] := by
  unfold concludeConversation
  rw [signal_of_userSession howner (by simp) (by simp) rfl]
  simp [emit]

/-- A worker whose session comes to its end with it. -/
theorem log_of_workerEnds (around : Surroundings) (howner : self.owner = .userSession)
    (conversation : Conversation) (ended : SessionSignal) (hremoves : ended.removes = true) :
    ∃ after, (({ self.signal around ended with sessionConversation := none } :
      GdmSession).concludeConversation around conversation).log =
        self.log ++ .signal ended :: after := by
  obtain ⟨after, hlog⟩ := log_of_removes around howner ended hremoves
  have howner' : ({ self.signal around ended with sessionConversation := none } :
      GdmSession).owner = .userSession := by
    rw [signal_of_removes howner hremoves]
    split <;> exact howner
  rw [concludeConversation_log howner']
  refine ⟨after ++ [.signal (.conversationStopped conversation.serviceName),
    .freed conversation.id conversation.pendingInvocation conversation.startingInvocation], ?_⟩
  simp [hlog]

/-- A worker whose end closes the session is the one of the session. -/
theorem sessionConversation_of_endCloses {around : Surroundings} {id : Nat} {ended : SessionSignal}
    (hstopped : ∀ serviceName, self.closesOn around (.conversationStopped serviceName) = false)
    (h : self.endCloses around id ended = true) :
    ∃ conversation, self.conversationAt id = some conversation ∧ conversation.id = id ∧
      self.sessionConversation = some id := by
  unfold endCloses at h
  split at h
  · cases h
  · rename_i conversation hat
    rw [hstopped, Bool.or_false, Bool.and_eq_true, decide_eq_true_eq] at h
    exact ⟨conversation, hat, (mem_of_conversationAt hat).2, h.1⟩

/-- The session of a display is closed only in a step that tells its end. -/
theorem step_closes (howner : self.owner = .userSession) (hstatus : self.status = .running)
    {event : SessionEvent} (hcall : ∀ call, event ≠ .owner call)
    (hcloses : self.closes around event = true) :
    ∃ before signal after, SessionSignal.removes signal = true ∧
      (self.step (event, around)).log = self.log ++ before ++ .signal signal :: after := by
  have hnot : ∀ signal : SessionSignal, signal.removes = false →
      self.closesOn around signal = false := by
    intro signal hremoves
    cases hon : self.closesOn around signal with
    | false => rfl
    | true =>
      rw [removes_of_closesOn howner hon] at hremoves
      cases hremoves
  simp only [step, if_pos hstatus]
  cases event with
  | clientDisconnected pid => simp [closes, hnot (.clientDisconnected pid) rfl] at hcloses
  | clientRejected pid => simp [closes, hnot (.clientRejected pid) rfl] at hcloses
  | client call =>
    cases call with
    | cancel => simp [closes, hnot .cancelled rfl] at hcloses
    | _ => cases hcloses
  | owner call => exact absurd rfl (hcall call)
  | deliver id =>
    simp only [closes] at hcloses
    split at hcloses
    · cases hcloses
    · rename_i conversation message holdest
      obtain ⟨hat, rest, hinbox⟩ := mem_of_oldestMessage holdest
      simp only [handleEvent, deliver, hat, hinbox]
      have htaken : (self.taken conversation message).owner = .userSession := howner
      cases message with
      | success answer =>
        cases answer with
        | EstablishCredentials =>
          simp [messageCloses, hnot (.verificationComplete conversation.serviceName) rfl] at hcloses
        | _ => cases hcloses
      | failure method error =>
        cases method with
        | StartProgram =>
          have hstopped : ((self.taken conversation (.failure .StartProgram error)).stopConversation
              conversation.serviceName).owner = .userSession := by
            unfold stopConversation
            split <;> exact howner
          obtain ⟨after, hlog⟩ := log_of_removes around hstopped
            (.sessionStartFailed conversation.serviceName error.message) rfl
          obtain ⟨before, hbefore⟩ : ∃ before,
              ((self.taken conversation (.failure .StartProgram error)).stopConversation
                conversation.serviceName).log = self.log ++ before := by
            unfold stopConversation
            split
            · exact ⟨_, List.append_assoc _ _ _⟩
            · exact ⟨_, rfl⟩
          rw [hbefore] at hlog
          exact ⟨before, _, after, rfl, hlog⟩
        | _ => cases hcloses
      | signal signal =>
        cases signal with
        | sessionExited serviceName status =>
          have hcleared :
              ({ self.taken conversation (.signal (.sessionExited serviceName status)) with
                sessionConversation := none } : GdmSession).owner = .userSession := htaken
          have hlog := log_of_removes around hcleared
          cases status with
          | exited code =>
            obtain ⟨after, hafter⟩ := hlog (.sessionExited code conversation.id) rfl
            exact ⟨_, _, after, rfl, hafter⟩
          | signaled signum =>
            obtain ⟨after, hafter⟩ := hlog (.sessionDied signum conversation.id) rfl
            exact ⟨_, _, after, rfl, hafter⟩
        | _ => cases hcloses
  | workerExited id code =>
    obtain ⟨conversation, hat, rfl, hown⟩ :=
      sessionConversation_of_endCloses (fun name => hnot (.conversationStopped name) rfl) hcloses
    have hsession : (self.stealConversation conversation.id).sessionConversation =
      some conversation.id := hown
    simp only [handleEvent, whenPresent, hat, workerExited, if_pos hsession]
    have hstolen : (self.stealConversation conversation.id).owner = .userSession := howner
    obtain ⟨after, hlog⟩ := log_of_workerEnds around hstolen conversation
      (.sessionExited code conversation.id) rfl
    exact ⟨[], _, after, rfl, by rw [hlog, List.append_nil]; rfl⟩
  | workerDied id signum =>
    obtain ⟨conversation, hat, rfl, hown⟩ :=
      sessionConversation_of_endCloses (fun name => hnot (.conversationStopped name) rfl) hcloses
    have hsession : (self.stealConversation conversation.id).sessionConversation =
      some conversation.id := hown
    simp only [handleEvent, whenPresent, hat, workerDied, if_pos hsession]
    have hended : ∀ s : GdmSession, s.owner = .userSession → ∀ before,
        s.log = self.log ++ before → ∃ before signal after, SessionSignal.removes signal = true ∧
          (({ s.signal around (.sessionDied signum conversation.id) with
            sessionConversation := none } : GdmSession).concludeConversation around
              conversation).log = self.log ++ before ++ .signal signal :: after := by
      intro s hs before hbefore
      obtain ⟨after, hlog⟩ := log_of_workerEnds around hs conversation
        (.sessionDied signum conversation.id) rfl
      exact ⟨before, _, after, rfl, by rw [hlog, hbefore]⟩
    split
    · exact hended _ howner [_] rfl
    · exact hended _ howner [] (List.append_nil _).symm
  | _ => cases hcloses

end GdmSession

end Gdm
