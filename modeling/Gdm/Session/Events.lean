import Gdm.Session.Replying

/-!
# What an event does, said beforehand

Which conversations an event frees, which users it selects, what it initializes
and where it slips is said by functions of the event and of the state before it.
-/

namespace Gdm

/-- The interface that a query needs. -/
def QueryKind.interface : QueryKind → ClientInterface
  | choiceList => .choiceList
  | customJson => .customJson
  | info | secretInfo => .userVerifier

/-- The service whose query a call of a client answers. -/
def ClientCall.answers : ClientCall → Option String
  | answerQuery serviceName _ | selectChoice serviceName _ | customJsonReply serviceName _
  | customJsonReportError serviceName _ => some serviceName
  | _ => none

/-- The service and the user that a call of a client begins the verification for. -/
def ClientCall.begins : ClientCall → Option (String × Option String)
  | beginVerification serviceName => some (serviceName, none)
  | beginVerificationForUser serviceName username => some (serviceName, some username)
  | _ => none

/-- The conversation whose worker has come to its end. -/
def SessionEvent.ends : SessionEvent → Option Nat
  | workerExited id _ | workerDied id _ => some id
  | _ => none

namespace GdmSession

/-- The message that is dispatched next for a conversation. -/
def oldestMessage (self : GdmSession) (id : Nat) : Option (Conversation × WorkerMessage) :=
  match self.conversationAt id with
  | none => none
  | some conversation =>
    match conversation.inbox with
    | [] => none
    | message :: _ => some (conversation, message)

/-- The conversation that `register_worker` finds. -/
def conversationOfPid (self : GdmSession) (pid : Int) : Option Conversation :=
  self.conversations.find? fun c => c.workerPid = pid

/-- The worker of the service has not said Hello yet. -/
def isUnregistered (self : GdmSession) (serviceName : String) : Bool :=
  (self.findConversationByName serviceName).any fun c => !c.workerProxy

/-! ## Conversations that go -/

/-- The message of a worker makes the owner close the session. -/
def messageCloses (self : GdmSession) (around : Surroundings) (conversation : Conversation) :
    WorkerMessage → Bool
  | .success .EstablishCredentials =>
    self.verificationMode = .reauthenticate && self.userVerifierInterface &&
      self.closesOn around (.verificationComplete conversation.serviceName)
  | .failure .StartProgram error =>
    self.closesOn around (.sessionStartFailed conversation.serviceName error.message)
  | .signal (.sessionExited _ status) =>
    self.closesOn around (status.signal conversation.id)
  | _ => false

/-- The end of a worker, or of the session with it, makes the owner close the
session. -/
def endCloses (self : GdmSession) (around : Surroundings) (id : Nat) (ended : SessionSignal) :
    Bool :=
  match self.conversationAt id with
  | none => false
  | some conversation =>
    self.sessionConversation = some id && self.closesOn around ended ||
      self.closesOn around (.conversationStopped conversation.serviceName)

/-- The step resets the session, or closes it. -/
def closes (self : GdmSession) (around : Surroundings) : SessionEvent → Bool
  | .clientDisconnected pid =>
    self.outsideConnections.contains pid && self.closesOn around (.clientDisconnected pid)
  | .clientRejected pid => self.closesOn around (.clientRejected pid)
  | .client .cancel => self.exports .userVerifier && self.closesOn around .cancelled
  | .owner .reset | .owner .close => true
  | .deliver id =>
    match self.oldestMessage id with
    | none => false
    | some (conversation, message) => self.messageCloses around conversation message
  | .workerExited id code => self.endCloses around id (.sessionExited code id)
  | .workerDied id signum => self.endCloses around id (.sessionDied signum id)
  | _ => false

/-- The service for which the step starts a conversation, also in the place of
one that is stopping. -/
def restarts (self : GdmSession) (around : Surroundings) : SessionEvent → Option String
  | .clientConnected _ => if self.startsTimedLogin around then some "gdm-autologin" else none
  | .client call =>
    if self.exports call.interface then call.begins.map Prod.fst else none
  | .owner (.startConversation serviceName) => some serviceName
  | _ => none

/-- The step frees the conversation. -/
def frees (self : GdmSession) (around : Surroundings) (event : SessionEvent)
    (conversation : Conversation) : Bool :=
  self.closes around event ||
    (self.restarts around event = some conversation.serviceName && conversation.isStopping) ||
    event.ends = some conversation.id

/-! ## Users -/

/-- The users that the step selects. -/
def selections (self : GdmSession) (around : Surroundings) : SessionEvent → List String
  | .client (.selectUser username) | .client (.beginAutoLogin username) =>
    if self.exports .greeter && !self.isRunning then [username] else []
  | .hello pid =>
    match self.conversationOfPid pid with
    | none => []
    | some conversation =>
      if conversation.workerProxy then []
      else
        (self.autologinUser around conversation.serviceName).toList ++
          if conversation.startingInvocation.isSome then conversation.startingUsername.toList
          else []
  | .deliver id =>
    match self.oldestMessage id with
    | some (_, .signal (.usernameChanged username)) => (announcedUser username).toList
    | _ => []
  | _ => []

/-- The services and users that the step initializes workers with. -/
def initializations (self : GdmSession) (around : Surroundings) :
    SessionEvent → List (Option String × Option String)
  | .client (.beginAutoLogin username) =>
    if self.exports .greeter && !self.isRunning then [(some "gdm-autologin", some username)]
    else []
  | .hello pid =>
    match self.conversationOfPid pid with
    | none => []
    | some conversation =>
      ((self.autologinUser around conversation.serviceName).toList.map fun username =>
        (some conversation.serviceName, some username)) ++
      (if self.setsUpProgram around then [(some "gdm-launch-environment", around.launchUser)]
        else []) ++
      (if conversation.startingInvocation.isSome then
        [(some conversation.serviceName, conversation.startingUsername)] else [])
  | _ => []

/-- The service and the user that a client begins the verification for. -/
def beginnings (self : GdmSession) : SessionEvent → Option (String × Option String)
  | .client call => if self.exports call.interface then call.begins else none
  | _ => none

/-! ## The session that is opened and ends -/

/-- The step dispatches the success of Open. -/
def opensSession (self : GdmSession) : SessionEvent → Bool
  | .deliver id =>
    match self.oldestMessage id with
    | some (_, .success (.Open _)) => true
    | _ => false
  | _ => false

/-- The signal for the end of the session that the step emits. -/
def endSignal (self : GdmSession) : SessionEvent → Option SessionSignal
  | .deliver id =>
    match self.oldestMessage id with
    | some (conversation, .signal (.sessionExited _ status)) =>
      some (status.signal conversation.id)
    | _ => none
  | .workerExited id code =>
    if (self.conversationAt id).isSome ∧ self.sessionConversation = some id then
      some (.sessionExited code id)
    else none
  | .workerDied id signum =>
    if (self.conversationAt id).isSome ∧ self.sessionConversation = some id then
      some (.sessionDied signum id)
    else none
  | _ => none

/-! ## Slips -/

/-- The step calls a worker that has not said Hello. -/
def callsEarly (self : GdmSession) (around : Surroundings) : SessionEvent → Bool
  | .client (.beginAutoLogin _) =>
    self.exports .greeter && !self.isRunning && self.isUnregistered "gdm-autologin"
  | .owner (.startSession serviceName) =>
    self.sessionConversation.isNone && self.nullConversations.isEmpty &&
      around.sessionCommandExists && self.isUnregistered serviceName
  | .hello pid =>
    match self.conversationOfPid pid with
    | none => false
    | some conversation =>
      !conversation.workerProxy && self.setsUpProgram around &&
        conversation.serviceName ≠ "gdm-launch-environment" &&
        self.isUnregistered "gdm-launch-environment"
  | _ => false

/-- The step replies to no invocation: the initialization of a worker fails that
no client has asked for. -/
def returnsNull (self : GdmSession) : SessionEvent → Bool
  | .deliver id =>
    match self.oldestMessage id with
    | some (conversation, .failure .Initialize _) => conversation.startingInvocation.isNone
    | _ => false
  | _ => false

/-- The step lapses in the handling of queries: a query that is passed on meets
no conversation or one with another query pending, or an answer meets a
conversation with none. -/
def lapses (self : GdmSession) : SessionEvent → Bool
  | .query kind serviceName =>
    self.exports kind.interface &&
      (self.findConversationByName serviceName).all fun c => c.pendingInvocation.isSome
  | .client call =>
    match call.answers with
    | none => false
    | some serviceName =>
      self.exports call.interface &&
        (self.findConversationByName serviceName).any fun c => c.pendingInvocation.isNone
  | _ => false

/-- The step replaces the conversation of the session, which is stopping. -/
def orphans (self : GdmSession) (around : Surroundings) (event : SessionEvent) : Bool :=
  self.conversations.any fun c =>
    self.restarts around event = some c.serviceName && c.isStopping &&
      self.sessionConversation = some c.id

/-- The worker that the step starts has the process number of another one. -/
def clashes (self : GdmSession) (around : Surroundings) (event : SessionEvent) : Bool :=
  match self.restarts around event with
  | some serviceName => self.conversations.any fun c =>
      c.serviceName ≠ serviceName && around.spawn = some c.workerPid
  | none => false

/-- What a step is allowed to do: what has been said beforehand. -/
def permits (self : GdmSession) (around : Surroundings) (event : SessionEvent) : Permits where
  frees pending starting := ∃ c ∈ self.conversations, self.frees around event c = true ∧
    c.pendingInvocation = pending ∧ c.startingInvocation = starting
  selects username := username ∈ self.selections around event
  initializes service username := (service, username) ∈ self.initializations around event
  begins serviceName username := self.beginnings event = some (serviceName, username)
  spawns outcome := outcome = around.spawn ∧ (self.restarts around event).isSome = true
  ends id := event.ends = some id
  resets := self.closes around event = true
  opens := self.opensSession event = true
  marks signal := self.endSignal event = some signal
  callsEarly := self.callsEarly around event = true
  returnsNull := self.returnsNull event = true
  lapses := self.lapses event = true
  orphans := self.orphans around event = true
  clashes := self.clashes around event = true

variable {self self' : GdmSession} {p : Permits} {around : Surroundings}

theorem mayClose_permits {event : SessionEvent} (h : self.closes around event = true) :
    MayClose (self.permits around event) self where
  resets := h
  frees c hc := ⟨c, hc, by simp [frees, h], rfl, rfl⟩

theorem mayStart_permits {event : SessionEvent} {serviceName : String}
    (h : self.restarts around event = some serviceName) :
    MayStart (self.permits around event) self around.spawn serviceName := by
  intro hstopping
  refine ⟨⟨rfl, by simp [h]⟩, ?_, ?_, ?_⟩
  · intro c hc hname
    exact ⟨c, hc, by simp [frees, h, hname, hstopping c hc hname], rfl, rfl⟩
  · intro c hc hname hsession
    show self.orphans around event = true
    refine List.any_eq_true.mpr ⟨c, hc, ?_⟩
    simp [h, hname, hstopping c hc hname, hsession]
  · intro c hc hname hspawn
    show self.clashes around event = true
    rw [clashes, h]
    exact List.any_eq_true.mpr ⟨c, hc, by simp [hname, hspawn]⟩

theorem mayCall_of_isUnregistered (hs : WellFormed self) {serviceName : String}
    (h : self.isUnregistered serviceName = true → p.callsEarly) :
    MayCall p self serviceName := by
  intro c hc hname hproxy
  refine h ?_
  rw [isUnregistered, ← hname, hs.findConversationByName hc]
  simp [hproxy]

theorem oldestMessage_eq_some {id : Nat} {conversation : Conversation} {message : WorkerMessage}
    {rest : List WorkerMessage} (hat : self.conversationAt id = some conversation)
    (hinbox : conversation.inbox = message :: rest) :
    self.oldestMessage id = some (conversation, message) := by
  simp [oldestMessage, hat, hinbox]

theorem mem_of_oldestMessage {id : Nat} {conversation : Conversation} {message : WorkerMessage}
    (h : self.oldestMessage id = some (conversation, message)) :
    self.conversationAt id = some conversation ∧ ∃ rest, conversation.inbox = message :: rest := by
  unfold oldestMessage at h
  cases hat : self.conversationAt id with
  | none => simp [hat] at h
  | some c =>
    cases hinbox : c.inbox with
    | nil => simp [hat, hinbox] at h
    | cons m rest =>
      simp only [hat, hinbox, Option.some.injEq, Prod.mk.injEq] at h
      obtain ⟨rfl, rfl⟩ := h
      exact ⟨rfl, rest, hinbox⟩

/-! ## Taking a message -/

/-- The state in which the moves of a step begin: a step takes at most one
message, of the conversation that its event names. -/
inductive Takes (s : GdmSession) (event : SessionEvent) : GdmSession → Prop
  | nothing : Takes s event s
  | message {conversation : Conversation} {message : WorkerMessage}
      {rest : List WorkerMessage} : event = .deliver conversation.id →
      conversation ∈ s.conversations → conversation.inbox = message :: rest →
      s.oldestMessage conversation.id = some (conversation, message) →
      Takes s event (s.taken conversation message)

section Taking

variable {conversation : Conversation} {message : WorkerMessage} {rest : List WorkerMessage}

theorem mem_taken {c : Conversation} :
    c ∈ (self.taken conversation message).conversations ↔
      ∃ d ∈ self.conversations, c = if d.id = conversation.id then d.take message else d :=
  mem_modifyConversation

theorem dispatching_taken :
    dispatching (self.taken conversation message).log = some (conversation.id, message) :=
  History.lastSome_concat rfl

theorem WellFormed.taken (hs : WellFormed self) (hc : conversation ∈ self.conversations)
    (hinbox : conversation.inbox = message :: rest) :
    WellFormed (self.taken conversation message) := by
  have hproxy := (hs.sane conversation hc).proxy_of_inbox hinbox
  have hemit : WellFormed (self.emit (.delivered conversation.id message)) := by
    refine ⟨hs.ids, hs.names, hs.fresh, hs.nulls, hs.sane, hs.session, hs.attached, ?_, hs.mode⟩
    intro id other hmem
    rcases List.mem_append.mp hmem with hold | hnew
    · exact hs.dispatched id other hold
    · simp only [List.mem_singleton, SessionEffect.delivered.injEq] at hnew
      refine ⟨hnew.1 ▸ hs.fresh conversation hc, ?_⟩
      intro c hc' hid
      rw [hs.eq_of_id hc' hc (hid.trans hnew.1)]
      exact hproxy
  have hmodify := hemit.modify (i := conversation.id) (f := fun c => c.take message)
    (fun _ => rfl) (fun _ => rfl) (fun _ h => h) ?_
  · exact ⟨hmodify.ids, hmodify.names, hmodify.fresh, hmodify.nulls, hmodify.sane,
      hmodify.session, hmodify.attached, hmodify.dispatched, hmodify.mode⟩
  · intro c hc' _ hsane
    refine ⟨fun hno => ?_, fun hmode => ?_⟩
    · obtain ⟨hconnected, houtstanding, hempty⟩ := hsane.hello hno
      exact ⟨hconnected, houtstanding, by simp [Conversation.take, hempty]⟩
    · have hopens := hsane.opens hmode
      exact ⟨hopens.1, fun sessionId hmem => hopens.2 sessionId (List.mem_of_mem_tail hmem)⟩

theorem dispatches_taken (hs : WellFormed self) (hc : conversation ∈ self.conversations)
    (hinbox : conversation.inbox = message :: rest) :
    Dispatches (self.taken conversation message) (conversation.take message) message where
  wellFormed := hs.taken hc hinbox
  mem := mem_taken.mpr ⟨conversation, hc, by simp⟩
  proxy := (hs.sane conversation hc).proxy_of_inbox hinbox
  dispatching := dispatching_taken

/-- Taking a message leaves what is pending. -/
theorem MayClose.taken (h : MayClose p self) : MayClose p (self.taken conversation message) where
  resets := h.resets
  frees := by
    intro c hc
    obtain ⟨d, hd, rfl⟩ := mem_taken.mp hc
    split
    · exact h.frees d hd
    · exact h.frees d hd

theorem Takes.wellFormed {event : SessionEvent} (h : Takes self event self')
    (hs : WellFormed self) : WellFormed self' := by
  cases h with
  | nothing => exact hs
  | message _ hc hinbox _ => exact hs.taken hc hinbox

/-! ## The callbacks for the messages of a worker -/

theorem moves_onSuccess (hs : WellFormed self) {answer : Answer}
    (hc : conversation ∈ self.conversations)
    (hinbox : conversation.inbox = .success answer :: rest)
    (hopens : ∀ sessionId, answer = .Open sessionId → p.opens)
    (hcloses : self.messageCloses around conversation (.success answer) = true →
      MayClose p self) :
    Moves p (self.taken conversation (.success answer))
      ((self.taken conversation (.success answer)).onSuccess around
        (conversation.take (.success answer)) answer) := by
  have h := dispatches_taken hs hc hinbox
  cases answer with
  | Initialize user =>
    exact moves_onInitializationCompleteCb around none h (fun _ => ⟨user, rfl⟩)
      (fun hne => absurd rfl hne)
  | Authenticate user =>
    refine moves_onAuthenticateCb around none fun _ => ⟨user, h, ?_⟩
    intro hconnected
    have hconnected' : conversation.connected = true := hconnected
    simp [Conversation.take, WorkerMessage.verifies, hconnected']
  | Authorize => exact moves_onAuthorizeCb none fun _ => h
  | EstablishCredentials =>
    refine moves_onEstablishCredentialsCb around none (fun _ => h) ?_
    intro _ hmode hverifier hclosesOn
    have hmode' : self.verificationMode = .reauthenticate := hmode
    have hverifier' : self.userVerifierInterface = true := hverifier
    refine (hcloses ?_).taken
    simp only [messageCloses, hmode', hverifier', decide_true, Bool.true_and]
    exact hclosesOn
  | Open sessionId =>
    refine moves_onOpened around (.ok sessionId) ?_
    intro sessionId' heq
    cases heq
    refine ⟨h, ?_, hopens sessionId rfl⟩
    show self.verificationMode = .login
    cases hmode : self.verificationMode with
    | login => rfl
    | reauthenticate =>
      have hnot := ((hs.sane conversation hc).opens hmode).2 sessionId
      exact absurd (by simp [hinbox]) hnot
  | StartProgram pid =>
    refine moves_onStartProgramCb around (.ok pid) h ?_ ?_
    · rintro pid' ⟨⟩
      rfl
    · intro error heq
      cases heq
  | StartReauthentication address =>
    refine moves_onReauthenticationStartedCb around (.ok address) h rfl ?_
    rintro address' ⟨⟩
    rfl

theorem moves_onFailure (hs : WellFormed self) {method : WorkerMethod} {error : WorkerError}
    (hc : conversation ∈ self.conversations)
    (hinbox : conversation.inbox = .failure method error :: rest)
    (hnull : method = .Initialize → conversation.startingInvocation = none → p.returnsNull)
    (hcloses : self.messageCloses around conversation (.failure method error) = true →
      MayClose p self) :
    Moves p (self.taken conversation (.failure method error))
      ((self.taken conversation (.failure method error)).onFailure around
        (conversation.take (.failure method error)) error method) := by
  have h := dispatches_taken hs hc hinbox
  cases method with
  | Initialize =>
    exact moves_onInitializationCompleteCb around (some error) h (fun heq => by cases heq)
      (fun _ => hnull rfl)
  | Authenticate => exact moves_onAuthenticateCb around (some error) fun heq => by cases heq
  | Authorize => exact moves_onAuthorizeCb (some error) fun heq => by cases heq
  | EstablishCredentials =>
    exact moves_onEstablishCredentialsCb around (some error) (fun heq => by cases heq)
      (fun heq => by cases heq)
  | Open =>
    refine moves_onOpened around (.error error) ?_
    intro sessionId heq
    cases heq
  | StartProgram =>
    refine moves_onStartProgramCb around (.error error) h ?_ ?_
    · intro pid heq
      cases heq
    · intro error' heq hclosesOn
      cases heq
      exact (hcloses hclosesOn).taken
  | StartReauthentication =>
    refine moves_onReauthenticationStartedCb around (.error error) h rfl ?_
    intro address heq
    cases heq

theorem moves_onWorkerSignal (hs : WellFormed self) {signal : WorkerSignal}
    (hc : conversation ∈ self.conversations)
    (hinbox : conversation.inbox = .signal signal :: rest)
    (hcloses : self.messageCloses around conversation (.signal signal) = true →
      MayClose p self)
    (hselects : ∀ username user, signal = .usernameChanged username →
      announcedUser username = some user → p.selects user)
    (hmarks : ∀ serviceName status, signal = .sessionExited serviceName status →
      p.marks (status.signal conversation.id)) :
    Moves p (self.taken conversation (.signal signal))
      ((self.taken conversation (.signal signal)).onWorkerSignal around
        (conversation.take (.signal signal)) signal) := by
  have h := dispatches_taken hs hc hinbox
  cases signal with
  | usernameChanged username =>
    exact moves_workerOnUsernameChanged fun user huser => hselects username user rfl huser
  | sessionExited serviceName status =>
    refine moves_workerOnSessionExited h.wellFormed (hmarks serviceName status rfl) ?_
    intro hclosesOn
    exact (hcloses hclosesOn).taken
  | reauthenticated serviceName reauthPid user => exact moves_signal_of_isSilent rfl rfl
  | savedLanguageNameRead languageName => exact moves_workerOnSavedLanguageNameRead _
  | savedSessionNameRead sessionName => exact moves_workerOnSavedSessionNameRead _
  | savedSessionTypeRead sessionType => exact moves_workerOnSavedSessionTypeRead _
  | cancelPendingQuery => exact moves_cancelPendingQuery h.mem

end Taking

/-- The dispatch of a message: it is taken, and then its callback runs. -/
theorem moves_deliver (hs : WellFormed self) (id : Nat) :
    ∃ s, Takes self (.deliver id) s ∧
      Moves (self.permits around (.deliver id)) s (self.deliver around id) := by
  unfold deliver
  cases hat : self.conversationAt id with
  | none => exact ⟨self, .nothing, .refl _⟩
  | some conversation =>
    obtain ⟨hc, rfl⟩ := mem_of_conversationAt hat
    cases hinbox : conversation.inbox with
    | nil =>
      simp only [hinbox]
      exact ⟨self, .nothing, .refl _⟩
    | cons message rest =>
      have holdest := oldestMessage_eq_some hat hinbox
      have hcloses : self.messageCloses around conversation message = true →
          MayClose (self.permits around (.deliver conversation.id)) self :=
        fun h => mayClose_permits (by simp [closes, holdest, h])
      simp only [hinbox]
      refine ⟨_, .message rfl hc hinbox holdest, ?_⟩
      cases message with
      | success answer =>
        refine moves_onSuccess hs hc hinbox ?_ hcloses
        rintro sessionId rfl
        simp [permits, opensSession, holdest]
      | failure method error =>
        refine moves_onFailure hs hc hinbox ?_ hcloses
        rintro rfl hnone
        simp [permits, returnsNull, holdest, hnone]
      | signal signal =>
        refine moves_onWorkerSignal hs hc hinbox hcloses ?_ ?_
        · rintro username user rfl huser
          simp [permits, selections, holdest, huser]
        · rintro serviceName status rfl
          simp [permits, endSignal, holdest]

end GdmSession

end Gdm
