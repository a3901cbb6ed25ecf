import Gdm.Session.Tending

/-!
# An event of the daemon and the connections

What an event of the daemon does to a connection of its own is the Hello of a worker,
which opens it, or the dispatch of a message.  Everything else that the callbacks do is
what the functions of the daemon do.
-/

namespace Gdm

/-- The event is one of the daemon's main loop, not one at the other end of a connection. -/
def SessionEvent.isOfDaemon : SessionEvent → Bool
  | workerAnswers _ _ _ | workerRefuses _ _ _ | workerFails _ _ _ | workerSends _ _ => false
  | _ => true

namespace GdmSession

variable {self self' : GdmSession} {around : Surroundings}

/-! ## Callbacks -/

theorem tended_startingInvocation (c : Conversation) :
    Tended [] c { c with startingInvocation := none } :=
  ⟨rfl, rfl, rfl, rfl, fun h => h, fun _ => (List.append_nil _).symm⟩

theorem tends_onInitializationCompleteCb (conversation : Conversation)
    (error : Option WorkerError) :
    Tends self (self.onInitializationCompleteCb around conversation error) := by
  unfold onInitializationCompleteCb
  refine Tends.trans ?_ (tends_modifyConversation _ tended_startingInvocation)
  cases error with
  | none =>
    have hreturned : Tends self (if conversation.startingInvocation.isSome then
        self.emit (.returned conversation.startingInvocation none) else self) :=
      tends_ite (tends_emit rfl) (.refl _)
    exact (hreturned.trans (tends_signal _)).trans (tends_callByName _ _)
  | some error =>
    have hreturned : Tends self (self.emit (.returned conversation.startingInvocation
        (some ⟨.worker error.code, error.message⟩))) := tends_emit rfl
    exact hreturned.trans (tends_stopConversation _)

theorem tends_onAuthenticateCb (conversation : Conversation) (error : Option WorkerError) :
    Tends self (self.onAuthenticateCb around conversation error) := by
  cases error with
  | none => exact tends_callByName _ _
  | some error =>
    exact (tends_ite (tends_signal _) (.refl _)).trans (tends_stopConversation _)

theorem tends_onAuthorizeCb (conversation : Conversation) (error : Option WorkerError) :
    Tends self (self.onAuthorizeCb conversation error) := by
  cases error with
  | none => exact tends_callByName _ _
  | some _ => exact tends_stopConversation _

theorem tends_onEstablishCredentialsCb (conversation : Conversation)
    (error : Option WorkerError) :
    Tends self (self.onEstablishCredentialsCb around conversation error) := by
  unfold onEstablishCredentialsCb
  cases error with
  | none =>
    have hestablished : Tends self (self.signal around
        (.credentialsEstablished conversation.serviceName conversation.workerPid)) :=
      tends_signal _
    refine hestablished.trans ?_
    dsimp only
    split
    · exact tends_callByName _ _
    · exact tends_ite (tends_signal _) (.refl _)
  | some _ => exact tends_stopConversation _

theorem tended_sessionId (sessionId : Option String) (c : Conversation) :
    Tended [] c { c with sessionId := sessionId } :=
  ⟨rfl, rfl, rfl, rfl, fun h => h, fun _ => (List.append_nil _).symm⟩

theorem tends_onOpened (conversation : Conversation) (result : Except WorkerError String) :
    Tends self (self.onOpened around conversation result) := by
  cases result with
  | ok sessionId =>
    have hkept : Tends self { self.modifyConversation conversation.id
        (fun c => { c with sessionId := some sessionId }) with
      sessionOpened := some sessionId } :=
      (tends_modifyConversation conversation.id (tended_sessionId (some sessionId))).trans
        (tends_fields rfl rfl rfl rfl)
    have hopened : ∀ s : GdmSession, Tends s { (if s.userVerifierInterface then
          s.signal around (.verificationComplete conversation.serviceName) else s).signal around
        (.sessionOpened conversation.serviceName sessionId) with isOpened := true } := fun s =>
      ((tends_ite (tends_signal _) (.refl s)).trans (tends_signal _)).trans
        (tends_fields rfl rfl rfl rfl)
    exact hkept.trans (hopened _)
  | error error => exact (tends_stopConversation _).trans (tends_signal _)

theorem tends_onStartProgramCb (conversation : Conversation) (result : Except WorkerError Int) :
    Tends self (self.onStartProgramCb around conversation result) := by
  cases result with
  | ok pid =>
    have hstarted : Tends self { self with
        sessionPid := pid
        sessionConversation := some conversation.id
        opened := self.opened.filter fun entry => entry.1 ≠ conversation.id } :=
      tends_fields rfl rfl rfl rfl
    exact hstarted.trans (tends_signal _)
  | error error => exact (tends_stopConversation _).trans (tends_signal _)

theorem tends_onReauthenticationStartedCb (conversation : Conversation)
    (result : Except WorkerError String) :
    Tends self (self.onReauthenticationStartedCb around conversation result) := by
  unfold onReauthenticationStartedCb
  refine Tends.trans ?_ (tends_modifyConversation _ (tended_reauthPidOfCaller 0))
  cases result with
  | ok address => exact tends_signal _
  | error _ => exact .refl _

theorem tends_onWorkerSignal (conversation : Conversation) (signal : WorkerSignal) :
    Tends self (self.onWorkerSignal around conversation signal) := by
  cases signal with
  | usernameChanged username => exact tends_selectUser _
  | sessionExited serviceName status =>
    have hcleared : Tends self { self with sessionConversation := none } :=
      tends_fields rfl rfl rfl rfl
    cases status with
    | exited code => exact hcleared.trans (tends_signal _)
    | signaled signum => exact hcleared.trans (tends_signal _)
  | reauthenticated serviceName reauthPid user => exact tends_signal _
  | savedLanguageNameRead languageName =>
    exact tends_ite (.refl _) (tends_fields rfl rfl rfl rfl)
  | savedSessionNameRead sessionName =>
    exact tends_ite (tends_ite (.refl _) (tends_fields rfl rfl rfl rfl))
      (tends_fields rfl rfl rfl rfl)
  | savedSessionTypeRead sessionType => exact tends_fields rfl rfl rfl rfl
  | cancelPendingQuery => exact tends_cancelPendingQuery _

theorem tends_onMessage (conversation : Conversation) (message : WorkerMessage) :
    Tends self (self.onMessage around conversation message) := by
  cases message with
  | success answer =>
    cases answer with
    | Initialize _ => exact tends_onInitializationCompleteCb conversation none
    | Authenticate _ => exact @tends_onAuthenticateCb self around conversation none
    | Authorize => exact tends_onAuthorizeCb conversation none
    | EstablishCredentials => exact tends_onEstablishCredentialsCb conversation none
    | Open sessionId => exact tends_onOpened conversation (.ok sessionId)
    | StartProgram pid => exact tends_onStartProgramCb conversation (.ok pid)
    | StartReauthentication address =>
      exact tends_onReauthenticationStartedCb conversation (.ok address)
  | failure method error =>
    cases method with
    | Initialize =>
      exact @tends_onInitializationCompleteCb self around conversation (some error)
    | Authenticate => exact tends_onAuthenticateCb conversation (some error)
    | Authorize => exact tends_onAuthorizeCb conversation (some error)
    | EstablishCredentials =>
      exact @tends_onEstablishCredentialsCb self around conversation (some error)
    | Open => exact tends_onOpened conversation (.error error)
    | StartProgram => exact tends_onStartProgramCb conversation (.error error)
    | StartReauthentication =>
      exact @tends_onReauthenticationStartedCb self around conversation (.error error)
  | signal signal => exact tends_onWorkerSignal conversation signal

/-! ## Calls of a client -/

theorem tends_unlessRunning (invocation : Nat) (text : String) {f : GdmSession → GdmSession}
    (hhandle : ∀ s : GdmSession, Tends s (f s)) :
    Tends self (self.unlessRunning invocation text f) := by
  have hcomplete : Tends self (self.complete invocation) := tends_emit rfl
  exact tends_ite (tends_emit rfl) (hcomplete.trans (hhandle _))

theorem tended_begins (invocation : Nat) (username : Option String) (c : Conversation) :
    Tended [] c { c with startingInvocation := some invocation, startingUsername := username } :=
  ⟨rfl, rfl, rfl, rfl, fun h => h, fun _ => (List.append_nil _).symm⟩

theorem tends_beginVerificationConversation (invocation : Nat) (serviceName : String)
    (username : Option String) :
    Tends self (self.beginVerificationConversation around invocation serviceName username) := by
  unfold beginVerificationConversation
  refine (tends_startConversation around.spawn serviceName).andThen ?_
  split
  · rename_i conversation _
    have hbegan : Tends (self.startConversation around.spawn serviceName).1
        ((self.startConversation around.spawn serviceName).1.emit
          (.began conversation.id invocation)) := tends_emit rfl
    exact hbegan.trans (tends_modifyConversation _ (tended_begins _ _))
  · exact tends_emit rfl

theorem tends_handleClient (invocation : Nat) (call : ClientCall) :
    Tends self (self.handleClient around invocation call) := by
  have hcomplete : Tends self (self.complete invocation) := tends_emit rfl
  cases call with
  | enableExtensions extensions =>
    have hkept : ∀ names, Tends self { self with userVerifierExtensions := names } :=
      fun _ => tends_fields rfl rfl rfl rfl
    exact (hkept _).trans (tends_emit rfl)
  | beginVerification _ => exact tends_beginVerificationConversation _ _ _
  | beginVerificationForUser _ _ => exact tends_beginVerificationConversation _ _ _
  | answerQuery _ _ => exact hcomplete.trans (tends_answerQuery _ _)
  | cancel => exact hcomplete.trans (tends_signal _)
  | selectChoice _ _ => exact hcomplete.trans (tends_answerQuery _ _)
  | customJsonReply _ json =>
    cases json with
    | ok text => exact hcomplete.trans (tends_answerQuery _ _)
    | error message =>
      have hrefused : ∀ text, Tends self (self.returnError invocation .notSupported text) :=
        fun _ => tends_emit rfl
      exact (hrefused _).trans (tends_reportError _ _ _)
  | customJsonReportError _ _ => exact hcomplete.trans (tends_reportError _ _ _)
  | selectSession session => exact tends_unlessRunning _ _ fun _ => tends_selectSession _
  | selectUser username => exact tends_unlessRunning _ _ fun _ => tends_selectUser _
  | startSessionWhenReady _ _ => exact tends_unlessRunning _ _ fun _ => tends_signal _
  | getTimedLoginDetails => exact tends_unlessRunning _ _ fun _ => .refl _
  | stopConflictingSession =>
    exact tends_ite ((tends_signal _).trans (tends_emit rfl)) (tends_emit rfl)
  | beginAutoLogin username => exact tends_unlessRunning _ _ fun _ => tends_setupForUser _ _

theorem tends_receiveCall (call : ClientCall) : Tends self (self.receiveCall around call) := by
  have hbumped : Tends self self.bumped := tends_fields rfl rfl rfl rfl
  exact tends_ite (hbumped.trans (tends_handleClient _ _)) (.refl _)

theorem tends_handleConnectionFromOutside (pid : Int) :
    Tends self (self.handleConnectionFromOutside around pid) := by
  have hexported : Tends self { self with
      outsideConnections := pid :: self.outsideConnections
      userVerifierInterface := true
      greeterInterface := self.greeterInterface ||
        self.verificationMode = VerificationMode.login } := tends_fields rfl rfl rfl rfl
  exact hexported.trans (tends_signal _)

theorem tends_onOutsideConnectionClosed (pid : Int) :
    Tends self (self.onOutsideConnectionClosed around pid) := by
  have herased : Tends self
      { self with outsideConnections := self.outsideConnections.erase pid } :=
    tends_fields rfl rfl rfl rfl
  exact tends_ite (herased.trans (tends_signal _)) (.refl _)

/-! ## Calls of the owner -/

theorem tends_handleOwner (call : OwnerCall) : Tends self (self.handleOwner around call) := by
  cases call with
  | startConversation _ => exact tends_startConversation _ _
  | selectSession _ => exact tends_selectSession _
  | setDisplayIsInitial _ => exact tends_fields rfl rfl rfl rfl
  | setDisplayDevice _ => exact tends_fields rfl rfl rfl rfl
  | startSession _ => exact tends_startSession _
  | startReauthentication _ _ => exact tends_startReauthentication _ _
  | reset => exact tends_doReset
  | close => exact tends_close

/-! ## The end of a worker -/

theorem tends_stealConversation (id : Nat) : Tends self (self.stealConversation id) :=
  tends_sublist rfl rfl (fun _ hc => (mem_stealConversation.mp hc).1)
    (List.append_nil _).symm (by simp)

theorem tends_concludeConversation (conversation : Conversation) :
    Tends self (self.concludeConversation around conversation) :=
  (tends_signal _).trans (tends_emit rfl)

/-- The signal for the end of the session of a worker that has ended. -/
theorem tends_ended (signal : SessionSignal) :
    Tends self { self.signal around signal with sessionConversation := none } :=
  (tends_signal signal).trans (tends_fields rfl rfl rfl rfl)

theorem tends_workerExited (conversation : Conversation) (code : Nat) :
    Tends self (self.workerExited around conversation code) :=
  ((tends_stealConversation _).trans (tends_ite (tends_ended _) (.refl _))).trans
    (tends_concludeConversation _)

theorem tends_workerDied (conversation : Conversation) (signum : Nat) :
    Tends self (self.workerDied around conversation signum) :=
  ((tends_stealConversation _).trans (tends_ite
    ((tends_ite (tends_emit rfl) (.refl _)).trans (tends_ended _)) (.refl _))).trans
      (tends_concludeConversation _)

theorem tends_whenPresent (id : Nat) {handle : Conversation → GdmSession}
    (h : ∀ c, Tends self (handle c)) : Tends self (self.whenPresent id handle) := by
  unfold whenPresent
  split
  · exact .refl _
  · exact h _

/-! ## Every event of the daemon -/

/-- The connection of a worker is opened by its Hello. -/
def register (self : GdmSession) (conversation : Conversation) : GdmSession :=
  (self.emit (.registered conversation.id)).modifyConversation conversation.id fun c =>
    { c with workerProxy := true, connected := true }

/-- What an event of the daemon begins with: nothing of note, the Hello of a worker, or
the dispatch of a message. -/
inductive Begins (s : GdmSession) : GdmSession → Prop
  | nothing : Begins s s
  | registers {c : Conversation} : c ∈ s.conversations → c.workerProxy = false →
      Begins s (s.register c)
  | takes {c : Conversation} {message : WorkerMessage} {rest : List WorkerMessage} :
      c ∈ s.conversations → c.inbox = message :: rest → Begins s (s.taken c message)

theorem tended_startingUsername (c : Conversation) :
    Tended [] c { c with startingUsername := none } :=
  ⟨rfl, rfl, rfl, rfl, fun h => h, fun _ => (List.append_nil _).symm⟩

theorem tends_registerWorker (pid : Int) :
    ∃ s, Begins self s ∧ Tends s (self.registerWorker around pid) := by
  unfold registerWorker
  split
  · exact ⟨self, .nothing, tends_ite (.refl _) tends_crash⟩
  · rename_i conversation hfind
    have hc : conversation ∈ self.conversations := List.mem_of_find?_eq_some hfind
    split
    · exact ⟨self, .nothing, tends_crash⟩
    · split
      · exact ⟨self, .nothing, .refl _⟩
      · rename_i hproxy
        refine ⟨self.register conversation, .registers hc (by simpa using hproxy), ?_⟩
        dsimp only
        split
        · exact tends_signal _
        · exact (tends_signal _).trans (tends_setup _)
        · exact ((tends_signal _).trans (tends_setupForUser _ _)).trans
            (tends_modifyConversation _ tended_startingUsername)

theorem tends_deliver (id : Nat) : ∃ s, Begins self s ∧ Tends s (self.deliver around id) := by
  unfold deliver
  split
  · exact ⟨self, .nothing, .refl _⟩
  · rename_i conversation hat
    split
    · exact ⟨self, .nothing, .refl _⟩
    · rename_i message rest hinbox
      exact ⟨_, .takes (mem_of_conversationAt hat).1 hinbox, tends_onMessage _ _⟩

/-- An event of the daemon opens a connection or dispatches a message, if anything, and
tends to the conversations. -/
theorem step_tends (around : Surroundings) {event : SessionEvent}
    (hdaemon : event.isOfDaemon = true) :
    ∃ s, Begins self s ∧ Tends s (self.step (event, around)) := by
  have hnothing : ∀ {s : GdmSession}, Tends self s → ∃ s', Begins self s' ∧ Tends s' s :=
    fun h => ⟨self, .nothing, h⟩
  unfold step
  split
  · cases event with
    | clientConnected pid => exact hnothing (tends_handleConnectionFromOutside pid)
    | clientDisconnected pid => exact hnothing (tends_onOutsideConnectionClosed pid)
    | clientRejected pid => exact hnothing (tends_signal _)
    | client call => exact hnothing (tends_receiveCall call)
    | owner call => exact hnothing (tends_handleOwner call)
    | hello pid => exact tends_registerWorker pid
    | query kind serviceName => exact hnothing (tends_handleQuery kind serviceName)
    | deliver id => exact tends_deliver id
    | workerExited id code =>
      exact hnothing (tends_whenPresent id fun c => tends_workerExited c code)
    | workerDied id signum =>
      exact hnothing (tends_whenPresent id fun c => tends_workerDied c signum)
    | _ => cases hdaemon
  · exact hnothing (.refl _)

end GdmSession

end Gdm
