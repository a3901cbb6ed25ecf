import Gdm.Session.Events

/-!
# Every step is made of moves

The handlers for clients, for workers that come and go and for the owner, and the
step of the main loop as a whole: it takes at most one message and goes on with
moves that have been foretold.
-/

namespace Gdm

namespace GdmSession

variable {self self' : GdmSession} {p : Permits} {around : Surroundings}

/-! ## Frames -/

/-- No move changes the owner. -/
theorem Move.owner (h : Move p self self') : self'.owner = self.owner := by
  cases h with
  | aside h => exact h.owner
  | @calls c call _ _ _ =>
    unfold callWorker
    split <;> rfl
  | @asks c pid uid _ _ =>
    unfold callWorker
    split <;> rfl
  | _ => rfl

theorem Moves.owner (h : Moves p self self') : self'.owner = self.owner :=
  h.preserves (P := fun s => s.owner = self.owner)
    (fun _ _ hmove heq => hmove.owner.trans heq) rfl

/-- A change that keeps what a step may read and write of the conversations. -/
theorem MayClose.of_same (h : MayClose p self)
    (hconversations : self'.conversations = self.conversations) : MayClose p self' :=
  ⟨h.resets, fun c hc => h.frees c (hconversations ▸ hc)⟩

theorem MayStart.of_same {spawn : Option Int} {serviceName : String}
    (h : MayStart p self spawn serviceName)
    (hconversations : self'.conversations = self.conversations)
    (hsession : self'.sessionConversation = self.sessionConversation) :
    MayStart p self' spawn serviceName := by
  intro hstopping
  have hinsert := h (fun c hc => hstopping c (hconversations ▸ hc))
  exact ⟨hinsert.spawns, fun c hc => hinsert.frees c (hconversations ▸ hc),
    fun c hc hname hself => hinsert.orphans c (hconversations ▸ hc) hname (hsession ▸ hself),
    fun c hc => hinsert.clashes c (hconversations ▸ hc)⟩

/-- No owner closes the session when a client connects, or a conversation has started. -/
theorem closesOn_clientConnected (pid : Int) :
    self.closesOn around (.clientConnected pid) = false := by
  unfold closesOn
  cases self.owner <;> rfl

theorem closesOn_conversationStarted (serviceName : String) :
    self.closesOn around (.conversationStarted serviceName) = false := by
  unfold closesOn
  cases self.owner <;> rfl

/-- Only the rejection of a client makes the owner look at more than the signal. -/
theorem closesOn_of_owner (howner : self'.owner = self.owner) {signal : SessionSignal}
    (h : ∀ pid, signal ≠ .clientRejected pid) :
    self'.closesOn around signal = self.closesOn around signal := by
  unfold closesOn
  rw [howner]
  cases signal with
  | clientRejected pid => exact absurd rfl (h pid)
  | _ => cases self.owner <;> rfl

/-! ## Calls of a client -/

/-- The number of an invocation is taken before its handler runs. -/
def bumped (self : GdmSession) : GdmSession :=
  { self with nextInvocation := self.nextInvocation + 1 }

theorem moves_returnsCall (error : Option ClientError) :
    Moves p self (self.bumped.emit (.returned (some self.nextInvocation) error)) :=
  .single (.returnsCall error)

theorem insertConversation_bumped (spawn : Option Int) (serviceName : String) :
    self.bumped.insertConversation spawn serviceName =
      (self.insertConversation spawn serviceName).bumped := by
  have hsame : self.bumped.nullConversations = self.nullConversations := rfl
  unfold insertConversation
  rw [hsame]
  split
  · rfl
  · cases spawn <;> rfl

theorem startConversation_bumped (spawn : Option Int) (serviceName : String) :
    self.bumped.startConversation spawn serviceName =
      ((self.startConversation spawn serviceName).1.bumped,
        (self.startConversation spawn serviceName).2) := by
  have hsame : self.bumped.findConversationByName serviceName =
      self.findConversationByName serviceName := rfl
  unfold startConversation
  rw [hsame]
  split
  · rename_i old _
    have hmodify : (self.bumped.emit (.killed old.workerPid)).modifyConversation old.id
        (fun c => { c with job := false }) =
        ((self.emit (.killed old.workerPid)).modifyConversation old.id
          fun c => { c with job := false }).bumped := rfl
    split
    · rw [hmodify, insertConversation_bumped]
    · rfl
  · rw [insertConversation_bumped]

theorem insertConversation_nextInvocation (spawn : Option Int) (serviceName : String) :
    (self.insertConversation spawn serviceName).nextInvocation = self.nextInvocation := by
  unfold insertConversation
  split
  · rfl
  · cases spawn <;> rfl

theorem startConversation_nextInvocation (spawn : Option Int) (serviceName : String) :
    (self.startConversation spawn serviceName).1.nextInvocation = self.nextInvocation := by
  unfold startConversation
  split
  · split
    · exact insertConversation_nextInvocation _ _
    · rfl
  · exact insertConversation_nextInvocation _ _

/-- A conversation that has been inserted waits for nothing yet. -/
theorem insertConversation_fresh {spawn : Option Int} {serviceName : String}
    (hrunning : (self.insertConversation spawn serviceName).status = .running)
    {c : Conversation}
    (hc : c ∈ (self.insertConversation spawn serviceName).conversations)
    (hname : c.serviceName = serviceName) : c.startingInvocation = none := by
  unfold insertConversation at hc hrunning
  split at hc
  · rename_i hnull
    rw [if_pos hnull] at hrunning
    cases hrunning
  · cases spawn with
    | some pid =>
      rcases mem_inserted.mp hc with ⟨_, hne⟩ | rfl
      · exact absurd hname hne
      · rfl
    | none => exact absurd hname (mem_insertedNull.mp hc).2

theorem startConversation_fresh {spawn : Option Int} {serviceName : String}
    (hrunning : (self.startConversation spawn serviceName).1.status = .running)
    (hstarted : (self.startConversation spawn serviceName).2 = true) {c : Conversation}
    (hc : c ∈ (self.startConversation spawn serviceName).1.conversations)
    (hname : c.serviceName = serviceName) : c.startingInvocation = none := by
  unfold startConversation at hrunning hstarted hc
  cases hfind : self.findConversationByName serviceName with
  | none =>
    simp only [hfind] at hrunning hc
    exact insertConversation_fresh hrunning hc hname
  | some old =>
    by_cases hstopping : old.isStopping = true
    · simp only [hfind, if_pos hstopping] at hrunning hc
      exact insertConversation_fresh hrunning hc hname
    · simp [hfind, if_neg hstopping] at hstarted

theorem moves_beginVerificationConversation (hs : WellFormed self) {serviceName : String}
    {username : Option String} (hstart : MayStart p self around.spawn serviceName)
    (hbegins : p.begins serviceName username) :
    Moves p self (self.bumped.beginVerificationConversation around self.nextInvocation
      serviceName username) := by
  have hmoves := moves_startConversation hs hstart
  have hbump := @startConversation_bumped self around.spawn serviceName
  unfold beginVerificationConversation
  simp only [hbump]
  obtain ⟨s, hdef⟩ : ∃ s, s = (self.startConversation around.spawn serviceName).1 := ⟨_, rfl⟩
  have hnext : s.nextInvocation = self.nextInvocation := by
    rw [hdef]
    exact startConversation_nextInvocation _ _
  simp only [← hdef] at hmoves ⊢
  have hstatus : s.bumped.status = s.status := rfl
  unfold andThen
  rw [hstatus]
  split
  · rename_i hrunning
    have hreturn : ∀ error, Moves p self
        (s.bumped.emit (.returned (some self.nextInvocation) error)) := by
      intro error
      have hone := @moves_returnsCall s p error
      rw [hnext] at hone
      exact hmoves.trans hone
    cases hstarted : (self.startConversation around.spawn serviceName).2 with
    | false => exact hreturn _
    | true =>
      simp only [if_true]
      split
      · rename_i c hfound
        obtain ⟨hc, hname⟩ := mem_of_findConversationByName hfound
        have hc' : c ∈ s.conversations := hc
        have hfresh : c.startingInvocation = none := by
          rw [hdef] at hrunning hc'
          exact startConversation_fresh hrunning hstarted hc' hname
        have hmove : Move p s ((s.bumped.emit (.began c.id s.nextInvocation)).modifyConversation
            c.id fun c => { c with
              startingInvocation := some s.nextInvocation
              startingUsername := username }) :=
          .begins hc' hfresh (hname ▸ hbegins)
        rw [hnext] at hmove
        exact hmoves.tail hmove
      · exact hreturn _
  · rename_i hended
    exact hmoves.tail (.losesCall hended)

/-- A handler of the greeter interface: it refuses when the session runs. -/
theorem moves_unlessRunning (text : String) {f : GdmSession → GdmSession}
    (hhandle : self.isRunning = false →
      Moves p (self.bumped.complete self.nextInvocation)
        (f (self.bumped.complete self.nextInvocation))) :
    Moves p self (self.bumped.unlessRunning self.nextInvocation text f) := by
  have hsame : self.bumped.isRunning = self.isRunning := rfl
  unfold unlessRunning
  rw [hsame]
  split
  · exact moves_returnsCall _
  · rename_i hidle
    exact (moves_returnsCall none).trans (hhandle (by simpa using hidle))

theorem moves_receiveCall (hs : WellFormed self) (call : ClientCall) :
    Moves (self.permits around (.client call)) self (self.receiveCall around call) := by
  unfold receiveCall
  split
  · rename_i hexports
    have hs' : WellFormed (self.bumped.complete self.nextInvocation) :=
      (moves_returnsCall (p := .all) none).wellFormed hs
    have hanswers : ∀ {serviceName : String} {s : GdmSession},
        call.answers = some serviceName → s.conversations = self.conversations →
        MayComplete (self.permits around (.client call)) s serviceName := by
      intro serviceName s hanswers hsame c hfind hpending
      have hfind' : self.findConversationByName serviceName = some c := by
        rw [findConversationByName, ← hsame]
        exact hfind
      show self.lapses (.client call) = true
      simp [lapses, hanswers, hexports, hfind', hpending]
    show Moves _ self (self.bumped.handleClient around self.nextInvocation call)
    cases call with
    | enableExtensions extensions =>
      have hkeeps : ∀ names, Moves (self.permits around (.client (.enableExtensions extensions)))
          self { self with userVerifierExtensions := names } := fun _ =>
        moves_aside ⟨rfl, rfl, rfl, rfl, .inl rfl, rfl, rfl, rfl, rfl, rfl, rfl, rfl, rfl,
          .inl rfl, [], by simp, by simp⟩
      exact (hkeeps ([choiceListInterface, customJsonInterface].filter fun name =>
        name ∈ extensions)).trans (moves_returnsCall none)
    | beginVerification serviceName =>
      refine moves_beginVerificationConversation hs (mayStart_permits ?_) ?_
      · simp [restarts, hexports, ClientCall.begins]
      · simp [permits, beginnings, hexports, ClientCall.begins]
    | beginVerificationForUser serviceName username =>
      refine moves_beginVerificationConversation hs (mayStart_permits ?_) ?_
      · simp [restarts, hexports, ClientCall.begins]
      · simp [permits, beginnings, hexports, ClientCall.begins]
    | answerQuery serviceName answer =>
      exact (moves_returnsCall none).trans (moves_answerQuery _ (hanswers rfl rfl))
    | cancel =>
      refine (moves_returnsCall none).trans (moves_signal hs' (.aside (aside_emit rfl)) ?_)
      refine MayReact.of_closes rfl fun hon => ?_
      refine MayClose.of_same (mayClose_permits ?_) rfl
      have hverifier : self.exports .userVerifier = true := hexports
      have hon' : self.closesOn around .cancelled = true := hon
      simp [closes, hverifier, hon']
    | selectChoice serviceName answer =>
      exact (moves_returnsCall none).trans (moves_answerQuery _ (hanswers rfl rfl))
    | customJsonReply serviceName json =>
      cases json with
      | ok text => exact (moves_returnsCall none).trans (moves_answerQuery _ (hanswers rfl rfl))
      | error message =>
        exact (moves_returnsCall _).trans (moves_reportError _ _ (hanswers rfl rfl))
    | customJsonReportError serviceName message =>
      exact (moves_returnsCall none).trans (moves_reportError _ _ (hanswers rfl rfl))
    | selectSession session =>
      exact moves_unlessRunning (f := fun s => s.selectSession session) _ fun _ =>
        moves_selectSession _
    | selectUser username =>
      have hgreeter : self.exports .greeter = true := hexports
      refine moves_unlessRunning (f := fun s => s.selectUser (some username)) _
        fun hidle => .single (.selects ?_)
      simp [permits, selections, hgreeter, hidle]
    | startSessionWhenReady serviceName clientIsReady =>
      exact moves_unlessRunning (f := fun s => s.signal around
        (.clientReadyForSessionToStart serviceName clientIsReady)) _ fun _ =>
          moves_signal_of_isSilent rfl rfl
    | getTimedLoginDetails => exact moves_unlessRunning (f := id) _ fun _ => .refl _
    | stopConflictingSession =>
      have hsame : self.bumped.isOpened = self.isOpened := rfl
      simp only [handleClient, handleClientStopConflictingSession, hsame]
      split
      · rename_i hopened
        rw [signal_of_isSilent _ rfl]
        exact .trans (.single (.conflicts hopened)) (moves_returnsCall none)
      · exact moves_returnsCall _
    | beginAutoLogin username =>
      have hgreeter : self.exports .greeter = true := hexports
      refine moves_unlessRunning (f := fun s => s.setupForUser "gdm-autologin" username) _
        fun hidle => ?_
      refine moves_setupForUser ?_ ?_ (mayCall_of_isUnregistered hs' fun hearly => ?_)
      · simp [permits, selections, hgreeter, hidle]
      · simp [permits, initializations, hgreeter, hidle]
      · have hearly' : self.isUnregistered "gdm-autologin" = true := hearly
        simp [permits, callsEarly, hgreeter, hidle, hearly']
  · exact .refl _

/-! ## Queries and connections -/

theorem moves_handleQuery (kind : QueryKind) (serviceName : String) :
    Moves (self.permits around (.query kind serviceName)) self
      (self.handleQuery kind serviceName) := by
  have hpasses : self.exports kind.interface = true →
      Moves (self.permits around (.query kind serviceName)) self
        ((self.receiveQuery serviceName).setPendingQuery serviceName self.nextQuery) := by
    intro hexports
    refine moves_setPendingQuery fun hall => ?_
    show self.lapses (.query kind serviceName) = true
    simp only [lapses, hexports, Bool.true_and]
    cases hfind : self.findConversationByName serviceName with
    | none => rfl
    | some c => simpa [Option.isSome_iff_ne_none] using hall c hfind
  have hrefused : ∀ reply, Moves (self.permits around (.query kind serviceName)) self
      ((self.receiveQuery serviceName).completeQuery (some self.nextQuery) reply) :=
    fun reply => .single (.queryRefused serviceName reply)
  have hextension : ∀ interface message,
      self.exports kind.interface = self.userVerifierExtensions.contains interface →
      Moves (self.permits around (.query kind serviceName)) self
        (self.handleExtensionQuery interface message serviceName) := by
    intro interface message heq
    unfold handleExtensionQuery
    split
    · rename_i hmem
      exact hpasses (heq.trans (List.contains_iff_mem.mpr hmem))
    · exact hrefused _
  have hverifier : self.exports kind.interface = self.userVerifierInterface →
      Moves (self.permits around (.query kind serviceName)) self
        (self.handleVerifierQuery serviceName) := by
    intro heq
    have hsame : (self.receiveQuery serviceName).userVerifierInterface =
        self.userVerifierInterface := rfl
    unfold handleVerifierQuery
    split
    · rename_i hinterface
      exact hpasses (heq.trans hinterface)
    · exact hrefused _
  cases kind with
  | choiceList => exact hextension _ _ rfl
  | customJson => exact hextension _ _ rfl
  | info => exact hverifier rfl
  | secretInfo => exact hverifier rfl

theorem moves_handleConnectionFromOutside (hs : WellFormed self) (pid : Int) :
    Moves (self.permits around (.clientConnected pid)) self
      (self.handleConnectionFromOutside around pid) := by
  obtain ⟨s, hdef⟩ : ∃ s, s = { self with
    outsideConnections := pid :: self.outsideConnections
    userVerifierInterface := true
    greeterInterface := self.greeterInterface ||
      self.verificationMode = VerificationMode.login } := ⟨_, rfl⟩
  have hmoves : Moves (self.permits around (.clientConnected pid)) self s := by
    rw [hdef]
    exact moves_aside ⟨rfl, rfl, rfl, rfl, .inl rfl, rfl, rfl, rfl, rfl, rfl, rfl, rfl, rfl,
      .inl rfl, [], by simp, by simp⟩
  have hmay : MayReact (self.permits around (.clientConnected pid)) s around
      (.clientConnected pid) := by
    refine ⟨?_, by simp, by simp, ?_, by simp⟩
    · intro hon
      rw [closesOn_clientConnected] at hon
      cases hon
    · intro pid' _ hstarts
      rw [hdef] at hstarts ⊢
      have hstarts' : self.startsTimedLogin around = true := hstarts
      refine MayStart.of_same (mayStart_permits ?_) rfl rfl
      simp [restarts, hstarts']
  unfold handleConnectionFromOutside
  rw [← hdef]
  exact hmoves.trans (moves_signal (hmoves.wellFormed hs) (.aside (aside_emit rfl)) hmay)

theorem moves_onOutsideConnectionClosed (hs : WellFormed self) (pid : Int) :
    Moves (self.permits around (.clientDisconnected pid)) self
      (self.onOutsideConnectionClosed around pid) := by
  unfold onOutsideConnectionClosed
  split
  · rename_i hmem
    have hmoves : Moves (self.permits around (.clientDisconnected pid)) self
        { self with outsideConnections := self.outsideConnections.erase pid } :=
      moves_aside ⟨rfl, rfl, rfl, rfl, .inl rfl, rfl, rfl, rfl, rfl, rfl, rfl, rfl, rfl,
        .inl rfl, [], by simp, by simp⟩
    refine hmoves.trans (moves_signal (hmoves.wellFormed hs) (.aside (aside_emit rfl)) ?_)
    refine MayReact.of_closes rfl fun hon => ?_
    have hsame := @closesOn_of_owner self
      { self with outsideConnections := self.outsideConnections.erase pid } around rfl
      (.clientDisconnected pid) (fun _ => SessionSignal.noConfusion)
    have hon' : self.closesOn around (.clientDisconnected pid) = true := hsame.symm.trans hon
    refine MayClose.of_same (mayClose_permits ?_) rfl
    simp [closes, hmem, hon']
  · exact .refl _

theorem moves_rejectClient (hs : WellFormed self) (pid : Int) :
    Moves (self.permits around (.clientRejected pid)) self (self.rejectClient around pid) :=
  moves_signal hs (.aside (aside_emit rfl)) (.of_closes rfl fun hon => mayClose_permits hon)

/-! ## The first message and the end of a worker -/

theorem callByName_proxy {serviceName : String} {call : WorkerCall} {c : Conversation}
    (hc : c ∈ (self.callByName serviceName call).conversations) :
    ∃ d ∈ self.conversations, d.serviceName = c.serviceName ∧ d.workerProxy = c.workerProxy := by
  unfold callByName at hc
  split at hc
  · rename_i e _
    unfold callWorker at hc
    split at hc
    · obtain ⟨d, hd, rfl⟩ := mem_modifyConversation.mp hc
      refine ⟨d, hd, ?_⟩
      split
      · split <;> exact ⟨rfl, rfl⟩
      · exact ⟨rfl, rfl⟩
    · exact ⟨c, hc, rfl, rfl⟩
  · exact ⟨c, hc, rfl, rfl⟩

/-- The reaction of an owner to the start of a conversation calls a worker, if
anything. -/
theorem signal_conversationStarted_proxy {serviceName : String} {c : Conversation}
    (hc : c ∈ (self.signal around (.conversationStarted serviceName)).conversations) :
    ∃ d ∈ self.conversations, d.serviceName = c.serviceName ∧ d.workerProxy = c.workerProxy := by
  unfold GdmSession.signal react at hc
  split at hc
  · simp only [reactUserSession] at hc
    split at hc
    · split at hc
      · obtain ⟨d, hd, hsame⟩ := callByName_proxy hc
        exact ⟨d, hd, hsame⟩
      · exact ⟨c, hc, rfl, rfl⟩
    · exact ⟨c, hc, rfl, rfl⟩
  · exact ⟨c, hc, rfl, rfl⟩
  · simp only [reactLaunchEnvironment] at hc
    split at hc
    · obtain ⟨d, hd, hsame⟩ := callByName_proxy hc
      exact ⟨d, hd, hsame⟩
    · exact ⟨c, hc, rfl, rfl⟩
  · exact ⟨c, hc, rfl, rfl⟩

theorem moves_registerWorker (hs : WellFormed self) (pid : Int) :
    Moves (self.permits around (.hello pid)) self (self.registerWorker around pid) := by
  have hfind : (self.conversations.find? fun c => c.workerPid = pid) =
      self.conversationOfPid pid := rfl
  unfold registerWorker
  rw [hfind]
  cases hof : self.conversationOfPid pid with
  | none =>
    simp only
    split
    · exact .refl _
    · exact moves_crash
  | some conversation =>
    have hc : conversation ∈ self.conversations := List.mem_of_find?_eq_some hof
    simp only
    split
    · exact moves_crash
    · cases hproxy : conversation.workerProxy with
      | true => exact .refl _
      | false =>
        obtain ⟨s, hdef⟩ : ∃ s, s = (self.emit (.registered conversation.id)).modifyConversation
          conversation.id fun c => { c with workerProxy := true, connected := true } := ⟨_, rfl⟩
        have hmoves : Moves (self.permits around (.hello pid)) self s := by
          rw [hdef]
          exact .single (.registers hc hproxy)
        have hregistered : ∀ d ∈ s.conversations, d.serviceName = conversation.serviceName →
            d.workerProxy = true := by
          intro d hd hname
          rw [hdef] at hd
          obtain ⟨e, he, rfl⟩ := mem_modifyConversation.mp hd
          by_cases hid : e.id = conversation.id
          · simp [hid]
          · rw [if_neg hid] at hname
            exact absurd (congrArg Conversation.id (hs.eq_of_name he hc hname)) hid
        have hmay : MayCall (self.permits around (.hello pid)) s conversation.serviceName := by
          intro d hd hname hno
          rw [hregistered d hd hname] at hno
          cases hno
        have hreact : MayReact (self.permits around (.hello pid)) s around
            (.conversationStarted conversation.serviceName) := by
          refine ⟨?_, ?_, ?_, by simp, by simp⟩
          · intro hon
            rw [closesOn_conversationStarted] at hon
            cases hon
          · intro serviceName username heq hlogin
            cases heq
            have hlogin' : self.autologinUser around conversation.serviceName = some username := by
              rw [← hlogin, hdef]
              rfl
            refine ⟨?_, ?_, hmay⟩
            · simp [permits, selections, hof, hproxy, hlogin']
            · simp [permits, initializations, hof, hlogin']
          · intro serviceName heq hsets
            cases heq
            have hsets' : self.setsUpProgram around = true := by
              rw [← hsets, hdef]
              rfl
            refine ⟨by simp [permits, initializations, hof, hsets'], ?_⟩
            intro d hd hname hno
            show self.callsEarly around (.hello pid) = true
            have hother : conversation.serviceName ≠ "gdm-launch-environment" := by
              intro heq
              rw [hregistered d hd (hname.trans heq.symm)] at hno
              cases hno
            have hearly : self.isUnregistered "gdm-launch-environment" = true := by
              rw [hdef] at hd
              obtain ⟨e, he, rfl⟩ := mem_modifyConversation.mp hd
              by_cases hid : e.id = conversation.id
              · simp [hid] at hno
              · rw [if_neg hid] at hname hno
                rw [isUnregistered, ← hname, hs.findConversationByName he]
                simp [hno]
            simp [callsEarly, hof, hproxy, hsets', hother, hearly]
        have hsignal : Moves (self.permits around (.hello pid)) s
            (s.signal around (.conversationStarted conversation.serviceName)) :=
          moves_signal (hmoves.wellFormed hs) (.aside (aside_emit rfl)) hreact
        have hmay' : MayCall (self.permits around (.hello pid))
            (s.signal around (.conversationStarted conversation.serviceName))
            conversation.serviceName := by
          intro d hd hname hno
          obtain ⟨e, he, hename, heproxy⟩ := signal_conversationStarted_proxy hd
          rw [← heproxy, hregistered e he (hename.trans hname)] at hno
          cases hno
        have hstarted := hmoves.trans hsignal
        simp only [Bool.false_eq_true, if_false, ← hdef]
        split
        · exact hstarted
        · rename_i hstarting husername
          refine hstarted.trans (moves_setup ?_ hmay')
          simp [permits, initializations, hof, hstarting, husername]
        · rename_i username hstarting husername
          refine hstarted.trans (.trans (moves_setupForUser ?_ ?_ hmay')
            (moves_modify _ harmless_startingUsername))
          · simp [permits, selections, hof, hproxy, hstarting, husername]
          · simp [permits, initializations, hof, hstarting, husername]

/-- What is pending in the conversations after a signal on which the owner starts
nothing has been pending before. -/
theorem MayClose.signal (h : MayClose p self) {signal : SessionSignal}
    (hstarts : signal.starts = false) : MayClose p (self.signal around signal) := by
  have hclose : ∀ s : GdmSession, s.conversations = [] → MayClose p s := fun s hs =>
    ⟨h.resets, by simp [hs]⟩
  have hemit : MayClose p (self.emit (.signal signal)) := h.of_same rfl
  have hcloses : ∀ b : Bool, MayClose p
      (if b then (self.emit (.signal signal)).close else self.emit (.signal signal)) := by
    intro b
    split
    · exact hclose _ doReset_conversations
    · exact hemit
  unfold GdmSession.signal react
  split
  · cases signal with
    | conversationStarted _ => cases hstarts
    | clientConnected _ => cases hstarts
    | sessionStartFailed _ _ => exact hcloses _
    | sessionExited _ _ => exact hcloses _
    | sessionDied _ _ => exact hcloses _
    | _ => exact hemit
  · cases signal with
    | clientDisconnected _ => exact hclose _ doReset_conversations
    | cancelled => exact hclose _ doReset_conversations
    | verificationComplete _ => exact hclose _ doReset_conversations
    | clientRejected _ =>
      simp only [reactTransient]
      split
      · exact hemit
      · exact hcloses _
    | _ => exact hemit
  · have hstops : MayClose p (if around.launchHasSession then
        (self.emit (.signal signal)).stopConversation "gdm-launch-environment"
        else self.emit (.signal signal)) := by
      split
      · exact hemit.stopConversation _
      · exact hemit
    cases signal with
    | conversationStarted _ => cases hstarts
    | sessionOpened _ _ => cases hstarts
    | sessionExited _ _ => exact hstops
    | sessionDied _ _ => exact hstops
    | conversationStopped _ => exact hcloses _
    | _ => exact hemit
  · cases signal with
    | cancelled => exact hclose _ doReset_conversations
    | verificationComplete _ => exact hclose _ doReset_conversations
    | clientDisconnected _ => exact hcloses _
    | _ => exact hemit

/-- The signal for the end of the session, if it is the one of the conversation,
and the end of the conversation. -/
theorem moves_concludeConversation (hs : WellFormed self) {conversation : Conversation}
    (hfrees : p.Frees conversation)
    (hcloses : self.closesOn around (.conversationStopped conversation.serviceName) = true →
      MayClose p self) :
    Moves p self (self.concludeConversation around conversation) :=
  (moves_signal hs (.aside (aside_emit rfl)) (.of_closes rfl hcloses)).tail (.concludes hfrees)

section Ending

variable {conversation : Conversation} {event : SessionEvent} {signal : SessionSignal}

/-- What the two ends of a worker have in common: the conversation leaves the
table, the end of the session is told if it is its own, and the conversation is
freed. -/
theorem moves_workerEnds (hs : WellFormed self) (hc : conversation ∈ self.conversations)
    (hends : event.ends = some conversation.id) (hsignal : signal.isEnd = true)
    (hstarts : signal.starts = false)
    (hmarks : self.sessionConversation = some conversation.id →
      self.endSignal event = some signal)
    (hcloses : self.closes around event = self.endCloses around conversation.id signal)
    {s : GdmSession} (hterminated : Moves (self.permits around event)
      (self.stealConversation conversation.id) s)
    (hsame : s.conversations = (self.stealConversation conversation.id).conversations) :
    Moves (self.permits around event) self
      ((if (self.stealConversation conversation.id).sessionConversation =
          some conversation.id then
        { s.signal around signal with sessionConversation := none }
      else self.stealConversation conversation.id).concludeConversation around conversation) := by
  have hfreed : (self.permits around event).Frees conversation :=
    ⟨conversation, hc, by simp [frees, hends], rfl, rfl⟩
  have hsteals : Moves (self.permits around event) self
      (self.stealConversation conversation.id) := by
    refine .single (.steals hends ?_)
    intro d hd hid
    rw [hs.eq_of_id hd hc hid]
    exact hfreed
  have hs' := hsteals.wellFormed hs
  have hat : self.conversationAt conversation.id = some conversation := hs.conversationAt hc
  have hmay : self.closes around event = true →
      MayClose (self.permits around event) (self.stealConversation conversation.id) := fun h =>
    ⟨h, fun d hd => (mayClose_permits h).frees d (mem_stealConversation.mp hd).1⟩
  have hstopped : ∀ s' : GdmSession, s'.owner = self.owner →
      s'.closesOn around (.conversationStopped conversation.serviceName) = true →
      self.closes around event = true := by
    intro s' howner hon
    rw [closesOn_of_owner howner (fun _ => SessionSignal.noConfusion)] at hon
    rw [hcloses, endCloses, hat]
    simp [hon]
  have hsession : (self.stealConversation conversation.id).sessionConversation =
      self.sessionConversation := rfl
  split
  · rename_i hown
    rw [hsession] at hown
    have howner : s.owner = self.owner := hterminated.owner.trans hsteals.owner
    have hclosesOn : s.closesOn around signal = true → self.closes around event = true := by
      intro hon
      rw [closesOn_of_owner howner (by rintro pid rfl; cases hsignal)] at hon
      rw [hcloses, endCloses, hat]
      simp [hown, hon]
    have hended : Moves (self.permits around event) s (s.signal around signal) :=
      moves_signal (hterminated.wellFormed hs') (.marks hsignal (hmarks hown))
        (.of_closes hstarts fun hon => (hmay (hclosesOn hon)).of_same hsame)
    have hcleared : Moves (self.permits around event) self
        { s.signal around signal with sessionConversation := none } :=
      ((hsteals.trans hterminated).trans hended).tail (.aside ⟨rfl, rfl, rfl, rfl, .inr rfl, rfl,
        rfl, rfl, rfl, rfl, rfl, rfl, rfl, .inl rfl, [], by simp, by simp⟩)
    refine hcleared.trans (moves_concludeConversation (hcleared.wellFormed hs) hfreed ?_)
    intro hon
    have hclosing := hstopped _ (hended.owner.trans howner) hon
    exact (((hmay hclosing).of_same hsame).signal hstarts).of_same rfl
  · exact hsteals.trans (moves_concludeConversation hs' hfreed fun hon =>
      hmay (hstopped _ rfl hon))

end Ending

theorem moves_workerExited (hs : WellFormed self) {conversation : Conversation}
    (hc : conversation ∈ self.conversations) (code : Nat) :
    Moves (self.permits around (.workerExited conversation.id code)) self
      (self.workerExited around conversation code) := by
  have hat : self.conversationAt conversation.id = some conversation := hs.conversationAt hc
  refine moves_workerEnds hs hc rfl rfl rfl ?_ rfl (.refl _) rfl
  intro hown
  simp [endSignal, hat, hown]

theorem moves_workerDied (hs : WellFormed self) {conversation : Conversation}
    (hc : conversation ∈ self.conversations) (signum : Nat) :
    Moves (self.permits around (.workerDied conversation.id signum)) self
      (self.workerDied around conversation signum) := by
  have hat : self.conversationAt conversation.id = some conversation := hs.conversationAt hc
  refine moves_workerEnds hs hc rfl rfl rfl ?_ rfl ?_ ?_
  · intro hown
    simp [endSignal, hat, hown]
  · split
    · exact moves_emit rfl
    · exact .refl _
  · split <;> rfl

/-! ## The other end of the connection to a worker -/

theorem mem_of_awaiting {id : Nat} {call : WorkerCall} {c : Conversation}
    (h : self.awaiting id call = some c) :
    c ∈ self.conversations ∧ c.id = id ∧ c.connected = true ∧ call ∈ c.outstanding := by
  obtain ⟨hat, hfilter⟩ := Option.filter_eq_some_iff.mp h
  obtain ⟨hc, hid⟩ := mem_of_conversationAt hat
  have hboth := of_decide_eq_true hfilter
  exact ⟨hc, hid, hboth.1, hboth.2⟩

theorem moves_workerAnswers (id : Nat) (call : WorkerCall) (answer : Answer) :
    Moves p self (self.workerAnswers id call answer) := by
  unfold workerAnswers
  split
  · exact .refl _
  · rename_i conversation hawaiting
    obtain ⟨hc, rfl, hconnected, hcall⟩ := mem_of_awaiting hawaiting
    split
    · exact .refl _
    · rename_i worker hperform
      exact .single (.answers hc hconnected hcall hperform)

theorem moves_workerRefuses (id : Nat) (call : WorkerCall) (error : WorkerError) :
    Moves p self (self.workerRefuses id call error) := by
  unfold workerRefuses
  split
  · exact .refl _
  · rename_i conversation hawaiting
    obtain ⟨hc, rfl, hconnected, hcall⟩ := mem_of_awaiting hawaiting
    exact .single (.fails error _ hc hconnected hcall (.inl rfl))

theorem moves_workerFails (id : Nat) (call : WorkerCall) (error : WorkerError) :
    Moves p self (self.workerFails id call error) := by
  unfold workerFails
  split
  · exact .refl _
  · rename_i conversation hawaiting
    obtain ⟨hc, rfl, hconnected, hcall⟩ := mem_of_awaiting hawaiting
    exact .single (.fails error _ hc hconnected hcall (.inr rfl))

theorem moves_workerSends (id : Nat) (signal : WorkerSignal) :
    Moves p self (self.workerSends id signal) := by
  unfold workerSends
  split
  · exact .refl _
  · rename_i conversation hfilter
    obtain ⟨hat, hconnected⟩ := Option.filter_eq_some_iff.mp hfilter
    obtain ⟨hc, rfl⟩ := mem_of_conversationAt hat
    split
    · exact .refl _
    · rename_i worker hsend
      exact .single (.sends hc hconnected hsend)

/-! ## The step of the main loop -/

theorem moves_handleOwner (hs : WellFormed self) (call : OwnerCall) :
    Moves (self.permits around (.owner call)) self (self.handleOwner around call) := by
  cases call with
  | startConversation serviceName => exact moves_startConversation hs (mayStart_permits rfl)
  | selectSession text => exact moves_selectSession _
  | setDisplayIsInitial isInitial =>
    exact moves_aside ⟨rfl, rfl, rfl, rfl, .inl rfl, rfl, rfl, rfl, rfl, rfl, rfl, rfl, rfl,
      .inl rfl, [], by simp [handleOwner], by simp⟩
  | setDisplayDevice device =>
    exact moves_aside ⟨rfl, rfl, rfl, rfl, .inl rfl, rfl, rfl, rfl, rfl, rfl, rfl, rfl, rfl,
      .inl rfl, [], by simp [handleOwner], by simp⟩
  | startSession serviceName =>
    refine moves_startSession fun hnone hnull hcommand =>
      mayCall_of_isUnregistered hs fun hearly => ?_
    simp [permits, callsEarly, hnone, hnull, hcommand, hearly]
  | startReauthentication pidOfCaller uidOfCaller => exact moves_startReauthentication _ _
  | reset => exact moves_doReset (mayClose_permits rfl)
  | close => exact moves_close (mayClose_permits rfl)

/-- Each step takes at most one message, and goes on with moves that have been
foretold. -/
theorem step_moves (hs : WellFormed self) (event : SessionEvent) (around : Surroundings) :
    ∃ s, Takes self event s ∧
      Moves (self.permits around event) s (self.step (event, around)) := by
  unfold step
  split
  · cases event with
    | deliver id => exact moves_deliver hs id
    | clientConnected pid => exact ⟨self, .nothing, moves_handleConnectionFromOutside hs pid⟩
    | clientDisconnected pid => exact ⟨self, .nothing, moves_onOutsideConnectionClosed hs pid⟩
    | clientRejected pid => exact ⟨self, .nothing, moves_rejectClient hs pid⟩
    | client call => exact ⟨self, .nothing, moves_receiveCall hs call⟩
    | owner call => exact ⟨self, .nothing, moves_handleOwner hs call⟩
    | hello pid => exact ⟨self, .nothing, moves_registerWorker hs pid⟩
    | query kind serviceName => exact ⟨self, .nothing, moves_handleQuery kind serviceName⟩
    | workerAnswers id call answer => exact ⟨self, .nothing, moves_workerAnswers id call answer⟩
    | workerRefuses id call error => exact ⟨self, .nothing, moves_workerRefuses id call error⟩
    | workerFails id call error => exact ⟨self, .nothing, moves_workerFails id call error⟩
    | workerSends id signal => exact ⟨self, .nothing, moves_workerSends id signal⟩
    | workerExited id code =>
      refine ⟨self, .nothing, ?_⟩
      simp only [handleEvent, whenPresent]
      split
      · exact .refl _
      · rename_i conversation hat
        obtain ⟨hc, rfl⟩ := mem_of_conversationAt hat
        exact moves_workerExited hs hc code
    | workerDied id signum =>
      refine ⟨self, .nothing, ?_⟩
      simp only [handleEvent, whenPresent]
      split
      · exact .refl _
      · rename_i conversation hat
        obtain ⟨hc, rfl⟩ := mem_of_conversationAt hat
        exact moves_workerDied hs hc signum
  · exact ⟨self, .nothing, .refl _⟩

theorem step_wellFormed (hs : WellFormed self) (event : SessionEvent × Surroundings) :
    WellFormed (self.step event) := by
  obtain ⟨s, htakes, hmoves⟩ := step_moves hs event.1 event.2
  exact hmoves.wellFormed (htakes.wellFormed hs)

/-- What the dispatch of a message and the moves of a step preserve, the step
preserves. -/
theorem step_invariant {P : GdmSession → Prop} {event : SessionEvent × Surroundings}
    (htaken : ∀ s c message rest, WellFormed s → c ∈ s.conversations →
      c.inbox = message :: rest → P s → P (s.taken c message))
    (hmove : ∀ s s', WellFormed s → Move (self.permits event.2 event.1) s s' → P s → P s')
    (hw : WellFormed self) (hP : P self) : P (self.step event) := by
  obtain ⟨s, htakes, hmoves⟩ := step_moves hw event.1 event.2
  have hs := htakes.wellFormed hw
  have hPs : P s := by
    cases htakes with
    | nothing => exact hP
    | message _ hc hinbox _ => exact htaken self _ _ _ hw hc hinbox hP
  have hboth : WellFormed (self.step event) ∧ P (self.step event) :=
    hmoves.preserves (P := fun s => WellFormed s ∧ P s)
      (fun s s' hm h => ⟨hm.wellFormed h.1, hmove s s' h.1 hm h.2⟩) ⟨hs, hPs⟩
  exact hboth.2

/-- What the moves of every conforming step preserve holds in every state of a
conforming run. -/
theorem run_invariant {P : GdmSession → Prop} {C : GdmSession → SessionEvent × Surroundings → Prop}
    (htaken : ∀ s c message rest, WellFormed s → c ∈ s.conversations →
      c.inbox = message :: rest → P s → P (s.taken c message))
    (hmove : ∀ start event, C start event → WellFormed start → P start → ∀ s s', WellFormed s →
      Move (start.permits event.2 event.1) s s' → P s → P s')
    (hnew : ∀ owner hostname device seatId isLocal, P (new owner hostname device seatId isLocal))
    {s : GdmSession} (hstart : machine.Start s) {events : List (SessionEvent × Surroundings)}
    (h : machine.Meets C s events) :
    WellFormed (machine.run s events) ∧ P (machine.run s events) := by
  obtain ⟨owner, hostname, device, seatId, isLocal, rfl⟩ := hstart
  refine h.invariant (fun s => WellFormed s ∧ P s) ?_
    ⟨wellFormed_new owner hostname device seatId isLocal, hnew owner hostname device seatId isLocal⟩
  rintro start event ⟨hw, hP⟩ hevent
  exact ⟨step_wellFormed hw event, step_invariant htaken (hmove start event hevent hw hP) hw hP⟩

/-- Every reachable session is well formed. -/
theorem run_wellFormed {s : GdmSession} (hstart : machine.Start s)
    (events : List (SessionEvent × Surroundings)) : WellFormed (machine.run s events) := by
  obtain ⟨owner, hostname, device, seatId, isLocal, rfl⟩ := hstart
  exact EventMachine.run_invariant WellFormed (fun s event hs => step_wellFormed hs event) events
    (wellFormed_new owner hostname device seatId isLocal)

end GdmSession

end Gdm
