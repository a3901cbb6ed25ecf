import Gdm.Dialogue.Invariant

/-!
# What a worker says reaches the session

While a worker performs a callback, its end of the connection is ahead of what the session
has heard.  Entry by entry the session catches up.
-/

namespace Gdm

/-! ## The end of the session -/

/-- How a session takes what worker `id` has put on its connection: as long as it runs and
the connection is open, the message goes to the end of the queue, the calls that wait for
a reply are `done` with, and the record of the worker is in the state `after`. -/
inductive GdmSession.Hearing (s : GdmSession) (id : Nat) (word : Option Word)
    (done : List WorkerCall → List WorkerCall) (after : GdmSessionWorkerState) :
    GdmSession → Prop
  | deaf : (s.status = .running → ∀ c ∈ s.conversations, c.id = id → c.connected = false) →
      Hearing s id word done after s
  | hears {s' : GdmSession} (message : WorkerMessage) (view : WorkerView)
      (new : List SessionEffect) : message.word = word → view.state = after →
      (∀ effect ∈ new, effect.isLocal = true) → s'.log = s.log ++ new →
      s'.nextConversation = s.nextConversation → s'.status = s.status →
      s.status = .running → (∀ c ∈ s.conversations, c.id = id → c.connected = true) →
      s'.conversations = (s.conversations.map fun c =>
        if c.id = id then { c with
          outstanding := done c.outstanding
          worker := view
          inbox := c.inbox ++ [message] }
        else c) → Hearing s id word done after s'

namespace GdmSession

variable {s : GdmSession} {id : Nat} {around : Surroundings}

/-- The conversation whose worker is speaking, or nobody listens. -/
theorem awaiting_cases (hs : WellFormed s) (id : Nat) (call : WorkerCall)
    (hcall : ∀ c ∈ s.conversations, c.id = id → c.connected = true → call ∈ c.outstanding) :
    s.awaiting id call = none ∧
        (∀ c ∈ s.conversations, c.id = id → c.connected = false) ∨
      ∃ c ∈ s.conversations, c.id = id ∧ c.connected = true ∧ s.awaiting id call = some c ∧
        ∀ d ∈ s.conversations, d.id = id → d.connected = true := by
  unfold awaiting
  cases hat : s.conversationAt id with
  | none =>
    refine .inl ⟨rfl, fun c hc hid => ?_⟩
    have hsome := hs.conversationAt hc
    rw [hid, hat] at hsome
    cases hsome
  | some c =>
    obtain ⟨hc, hid⟩ := mem_of_conversationAt hat
    cases hconnected : c.connected with
    | false =>
      refine .inl ⟨by simp [hconnected], fun d hd hdid => ?_⟩
      rw [hs.eq_of_id hd hc (hdid.trans hid.symm)]
      exact hconnected
    | true =>
      have hmem := hcall c hc hid hconnected
      refine .inr ⟨c, hc, hid, hconnected, by simp [hconnected, hmem], fun d hd hdid => ?_⟩
      rw [hs.eq_of_id hd hc (hdid.trans hid.symm)]
      exact hconnected

/-- A reply that reports success. -/
theorem hearing_workerAnswers (hs : WellFormed s) {call : WorkerCall} {answer : Answer}
    {after : GdmSessionWorkerState}
    (hperforms : s.status = .running → ∀ c ∈ s.conversations, c.id = id → c.connected = true →
      call ∈ c.outstanding ∧ ∃ view, c.worker.perform call answer = some view ∧
        view.state = after) :
    Hearing s id (WorkerMessage.success answer).word (fun calls => calls.erase call) after
      (s.step (.workerAnswers id call answer, around)) := by
  unfold step
  split
  · rename_i hrunning
    simp only [handleEvent, workerAnswers]
    rcases awaiting_cases hs id call fun c hc hid hconnected =>
      (hperforms hrunning c hc hid hconnected).1 with
      ⟨hnone, hdeaf⟩ | ⟨c, hc, hid, hconnected, hat, hall⟩
    · rw [hnone]
      exact .deaf fun _ => hdeaf
    · obtain ⟨_, view, hview, hstate⟩ := hperforms hrunning c hc hid hconnected
      simp only [hat, hview]
      exact .hears (.success answer) view [.answered id call answer] rfl hstate
        (by simp [SessionEffect.isLocal]) rfl rfl rfl hrunning hall rfl
  · rename_i hended
    exact .deaf fun hrunning => absurd hrunning hended

/-- An error that leaves the record of the worker as it is. -/
theorem hearing_workerRefuses (hs : WellFormed s) {call : WorkerCall} {error : WorkerError}
    {after : GdmSessionWorkerState}
    (hcall : s.status = .running → ∀ c ∈ s.conversations, c.id = id → c.connected = true →
      call ∈ c.outstanding ∧ c.worker.state = after) :
    Hearing s id (WorkerMessage.failure call.method error).word (fun calls => calls.erase call)
      after (s.step (.workerRefuses id call error, around)) := by
  unfold step
  split
  · rename_i hrunning
    simp only [handleEvent, workerRefuses]
    rcases awaiting_cases hs id call fun c hc hid hconnected =>
      (hcall hrunning c hc hid hconnected).1 with ⟨hno, hdeaf⟩ | ⟨c, hc, hid, hconnected, hat, hall⟩
    · rw [hno]
      exact .deaf fun _ => hdeaf
    · rw [hat]
      exact .hears (.failure call.method error) c.worker [] rfl
        (hcall hrunning c hc hid hconnected).2 (by simp) (List.append_nil _).symm rfl rfl
        hrunning hall rfl
  · rename_i hended
    exact .deaf fun hrunning => absurd hrunning hended

/-- An error that takes it to NONE. -/
theorem hearing_workerFails (hs : WellFormed s) {call : WorkerCall} {error : WorkerError}
    (hcall : s.status = .running → ∀ c ∈ s.conversations, c.id = id → c.connected = true →
      call ∈ c.outstanding) :
    Hearing s id (WorkerMessage.failure call.method error).word (fun calls => calls.erase call)
      .none (s.step (.workerFails id call error, around)) := by
  unfold step
  split
  · rename_i hrunning
    simp only [handleEvent, workerFails]
    rcases awaiting_cases hs id call (hcall hrunning) with
      ⟨hno, hdeaf⟩ | ⟨c, hc, hid, hconnected, hat, hall⟩
    · rw [hno]
      exact .deaf fun _ => hdeaf
    · rw [hat]
      exact .hears (.failure call.method error) { c.worker with state := .none } [] rfl rfl
        (by simp) (List.append_nil _).symm rfl rfl hrunning hall rfl
  · rename_i hended
    exact .deaf fun hrunning => absurd hrunning hended

/-- A signal. -/
theorem hearing_workerSends (hs : WellFormed s) {signal : WorkerSignal}
    {after : GdmSessionWorkerState}
    (hsends : s.status = .running → ∀ c ∈ s.conversations, c.id = id → c.connected = true →
      ∃ view, c.worker.send signal = some view ∧ view.state = after) :
    Hearing s id (WorkerMessage.signal signal).word (fun calls => calls) after
      (s.step (.workerSends id signal, around)) := by
  unfold step
  split
  · rename_i hrunning
    simp only [handleEvent, workerSends]
    cases hat : s.conversationAt id with
    | none =>
      refine .deaf fun _ c hc hid => ?_
      have hsome := hs.conversationAt hc
      rw [hid, hat] at hsome
      cases hsome
    | some c =>
      obtain ⟨hc, hid⟩ := mem_of_conversationAt hat
      cases hconnected : c.connected with
      | false =>
        simp only [Option.filter, hconnected]
        refine .deaf fun _ d hd hdid => ?_
        rw [hs.eq_of_id hd hc (hdid.trans hid.symm)]
        exact hconnected
      | true =>
        obtain ⟨view, hview, hstate⟩ := hsends hrunning c hc hid hconnected
        have hfound : Option.filter (fun c : Conversation => c.connected) (some c) = some c := by
          simp [hconnected]
        rw [hfound]
        dsimp only
        rw [hview]
        refine .hears (.signal signal) view [] rfl hstate (by simp) (List.append_nil _).symm rfl
          rfl hrunning (fun d hd hdid => ?_) rfl
        rw [hs.eq_of_id hd hc (hdid.trans hid.symm)]
        exact hconnected
  · rename_i hended
    exact .deaf fun hrunning => absurd hrunning hended

end GdmSession

/-! ## Entry by entry -/

theorem WorkerCall.method?_method (call : WorkerCall) : call.method.method? = call.method? := by
  cases call <;> rfl

theorem Method.visible_after (method : Method) : method.after.visible = method.after := by
  cases method <;> rfl

namespace Dialogue

open GdmSession

variable {e : Dialogue} {id : Nat} {rest : List Effect} {calls : List WorkerCall}
  {state : GdmSessionWorkerState}

/-- The session has heard what worker `id` has said but for `rest`, waits for replies to
`calls` beside those that are on their way, and has the worker in `state` on record. -/
structure Speaking (e : Dialogue) (id : Nat) (rest : List Effect) (calls : List WorkerCall)
    (state : GdmSessionWorkerState) : Prop where
  wellFormed : WellFormed e.session
  others : ∀ i, i ≠ id → e.InTurn i
  known : id < e.session.nextConversation
  fresh : ∀ i, e.session.nextConversation ≤ i → e.Waits i
  links : ∀ c ∈ e.session.conversations, c.id ≠ id → e.Links c
  proxy : ∀ c ∈ e.session.conversations, c.id = id → c.workerProxy = true
  heard : (e.processes id).heard <+: plainCalls id e.session.log
  delivered : heardWords (deliveredTo id e.session.log) <+: words (e.processes id).worker.log
  said : ∀ c ∈ e.session.conversations, c.id = id →
    heardWords (e.session.said c) <+: words (e.processes id).worker.log
  attuned : e.session.status = .running → ∀ c ∈ e.session.conversations, c.id = id →
    c.connected = true →
      heardWords (e.session.said c) ++ words rest = words (e.processes id).worker.log ∧
        (c.outstanding.filter fun call => call.method?.isSome) = calls ++ e.unread id ∧
        c.worker.state = state

theorem words_cons (effect : Effect) (rest : List Effect) :
    words (effect :: rest) = effect.word.toList ++ words rest := by
  unfold words
  cases h : effect.word <;> simp [h]

theorem heardWords_singleton (message : WorkerMessage) :
    heardWords [message] = message.word.toList := by
  unfold heardWords
  cases h : message.word <;> simp [h]

/-- The session takes the next word. -/
theorem Speaking.hearing {word : Option Word} {before : List Effect}
    (h : e.Speaking id before calls state) (hwords : words before = word.toList ++ words rest)
    {done : List WorkerCall → List WorkerCall} {after : GdmSessionWorkerState}
    {calls' : List WorkerCall} {s : GdmSession}
    (hhearing : Hearing e.session id word done after s) (hs : WellFormed s)
    (hdone : ∀ outstanding : List WorkerCall,
      (outstanding.filter fun call => call.method?.isSome) = calls ++ e.unread id →
      ((done outstanding).filter fun call => call.method?.isSome) = calls' ++ e.unread id) :
    Speaking { e with session := s } id rest calls' after := by
  cases hhearing with
  | deaf hdeaf =>
    refine { h with attuned := ?_ }
    intro hrunning c hc hid hconnected
    rw [hdeaf hrunning c hc hid] at hconnected
    cases hconnected
  | hears message view new hword hstate hnew hlog hnext hstatus hrunning hopen hconversations =>
    have hgrown : Grown e s new :=
      ⟨hlog, fun effect heffect => SessionEffect.dispatches_of_isLocal (hnew effect heffect)⟩
    have huncalled : ∀ i call, .called i call ∉ new := fun i call hcalled => by
      cases hnew _ hcalled
    have hcalls : ∀ i, plainCalls i s.log = plainCalls i e.session.log := fun i => by
      rw [hlog, plainCalls_append, plainCalls_of_not_called (huncalled i), List.append_nil]
    have hunread : unread { e with session := s } id = e.unread id := by
      show (plainCalls id s.log).drop _ = _
      rw [hcalls]
      rfl
    have hmem : ∀ c' ∈ s.conversations, ∃ c ∈ e.session.conversations,
        c' = if c.id = id then { c with
          outstanding := done c.outstanding
          worker := view
          inbox := c.inbox ++ [message] } else c := by
      intro c' hc'
      rw [hconversations] at hc'
      obtain ⟨c, hc, rfl⟩ := List.mem_map.mp hc'
      exact ⟨c, hc, rfl⟩
    -- the conversation of the worker, with the next entry in its queue
    have hown : ∀ c' ∈ s.conversations, c'.id = id → ∃ c ∈ e.session.conversations, c.id = id ∧
        c' = { c with
          outstanding := done c.outstanding
          worker := view
          inbox := c.inbox ++ [message] } ∧
        heardWords (s.said c') ++ words rest = words (e.processes id).worker.log := by
      intro c' hc' hid
      obtain ⟨c, hc, rfl⟩ := hmem c' hc'
      have hcid : c.id = id := by
        by_contra hne
        rw [if_neg hne] at hid
        exact hne hid
      rw [if_pos hcid] at hid ⊢
      refine ⟨c, hc, hcid, rfl, ?_⟩
      obtain ⟨hsame, _, _⟩ := h.attuned hrunning c hc hcid (hopen c hc hcid)
      have hsaid : s.said { c with
          outstanding := done c.outstanding
          worker := view
          inbox := c.inbox ++ [message] } = e.session.said c ++ [message] := by
        rw [GdmSession.said, hgrown.delivered, GdmSession.said, List.append_assoc]
      rw [hsaid, heardWords_append, heardWords_singleton, hword, List.append_assoc,
        ← hwords]
      exact hsame
    refine ⟨hs, fun i hi => (h.others i hi).grown hgrown, hnext ▸ h.known, ?_, ?_, ?_, ?_, ?_,
      ?_, ?_⟩
    · intro i hi
      exact (h.fresh i (hnext ▸ hi)).grown hgrown (huncalled i)
    · intro c' hc' hid
      obtain ⟨c, hc, rfl⟩ := hmem c' hc'
      have hcid : c.id ≠ id := by
        intro heq
        rw [if_pos heq] at hid
        exact hid heq
      rw [if_neg hcid]
      exact (h.links c hc hcid).tended (h.others c.id hcid) hgrown
        ((Tended.refl c).local hnew) (fun _ => hrunning) fun _ => huncalled c.id
    · intro c' hc' hid
      obtain ⟨c, hc, hcid, rfl, _⟩ := hown c' hc' hid
      exact h.proxy c hc hcid
    · show _ <+: plainCalls id s.log
      rw [hcalls]
      exact h.heard
    · show heardWords (deliveredTo id s.log) <+: _
      rw [hgrown.delivered]
      exact h.delivered
    · intro c' hc' hid
      obtain ⟨c, hc, hcid, _, hwords⟩ := hown c' hc' hid
      exact ⟨words rest, hwords⟩
    · intro _ c' hc' hid hconnected
      obtain ⟨c, hc, hcid, rfl, hwords⟩ := hown c' hc' hid
      obtain ⟨_, houtstanding, _⟩ := h.attuned hrunning c hc hcid hconnected
      refine ⟨hwords, ?_, hstate⟩
      rw [hunread]
      exact hdone c.outstanding houtstanding

theorem view_of_mem (hs : WellFormed e.session) {c : Conversation}
    (hc : c ∈ e.session.conversations) (hid : c.id = id) : e.view id = c.worker := by
  rw [view, ← hid, hs.conversationAt hc]
  rfl

/-- An entry that is no report leaves the record of the state. -/
theorem Speaking.post_of_not_isReport {effect : Effect}
    (h : e.Speaking id (effect :: rest) calls state) (hreport : effect.isReport = false) :
    (e.post id effect).Speaking id rest calls state ∧
      (e.post id effect).processes = e.processes := by
  have hsilent : effect.word = none → e.Speaking id rest calls state := by
    intro hword
    refine { h with attuned := fun hrunning c hc hid hconnected => ?_ }
    have hattuned := h.attuned hrunning c hc hid hconnected
    rw [words_cons, hword] at hattuned
    exact hattuned
  have hsends : ∀ signal : WorkerSignal, effect.word = some (.signal signal) →
      signal.isAside = false → (∀ view : WorkerView, ∃ view', view.send signal = some view' ∧
        view'.state = view.state) →
      Speaking (e.hears (.workerSends id signal)) id rest calls state := by
    intro signal hword haside hsend
    have hsame : (WorkerMessage.signal signal).word = effect.word := by
      rw [hword, WorkerMessage.word, haside]
      rfl
    refine h.hearing (words_cons _ _) (hsame ▸ hearing_workerSends h.wellFormed ?_)
      (step_wellFormed h.wellFormed _) fun _ h => h
    intro hrunning c hc hid hconnected
    obtain ⟨view', hview', hstate⟩ := hsend c.worker
    exact ⟨view', hview', hstate.trans (h.attuned hrunning c hc hid hconnected).2.2⟩
  cases effect with
  | completed invocation reply =>
    cases invocation with
    | some invocation => cases hreport
    | none => exact ⟨hsilent rfl, rfl⟩
  | usernameChanged username => exact ⟨hsends _ rfl rfl fun view => ⟨_, rfl, rfl⟩, rfl⟩
  | savedLanguageNameRead name => exact ⟨hsends _ rfl rfl fun view => ⟨_, rfl, rfl⟩, rfl⟩
  | savedSessionNameRead name => exact ⟨hsends _ rfl rfl fun view => ⟨_, rfl, rfl⟩, rfl⟩
  | savedSessionTypeRead type => exact ⟨hsends _ rfl rfl fun view => ⟨_, rfl, rfl⟩, rfl⟩
  | sessionExited service status => cases hreport
  | _ => exact ⟨hsilent rfl, rfl⟩

/-- Any number of such entries. -/
theorem Speaking.posts_of_not_isReport {new : List Effect}
    (h : e.Speaking id (new ++ rest) calls state)
    (hnew : ∀ effect ∈ new, effect.isReport = false) :
    (e.posts id new).Speaking id rest calls state ∧
      (e.posts id new).processes = e.processes := by
  induction new generalizing e with
  | nil => exact ⟨h, rfl⟩
  | cons effect new ih =>
    obtain ⟨hposted, hprocesses⟩ := h.post_of_not_isReport (hnew effect (by simp))
    obtain ⟨hlast, hsame⟩ := ih hposted fun x hx => hnew x (by simp [hx])
    exact ⟨hlast, hsame.trans hprocesses⟩

/-- The end of the session. -/
theorem Speaking.post_sessionExited {service : Option String} {status : Nat}
    (h : e.Speaking id (.sessionExited service status :: rest) calls .sessionStarted) :
    (e.post id (.sessionExited service status)).Speaking id rest calls .none ∧
      (e.post id (.sessionExited service status)).processes = e.processes := by
  have hhearing : Hearing e.session id
      (WorkerMessage.signal (.sessionExited (service.getD "") (.ofStatus status))).word
      (fun calls => calls) .none (e.session.step
        (.workerSends id (.sessionExited (service.getD "") (.ofStatus status)), {})) := by
    refine hearing_workerSends h.wellFormed fun hrunning c hc hid hconnected => ?_
    have hstate := (h.attuned hrunning c hc hid hconnected).2.2
    exact ⟨{ c.worker with state := .none }, by simp [WorkerView.send, hstate], rfl⟩
  exact ⟨h.hearing (words_cons _ _) hhearing (step_wellFormed h.wellFormed _) fun _ h => h, rfl⟩

/-- A reply to a call takes it from those that wait for one. -/
theorem filter_erase_of_mem {unread : List WorkerCall} {call : WorkerCall} (hcall : call ∈ calls)
    {outstanding : List WorkerCall}
    (h : (outstanding.filter fun call => call.method?.isSome) = calls ++ unread) :
    ((outstanding.erase call).filter fun call => call.method?.isSome) =
      calls.erase call ++ unread := by
  rw [← List.erase_filter, h, List.erase_append_left _ hcall]

/-- A reply that reports success is to a call that the worker has performed. -/
theorem Speaking.hears_success {invocation : Invocation} {reply : Reply} {call : WorkerCall}
    (h : e.Speaking id (.completed (some invocation) reply :: rest) calls state)
    (hcall : call ∈ calls) (hmethod : call.method? = some invocation.method)
    (hanswers : reply.Answers invocation.method) (hok : reply.isError = false)
    (hstate : state = invocation.method.before) :
    (e.hears (e.replyEvent id call reply)).Speaking id rest (calls.erase call)
      invocation.method.after := by
  have hhears : ∀ {answer : Answer},
      (WorkerMessage.success answer).word = some (.reply invocation.method reply) →
      (∀ c ∈ e.session.conversations, c.id = id → c.worker.state = state →
        ∃ view, c.worker.perform call answer = some view ∧
          view.state = invocation.method.after) →
      (e.hears (.workerAnswers id call answer)).Speaking id rest (calls.erase call)
        invocation.method.after := by
    intro answer hword hperforms
    have hword' : (WorkerMessage.success answer).word =
        (Effect.completed (some invocation) reply).word := hword
    refine h.hearing (words_cons _ _) (hword' ▸ hearing_workerAnswers h.wellFormed ?_)
      (step_wellFormed h.wellFormed _) fun _ => filter_erase_of_mem hcall
    intro hrunning c hc hid hconnected
    obtain ⟨_, houtstanding, hview⟩ := h.attuned hrunning c hc hid hconnected
    refine ⟨?_, hperforms c hc hid hview⟩
    have hmem : call ∈ c.outstanding.filter fun call => call.method?.isSome := by
      rw [houtstanding]
      exact List.mem_append_left _ hcall
    exact (List.mem_filter.mp hmem).1
  obtain ⟨serial, method⟩ := invocation
  subst hstate
  cases reply with
  | error error => cases hok
  | Initialize =>
    obtain rfl : method = .Initialize := hanswers
    cases call <;> cases hmethod
    rename_i details
    refine hhears rfl fun c hc hid hview => ⟨{ state := .setupComplete, username :=
      (detailsUsername details <|> c.worker.username) }, ?_, rfl⟩
    rw [view_of_mem h.wellFormed hc hid]
    exact if_pos ⟨hview, rfl⟩
  | Authenticate =>
    obtain rfl : method = .Authenticate := hanswers
    cases call <;> cases hmethod
    refine hhears rfl fun c hc hid hview => ⟨{ c.worker with state := .authenticated }, ?_, rfl⟩
    rw [view_of_mem h.wellFormed hc hid]
    exact if_pos ⟨hview, rfl⟩
  | Authorize =>
    obtain rfl : method = .Authorize := hanswers
    cases call <;> cases hmethod
    exact hhears rfl fun c _ _ hview => ⟨_, if_pos hview, rfl⟩
  | EstablishCredentials =>
    obtain rfl : method = .EstablishCredentials := hanswers
    cases call <;> cases hmethod
    exact hhears rfl fun c _ _ hview => ⟨_, if_pos hview, rfl⟩
  | Open sessionId =>
    obtain rfl : method = .Open := hanswers
    cases call <;> cases hmethod
    exact hhears rfl fun c _ _ hview => ⟨_, if_pos hview, rfl⟩
  | StartProgram pid =>
    obtain rfl : method = .StartProgram := hanswers
    cases call <;> cases hmethod
    exact hhears rfl fun c _ _ hview => ⟨_, if_pos hview, rfl⟩

/-- An error leaves the worker where it was, or in NONE. -/
theorem Speaking.hears_error {invocation : Invocation} {error : WorkerError} {call : WorkerCall}
    (h : e.Speaking id (.completed (some invocation) (.error error) :: rest) calls state)
    (hcall : call ∈ calls) (hmethod : call.method? = some invocation.method)
    (hstate : (e.processes id).worker.state = .none ∨
      (e.processes id).worker.state.visible = state) :
    (e.hears (e.replyEvent id call (.error error))).Speaking id rest (calls.erase call)
      (e.processes id).worker.state.visible := by
  have hword : (WorkerMessage.failure call.method error).word =
      (Effect.completed (some invocation) (.error error)).word := by
    rw [WorkerMessage.word, WorkerCall.method?_method, hmethod]
    rfl
  have hmem : e.session.status = .running → ∀ c ∈ e.session.conversations, c.id = id →
      c.connected = true → call ∈ c.outstanding := by
    intro hrunning c hc hid hconnected
    have hmem' : call ∈ c.outstanding.filter fun call => call.method?.isSome := by
      rw [(h.attuned hrunning c hc hid hconnected).2.1]
      exact List.mem_append_left _ hcall
    exact (List.mem_filter.mp hmem').1
  unfold replyEvent
  dsimp only
  split
  · rename_i hnone
    rw [hnone]
    exact h.hearing (words_cons _ _) (hword ▸ hearing_workerFails h.wellFormed hmem)
      (step_wellFormed h.wellFormed _) fun _ => filter_erase_of_mem hcall
  · rename_i hsome
    refine h.hearing (words_cons _ _) (hword ▸ hearing_workerRefuses h.wellFormed ?_)
      (step_wellFormed h.wellFormed _) fun _ => filter_erase_of_mem hcall
    intro hrunning c hc hid hconnected
    refine ⟨hmem hrunning c hc hid hconnected, ?_⟩
    exact (h.attuned hrunning c hc hid hconnected).2.2.trans (hstate.resolve_left hsome).symm

end Dialogue

end Gdm
