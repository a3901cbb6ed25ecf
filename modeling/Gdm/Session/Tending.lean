import Gdm.Session.Streams

/-!
# The daemon's end of a connection

The functions of the daemon put their calls behind those that are under way on a
connection, and leave alone what its worker has said.  Only the messages of a worker
itself and its replies do anything else to a conversation that stays connected.
-/

namespace Gdm

/-- The calls to the worker of a conversation that a history has. -/
def calledTo (id : Nat) (log : List SessionEffect) : List WorkerCall :=
  log.filterMap fun
    | .called i call => if i = id then some call else none
    | _ => none

theorem calledTo_append (id : Nat) (log new : List SessionEffect) :
    calledTo id (log ++ new) = calledTo id log ++ calledTo id new :=
  List.filterMap_append

/-- The entry is about no connection: it is no call of a worker and no message of one. -/
def SessionEffect.isLocal : SessionEffect → Bool
  | called _ _ | delivered _ _ => false
  | _ => true

theorem SessionEffect.dispatches_of_isLocal {effect : SessionEffect}
    (h : effect.isLocal = true) : effect.dispatches = none := by
  cases effect with
  | delivered => cases h
  | _ => rfl

theorem calledTo_of_isLocal (id : Nat) {new : List SessionEffect}
    (hnew : ∀ effect ∈ new, effect.isLocal = true) : calledTo id new = [] := by
  refine List.filterMap_eq_nil_iff.mpr fun effect heffect => ?_
  have hlocal := hnew effect heffect
  cases effect with
  | called => cases hlocal
  | _ => rfl

/-- What the daemon makes of a conversation with the entries `new` of its history. -/
structure Tended (new : List SessionEffect) (c c' : Conversation) : Prop where
  id : c'.id = c.id
  worker : c'.worker = c.worker
  inbox : c'.inbox = c.inbox
  workerProxy : c'.workerProxy = c.workerProxy
  connected : c'.connected = true → c.connected = true
  outstanding : c'.connected = true → c'.outstanding = c.outstanding ++ calledTo c.id new

theorem Tended.refl (c : Conversation) : Tended [] c c :=
  ⟨rfl, rfl, rfl, rfl, fun h => h, fun _ => (List.append_nil _).symm⟩

theorem Tended.trans {new new' : List SessionEffect} {c c' c'' : Conversation}
    (h : Tended new c c') (h' : Tended new' c' c'') : Tended (new ++ new') c c'' where
  id := h'.id.trans h.id
  worker := h'.worker.trans h.worker
  inbox := h'.inbox.trans h.inbox
  workerProxy := h'.workerProxy.trans h.workerProxy
  connected hconnected := h.connected (h'.connected hconnected)
  outstanding hconnected := by
    rw [h'.outstanding hconnected, h.outstanding (h'.connected hconnected), calledTo_append,
      h.id, List.append_assoc]

/-- Entries about no connection. -/
theorem Tended.local {new : List SessionEffect} {c c' : Conversation} (h : Tended [] c c')
    (hnew : ∀ effect ∈ new, effect.isLocal = true) : Tended new c c' where
  id := h.id
  worker := h.worker
  inbox := h.inbox
  workerProxy := h.workerProxy
  connected := h.connected
  outstanding hconnected := by
    rw [h.outstanding hconnected, calledTo_of_isLocal c.id hnew]
    rfl

theorem Tended.cases {f : Conversation → Conversation} (hf : ∀ c, Tended [] c (f c))
    (q : Conversation → Prop) [DecidablePred q] (c : Conversation) :
    Tended [] c (if q c then f c else c) := by
  split
  · exact hf c
  · exact .refl c

theorem tended_stop (c : Conversation) : Tended [] c c.stop where
  id := rfl
  worker := rfl
  inbox := rfl
  workerProxy := rfl
  connected h := by cases h
  outstanding h := by cases h

/-- A conversation whose worker has just been started. -/
structure Conversation.Untouched (c : Conversation) : Prop where
  worker : c.worker = {}
  inbox : c.inbox = []
  workerProxy : c.workerProxy = false
  connected : c.connected = false

namespace GdmSession

variable {self self' self'' : GdmSession} {around : Surroundings}

/-- The worker of a conversation in the table has said Hello. -/
def Registered (self : GdmSession) (id : Nat) : Prop :=
  ∃ c ∈ self.conversations, c.id = id ∧ c.workerProxy = true

/-- The entries that the daemon adds on its own: it takes no message, and it calls the
workers that it knows. -/
structure Tame (s : GdmSession) (new : List SessionEffect) : Prop where
  dispatches : ∀ effect ∈ new, effect.dispatches = none
  called : ∀ id call, .called id call ∈ new → s.Registered id

theorem tame_of_isLocal {new : List SessionEffect}
    (hnew : ∀ effect ∈ new, effect.isLocal = true) : Tame self new where
  dispatches effect heffect := SessionEffect.dispatches_of_isLocal (hnew effect heffect)
  called id call hcalled := by cases hnew _ hcalled

/-- Where a conversation is from: it has been started since, or it is what has been made
of one that was there. -/
def Descends (self : GdmSession) (new : List SessionEffect) (c' : Conversation) : Prop :=
  (∃ c ∈ self.conversations, Tended new c c') ∨ self.nextConversation ≤ c'.id ∧ c'.Untouched

/-- What the daemon does on its own. -/
structure Tends (s s' : GdmSession) : Prop where
  fresh : s.nextConversation ≤ s'.nextConversation
  mode : s'.verificationMode = s.verificationMode
  log : ∃ new, s'.log = s.log ++ new ∧ Tame s new ∧ ∀ c' ∈ s'.conversations, Descends s new c'

theorem Tends.refl (self : GdmSession) : Tends self self :=
  ⟨Nat.le_refl _, rfl, [], (List.append_nil _).symm, tame_of_isLocal (by simp),
    fun c hc => .inl ⟨c, hc, .refl c⟩⟩

theorem Tends.trans (h : Tends self self') (h' : Tends self' self'') : Tends self self'' := by
  obtain ⟨hfresh, hmode, new, hlog, htame, hnew⟩ := h
  obtain ⟨hfresh', hmode', new', hlog', htame', hnew'⟩ := h'
  refine ⟨hfresh.trans hfresh', hmode'.trans hmode, new ++ new', ?_, ⟨?_, ?_⟩, ?_⟩
  · rw [hlog', hlog, List.append_assoc]
  · intro effect heffect
    rcases List.mem_append.mp heffect with hfirst | hsecond
    · exact htame.dispatches effect hfirst
    · exact htame'.dispatches effect hsecond
  · intro id call hcalled
    rcases List.mem_append.mp hcalled with hfirst | hsecond
    · exact htame.called id call hfirst
    · obtain ⟨c', hc', hid, hproxy⟩ := htame'.called id call hsecond
      rcases hnew c' hc' with ⟨c, hc, htended⟩ | ⟨_, huntouched⟩
      · exact ⟨c, hc, htended.id.symm.trans hid, htended.workerProxy.symm.trans hproxy⟩
      · rw [huntouched.workerProxy] at hproxy
        cases hproxy
  · intro c'' hc''
    rcases hnew' c'' hc'' with ⟨c', hc', htended'⟩ | ⟨hid, huntouched⟩
    · rcases hnew c' hc' with ⟨c, hc, htended⟩ | ⟨hid, huntouched⟩
      · exact .inl ⟨c, hc, htended.trans htended'⟩
      · refine .inr ⟨htended'.id ▸ hid, htended'.worker.trans huntouched.worker,
          htended'.inbox.trans huntouched.inbox,
          htended'.workerProxy.trans huntouched.workerProxy, ?_⟩
        by_contra hconnected
        have hwas := htended'.connected (by simpa using hconnected)
        rw [huntouched.connected] at hwas
        cases hwas
    · exact .inr ⟨hfresh.trans hid, huntouched⟩

/-! ## The changes that the functions are made of -/

/-- A change of the conversations that stay, with entries about no connection. -/
theorem tends_map {f : Conversation → Conversation} (hf : ∀ c, Tended [] c (f c))
    (hnext : self'.nextConversation = self.nextConversation)
    (hmode : self'.verificationMode = self.verificationMode)
    (hconversations : ∀ c' ∈ self'.conversations, ∃ c ∈ self.conversations, c' = f c)
    {new : List SessionEffect} (hlog : self'.log = self.log ++ new)
    (hnew : ∀ effect ∈ new, effect.isLocal = true) : Tends self self' := by
  refine ⟨hnext.ge, hmode, new, hlog, tame_of_isLocal hnew, fun c' hc' => ?_⟩
  obtain ⟨c, hc, rfl⟩ := hconversations c' hc'
  exact .inl ⟨c, hc, (hf c).local hnew⟩

/-- Conversations leave the table, if anything. -/
theorem tends_sublist (hnext : self'.nextConversation = self.nextConversation)
    (hmode : self'.verificationMode = self.verificationMode)
    (hconversations : ∀ c ∈ self'.conversations, c ∈ self.conversations)
    {new : List SessionEffect} (hlog : self'.log = self.log ++ new)
    (hnew : ∀ effect ∈ new, effect.isLocal = true) : Tends self self' :=
  tends_map (f := fun c => c) .refl hnext hmode (fun c hc => ⟨c, hconversations c hc, rfl⟩) hlog
    hnew

/-- Fields that the connections do not read. -/
theorem tends_fields (hnext : self'.nextConversation = self.nextConversation)
    (hmode : self'.verificationMode = self.verificationMode)
    (hconversations : self'.conversations = self.conversations) (hlog : self'.log = self.log) :
    Tends self self' :=
  tends_sublist hnext hmode (fun _ hc => hconversations ▸ hc)
    (hlog.trans (List.append_nil _).symm) (by simp)

theorem tends_emit {effect : SessionEffect} (h : effect.isLocal = true) :
    Tends self (self.emit effect) :=
  tends_sublist rfl rfl (fun _ hc => hc) rfl (by simpa using h)

theorem tends_modifyConversation (id : Nat) {f : Conversation → Conversation}
    (hf : ∀ c, Tended [] c (f c)) : Tends self (self.modifyConversation id f) :=
  tends_map (Tended.cases hf fun c => c.id = id) rfl rfl
    (fun _ hc' => mem_modifyConversation.mp hc') (List.append_nil _).symm (by simp)

theorem tends_crash : Tends self self.crash :=
  tends_fields rfl rfl rfl rfl

theorem isLocal_freedEntries (conversations : List Conversation) :
    ∀ effect ∈ freedEntries conversations, effect.isLocal = true := by
  intro effect heffect
  obtain ⟨c, _, rfl⟩ := List.mem_map.mp heffect
  rfl

theorem isLocal_killed (conversations : List Conversation) :
    ∀ effect ∈ conversations.map fun c => SessionEffect.killed c.workerPid,
      effect.isLocal = true := by
  intro effect heffect
  obtain ⟨c, _, rfl⟩ := List.mem_map.mp heffect
  rfl

theorem Tends.andThen (h : Tends self self') {next : GdmSession → GdmSession}
    (hnext : Tends self' (next self')) : Tends self (self'.andThen next) := by
  unfold GdmSession.andThen
  split
  · exact h.trans hnext
  · exact h

/-! ## Calls of the worker -/

/-- A call goes to the end of those under way. -/
theorem tends_callWorker {conversation : Conversation} (call : WorkerCall)
    (hregistered : conversation.workerProxy = true → self.Registered conversation.id) :
    Tends self (self.callWorker conversation call) := by
  unfold callWorker
  split
  · rename_i hproxy
    refine ⟨Nat.le_refl _, rfl, [.called conversation.id call], rfl, ⟨?_, ?_⟩, ?_⟩
    · intro effect heffect
      rw [List.mem_singleton.mp heffect]
      rfl
    · intro id call' hcalled
      obtain ⟨rfl, _⟩ := SessionEffect.called.inj (List.mem_singleton.mp hcalled)
      exact hregistered hproxy
    · intro c' hc'
      obtain ⟨c, hc, rfl⟩ := mem_modifyConversation.mp hc'
      have hc : c ∈ self.conversations := hc
      refine .inl ⟨c, hc, ?_⟩
      have hcalled : calledTo c.id [.called conversation.id call] =
          if conversation.id = c.id then [call] else [] := by
        unfold calledTo
        split <;> simp [*]
      split
      · rename_i hid
        rw [if_pos hid.symm] at hcalled
        split
        · exact ⟨rfl, rfl, rfl, rfl, fun h => h, fun _ => by rw [hcalled]⟩
        · rename_i hconnected
          exact ⟨rfl, rfl, rfl, rfl, fun h => h, fun h => absurd h hconnected⟩
      · rename_i hid
        rw [if_neg (Ne.symm hid)] at hcalled
        exact ⟨rfl, rfl, rfl, rfl, fun h => h, fun _ => by rw [hcalled, List.append_nil]⟩
  · exact tends_emit rfl

theorem tends_callByName (serviceName : String) (call : WorkerCall) :
    Tends self (self.callByName serviceName call) := by
  unfold callByName
  split
  · rename_i c hfind
    exact tends_callWorker call fun hproxy =>
      ⟨c, (mem_of_findConversationByName hfind).1, rfl, hproxy⟩
  · exact .refl _

/-! ## Setting up -/

theorem tends_selectUser (text : Option String) : Tends self (self.selectUser text) := by
  cases text with
  | some username =>
    have hselected : Tends self { self with
        selectedUser := some username
        savedSession := none
        savedSessionType := none
        savedLanguage := none } := tends_fields rfl rfl rfl rfl
    exact hselected.trans (tends_emit rfl)
  | none => exact .refl _

theorem tends_setup (serviceName : String) : Tends self (self.setup serviceName) :=
  tends_callByName _ _

theorem tends_setupForUser (serviceName username : String) :
    Tends self (self.setupForUser serviceName username) := by
  have hselected : Tends self
      { self.selectUser (some username) with isProgramSession := false } :=
    (tends_selectUser (some username)).trans (tends_fields rfl rfl rfl rfl)
  exact hselected.trans (tends_callByName _ _)

theorem tends_setupForProgram (serviceName : String) (username logFile : Option String) :
    Tends self (self.setupForProgram serviceName username logFile) := by
  have hflag : Tends self { self with isProgramSession := true } := tends_fields rfl rfl rfl rfl
  exact hflag.trans (tends_callByName _ _)

theorem tends_setTimedLoginDetails (username : Option String) (delay : Int) :
    Tends self (self.setTimedLoginDetails username delay) := by
  cases username with
  | some username => exact tends_fields rfl rfl rfl rfl
  | none => exact .refl _

theorem tends_selectSession (text : String) : Tends self (self.selectSession text) := by
  have hselected : Tends self { self with selectedSession := some text } :=
    tends_fields rfl rfl rfl rfl
  unfold selectSession
  split
  · exact hselected
  · exact hselected.trans tends_crash

/-! ## Starting and stopping conversations -/

theorem tends_inserted (serviceName : String) (pid : Int) :
    Tends self (self.inserted serviceName pid) := by
  refine ⟨Nat.le_succ _, rfl, _, inserted_log serviceName pid, tame_of_isLocal ?_, ?_⟩
  · intro effect heffect
    rcases List.mem_cons.mp heffect with rfl | hfreed
    · rfl
    · exact isLocal_freedEntries _ effect hfreed
  · intro c' hc'
    rcases mem_inserted.mp hc' with ⟨hc, _⟩ | rfl
    · refine .inl ⟨c', hc, (Tended.refl c').local ?_⟩
      intro effect heffect
      rcases List.mem_cons.mp heffect with rfl | hfreed
      · rfl
      · exact isLocal_freedEntries _ effect hfreed
    · exact .inr ⟨Nat.le_refl _, rfl, rfl, rfl, rfl⟩

theorem tends_insertConversation (spawn : Option Int) (serviceName : String) :
    Tends self (self.insertConversation spawn serviceName) := by
  unfold insertConversation
  split
  · exact tends_crash
  · cases spawn with
    | some pid => exact tends_inserted serviceName pid
    | none =>
      exact tends_sublist rfl rfl (fun c hc => (mem_insertedNull.mp hc).1)
        (insertedNull_log serviceName) (isLocal_freedEntries _)

theorem tends_startConversation (spawn : Option Int) (serviceName : String) :
    Tends self (self.startConversation spawn serviceName).1 := by
  have hjob : ∀ c : Conversation, Tended [] c { c with job := false } := fun c =>
    ⟨rfl, rfl, rfl, rfl, fun h => h, fun _ => (List.append_nil _).symm⟩
  unfold startConversation
  split
  · rename_i old _
    split
    · have hkilled : Tends self (self.emit (.killed old.workerPid)) := tends_emit rfl
      exact (hkilled.trans (tends_modifyConversation old.id hjob)).trans
        (tends_insertConversation spawn serviceName)
    · exact .refl _
  · exact tends_insertConversation spawn serviceName

theorem tends_stopConversation (serviceName : String) :
    Tends self (self.stopConversation serviceName) := by
  unfold stopConversation
  split
  · exact (tends_modifyConversation _ tended_stop).trans (tends_emit rfl)
  · exact .refl _

theorem tends_stopAllOtherConversations (keep : Nat) :
    Tends self (self.stopAllOtherConversations keep) := by
  have hstop : ∀ c : Conversation, Tended [] c (if c.id = keep then c else c.stop) := by
    intro c
    split
    · exact .refl c
    · exact tended_stop c
  unfold stopAllOtherConversations
  split
  · refine tends_map hstop rfl rfl ?_ rfl (isLocal_killed _)
    intro c' hc'
    obtain ⟨c, hc, rfl⟩ := List.mem_map.mp hc'
    exact ⟨c, hc, rfl⟩
  · exact tends_crash

theorem tends_doReset : Tends self self.doReset := by
  refine tends_sublist rfl rfl (by simp) doReset_log ?_
  intro effect heffect
  rcases List.mem_append.mp heffect with heffect | hreset
  · rcases List.mem_append.mp heffect with hkilled | hfreed
    · exact isLocal_killed _ effect hkilled
    · exact isLocal_freedEntries _ effect hfreed
  · rw [List.mem_singleton.mp hreset]
    rfl

theorem tends_close : Tends self self.close :=
  tends_doReset.trans (tends_fields rfl rfl rfl rfl)

/-! ## The session itself -/

theorem tends_setUpSessionEnvironment : Tends self (self.setUpSessionEnvironment around) := by
  obtain ⟨environment, heq⟩ := setUpSessionEnvironment_eq self around
  rw [heq]
  exact tends_fields rfl rfl rfl rfl

theorem tends_startSession (serviceName : String) :
    Tends self (self.startSession around serviceName) := by
  unfold startSession
  split
  · exact .refl _
  · split
    · refine (tends_stopAllOtherConversations _).andThen ?_
      split
      · exact tends_setUpSessionEnvironment.trans (tends_callByName _ _)
      · exact tends_fields rfl rfl rfl rfl
    · exact .refl _

theorem tended_reauthPidOfCaller (pid : Int) (c : Conversation) :
    Tended [] c { c with reauthPidOfCaller := pid } :=
  ⟨rfl, rfl, rfl, rfl, fun h => h, fun _ => (List.append_nil _).symm⟩

theorem tends_startReauthentication (pidOfCaller : Int) (uidOfCaller : Nat) :
    Tends self (self.startReauthentication pidOfCaller uidOfCaller) := by
  unfold startReauthentication
  split
  · exact .refl _
  · split
    · exact tends_crash
    · rename_i id _ _ conversation hat
      obtain ⟨hc, hid⟩ := mem_of_conversationAt hat
      refine (tends_modifyConversation id (tended_reauthPidOfCaller pidOfCaller)).trans
        (tends_callWorker _ fun hproxy => ?_)
      refine ⟨_, mem_modifyConversation.mpr ⟨conversation, hc, rfl⟩, ?_⟩
      rw [if_pos hid]
      exact ⟨rfl, hproxy⟩

/-! ## Queries -/

theorem tended_pendingInvocation (query : Option Nat) (c : Conversation) :
    Tended [] c { c with pendingInvocation := query } :=
  ⟨rfl, rfl, rfl, rfl, fun h => h, fun _ => (List.append_nil _).symm⟩

theorem tends_completeQuery (query : Option Nat) (reply : QueryReply) :
    Tends self (self.completeQuery query reply) :=
  tends_emit rfl

theorem tends_cancelPendingQuery (conversation : Conversation) :
    Tends self (self.cancelPendingQuery conversation) := by
  unfold cancelPendingQuery
  split
  · exact .refl _
  · exact (tends_completeQuery _ _).trans
      (tends_modifyConversation _ (tended_pendingInvocation none))

theorem tends_answerQuery (serviceName text : String) :
    Tends self (self.answerQuery serviceName text) := by
  unfold answerQuery
  split
  · exact (tends_completeQuery _ _).trans
      (tends_modifyConversation _ (tended_pendingInvocation none))
  · exact .refl _

theorem tends_reportError (serviceName : String) (code : ClientErrorCode) (message : String) :
    Tends self (self.reportError serviceName code message) := by
  unfold reportError
  split
  · exact (tends_completeQuery _ _).trans
      (tends_modifyConversation _ (tended_pendingInvocation none))
  · exact .refl _

theorem tends_receiveQuery (serviceName : String) :
    Tends self (self.receiveQuery serviceName) := by
  have hnext : Tends self { self with nextQuery := self.nextQuery + 1 } :=
    tends_fields rfl rfl rfl rfl
  exact hnext.trans (tends_emit rfl)

theorem tends_setPendingQuery (serviceName : String) (query : Nat) :
    Tends self (self.setPendingQuery serviceName query) := by
  unfold setPendingQuery
  split
  · split
    · exact tends_modifyConversation _ (tended_pendingInvocation (some query))
    · exact tends_fields rfl rfl rfl rfl
  · exact .refl _

theorem tends_handleQuery (kind : QueryKind) (serviceName : String) :
    Tends self (self.handleQuery kind serviceName) := by
  have hextension : ∀ interface message,
      Tends self (self.handleExtensionQuery interface message serviceName) := by
    intro interface message
    unfold handleExtensionQuery
    split
    · exact (tends_receiveQuery _).trans (tends_setPendingQuery _ _)
    · exact (tends_receiveQuery _).trans (tends_completeQuery _ _)
  have hverifier : Tends self (self.handleVerifierQuery serviceName) := by
    unfold handleVerifierQuery
    split
    · exact (tends_receiveQuery _).trans (tends_setPendingQuery _ _)
    · exact (tends_receiveQuery _).trans (tends_completeQuery _ _)
  cases kind with
  | choiceList => exact hextension _ _
  | customJson => exact hextension _ _
  | info => exact hverifier
  | secretInfo => exact hverifier

/-! ## The owners -/

theorem tends_ite {c : Prop} [Decidable c] (h : Tends self self') (h' : Tends self self'') :
    Tends self (if c then self' else self'') := by
  split
  · exact h
  · exact h'

theorem tends_react (signal : SessionSignal) : Tends self (self.react around signal) := by
  have hclose : ∀ c : Bool, Tends self (if c then self.close else self) := fun _ =>
    tends_ite tends_close (.refl _)
  unfold react
  split
  · cases signal with
    | conversationStarted serviceName =>
      simp only [reactUserSession]
      split
      · exact tends_ite (tends_setupForUser _ _) (.refl _)
      · exact .refl _
    | clientConnected pid =>
      simp only [reactUserSession]
      split
      · exact .refl _
      · split
        · exact (tends_setTimedLoginDetails _ _).trans (tends_startConversation _ _)
        · exact .refl _
    | sessionStartFailed _ _ => exact hclose _
    | sessionExited _ _ => exact hclose _
    | sessionDied _ _ => exact hclose _
    | _ => exact .refl _
  · cases signal with
    | clientDisconnected _ => exact tends_close
    | cancelled => exact tends_close
    | verificationComplete _ => exact tends_close
    | clientRejected _ => exact tends_ite (.refl _) (hclose _)
    | _ => exact .refl _
  · cases signal with
    | conversationStarted _ => exact tends_ite (tends_setupForProgram _ _ _) (.refl _)
    | sessionOpened serviceName _ => exact tends_ite (tends_startSession serviceName) (.refl _)
    | sessionExited _ _ => exact tends_ite (tends_stopConversation _) (.refl _)
    | sessionDied _ _ => exact tends_ite (tends_stopConversation _) (.refl _)
    | conversationStopped _ => exact hclose _
    | _ => exact .refl _
  · cases signal with
    | cancelled => exact tends_doReset
    | verificationComplete _ => exact tends_doReset
    | clientDisconnected _ => exact hclose _
    | _ => exact .refl _

theorem tends_signal (signal : SessionSignal) : Tends self (self.signal around signal) := by
  have hemitted : Tends self (self.emit (.signal signal)) := tends_emit rfl
  exact hemitted.trans (tends_react signal)

end GdmSession

end Gdm
