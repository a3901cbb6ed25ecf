import Gdm.Library.History
import Gdm.Session.Handlers
import Mathlib.Data.List.Nodup
import Mathlib.Logic.Relation

/-!
# The moves of a session

Every event of the main loop is a sequence of the moves of this module, after at
most one message of a worker has been taken from its queue.  The relation says
once what the session can do to its conversations, its selected user and its
history, so that an invariant needs one case for each move.
-/

namespace Gdm

/-- The entries of the history that say nothing about conversations, calls, users
or the start and the end of the session. -/
def SessionEffect.isMinor : SessionEffect → Bool
  | signal (.verificationComplete _) | signal (.sessionOpened _ _)
  | signal (.sessionStarted _ _ _) | signal (.sessionExited _ _)
  | signal (.sessionDied _ _) | signal (.reauthenticationStarted _ _)
  | signal (.stopConflictingSession _) => false
  | signal _ | killed _ => true
  | _ => false

/-- The signals that tell the end of the session. -/
def SessionSignal.isEnd : SessionSignal → Bool
  | sessionExited _ _ | sessionDied _ _ => true
  | _ => false

/-- The message that an entry says is dispatched. -/
def SessionEffect.dispatches : SessionEffect → Option (Nat × WorkerMessage)
  | delivered id message => some (id, message)
  | _ => none

/-- The message whose callback is running, or has run last. -/
def dispatching (log : List SessionEffect) : Option (Nat × WorkerMessage) :=
  History.lastSome SessionEffect.dispatches log

theorem SessionEffect.dispatches_of_isMinor {effect : SessionEffect}
    (h : effect.isMinor = true) : effect.dispatches = none := by
  cases effect with
  | delivered => cases h
  | _ => rfl

/-- The replies whose callbacks tell that the verification is complete. -/
def Answer.Completes : Answer → Prop
  | .EstablishCredentials | .Open _ => True
  | _ => False

/-- The replies to StartReauthentication. -/
def WorkerMessage.endsReauthentication : WorkerMessage → Bool
  | success (.StartReauthentication _) | failure .StartReauthentication _ => true
  | _ => false

/-- A change of a conversation that keeps what it has been told and what it waits
for; calls under way may end, and the user to start with may be forgotten. -/
structure Harmless (f : Conversation → Conversation) : Prop where
  id : ∀ c, (f c).id = c.id
  serviceName : ∀ c, (f c).serviceName = c.serviceName
  workerPid : ∀ c, (f c).workerPid = c.workerPid
  job : ∀ c, (f c).job = c.job
  workerProxy : ∀ c, (f c).workerProxy = c.workerProxy
  pendingInvocation : ∀ c, (f c).pendingInvocation = c.pendingInvocation
  startingInvocation : ∀ c, (f c).startingInvocation = c.startingInvocation
  startingUsername : ∀ c, (f c).startingUsername = c.startingUsername ∨
    (f c).startingUsername = none
  reauthPidOfCaller : ∀ c, (f c).reauthPidOfCaller = c.reauthPidOfCaller
  inbox : ∀ c, (f c).inbox = c.inbox
  worker : ∀ c, (f c).worker = c.worker
  name : ∀ c, (f c).name = c.name
  verified : ∀ c, (f c).verified = c.verified
  outstanding : ∀ c, (f c).outstanding ⊆ c.outstanding
  connected : ∀ c, (f c).connected = true → c.connected = true

theorem harmless_stop : Harmless Conversation.stop where
  id _ := rfl
  serviceName _ := rfl
  workerPid _ := rfl
  job _ := rfl
  workerProxy _ := rfl
  pendingInvocation _ := rfl
  startingInvocation _ := rfl
  startingUsername _ := .inl rfl
  reauthPidOfCaller _ := rfl
  inbox _ := rfl
  worker _ := rfl
  name _ := rfl
  verified _ := rfl
  outstanding _ := List.nil_subset _
  connected _ h := by cases h

theorem harmless_sessionId (sessionId : Option String) :
    Harmless fun c => { c with sessionId := sessionId } where
  id _ := rfl
  serviceName _ := rfl
  workerPid _ := rfl
  job _ := rfl
  workerProxy _ := rfl
  pendingInvocation _ := rfl
  startingInvocation _ := rfl
  startingUsername _ := .inl rfl
  reauthPidOfCaller _ := rfl
  inbox _ := rfl
  worker _ := rfl
  name _ := rfl
  verified _ := rfl
  outstanding _ _ h := h
  connected _ h := h

theorem harmless_startingUsername : Harmless fun c => { c with startingUsername := none } where
  id _ := rfl
  serviceName _ := rfl
  workerPid _ := rfl
  job _ := rfl
  workerProxy _ := rfl
  pendingInvocation _ := rfl
  startingInvocation _ := rfl
  startingUsername _ := .inr rfl
  reauthPidOfCaller _ := rfl
  inbox _ := rfl
  worker _ := rfl
  name _ := rfl
  verified _ := rfl
  outstanding _ _ h := h
  connected _ h := h

/-- A harmless change of some of the conversations. -/
theorem Harmless.cases {f : Conversation → Conversation} (h : Harmless f)
    (q : Conversation → Prop) [DecidablePred q] :
    Harmless fun c => if q c then f c else c where
  id c := by split <;> simp [h.id]
  serviceName c := by split <;> simp [h.serviceName]
  workerPid c := by split <;> simp [h.workerPid]
  job c := by split <;> simp [h.job]
  workerProxy c := by split <;> simp [h.workerProxy]
  pendingInvocation c := by split <;> simp [h.pendingInvocation]
  startingInvocation c := by split <;> simp [h.startingInvocation]
  startingUsername c := by
    split
    · exact h.startingUsername c
    · exact .inl rfl
  reauthPidOfCaller c := by split <;> simp [h.reauthPidOfCaller]
  inbox c := by split <;> simp [h.inbox]
  worker c := by split <;> simp [h.worker]
  name c := by split <;> simp [h.name]
  verified c := by split <;> simp [h.verified]
  outstanding c := by
    split
    · exact h.outstanding c
    · exact fun _ h => h
  connected c := by
    split
    · exact h.connected c
    · exact fun h => h

/-- What a step is allowed to do.  It may free conversations with these queries and
invocations pending, select these users, initialize these services for these
users and keep these users to start with, start a worker with this outcome, end
the worker of this conversation, reset the session, open one, and emit these
signals for its end.  The rest are slips: a call before Hello, a reply to no
invocation, a query that is lost or met by an assertion, the loss of the
conversation of the session, and two workers of one process number. -/
structure Permits where
  frees : Option Nat → Option Nat → Prop
  selects : String → Prop
  initializes : Option String → Option String → Prop
  begins : String → Option String → Prop
  spawns : Option Int → Prop
  ends : Nat → Prop
  resets : Prop
  opens : Prop
  marks : SessionSignal → Prop
  callsEarly : Prop
  returnsNull : Prop
  lapses : Prop
  orphans : Prop
  clashes : Prop

/-- The conversation may be freed as it is. -/
def Permits.Frees (p : Permits) (conversation : Conversation) : Prop :=
  p.frees conversation.pendingInvocation conversation.startingInvocation

/-- A step that is allowed everything. -/
def Permits.all : Permits where
  frees _ _ := True
  selects _ := True
  initializes _ _ := True
  begins _ _ := True
  spawns _ := True
  ends _ := True
  resets := True
  opens := True
  marks _ := True
  callsEarly := True
  returnsNull := True
  lapses := True
  orphans := True
  clashes := True

namespace GdmSession

variable {self self' self'' : GdmSession}

/-- A change next to the conversations, or the end of the process. -/
structure Aside (s s' : GdmSession) : Prop where
  verificationMode : s'.verificationMode = s.verificationMode
  owner : s'.owner = s.owner
  conversations : s'.conversations = s.conversations
  nullConversations : s'.nullConversations = s.nullConversations
  sessionConversation : s'.sessionConversation = s.sessionConversation ∨
    s'.sessionConversation = none
  sessionPid : s'.sessionPid = s.sessionPid
  selectedUser : s'.selectedUser = s.selectedUser
  isOpened : s'.isOpened = s.isOpened
  sessionOpened : s'.sessionOpened = s.sessionOpened
  opened : s'.opened = s.opened
  nextConversation : s'.nextConversation = s.nextConversation
  nextQuery : s'.nextQuery = s.nextQuery
  nextInvocation : s'.nextInvocation = s.nextInvocation
  status : s'.status = s.status ∨ s'.status = .crashed ∨ s'.status = .exited
  log : ∃ new, s'.log = s.log ++ new ∧ ∀ effect ∈ new, effect.isMinor = true

/-- What has to be dispatched for a call to be made for the conversation `id`. -/
def Prompted (p : Permits) (self : GdmSession) (id : Nat) : WorkerCall → Prop
  | .Initialize details => p.initializes (detailsService details) (detailsUsername details)
  | .StartProgram => True
  | .StartReauthentication _ _ => False
  | .Authenticate => ∃ user, dispatching self.log = some (id, .success (.Initialize user))
  | .Authorize =>
    ∃ user, dispatching self.log = some (id, .success (.Authenticate user)) ∧
      ∀ c ∈ self.conversations, c.id = id → c.connected = true → c.verified ≠ none
  | .EstablishCredentials => dispatching self.log = some (id, .success .Authorize)
  | .Open =>
    self.verificationMode = .login ∧
      dispatching self.log = some (id, .success .EstablishCredentials)

/-- A conversation for the service can be put into the table. -/
structure MayInsert (p : Permits) (s : GdmSession) (spawn : Option Int)
    (serviceName : String) : Prop where
  spawns : p.spawns spawn
  frees : ∀ c ∈ s.conversations, c.serviceName = serviceName → p.Frees c
  orphans : ∀ c ∈ s.conversations, c.serviceName = serviceName →
    s.sessionConversation = some c.id → p.orphans
  clashes : ∀ c ∈ s.conversations, c.serviceName ≠ serviceName → spawn = some c.workerPid →
    p.clashes

/-- The start of the session of a conversation. -/
def sessionStarts (self : GdmSession) (conversation : Conversation) (pid : Int) : GdmSession :=
  { self with
    sessionPid := pid
    sessionConversation := some conversation.id
    opened := self.opened.filter fun entry => entry.1 ≠ conversation.id }.emit
      (.signal (.sessionStarted conversation.serviceName pid conversation.id))

/-- The moves a step is made of. -/
inductive Move (p : Permits) : GdmSession → GdmSession → Prop
  | aside {s s' : GdmSession} : Aside s s' → Move p s s'
  | adjusts {s : GdmSession} {f : Conversation → Conversation} : Harmless f →
      Move p s { s with conversations := s.conversations.map f }
  | registers {s : GdmSession} {c : Conversation} : c ∈ s.conversations →
      c.workerProxy = false →
      Move p s ((s.emit (.registered c.id)).modifyConversation c.id fun c =>
        { c with workerProxy := true, connected := true })
  | selects {s : GdmSession} {username : String} : p.selects username →
      Move p s (s.selectUser (some username))
  | calls {s : GdmSession} {c : Conversation} {call : WorkerCall} : c ∈ s.conversations →
      Prompted p s c.id call → (c.workerProxy = false → p.callsEarly) →
      Move p s (s.callWorker c call)
  | asks {s : GdmSession} {c : Conversation} (pid : Int) (uid : Nat) : c ∈ s.conversations →
      s.sessionConversation = some c.id →
      Move p s ((s.modifyConversation c.id fun c => { c with reauthPidOfCaller := pid }).callWorker
        c (.StartReauthentication pid uid))
  | inserts {s : GdmSession} {serviceName : String} {pid : Int} :
      serviceName ∉ s.nullConversations → MayInsert p s (some pid) serviceName →
      Move p s (s.inserted serviceName pid)
  | insertsNull {s : GdmSession} {serviceName : String} : MayInsert p s none serviceName →
      Move p s (s.insertedNull serviceName)
  | resets {s : GdmSession} : p.resets → (∀ c ∈ s.conversations, p.Frees c) →
      Move p s s.doReset
  | steals {s : GdmSession} {id : Nat} : p.ends id →
      (∀ c ∈ s.conversations, c.id = id → p.Frees c) → Move p s (s.stealConversation id)
  | concludes {s : GdmSession} {c : Conversation} : p.Frees c →
      Move p s (s.emit (.freed c.id c.pendingInvocation c.startingInvocation))
  | verifies {s : GdmSession} {c : Conversation} {answer : Answer} : c ∈ s.conversations →
      dispatching s.log = some (c.id, .success answer) → answer.Completes →
      Move p s (s.emit (.signal (.verificationComplete c.serviceName)))
  | opens {s : GdmSession} {c : Conversation} {sessionId : String} : p.opens →
      c ∈ s.conversations → dispatching s.log = some (c.id, .success (.Open sessionId)) →
      Move p s (s.emit (.signal (.sessionOpened c.serviceName sessionId)))
  | keepsSessionId {s : GdmSession} (sessionId : String) : p.opens →
      Move p s { s with sessionOpened := some sessionId }
  | setsOpened {s : GdmSession} : p.opens → s.sessionOpened ≠ none →
      Move p s { s with isOpened := true }
  | conflicts {s : GdmSession} : s.isOpened = true →
      Move p s (s.emit (.signal (.stopConflictingSession s.sessionOpened)))
  | starts {s : GdmSession} {c : Conversation} {pid : Int} : c ∈ s.conversations →
      dispatching s.log = some (c.id, .success (.StartProgram pid)) →
      Move p s (s.sessionStarts c pid)
  | marks {s : GdmSession} {signal : SessionSignal} : signal.isEnd = true → p.marks signal →
      Move p s (s.emit (.signal signal))
  | reauthenticates {s : GdmSession} {c : Conversation} {address : String} :
      c ∈ s.conversations →
      dispatching s.log = some (c.id, .success (.StartReauthentication address)) →
      Move p s (s.emit (.signal (.reauthenticationStarted c.reauthPidOfCaller address)))
  | forgetsCaller {s : GdmSession} {c : Conversation} {message : WorkerMessage} :
      c ∈ s.conversations → dispatching s.log = some (c.id, message) →
      message.endsReauthentication = true →
      Move p s (s.modifyConversation c.id fun c => { c with reauthPidOfCaller := 0 })
  | answers {s : GdmSession} {c : Conversation} {call : WorkerCall} {answer : Answer}
      {worker : WorkerView} : c ∈ s.conversations → c.connected = true →
      call ∈ c.outstanding → c.worker.perform call answer = some worker →
      Move p s ((s.emit (.answered c.id call answer)).reply c.id call worker (.success answer))
  | fails {s : GdmSession} {c : Conversation} {call : WorkerCall} (error : WorkerError)
      (state : GdmSessionWorkerState) : c ∈ s.conversations → c.connected = true →
      call ∈ c.outstanding → state = c.worker.state ∨ state = .none →
      Move p s (s.reply c.id call { c.worker with state := state } (.failure call.method error))
  | sends {s : GdmSession} {c : Conversation} {signal : WorkerSignal} {worker : WorkerView} :
      c ∈ s.conversations → c.connected = true → c.worker.send signal = some worker →
      Move p s (s.modifyConversation c.id fun c =>
        { c with worker := worker, inbox := c.inbox ++ [.signal signal] })
  | queryPends {s : GdmSession} {c : Conversation} (serviceName : String) :
      c ∈ s.conversations → c.pendingInvocation = none →
      Move p s ((s.receiveQuery serviceName).modifyConversation c.id fun c =>
        { c with pendingInvocation := some s.nextQuery })
  | queryRefused {s : GdmSession} (serviceName : String) (reply : QueryReply) :
      Move p s ((s.receiveQuery serviceName).completeQuery (some s.nextQuery) reply)
  | queryLost {s : GdmSession} (serviceName : String) : p.lapses →
      Move p s (s.receiveQuery serviceName)
  | queryAborts {s : GdmSession} (serviceName : String) : p.lapses →
      Move p s { s.receiveQuery serviceName with status := .abortedSetPendingQuery }
  | completes {s : GdmSession} {c : Conversation} (reply : QueryReply) : c ∈ s.conversations →
      (c.pendingInvocation = none → p.lapses) →
      Move p s ((s.completeQuery c.pendingInvocation reply).modifyConversation c.id fun c =>
        { c with pendingInvocation := none })
  | returnsCall {s : GdmSession} (error : Option ClientError) :
      Move p s ({ s with nextInvocation := s.nextInvocation + 1 }.emit
        (.returned (some s.nextInvocation) error))
  | losesCall {s : GdmSession} : s.status ≠ .running →
      Move p s { s with nextInvocation := s.nextInvocation + 1 }
  | begins {s : GdmSession} {c : Conversation} {username : Option String} :
      c ∈ s.conversations → c.startingInvocation = none → p.begins c.serviceName username →
      Move p s (({ s with nextInvocation := s.nextInvocation + 1 }.emit
        (.began c.id s.nextInvocation)).modifyConversation c.id fun c =>
          { c with startingInvocation := some s.nextInvocation, startingUsername := username })
  | returnsStarting {s : GdmSession} {c : Conversation} (error : Option ClientError) :
      c ∈ s.conversations → (c.startingInvocation = none → p.returnsNull) →
      Move p s ((s.emit (.returned c.startingInvocation error)).modifyConversation c.id fun c =>
        { c with startingInvocation := none })

/-- Any number of moves. -/
def Moves (p : Permits) : GdmSession → GdmSession → Prop :=
  Relation.ReflTransGen (Move p)

variable {p : Permits}

theorem Moves.refl (self : GdmSession) : Moves p self self :=
  Relation.ReflTransGen.refl

theorem Moves.single (h : Move p self self') : Moves p self self' :=
  Relation.ReflTransGen.single h

theorem Moves.trans (h : Moves p self self') (h' : Moves p self' self'') :
    Moves p self self'' :=
  Relation.ReflTransGen.trans h h'

theorem Moves.tail (h : Moves p self self') (h' : Move p self' self'') : Moves p self self'' :=
  Relation.ReflTransGen.tail h h'

/-- What every move preserves, every sequence of moves preserves. -/
theorem Moves.preserves {P : GdmSession → Prop}
    (hmove : ∀ s s', Move p s s' → P s → P s') (h : Moves p self self') (hP : P self) :
    P self' := by
  induction h with
  | refl => exact hP
  | tail _ hlast ih => exact hmove _ _ hlast ih

/-! ## The table of conversations -/

theorem mem_modifyConversation {id : Nat} {f : Conversation → Conversation} {c' : Conversation} :
    c' ∈ (self.modifyConversation id f).conversations ↔
      ∃ c ∈ self.conversations, c' = if c.id = id then f c else c := by
  simp only [modifyConversation, List.mem_map]
  constructor
  · rintro ⟨c, hc, rfl⟩
    exact ⟨c, hc, rfl⟩
  · rintro ⟨c, hc, rfl⟩
    exact ⟨c, hc, rfl⟩

theorem mem_stealConversation {id : Nat} {c : Conversation} :
    c ∈ (self.stealConversation id).conversations ↔ c ∈ self.conversations ∧ c.id ≠ id := by
  simp [stealConversation]

@[simp] theorem doReset_conversations : self.doReset.conversations = [] := by
  simp [doReset, stopAllConversations, freeConversations, emit]

theorem mem_inserted {serviceName : String} {pid : Int} {c : Conversation} :
    c ∈ (self.inserted serviceName pid).conversations ↔
      c ∈ self.conversations ∧ c.serviceName ≠ serviceName ∨
        c = { id := self.nextConversation, serviceName := serviceName, workerPid := pid } := by
  simp [inserted, freeConversations, spawnWorker, emit]

theorem mem_insertedNull {serviceName : String} {c : Conversation} :
    c ∈ (self.insertedNull serviceName).conversations ↔
      c ∈ self.conversations ∧ c.serviceName ≠ serviceName := by
  simp [insertedNull, freeConversations]

theorem callWorker_of_proxy {c : Conversation} (h : c.workerProxy = true) (call : WorkerCall) :
    self.callWorker c call =
      (self.emit (.called c.id call)).modifyConversation c.id fun c =>
        if c.connected then { c with outstanding := c.outstanding ++ [call] } else c := by
  simp [callWorker, h]

theorem callWorker_of_no_proxy {c : Conversation} (h : c.workerProxy = false)
    (call : WorkerCall) :
    self.callWorker c call = self.emit (.calledNull c.serviceName call) := by
  simp [callWorker, h]

/-- A change in place that a reading of the conversations does not see. -/
theorem modifyConversation_map {β : Type} {key : Conversation → β} {id : Nat}
    {f : Conversation → Conversation} (hf : ∀ c, key (f c) = key c) :
    (self.modifyConversation id f).conversations.map key = self.conversations.map key := by
  simp only [modifyConversation, List.map_map]
  refine List.map_congr_left fun c _ => ?_
  simp only [Function.comp_apply]
  split
  · exact hf c
  · rfl

theorem callWorker_map {β : Type} {key : Conversation → β}
    (hkey : ∀ (c : Conversation) (outstanding : List WorkerCall),
      key { c with outstanding := outstanding } = key c) (c : Conversation) (call : WorkerCall) :
    (self.callWorker c call).conversations.map key = self.conversations.map key := by
  unfold callWorker
  split
  · refine modifyConversation_map fun d => ?_
    split
    · exact hkey d _
    · rfl
  · rfl

/-- A change of a conversation that changes nothing. -/
theorem modifyConversation_eq_self {id : Nat} {f : Conversation → Conversation}
    (h : ∀ c ∈ self.conversations, c.id = id → f c = c) :
    self.modifyConversation id f = self := by
  have hmap : (self.conversations.map fun c => if c.id = id then f c else c) =
      self.conversations := by
    refine (List.map_congr_left ?_).trans (List.map_id _)
    intro c hc
    split
    · rename_i hid
      exact h c hc hid
    · rfl
  simp only [modifyConversation, hmap]

/-! ## What every move does to the history -/

/-- The entries for conversations that are freed. -/
def freedEntries (conversations : List Conversation) : List SessionEffect :=
  conversations.map fun c => .freed c.id c.pendingInvocation c.startingInvocation

theorem inserted_log (serviceName : String) (pid : Int) :
    (self.inserted serviceName pid).log = self.log ++
      .started self.nextConversation serviceName pid ::
        freedEntries (self.conversations.filter fun c => c.serviceName = serviceName) := by
  simp [inserted, freeConversations, spawnWorker, emit, freedEntries]

theorem insertedNull_log (serviceName : String) :
    (self.insertedNull serviceName).log = self.log ++
      freedEntries (self.conversations.filter fun c => c.serviceName = serviceName) := rfl

theorem doReset_log :
    self.doReset.log = self.log ++
      (self.conversations.map (fun c => .killed c.workerPid) ++
        freedEntries self.conversations ++ [.reset]) := by
  simp [doReset, stopAllConversations, freeConversations, emit, freedEntries]

theorem callWorker_log (c : Conversation) (call : WorkerCall) :
    (self.callWorker c call).log = self.log ++
      [if c.workerProxy then .called c.id call else .calledNull c.serviceName call] := by
  unfold callWorker
  split <;> rfl

/-- What a move adds to the history: no message is taken, one that resets the
session leaves no conversation, and a signal of note is all that a move adds. -/
structure Adds (s' : GdmSession) (new : List SessionEffect) (effect : SessionEffect) : Prop where
  dispatches : effect.dispatches = none
  resets : effect = .reset → s'.conversations = []
  alone : ∀ signal, effect = .signal signal → effect.isMinor = true ∨ new = [effect]

theorem adds_of_no_signal {new : List SessionEffect} {effect : SessionEffect}
    (hdispatches : effect.dispatches = none) (hreset : effect ≠ .reset)
    (hsignal : ∀ signal, effect ≠ .signal signal) : Adds self new effect :=
  ⟨hdispatches, fun h => absurd h hreset, fun signal h => absurd h (hsignal signal)⟩

theorem adds_freedEntries (conversations : List Conversation) (new : List SessionEffect) :
    ∀ effect ∈ freedEntries conversations, Adds self new effect := by
  intro effect heffect
  obtain ⟨c, _, rfl⟩ := List.mem_map.mp heffect
  exact adds_of_no_signal rfl SessionEffect.noConfusion fun _ => SessionEffect.noConfusion

/-- A move adds to the history. -/
theorem Move.log (h : Move p self self') :
    ∃ new, self'.log = self.log ++ new ∧ ∀ effect ∈ new, Adds self' new effect := by
  have hone : ∀ effect : SessionEffect, effect.dispatches = none → effect ≠ .reset →
      ∀ x ∈ [effect], Adds self' [effect] x := by
    intro effect heffect hreset x hx
    rw [List.mem_singleton.mp hx]
    exact ⟨heffect, fun h => absurd h hreset, fun _ _ => .inr rfl⟩
  have hnil : ∀ x ∈ ([] : List SessionEffect), Adds self' [] x := by simp
  cases h with
  | aside haside =>
    obtain ⟨new, hlog, hminor⟩ := haside.log
    refine ⟨new, hlog, fun effect heffect => ?_⟩
    have hminor' := hminor effect heffect
    refine ⟨SessionEffect.dispatches_of_isMinor hminor', ?_, fun _ _ => .inl hminor'⟩
    rintro rfl
    cases hminor'
  | calls _ _ _ =>
    refine ⟨_, callWorker_log _ _, hone _ ?_ ?_⟩ <;> split <;> simp [SessionEffect.dispatches]
  | asks _ _ _ _ =>
    refine ⟨_, callWorker_log _ _, hone _ ?_ ?_⟩ <;> split <;> simp [SessionEffect.dispatches]
  | inserts _ _ =>
    refine ⟨_, inserted_log _ _, ?_⟩
    intro effect heffect
    rcases List.mem_cons.mp heffect with rfl | heffect
    · exact adds_of_no_signal rfl SessionEffect.noConfusion fun _ => SessionEffect.noConfusion
    · exact adds_freedEntries _ _ effect heffect
  | insertsNull _ => exact ⟨_, insertedNull_log _, adds_freedEntries _ _⟩
  | resets _ _ =>
    refine ⟨_, doReset_log, ?_⟩
    intro effect heffect
    rcases List.mem_append.mp heffect with heffect | heffect
    · rcases List.mem_append.mp heffect with heffect | heffect
      · obtain ⟨c, _, rfl⟩ := List.mem_map.mp heffect
        exact adds_of_no_signal rfl SessionEffect.noConfusion fun _ => SessionEffect.noConfusion
      · exact adds_freedEntries _ _ effect heffect
    · rw [List.mem_singleton.mp heffect]
      exact ⟨rfl, fun _ => doReset_conversations, fun _ => SessionEffect.noConfusion⟩
  | queryRefused serviceName reply =>
    refine ⟨[.queryReceived self.nextQuery serviceName,
      .queryCompleted (some self.nextQuery) reply], ?_, ?_⟩
    · simp [receiveQuery, completeQuery, emit]
    · intro effect heffect
      simp only [List.mem_cons, List.not_mem_nil, or_false] at heffect
      rcases heffect with rfl | rfl <;>
        exact adds_of_no_signal rfl SessionEffect.noConfusion fun _ => SessionEffect.noConfusion
  | adjusts _ => exact ⟨[], by simp, hnil⟩
  | steals _ _ => exact ⟨[], by simp [stealConversation], hnil⟩
  | keepsSessionId _ _ => exact ⟨[], by simp, hnil⟩
  | setsOpened _ _ => exact ⟨[], by simp, hnil⟩
  | forgetsCaller _ _ _ => exact ⟨[], by simp [modifyConversation], hnil⟩
  | fails _ _ _ _ _ _ => exact ⟨[], by simp [reply, modifyConversation], hnil⟩
  | sends _ _ _ => exact ⟨[], by simp [modifyConversation], hnil⟩
  | losesCall _ => exact ⟨[], by simp, hnil⟩
  | _ => exact ⟨[_], rfl, hone _ rfl SessionEffect.noConfusion⟩

theorem Move.dispatching (h : Move p self self') :
    dispatching self'.log = dispatching self.log := by
  obtain ⟨new, hlog, hnew⟩ := h.log
  rw [hlog]
  exact History.lastSome_append fun effect heffect => (hnew effect heffect).dispatches

theorem Move.delivered (h : Move p self self') {id : Nat} {message : WorkerMessage}
    (hmem : SessionEffect.delivered id message ∈ self'.log) :
    SessionEffect.delivered id message ∈ self.log := by
  obtain ⟨new, hlog, hnew⟩ := h.log
  rw [hlog] at hmem
  rcases List.mem_append.mp hmem with hold | hlate
  · exact hold
  · cases (hnew _ hlate).dispatches

end GdmSession

end Gdm
