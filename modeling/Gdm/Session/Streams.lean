import Gdm.Library.Monitor
import Gdm.Session.Images

/-!
# What a worker has said

The messages of a worker reach the callbacks in the order in which they were
sent.  What has been dispatched of them together with what is still in the queue
is all that the worker has said, and the worker follows a protocol in it that its
own states describe.
-/

namespace Gdm

/-- The messages of a conversation that the main loop has dispatched. -/
def deliveredTo (id : Nat) (log : List SessionEffect) : List WorkerMessage :=
  log.filterMap fun effect => effect.dispatches.bind fun entry =>
    if entry.1 = id then some entry.2 else none

theorem deliveredTo_append_of_silent {id : Nat} {log new : List SessionEffect}
    (h : ∀ effect ∈ new, effect.dispatches = none) :
    deliveredTo id (log ++ new) = deliveredTo id log := by
  have hnone : deliveredTo id new = [] := by
    rw [deliveredTo, List.filterMap_eq_nil_iff]
    intro effect heffect
    rw [h effect heffect]
    rfl
  rw [deliveredTo, List.filterMap_append]
  exact (congrArg _ hnone).trans (List.append_nil _)

theorem deliveredTo_concat (id i : Nat) (log : List SessionEffect) (message : WorkerMessage) :
    deliveredTo id (log ++ [.delivered i message]) =
      deliveredTo id log ++ if i = id then [message] else [] := by
  rw [deliveredTo, List.filterMap_append]
  congr 1
  split <;> simp [SessionEffect.dispatches, *]

theorem mem_of_mem_deliveredTo {id : Nat} {log : List SessionEffect} {message : WorkerMessage}
    (h : message ∈ deliveredTo id log) : .delivered id message ∈ log := by
  obtain ⟨effect, heffect, hdispatches⟩ := List.mem_filterMap.mp h
  cases effect with
  | delivered i m =>
    simp only [SessionEffect.dispatches, Option.bind_some] at hdispatches
    split at hdispatches
    · rename_i hid
      rw [← hid, ← Option.some.inj hdispatches]
      exact heffect
    · cases hdispatches
  | _ => cases hdispatches

/-- The message that is dispatched is among those that have been. -/
theorem mem_deliveredTo_of_dispatching {id : Nat} {log : List SessionEffect}
    {message : WorkerMessage} (h : dispatching log = some (id, message)) :
    message ∈ deliveredTo id log := by
  obtain ⟨effect, heffect, hdispatches⟩ := History.exists_mem_of_lastSome h
  exact List.mem_filterMap.mpr ⟨effect, heffect, by simp [hdispatches]⟩

namespace GdmSession

variable {self self' : GdmSession} {p : Permits}

/-- Everything that the worker of a conversation has said. -/
def said (self : GdmSession) (conversation : Conversation) : List WorkerMessage :=
  deliveredTo conversation.id self.log ++ conversation.inbox

theorem taken_log {conversation : Conversation} {message : WorkerMessage} :
    (self.taken conversation message).log = self.log ++ [.delivered conversation.id message] :=
  rfl

theorem id_of_mem_taken {conversation c' : Conversation} {message : WorkerMessage}
    (hc' : c' ∈ (self.taken conversation message).conversations) :
    ∃ c ∈ self.conversations, c'.id = c.id := by
  obtain ⟨c, hc, rfl⟩ := mem_taken.mp hc'
  refine ⟨c, hc, ?_⟩
  split <;> rfl

theorem Move.delivered_log (h : Move p self self') (id : Nat) :
    deliveredTo id self'.log = deliveredTo id self.log := by
  obtain ⟨new, hlog, hnew⟩ := h.log
  rw [hlog, deliveredTo_append_of_silent fun effect heffect => (hnew effect heffect).dispatches]

/-- What a conversation and its worker have said after a move or the dispatch of
a message. -/
inductive Speaks (view view' : WorkerView) (xs ys : List WorkerMessage) : Prop
  | nothing : view' = view → ys = xs → Speaks view view' xs ys
  | answers {call : WorkerCall} {answer : Answer} : view.perform call answer = some view' →
      ys = xs ++ [.success answer] → Speaks view view' xs ys
  | fails {method : WorkerMethod} {error : WorkerError} {state : GdmSessionWorkerState} :
      state = view.state ∨ state = .none → view' = { view with state := state } →
      ys = xs ++ [.failure method error] → Speaks view view' xs ys
  | sends {signal : WorkerSignal} : view.send signal = some view' →
      ys = xs ++ [.signal signal] → Speaks view view' xs ys

/-- Taking a message out of the queue leaves what the worker has said. -/
theorem said_taken (hw : WellFormed self) {conversation : Conversation}
    (hc : conversation ∈ self.conversations) {message : WorkerMessage}
    {rest : List WorkerMessage} (hinbox : conversation.inbox = message :: rest)
    {c' : Conversation} (hc' : c' ∈ (self.taken conversation message).conversations) :
    ∃ c ∈ self.conversations, c'.id = c.id ∧ c'.worker = c.worker ∧
      (self.taken conversation message).said c' = self.said c := by
  obtain ⟨c, hmem, rfl⟩ := mem_taken.mp hc'
  refine ⟨c, hmem, ?_⟩
  by_cases hid : c.id = conversation.id
  · have heq : c = conversation := hw.eq_of_id hmem hc hid
    subst heq
    rw [if_pos rfl]
    refine ⟨rfl, rfl, ?_⟩
    have htake : c.take message = { c with
        inbox := rest
        name := message.announces c.name
        verified := message.verifies c } := by
      rw [Conversation.take, hinbox]
      rfl
    simp only [said, htake, taken_log, deliveredTo_concat, if_true, hinbox, List.append_assoc,
      List.singleton_append]
  · rw [if_neg hid]
    refine ⟨rfl, rfl, ?_⟩
    rw [said, said, taken_log, deliveredTo_concat, if_neg (Ne.symm hid), List.append_nil]

theorem deliveredTo_of_fresh (hw : WellFormed self) :
    deliveredTo self.nextConversation self.log = [] := by
  rw [List.eq_nil_iff_forall_not_mem]
  intro message hmem
  exact Nat.lt_irrefl _ (hw.dispatched _ _ (mem_of_mem_deliveredTo hmem)).1

/-- A worker says at most one thing in a move. -/
theorem Move.speaks (h : Move p self self') (hw : WellFormed self) {c' : Conversation}
    (hc' : c' ∈ self'.conversations) :
    (∃ c ∈ self.conversations, Evolves p self self' c c' ∧
      Speaks c.worker c'.worker (self.said c) (self'.said c')) ∨
      c'.worker = {} ∧ self'.said c' = [] := by
  rcases h.image hw hc' with ⟨c, hc, hevolves⟩ | ⟨_, _, _, hid, rfl⟩
  · refine .inl ⟨c, hc, hevolves, ?_⟩
    have hsaid : self'.said c' = deliveredTo c.id self.log ++ c'.inbox := by
      rw [said, hevolves.id, h.delivered_log]
    rw [hsaid, said]
    cases hevolves with
    | harmless h => exact .nothing (h.worker c) (by rw [h.inbox c])
    | answers _ _ hperform _ => exact .answers hperform (List.append_assoc ..).symm
    | fails _ _ hstate => exact .fails hstate rfl (List.append_assoc ..).symm
    | sends _ hsend => exact .sends hsend (List.append_assoc ..).symm
    | _ => exact .nothing rfl rfl
  · refine .inr ⟨rfl, ?_⟩
    rw [said, h.delivered_log]
    exact (List.append_nil _).trans (deliveredTo_of_fresh hw)

/-! ## Calls and replies -/

theorem method_of_perform {view view' : WorkerView} {call : WorkerCall} {answer : Answer}
    (h : view.perform call answer = some view') : answer.method = call.method := by
  unfold WorkerView.perform at h
  split at h
  case h_8 => cases h
  all_goals rfl

/-- A call under way has been so before, has its prompt, or asks for
reauthentication. -/
theorem Evolves.outstanding {s s' : GdmSession} {c c' : Conversation}
    (h : Evolves p s s' c c') {call : WorkerCall} (hcall : call ∈ c'.outstanding) :
    call ∈ c.outstanding ∨ Prompted p s c.id call ∧ c.connected = true ∨
      call.method = .StartReauthentication := by
  cases h with
  | harmless h => exact .inl (h.outstanding c hcall)
  | called hprompted _ hconnected _ =>
    rcases List.mem_append.mp hcall with hold | hnew
    · exact .inl hold
    · rw [List.mem_singleton.mp hnew]
      exact .inr (.inl ⟨hprompted, hconnected⟩)
  | asked _ _ _ _ =>
    rcases List.mem_append.mp hcall with hold | hnew
    · exact .inl hold
    · rw [List.mem_singleton.mp hnew]
      exact .inr (.inr rfl)
  | answers _ _ _ _ => exact .inl (List.mem_of_mem_erase hcall)
  | fails _ _ _ => exact .inl (List.mem_of_mem_erase hcall)
  | _ => exact .inl hcall

/-- A reply that reports success has been there before, or is to a call that was
under way. -/
theorem Evolves.answered {s s' : GdmSession} {c c' : Conversation} (h : Evolves p s s' c c')
    {answer : Answer} (hanswer : .success answer ∈ deliveredTo c.id s.log ++ c'.inbox) :
    .success answer ∈ s.said c ∨ ∃ call ∈ c.outstanding, answer.method = call.method ∧
      s'.log = s.log ++ [.answered c.id call answer] := by
  have hold : ∀ message : WorkerMessage, message ≠ .success answer →
      .success answer ∈ deliveredTo c.id s.log ++ (c.inbox ++ [message]) →
      .success answer ∈ s.said c := by
    intro message hne hmem
    rw [← List.append_assoc] at hmem
    rcases List.mem_append.mp hmem with hmem | hmem
    · exact hmem
    · exact absurd (List.mem_singleton.mp hmem).symm hne
  cases h with
  | harmless h =>
    rw [h.inbox] at hanswer
    exact .inl hanswer
  | @answers call answer' worker _ hcall hperform hlog =>
    by_cases heq : answer' = answer
    · subst heq
      exact .inr ⟨call, hcall, method_of_perform hperform, hlog⟩
    · exact .inl (hold _ (by simpa using heq) hanswer)
  | fails _ _ _ => exact .inl (hold _ WorkerMessage.noConfusion hanswer)
  | sends _ _ => exact .inl (hold _ WorkerMessage.noConfusion hanswer)
  | _ => exact .inl hanswer

/-! ## Protocols of a worker -/

/-- What a worker says keeps to a protocol, whose states `agrees` relates to its own. -/
structure Follows {σ : Type} (M : Monitor WorkerMessage σ) (agrees : σ → WorkerView → Prop) :
    Prop where
  init : agrees M.init {}
  answers : ∀ t view call answer view', agrees t view → view.perform call answer = some view' →
    ∃ t', M.step t (.success answer) = some t' ∧ agrees t' view'
  fails : ∀ t view method error state, agrees t view → state = view.state ∨ state = .none →
    ∃ t', M.step t (.failure method error) = some t' ∧ agrees t' { view with state := state }
  sends : ∀ t view signal view', agrees t view → view.send signal = some view' →
    ∃ t', M.step t (.signal signal) = some t' ∧ agrees t' view'

section Follows

variable {σ : Type} {M : Monitor WorkerMessage σ} {agrees : σ → WorkerView → Prop}

theorem Speaks.follows (h : Follows M agrees) {view view' : WorkerView} {xs ys : List WorkerMessage}
    (hspeaks : Speaks view view' xs ys) {t : σ} (hread : M.read xs = some t) (ht : agrees t view) :
    ∃ t', M.read ys = some t' ∧ agrees t' view' := by
  have hconcat : ∀ message, M.read (xs ++ [message]) = M.step t message := by
    intro message
    rw [M.read_concat, hread, Option.bind_some]
  cases hspeaks with
  | nothing hview hys => exact ⟨t, hys ▸ hread, hview ▸ ht⟩
  | answers hperform hys =>
    rw [hys, hconcat]
    exact h.answers t view _ _ view' ht hperform
  | fails hstate hview hys =>
    rw [hys, hconcat, hview]
    exact h.fails t view _ _ _ ht hstate
  | sends hsend hys =>
    rw [hys, hconcat]
    exact h.sends t view _ view' ht hsend

/-- Each worker has kept to its protocol. -/
def Keeps (M : Monitor WorkerMessage σ) (agrees : σ → WorkerView → Prop) (s : GdmSession) : Prop :=
  ∀ c ∈ s.conversations, ∃ t, M.read (s.said c) = some t ∧ agrees t c.worker

theorem Keeps.taken (hs : Keeps M agrees self) (hw : WellFormed self) {c : Conversation}
    (hc : c ∈ self.conversations) {message : WorkerMessage} {rest : List WorkerMessage}
    (hinbox : c.inbox = message :: rest) : Keeps M agrees (self.taken c message) := by
  intro d' hd'
  obtain ⟨d, hd, _, hworker, hsaid⟩ := said_taken hw hc hinbox hd'
  rw [hworker, hsaid]
  exact hs d hd

theorem Move.keeps (h : Move p self self') (hfollows : Follows M agrees) (hw : WellFormed self)
    (hs : Keeps M agrees self) : Keeps M agrees self' := by
  intro c' hc'
  rcases h.speaks hw hc' with ⟨c, hc, _, hspeaks⟩ | ⟨hworker, hsaid⟩
  · obtain ⟨t, hread, ht⟩ := hs c hc
    exact hspeaks.follows hfollows hread ht
  · rw [hworker, hsaid]
    exact ⟨M.init, rfl, hfollows.init⟩

/-- In every reachable session each worker has kept to its protocol. -/
theorem run_keeps (h : Follows M agrees) {s : GdmSession} (hstart : machine.Start s)
    (events : List (SessionEvent × Surroundings)) : Keeps M agrees (machine.run s events) := by
  have hmeets : machine.Meets (fun _ _ => True) s events :=
    EventMachine.meets_of_forall fun _ _ _ => trivial
  refine (run_invariant (P := Keeps M agrees) ?_ ?_ ?_ hstart hmeets).2
  · intro s c message rest hw hc hinbox hs
    exact hs.taken hw hc hinbox
  · intro start event _ _ _ s s' hw hmove hs
    exact hmove.keeps h hw hs
  · intro owner hostname device seatId isLocal c hc
    cases hc

/-- What has been dispatched keeps to the protocol, and so does the message that
is dispatched next. -/
theorem Keeps.next {s : GdmSession} (h : Keeps M agrees s) {c : Conversation}
    (hc : c ∈ s.conversations) {message : WorkerMessage} {rest : List WorkerMessage}
    (hinbox : c.inbox = message :: rest) :
    ∃ t t', M.read (deliveredTo c.id s.log) = some t ∧ M.step t message = some t' := by
  obtain ⟨u, hread, _⟩ := h c hc
  obtain ⟨t, hpast, hrest⟩ := M.read_split hread
  rw [hinbox, M.readFrom_cons, Option.bind_eq_some_iff] at hrest
  obtain ⟨t', hstep, _⟩ := hrest
  exact ⟨t, t', hpast, hstep⟩

end Follows

end GdmSession

end Gdm
