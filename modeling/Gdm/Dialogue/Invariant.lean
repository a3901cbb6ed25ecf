import Gdm.Dialogue.State

/-!
# The two ends of a connection

What the session has on record about a worker, what it has heard and what it waits for
agree with the process at the other end, as long as the connection is open.  The events of
the session keep this: its calls go to the end of those on their way.
-/

namespace Gdm

/-- The invocation that a worker keeps is for the call that it has not replied to. -/
def GdmSessionWorker.Keeps (worker : GdmSessionWorker) (taken : List (Nat × WorkerCall)) : Prop :=
  taken = [] ∧ worker.pendingInvocation = none ∨
    ∃ serial call method, taken = [(serial, call)] ∧ call.method? = some method ∧
      worker.pendingInvocation = some ⟨serial, method⟩

namespace GdmSessionWorker

variable {worker worker' : GdmSessionWorker} {taken : List (Nat × WorkerCall)}

theorem Keeps.same (h : worker.Keeps taken)
    (hpending : worker'.pendingInvocation = worker.pendingInvocation) : worker'.Keeps taken := by
  unfold Keeps
  rw [hpending]
  exact h

/-- The call that the pending invocation is for. -/
theorem Keeps.call {invocation : Invocation} (h : worker.Keeps taken)
    (hpending : worker.pendingInvocation = some invocation) :
    ∃ call, taken = [(invocation.serial, call)] ∧ call.method? = some invocation.method := by
  rcases h with ⟨_, hnone⟩ | ⟨serial, call, method, htaken, hmethod, hsome⟩
  · rw [hnone] at hpending
    cases hpending
  · rw [hsome] at hpending
    cases hpending
    exact ⟨call, htaken, hmethod⟩

end GdmSessionWorker

theorem heardWords_append (xs ys : List WorkerMessage) :
    heardWords (xs ++ ys) = heardWords xs ++ heardWords ys :=
  List.filterMap_append

theorem words_append (log new : List Effect) : words (log ++ new) = words log ++ words new :=
  List.filterMap_append

theorem plainCalls_of_not_called {id : Nat} {new : List SessionEffect}
    (h : ∀ call, .called id call ∉ new) : plainCalls id new = [] := by
  have hnone : calledTo id new = [] := by
    refine List.filterMap_eq_nil_iff.mpr fun effect heffect => ?_
    cases effect with
    | called i call =>
      refine if_neg ?_
      rintro rfl
      exact h call heffect
    | _ => rfl
  rw [plainCalls, hnone]
  rfl

namespace Dialogue

open GdmSession

variable {e : Dialogue} {s s' : GdmSession} {id : Nat} {c : Conversation}

/-- The process waits for the Hello of its worker to be answered: nothing has happened in
it, and nothing is on its way. -/
structure Waits (e : Dialogue) (id : Nat) : Prop where
  log : (e.processes id).worker.log = []
  state : (e.processes id).worker.state = .none
  taken : (e.processes id).taken = []
  heard : (e.processes id).heard = []
  calls : plainCalls id e.session.log = []
  delivered : deliveredTo id e.session.log = []

/-- A process whether or not the session still has its conversation: it takes the calls in
their order, and what has been dispatched of it is the beginning of what it has said. -/
structure InTurn (e : Dialogue) (id : Nat) : Prop where
  gated : (e.processes id).worker.Gated
  keeps : (e.processes id).worker.status = .running →
    (e.processes id).worker.Keeps (e.processes id).taken
  heard : (e.processes id).heard <+: plainCalls id e.session.log
  words : heardWords (deliveredTo id e.session.log) <+: words (e.processes id).worker.log

/-- The two ends of an open connection: what the worker has said has come, the calls that
have not been replied to are those that it has taken or that are on their way, and the
session knows its state. -/
structure Attuned (e : Dialogue) (c : Conversation) : Prop where
  words : heardWords (e.session.said c) = words (e.processes c.id).worker.log
  calls : (c.outstanding.filter fun call => call.method?.isSome) =
    (e.processes c.id).taken.map Prod.snd ++ e.unread c.id
  state : (e.processes c.id).worker.status = .running →
    c.worker.state = (e.processes c.id).worker.state.visible

/-- A conversation and its process. -/
structure Links (e : Dialogue) (c : Conversation) : Prop where
  waits : c.workerProxy = false → e.Waits c.id ∧ c.worker = {}
  words : heardWords (e.session.said c) <+: Gdm.words (e.processes c.id).worker.log
  attuned : e.session.status = .running → c.connected = true → e.Attuned c

/-- What holds of a session and its workers between two events. -/
structure Inv (e : Dialogue) : Prop where
  wellFormed : WellFormed e.session
  inTurn : ∀ id, e.InTurn id
  fresh : ∀ id, e.session.nextConversation ≤ id → e.Waits id
  links : ∀ c ∈ e.session.conversations, e.Links c

theorem inv_new (owner : Owner) (hostname device seatId : Option String) (isLocal : Bool)
    (accounts : Nat → String → Option Account) :
    Inv (new owner hostname device seatId isLocal accounts) where
  wellFormed := wellFormed_new owner hostname device seatId isLocal
  inTurn id := ⟨GdmSessionWorker.gated_new _ _, fun _ => .inl ⟨rfl, rfl⟩, List.nil_prefix,
    List.nil_prefix⟩
  fresh id _ := ⟨rfl, rfl, rfl, rfl, rfl, rfl⟩
  links c hc := by cases hc

/-! ## What the session does on its own -/

/-- The log of the session has grown by entries about its own affairs. -/
structure Grown (e : Dialogue) (s : GdmSession) (new : List SessionEffect) : Prop where
  log : s.log = e.session.log ++ new
  dispatches : ∀ effect ∈ new, effect.dispatches = none

theorem Grown.delivered {new : List SessionEffect} (h : Grown e s new) (id : Nat) :
    deliveredTo id s.log = deliveredTo id e.session.log := by
  rw [h.log, deliveredTo_append_of_silent h.dispatches]

theorem InTurn.grown {new : List SessionEffect} (h : e.InTurn id) (hgrown : Grown e s new) :
    InTurn { e with session := s } id where
  gated := h.gated
  keeps := h.keeps
  heard := by
    have hlog : plainCalls id s.log = plainCalls id e.session.log ++ plainCalls id new := by
      rw [hgrown.log, plainCalls_append]
    show (e.processes id).heard <+: plainCalls id s.log
    rw [hlog]
    exact h.heard.trans (List.prefix_append _ _)
  words := by
    show heardWords (deliveredTo id s.log) <+: _
    rw [hgrown.delivered]
    exact h.words

theorem Waits.grown {new : List SessionEffect} (h : e.Waits id) (hgrown : Grown e s new)
    (hcalls : ∀ call, .called id call ∉ new) : Waits { e with session := s } id where
  log := h.log
  state := h.state
  taken := h.taken
  heard := h.heard
  calls := by
    show plainCalls id s.log = []
    rw [hgrown.log, plainCalls_append, h.calls, plainCalls_of_not_called hcalls]
    rfl
  delivered := (hgrown.delivered id).trans h.delivered

/-- The calls that have been made in between are behind those on their way. -/
theorem InTurn.unread_grown {new : List SessionEffect} (h : e.InTurn id)
    (hgrown : Grown e s new) :
    unread { e with session := s } id = e.unread id ++ plainCalls id new := by
  show (plainCalls id s.log).drop (e.processes id).heard.length = _
  rw [hgrown.log, plainCalls_append, List.drop_append_of_le_length h.heard.length_le]
  rfl

theorem Attuned.tended {new : List SessionEffect} {c' : Conversation} (h : e.Attuned c)
    (hturn : e.InTurn c.id) (hgrown : Grown e s new) (htended : Tended new c c')
    (hconnected : c'.connected = true) : Attuned { e with session := s } c' where
  words := by
    have hsaid : s.said c' = e.session.said c := by
      rw [said, said, htended.id, htended.inbox, hgrown.delivered]
    show heardWords (s.said c') = _
    rw [hsaid, h.words, htended.id]
  calls := by
    rw [htended.outstanding hconnected, List.filter_append, h.calls, htended.id,
      hturn.unread_grown hgrown, List.append_assoc]
    rfl
  state hrunning := by
    rw [htended.id] at hrunning ⊢
    rw [htended.worker]
    exact h.state hrunning

/-- A conversation that the session has tended to. -/
theorem Links.tended {new : List SessionEffect} {c' : Conversation} (h : e.Links c)
    (hturn : e.InTurn c.id) (hgrown : Grown e s new) (htended : Tended new c c')
    (hrunning : s.status = .running → e.session.status = .running)
    (huncalled : c.workerProxy = false → ∀ call, .called c.id call ∉ new) :
    Links { e with session := s } c' where
  waits hproxy := by
    have hproxy' : c.workerProxy = false := htended.workerProxy.symm.trans hproxy
    obtain ⟨hwaits, hworker⟩ := h.waits hproxy'
    refine ⟨?_, htended.worker.trans hworker⟩
    rw [htended.id]
    exact hwaits.grown hgrown (huncalled hproxy')
  words := by
    have hsaid : s.said c' = e.session.said c := by
      rw [said, said, htended.id, htended.inbox, hgrown.delivered]
    show heardWords (s.said c') <+: _
    rw [hsaid, htended.id]
    exact h.words
  attuned hstatus hconnected :=
    (h.attuned (hrunning hstatus) (htended.connected hconnected)).tended hturn hgrown htended
      hconnected

/-- The session goes on without a worker. -/
theorem Inv.tends (h : Inv e) (hrunning : e.session.status = .running)
    (htends : Tends e.session s) (hs : WellFormed s) : Inv { e with session := s } := by
  obtain ⟨hfresh, _, new, hlog, htame, hdescends⟩ := htends
  have hgrown : Grown e s new := ⟨hlog, htame.dispatches⟩
  have huncalled : ∀ id, e.session.nextConversation ≤ id → ∀ call, .called id call ∉ new := by
    intro id hid call hcalled
    obtain ⟨c, hc, rfl, _⟩ := htame.called id call hcalled
    exact absurd (h.wellFormed.fresh c hc) (Nat.not_lt.mpr hid)
  refine ⟨hs, fun id => (h.inTurn id).grown hgrown, ?_, ?_⟩
  · intro id hid
    have hid' := hfresh.trans hid
    exact (h.fresh id hid').grown hgrown (huncalled id hid')
  · intro c' hc'
    rcases hdescends c' hc' with ⟨c, hc, htended⟩ | ⟨hid, huntouched⟩
    · refine (h.links c hc).tended (h.inTurn c.id) hgrown htended (fun _ => hrunning) ?_
      intro hproxy call hcalled
      obtain ⟨d, hd, hid, hregistered⟩ := htame.called c.id call hcalled
      rw [h.wellFormed.eq_of_id hd hc hid, hproxy] at hregistered
      cases hregistered
    · have hwaits := (h.fresh c'.id hid).grown hgrown (huncalled c'.id hid)
      refine ⟨fun _ => ⟨hwaits, huntouched.worker⟩, ?_, ?_⟩
      · have hnothing : s.said c' = [] := by
          rw [said, huntouched.inbox, List.append_nil]
          exact hwaits.delivered
        show heardWords (s.said c') <+: _
        rw [hnothing]
        exact List.nil_prefix
      · intro _ hconnected
        rw [huntouched.connected] at hconnected
        cases hconnected

/-! ## The Hello of a worker -/

theorem Inv.register (h : Inv e) (hc : c ∈ e.session.conversations)
    (hproxy : c.workerProxy = false) : Inv { e with session := e.session.register c } := by
  have hs : WellFormed (e.session.register c) :=
    (Move.registers (p := .all) hc hproxy).wellFormed h.wellFormed
  have hgrown : Grown e (e.session.register c) [.registered c.id] :=
    ⟨rfl, by simp [SessionEffect.dispatches]⟩
  refine ⟨hs, fun id => (h.inTurn id).grown hgrown, ?_, ?_⟩
  · intro id hid
    exact (h.fresh id hid).grown hgrown (by simp)
  · intro c' hc'
    obtain ⟨d, hd, rfl⟩ := mem_modifyConversation.mp hc'
    have hd : d ∈ e.session.conversations := hd
    by_cases hid : d.id = c.id
    · have heq : d = c := h.wellFormed.eq_of_id hd hc hid
      subst heq
      rw [if_pos rfl]
      obtain ⟨hwaits, hworker⟩ := (h.links d hd).waits hproxy
      have hwaits' := hwaits.grown hgrown (by simp)
      obtain ⟨_, houtstanding, hinbox⟩ := (h.wellFormed.sane d hd).hello hproxy
      have hnothing : (e.session.register d).said
          { d with workerProxy := true, connected := true } = [] := by
        rw [said, hinbox, List.append_nil]
        exact hwaits'.delivered
      have hwords : heardWords ((e.session.register d).said
          { d with workerProxy := true, connected := true }) =
            Gdm.words (e.processes d.id).worker.log := by
        rw [hnothing, hwaits.log]
        rfl
      refine ⟨(fun hno => by cases hno), ?_, fun _ _ => ⟨hwords, ?_, ?_⟩⟩
      · exact ⟨[], by rw [List.append_nil]; exact hwords⟩
      · have hunread : unread { e with session := e.session.register d } d.id = [] := by
          show (plainCalls d.id (e.session.register d).log).drop _ = []
          rw [hwaits'.calls]
          exact List.drop_nil
        show d.outstanding.filter _ = (e.processes d.id).taken.map Prod.snd ++ _
        rw [houtstanding, hwaits.taken, hunread]
        rfl
      · intro _
        show d.worker.state = (e.processes d.id).worker.state.visible
        rw [hworker, hwaits.state]
        rfl
    · rw [if_neg hid]
      have htended : Tended [.registered c.id] d d :=
        (Tended.refl d).local (by simp [SessionEffect.isLocal])
      exact (h.links d hd).tended (h.inTurn d.id) hgrown htended (fun hrunning => hrunning)
        (by simp)

/-! ## The dispatch of a message -/

theorem plainCalls_delivered (id : Nat) (log : List SessionEffect) (i : Nat)
    (message : WorkerMessage) :
    plainCalls id (log ++ [.delivered i message]) = plainCalls id log := by
  have hnone : plainCalls id [.delivered i message] = [] :=
    plainCalls_of_not_called fun call => by simp
  rw [plainCalls_append, hnone, List.append_nil]

theorem Inv.taken (h : Inv e) {message : WorkerMessage} {rest : List WorkerMessage}
    (hc : c ∈ e.session.conversations) (hinbox : c.inbox = message :: rest) :
    Inv { e with session := e.session.taken c message } := by
  have hs := h.wellFormed.taken hc hinbox
  have hcalls : ∀ id, plainCalls id (e.session.taken c message).log =
      plainCalls id e.session.log := fun id => by
    rw [taken_log, plainCalls_delivered]
  have hunread : ∀ id, unread { e with session := e.session.taken c message } id =
      e.unread id := by
    intro id
    show (plainCalls id (e.session.taken c message).log).drop _ = _
    rw [hcalls]
    rfl
  have hdelivered : ∀ id, id ≠ c.id →
      deliveredTo id (e.session.taken c message).log = deliveredTo id e.session.log := by
    intro id hid
    rw [taken_log, deliveredTo_concat, if_neg (Ne.symm hid), List.append_nil]
  have hwaits : ∀ id, id ≠ c.id → e.Waits id →
      Waits { e with session := e.session.taken c message } id := fun id hid hw =>
    ⟨hw.log, hw.state, hw.taken, hw.heard, (hcalls id).trans hw.calls,
      (hdelivered id hid).trans hw.delivered⟩
  refine ⟨hs, ?_, ?_, ?_⟩
  · intro id
    have hturn := h.inTurn id
    refine ⟨hturn.gated, hturn.keeps, ?_, ?_⟩
    · show _ <+: plainCalls id (e.session.taken c message).log
      rw [hcalls]
      exact hturn.heard
    · show heardWords (deliveredTo id (e.session.taken c message).log) <+: _
      by_cases hid : id = c.id
      · subst hid
        refine List.IsPrefix.trans ?_ (h.links c hc).words
        rw [said, taken_log, deliveredTo_concat, if_pos rfl, hinbox]
        refine List.IsPrefix.filterMap WorkerMessage.word ?_
        exact (List.prefix_append_right_inj _).mpr ⟨rest, rfl⟩
      · rw [hdelivered id hid]
        exact hturn.words
  · intro id hid
    refine hwaits id ?_ (h.fresh id hid)
    rintro rfl
    exact absurd (h.wellFormed.fresh c hc) (Nat.not_lt.mpr hid)
  · intro c' hc'
    obtain ⟨d, hd, hid, hworker, hsaid⟩ := said_taken h.wellFormed hc hinbox hc'
    obtain ⟨d', hd', hc'eq⟩ := mem_taken.mp hc'
    have hsame : d' = d := by
      refine h.wellFormed.eq_of_id hd' hd ?_
      rw [← hid, hc'eq]
      split <;> rfl
    subst hsame
    have hfields : c'.workerProxy = d'.workerProxy ∧ c'.connected = d'.connected ∧
        c'.outstanding = d'.outstanding := by
      rw [hc'eq]
      split <;> exact ⟨rfl, rfl, rfl⟩
    have hlinks := h.links d' hd
    refine ⟨?_, ?_, ?_⟩
    · intro hno
      have hno' : d'.workerProxy = false := hfields.1.symm.trans hno
      obtain ⟨hwaits', hfirst⟩ := hlinks.waits hno'
      refine ⟨?_, hworker.trans hfirst⟩
      rw [hid]
      refine hwaits d'.id ?_ hwaits'
      intro heq
      have hproxy := (h.wellFormed.sane c hc).proxy_of_inbox hinbox
      rw [h.wellFormed.eq_of_id hd hc heq, hproxy] at hno'
      cases hno'
    · show heardWords ((e.session.taken c message).said c') <+: _
      rw [hsaid, hid]
      exact hlinks.words
    · intro hrunning hconnected
      have hattuned := hlinks.attuned hrunning (hfields.2.1.symm.trans hconnected)
      refine ⟨?_, ?_, ?_⟩
      · show heardWords ((e.session.taken c message).said c') = _
        rw [hsaid, hid]
        exact hattuned.words
      · rw [hfields.2.2, hid, hunread]
        exact hattuned.calls
      · rw [hid, hworker]
        exact hattuned.state

/-- An event of the session. -/
theorem Inv.session (h : Inv e) (around : Surroundings) {event : SessionEvent}
    (hdaemon : event.isOfDaemon = true) :
    Inv { e with session := e.session.step (event, around) } := by
  by_cases hrunning : e.session.status = .running
  · have hs := step_wellFormed h.wellFormed (event, around)
    obtain ⟨s, hbegins, htends⟩ := @step_tends e.session around event hdaemon
    cases hbegins with
    | nothing => exact h.tends hrunning htends hs
    | registers hc hproxy => exact (h.register hc hproxy).tends hrunning htends hs
    | takes hc hinbox => exact (h.taken hc hinbox).tends hrunning htends hs
  · have hsame : e.session.step (event, around) = e.session := if_neg hrunning
    rw [hsame]
    exact h

end Dialogue

end Gdm
