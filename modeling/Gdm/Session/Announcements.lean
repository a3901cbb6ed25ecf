import Gdm.Session.Streams

/-!
# What a session announces

What a session tells its owner about the progress of a login it has been told by the
worker of a conversation: that the verification is complete, that the session is open and
that its program has been started.
-/

namespace Gdm

/-- The message of a worker that an announcement passes on. -/
def Announced (log : List SessionEffect) : SessionEffect → Prop
  | .signal (.verificationComplete serviceName) => ∃ id pid answer,
    .started id serviceName pid ∈ log ∧ .delivered id (.success answer) ∈ log ∧ answer.Completes
  | .signal (.sessionOpened serviceName sessionId) => ∃ id pid,
    .started id serviceName pid ∈ log ∧ .delivered id (.success (.Open sessionId)) ∈ log
  | .signal (.sessionStarted _ pid id) => .delivered id (.success (.StartProgram pid)) ∈ log
  | _ => True

theorem Announced.mono {log log' : List SessionEffect} {effect : SessionEffect}
    (h : Announced log effect) (hlog : log ⊆ log') : Announced log' effect := by
  cases effect with
  | signal signal =>
    cases signal with
    | verificationComplete serviceName =>
      obtain ⟨id, pid, answer, hstarted, hdelivered, hcompletes⟩ := h
      exact ⟨id, pid, answer, hlog hstarted, hlog hdelivered, hcompletes⟩
    | sessionOpened serviceName sessionId =>
      obtain ⟨id, pid, hstarted, hdelivered⟩ := h
      exact ⟨id, pid, hlog hstarted, hlog hdelivered⟩
    | sessionStarted serviceName pid id => exact hlog h
    | _ => trivial
  | _ => trivial

theorem delivered_of_dispatching {log : List SessionEffect} {id : Nat} {message : WorkerMessage}
    (h : dispatching log = some (id, message)) : .delivered id message ∈ log :=
  mem_of_mem_deliveredTo (mem_deliveredTo_of_dispatching h)

namespace GdmSession

variable {self self' : GdmSession} {p : Permits}

/-- Every announcement passes on a message, and every conversation has been started. -/
structure Announces (s : GdmSession) : Prop where
  announced : ∀ effect ∈ s.log, Announced s.log effect
  started : ∀ c ∈ s.conversations, ∃ pid, .started c.id c.serviceName pid ∈ s.log

theorem Reason.announced {effect : SessionEffect} (h : Reason p self effect)
    (hs : Announces self) : Announced self.log effect := by
  cases effect with
  | signal signal =>
    cases signal with
    | verificationComplete serviceName =>
      obtain ⟨c, hc, answer, rfl, hdispatching, hcompletes⟩ := h
      obtain ⟨pid, hstarted⟩ := hs.started c hc
      exact ⟨c.id, pid, answer, hstarted, delivered_of_dispatching hdispatching, hcompletes⟩
    | sessionOpened serviceName sessionId =>
      obtain ⟨_, c, hc, rfl, hdispatching⟩ := h
      obtain ⟨pid, hstarted⟩ := hs.started c hc
      exact ⟨c.id, pid, hstarted, delivered_of_dispatching hdispatching⟩
    | sessionStarted serviceName pid id =>
      obtain ⟨c, _, _, rfl, hdispatching⟩ := h
      exact delivered_of_dispatching hdispatching
    | _ => trivial
  | _ => trivial

theorem Move.keeps_announces (h : Move p self self') (hw : WellFormed self) (hs : Announces self) :
    Announces self' := by
  obtain ⟨new, hlog, hreasons⟩ := h.reasons hw
  have hgrows : self.log ⊆ self'.log := by
    rw [hlog]
    exact List.subset_append_left _ _
  constructor
  · intro effect heffect
    rw [hlog] at heffect
    rcases List.mem_append.mp heffect with hold | hnew
    · exact (hs.announced effect hold).mono hgrows
    · exact ((hreasons effect hnew).announced hs).mono hgrows
  · intro c' hc'
    rcases h.image hw hc' with ⟨c, hc, hevolves⟩ | ⟨serviceName, pid, _, rfl, rfl⟩
    · obtain ⟨pid, hstarted⟩ := hs.started c hc
      rw [hevolves.id, hevolves.serviceName]
      exact ⟨pid, hgrows hstarted⟩
    · refine ⟨pid, ?_⟩
      rw [inserted_log serviceName pid]
      simp

theorem Announces.taken (hs : Announces self) {c : Conversation} {message : WorkerMessage} :
    Announces (self.taken c message) := by
  have hgrows : self.log ⊆ (self.taken c message).log := by
    rw [taken_log]
    exact List.subset_append_left _ _
  constructor
  · intro effect heffect
    rw [taken_log] at heffect
    rcases List.mem_append.mp heffect with hold | hnew
    · exact (hs.announced effect hold).mono hgrows
    · rw [List.mem_singleton.mp hnew]
      trivial
  · intro c' hc'
    obtain ⟨d, hd, rfl⟩ := mem_taken.mp hc'
    obtain ⟨pid, hstarted⟩ := hs.started d hd
    refine ⟨pid, hgrows ?_⟩
    split <;> exact hstarted

theorem run_announces {s : GdmSession} (hstart : machine.Start s)
    (events : List (SessionEvent × Surroundings)) : Announces (machine.run s events) := by
  have hmeets : machine.Meets (fun _ _ => True) s events :=
    EventMachine.meets_of_forall fun _ _ _ => trivial
  refine (run_invariant (P := Announces) ?_ ?_ ?_ hstart hmeets).2
  · intro s c message rest _ _ _ hs
    exact hs.taken
  · intro start event _ _ _ s s' hw hmove hs
    exact hmove.keeps_announces hw hs
  · intro owner hostname device seatId isLocal
    exact ⟨by simp [new], by simp [new]⟩

end GdmSession

end Gdm
