import Gdm.Session.Images

/-!
# Calls before Hello

A worker is called after its Hello has come, as long as nobody sets up or starts
the session of a conversation that still waits for it.
-/

namespace Gdm

namespace GdmSession

variable {self self' : GdmSession} {p : Permits}

/-- A worker has said Hello before it is called, and no call goes to a proxy that
is `NULL`. -/
def SaidHello (before : List SessionEffect) : SessionEffect → Prop
  | .called id _ => .registered id ∈ before
  | .calledNull _ _ => False
  | _ => True

/-- Every call has been made after the Hello of its worker. -/
def CallsAfterHello (s : GdmSession) : Prop :=
  History.Justified SaidHello s.log

/-- The proxies are the ones of workers that have said Hello. -/
structure HelloInv (s : GdmSession) : Prop where
  calls : CallsAfterHello s
  registered : ∀ c ∈ s.conversations, c.workerProxy = true → .registered c.id ∈ s.log

theorem Evolves.registered {s s' : GdmSession} {c c' : Conversation} (h : Evolves p s s' c c')
    (hproxy : c'.workerProxy = true) : c.workerProxy = true ∨ .registered c.id ∈ s'.log := by
  cases h with
  | harmless h => exact .inl ((h.workerProxy c).symm.trans hproxy)
  | registers _ hlog => exact .inr (by simp [hlog])
  | _ => exact .inl hproxy

theorem Move.helloInv (h : Move p self self') (hw : WellFormed self) (hs : HelloInv self)
    (hearly : ¬ p.callsEarly) : HelloInv self' := by
  obtain ⟨new, hlog, hreasons⟩ := h.reasons hw
  refine ⟨?_, ?_⟩
  · rw [CallsAfterHello, hlog]
    refine History.justified_append_of hs.calls ?_
    rintro mid effect rest rfl
    have hreason := hreasons effect (by simp)
    cases effect with
    | called id call =>
      obtain ⟨c, hc, rfl, hproxy, _⟩ := hreason
      exact List.mem_append_left _ (hs.registered c hc hproxy)
    | calledNull serviceName call => exact hearly hreason
    | _ => trivial
  · intro c' hc' hproxy
    rcases h.image hw hc' with ⟨c, hc, hevolves⟩ | ⟨_, _, _, _, rfl⟩
    · rw [hevolves.id]
      rcases hevolves.registered hproxy with hold | hnew
      · rw [hlog]
        exact List.mem_append_left _ (hs.registered c hc hold)
      · exact hnew
    · cases hproxy

/-- The step does not call a worker that has not said Hello. -/
def CallsInTime (s : GdmSession) (event : SessionEvent × Surroundings) : Prop :=
  s.callsEarly event.2 event.1 = false

instance (s : GdmSession) (event : SessionEvent × Surroundings) :
    Decidable (CallsInTime s event) :=
  inferInstanceAs (Decidable (_ = _))

/-- In every run without an early call, each call of a worker comes after its
Hello. -/
theorem run_callsAfterHello {s : GdmSession} (hstart : machine.Start s)
    {events : List (SessionEvent × Surroundings)}
    (h : machine.Meets CallsInTime s events) : CallsAfterHello (machine.run s events) := by
  refine (run_invariant (P := HelloInv) ?_ ?_ ?_ hstart h).2.calls
  · intro s c message rest hw hc hinbox hs
    refine ⟨History.justified_concat.mpr ⟨hs.calls, trivial⟩, ?_⟩
    intro d' hd' hproxy
    obtain ⟨d, hd, rfl⟩ := mem_taken.mp hd'
    have hold : .registered d.id ∈ s.log := by
      refine hs.registered d hd ?_
      split at hproxy <;> exact hproxy
    refine List.mem_append_left _ ?_
    split <;> exact hold
  · intro start event hevent _ _ s s' hw hmove hs
    refine hmove.helloInv hw hs ?_
    intro hearly
    exact Bool.false_ne_true ((show start.callsEarly event.2 event.1 = false from hevent).symm.trans
      hearly)
  · intro owner hostname device seatId isLocal
    exact ⟨History.justified_nil, by simp [new]⟩

theorem passwordLogin_callsAfterHello :
    CallsAfterHello (machine.run greeterSession passwordLogin) :=
  run_callsAfterHello start_greeterSession (by decide)

/-- BeginAutoLogin does not wait for the worker of the conversation that it sets
up. -/
theorem earlyAutoLogin_not_callsAfterHello : ¬ CallsAfterHello (machine.run greeterSession
    [(.clientConnected 700, {}), (.client (.beginVerification "gdm-autologin"), {}),
      (.client (.beginAutoLogin "alice"), {})]) := by
  intro h
  obtain ⟨_, hnever⟩ := h.of_mem (x := .calledNull "gdm-autologin" (.Initialize
    [.service "gdm-autologin", .extensions [], .username "alice", .displayIsLocal true]))
    (by decide)
  exact hnever

end GdmSession

end Gdm
