import Gdm.Session.Streams

/-!
# The chain of a verification

Each call of the chain is made when the reply to the one before it is dispatched,
for the conversation that the reply belongs to.  So whoever replies to a call of
the chain has replied to all the calls before, also when conversations are
stopped, replaced under their names or freed with the session in the meantime.
-/

namespace Gdm

/-- The calls whose replies lead to a call of the chain. -/
def WorkerMethod.preceding : WorkerMethod → List WorkerMethod
  | Authenticate => [Initialize]
  | Authorize => [Initialize, Authenticate]
  | EstablishCredentials => [Initialize, Authenticate, Authorize]
  | Open => [Initialize, Authenticate, Authorize, EstablishCredentials]
  | Initialize | StartProgram | StartReauthentication => []

/-- The chain as far as a call. -/
def WorkerMethod.chain (method : WorkerMethod) : List WorkerMethod :=
  method.preceding ++ [method]

/-- The method to whose call the worker of a conversation has replied with success. -/
def SessionEffect.succeeds (id : Nat) : SessionEffect → Option WorkerMethod
  | answered i _ answer => if i = id then some answer.method else none
  | _ => none

/-- What has happened since the session was reset last. -/
def recent (log : List SessionEffect) : List SessionEffect :=
  History.sinceLast (fun effect => effect = .reset) log

/-- The calls to which the worker of a conversation has replied with success since
the session was reset last, in their order. -/
def succeeded (id : Nat) (log : List SessionEffect) : List WorkerMethod :=
  (recent log).filterMap (SessionEffect.succeeds id)

/-- A conversation for the service has been started since the last reset, and its
worker has replied with success to the calls of the chain, one after the other. -/
def OnBehalf (log : List SessionEffect) (serviceName : String) (method : WorkerMethod) : Prop :=
  ∃ id pid, .started id serviceName pid ∈ recent log ∧ method.chain.Sublist (succeeded id log)

/-- The verification of a service is complete, or its session is opened, on behalf
of a conversation whose worker has gone through the chain. -/
def Verified (before : List SessionEffect) : SessionEffect → Prop
  | .signal (.verificationComplete serviceName) => OnBehalf before serviceName .EstablishCredentials
  | .signal (.sessionOpened serviceName _) => OnBehalf before serviceName .Open
  | _ => True

theorem recent_append {log new : List SessionEffect} (h : .reset ∉ new) :
    recent (log ++ new) = recent log ++ new :=
  History.sinceLast_append fun effect heffect => by
    simp only [decide_eq_false_iff_not]
    rintro rfl
    exact h heffect

theorem succeeded_append {id : Nat} {log new : List SessionEffect} (h : .reset ∉ new) :
    succeeded id (log ++ new) = succeeded id log ++ new.filterMap (SessionEffect.succeeds id) := by
  rw [succeeded, recent_append h, List.filterMap_append]
  rfl

namespace GdmSession

variable {self self' : GdmSession} {p : Permits}

/-- What the calls under way and the messages of a worker tell of the chain. -/
structure ChainInv (s : GdmSession) : Prop where
  verified : History.Justified Verified s.log
  started : ∀ c ∈ s.conversations, ∃ pid, .started c.id c.serviceName pid ∈ recent s.log
  outstanding : ∀ c ∈ s.conversations, ∀ call ∈ c.outstanding,
    call.method.preceding.Sublist (succeeded c.id s.log)
  said : ∀ c ∈ s.conversations, ∀ answer, .success answer ∈ s.said c →
    answer.method.chain.Sublist (succeeded c.id s.log)

/-- A call of the chain is made when the reply to the one before is dispatched. -/
theorem Prompted.preceding (hs : ChainInv self) {c : Conversation} (hc : c ∈ self.conversations)
    {call : WorkerCall} (h : Prompted p self c.id call) :
    call.method.preceding.Sublist (succeeded c.id self.log) := by
  have hdispatched : ∀ answer, dispatching self.log = some (c.id, .success answer) →
      answer.method.chain.Sublist (succeeded c.id self.log) := by
    intro answer hdispatching
    refine hs.said c hc answer (List.mem_append_left _ ?_)
    exact mem_deliveredTo_of_dispatching hdispatching
  cases call with
  | Authenticate =>
    obtain ⟨user, hdispatching⟩ := h
    exact hdispatched _ hdispatching
  | Authorize =>
    obtain ⟨user, hdispatching, _⟩ := h
    exact hdispatched _ hdispatching
  | EstablishCredentials => exact hdispatched _ h
  | Open => exact hdispatched _ h.2
  | _ => exact List.nil_sublist _

theorem ChainInv.taken (hw : WellFormed self) (hs : ChainInv self) {conversation : Conversation}
    (hc : conversation ∈ self.conversations) {message : WorkerMessage}
    {rest : List WorkerMessage} (hinbox : conversation.inbox = message :: rest) :
    ChainInv (self.taken conversation message) := by
  have hrecent : recent (self.taken conversation message).log =
      recent self.log ++ [.delivered conversation.id message] := by
    rw [taken_log]
    exact recent_append (by simp)
  have hsucceeded : ∀ id,
      succeeded id (self.taken conversation message).log = succeeded id self.log := by
    intro id
    rw [taken_log, succeeded_append (by simp)]
    exact List.append_nil _
  refine ⟨?_, ?_, ?_, ?_⟩
  · rw [taken_log]
    exact History.justified_concat.mpr ⟨hs.verified, trivial⟩
  · intro c' hc'
    obtain ⟨c, hmem, rfl⟩ := mem_taken.mp hc'
    obtain ⟨pid, hstarted⟩ := hs.started c hmem
    refine ⟨pid, ?_⟩
    rw [hrecent]
    refine List.mem_append_left _ ?_
    split <;> exact hstarted
  · intro c' hc' call hcall
    obtain ⟨c, hmem, rfl⟩ := mem_taken.mp hc'
    rw [hsucceeded]
    have hold : call ∈ c.outstanding := by
      split at hcall <;> exact hcall
    split <;> exact hs.outstanding c hmem call hold
  · intro c' hc' answer hanswer
    obtain ⟨c, hmem, hid, _, hsaid⟩ := said_taken hw hc hinbox hc'
    rw [hsucceeded, hid]
    exact hs.said c hmem answer (hsaid ▸ hanswer)

end GdmSession

end Gdm
