import Gdm.Library.Ledger
import Gdm.Session.Slots

/-!
# The queries of the workers

A query of a worker is kept in its conversation until a client answers it or the
worker takes it back.  Each is completed once, as long as a query and its answer
meet the conversation that they are for, and no conversation is freed that keeps
one.
-/

namespace Gdm

/-- The query that an entry says is completed. -/
def SessionEffect.completedQuery : SessionEffect → Option Nat
  | queryCompleted query _ => query
  | _ => none

/-- The entries about the queries of workers. -/
def SessionEffect.isQuery : SessionEffect → Bool
  | queryReceived _ _ | queryCompleted _ _ => true
  | _ => false

namespace GdmSession

variable {self self' : GdmSession} {p : Permits}

/-- Who keeps which query, and which have been completed. -/
def queryLedger (s : GdmSession) : Ledger Nat where
  held := Held Conversation.pendingInvocation s
  done := s.log.filterMap SessionEffect.completedQuery
  due query ids := (∃ serviceName, .queryReceived query serviceName ∈ s.log) ∧ ids = Set.univ
  next := s.nextQuery

/-- A move that neither keeps nor completes a query. -/
theorem query_keeps {new : List SessionEffect} (hlog : self'.log = self.log ++ new)
    (hnew : ∀ effect ∈ new, effect.isQuery = false)
    (hheld : ∀ id t, Held Conversation.pendingInvocation self' id t ↔
      Held Conversation.pendingInvocation self id t)
    (hnext : self'.nextQuery = self.nextQuery) :
    self.queryLedger.Step self'.queryLedger := by
  have hnone : new.filterMap SessionEffect.completedQuery = [] := by
    refine List.filterMap_eq_nil_iff.mpr fun effect heffect => ?_
    have hother := hnew effect heffect
    cases effect with
    | queryCompleted => cases hother
    | _ => rfl
  refine .keeps hheld ?_ ?_ (Nat.le_of_eq hnext.symm)
  · simp [queryLedger, hlog, hnone]
  · rintro query ids ⟨⟨serviceName, hmem⟩, hids⟩
    rw [hlog] at hmem
    rcases List.mem_append.mp hmem with hold | hlate
    · exact ⟨⟨serviceName, hold⟩, hids⟩
    · cases hnew _ hlate

theorem isQuery_of_isMinor {effect : SessionEffect} (h : effect.isMinor = true) :
    effect.isQuery = false := by
  cases effect with
  | queryReceived
  | queryCompleted => cases h
  | _ => rfl

theorem isQuery_freedEntries (conversations : List Conversation) :
    ∀ effect ∈ freedEntries conversations, effect.isQuery = false := by
  intro effect heffect
  obtain ⟨c, _, rfl⟩ := List.mem_map.mp heffect
  rfl

/-- A move in which the conversations keep what they have in the slot. -/
theorem query_keeps_of_map {new : List SessionEffect} (hlog : self'.log = self.log ++ new)
    (hnew : ∀ effect ∈ new, effect.isQuery = false)
    (hmap : (self'.conversations.map fun c => (c.id, c.pendingInvocation)) =
      self.conversations.map fun c => (c.id, c.pendingInvocation))
    (hnext : self'.nextQuery = self.nextQuery) :
    self.queryLedger.Step self'.queryLedger :=
  query_keeps hlog hnew (held_of_map hmap) hnext

/-- A query that is received and one that is completed at once. -/
theorem due_received {query : Nat} {ids : Set Nat} {log : List SessionEffect}
    (serviceName : String)
    (h : (∃ name, .queryReceived query name ∈ log ++ [.queryReceived self.nextQuery serviceName]) ∧
      ids = Set.univ) :
    ((∃ name, .queryReceived query name ∈ log) ∧ ids = Set.univ) ∨ query = self.nextQuery := by
  obtain ⟨⟨name, hmem⟩, hids⟩ := h
  rcases List.mem_append.mp hmem with hold | hnew
  · exact .inl ⟨⟨name, hold⟩, hids⟩
  · simp only [List.mem_singleton, SessionEffect.queryReceived.injEq] at hnew
    exact .inr hnew.1

/-- Every move is a step of the ledger, unless it frees a conversation that keeps a
query or lapses. -/
theorem Move.queries (h : Move p self self') (hw : WellFormed self)
    (hfrees : ∀ pending starting, p.frees pending starting → pending = none)
    (hlapses : ¬ p.lapses) : self.queryLedger.Step self'.queryLedger := by
  have hone : ∀ {effect : SessionEffect}, effect.isQuery = false →
      ∀ x ∈ [effect], x.isQuery = false := by
    intro effect heffect x hx
    rw [List.mem_singleton.mp hx]
    exact heffect
  have hnil : ∀ x ∈ ([] : List SessionEffect), x.isQuery = false := by simp
  cases h with
  | aside haside =>
    obtain ⟨new, hlog, hminor⟩ := haside.log
    exact query_keeps_of_map hlog (fun e he => isQuery_of_isMinor (hminor e he))
      (by rw [haside.conversations]) haside.nextQuery
  | adjusts h =>
    refine query_keeps_of_map (List.append_nil _).symm hnil ?_ rfl
    rw [List.map_map]
    refine List.map_congr_left fun c _ => ?_
    simp [h.id, h.pendingInvocation]
  | registers _ _ =>
    exact query_keeps_of_map rfl (hone rfl) (modifyConversation_map fun _ => rfl) rfl
  | selects _ => exact query_keeps_of_map rfl (hone rfl) rfl rfl
  | @calls c call _ _ _ =>
    refine query_keeps_of_map (callWorker_log c call) (hone ?_)
      (callWorker_map (fun _ _ => rfl) c call) ?_
    · split <;> rfl
    · unfold callWorker
      split <;> rfl
  | @asks c pid uid _ _ =>
    refine query_keeps_of_map (callWorker_log c _) (hone ?_)
      ((callWorker_map (fun _ _ => rfl) c _).trans (modifyConversation_map fun _ => rfl)) ?_
    · split <;> rfl
    · unfold callWorker
      split <;> rfl
  | @inserts serviceName pid _ hinsert =>
    refine query_keeps (inserted_log _ _) ?_ (held_inserted ?_ rfl) rfl
    · intro effect heffect
      rcases List.mem_cons.mp heffect with rfl | heffect
      · rfl
      · exact isQuery_freedEntries _ effect heffect
    · intro c hc hname
      exact hfrees _ _ (hinsert.frees c hc hname)
  | @insertsNull serviceName hinsert =>
    refine query_keeps (insertedNull_log _) (isQuery_freedEntries _) (held_of_filter rfl ?_) rfl
    intro c hc hgone
    exact hfrees _ _ (hinsert.frees c hc (by simpa using hgone))
  | resets _ hall =>
    refine query_keeps doReset_log ?_ (held_of_filter (q := fun _ => false) ?_ ?_) rfl
    · intro effect heffect
      rcases List.mem_append.mp heffect with heffect | heffect
      · rcases List.mem_append.mp heffect with heffect | heffect
        · obtain ⟨c, _, rfl⟩ := List.mem_map.mp heffect
          rfl
        · exact isQuery_freedEntries _ effect heffect
      · exact hone rfl effect heffect
    · simp
    · intro c hc _
      exact hfrees _ _ (hall c hc)
  | @steals id _ hgone =>
    refine query_keeps (List.append_nil _).symm hnil (held_of_filter rfl ?_) rfl
    intro c hc hid
    exact hfrees _ _ (hgone c hc (by simpa using hid))
  | concludes _ => exact query_keeps_of_map rfl (hone rfl) rfl rfl
  | verifies _ _ _ => exact query_keeps_of_map rfl (hone rfl) rfl rfl
  | opens _ _ _ => exact query_keeps_of_map rfl (hone rfl) rfl rfl
  | keepsSessionId _ _ => exact query_keeps_of_map (List.append_nil _).symm hnil rfl rfl
  | setsOpened _ _ => exact query_keeps_of_map (List.append_nil _).symm hnil rfl rfl
  | conflicts _ => exact query_keeps_of_map rfl (hone rfl) rfl rfl
  | starts _ _ => exact query_keeps_of_map rfl (hone rfl) rfl rfl
  | marks _ _ => exact query_keeps_of_map rfl (hone rfl) rfl rfl
  | reauthenticates _ _ => exact query_keeps_of_map rfl (hone rfl) rfl rfl
  | forgetsCaller _ _ _ =>
    exact query_keeps_of_map (List.append_nil _).symm hnil (modifyConversation_map fun _ => rfl) rfl
  | answers _ _ _ _ =>
    exact query_keeps_of_map rfl (hone rfl) (modifyConversation_map fun _ => rfl) rfl
  | fails _ _ _ _ _ _ =>
    exact query_keeps_of_map (List.append_nil _).symm hnil (modifyConversation_map fun _ => rfl) rfl
  | sends _ _ _ =>
    exact query_keeps_of_map (List.append_nil _).symm hnil (modifyConversation_map fun _ => rfl) rfl
  | @queryPends c serviceName hc hfree =>
    refine .gives c.id ?_ (held_set hw hc rfl (fun _ => rfl) hfree rfl) ?_ ?_ rfl
    · rintro t ⟨d, hd, hid, hslot⟩
      rw [hw.eq_of_id hd hc hid, hfree] at hslot
      cases hslot
    · simp [queryLedger, receiveQuery, emit, modifyConversation, SessionEffect.completedQuery]
    · rintro query ids hdue
      rcases due_received serviceName hdue with hold | hnew
      · exact .inl hold
      · exact .inr ⟨hnew, by simp [hdue.2]⟩
  | queryRefused serviceName reply =>
    refine .refuses (held_of_same rfl) ?_ ?_ rfl
    · simp only [queryLedger, receiveQuery, completeQuery, emit, List.append_assoc,
        List.filterMap_append]
      rfl
    · rintro query ids ⟨⟨name, hmem⟩, hids⟩
      refine due_received serviceName ⟨⟨name, ?_⟩, hids⟩
      simpa [receiveQuery, completeQuery, emit] using hmem
  | queryLost _ hlapse => exact absurd hlapse hlapses
  | queryAborts _ hlapse => exact absurd hlapse hlapses
  | @completes c reply hc hanswers =>
    cases hpending : c.pendingInvocation with
    | none => exact absurd (hanswers hpending) hlapses
    | some query =>
      refine .settles c.id query ⟨c, hc, rfl, hpending⟩ (held_clear rfl fun _ => rfl) ?_ ?_ rfl
      · simp [queryLedger, completeQuery, emit, modifyConversation, SessionEffect.completedQuery]
      · rintro other ids ⟨⟨name, hmem⟩, hids⟩
        exact ⟨⟨name, by simpa [completeQuery, emit, modifyConversation] using hmem⟩, hids⟩
  | returnsCall _ => exact query_keeps_of_map rfl (hone rfl) rfl rfl
  | losesCall _ => exact query_keeps_of_map (List.append_nil _).symm hnil rfl rfl
  | begins _ _ _ =>
    exact query_keeps_of_map rfl (hone rfl) (modifyConversation_map fun _ => rfl) rfl
  | returnsStarting _ _ _ =>
    exact query_keeps_of_map rfl (hone rfl) (modifyConversation_map fun _ => rfl) rfl

/-- Only a query that meets another one aborts the process. -/
theorem Move.status (h : Move p self self') :
    self'.status = self.status ∨ self'.status = .crashed ∨ self'.status = .exited ∨ p.lapses := by
  cases h with
  | aside h =>
    rcases h.status with hsame | hcrashed | hexited
    · exact .inl hsame
    · exact .inr (.inl hcrashed)
    · exact .inr (.inr (.inl hexited))
  | calls _ _ _ =>
    unfold callWorker
    split <;> exact .inl rfl
  | asks _ _ _ _ =>
    unfold callWorker
    split <;> exact .inl rfl
  | queryAborts _ hlapse => exact .inr (.inr (.inr hlapse))
  | _ => exact .inl rfl

/-! ## The accounting -/

/-- Every query that has been received has been completed once, or waits in a
conversation of the table; none is completed that is not there, no conversation
is freed with one, and the assertion that none is pending holds. -/
structure QueriesAccounted (s : GdmSession) : Prop where
  once : ∀ query serviceName, .queryReceived query serviceName ∈ s.log →
    (s.log.filterMap SessionEffect.completedQuery).count query = 1 ∨
      (s.log.filterMap SessionEffect.completedQuery).count query = 0 ∧
        ∃ c ∈ s.conversations, c.pendingInvocation = some query
  freed : ∀ id pending starting, .freed id pending starting ∈ s.log → pending = none
  notNull : ∀ reply, .queryCompleted none reply ∉ s.log
  asserted : s.status ≠ .abortedSetPendingQuery

/-- The invariant behind the accounting. -/
structure QueryInv (s : GdmSession) : Prop where
  ledger : s.queryLedger.Sound
  freed : ∀ id pending starting, .freed id pending starting ∈ s.log → pending = none
  notNull : ∀ reply, .queryCompleted none reply ∉ s.log
  asserted : s.status ≠ .abortedSetPendingQuery

theorem QueryInv.accounted (hs : QueryInv self) : QueriesAccounted self where
  once query serviceName hreceived := by
    have hdue : self.queryLedger.due query Set.univ := ⟨⟨serviceName, hreceived⟩, rfl⟩
    rcases hs.ledger.done_or_held hdue with hone | ⟨hnone, _, _, c, hc, _, hpending⟩
    · exact .inl hone
    · exact .inr ⟨hnone, c, hc, hpending⟩
  freed := hs.freed
  notNull := hs.notNull
  asserted := hs.asserted

theorem Move.queryInv (h : Move p self self') (hw : WellFormed self) (hs : QueryInv self)
    (hfrees : ∀ pending starting, p.frees pending starting → pending = none)
    (hlapses : ¬ p.lapses) : QueryInv self' := by
  obtain ⟨new, hlog, hreasons⟩ := h.reasons hw
  refine ⟨(h.queries hw hfrees hlapses).sound hs.ledger, ?_, ?_, ?_⟩
  · intro id pending starting hmem
    rw [hlog] at hmem
    rcases List.mem_append.mp hmem with hold | hnew
    · exact hs.freed id pending starting hold
    · exact hfrees pending starting (hreasons _ hnew)
  · intro reply hmem
    rw [hlog] at hmem
    rcases List.mem_append.mp hmem with hold | hnew
    · exact hs.notNull reply hold
    · rcases hreasons _ hnew with hnext | ⟨c, _, _, hlapse⟩
      · cases hnext
      · exact hlapses (hlapse rfl)
  · rcases h.status with hsame | hcrashed | hexited | hlapse
    · rw [hsame]
      exact hs.asserted
    · simp [hcrashed]
    · simp [hexited]
    · exact absurd hlapse hlapses

/-- The step frees no conversation that keeps a query, and no query and no answer
misses the conversation that it is for. -/
def KeepsQueries (s : GdmSession) (event : SessionEvent × Surroundings) : Prop :=
  (∀ c ∈ s.conversations, s.frees event.2 event.1 c = true → c.pendingInvocation = none) ∧
    s.lapses event.1 = false

instance (s : GdmSession) (event : SessionEvent × Surroundings) :
    Decidable (KeepsQueries s event) :=
  inferInstanceAs (Decidable (_ ∧ _))

/-- In every run whose steps keep the queries that wait, all queries are accounted
for. -/
theorem run_queriesAccounted {s : GdmSession} (hstart : machine.Start s)
    {events : List (SessionEvent × Surroundings)}
    (h : machine.Meets KeepsQueries s events) : QueriesAccounted (machine.run s events) := by
  refine (run_invariant (P := QueryInv) ?_ ?_ ?_ hstart h).2.accounted
  · intro s c message rest hw hc hinbox hs
    have hlog : (s.taken c message).log = s.log ++ [.delivered c.id message] := rfl
    refine ⟨?_, ?_, ?_, hs.asserted⟩
    · refine (query_keeps_of_map hlog ?_ (modifyConversation_map fun _ => rfl) rfl).sound hs.ledger
      simp [SessionEffect.isQuery]
    · intro id pending starting hmem
      exact hs.freed id pending starting (by simpa [hlog] using hmem)
    · intro reply hmem
      exact hs.notNull reply (by simpa [hlog] using hmem)
  · rintro start event ⟨hfrees, hlapses⟩ _ _ s s' hw hmove hs
    refine hmove.queryInv hw hs ?_ ?_
    · rintro pending starting ⟨c, hc, hgone, rfl, _⟩
      exact hfrees c hc hgone
    · intro hlapse
      exact Bool.false_ne_true (hlapses.symm.trans hlapse)
  · intro owner hostname device seatId isLocal
    exact ⟨⟨by simp [queryLedger, new], by simp [queryLedger, new],
      by simp [queryLedger, Held, new], by simp [queryLedger, Held, new],
      by simp [queryLedger, Held, new], by simp [queryLedger, new]⟩,
      by simp [new], by simp [new], by simp [new]⟩

/-- A login in which the worker asks for the password. -/
theorem passwordQuery_queriesAccounted : QueriesAccounted (machine.run greeterSession
    (passwordLogin.take 5 ++ ([(.query .secretInfo "gdm-password", {}),
      (.client (.answerQuery "gdm-password" "secret"), {})] :
        List (SessionEvent × Surroundings)))) :=
  run_queriesAccounted start_greeterSession (by decide)

/-- An answer that no worker has asked for completes `NULL`. -/
theorem strayAnswer_not_queriesAccounted : ¬ QueriesAccounted (machine.run greeterSession
    (passwordLogin.take 5 ++ ([(.client (.answerQuery "gdm-password" "secret"), {})] :
      List (SessionEvent × Surroundings)))) := by
  intro h
  exact h.notNull (.answer "secret") (by decide)

end GdmSession

end Gdm
