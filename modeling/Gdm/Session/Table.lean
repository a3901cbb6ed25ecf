import Gdm.Session.StepCases

/-!
# The table of conversations

What every move does to the table, and the invariant that a client of the table
relies on: each entry is a conversation with a worker of its own, and the
conversation of the session is in the table.  A worker that cannot be started
breaks it, and so does the replacement of the conversation of the session.
-/

namespace Gdm

/-- What of a conversation never changes. -/
def Conversation.static (c : Conversation) : Nat × String × Int × Bool :=
  (c.id, c.serviceName, c.workerPid, c.job)

namespace GdmSession

variable {self self' : GdmSession} {p : Permits} {around : Surroundings}

/-! ## What a move does to the table -/

theorem callWorker_frame (self : GdmSession) (c : Conversation) (call : WorkerCall) :
    (self.callWorker c call).nullConversations = self.nullConversations ∧
      (self.callWorker c call).sessionConversation = self.sessionConversation := by
  unfold callWorker
  split <;> exact ⟨rfl, rfl⟩

/-- A change that leaves the table as it is; the conversation of the session can
become one of the table, or be forgotten. -/
structure KeepsTable (s s' : GdmSession) : Prop where
  static : s'.conversations.map Conversation.static = s.conversations.map Conversation.static
  nullConversations : s'.nullConversations = s.nullConversations
  session : s'.sessionConversation = s.sessionConversation ∨ s'.sessionConversation = none ∨
    ∃ c ∈ s.conversations, s'.sessionConversation = some c.id

/-- What a move does to the table. -/
inductive TableMove (p : Permits) (s : GdmSession) : GdmSession → Prop
  | keeps {s' : GdmSession} : KeepsTable s s' → TableMove p s s'
  | inserts {serviceName : String} {pid : Int} : MayInsert p s (some pid) serviceName →
      TableMove p s (s.inserted serviceName pid)
  | insertsNull {serviceName : String} : MayInsert p s none serviceName →
      TableMove p s (s.insertedNull serviceName)
  | resets : TableMove p s s.doReset
  | steals {id : Nat} : p.ends id → TableMove p s (s.stealConversation id)

theorem Move.table (h : Move p self self') : TableMove p self self' := by
  have hsame : ∀ {s' : GdmSession}, s'.conversations = self.conversations →
      s'.nullConversations = self.nullConversations →
      s'.sessionConversation = self.sessionConversation → TableMove p self s' := by
    intro s' hconversations hnull hsession
    exact .keeps ⟨by rw [hconversations], hnull, .inl hsession⟩
  cases h with
  | inserts _ hinsert => exact .inserts hinsert
  | insertsNull hinsert => exact .insertsNull hinsert
  | resets _ _ => exact .resets
  | steals hends _ => exact .steals hends
  | aside h =>
    refine .keeps ⟨by rw [h.conversations], h.nullConversations, ?_⟩
    rcases h.sessionConversation with hkept | hnone
    · exact .inl hkept
    · exact .inr (.inl hnone)
  | adjusts h =>
    refine .keeps ⟨?_, rfl, .inl rfl⟩
    rw [List.map_map]
    refine List.map_congr_left fun c _ => ?_
    simp [Conversation.static, h.id, h.serviceName, h.workerPid, h.job]
  | starts hc _ => exact .keeps ⟨rfl, rfl, .inr (.inr ⟨_, hc, rfl⟩)⟩
  | @calls c call _ _ _ =>
    obtain ⟨hnull, hsession⟩ := callWorker_frame self c call
    exact .keeps ⟨callWorker_map (fun _ _ => rfl) c call, hnull, .inl hsession⟩
  | @asks c pid uid _ _ =>
    obtain ⟨s, hdef⟩ : ∃ s, s = self.modifyConversation c.id fun c =>
      { c with reauthPidOfCaller := pid } := ⟨_, rfl⟩
    have hstatic : s.conversations.map Conversation.static =
        self.conversations.map Conversation.static := by
      rw [hdef]
      exact modifyConversation_map fun _ => rfl
    obtain ⟨hnull, hsession⟩ := callWorker_frame s c (.StartReauthentication pid uid)
    rw [← hdef]
    refine .keeps ⟨(callWorker_map (fun _ _ => rfl) c _).trans hstatic, ?_, .inl ?_⟩
    · rw [hnull, hdef]
      rfl
    · rw [hsession, hdef]
      rfl
  | registers _ _ => exact .keeps ⟨modifyConversation_map fun _ => rfl, rfl, .inl rfl⟩
  | forgetsCaller _ _ _ => exact .keeps ⟨modifyConversation_map fun _ => rfl, rfl, .inl rfl⟩
  | answers _ _ _ _ => exact .keeps ⟨modifyConversation_map fun _ => rfl, rfl, .inl rfl⟩
  | fails _ _ _ _ _ _ => exact .keeps ⟨modifyConversation_map fun _ => rfl, rfl, .inl rfl⟩
  | sends _ _ _ => exact .keeps ⟨modifyConversation_map fun _ => rfl, rfl, .inl rfl⟩
  | queryPends _ _ _ => exact .keeps ⟨modifyConversation_map fun _ => rfl, rfl, .inl rfl⟩
  | completes _ _ _ => exact .keeps ⟨modifyConversation_map fun _ => rfl, rfl, .inl rfl⟩
  | begins _ _ _ => exact .keeps ⟨modifyConversation_map fun _ => rfl, rfl, .inl rfl⟩
  | returnsStarting _ _ _ => exact .keeps ⟨modifyConversation_map fun _ => rfl, rfl, .inl rfl⟩
  | _ => exact hsame rfl rfl rfl

/-! ## The invariant -/

/-- Every entry is a conversation with a service name of its own and a worker job,
no two have the same worker process, and the conversation of the session is one
of them. -/
structure TableSound (s : GdmSession) : Prop where
  nonNull : s.nullConversations = []
  names : (s.conversations.map Conversation.serviceName).Nodup
  jobs : ∀ c ∈ s.conversations, c.job = true
  pids : (s.conversations.map Conversation.workerPid).Nodup
  session : ∀ id, s.sessionConversation = some id → ∃ c ∈ s.conversations, c.id = id

/-- The table in the middle of a step, in which the conversation whose worker has
ended can still be the one of the session. -/
structure TableInv (p : Permits) (s : GdmSession) : Prop where
  nonNull : s.nullConversations = []
  jobs : ∀ c ∈ s.conversations, c.job = true
  pids : (s.conversations.map Conversation.workerPid).Nodup
  session : ∀ id, s.sessionConversation = some id →
    (∃ c ∈ s.conversations, c.id = id) ∨ p.ends id

/-- What never changes is told by the list of it. -/
theorem static_of_map_eq (h : self'.conversations.map Conversation.static =
    self.conversations.map Conversation.static) {α : Type} (f : Nat × String × Int × Bool → α) :
    (self'.conversations.map fun c => f c.static) =
      self.conversations.map fun c => f c.static := by
  have hmapped := congrArg (List.map f) h
  simpa only [List.map_map, Function.comp_def] using hmapped

theorem exists_of_map_eq (h : self'.conversations.map Conversation.static =
    self.conversations.map Conversation.static) {c : Conversation}
    (hc : c ∈ self'.conversations) : ∃ d ∈ self.conversations, d.static = c.static := by
  have hmem : c.static ∈ self'.conversations.map Conversation.static := List.mem_map_of_mem hc
  rw [h] at hmem
  exact List.mem_map.mp hmem

theorem TableInv.keeps (hs : TableInv p self) (h : KeepsTable self self') : TableInv p self' where
  nonNull := h.nullConversations.trans hs.nonNull
  jobs c hc := by
    obtain ⟨d, hd, heq⟩ := exists_of_map_eq h.static hc
    have hjob : d.job = c.job := congrArg (fun t => t.2.2.2) heq
    exact hjob ▸ hs.jobs d hd
  pids := by
    have hpids := static_of_map_eq h.static fun t => t.2.2.1
    exact hpids.symm ▸ hs.pids
  session id hid := by
    have hkept : ∀ {c : Conversation}, c ∈ self.conversations →
        ∃ d ∈ self'.conversations, d.id = c.id := by
      intro c hc
      obtain ⟨d, hd, heq⟩ := exists_of_map_eq h.static.symm hc
      exact ⟨d, hd, congrArg Prod.fst heq⟩
    rcases h.session with hsame | hnone | ⟨c, hc, hsome⟩
    · rcases hs.session id (hsame ▸ hid) with ⟨c, hc, rfl⟩ | hends
      · exact .inl (hkept hc)
      · exact .inr hends
    · rw [hnone] at hid
      cases hid
    · rw [hsome, Option.some.injEq] at hid
      subst hid
      exact .inl (hkept hc)

/-- Every move keeps the table sound, unless it starts no worker, one with the
process number of another, or one in the place of the session. -/
theorem Move.tableInv (h : Move p self self') (hs : TableInv p self)
    (hspawns : ¬ p.spawns none) (horphans : ¬ p.orphans) (hclashes : ¬ p.clashes) :
    TableInv p self' := by
  cases h.table with
  | keeps hkeeps => exact hs.keeps hkeeps
  | @inserts serviceName pid hinsert =>
    have hconversations := inserted_conversations self serviceName pid
    refine ⟨hs.nonNull, ?_, ?_, ?_⟩
    · intro c hc
      rcases mem_inserted.mp hc with ⟨hc, _⟩ | rfl
      · exact hs.jobs c hc
      · rfl
    · rw [hconversations, List.map_append, List.map_singleton, ← List.concat_eq_append,
        List.nodup_concat]
      refine ⟨?_, (List.filter_sublist.map _).nodup hs.pids⟩
      intro hmem
      obtain ⟨c, hc, hpid⟩ := List.mem_map.mp hmem
      obtain ⟨hc, hne⟩ := List.mem_filter.mp hc
      exact hclashes (hinsert.clashes c hc (by simpa using hne) (by rw [hpid]))
    · intro id hid
      rcases hs.session id hid with ⟨c, hc, rfl⟩ | hends
      · by_cases hname : c.serviceName = serviceName
        · exact absurd (hinsert.orphans c hc hname hid) horphans
        · exact .inl ⟨c, mem_inserted.mpr (.inl ⟨hc, hname⟩), rfl⟩
      · exact .inr hends
  | insertsNull hinsert => exact absurd hinsert.spawns hspawns
  | resets =>
    refine ⟨rfl, by simp, by simp, ?_⟩
    intro id hid
    simp [doReset, stopAllConversations, freeConversations, GdmSession.emit] at hid
  | @steals ended hends =>
    refine ⟨hs.nonNull, ?_, (List.filter_sublist.map _).nodup hs.pids, ?_⟩
    · intro c hc
      exact hs.jobs c (mem_stealConversation.mp hc).1
    · intro id hid
      rcases hs.session id hid with ⟨c, hc, rfl⟩ | hother
      · by_cases heq : c.id = ended
        · exact .inr (heq ▸ hends)
        · exact .inl ⟨c, mem_stealConversation.mpr ⟨hc, heq⟩, rfl⟩
      · exact .inr hother

/-- When the conversation of an ended worker has been concluded, the session does
not point to it any more. -/
theorem concludeConversation_session (self : GdmSession) (around : Surroundings)
    (conversation : Conversation) :
    (self.concludeConversation around conversation).sessionConversation =
      self.sessionConversation ∨
    (self.concludeConversation around conversation).sessionConversation = none := by
  unfold concludeConversation GdmSession.signal react
  split
  · exact .inl rfl
  · exact .inl rfl
  · simp only [reactLaunchEnvironment]
    split
    · exact .inr rfl
    · exact .inl rfl
  · exact .inl rfl

theorem workerEnds_session {s stolen : GdmSession} (conversation : Conversation) :
    ((if stolen.sessionConversation = some conversation.id then
        { s with sessionConversation := none }
      else stolen).concludeConversation around conversation).sessionConversation ≠
        some conversation.id := by
  split
  · rcases concludeConversation_session { s with sessionConversation := none } around
      conversation with h | h <;> simp [h]
  · rename_i hne
    rcases concludeConversation_session stolen around conversation with h | h
    · rw [h]
      exact hne
    · simp [h]

/-- The end of a worker leaves the session without its conversation, if it has been
in the table. -/
theorem step_session_of_ends (self : GdmSession) (around : Surroundings) {event : SessionEvent}
    {id : Nat} (hends : event.ends = some id) :
    self.step (event, around) = self ∨
      (self.step (event, around)).sessionConversation ≠ some id := by
  unfold step
  split
  · cases event with
    | workerExited ended code =>
      cases hends
      simp only [handleEvent, whenPresent]
      split
      · exact .inl rfl
      · rename_i c hat
        obtain ⟨_, rfl⟩ := mem_of_conversationAt hat
        exact .inr (workerEnds_session c)
    | workerDied ended signum =>
      cases hends
      simp only [handleEvent, whenPresent]
      split
      · exact .inl rfl
      · rename_i c hat
        obtain ⟨_, rfl⟩ := mem_of_conversationAt hat
        exact .inr (workerEnds_session c)
    | _ => cases hends
  · exact .inl rfl

/-- A worker is started when a step starts a conversation, with a process number
of its own, and the conversation of the session is not replaced. -/
def StartsSoundly (s : GdmSession) (event : SessionEvent × Surroundings) : Prop :=
  ((s.restarts event.2 event.1).isSome = true → event.2.spawn ≠ none) ∧
    s.clashes event.2 event.1 = false ∧ s.orphans event.2 event.1 = false

instance (s : GdmSession) (event : SessionEvent × Surroundings) :
    Decidable (StartsSoundly s event) :=
  inferInstanceAs (Decidable (_ ∧ _))

theorem step_tableSound (hw : WellFormed self) (hs : TableSound self)
    {event : SessionEvent × Surroundings} (h : StartsSoundly self event) :
    TableSound (self.step event) := by
  obtain ⟨event, around⟩ := event
  obtain ⟨hspawn, hclashes, horphans⟩ := h
  obtain ⟨s, htakes, hmoves⟩ := step_moves hw event around
  have hinv : TableInv (self.permits around event) s := by
    have hstart : TableInv (self.permits around event) self :=
      ⟨hs.nonNull, hs.jobs, hs.pids, fun id hid => .inl (hs.session id hid)⟩
    cases htakes with
    | nothing => exact hstart
    | message _ _ _ _ =>
      exact hstart.keeps ⟨modifyConversation_map fun _ => rfl, rfl, .inl rfl⟩
  have hafter : TableInv (self.permits around event) (self.step (event, around)) := by
    refine hmoves.preserves (fun _ _ hmove hinv => hmove.tableInv hinv ?_ ?_ ?_) hinv
    · rintro ⟨hnone, hrestarts⟩
      exact hspawn hrestarts hnone.symm
    · intro horphan
      rw [show self.orphans around event = true from horphan] at horphans
      cases horphans
    · intro hclash
      rw [show self.clashes around event = true from hclash] at hclashes
      cases hclashes
  have hnames := (step_wellFormed hw (event, around)).names
  refine ⟨hafter.nonNull, hnames, hafter.jobs, hafter.pids, ?_⟩
  intro id hid
  rcases hafter.session id hid with hmem | hends
  · exact hmem
  · rcases step_session_of_ends self around hends with hsame | hne
    · rw [hsame] at hid ⊢
      exact hs.session id hid
    · exact absurd hid hne

/-- In every run whose steps start workers soundly, the table is sound. -/
theorem run_tableSound {s : GdmSession} (hstart : machine.Start s)
    {events : List (SessionEvent × Surroundings)}
    (h : machine.Meets StartsSoundly s events) : TableSound (machine.run s events) := by
  have hboth : WellFormed (machine.run s events) ∧ TableSound (machine.run s events) := by
    refine h.invariant (fun s => WellFormed s ∧ TableSound s) ?_ ?_
    · rintro s event ⟨hw, hs⟩ hevent
      exact ⟨step_wellFormed hw event, step_tableSound hw hs hevent⟩
    · obtain ⟨owner, hostname, device, seatId, isLocal, rfl⟩ := hstart
      exact ⟨wellFormed_new owner hostname device seatId isLocal,
        ⟨rfl, List.nodup_nil, by simp [new], List.nodup_nil, by simp [new]⟩⟩
  exact hboth.2

theorem passwordLogin_tableSound : TableSound (machine.run greeterSession passwordLogin) :=
  run_tableSound start_greeterSession (by decide)

/-- A worker that cannot be started leaves `NULL` in the table. -/
theorem failedSpawn_not_tableSound : ¬ TableSound (machine.run greeterSession
    [(.clientConnected 700, {}),
      (.client (.beginVerification "gdm-password"), { spawn := none })]) := by
  intro h
  exact absurd h.nonNull (by decide)

end GdmSession

end Gdm
