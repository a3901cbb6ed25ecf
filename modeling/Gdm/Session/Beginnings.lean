import Gdm.Library.Ledger
import Gdm.Session.Slots

/-!
# The calls that begin a verification

The invocation of BeginVerification is kept in the conversation until its worker
is set up.  It is answered once, as long as no conversation is freed that keeps
one and no set-up fails that no client has asked for.
-/

namespace Gdm

/-- The invocation that an entry says is completed. -/
def SessionEffect.returnedInvocation : SessionEffect → Option Nat
  | returned invocation _ => invocation
  | _ => none

/-- The entries about the invocations of clients. -/
def SessionEffect.isBeginning : SessionEffect → Bool
  | returned _ _ | began _ _ => true
  | _ => false

namespace GdmSession

variable {self self' : GdmSession} {p : Permits}

/-- Who keeps which invocation, and which have been completed. -/
def beginningLedger (s : GdmSession) : Ledger Nat where
  held := Held Conversation.startingInvocation s
  done := s.log.filterMap SessionEffect.returnedInvocation
  due invocation ids := ∃ id, .began id invocation ∈ s.log ∧ ids = {id}
  next := s.nextInvocation

/-- A move that neither keeps nor completes an invocation. -/
theorem beginning_keeps {new : List SessionEffect} (hlog : self'.log = self.log ++ new)
    (hnew : ∀ effect ∈ new, effect.isBeginning = false)
    (hheld : ∀ id t, Held Conversation.startingInvocation self' id t ↔
      Held Conversation.startingInvocation self id t)
    (hnext : self.nextInvocation ≤ self'.nextInvocation) :
    self.beginningLedger.Step self'.beginningLedger := by
  have hnone : new.filterMap SessionEffect.returnedInvocation = [] := by
    refine List.filterMap_eq_nil_iff.mpr fun effect heffect => ?_
    have hother := hnew effect heffect
    cases effect with
    | returned => cases hother
    | _ => rfl
  refine .keeps hheld ?_ ?_ hnext
  · simp [beginningLedger, hlog, hnone]
  · rintro invocation ids ⟨id, hmem, hids⟩
    rw [hlog] at hmem
    rcases List.mem_append.mp hmem with hold | hlate
    · exact ⟨id, hold, hids⟩
    · cases hnew _ hlate

theorem isBeginning_of_isMinor {effect : SessionEffect} (h : effect.isMinor = true) :
    effect.isBeginning = false := by
  cases effect with
  | began
  | returned => cases h
  | _ => rfl

theorem isBeginning_freedEntries (conversations : List Conversation) :
    ∀ effect ∈ freedEntries conversations, effect.isBeginning = false := by
  intro effect heffect
  obtain ⟨c, _, rfl⟩ := List.mem_map.mp heffect
  rfl

/-- A move in which the conversations keep what they have in the slot. -/
theorem beginning_keeps_of_map {new : List SessionEffect} (hlog : self'.log = self.log ++ new)
    (hnew : ∀ effect ∈ new, effect.isBeginning = false)
    (hmap : (self'.conversations.map fun c => (c.id, c.startingInvocation)) =
      self.conversations.map fun c => (c.id, c.startingInvocation))
    (hnext : self'.nextInvocation = self.nextInvocation) :
    self.beginningLedger.Step self'.beginningLedger :=
  beginning_keeps hlog hnew (held_of_map hmap) (Nat.le_of_eq hnext.symm)

/-- Every move is a step of the ledger, unless it frees a conversation that keeps
an invocation or answers none. -/
theorem Move.beginnings (h : Move p self self') (hw : WellFormed self)
    (hfrees : ∀ pending starting, p.frees pending starting → starting = none)
    (hnull : ¬ p.returnsNull) : self.beginningLedger.Step self'.beginningLedger := by
  have hone : ∀ {effect : SessionEffect}, effect.isBeginning = false →
      ∀ x ∈ [effect], x.isBeginning = false := by
    intro effect heffect x hx
    rw [List.mem_singleton.mp hx]
    exact heffect
  have hnil : ∀ x ∈ ([] : List SessionEffect), x.isBeginning = false := by simp
  cases h with
  | aside haside =>
    obtain ⟨new, hlog, hminor⟩ := haside.log
    exact beginning_keeps_of_map hlog (fun e he => isBeginning_of_isMinor (hminor e he))
      (by rw [haside.conversations]) haside.nextInvocation
  | adjusts h =>
    refine beginning_keeps_of_map (List.append_nil _).symm hnil ?_ rfl
    rw [List.map_map]
    refine List.map_congr_left fun c _ => ?_
    simp [h.id, h.startingInvocation]
  | registers _ _ =>
    exact beginning_keeps_of_map rfl (hone rfl) (modifyConversation_map fun _ => rfl) rfl
  | selects _ => exact beginning_keeps_of_map rfl (hone rfl) rfl rfl
  | @calls c call _ _ _ =>
    refine beginning_keeps_of_map (callWorker_log c call) (hone ?_)
      (callWorker_map (fun _ _ => rfl) c call) ?_
    · split <;> rfl
    · unfold callWorker
      split <;> rfl
  | @asks c pid uid _ _ =>
    refine beginning_keeps_of_map (callWorker_log c _) (hone ?_)
      ((callWorker_map (fun _ _ => rfl) c _).trans (modifyConversation_map fun _ => rfl)) ?_
    · split <;> rfl
    · unfold callWorker
      split <;> rfl
  | @inserts serviceName pid _ hinsert =>
    refine beginning_keeps (inserted_log _ _) ?_ (held_inserted ?_ rfl) (Nat.le_refl _)
    · intro effect heffect
      rcases List.mem_cons.mp heffect with rfl | heffect
      · rfl
      · exact isBeginning_freedEntries _ effect heffect
    · intro c hc hname
      exact hfrees _ _ (hinsert.frees c hc hname)
  | @insertsNull serviceName hinsert =>
    refine beginning_keeps (insertedNull_log _) (isBeginning_freedEntries _)
      (held_of_filter rfl ?_) (Nat.le_refl _)
    intro c hc hgone
    exact hfrees _ _ (hinsert.frees c hc (by simpa using hgone))
  | resets _ hall =>
    refine beginning_keeps doReset_log ?_ (held_of_filter (q := fun _ => false) ?_ ?_)
      (Nat.le_refl _)
    · intro effect heffect
      rcases List.mem_append.mp heffect with heffect | heffect
      · rcases List.mem_append.mp heffect with heffect | heffect
        · obtain ⟨c, _, rfl⟩ := List.mem_map.mp heffect
          rfl
        · exact isBeginning_freedEntries _ effect heffect
      · exact hone rfl effect heffect
    · simp
    · intro c hc _
      exact hfrees _ _ (hall c hc)
  | @steals id _ hgone =>
    refine beginning_keeps (List.append_nil _).symm hnil (held_of_filter rfl ?_) (Nat.le_refl _)
    intro c hc hid
    exact hfrees _ _ (hgone c hc (by simpa using hid))
  | concludes _ => exact beginning_keeps_of_map rfl (hone rfl) rfl rfl
  | verifies _ _ _ => exact beginning_keeps_of_map rfl (hone rfl) rfl rfl
  | opens _ _ _ => exact beginning_keeps_of_map rfl (hone rfl) rfl rfl
  | keepsSessionId _ _ => exact beginning_keeps_of_map (List.append_nil _).symm hnil rfl rfl
  | setsOpened _ _ => exact beginning_keeps_of_map (List.append_nil _).symm hnil rfl rfl
  | conflicts _ => exact beginning_keeps_of_map rfl (hone rfl) rfl rfl
  | starts _ _ => exact beginning_keeps_of_map rfl (hone rfl) rfl rfl
  | marks _ _ => exact beginning_keeps_of_map rfl (hone rfl) rfl rfl
  | reauthenticates _ _ => exact beginning_keeps_of_map rfl (hone rfl) rfl rfl
  | forgetsCaller _ _ _ =>
    exact beginning_keeps_of_map (List.append_nil _).symm hnil
      (modifyConversation_map fun _ => rfl) rfl
  | answers _ _ _ _ =>
    exact beginning_keeps_of_map rfl (hone rfl) (modifyConversation_map fun _ => rfl) rfl
  | fails _ _ _ _ _ _ =>
    exact beginning_keeps_of_map (List.append_nil _).symm hnil
      (modifyConversation_map fun _ => rfl) rfl
  | sends _ _ _ =>
    exact beginning_keeps_of_map (List.append_nil _).symm hnil
      (modifyConversation_map fun _ => rfl) rfl
  | queryPends _ _ _ =>
    exact beginning_keeps_of_map rfl (hone rfl) (modifyConversation_map fun _ => rfl) rfl
  | queryRefused serviceName reply =>
    have hlog : ((self.receiveQuery serviceName).completeQuery (some self.nextQuery) reply).log =
        self.log ++ [.queryReceived self.nextQuery serviceName,
          .queryCompleted (some self.nextQuery) reply] := by
      simp [receiveQuery, completeQuery, emit]
    exact beginning_keeps_of_map hlog (by simp [SessionEffect.isBeginning]) rfl rfl
  | queryLost _ _ => exact beginning_keeps_of_map rfl (hone rfl) rfl rfl
  | queryAborts _ _ => exact beginning_keeps_of_map rfl (hone rfl) rfl rfl
  | completes _ _ _ =>
    exact beginning_keeps_of_map rfl (hone rfl) (modifyConversation_map fun _ => rfl) rfl
  | returnsCall error =>
    refine .refuses (held_of_same rfl) ?_ ?_ rfl
    · simp [beginningLedger, emit, SessionEffect.returnedInvocation]
    · rintro invocation ids ⟨id, hmem, hids⟩
      exact .inl ⟨id, by simpa [emit] using hmem, hids⟩
  | losesCall _ =>
    exact beginning_keeps (List.append_nil _).symm hnil (held_of_same rfl) (Nat.le_succ _)
  | @begins c username hc hfree _ =>
    refine .gives c.id ?_ (held_set hw hc rfl (fun _ => rfl) hfree rfl) ?_ ?_ rfl
    · rintro t ⟨d, hd, hid, hslot⟩
      rw [hw.eq_of_id hd hc hid, hfree] at hslot
      cases hslot
    · simp [beginningLedger, emit, modifyConversation, SessionEffect.returnedInvocation]
    · rintro invocation ids ⟨id, hmem, rfl⟩
      have hcases : .began id invocation ∈ self.log ∨
          id = c.id ∧ invocation = self.nextInvocation := by
        simpa [emit, modifyConversation] using hmem
      rcases hcases with hold | ⟨rfl, rfl⟩
      · exact .inl ⟨id, hold, rfl⟩
      · exact .inr ⟨rfl, rfl⟩
  | @returnsStarting c error hc hreturns =>
    cases hstarting : c.startingInvocation with
    | none => exact absurd (hreturns hstarting) hnull
    | some invocation =>
      refine .settles c.id invocation ⟨c, hc, rfl, hstarting⟩
        (held_clear rfl fun _ => rfl) ?_ ?_ rfl
      · simp [beginningLedger, emit, modifyConversation, SessionEffect.returnedInvocation]
      · rintro other ids ⟨id, hmem, hids⟩
        exact ⟨id, by simpa [emit, modifyConversation] using hmem, hids⟩

/-! ## The discipline -/

/-- Each invocation that a conversation has kept has been completed once, or is
kept and has not been completed; no conversation is freed with one, and none is
answered that is not there. -/
structure BeginsAnswered (s : GdmSession) : Prop where
  once : ∀ id invocation, .began id invocation ∈ s.log →
    (s.log.filterMap SessionEffect.returnedInvocation).count invocation = 1 ∨
      (s.log.filterMap SessionEffect.returnedInvocation).count invocation = 0 ∧
        ∃ c ∈ s.conversations, c.id = id ∧ c.startingInvocation = some invocation
  freed : ∀ id pending starting, .freed id pending starting ∈ s.log → starting = none
  notNull : ∀ error, .returned none error ∉ s.log

/-- The invariant behind the discipline. -/
structure BeginInv (s : GdmSession) : Prop where
  ledger : s.beginningLedger.Sound
  freed : ∀ id pending starting, .freed id pending starting ∈ s.log → starting = none
  notNull : ∀ error, .returned none error ∉ s.log

theorem BeginInv.answered (hs : BeginInv self) : BeginsAnswered self where
  once id invocation hbegan := by
    have hdue : self.beginningLedger.due invocation {id} := ⟨id, hbegan, rfl⟩
    rcases hs.ledger.done_or_held hdue with hone | ⟨hnone, k, rfl, hheld⟩
    · exact .inl hone
    · exact .inr ⟨hnone, hheld⟩
  freed := hs.freed
  notNull := hs.notNull

theorem Move.beginInv (h : Move p self self') (hw : WellFormed self) (hs : BeginInv self)
    (hfrees : ∀ pending starting, p.frees pending starting → starting = none)
    (hnull : ¬ p.returnsNull) : BeginInv self' := by
  obtain ⟨new, hlog, hreasons⟩ := h.reasons hw
  refine ⟨(h.beginnings hw hfrees hnull).sound hs.ledger, ?_, ?_⟩
  · intro id pending starting hmem
    rw [hlog] at hmem
    rcases List.mem_append.mp hmem with hold | hnew
    · exact hs.freed id pending starting hold
    · exact hfrees pending starting (hreasons _ hnew)
  · intro error hmem
    rw [hlog] at hmem
    rcases List.mem_append.mp hmem with hold | hnew
    · exact hs.notNull error hold
    · rcases hreasons _ hnew with hnext | ⟨c, _, _, hreturns⟩
      · cases hnext
      · exact hnull (hreturns rfl)

/-- The step frees no conversation that keeps an invocation, and dispatches no
failure of a set-up that no client has asked for. -/
def KeepsBeginnings (s : GdmSession) (event : SessionEvent × Surroundings) : Prop :=
  (∀ c ∈ s.conversations, s.frees event.2 event.1 c = true → c.startingInvocation = none) ∧
    s.returnsNull event.1 = false

instance (s : GdmSession) (event : SessionEvent × Surroundings) :
    Decidable (KeepsBeginnings s event) :=
  inferInstanceAs (Decidable (_ ∧ _))

/-- In every run whose steps keep the invocations that wait, each is answered
once, and none is answered that is not there. -/
theorem run_beginsAnswered {s : GdmSession} (hstart : machine.Start s)
    {events : List (SessionEvent × Surroundings)}
    (h : machine.Meets KeepsBeginnings s events) : BeginsAnswered (machine.run s events) := by
  refine (run_invariant (P := BeginInv) ?_ ?_ ?_ hstart h).2.answered
  · intro s c message rest hw hc hinbox hs
    have hlog : (s.taken c message).log = s.log ++ [.delivered c.id message] := rfl
    refine ⟨?_, ?_, ?_⟩
    · refine (beginning_keeps_of_map hlog ?_ (modifyConversation_map fun _ => rfl) rfl).sound
        hs.ledger
      simp [SessionEffect.isBeginning]
    · intro id pending starting hmem
      exact hs.freed id pending starting (by simpa [hlog] using hmem)
    · intro error hmem
      exact hs.notNull error (by simpa [hlog] using hmem)
  · rintro start event ⟨hfrees, hnull⟩ _ _ s s' hw hmove hs
    refine hmove.beginInv hw hs ?_ ?_
    · rintro pending starting ⟨c, hc, hgone, _, rfl⟩
      exact hfrees c hc hgone
    · intro hreturns
      exact Bool.false_ne_true (hnull.symm.trans hreturns)
  · intro owner hostname device seatId isLocal
    exact ⟨⟨by simp [beginningLedger, new], by simp [beginningLedger, new],
      by simp [beginningLedger, Held, new], by simp [beginningLedger, Held, new],
      by simp [beginningLedger, Held, new], by simp [beginningLedger, new]⟩,
      by simp [new], by simp [new]⟩

theorem passwordLogin_beginsAnswered : BeginsAnswered (machine.run greeterSession passwordLogin) :=
  run_beginsAnswered start_greeterSession (by decide)

/-- A worker that ends before its set-up takes the invocation with it. -/
theorem endedWorker_not_beginsAnswered : ¬ BeginsAnswered (machine.run greeterSession
    [(.clientConnected 700, {}), (.client (.beginVerification "gdm-password"), {}),
      (.workerExited 0 1, {})]) := by
  intro h
  have hnone := h.freed 0 none (some 0) (by decide)
  cases hnone

end GdmSession

end Gdm
