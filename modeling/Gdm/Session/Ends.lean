import Gdm.Session.Reset
import Gdm.Session.Streams

/-!
# The end of a session

That a session has ended is told by the signal of its worker, by the exit of the
worker or by its death, whichever comes first.  The others find the conversation
gone or no longer the one of the session, so that the end is told once.  The
process number stays where it is, and the session goes on to be taken for a
running one unless its owner closes it.
-/

namespace Gdm

/-- The conversation whose session has started, or has ended. -/
def SessionEffect.lives : SessionEffect → Option (Nat × Bool)
  | signal (.sessionStarted _ _ id) => some (id, true)
  | signal (.sessionExited _ id) | signal (.sessionDied _ id) => some (id, false)
  | _ => none

/-- Whether the session of a conversation has started, or has ended, last. -/
def lives (id : Nat) (log : List SessionEffect) : Option Bool :=
  History.lastSome (fun effect => effect.lives.bind fun entry =>
    if entry.1 = id then some entry.2 else none) log

/-- Whether a session has started, or has ended, last. -/
def lastLife (log : List SessionEffect) : Option Bool :=
  History.lastSome (fun effect => effect.lives.map Prod.snd) log

theorem lives_append_of_silent {id : Nat} {log new : List SessionEffect}
    (h : ∀ effect ∈ new, effect.lives = none) : lives id (log ++ new) = lives id log :=
  History.lastSome_append fun effect heffect => by simp [h effect heffect]

theorem lives_concat {id i : Nat} {log : List SessionEffect} {effect : SessionEffect} {b : Bool}
    (h : effect.lives = some (i, b)) :
    lives id (log ++ [effect]) = if i = id then some b else lives id log := by
  unfold lives
  split
  · exact History.lastSome_concat (by simp [*])
  · refine History.lastSome_append ?_
    intro x hx
    rw [List.mem_singleton.mp hx, h]
    simp [*]

/-- A session that lives goes on to live as long as no end is told. -/
theorem lives_append_of_no_end {id : Nat} {log new : List SessionEffect}
    (h : ∀ effect ∈ new, effect.lives ≠ some (id, false)) (hlives : lives id log = some true) :
    lives id (log ++ new) = some true := by
  induction new using List.reverseRecOn with
  | nil => simpa using hlives
  | append_singleton new effect ih =>
    have hrest : lives id (log ++ new) = some true := ih fun x hx => h x (by simp [hx])
    have hlast := h effect (by simp)
    rw [← List.append_assoc]
    cases heffect : effect.lives with
    | none =>
      rw [lives_append_of_silent (by simpa using heffect)]
      exact hrest
    | some entry =>
      obtain ⟨i, b⟩ := entry
      rw [lives_concat heffect]
      split
      · rename_i hid
        cases b with
        | true => rfl
        | false => exact absurd (hid ▸ heffect) hlast
      · exact hrest

/-! ## What the worker says of its session -/

/-- A worker says that its session has exited only after it has started one. -/
def lifeMonitor : Monitor WorkerMessage Bool where
  init := false
  step living
    | .success (.StartProgram _) => some true
    | .signal (.sessionExited _ _) => if living then some false else none
    | _ => some living

theorem follows_lifeMonitor :
    GdmSession.Follows lifeMonitor fun living view =>
      view.state = .sessionStarted → living = true where
  init h := by cases h
  answers := by
    intro t view call answer view' ht hperform
    cases answer with
    | StartProgram pid => exact ⟨true, rfl, fun _ => rfl⟩
    | StartReauthentication address =>
      refine ⟨t, rfl, ?_⟩
      cases call with
      | StartReauthentication pid uid =>
        simp only [WorkerView.perform] at hperform
        split at hperform
        · cases hperform
          exact ht
        · cases hperform
      | _ => cases hperform
    | _ =>
      refine ⟨t, rfl, ?_⟩
      cases call <;> simp only [WorkerView.perform, reduceCtorEq] at hperform
      split at hperform
      · cases hperform
        intro h
        cases h
      · cases hperform
  fails := by
    intro t view method error state ht hstate
    refine ⟨t, rfl, ?_⟩
    intro h
    rcases hstate with rfl | rfl
    · exact ht h
    · cases h
  sends := by
    intro t view signal view' ht hsend
    cases signal with
    | sessionExited serviceName status =>
      simp only [WorkerView.send] at hsend
      split at hsend
      · rename_i hstate
        cases hsend
        exact ⟨false, by simp [lifeMonitor, ht hstate], fun h => by cases h⟩
      · cases hsend
    | reauthenticated serviceName reauthPid user =>
      simp only [WorkerView.send] at hsend
      split at hsend
      · cases hsend
        exact ⟨t, rfl, ht⟩
      · cases hsend
    | _ =>
      cases hsend
      exact ⟨t, rfl, ht⟩

/-- What has been dispatched of a conversation says that its session lives. -/
def ToldAlive (id : Nat) (log : List SessionEffect) : Prop :=
  lifeMonitor.read (deliveredTo id log) = some true

namespace GdmSession

variable {self self' : GdmSession} {p : Permits} {around : Surroundings}

/-! ## The end is told once -/

/-- The end of a session is told after its start, and not twice. -/
def EndsLiving (before : List SessionEffect) (effect : SessionEffect) : Prop :=
  ∀ id, effect.lives = some (id, false) → lives id before = some true

/-- The end of a session is told once after each of its starts, and no session
runs from then on until one is started. -/
structure EndsOnce (s : GdmSession) : Prop where
  once : History.Justified EndsLiving s.log
  stopped : lastLife s.log = some false → s.isRunning = false

/-- Whoever could tell the end of a session finds it alive. -/
structure EndsInv (s : GdmSession) : Prop where
  once : History.Justified EndsLiving s.log
  told : ∀ c ∈ s.conversations, ToldAlive c.id s.log → lives c.id s.log = some true
  attached : ∀ c ∈ s.conversations, s.sessionConversation = some c.id →
    lives c.id s.log = some true

/-- The conversation of the session stays, goes, or has just started it. -/
theorem Move.attaches (h : Move p self self') {id : Nat}
    (hid : self'.sessionConversation = some id) :
    self.sessionConversation = some id ∨
      ∃ serviceName pid,
        self'.log = self.log ++ [.signal (.sessionStarted serviceName pid id)] := by
  cases h with
  | aside h =>
    rcases h.sessionConversation with hsame | hnone
    · exact .inl (hsame ▸ hid)
    · rw [hnone] at hid
      cases hid
  | calls _ _ _ =>
    unfold callWorker at hid
    split at hid <;> exact .inl hid
  | asks _ _ _ _ =>
    unfold callWorker at hid
    split at hid <;> exact .inl hid
  | resets _ _ => cases hid
  | @starts c pid _ _ =>
    cases hid
    exact .inr ⟨c.serviceName, pid, rfl⟩
  | _ => exact .inl hid

/-- A step that is not to tell the end of a session does not. -/
theorem Reason.no_end {effect : SessionEffect} (h : Reason p self effect)
    (hmarks : ∀ signal, ¬ p.marks signal) (id : Nat) : effect.lives ≠ some (id, false) := by
  intro hlives
  cases effect with
  | signal signal =>
    cases signal with
    | sessionExited code i => exact hmarks _ h
    | sessionDied signum i => exact hmarks _ h
    | _ => cases hlives
  | _ => cases hlives

theorem Move.endsInv (h : Move p self self') (hw : WellFormed self)
    (hmarks : ∀ signal, ¬ p.marks signal) (hs : EndsInv self) : EndsInv self' := by
  obtain ⟨new, hlog, hreasons⟩ := h.reasons hw
  have hnoend : ∀ id, ∀ effect ∈ new, effect.lives ≠ some (id, false) := fun id effect heffect =>
    (hreasons effect heffect).no_end hmarks id
  have hlives : ∀ id, lives id self.log = some true → lives id self'.log = some true := by
    intro id hold
    rw [hlog]
    exact lives_append_of_no_end (hnoend id) hold
  refine ⟨?_, ?_, ?_⟩
  · rw [hlog]
    refine History.justified_append hs.once ?_
    intro effect heffect before id hend
    exact absurd hend (hnoend id effect heffect)
  · intro c' hc' htold
    rw [ToldAlive, h.delivered_log] at htold
    rcases h.image hw hc' with ⟨c, hc, hevolves⟩ | ⟨_, _, _, _, rfl⟩
    · rw [hevolves.id] at htold ⊢
      exact hlives c.id (hs.told c hc htold)
    · rw [show deliveredTo self.nextConversation self.log = [] from
        deliveredTo_of_fresh hw] at htold
      cases htold
  · intro c' hc' hid
    rcases h.attaches hid with hold | ⟨serviceName, pid, hstart⟩
    · rcases h.image hw hc' with ⟨c, hc, hevolves⟩ | ⟨_, _, _, _, rfl⟩
      · rw [hevolves.id] at hold ⊢
        exact hlives c.id (hs.attached c hc hold)
      · exact absurd (hw.attached _ hold) (Nat.lt_irrefl _)
    · rw [hstart, lives_concat rfl, if_pos rfl]

theorem Moves.endsInv (h : Moves p self self') (hw : WellFormed self)
    (hmarks : ∀ signal, ¬ p.marks signal) (hs : EndsInv self) : EndsInv self' :=
  (h.preserves (P := fun s => WellFormed s ∧ EndsInv s)
    (fun _ _ hmove hboth => ⟨hmove.wellFormed hboth.1, hmove.endsInv hboth.1 hmarks hboth.2⟩)
    ⟨hw, hs⟩).2

/-! ## The steps -/

/-- Of what a worker can say only the start of its session makes it live. -/
theorem not_toldAlive_of_step {living : Bool} {message : WorkerMessage}
    (hstart : ∀ pid, message ≠ .success (.StartProgram pid))
    (h : lifeMonitor.step living message = some true) : living = true := by
  cases message with
  | success answer =>
    cases answer with
    | StartProgram pid => exact absurd rfl (hstart pid)
    | _ => exact Option.some.inj h
  | failure method error => exact Option.some.inj h
  | signal signal =>
    cases signal with
    | sessionExited serviceName status =>
      cases living with
      | true => rfl
      | false => cases h
    | _ => exact Option.some.inj h

theorem toldAlive_of_concat {id i : Nat} {log : List SessionEffect} {message : WorkerMessage}
    (hstart : ∀ pid, message ≠ .success (.StartProgram pid))
    (h : ToldAlive id (log ++ [.delivered i message])) : ToldAlive id log := by
  rw [ToldAlive, deliveredTo_concat] at h
  split at h
  · rw [lifeMonitor.read_concat, Option.bind_eq_some_iff] at h
    obtain ⟨living, hread, hstep⟩ := h
    rw [ToldAlive, hread, not_toldAlive_of_step hstart hstep]
  · rwa [List.append_nil] at h

theorem lives_delivered {id i : Nat} {log : List SessionEffect} {message : WorkerMessage} :
    lives id (log ++ [.delivered i message]) = lives id log :=
  lives_append_of_silent (by simp [SessionEffect.lives])

theorem EndsInv.taken (hs : EndsInv self) {conversation : Conversation} {message : WorkerMessage}
    (hstart : ∀ pid, message ≠ .success (.StartProgram pid)) :
    EndsInv (self.taken conversation message) := by
  refine ⟨?_, ?_, ?_⟩
  · rw [taken_log]
    exact History.justified_concat.mpr ⟨hs.once, fun _ h => by cases h⟩
  · intro c' hc' htold
    obtain ⟨c, hc, hid⟩ := id_of_mem_taken hc'
    rw [taken_log] at htold ⊢
    rw [lives_delivered, hid]
    exact hs.told c hc (hid ▸ toldAlive_of_concat hstart htold)
  · intro c' hc' hsession
    obtain ⟨c, hc, hid⟩ := id_of_mem_taken hc'
    rw [taken_log, lives_delivered, hid]
    exact hs.attached c hc (hid ▸ hsession)

/-- The dispatch of the reply to StartProgram starts the session at once. -/
theorem EndsInv.started (hs : EndsInv self) (conversation : Conversation) (pid : Int) :
    EndsInv ((self.taken conversation (.success (.StartProgram pid))).sessionStarts
      (conversation.take (.success (.StartProgram pid))) pid) := by
  have hlog : ((self.taken conversation (.success (.StartProgram pid))).sessionStarts
      (conversation.take (.success (.StartProgram pid))) pid).log =
        self.log ++ [.delivered conversation.id (.success (.StartProgram pid))] ++
          [.signal (.sessionStarted conversation.serviceName pid conversation.id)] := rfl
  have hlives : ∀ id, id = conversation.id ∨ lives id self.log = some true →
      lives id (self.log ++ [.delivered conversation.id (.success (.StartProgram pid))] ++
        [.signal (.sessionStarted conversation.serviceName pid conversation.id)]) = some true := by
    intro id hid
    rw [lives_concat rfl, lives_delivered]
    split
    · rfl
    · rename_i hne
      exact hid.resolve_left (Ne.symm hne)
  refine ⟨?_, ?_, ?_⟩
  · rw [hlog]
    refine History.justified_concat.mpr ⟨History.justified_concat.mpr ⟨hs.once, ?_⟩, ?_⟩
    · intro id h
      cases h
    · intro id h
      cases h
  · intro c' hc' htold
    obtain ⟨c, hc, hid⟩ := id_of_mem_taken hc'
    rw [hlog, ToldAlive, deliveredTo_append_of_silent (by simp [SessionEffect.dispatches]),
      deliveredTo_concat, hid] at htold
    rw [hlog, hid]
    by_cases hown : conversation.id = c.id
    · exact hlives _ (.inl hown.symm)
    · rw [if_neg hown, List.append_nil] at htold
      exact hlives _ (.inr (hs.told c hc htold))
  · intro c' hc' hid
    rw [hlog]
    exact hlives _ (.inl (Option.some.inj hid).symm)

/-- The end of a session that lives is told, and nobody is left who could tell it
again. -/
theorem EndsInv.ended (hs : EndsInv self) {signal : SessionSignal} {id : Nat}
    (hend : (SessionEffect.signal signal).lives = some (id, false))
    (halive : lives id self.log = some true)
    (htold : ∀ c ∈ self.conversations, c.id = id → ¬ ToldAlive id self.log)
    (hattached : ∀ c ∈ self.conversations, c.id = id → self.sessionConversation ≠ some id) :
    EndsInv (self.emit (.signal signal)) := by
  have hlog : (self.emit (.signal signal)).log = self.log ++ [.signal signal] := rfl
  refine ⟨?_, ?_, ?_⟩
  · rw [hlog]
    refine History.justified_concat.mpr ⟨hs.once, ?_⟩
    intro i hi
    rw [hend] at hi
    cases hi
    exact halive
  · intro c hc htold'
    rw [hlog, ToldAlive, deliveredTo_append_of_silent (by simp [SessionEffect.dispatches])]
      at htold'
    rw [hlog, lives_concat hend, if_neg]
    · exact hs.told c hc htold'
    · intro hid
      exact htold c hc hid.symm (hid ▸ htold')
  · intro c hc hid
    rw [hlog, lives_concat hend, if_neg]
    · exact hs.attached c hc hid
    · intro heq
      exact hattached c hc heq.symm (heq ▸ hid)

/-- A step that may do everything but tell the end of a session. -/
def Permits.noEnd : Permits :=
  { Permits.all with marks := fun _ => False }

theorem mayReact_noEnd (signal : SessionSignal) :
    MayReact Permits.noEnd self around signal where
  closes _ := ⟨trivial, fun _ _ => trivial⟩
  logsIn _ _ _ _ := ⟨trivial, trivial, fun _ _ _ _ => trivial⟩
  launches _ _ _ := ⟨trivial, fun _ _ _ _ => trivial⟩
  restarts _ _ _ _ := ⟨trivial, fun _ _ _ => trivial, fun _ _ _ _ => trivial,
    fun _ _ _ _ => trivial⟩
  startsSession _ _ _ _ _ _ _ := trivial

/-- What the two ends of a worker have in common. -/
theorem ending_workerEnds (hw : WellFormed self) (hs : EndsInv self) {conversation : Conversation}
    (hc : conversation ∈ self.conversations)
    (hsession : self.sessionConversation = some conversation.id) (signal : SessionSignal)
    (hsignal : signal.isEnd = true)
    (hend : (SessionEffect.signal signal).lives = some (conversation.id, false))
    {s : GdmSession} (hmoves : Moves Permits.noEnd (self.stealConversation conversation.id) s)
    (hsame : s.conversations = (self.stealConversation conversation.id).conversations)
    (hlives : lives conversation.id s.log = lives conversation.id self.log) :
    WellFormed s ∧ EndsInv (s.emit (.signal signal)) ∧
      Moves Permits.noEnd (s.emit (.signal signal))
        (({ s.signal around signal with sessionConversation := none } :
          GdmSession).concludeConversation around conversation) := by
  have hsteals : Moves Permits.noEnd self (self.stealConversation conversation.id) :=
    .single (.steals trivial fun _ _ _ => trivial)
  have hw' : WellFormed s := hmoves.wellFormed (hsteals.wellFormed hw)
  have hinv : EndsInv s := (hsteals.trans hmoves).endsInv hw (fun _ h => h) hs
  have hgone : ∀ c ∈ s.conversations, c.id ≠ conversation.id := by
    intro c hmem
    rw [hsame] at hmem
    exact (mem_stealConversation.mp hmem).2
  have hemitted : WellFormed (s.emit (.signal signal)) := by
    have hmove : Move Permits.all s (s.emit (.signal signal)) := .marks hsignal trivial
    exact hmove.wellFormed hw'
  refine ⟨hw', hinv.ended hend ?_ (fun c hmem hid => absurd hid (hgone c hmem))
    (fun c hmem hid => absurd hid (hgone c hmem)), ?_⟩
  · rw [hlives]
    exact hs.attached conversation hc hsession
  · have hreact : Moves Permits.noEnd (s.emit (.signal signal)) (s.signal around signal) :=
      moves_react hemitted (mayReact_noEnd signal)
    have hcleared : Moves Permits.noEnd (s.emit (.signal signal))
        { s.signal around signal with sessionConversation := none } :=
      hreact.tail (.aside ⟨rfl, rfl, rfl, rfl, .inr rfl, rfl, rfl, rfl, rfl, rfl, rfl, rfl, rfl,
        .inl rfl, [], by simp, by simp⟩)
    exact hcleared.trans (moves_concludeConversation (hcleared.wellFormed hemitted) trivial
      fun _ => ⟨trivial, fun _ _ => trivial⟩)

theorem ending_sessionExited (hw : WellFormed self) (hkeeps : Keeps lifeMonitor
      (fun living view => view.state = .sessionStarted → living = true) self)
    (hs : EndsInv self) {conversation : Conversation} (hc : conversation ∈ self.conversations)
    {serviceName : String} {status : ExitStatus} {rest : List WorkerMessage}
    (hinbox : conversation.inbox = .signal (.sessionExited serviceName status) :: rest)
    (hsignal : (status.signal conversation.id).isEnd = true)
    (hend : (SessionEffect.signal (status.signal conversation.id)).lives =
      some (conversation.id, false))
    {s : GdmSession} (heq : s = { self.taken conversation
      (.signal (.sessionExited serviceName status)) with sessionConversation := none }) :
    WellFormed s ∧ EndsInv (s.emit (.signal (status.signal conversation.id))) ∧
      Moves Permits.noEnd (s.emit (.signal (status.signal conversation.id)))
        (s.signal around (status.signal conversation.id)) := by
  obtain ⟨living, living', hread, hstep⟩ := hkeeps.next hc hinbox
  have hliving : living = true := by
    cases living with
    | true => rfl
    | false => cases hstep
  subst hliving
  have htaken := hw.taken hc hinbox
  have hclear : Moves Permits.noEnd
      (self.taken conversation (.signal (.sessionExited serviceName status))) s := by
    rw [heq]
    exact moves_aside ⟨rfl, rfl, rfl, rfl, .inr rfl, rfl, rfl, rfl, rfl, rfl, rfl, rfl, rfl,
      .inl rfl, [], by simp, by simp⟩
  have hw' : WellFormed s := hclear.wellFormed htaken
  have hinv : EndsInv s := hclear.endsInv htaken (fun _ h => h) (hs.taken fun pid => by simp)
  have hlog : s.log = self.log ++
      [.delivered conversation.id (.signal (.sessionExited serviceName status))] := by
    rw [heq]
    rfl
  have hemitted : WellFormed (s.emit (.signal (status.signal conversation.id))) := by
    have hmove : Move Permits.all s (s.emit (.signal (status.signal conversation.id))) :=
      .marks hsignal trivial
    exact hmove.wellFormed hw'
  refine ⟨hw', hinv.ended hend ?_ ?_ ?_, moves_react hemitted (mayReact_noEnd _)⟩
  · rw [hlog, lives_delivered]
    exact hs.told conversation hc hread
  · intro _ _ _ htold
    rw [hlog, ToldAlive, deliveredTo_concat, if_pos rfl, lifeMonitor.read_concat, hread] at htold
    cases htold
  · intro _ _ _ hsession
    rw [heq] at hsession
    cases hsession

/-- A step that tells the end of a session does so at a point from which on it
tells no other. -/
theorem ending (hw : WellFormed self) (hkeeps : Keeps lifeMonitor
      (fun living view => view.state = .sessionStarted → living = true) self)
    (hs : EndsInv self) (hstatus : self.status = .running)
    {event : SessionEvent × Surroundings} {signal : SessionSignal}
    (hend : self.endSignal event.1 = some signal) :
    ∃ s, WellFormed s ∧ s.sessionPid = self.sessionPid ∧ signal.isEnd = true ∧
      EndsInv (s.emit (.signal signal)) ∧
      Moves Permits.noEnd (s.emit (.signal signal)) (self.step event) := by
  obtain ⟨event, around⟩ := event
  simp only [step, if_pos hstatus]
  cases event with
  | deliver id =>
    simp only [endSignal] at hend
    split at hend
    · rename_i conversation serviceName status holdest
      obtain ⟨hat, rest, hinbox⟩ := mem_of_oldestMessage holdest
      obtain ⟨hc, rfl⟩ := mem_of_conversationAt hat
      cases hend
      simp only [handleEvent, deliver, hat, hinbox]
      cases status with
      | exited code =>
        obtain ⟨hw', hinv, hmoves⟩ := ending_sessionExited hw hkeeps hs hc hinbox rfl rfl rfl
        exact ⟨_, hw', rfl, rfl, hinv, hmoves⟩
      | signaled signum =>
        obtain ⟨hw', hinv, hmoves⟩ := ending_sessionExited hw hkeeps hs hc hinbox rfl rfl rfl
        exact ⟨_, hw', rfl, rfl, hinv, hmoves⟩
    · cases hend
  | workerExited id code =>
    simp only [endSignal] at hend
    split at hend
    · rename_i hsession
      obtain ⟨conversation, hat⟩ := Option.isSome_iff_exists.mp hsession.1
      obtain ⟨hc, rfl⟩ := mem_of_conversationAt hat
      cases hend
      have hsession' : (self.stealConversation conversation.id).sessionConversation =
        some conversation.id := hsession.2
      simp only [handleEvent, whenPresent, hat, workerExited, if_pos hsession']
      obtain ⟨hw', hinv, hmoves⟩ := ending_workerEnds hw hs hc hsession.2
        (.sessionExited code conversation.id) rfl rfl (.refl _) rfl rfl
      exact ⟨_, hw', rfl, rfl, hinv, hmoves⟩
    · cases hend
  | workerDied id signum =>
    simp only [endSignal] at hend
    split at hend
    · rename_i hsession
      obtain ⟨conversation, hat⟩ := Option.isSome_iff_exists.mp hsession.1
      obtain ⟨hc, rfl⟩ := mem_of_conversationAt hat
      cases hend
      have hsession' : (self.stealConversation conversation.id).sessionConversation =
        some conversation.id := hsession.2
      simp only [handleEvent, whenPresent, hat, workerDied, if_pos hsession']
      obtain ⟨s, hs'⟩ : ∃ s, s = if (self.stealConversation conversation.id).sessionPid ≠ -1 then
          (self.stealConversation conversation.id).emit
            (.killed (self.stealConversation conversation.id).sessionPid)
        else self.stealConversation conversation.id := ⟨_, rfl⟩
      have hkilled : Moves Permits.noEnd (self.stealConversation conversation.id) s ∧
          s.conversations = (self.stealConversation conversation.id).conversations ∧
          s.sessionPid = self.sessionPid ∧
          lives conversation.id s.log = lives conversation.id self.log := by
        rw [hs']
        split
        · exact ⟨moves_emit rfl, rfl, rfl,
            lives_append_of_silent (by simp [SessionEffect.lives])⟩
        · exact ⟨.refl _, rfl, rfl, rfl⟩
      obtain ⟨hkills, hsame, hpid, hlives⟩ := hkilled
      obtain ⟨hw', hinv, hmoves⟩ := ending_workerEnds hw hs hc hsession.2
        (.sessionDied signum conversation.id) rfl rfl hkills hsame hlives
      rw [← hs']
      exact ⟨s, hw', hpid, rfl, hinv, hmoves⟩
    · cases hend
  | _ => cases hend

theorem Takes.endsInv {event : SessionEvent} {s : GdmSession} (h : Takes self event s)
    (hs : EndsInv self)
    (hstart : ∀ id c pid, event = .deliver id →
      self.oldestMessage id ≠ some (c, .success (.StartProgram pid))) : EndsInv s := by
  cases h with
  | nothing => exact hs
  | @message conversation message rest hevent hc hinbox holdest =>
    refine hs.taken ?_
    rintro pid rfl
    exact hstart _ _ pid hevent holdest

theorem step_endsInv (hw : WellFormed self) (hkeeps : Keeps lifeMonitor
      (fun living view => view.state = .sessionStarted → living = true) self)
    (hs : EndsInv self) (event : SessionEvent × Surroundings) : EndsInv (self.step event) := by
  by_cases hstatus : self.status = .running
  · cases hend : self.endSignal event.1 with
    | some signal =>
      obtain ⟨s, hw', _, hsignal, hinv, hmoves⟩ := ending hw hkeeps hs hstatus hend
      have hemit : Move Permits.all s (s.emit (.signal signal)) := .marks hsignal trivial
      exact hmoves.endsInv (hemit.wellFormed hw') (fun _ h => h) hinv
    | none =>
      by_cases hstart : ∃ id c pid, event.1 = .deliver id ∧
          self.oldestMessage id = some (c, .success (.StartProgram pid))
      · obtain ⟨id, conversation, pid, hevent, holdest⟩ := hstart
        obtain ⟨event, around⟩ := event
        cases hevent
        obtain ⟨hat, rest, hinbox⟩ := mem_of_oldestMessage holdest
        obtain ⟨hc, rfl⟩ := mem_of_conversationAt hat
        have hstep : self.step (.deliver conversation.id, around) =
            (self.taken conversation (.success (.StartProgram pid))).sessionStarts
              (conversation.take (.success (.StartProgram pid))) pid := by
          simp only [step, if_pos hstatus, handleEvent, deliver, hat, hinbox]
          exact signal_of_isSilent (.sessionStarted _ pid _) rfl
        rw [hstep]
        exact hs.started conversation pid
      · obtain ⟨s, htakes, hmoves⟩ := step_moves hw event.1 event.2
        have hinv : EndsInv s := htakes.endsInv hs fun id c pid hevent holdest =>
          hstart ⟨id, c, pid, hevent, holdest⟩
        refine hmoves.endsInv (htakes.wellFormed hw) ?_ hinv
        intro signal hmarks
        rw [show self.endSignal event.1 = some signal from hmarks] at hend
        cases hend
  · rw [step, if_neg hstatus]
    exact hs

/-- The ends of sessions are told once in every run. -/
theorem run_endsInv {s : GdmSession} (hstart : machine.Start s)
    (events : List (SessionEvent × Surroundings)) : EndsInv (machine.run s events) := by
  induction events using List.reverseRecOn with
  | nil =>
    obtain ⟨owner, hostname, device, seatId, isLocal, rfl⟩ := hstart
    exact ⟨History.justified_nil, by simp [new], by simp [new]⟩
  | append_singleton events event ih =>
    rw [machine.run_concat]
    exact step_endsInv (run_wellFormed hstart events) (run_keeps follows_lifeMonitor hstart events)
      ih event

/-! ## The session that has ended does not run -/

/-- A step that tells the end of a running session closes it. -/
def EndsClosed (s : GdmSession) (event : SessionEvent × Surroundings) : Prop :=
  s.endSignal event.1 = none ∨ s.isRunning = false ∨ s.closes event.2 event.1 = true

instance (s : GdmSession) (event : SessionEvent × Surroundings) :
    Decidable (EndsClosed s event) :=
  inferInstanceAs (Decidable (_ ∨ _ ∨ _))

/-- No session runs since the end of one has been told last. -/
def Stopped (s : GdmSession) : Prop :=
  lastLife s.log = some false → s.isRunning = false

/-- Entries that tell no end leave the last life, or make it one that has started. -/
theorem lastLife_append_of_no_end {log new : List SessionEffect}
    (h : ∀ effect ∈ new, ∀ id, effect.lives ≠ some (id, false)) :
    lastLife (log ++ new) = lastLife log ∨ lastLife (log ++ new) = some true := by
  induction new using List.reverseRecOn with
  | nil => exact .inl (by rw [List.append_nil])
  | append_singleton new effect ih =>
    rw [← List.append_assoc]
    cases heffect : effect.lives with
    | none =>
      have hsame : lastLife (log ++ new ++ [effect]) = lastLife (log ++ new) :=
        History.lastSome_append (by simp [heffect])
      rw [hsame]
      exact ih fun x hx => h x (by simp [hx])
    | some entry =>
      obtain ⟨id, b⟩ := entry
      cases b with
      | true => exact .inr (History.lastSome_concat (by simp [heffect]))
      | false => exact absurd heffect (h effect (by simp) id)

/-- The process number of the session stays, unless the move resets or starts it. -/
theorem Move.sessionPid (h : Move p self self') :
    self'.sessionPid = self.sessionPid ∨ self'.isRunning = false ∨
      lastLife self'.log = some true := by
  cases h with
  | aside h => exact .inl h.sessionPid
  | calls _ _ _ =>
    unfold callWorker
    split <;> exact .inl rfl
  | asks _ _ _ _ =>
    unfold callWorker
    split <;> exact .inl rfl
  | resets _ _ => exact .inr (.inl rfl)
  | starts _ _ => exact .inr (.inr (History.lastSome_concat rfl))
  | _ => exact .inl rfl

theorem Move.stopped (h : Move p self self') (hw : WellFormed self)
    (hmarks : ∀ signal, ¬ p.marks signal) (hs : Stopped self) : Stopped self' := by
  obtain ⟨new, hlog, hreasons⟩ := h.reasons hw
  intro hended
  have hlast := @lastLife_append_of_no_end self.log new
    fun effect heffect id => (hreasons effect heffect).no_end hmarks id
  rw [← hlog, hended] at hlast
  rcases hlast with hlast | hlast
  · rcases h.sessionPid with hpid | hrunning | hstarted
    · rw [isRunning, hpid]
      exact hs hlast.symm
    · exact hrunning
    · rw [hended] at hstarted
      cases hstarted
  · cases hlast

theorem Moves.stopped (h : Moves p self self') (hw : WellFormed self)
    (hmarks : ∀ signal, ¬ p.marks signal) (hs : Stopped self) : Stopped self' :=
  (h.preserves (P := fun s => WellFormed s ∧ Stopped s)
    (fun _ _ hmove hboth => ⟨hmove.wellFormed hboth.1, hmove.stopped hboth.1 hmarks hboth.2⟩)
    ⟨hw, hs⟩).2

theorem step_stopped (hw : WellFormed self) (hkeeps : Keeps lifeMonitor
      (fun living view => view.state = .sessionStarted → living = true) self)
    (hinv : EndsInv self) {event : SessionEvent × Surroundings} (h : EndsClosed self event)
    (hs : Stopped self) : Stopped (self.step event) := by
  by_cases hstatus : self.status = .running
  · cases hend : self.endSignal event.1 with
    | some signal =>
      obtain ⟨s, hw', hpid, hsignal, _, hmoves⟩ := ending hw hkeeps hinv hstatus hend
      rcases h with hnone | hrunning | hcloses
      · rw [hend] at hnone
        cases hnone
      · have hemit : Move Permits.all s (s.emit (.signal signal)) := .marks hsignal trivial
        refine hmoves.stopped (hemit.wellFormed hw') (fun _ h => h) fun _ => ?_
        rw [← hrunning, isRunning, isRunning, ← hpid]
        rfl
      · intro _
        have hexchange := exchange_handleEvent hw hcloses
        rw [step, if_pos hstatus]
        exact congrArg Exchange.isRunning hexchange
    | none =>
      obtain ⟨s, htakes, hmoves⟩ := step_moves hw event.1 event.2
      have hstopped : Stopped s := by
        cases htakes with
        | nothing => exact hs
        | message _ _ _ _ =>
          intro hended
          refine hs ?_
          rw [← hended, taken_log]
          exact (History.lastSome_append (by simp [SessionEffect.lives])).symm
      refine hmoves.stopped (htakes.wellFormed hw) ?_ hstopped
      intro signal hmarks
      rw [show self.endSignal event.1 = some signal from hmarks] at hend
      cases hend
  · rw [step, if_neg hstatus]
    exact hs

/-- The end of each session is told once in every run, and where the owner closes
the session that has ended, it does not run until one is started. -/
theorem run_endsOnce {s : GdmSession} (hstart : machine.Start s)
    {events : List (SessionEvent × Surroundings)}
    (h : machine.Meets EndsClosed s events) : EndsOnce (machine.run s events) := by
  refine ⟨(run_endsInv hstart events).once, ?_⟩
  show Stopped (machine.run s events)
  induction events using List.reverseRecOn with
  | nil =>
    obtain ⟨owner, hostname, device, seatId, isLocal, rfl⟩ := hstart
    exact fun _ => rfl
  | append_singleton events event ih =>
    obtain ⟨hmeets, hevent⟩ := h.at_step
    rw [machine.run_concat]
    exact step_stopped (run_wellFormed hstart events) (run_keeps follows_lifeMonitor hstart events)
      (run_endsInv hstart events) hevent (ih hmeets)

/-- A login whose session exits, and then its worker. -/
def loginAndExit : List (SessionEvent × Surroundings) :=
  passwordLogin ++ ([(.workerSends 0 (.sessionExited "gdm-password" (.exited 0)), {}),
    (.deliver 0, { inUserSessions := true }), (.workerExited 0 0, {})] :
      List (SessionEvent × Surroundings))

theorem loginAndExit_endsOnce : EndsOnce (machine.run greeterSession loginAndExit) :=
  run_endsOnce start_greeterSession (by decide)

/-- The launch environment of a greeter stops the worker when the session has
exited, and closes the session only when the worker is gone. -/
theorem greeterExit_not_endsOnce : ¬ EndsOnce (machine.run
    (new .launchEnvironment none none none true)
    ([.owner (.startConversation "gdm-launch-environment"),
      .hello 1000,
      .workerAnswers 0 (.Initialize [.service "gdm-launch-environment", .extensions [],
        .isProgramSession true, .displayIsLocal true]) (.Initialize none),
      .deliver 0,
      .workerAnswers 0 .Authenticate (.Authenticate none),
      .deliver 0,
      .workerAnswers 0 .Authorize .Authorize,
      .deliver 0,
      .workerAnswers 0 .EstablishCredentials .EstablishCredentials,
      .deliver 0,
      .workerAnswers 0 .Open (.Open "c1"),
      .deliver 0,
      .workerAnswers 0 .StartProgram (.StartProgram 1200),
      .deliver 0,
      .workerSends 0 (.sessionExited "gdm-launch-environment" (.exited 0)),
      .deliver 0].map fun event => (event, {}))) := by
  intro h
  exact absurd h.stopped (by decide)

end GdmSession

end Gdm
