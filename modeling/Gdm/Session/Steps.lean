import Gdm.Session.WellFormed

/-!
# The functions of a session as moves

Each function that the owner of a session calls, and each reaction of the owner
to a signal, is a sequence of moves.
-/

namespace Gdm

namespace GdmSession

variable {self self' : GdmSession} {p : Permits} {around : Surroundings}

/-! ## Small moves -/

/-- A change of a field that no invariant reads. -/
theorem moves_aside (h : Aside self self') : Moves p self self' :=
  .single (.aside h)

theorem aside_emit {effect : SessionEffect} (h : effect.isMinor = true) :
    Aside self (self.emit effect) where
  verificationMode := rfl
  owner := rfl
  conversations := rfl
  nullConversations := rfl
  sessionConversation := .inl rfl
  sessionPid := rfl
  selectedUser := rfl
  isOpened := rfl
  sessionOpened := rfl
  opened := rfl
  nextConversation := rfl
  nextQuery := rfl
  nextInvocation := rfl
  status := .inl rfl
  log := ⟨[effect], rfl, by simpa using h⟩

theorem moves_emit {effect : SessionEffect} (h : effect.isMinor = true) :
    Moves p self (self.emit effect) :=
  moves_aside (aside_emit h)

theorem moves_crash : Moves p self self.crash :=
  moves_aside ⟨rfl, rfl, rfl, rfl, .inl rfl, rfl, rfl, rfl, rfl, rfl, rfl, rfl, rfl,
    .inr (.inl rfl), [], by simp [crash], by simp⟩

/-- A change of one conversation that keeps what it waits for. -/
theorem moves_modify (id : Nat) {f : Conversation → Conversation} (hf : Harmless f) :
    Moves p self (self.modifyConversation id f) :=
  .single (.adjusts (hf.cases fun c => c.id = id))

/-! ## Calls of the worker -/

/-- A call for the conversation of a service is early only where that is
permitted. -/
def MayCall (p : Permits) (s : GdmSession) (serviceName : String) : Prop :=
  ∀ c ∈ s.conversations, c.serviceName = serviceName → c.workerProxy = false → p.callsEarly

theorem moves_callByName {serviceName : String} {call : WorkerCall}
    (hprompted : ∀ c ∈ self.conversations, c.serviceName = serviceName →
      Prompted p self c.id call)
    (hcall : MayCall p self serviceName) :
    Moves p self (self.callByName serviceName call) := by
  unfold callByName
  cases hfind : self.findConversationByName serviceName with
  | none => exact .refl _
  | some c =>
    obtain ⟨hc, hname⟩ := mem_of_findConversationByName hfind
    exact .single (.calls hc (hprompted c hc hname) (hcall c hc hname))

/-- A call for the conversation whose message is dispatched: the name of its
service leads back to it. -/
theorem moves_callByName_of_mem (hs : WellFormed self) {c : Conversation} {call : WorkerCall}
    (hc : c ∈ self.conversations) (hproxy : c.workerProxy = true)
    (hprompted : Prompted p self c.id call) :
    Moves p self (self.callByName c.serviceName call) := by
  refine moves_callByName ?_ ?_
  · intro d hd hname
    rw [hs.eq_of_name hd hc hname]
    exact hprompted
  · intro d hd hname hno
    rw [hs.eq_of_name hd hc hname, hproxy] at hno
    cases hno

theorem detailsService_initializeDetails (serviceName : String)
    (username logFile : Option String) :
    detailsService (self.initializeDetails serviceName username logFile) = some serviceName := rfl

theorem detailsUsername_initializeDetails (serviceName : String)
    (username logFile : Option String) :
    detailsUsername (self.initializeDetails serviceName username logFile) = username := by
  cases username with
  | some name => rfl
  | none =>
    cases logFile <;> cases self.displayHostname <;> cases self.displayDevice <;>
      cases self.displaySeatId <;>
      simp [initializeDetails, detailsUsername, List.findSome?_append]

theorem moves_callInitialize {serviceName : String} {username : Option String}
    (logFile : Option String) (hinitializes : p.initializes (some serviceName) username)
    (hcall : MayCall p self serviceName) :
    Moves p self (self.callInitialize serviceName username logFile) := by
  refine moves_callByName (fun _ _ _ => ?_) hcall
  rw [Prompted, detailsService_initializeDetails, detailsUsername_initializeDetails]
  exact hinitializes

theorem moves_setup {serviceName : String} (hinitializes : p.initializes (some serviceName) none)
    (hcall : MayCall p self serviceName) : Moves p self (self.setup serviceName) :=
  moves_callInitialize none hinitializes hcall

theorem moves_setupForUser {serviceName username : String} (hselects : p.selects username)
    (hinitializes : p.initializes (some serviceName) (some username))
    (hcall : MayCall p self serviceName) :
    Moves p self (self.setupForUser serviceName username) := by
  have hselect : Moves p self (self.selectUser (some username)) := .single (.selects hselects)
  have hflag : Moves p self
      { self.selectUser (some username) with isProgramSession := false } :=
    hselect.tail (.aside ⟨rfl, rfl, rfl, rfl, .inl rfl, rfl, rfl, rfl, rfl, rfl, rfl, rfl, rfl,
      .inl rfl, [], by simp, by simp⟩)
  exact hflag.trans (moves_callInitialize none hinitializes hcall)

theorem moves_setupForProgram {serviceName : String} {username : Option String}
    (logFile : Option String) (hinitializes : p.initializes (some serviceName) username)
    (hcall : MayCall p self serviceName) :
    Moves p self (self.setupForProgram serviceName username logFile) := by
  have hflag : Moves p self { self with isProgramSession := true } :=
    moves_aside ⟨rfl, rfl, rfl, rfl, .inl rfl, rfl, rfl, rfl, rfl, rfl, rfl, rfl, rfl,
      .inl rfl, [], by simp, by simp⟩
  exact hflag.trans (moves_callInitialize logFile hinitializes hcall)

theorem moves_selectSession (text : String) : Moves p self (self.selectSession text) := by
  have hselect : Moves p self { self with selectedSession := some text } :=
    moves_aside ⟨rfl, rfl, rfl, rfl, .inl rfl, rfl, rfl, rfl, rfl, rfl, rfl, rfl, rfl,
      .inl rfl, [], by simp, by simp⟩
  unfold selectSession
  split
  · exact hselect
  · exact hselect.trans moves_crash

/-! ## Starting and stopping conversations -/

theorem moves_insertConversation {spawn : Option Int} {serviceName : String}
    (h : MayInsert p self spawn serviceName) :
    Moves p self (self.insertConversation spawn serviceName) := by
  unfold insertConversation
  split
  · exact moves_crash
  · rename_i hnull
    cases spawn with
    | some pid => exact .single (.inserts hnull h)
    | none => exact .single (.insertsNull h)

/-- The conversation that is replaced has been changed in what its end does not
tell. -/
theorem insertConversation_modify (hs : WellFormed self) {old : Conversation}
    (hold : old ∈ self.conversations) {f : Conversation → Conversation}
    (hname : ∀ c, (f c).serviceName = c.serviceName) (hid : ∀ c, (f c).id = c.id)
    (hpending : ∀ c, (f c).pendingInvocation = c.pendingInvocation)
    (hstarting : ∀ c, (f c).startingInvocation = c.startingInvocation) (spawn : Option Int) :
    (self.modifyConversation old.id f).insertConversation spawn old.serviceName =
      self.insertConversation spawn old.serviceName := by
  have hnull : old.serviceName ∉ self.nullConversations := hs.nulls old hold
  have hsame : ∀ c : Conversation,
      (if c.id = old.id then f c else c).serviceName = c.serviceName := by
    intro c
    split
    · exact hname c
    · rfl
  have hkept : ((self.modifyConversation old.id f).conversations.filter fun c =>
      !decide (c.serviceName = old.serviceName)) =
      self.conversations.filter fun c => !decide (c.serviceName = old.serviceName) := by
    simp only [modifyConversation, List.filter_map, Function.comp_def, hsame]
    refine (List.map_congr_left (g := fun c => c) ?_).trans (List.map_id' _)
    intro c hc
    obtain ⟨hc, hne⟩ := List.mem_filter.mp hc
    have hcid : c.id ≠ old.id := by
      intro heq
      rw [hs.eq_of_id hc hold heq] at hne
      simp at hne
    exact if_neg hcid
  have hgone : (((self.modifyConversation old.id f).conversations.filter fun c =>
      decide (c.serviceName = old.serviceName)).map fun c =>
        SessionEffect.freed c.id c.pendingInvocation c.startingInvocation) =
      (self.conversations.filter fun c => decide (c.serviceName = old.serviceName)).map fun c =>
        SessionEffect.freed c.id c.pendingInvocation c.startingInvocation := by
    simp only [modifyConversation, List.filter_map, Function.comp_def, hsame, List.map_map]
    refine List.map_congr_left fun c _ => ?_
    split
    · rw [hid, hpending, hstarting]
    · rfl
  have hnull' : old.serviceName ∉ (self.modifyConversation old.id f).nullConversations := hnull
  cases spawn with
  | some pid =>
    simp only [insertConversation, if_neg hnull, if_neg hnull', inserted, freeConversations,
      spawnWorker, emit] at hkept hgone ⊢
    rw [hkept, hgone]
    rfl
  | none =>
    simp only [insertConversation, if_neg hnull, if_neg hnull', insertedNull,
      freeConversations] at hkept hgone ⊢
    rw [hkept, hgone]
    rfl

/-- A conversation for the service can be started, where the one that is there is
stopping. -/
def MayStart (p : Permits) (s : GdmSession) (spawn : Option Int) (serviceName : String) : Prop :=
  (∀ c ∈ s.conversations, c.serviceName = serviceName → c.isStopping = true) →
    MayInsert p s spawn serviceName

theorem moves_startConversation (hs : WellFormed self) {spawn : Option Int}
    {serviceName : String} (h : MayStart p self spawn serviceName) :
    Moves p self (self.startConversation spawn serviceName).1 := by
  unfold startConversation
  cases hfind : self.findConversationByName serviceName with
  | some old =>
    obtain ⟨hold, hname⟩ := mem_of_findConversationByName hfind
    by_cases hstopping : old.isStopping
    · simp only [if_pos hstopping]
      have hkilled : Move p self (self.emit (.killed old.workerPid)) := .aside (aside_emit rfl)
      have hinsert : MayInsert p (self.emit (.killed old.workerPid)) spawn serviceName := by
        have hmay := h (fun c hc hcname => by
          rw [hs.eq_of_name hc hold (hcname.trans hname.symm)]
          exact hstopping)
        exact ⟨hmay.spawns, hmay.frees, hmay.orphans, hmay.clashes⟩
      rw [← hname] at hinsert ⊢
      rw [insertConversation_modify (f := fun c => { c with job := false })
        (hkilled.wellFormed hs) hold (fun _ => rfl) (fun _ => rfl) (fun _ => rfl) (fun _ => rfl)]
      exact .trans (.single hkilled) (moves_insertConversation hinsert)
    · simp only [if_neg hstopping]
      exact .refl _
  | none =>
    refine moves_insertConversation (h ?_)
    intro c hc hcname
    have hnone := List.find?_eq_none.mp hfind c hc
    simp [hcname] at hnone

theorem moves_stopConversation (serviceName : String) :
    Moves p self (self.stopConversation serviceName) := by
  unfold stopConversation
  split
  · exact (moves_modify _ harmless_stop).trans (moves_emit rfl)
  · exact .refl _

theorem moves_stopAllOtherConversations (keep : Nat) :
    Moves p self (self.stopAllOtherConversations keep) := by
  unfold stopAllOtherConversations
  split
  · have hstop : Harmless fun c => if ¬ c.id = keep then c.stop else c :=
      harmless_stop.cases fun c => ¬ c.id = keep
    have hstop' : Harmless fun c => if c.id = keep then c else c.stop := by
      simpa only [ite_not] using hstop
    refine .tail (.single (.adjusts hstop')) (.aside ?_)
    refine ⟨rfl, rfl, rfl, rfl, .inl rfl, rfl, rfl, rfl, rfl, rfl, rfl, rfl, rfl, .inl rfl, _,
      rfl, ?_⟩
    intro effect heffect
    obtain ⟨c, _, rfl⟩ := List.mem_map.mp heffect
    rfl
  · exact moves_crash

/-- The session can be reset or closed. -/
structure MayClose (p : Permits) (s : GdmSession) : Prop where
  resets : p.resets
  frees : ∀ c ∈ s.conversations, p.Frees c

theorem moves_doReset (h : MayClose p self) : Moves p self self.doReset :=
  .single (.resets h.resets h.frees)

theorem moves_close (h : MayClose p self) : Moves p self self.close :=
  (moves_doReset h).tail (.aside ⟨rfl, rfl, rfl, rfl, .inl rfl, rfl, rfl, rfl, rfl, rfl, rfl, rfl,
    rfl, .inl rfl, [], by simp [close], by simp⟩)

/-! ## The session itself -/

theorem moves_andThen {next : GdmSession → GdmSession} (h : Moves p self self')
    (hnext : Moves p self' (next self')) : Moves p self (self'.andThen next) := by
  unfold andThen
  split
  · exact h.trans hnext
  · exact h

/-- Setting variables changes the environment alone. -/
theorem setEnvironmentVariables_eq (self : GdmSession) (entries : List (String × String)) :
    ∃ environment, self.setEnvironmentVariables entries = { self with environment } := by
  induction entries generalizing self with
  | nil => exact ⟨self.environment, rfl⟩
  | cons entry entries ih =>
    obtain ⟨environment, heq⟩ := ih (self.setEnvironmentVariable entry.1 entry.2)
    exact ⟨environment, heq⟩

theorem setUpSessionEnvironment_eq (self : GdmSession) (around : Surroundings) :
    ∃ environment, self.setUpSessionEnvironment around = { self with environment } := by
  obtain ⟨named, hnamed⟩ := setEnvironmentVariables_eq self
    ([("GDMSESSION", self.getSessionName around), ("DESKTOP_SESSION", self.getSessionName around),
      ("XDG_SESSION_DESKTOP", self.getSessionName around)] ++
      (around.desktopNames.map fun names => ("XDG_CURRENT_DESKTOP", names)).toList ++
      around.languageVariables)
  simp only [setUpSessionEnvironment, hnamed]
  exact setEnvironmentVariables_eq _ _

theorem moves_setUpSessionEnvironment : Moves p self (self.setUpSessionEnvironment around) := by
  obtain ⟨environment, heq⟩ := setUpSessionEnvironment_eq self around
  rw [heq]
  exact moves_aside ⟨rfl, rfl, rfl, rfl, .inl rfl, rfl, rfl, rfl, rfl, rfl, rfl, rfl, rfl,
    .inl rfl, [], by simp, by simp⟩

theorem stopAllOtherConversations_proxy (keep : Nat) {c : Conversation}
    (hc : c ∈ (self.stopAllOtherConversations keep).conversations) :
    ∃ d ∈ self.conversations, d.serviceName = c.serviceName ∧ d.workerProxy = c.workerProxy := by
  unfold stopAllOtherConversations at hc
  split at hc
  · obtain ⟨d, hd, rfl⟩ := List.mem_map.mp hc
    refine ⟨d, hd, ?_⟩
    split <;> exact ⟨rfl, rfl⟩
  · exact ⟨c, hc, rfl, rfl⟩

/-- A call for the start of the session comes early only where that is permitted. -/
theorem moves_startSession {serviceName : String}
    (hcall : self.sessionConversation = none → self.nullConversations = [] →
      around.sessionCommandExists = true → MayCall p self serviceName) :
    Moves p self (self.startSession around serviceName) := by
  unfold startSession
  split
  · exact .refl _
  · rename_i hnone
    split
    · rename_i c hfind
      by_cases hnull : self.nullConversations = []
      · refine moves_andThen (moves_stopAllOtherConversations _) ?_
        split
        · rename_i hcommand
          refine moves_setUpSessionEnvironment.trans (moves_callByName (fun _ _ _ => trivial) ?_)
          intro d hd hname hproxy
          obtain ⟨environment, heq⟩ := setUpSessionEnvironment_eq
            (self.stopAllOtherConversations c.id) around
          rw [heq] at hd
          obtain ⟨e, he, hename, heproxy⟩ := stopAllOtherConversations_proxy c.id hd
          exact hcall (not_not.mp hnone) hnull hcommand e he (hename.trans hname)
            (heproxy.trans hproxy)
        · exact moves_aside ⟨rfl, rfl, rfl, rfl, .inl rfl, rfl, rfl, rfl, rfl, rfl, rfl, rfl, rfl,
            .inr (.inr rfl), [], by simp, by simp⟩
      · have hcrash : self.stopAllOtherConversations c.id = self.crash := by
          rw [stopAllOtherConversations, if_neg hnull]
        rw [hcrash, andThen, if_neg (by simp [crash])]
        exact moves_crash
    · exact .refl _

theorem moves_startReauthentication (pidOfCaller : Int) (uidOfCaller : Nat) :
    Moves p self (self.startReauthentication pidOfCaller uidOfCaller) := by
  unfold startReauthentication
  split
  · exact .refl _
  · rename_i id hsession
    split
    · exact moves_crash
    · rename_i conversation hat
      obtain ⟨hc, rfl⟩ := mem_of_conversationAt hat
      exact .single (.asks pidOfCaller uidOfCaller hc hsession)

/-! ## Queries -/

theorem moves_cancelPendingQuery {conversation : Conversation}
    (hc : conversation ∈ self.conversations) :
    Moves p self (self.cancelPendingQuery conversation) := by
  unfold cancelPendingQuery
  split
  · exact .refl _
  · rename_i hpending
    exact .single (.completes _ hc fun h => absurd h hpending)

/-- An answer for the conversation of a service meets a query, or lapses. -/
def MayComplete (p : Permits) (s : GdmSession) (serviceName : String) : Prop :=
  ∀ c, s.findConversationByName serviceName = some c → c.pendingInvocation = none → p.lapses

theorem moves_answerQuery {serviceName : String} (text : String)
    (h : MayComplete p self serviceName) : Moves p self (self.answerQuery serviceName text) := by
  unfold answerQuery
  split
  · rename_i c hfind
    exact .single (.completes _ (mem_of_findConversationByName hfind).1 (h c hfind))
  · exact .refl _

theorem moves_reportError {serviceName : String} (code : ClientErrorCode) (message : String)
    (h : MayComplete p self serviceName) :
    Moves p self (self.reportError serviceName code message) := by
  unfold reportError
  split
  · rename_i c hfind
    exact .single (.completes _ (mem_of_findConversationByName hfind).1 (h c hfind))
  · exact .refl _

/-- A query for the conversation of a service: it has to be there, and to have
nothing pending. -/
theorem moves_setPendingQuery {serviceName : String}
    (hlapse : (∀ c, self.findConversationByName serviceName = some c →
      c.pendingInvocation ≠ none) → p.lapses) :
    Moves p self
      ((self.receiveQuery serviceName).setPendingQuery serviceName self.nextQuery) := by
  have hsame : (self.receiveQuery serviceName).findConversationByName serviceName =
      self.findConversationByName serviceName := rfl
  unfold setPendingQuery
  rw [hsame]
  split
  · rename_i c hfind
    split
    · rename_i hnone
      exact .single (.queryPends _ (mem_of_findConversationByName hfind).1 hnone)
    · rename_i hpending
      refine .single (.queryAborts _ (hlapse ?_))
      intro d hd
      rw [hfind] at hd
      cases hd
      exact hpending
  · rename_i hfind
    refine .single (.queryLost _ (hlapse ?_))
    intro c hc
    rw [hfind] at hc
    cases hc

end GdmSession

end Gdm
