import Gdm.Session.Streams

/-!
# The user of an opened session

The manager asks the session for the selected user when a session has been
opened.  That is the user whom the worker has authenticated if the two agree when
the authentication is reported, and if nobody selects another user from then on.
The handlers of the greeter interface only refuse to once the session runs.
-/

namespace Gdm

/-- The calls that are made for a user who has been authenticated. -/
def WorkerMethod.isAfterAuthenticate : WorkerMethod → Bool
  | Authorize | EstablishCredentials | Open => true
  | _ => false

/-- The username of a worker follows from what it says, and it authenticates
nobody else. -/
def nameMonitor : Monitor WorkerMessage (Option String) where
  init := none
  step name message :=
    match message with
    | .success (.Authenticate user) => if user = name then some name else none
    | message => some (message.announces name)

theorem follows_nameMonitor :
    GdmSession.Follows nameMonitor fun name view => name = view.username where
  init := rfl
  answers := by
    rintro t view call answer view' rfl hperform
    cases answer with
    | Initialize user =>
      refine ⟨user, rfl, ?_⟩
      cases call <;> simp only [WorkerView.perform, reduceCtorEq] at hperform
      split at hperform <;> cases hperform
      rfl
    | Authenticate user =>
      cases call <;> simp only [WorkerView.perform, reduceCtorEq] at hperform
      split at hperform
      · rename_i hstate
        cases hperform
        exact ⟨view.username, by simp [nameMonitor, hstate.2], rfl⟩
      · cases hperform
    | _ =>
      refine ⟨view.username, rfl, ?_⟩
      cases call <;> simp only [WorkerView.perform, reduceCtorEq] at hperform
      split at hperform <;> cases hperform
      rfl
  fails := by
    rintro t view method error state rfl _
    exact ⟨view.username, rfl, rfl⟩
  sends := by
    rintro t view signal view' rfl hsend
    cases signal with
    | sessionExited serviceName status =>
      simp only [WorkerView.send] at hsend
      split at hsend <;> cases hsend
      exact ⟨view.username, rfl, rfl⟩
    | reauthenticated serviceName reauthPid user =>
      simp only [WorkerView.send] at hsend
      split at hsend <;> cases hsend
      exact ⟨view.username, rfl, rfl⟩
    | _ =>
      cases hsend
      exact ⟨_, rfl, rfl⟩

theorem announces_of_step {name name' : Option String} {message : WorkerMessage}
    (h : nameMonitor.step name message = some name') : name' = message.announces name := by
  cases message with
  | success answer =>
    cases answer with
    | Authenticate user =>
      simp only [nameMonitor] at h
      split at h <;> cases h
      rfl
    | _ => exact (Option.some.inj h).symm
  | _ => exact (Option.some.inj h).symm

theorem user_of_step {name name' user : Option String}
    (h : nameMonitor.step name (.success (.Authenticate user)) = some name') : user = name := by
  simp only [nameMonitor] at h
  split at h
  · assumption
  · cases h

/-- The success of Open is on the way. -/
def WorkerMessage.isOpened : WorkerMessage → Bool
  | success (.Open _) => true
  | _ => false

/-- A session can still be opened for the user whom the worker has authenticated. -/
def Conversation.protects (conversation : Conversation) : Bool :=
  conversation.verified.isSome &&
    (conversation.connected || conversation.inbox.any WorkerMessage.isOpened)

namespace GdmSession

variable {self self' : GdmSession} {p : Permits}

/-! ## Authenticated users -/

/-- Whoever is authorized has been authenticated before. -/
structure VerifiedInv (s : GdmSession) : Prop where
  names : ∀ c ∈ s.conversations, nameMonitor.read (deliveredTo c.id s.log) = some c.name
  unheard : ∀ c ∈ s.conversations, c.workerProxy = false → c.verified = none
  outstanding : ∀ c ∈ s.conversations, ∀ call ∈ c.outstanding,
    call.method.isAfterAuthenticate = true → c.verified ≠ none
  said : ∀ c ∈ s.conversations, ∀ answer, .success answer ∈ s.said c →
    answer.method.isAfterAuthenticate = true → c.verified ≠ none

theorem Move.verifiedInv (h : Move p self self') (hw : WellFormed self)
    (hs : VerifiedInv self) : VerifiedInv self' := by
  have hdispatched : ∀ c ∈ self.conversations, ∀ answer,
      Gdm.dispatching self.log = some (c.id, .success answer) →
      answer.method.isAfterAuthenticate = true → c.verified ≠ none := by
    intro c hc answer hdispatching hafter
    refine hs.said c hc answer (List.mem_append_left _ ?_) hafter
    exact mem_deliveredTo_of_dispatching hdispatching
  refine ⟨?_, ?_, ?_, ?_⟩
  · intro c' hc'
    rw [h.delivered_log]
    rcases h.image hw hc' with ⟨c, hc, hevolves⟩ | ⟨_, _, _, _, rfl⟩
    · rw [hevolves.id, hevolves.name]
      exact hs.names c hc
    · rw [show deliveredTo self.nextConversation self.log = [] from deliveredTo_of_fresh hw]
      rfl
  · intro c' hc' hproxy
    rcases h.image hw hc' with ⟨c, hc, hevolves⟩ | ⟨_, _, _, _, rfl⟩
    · rw [hevolves.verified]
      exact hs.unheard c hc (hevolves.workerProxy hproxy)
    · rfl
  · intro c' hc' call hcall hafter
    rcases h.image hw hc' with ⟨c, hc, hevolves⟩ | ⟨_, _, _, _, rfl⟩
    · rw [hevolves.verified]
      rcases hevolves.outstanding hcall with hold | ⟨hprompted, hconnected⟩ | hreauthentication
      · exact hs.outstanding c hc call hold hafter
      · cases call with
        | Authorize =>
          obtain ⟨user, _, hverified⟩ := hprompted
          exact hverified c hc rfl hconnected
        | EstablishCredentials => exact hdispatched c hc _ hprompted rfl
        | Open => exact hdispatched c hc _ hprompted.2 rfl
        | _ => cases hafter
      · rw [hreauthentication] at hafter
        cases hafter
    · cases hcall
  · intro c' hc' answer hanswer hafter
    rcases h.image hw hc' with ⟨c, hc, hevolves⟩ | ⟨_, _, _, _, rfl⟩
    · rw [hevolves.verified]
      rw [said, h.delivered_log, hevolves.id] at hanswer
      rcases hevolves.answered hanswer with hold | ⟨call, hcall, hmethod, _⟩
      · exact hs.said c hc answer hold hafter
      · exact hs.outstanding c hc call hcall (hmethod ▸ hafter)
    · rw [said, h.delivered_log] at hanswer
      rw [deliveredTo_of_fresh hw] at hanswer
      cases hanswer

theorem verifies_ne_none {conversation : Conversation} {message : WorkerMessage}
    (h : conversation.verified ≠ none) : (conversation.take message).verified ≠ none := by
  show message.verifies conversation ≠ none
  unfold WorkerMessage.verifies
  split
  · split
    · exact Option.some_ne_none _
    · exact h
  · exact h

theorem VerifiedInv.taken (hs : VerifiedInv self) (hw : WellFormed self)
    (hkeeps : Keeps nameMonitor (fun name view => name = view.username) self) {c : Conversation}
    (hc : c ∈ self.conversations) {message : WorkerMessage} {rest : List WorkerMessage}
    (hinbox : c.inbox = message :: rest) : VerifiedInv (self.taken c message) := by
  refine ⟨?_, ?_, ?_, ?_⟩
  · intro d' hd'
    obtain ⟨d, hd, rfl⟩ := mem_taken.mp hd'
    rw [taken_log, deliveredTo_concat]
    by_cases hid : d.id = c.id
    · have heq : d = c := hw.eq_of_id hd hc hid
      subst heq
      obtain ⟨name, name', hread, hstep⟩ := hkeeps.next hc hinbox
      rw [hs.names d hc] at hread
      cases hread
      rw [if_pos rfl]
      show nameMonitor.read (deliveredTo d.id self.log ++ if d.id = d.id then [message] else []) =
        some (message.announces d.name)
      rw [if_pos rfl, nameMonitor.read_concat, hs.names d hc, ← announces_of_step hstep]
      exact hstep
    · rw [if_neg hid, if_neg (Ne.symm hid), List.append_nil]
      exact hs.names d hd
  · intro d' hd' hproxy
    obtain ⟨d, hd, rfl⟩ := mem_taken.mp hd'
    by_cases hid : d.id = c.id
    · have heq : d = c := hw.eq_of_id hd hc hid
      subst heq
      rw [if_pos rfl] at hproxy
      have hheard := (hw.sane d hc).proxy_of_inbox hinbox
      exact absurd (hproxy.symm.trans hheard) Bool.false_ne_true
    · rw [if_neg hid] at hproxy ⊢
      exact hs.unheard d hd hproxy
  · intro d' hd' call hcall hafter
    obtain ⟨d, hd, rfl⟩ := mem_taken.mp hd'
    have hold : call ∈ d.outstanding := by
      split at hcall <;> exact hcall
    have hverified := hs.outstanding d hd call hold hafter
    split
    · exact verifies_ne_none hverified
    · exact hverified
  · intro d' hd' answer hanswer hafter
    obtain ⟨d, hd, rfl⟩ := mem_taken.mp hd'
    obtain ⟨e, he, hid, _, hsaid⟩ := said_taken hw hc hinbox hd'
    have hed : e = d := by
      refine hw.eq_of_id he hd (hid.symm.trans ?_)
      split <;> rfl
    have hverified := hs.said d hd answer (hed ▸ hsaid ▸ hanswer) hafter
    split
    · exact verifies_ne_none hverified
    · exact hverified

/-! ## Selected users -/

/-- The selected user is the one whom the worker has authenticated, for every
session that is open and every one that can still be opened. -/
structure UserInv (s : GdmSession) : Prop where
  opened : ∀ entry ∈ s.opened, s.selectedUser = entry.2
  protects : ∀ c ∈ s.conversations, c.protects = true → s.selectedUser = c.verified.join

/-- A user may be selected whom every such worker has authenticated. -/
structure MayChoose (s : GdmSession) (username : String) : Prop where
  opened : ∀ entry ∈ s.opened, entry.2 = some username
  protects : ∀ c ∈ s.conversations, c.protects = true → c.verified.join = some username

instance (s : GdmSession) (username : String) : Decidable (MayChoose s username) :=
  decidable_of_iff ((∀ entry ∈ s.opened, entry.2 = some username) ∧
      ∀ c ∈ s.conversations, c.protects = true → c.verified.join = some username)
    ⟨fun h => ⟨h.1, h.2⟩, fun h => ⟨h.1, h.2⟩⟩

/-- A move selects a user, resets the session, or leaves the user. -/
theorem Move.selectedUser (h : Move p self self') :
    self'.selectedUser = self.selectedUser ∨
      (self'.conversations = [] ∧ self'.opened = []) ∨
      ∃ username, p.selects username ∧ self'.selectedUser = some username := by
  cases h with
  | aside h => exact .inl h.selectedUser
  | selects hselects => exact .inr (.inr ⟨_, hselects, rfl⟩)
  | calls _ _ _ =>
    unfold callWorker
    split <;> exact .inl rfl
  | asks _ _ _ _ =>
    unfold callWorker
    split <;> exact .inl rfl
  | resets _ _ => exact .inr (.inl ⟨doReset_conversations, rfl⟩)
  | _ => exact .inl rfl

theorem Move.opened (h : Move p self self') : self'.opened ⊆ self.opened := by
  cases h with
  | aside h => exact h.opened ▸ List.Subset.refl _
  | calls _ _ _ =>
    unfold callWorker
    split <;> exact List.Subset.refl _
  | asks _ _ _ _ =>
    unfold callWorker
    split <;> exact List.Subset.refl _
  | resets _ _ => exact List.nil_subset _
  | starts _ _ => exact fun _ hentry => (List.mem_filter.mp hentry).1
  | _ => exact List.Subset.refl _

/-- No move makes a conversation one that can be opened. -/
theorem Evolves.protects {s s' : GdmSession} {c c' : Conversation} (h : Evolves p s s' c c')
    (hunheard : c.workerProxy = false → c.verified = none) (hprotects : c'.protects = true) :
    c.protects = true := by
  have hkept : c.connected = true → c'.verified.isSome = true → c.protects = true := by
    intro hconnected hsome
    rw [h.verified] at hsome
    rw [Conversation.protects, hsome, hconnected]
    rfl
  have hsome : c'.verified.isSome = true := (Bool.and_eq_true_iff.mp hprotects).1
  cases h with
  | harmless hf =>
    rcases Bool.or_eq_true_iff.mp (Bool.and_eq_true_iff.mp hprotects).2 with hconnected | hinbox
    · exact hkept (hf.connected c hconnected) hsome
    · rw [hf.verified] at hsome
      rw [hf.inbox] at hinbox
      rw [Conversation.protects, hsome, hinbox, Bool.or_true]
      rfl
  | registers hproxy _ =>
    rw [show c.verified = none from hunheard hproxy] at hsome
    cases hsome
  | answers hconnected _ _ _ => exact hkept hconnected hsome
  | fails hconnected _ _ => exact hkept hconnected hsome
  | sends hconnected _ => exact hkept hconnected hsome
  | _ => exact hprotects

theorem Move.mayChoose (h : Move p self self') (hw : WellFormed self) (hv : VerifiedInv self)
    {username : String} (hs : MayChoose self username) : MayChoose self' username := by
  refine ⟨fun entry hentry => hs.opened entry (h.opened hentry), ?_⟩
  intro c' hc' hprotects
  rcases h.image hw hc' with ⟨c, hc, hevolves⟩ | ⟨_, _, _, _, rfl⟩
  · rw [hevolves.verified]
    exact hs.protects c hc (hevolves.protects (hv.unheard c hc) hprotects)
  · cases hprotects

theorem Move.userInv (h : Move p self self') (hw : WellFormed self) (hv : VerifiedInv self)
    (hselects : ∀ username, p.selects username → MayChoose self username)
    (hs : UserInv self) : UserInv self' := by
  rcases h.selectedUser with hsame | ⟨hempty, hnone⟩ | ⟨username, hselect, hselected⟩
  · refine ⟨fun entry hentry => hsame.trans (hs.opened entry (h.opened hentry)), ?_⟩
    intro c' hc' hprotects
    rcases h.image hw hc' with ⟨c, hc, hevolves⟩ | ⟨_, _, _, _, rfl⟩
    · rw [hsame, hevolves.verified]
      exact hs.protects c hc (hevolves.protects (hv.unheard c hc) hprotects)
    · cases hprotects
  · refine ⟨?_, ?_⟩
    · simp [hnone]
    · simp [hempty]
  · have hmay := h.mayChoose hw hv (hselects username hselect)
    refine ⟨fun entry hentry => hselected.trans (hmay.opened entry hentry).symm, ?_⟩
    intro c hc hprotects
    exact hselected.trans (hmay.protects c hc hprotects).symm

/-- A conversation that protects a user after a message has been taken has done so
before, unless the message tells of an authentication. -/
theorem protects_of_take {conversation : Conversation} {message : WorkerMessage}
    {rest : List WorkerMessage} (hinbox : conversation.inbox = message :: rest)
    (hmessage : ∀ user, message ≠ .success (.Authenticate user))
    (h : (conversation.take message).protects = true) :
    conversation.protects = true ∧
      (conversation.take message).verified = conversation.verified := by
  have hverified : (conversation.take message).verified = conversation.verified := by
    show message.verifies conversation = conversation.verified
    unfold WorkerMessage.verifies
    split
    · exact absurd rfl (hmessage _)
    · rfl
  refine ⟨?_, hverified⟩
  obtain ⟨hsome, hopen⟩ := Bool.and_eq_true_iff.mp h
  rw [hverified] at hsome
  refine Bool.and_eq_true_iff.mpr ⟨hsome, ?_⟩
  rcases Bool.or_eq_true_iff.mp hopen with hconnected | hrest
  · exact Bool.or_eq_true_iff.mpr (.inl hconnected)
  · refine Bool.or_eq_true_iff.mpr (.inr ?_)
    have hrest' : rest.any WorkerMessage.isOpened = true := by
      simpa [Conversation.take, hinbox] using hrest
    rw [hinbox, List.any_cons, hrest', Bool.or_true]

/-- The step keeps the user: whomever it selects has been authenticated by every
worker whose session is open or can still be opened, and when it dispatches an
authentication the user is selected whose name the worker has. -/
def KeepsUser (s : GdmSession) (event : SessionEvent × Surroundings) : Prop :=
  (∀ username ∈ s.selections event.2 event.1, MayChoose s username) ∧
    match event.1 with
    | .deliver id =>
      match s.oldestMessage id with
      | some (conversation, .success (.Authenticate _)) =>
        conversation.connected = true → s.selectedUser = conversation.name
      | _ => True
    | _ => True

instance (s : GdmSession) (event : SessionEvent × Surroundings) :
    Decidable (KeepsUser s event) := by
  unfold KeepsUser
  refine @instDecidableAnd _ _ inferInstance ?_
  split
  · split <;> infer_instance
  · infer_instance

theorem UserInv.taken (hs : UserInv self) (hw : WellFormed self) (hv : VerifiedInv self)
    (hkeeps : Keeps nameMonitor (fun name view => name = view.username) self) {c : Conversation}
    (hc : c ∈ self.conversations) {message : WorkerMessage} {rest : List WorkerMessage}
    (hinbox : c.inbox = message :: rest)
    (hauthenticated : ∀ user, message = .success (.Authenticate user) → c.connected = true →
      self.selectedUser = c.name) : UserInv (self.taken c message) := by
  refine ⟨?_, ?_⟩
  · intro entry hentry
    rcases List.mem_append.mp hentry with hold | hnew
    · exact hs.opened entry hold
    · cases message with
      | success answer =>
        cases answer with
        | Open sessionId =>
          rw [List.mem_singleton.mp hnew]
          refine hs.protects c hc ?_
          have hsaid : .success (.Open sessionId) ∈ self.said c :=
            List.mem_append_right _ (by rw [hinbox]; exact List.mem_cons_self)
          have hverified := hv.said c hc _ hsaid rfl
          rw [Conversation.protects, hinbox, Option.isSome_iff_ne_none.mpr hverified]
          simp [WorkerMessage.isOpened]
        | _ => cases hnew
      | _ => cases hnew
  · intro d' hd' hprotects
    obtain ⟨d, hd, rfl⟩ := mem_taken.mp hd'
    show self.selectedUser = _
    by_cases hid : d.id = c.id
    · have heq : d = c := hw.eq_of_id hd hc hid
      subst heq
      rw [if_pos rfl] at hprotects ⊢
      by_cases hmessage : ∃ user, message = .success (.Authenticate user)
      · obtain ⟨user, rfl⟩ := hmessage
        obtain ⟨name, name', hread, hstep⟩ := hkeeps.next hc hinbox
        rw [hv.names d hc] at hread
        cases hread
        cases hconnected : d.connected with
        | true =>
          have hverified : (d.take (.success (.Authenticate user))).verified = some user := by
            simp [Conversation.take, WorkerMessage.verifies, hconnected]
          rw [hverified, hauthenticated user rfl hconnected, user_of_step hstep]
          rfl
        | false =>
          have hverified : (d.take (.success (.Authenticate user))).verified = d.verified := by
            simp [Conversation.take, WorkerMessage.verifies, hconnected]
          rw [hverified]
          refine hs.protects d hc ?_
          obtain ⟨hsome, hopen⟩ := Bool.and_eq_true_iff.mp hprotects
          rw [hverified] at hsome
          have hrest : rest.any WorkerMessage.isOpened = true := by
            simpa [Conversation.take, hinbox, hconnected] using hopen
          rw [Conversation.protects, hsome, hinbox, List.any_cons, hrest]
          simp
      · have hmessage' : ∀ user, message ≠ .success (.Authenticate user) :=
          fun user heq => hmessage ⟨user, heq⟩
        obtain ⟨hold, hsame⟩ := protects_of_take hinbox hmessage' hprotects
        rw [hsame]
        exact hs.protects d hc hold
    · rw [if_neg hid] at hprotects ⊢
      exact hs.protects d hd hprotects

theorem MayChoose.taken {username : String} (hs : MayChoose self username) (hw : WellFormed self)
    {c : Conversation} (hc : c ∈ self.conversations) {name : String} {rest : List WorkerMessage}
    (hinbox : c.inbox = .signal (.usernameChanged name) :: rest) :
    MayChoose (self.taken c (.signal (.usernameChanged name))) username := by
  refine ⟨?_, ?_⟩
  · intro entry hentry
    rcases List.mem_append.mp hentry with hold | hnew
    · exact hs.opened entry hold
    · cases hnew
  · intro d' hd' hprotects
    obtain ⟨d, hd, rfl⟩ := mem_taken.mp hd'
    by_cases hid : d.id = c.id
    · have heq : d = c := hw.eq_of_id hd hc hid
      subst heq
      rw [if_pos rfl] at hprotects ⊢
      obtain ⟨hold, hsame⟩ := protects_of_take hinbox (fun _ => WorkerMessage.noConfusion) hprotects
      rw [hsame]
      exact hs.protects d hc hold
    · rw [if_neg hid] at hprotects ⊢
      exact hs.protects d hd hprotects

/-- What holds of users between two steps. -/
structure UsersInv (s : GdmSession) : Prop where
  wellFormed : WellFormed s
  keeps : Keeps nameMonitor (fun name view => name = view.username) s
  verified : VerifiedInv s
  selected : UserInv s

theorem Takes.usersInv {event : SessionEvent} (around : Surroundings) {s : GdmSession}
    (h : Takes self event s) (hs : UsersInv self) (hkeeps : KeepsUser self (event, around)) :
    UsersInv s ∧ ∀ username ∈ self.selections around event, MayChoose s username := by
  cases h with
  | nothing => exact ⟨hs, hkeeps.1⟩
  | @message c message rest hevent hc hinbox holdest =>
    subst hevent
    have hauthenticated : ∀ user, message = .success (.Authenticate user) → c.connected = true →
        self.selectedUser = c.name := by
      rintro user rfl
      have hkept := hkeeps.2
      simp only [holdest] at hkept
      exact hkept
    refine ⟨⟨hs.wellFormed.taken hc hinbox, hs.keeps.taken hs.wellFormed hc hinbox,
      hs.verified.taken hs.wellFormed hs.keeps hc hinbox,
      hs.selected.taken hs.wellFormed hs.verified hs.keeps hc hinbox hauthenticated⟩, ?_⟩
    intro username hmem
    have hmay := hkeeps.1 username hmem
    simp only [selections, holdest] at hmem
    split at hmem
    · rename_i heq
      cases heq
      exact hmay.taken hs.wellFormed hc hinbox
    · cases hmem

theorem step_usersInv {event : SessionEvent × Surroundings} (hs : UsersInv self)
    (hkeeps : KeepsUser self event) : UsersInv (self.step event) := by
  obtain ⟨s, htakes, hmoves⟩ := step_moves hs.wellFormed event.1 event.2
  obtain ⟨htaken, hmay⟩ := htakes.usersInv event.2 hs hkeeps
  refine (hmoves.preserves (P := fun s => UsersInv s ∧
    ∀ username ∈ self.selections event.2 event.1, MayChoose s username) ?_ ⟨htaken, hmay⟩).1
  rintro s s' hmove ⟨hinv, hmay⟩
  refine ⟨⟨hmove.wellFormed hinv.wellFormed,
    hmove.keeps follows_nameMonitor hinv.wellFormed hinv.keeps,
    hmove.verifiedInv hinv.wellFormed hinv.verified,
    hmove.userInv hinv.wellFormed hinv.verified hmay hinv.selected⟩, ?_⟩
  intro username hmem
  exact hmove.mayChoose hinv.wellFormed hinv.verified (hmay username hmem)

/-- Every session that is open is open for the selected user. -/
def OpenedUsers (s : GdmSession) : Prop :=
  ∀ entry ∈ s.opened, s.getUsername = entry.2

instance : Decidable (OpenedUsers self) :=
  inferInstanceAs (Decidable (∀ entry ∈ self.opened, _))

/-- In every run whose steps keep the user, the session has the username of the user
whom the worker has authenticated from the opening of the session on. -/
theorem run_openedUsers {s : GdmSession} (hstart : machine.Start s)
    {events : List (SessionEvent × Surroundings)}
    (h : machine.Meets KeepsUser s events) : OpenedUsers (machine.run s events) := by
  have hinv : UsersInv (machine.run s events) := by
    refine h.invariant UsersInv (fun _ _ hs hkeeps => step_usersInv hs hkeeps) ?_
    refine ⟨run_wellFormed hstart [], run_keeps follows_nameMonitor hstart [], ?_, ?_⟩
    · obtain ⟨owner, hostname, device, seatId, isLocal, rfl⟩ := hstart
      exact ⟨by simp [new], by simp [new], by simp [new], by simp [new]⟩
    · obtain ⟨owner, hostname, device, seatId, isLocal, rfl⟩ := hstart
      exact ⟨by simp [new], by simp [new]⟩
  exact hinv.selected.opened

theorem passwordLogin_openedUsers :
    OpenedUsers (machine.run greeterSession (passwordLogin.take 13)) :=
  run_openedUsers start_greeterSession (by decide)

/-- A client selects another user when the session has been opened. -/
theorem selectAfterOpen_not_openedUsers : ¬ OpenedUsers (machine.run greeterSession
    (passwordLogin.take 13 ++ ([(.client (.selectUser "bob"), {})] :
      List (SessionEvent × Surroundings)))) := by
  decide

end GdmSession

end Gdm
