import Gdm.Session.Moves

/-!
# Well-formed sessions

The invariant of the table of conversations that every move keeps: numbers and
names are unique, a worker that has not said Hello has no connection, and a
session for reauthentication opens nothing.
-/

namespace Gdm

/-- What holds of every conversation in the table.  -/
structure Conversation.Sane (mode : VerificationMode) (c : Conversation) : Prop where
  hello : c.workerProxy = false → c.connected = false ∧ c.outstanding = [] ∧ c.inbox = []
  opens : mode = .reauthenticate →
    .Open ∉ c.outstanding ∧ ∀ sessionId, .success (.Open sessionId) ∉ c.inbox

/-- An answer that opens a session is one to Open. -/
theorem call_of_opens {view worker : WorkerView} {call : WorkerCall} {sessionId : String}
    (h : view.perform call (.Open sessionId) = some worker) : call = .Open := by
  cases call with
  | Open => rfl
  | _ => simp [WorkerView.perform] at h

theorem Conversation.Sane.proxy_of_connected {mode : VerificationMode} {c : Conversation}
    (hc : c.Sane mode) (h : c.connected = true) : c.workerProxy = true := by
  cases hproxy : c.workerProxy with
  | true => rfl
  | false => simp [(hc.hello hproxy).1] at h

theorem Conversation.Sane.proxy_of_inbox {mode : VerificationMode} {c : Conversation}
    (hc : c.Sane mode) {message : WorkerMessage} {rest : List WorkerMessage}
    (h : c.inbox = message :: rest) : c.workerProxy = true := by
  cases hproxy : c.workerProxy with
  | true => rfl
  | false => simp [(hc.hello hproxy).2.2] at h

/-- A conversation that a message is put into the queue of. -/
theorem Conversation.Sane.reply {mode : VerificationMode} {c : Conversation} (hc : c.Sane mode)
    (hconnected : c.connected = true) {call : WorkerCall} {worker : WorkerView}
    {message : WorkerMessage}
    (hopen : ∀ sessionId, message = .success (.Open sessionId) → .Open ∈ c.outstanding) :
    Conversation.Sane mode { c with
      outstanding := c.outstanding.erase call
      worker := worker
      inbox := c.inbox ++ [message] } where
  hello h := by
    have hproxy := hc.proxy_of_connected hconnected
    have hno : c.workerProxy = false := h
    simp [hproxy] at hno
  opens hmode := by
    have hopens := hc.opens hmode
    refine ⟨fun h => hopens.1 (List.mem_of_mem_erase h), ?_⟩
    intro sessionId hmem
    rcases List.mem_append.mp hmem with hold | hnew
    · exact hopens.2 sessionId hold
    · exact hopens.1 (hopen sessionId (List.mem_singleton.mp hnew).symm)

/-- In a list without duplicate keys a search by key finds the entry. -/
theorem find?_eq_some_of_nodup {α β : Type} [DecidableEq β] {key : α → β} {xs : List α}
    (hnodup : (xs.map key).Nodup) {x : α} (hx : x ∈ xs) :
    xs.find? (fun y => key y = key x) = some x := by
  rw [List.find?_eq_some_iff_append]
  obtain ⟨as, bs, heq⟩ := List.append_of_mem hx
  refine ⟨by simp, as, bs, heq, ?_⟩
  intro y hy
  rw [heq, List.map_append, List.map_cons, List.nodup_middle] at hnodup
  have hne : key y ≠ key x := by
    intro hkey
    have hnot := (List.nodup_cons.mp hnodup).1
    exact hnot (hkey ▸ List.mem_append_left _ (List.mem_map_of_mem hy))
  simp [hne]

namespace GdmSession

variable {self self' self'' : GdmSession} {p : Permits}

/-- What holds of a session between two callbacks, and between two moves. -/
structure WellFormed (s : GdmSession) : Prop where
  ids : (s.conversations.map Conversation.id).Nodup
  names : (s.conversations.map Conversation.serviceName).Nodup
  fresh : ∀ c ∈ s.conversations, c.id < s.nextConversation
  nulls : ∀ c ∈ s.conversations, c.serviceName ∉ s.nullConversations
  sane : ∀ c ∈ s.conversations, c.Sane s.verificationMode
  session : ∀ c ∈ s.conversations, s.sessionConversation = some c.id → c.workerProxy = true
  attached : ∀ id, s.sessionConversation = some id → id < s.nextConversation
  dispatched : ∀ id message, .delivered id message ∈ s.log →
    id < s.nextConversation ∧ ∀ c ∈ s.conversations, c.id = id → c.workerProxy = true
  mode : s.verificationMode = s.owner.verificationMode

theorem wellFormed_new (owner : Owner) (hostname device seatId : Option String)
    (isLocal : Bool) : WellFormed (new owner hostname device seatId isLocal) where
  ids := List.nodup_nil
  names := List.nodup_nil
  fresh := by simp [new]
  nulls := by simp [new]
  sane := by simp [new]
  session := by simp [new]
  attached := by simp [new]
  dispatched := by simp [new]
  mode := rfl

/-- A conversation of the table is known by its number. -/
theorem WellFormed.eq_of_id (hs : WellFormed self) {c d : Conversation}
    (hc : c ∈ self.conversations) (hd : d ∈ self.conversations) (hid : c.id = d.id) : c = d :=
  List.inj_on_of_nodup_map hs.ids hc hd hid

/-- A conversation of the table is known by the name of its service. -/
theorem WellFormed.eq_of_name (hs : WellFormed self) {c d : Conversation}
    (hc : c ∈ self.conversations) (hd : d ∈ self.conversations)
    (hname : c.serviceName = d.serviceName) : c = d :=
  List.inj_on_of_nodup_map hs.names hc hd hname

theorem WellFormed.findConversationByName (hs : WellFormed self) {c : Conversation}
    (hc : c ∈ self.conversations) :
    self.findConversationByName c.serviceName = some c :=
  find?_eq_some_of_nodup hs.names hc

theorem WellFormed.conversationAt (hs : WellFormed self) {c : Conversation}
    (hc : c ∈ self.conversations) : self.conversationAt c.id = some c :=
  find?_eq_some_of_nodup hs.ids hc

theorem mem_of_conversationAt {id : Nat} {c : Conversation}
    (h : self.conversationAt id = some c) : c ∈ self.conversations ∧ c.id = id :=
  ⟨List.mem_of_find?_eq_some h, by simpa using List.find?_some h⟩

theorem mem_of_findConversationByName {serviceName : String} {c : Conversation}
    (h : self.findConversationByName serviceName = some c) :
    c ∈ self.conversations ∧ c.serviceName = serviceName :=
  ⟨List.mem_of_find?_eq_some h, by simpa using List.find?_some h⟩

/-- The fields beside the table that well-formedness reads. -/
structure SameFrame (s s' : GdmSession) : Prop where
  verificationMode : s'.verificationMode = s.verificationMode
  owner : s'.owner = s.owner
  nullConversations : s'.nullConversations = s.nullConversations
  sessionConversation : s'.sessionConversation = s.sessionConversation ∨
    s'.sessionConversation = none
  nextConversation : s'.nextConversation = s.nextConversation
  delivered : ∀ id message, .delivered id message ∈ s'.log → .delivered id message ∈ s.log

/-- A session whose table has lost conversations, if anything. -/
theorem WellFormed.of_sublist (hs : WellFormed self) (hframe : SameFrame self self')
    (hconversations : self'.conversations.Sublist self.conversations) : WellFormed self' where
  ids := (hconversations.map _).nodup hs.ids
  names := (hconversations.map _).nodup hs.names
  fresh c hc := hframe.nextConversation ▸ hs.fresh c (hconversations.subset hc)
  nulls c hc := hframe.nullConversations ▸ hs.nulls c (hconversations.subset hc)
  sane c hc := hframe.verificationMode ▸ hs.sane c (hconversations.subset hc)
  session c hc h := by
    rcases hframe.sessionConversation with hsame | hnone
    · exact hs.session c (hconversations.subset hc) (hsame ▸ h)
    · rw [hnone] at h
      cases h
  attached id h := by
    rcases hframe.sessionConversation with hsame | hnone
    · exact hframe.nextConversation ▸ hs.attached id (hsame ▸ h)
    · rw [hnone] at h
      cases h
  dispatched id message h := by
    obtain ⟨hlt, hproxy⟩ := hs.dispatched id message (hframe.delivered id message h)
    exact ⟨hframe.nextConversation ▸ hlt, fun c hc => hproxy c (hconversations.subset hc)⟩
  mode := by rw [hframe.verificationMode, hframe.owner, hs.mode]

/-- A session whose conversations have changed in place. -/
theorem WellFormed.map (hs : WellFormed self) {f : Conversation → Conversation}
    (hid : ∀ c, (f c).id = c.id) (hname : ∀ c, (f c).serviceName = c.serviceName)
    (hproxy : ∀ c, c.workerProxy = true → (f c).workerProxy = true)
    (hsane : ∀ c ∈ self.conversations, c.Sane self.verificationMode →
      (f c).Sane self.verificationMode) :
    WellFormed { self with conversations := self.conversations.map f } where
  ids := by
    have heq : (self.conversations.map f).map Conversation.id =
        self.conversations.map Conversation.id := by
      rw [List.map_map]
      exact List.map_congr_left fun c _ => hid c
    rw [heq]
    exact hs.ids
  names := by
    have heq : (self.conversations.map f).map Conversation.serviceName =
        self.conversations.map Conversation.serviceName := by
      rw [List.map_map]
      exact List.map_congr_left fun c _ => hname c
    rw [heq]
    exact hs.names
  fresh c' hc' := by
    obtain ⟨c, hc, rfl⟩ := List.mem_map.mp hc'
    rw [hid]
    exact hs.fresh c hc
  nulls c' hc' := by
    obtain ⟨c, hc, rfl⟩ := List.mem_map.mp hc'
    rw [hname]
    exact hs.nulls c hc
  sane c' hc' := by
    obtain ⟨c, hc, rfl⟩ := List.mem_map.mp hc'
    exact hsane c hc (hs.sane c hc)
  session c' hc' h := by
    obtain ⟨c, hc, rfl⟩ := List.mem_map.mp hc'
    exact hproxy c (hs.session c hc (hid c ▸ h))
  attached := hs.attached
  dispatched id message h := by
    obtain ⟨hlt, hdelivered⟩ := hs.dispatched id message h
    refine ⟨hlt, ?_⟩
    intro c' hc' hid'
    obtain ⟨c, hc, rfl⟩ := List.mem_map.mp hc'
    exact hproxy c (hdelivered c hc (hid c ▸ hid'))
  mode := hs.mode

/-- A session in which one conversation has changed. -/
theorem WellFormed.modify (hs : WellFormed self) {i : Nat} {f : Conversation → Conversation}
    (hid : ∀ c, (f c).id = c.id) (hname : ∀ c, (f c).serviceName = c.serviceName)
    (hproxy : ∀ c, c.workerProxy = true → (f c).workerProxy = true)
    (hsane : ∀ c ∈ self.conversations, c.id = i → c.Sane self.verificationMode →
      (f c).Sane self.verificationMode) :
    WellFormed (self.modifyConversation i f) := by
  refine hs.map (fun c => ?_) (fun c => ?_) (fun c => ?_) ?_
  · split <;> simp [hid]
  · split <;> simp [hname]
  · split
    · exact hproxy c
    · exact fun h => h
  · intro c hc
    split
    · rename_i hcid
      exact hsane c hc hcid
    · exact fun h => h

/-- A move that leaves the table and what goes with it alone. -/
theorem WellFormed.of_same (hs : WellFormed self) (hframe : SameFrame self self')
    (hconversations : self'.conversations = self.conversations) : WellFormed self' :=
  hs.of_sublist hframe (hconversations ▸ List.Sublist.refl _)

/-- A new entry of the history. -/
theorem WellFormed.emit (hs : WellFormed self) {effect : SessionEffect}
    (h : effect.dispatches = none) : WellFormed (self.emit effect) := by
  refine hs.of_same ⟨rfl, rfl, rfl, .inl rfl, rfl, ?_⟩ rfl
  intro id message hmem
  rcases List.mem_append.mp hmem with hold | hnew
  · exact hold
  · rw [← List.mem_singleton.mp hnew] at h
    cases h

theorem inserted_conversations (self : GdmSession) (n : String) (pid : Int) :
    (self.inserted n pid).conversations =
      (self.conversations.filter fun c => !decide (c.serviceName = n)) ++
        [{ id := self.nextConversation, serviceName := n, workerPid := pid }] := by
  simp [GdmSession.inserted, freeConversations, spawnWorker, GdmSession.emit]

theorem WellFormed.inserted {n : String} {pid : Int} (hs : WellFormed self)
    (hnull : n ∉ self.nullConversations) (h : Move p self (self.inserted n pid)) :
    WellFormed (self.inserted n pid) := by
  have hconversations := inserted_conversations self n pid
  have hsublist : (self.conversations.filter fun c => !decide (c.serviceName = n)).Sublist
      self.conversations := List.filter_sublist
  refine ⟨?_, ?_, ?_, ?_, ?_, ?_, ?_, ?_, hs.mode⟩
  · rw [hconversations, List.map_append, List.map_singleton, ← List.concat_eq_append,
      List.nodup_concat]
    refine ⟨?_, (hsublist.map _).nodup hs.ids⟩
    intro hmem
    obtain ⟨c, hc, hid⟩ := List.mem_map.mp hmem
    exact absurd hid (Nat.ne_of_lt (hs.fresh c (hsublist.subset hc)))
  · rw [hconversations, List.map_append, List.map_singleton, ← List.concat_eq_append,
      List.nodup_concat]
    refine ⟨?_, (hsublist.map _).nodup hs.names⟩
    intro hmem
    obtain ⟨c, hc, hname⟩ := List.mem_map.mp hmem
    have hne := (List.mem_filter.mp hc).2
    simp [hname] at hne
  · intro c hc
    rcases mem_inserted.mp hc with ⟨hc, _⟩ | rfl
    · exact Nat.lt_succ_of_lt (hs.fresh c hc)
    · exact Nat.lt_succ_self _
  · intro c hc
    rcases mem_inserted.mp hc with ⟨hc, _⟩ | rfl
    · exact hs.nulls c hc
    · exact hnull
  · intro c hc
    rcases mem_inserted.mp hc with ⟨hc, _⟩ | rfl
    · exact hs.sane c hc
    · exact ⟨fun _ => ⟨rfl, rfl, rfl⟩, fun _ => ⟨by simp, by simp⟩⟩
  · intro c hc hsession
    rcases mem_inserted.mp hc with ⟨hc, _⟩ | rfl
    · exact hs.session c hc hsession
    · exact absurd (hs.attached _ hsession) (Nat.lt_irrefl _)
  · intro id hsession
    exact Nat.lt_succ_of_lt (hs.attached id hsession)
  · intro id message hmem
    obtain ⟨hlt, hproxy⟩ := hs.dispatched id message (h.delivered hmem)
    refine ⟨Nat.lt_succ_of_lt hlt, ?_⟩
    intro c hc hid
    rcases mem_inserted.mp hc with ⟨hc, _⟩ | rfl
    · exact hproxy c hc hid
    · exact absurd hid (Nat.ne_of_gt hlt)

theorem WellFormed.insertedNull {n : String} (hs : WellFormed self)
    (h : Move p self (self.insertedNull n)) : WellFormed (self.insertedNull n) where
  ids := ((List.filter_sublist.map _).nodup hs.ids)
  names := ((List.filter_sublist.map _).nodup hs.names)
  fresh c hc := hs.fresh c (mem_insertedNull.mp hc).1
  nulls c hc := by
    obtain ⟨hold, hne⟩ := mem_insertedNull.mp hc
    intro hmem
    rcases List.mem_cons.mp hmem with heq | hmem
    · exact hne heq
    · exact hs.nulls c hold hmem
  sane c hc := hs.sane c (mem_insertedNull.mp hc).1
  session c hc := hs.session c (mem_insertedNull.mp hc).1
  attached := hs.attached
  dispatched id message hmem := by
    obtain ⟨hlt, hproxy⟩ := hs.dispatched id message (h.delivered hmem)
    exact ⟨hlt, fun c hc => hproxy c (mem_insertedNull.mp hc).1⟩
  mode := hs.mode

/-- A call on a connection is no harm, unless it is one for opening a session in a
session for reauthentication. -/
theorem WellFormed.callWorker (hs : WellFormed self) {c : Conversation} {call : WorkerCall}
    (hc : c ∈ self.conversations)
    (hopen : call = .Open → self.verificationMode = .login) :
    WellFormed (self.callWorker c call) := by
  cases hproxy : c.workerProxy with
  | false =>
    rw [callWorker_of_no_proxy hproxy]
    exact hs.emit rfl
  | true =>
    rw [callWorker_of_proxy hproxy]
    have hemit : WellFormed (self.emit (.called c.id call)) := hs.emit rfl
    refine hemit.modify (fun d => by split <;> rfl) (fun d => by split <;> rfl)
      (fun d => by split <;> exact fun h => h) ?_
    intro d hd hid hsane
    have hdc : d = c := hs.eq_of_id hd hc hid
    split
    · refine ⟨fun h => ?_, fun hmode => ⟨?_, (hsane.opens hmode).2⟩⟩
      · have hno : c.workerProxy = false := hdc ▸ h
        simp [hproxy] at hno
      · intro hmem
        rcases List.mem_append.mp hmem with hold | hnew
        · exact (hsane.opens hmode).1 hold
        · have hlogin := hopen (List.mem_singleton.mp hnew).symm
          have hreauth : self.verificationMode = .reauthenticate := hmode
          rw [hlogin] at hreauth
          cases hreauth
    · exact hsane

/-- Every move keeps the session well formed. -/
theorem Move.wellFormed (h : Move p self self') (hs : WellFormed self) : WellFormed self' := by
  have hdelivered : ∀ id message, .delivered id message ∈ self'.log →
      .delivered id message ∈ self.log := fun _ _ => h.delivered
  have hmove := h
  cases h with
  | aside h =>
    exact hs.of_same ⟨h.verificationMode, h.owner, h.nullConversations, h.sessionConversation,
      h.nextConversation, hdelivered⟩ h.conversations
  | adjusts h =>
    refine hs.map h.id h.serviceName (fun c hproxy => (h.workerProxy c).trans hproxy) ?_
    intro c _ hsane
    refine ⟨fun hproxy => ?_, fun hmode => ?_⟩
    · obtain ⟨hconnected, houtstanding, hinbox⟩ := hsane.hello ((h.workerProxy c).symm.trans hproxy)
      refine ⟨?_, ?_, (h.inbox c).trans hinbox⟩
      · cases hconn : (_ : Conversation).connected with
        | false => rfl
        | true => simp [h.connected c hconn] at hconnected
      · exact List.eq_nil_of_subset_nil (houtstanding ▸ h.outstanding c)
    · rw [h.inbox]
      exact ⟨fun hopen => (hsane.opens hmode).1 (h.outstanding c hopen), (hsane.opens hmode).2⟩
  | @registers c hc hproxy =>
    have hemit : WellFormed (self.emit (.registered c.id)) := hs.emit rfl
    refine hemit.modify (fun _ => rfl) (fun _ => rfl) (fun _ _ => rfl) ?_
    intro d _ _ hsane
    exact ⟨fun h => Bool.noConfusion h, hsane.opens⟩
  | selects _ => exact hs.of_same ⟨rfl, rfl, rfl, .inl rfl, rfl, hdelivered⟩ rfl
  | calls hc hprompted _ =>
    refine hs.callWorker hc ?_
    rintro rfl
    exact hprompted.1
  | @asks c pid uid hc hsession =>
    have hmodify : WellFormed
        (self.modifyConversation c.id fun c => { c with reauthPidOfCaller := pid }) :=
      hs.modify (fun _ => rfl) (fun _ => rfl) (fun _ h => h) fun d _ _ hsane =>
        ⟨hsane.hello, hsane.opens⟩
    have hmem : { c with reauthPidOfCaller := pid } ∈
        (self.modifyConversation c.id fun c => { c with reauthPidOfCaller := pid }).conversations :=
      mem_modifyConversation.mpr ⟨c, hc, by simp⟩
    have hopen : WorkerCall.StartReauthentication pid uid = .Open →
        self.verificationMode = .login := fun h => by cases h
    have hcalled := hmodify.callWorker hmem hopen
    exact hcalled
  | inserts hnull _ => exact hs.inserted hnull hmove
  | insertsNull _ => exact hs.insertedNull hmove
  | resets _ _ =>
    refine ⟨by simp, by simp, by simp, by simp, by simp, by simp, ?_, ?_, hs.mode⟩
    · intro id h
      simp [doReset, stopAllConversations, freeConversations, GdmSession.emit] at h
    · intro id message hmem
      exact ⟨(hs.dispatched id message (hdelivered id message hmem)).1, by simp⟩
  | steals _ _ =>
    exact hs.of_sublist ⟨rfl, rfl, rfl, .inl rfl, rfl, hdelivered⟩ List.filter_sublist
  | concludes _ => exact hs.emit rfl
  | verifies _ _ _ => exact hs.emit rfl
  | opens _ _ _ => exact hs.emit rfl
  | keepsSessionId _ _ => exact hs.of_same ⟨rfl, rfl, rfl, .inl rfl, rfl, hdelivered⟩ rfl
  | setsOpened _ _ => exact hs.of_same ⟨rfl, rfl, rfl, .inl rfl, rfl, hdelivered⟩ rfl
  | conflicts _ => exact hs.emit rfl
  | @starts c pid hc hdispatching =>
    obtain ⟨effect, hmem, heffect⟩ := History.exists_mem_of_lastSome hdispatching
    have heq : effect = .delivered c.id (.success (.StartProgram pid)) := by
      cases effect <;> simp [SessionEffect.dispatches] at heffect
      simp [heffect]
    have hold := hs.dispatched c.id _ (heq ▸ hmem)
    refine ⟨hs.ids, hs.names, hs.fresh, hs.nulls, hs.sane, ?_, ?_, ?_, hs.mode⟩
    · intro d hd hsession
      have hid : c.id = d.id := Option.some.inj hsession
      exact hold.2 d hd hid.symm
    · intro id hsession
      exact Option.some.inj hsession ▸ hs.fresh c hc
    · intro id message hmem
      exact hs.dispatched id message (hdelivered id message hmem)
  | marks _ _ => exact hs.emit rfl
  | reauthenticates _ _ => exact hs.emit rfl
  | forgetsCaller _ _ _ =>
    exact hs.modify (fun _ => rfl) (fun _ => rfl) (fun _ h => h) fun d _ _ hsane =>
      ⟨hsane.hello, hsane.opens⟩
  | @answers c call answer worker hc hconnected hcall hperform =>
    have hemit : WellFormed (self.emit (.answered c.id call answer)) := hs.emit rfl
    refine hemit.modify (fun _ => rfl) (fun _ => rfl) (fun _ h => h) ?_
    intro d hd hid hsane
    have heq : d = c := hs.eq_of_id hd hc hid
    refine hsane.reply (heq ▸ hconnected) ?_
    intro sessionId hanswer
    cases hanswer
    rw [heq, ← call_of_opens hperform]
    exact hcall
  | @fails c call error state hc hconnected _ _ =>
    refine hs.modify (fun _ => rfl) (fun _ => rfl) (fun _ h => h) ?_
    intro d hd hid hsane
    have heq : d = c := hs.eq_of_id hd hc hid
    exact hsane.reply (heq ▸ hconnected) (by simp)
  | @sends c signal worker hc hconnected _ =>
    refine hs.modify (fun _ => rfl) (fun _ => rfl) (fun _ h => h) ?_
    intro d hd hid hsane
    have heq : d = c := hs.eq_of_id hd hc hid
    have hproxy : d.workerProxy = true := hsane.proxy_of_connected (heq ▸ hconnected)
    refine ⟨fun h => ?_, fun hmode => ?_⟩
    · have hno : d.workerProxy = false := h
      simp [hproxy] at hno
    · exact ⟨(hsane.opens hmode).1, fun sessionId hmem =>
        (hsane.opens hmode).2 sessionId (by simpa using hmem)⟩
  | queryPends serviceName _ _ =>
    have hreceive : WellFormed (self.receiveQuery serviceName) :=
      hs.of_same ⟨rfl, rfl, rfl, .inl rfl, rfl, hdelivered⟩ rfl
    exact hreceive.modify (fun _ => rfl) (fun _ => rfl) (fun _ h => h) fun d _ _ hsane =>
      ⟨hsane.hello, hsane.opens⟩
  | queryRefused _ _ => exact hs.of_same ⟨rfl, rfl, rfl, .inl rfl, rfl, hdelivered⟩ rfl
  | queryLost _ _ => exact hs.of_same ⟨rfl, rfl, rfl, .inl rfl, rfl, hdelivered⟩ rfl
  | queryAborts _ _ => exact hs.of_same ⟨rfl, rfl, rfl, .inl rfl, rfl, hdelivered⟩ rfl
  | @completes c reply hc _ =>
    have hcomplete : WellFormed (self.completeQuery c.pendingInvocation reply) := hs.emit rfl
    exact hcomplete.modify (fun _ => rfl) (fun _ => rfl) (fun _ h => h) fun d _ _ hsane =>
      ⟨hsane.hello, hsane.opens⟩
  | returnsCall _ => exact hs.of_same ⟨rfl, rfl, rfl, .inl rfl, rfl, hdelivered⟩ rfl
  | losesCall _ => exact hs.of_same ⟨rfl, rfl, rfl, .inl rfl, rfl, hdelivered⟩ rfl
  | @begins c username hc _ _ =>
    have hbegan : WellFormed ({ self with nextInvocation := self.nextInvocation + 1 }.emit
        (.began c.id self.nextInvocation)) :=
      hs.of_same ⟨rfl, rfl, rfl, .inl rfl, rfl, hdelivered⟩ rfl
    exact hbegan.modify (fun _ => rfl) (fun _ => rfl) (fun _ h => h) fun d _ _ hsane =>
      ⟨hsane.hello, hsane.opens⟩
  | @returnsStarting c error hc _ =>
    have hreturned : WellFormed (self.emit (.returned c.startingInvocation error)) := hs.emit rfl
    exact hreturned.modify (fun _ => rfl) (fun _ => rfl) (fun _ h => h) fun d _ _ hsane =>
      ⟨hsane.hello, hsane.opens⟩

theorem Moves.wellFormed (h : Moves p self self') (hs : WellFormed self) : WellFormed self' :=
  h.preserves (fun _ _ hmove => hmove.wellFormed) hs

theorem Moves.dispatching (h : Moves p self self') :
    dispatching self'.log = dispatching self.log :=
  h.preserves (P := fun s => Gdm.dispatching s.log = Gdm.dispatching self.log)
    (fun _ _ hmove heq => hmove.dispatching.trans heq) rfl

end GdmSession

end Gdm
