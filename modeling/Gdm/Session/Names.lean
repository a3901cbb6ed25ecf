import Gdm.Session.Users

/-!
# The name of the user on the two sides

A worker announces the username it has whenever the authentication modules change
it, and the daemon selects the user that is announced.  No user is announced by
the empty text, which `gdm_session_select_user` is called with `NULL` for and
refuses: the user selected before stays.
-/

namespace Gdm

/-- The name that a message announces. -/
def WorkerMessage.announcement : WorkerMessage → Option String
  | signal (.usernameChanged username) => some username
  | _ => none

/-- An announcement is among the messages. -/
def announces (messages : List WorkerMessage) : Bool :=
  messages.any fun message => message.announcement.isSome

/-- The name that has been announced last. -/
def lastAnnouncement (messages : List WorkerMessage) : Option String :=
  History.lastSome WorkerMessage.announcement messages

theorem lastAnnouncement_concat {messages : List WorkerMessage} {message : WorkerMessage}
    (h : message.announcement = none) :
    lastAnnouncement (messages ++ [message]) = lastAnnouncement messages :=
  History.lastSome_append (by simpa using h)

theorem announces_append {messages new : List WorkerMessage} (h : announces messages = true) :
    announces (messages ++ new) = true := by
  rw [announces, List.any_append]
  exact Bool.or_eq_true_iff.mpr (.inl h)

/-- A client asks for a user to be selected. -/
def SessionEvent.selectsUser : SessionEvent → Bool
  | client (.selectUser _) => true
  | _ => false

namespace GdmSession

variable {self self' : GdmSession} {p : Permits} {around : Surroundings}

/-- One conversation at most is started in the run, and no client selects a user
after its start. -/
structure SoleConversation (s : GdmSession) (events : List (SessionEvent × Surroundings)) :
    Prop where
  single : (machine.run s events).nextConversation ≤ 1
  unselected : machine.Meets (fun s event => event.1.selectsUser = true → s.nextConversation = 0)
    s events

/-- When no announcement of a worker is in flight, the user that it has announced
last is selected. -/
def NamesAgree (s : GdmSession) : Prop :=
  ∀ c ∈ s.conversations, announces c.inbox = false →
    ∀ username, lastAnnouncement (deliveredTo c.id s.log) = some username →
      s.selectedUser = announcedUser username

instance : Decidable (NamesAgree self) :=
  decidable_of_iff (∀ c ∈ self.conversations, announces c.inbox = false →
      (lastAnnouncement (deliveredTo c.id self.log)).all
        (fun username => self.selectedUser = announcedUser username) = true) <| by
    refine forall₃_congr fun c _ _ => ?_
    cases lastAnnouncement (deliveredTo c.id self.log) <;> simp

/-- The user may be selected: no worker has announced another one last. -/
def MaySelect (s : GdmSession) (username : String) : Prop :=
  ∀ c ∈ s.conversations, announces c.inbox = true ∨
    (lastAnnouncement (deliveredTo c.id s.log)).all
      (fun name => announcedUser name = some username) = true

instance (s : GdmSession) (username : String) : Decidable (MaySelect s username) :=
  inferInstanceAs (Decidable (∀ c ∈ s.conversations, _ ∨ _))

/-- The step keeps the names in agreement: the last announcement in flight is not
an empty one while a user is selected, and a client does not begin the automatic
login of another user than a worker has announced last. -/
def KeepsName (s : GdmSession) (event : SessionEvent × Surroundings) : Prop :=
  match event.1 with
  | .deliver id =>
    (s.oldestMessage id).all (fun entry =>
      entry.2.announcement.all fun username =>
        !username.isEmpty || announces entry.1.inbox.tail || s.selectedUser.isNone) = true
  | .client (.beginAutoLogin username) =>
    s.exports .greeter = true → s.isRunning = false → MaySelect s username
  | _ => True

instance (s : GdmSession) (event : SessionEvent × Surroundings) :
    Decidable (KeepsName s event) := by
  obtain ⟨event, around⟩ := event
  cases event with
  | deliver id => exact inferInstanceAs (Decidable (_ = true))
  | client call =>
    cases call with
    | beginAutoLogin username => exact inferInstanceAs (Decidable (_ → _ → _))
    | _ => exact inferInstanceAs (Decidable True)
  | _ => exact inferInstanceAs (Decidable True)

/-- A conversation after a move had all its announcements before, or none. -/
theorem Move.announced (h : Move p self self') (hw : WellFormed self) {c' : Conversation}
    (hc' : c' ∈ self'.conversations) :
    (∃ c ∈ self.conversations, c'.id = c.id ∧ (announces c.inbox = true →
      announces c'.inbox = true) ∧ deliveredTo c'.id self'.log = deliveredTo c.id self.log) ∨
      deliveredTo c'.id self'.log = [] := by
  rw [h.delivered_log]
  rcases h.image hw hc' with ⟨c, hc, hevolves⟩ | ⟨_, _, _, hid, rfl⟩
  · refine .inl ⟨c, hc, hevolves.id, ?_, by rw [hevolves.id]⟩
    cases hevolves with
    | harmless h =>
      rw [h.inbox]
      exact fun h => h
    | answers _ _ _ _ => exact announces_append
    | fails _ _ _ => exact announces_append
    | sends _ _ => exact announces_append
    | _ => exact fun h => h
  · exact .inr (deliveredTo_of_fresh hw)

theorem Move.maySelect (h : Move p self self') (hw : WellFormed self) {username : String}
    (hs : MaySelect self username) : MaySelect self' username := by
  intro c' hc'
  rcases h.announced hw hc' with ⟨c, hc, _, hannounces, hdelivered⟩ | hnone
  · rw [hdelivered]
    exact (hs c hc).imp hannounces id
  · rw [hnone]
    exact .inr rfl

theorem Move.namesAgree (h : Move p self self') (hw : WellFormed self)
    (hselects : ∀ username, p.selects username → MaySelect self username)
    (hs : NamesAgree self) : NamesAgree self' := by
  intro c' hc' hquiet username hlast
  have hselects' : ∀ username, p.selects username → MaySelect self' username :=
    fun username hselect => h.maySelect hw (hselects username hselect)
  rcases h.selectedUser with hsame | hempty | ⟨name, hselect, hselected⟩
  · rcases h.announced hw hc' with ⟨c, hc, _, hannounces, hdelivered⟩ | hnone
    · rw [hsame]
      refine hs c hc ?_ username (hdelivered ▸ hlast)
      cases hinbox : announces c.inbox with
      | false => rfl
      | true => exact absurd (hquiet.symm.trans (hannounces hinbox)) Bool.false_ne_true
    · rw [hnone] at hlast
      cases hlast
  · rw [hempty.1] at hc'
    cases hc'
  · rw [hselected]
    rcases hselects' name hselect c' hc' with hinbox | hall
    · exact absurd (hquiet.symm.trans hinbox) Bool.false_ne_true
    · rw [hlast] at hall
      exact (of_decide_eq_true hall).symm

/-- Numbers of conversations are given in turn. -/
theorem Move.nextConversation_le (h : Move p self self') :
    self.nextConversation ≤ self'.nextConversation := by
  cases h with
  | aside h => exact Nat.le_of_eq h.nextConversation.symm
  | calls _ _ _ =>
    unfold callWorker
    split <;> exact Nat.le_refl _
  | asks _ _ _ _ =>
    unfold callWorker
    split <;> exact Nat.le_refl _
  | inserts _ _ => exact Nat.le_succ _
  | _ => exact Nat.le_refl _

theorem step_nextConversation_le (hw : WellFormed self) (event : SessionEvent × Surroundings) :
    self.nextConversation ≤ (self.step event).nextConversation := by
  refine step_invariant (P := fun s => self.nextConversation ≤ s.nextConversation) ?_ ?_ hw
    (Nat.le_refl _)
  · intro s c message rest _ _ _ hle
    exact hle
  · intro s s' _ hmove hle
    exact Nat.le_trans hle hmove.nextConversation_le

theorem NamesAgree.taken (hs : NamesAgree self) {conversation : Conversation}
    {message : WorkerMessage} {rest : List WorkerMessage}
    (hinbox : conversation.inbox = message :: rest) (hw : WellFormed self)
    (hc : conversation ∈ self.conversations) (hmessage : message.announcement = none) :
    NamesAgree (self.taken conversation message) := by
  intro c' hc' hquiet username hlast
  obtain ⟨c, hmem, rfl⟩ := mem_taken.mp hc'
  refine hs c hmem ?_ username ?_
  · by_cases hid : c.id = conversation.id
    · rw [hw.eq_of_id hmem hc hid] at hquiet ⊢
      rw [if_pos rfl] at hquiet
      have hrest : announces rest = false := by
        simpa [Conversation.take, hinbox] using hquiet
      rw [hinbox]
      simpa [announces, hmessage] using hrest
    · rwa [if_neg hid] at hquiet
  · have hid : (if c.id = conversation.id then c.take message else c).id = c.id := by
      split <;> rfl
    rw [hid, taken_log, deliveredTo_concat] at hlast
    split at hlast
    · rwa [lastAnnouncement_concat hmessage] at hlast
    · rwa [List.append_nil] at hlast

/-- The dispatch of an announcement selects the user that is announced. -/
theorem namesAgree_announced (hw : WellFormed self) (hsingle : self.nextConversation ≤ 1)
    {conversation : Conversation} (hc : conversation ∈ self.conversations) {username : String}
    {rest : List WorkerMessage}
    (hinbox : conversation.inbox = .signal (.usernameChanged username) :: rest)
    (hkeeps : username.isEmpty = true → announces rest = false → self.selectedUser = none) :
    NamesAgree ((self.taken conversation (.signal (.usernameChanged username))).selectUser
      (announcedUser username)) := by
  have hlast : ∀ c' ∈ (self.taken conversation (.signal (.usernameChanged username))).conversations,
      c'.inbox = rest ∧ lastAnnouncement (deliveredTo c'.id
        (self.log ++ [.delivered conversation.id (.signal (.usernameChanged username))])) =
          some username := by
    intro c' hc'
    obtain ⟨c, hmem, rfl⟩ := mem_taken.mp hc'
    have hid : c.id = conversation.id := by
      have hlt := hw.fresh c hmem
      have hlt' := hw.fresh conversation hc
      omega
    have heq : c = conversation := hw.eq_of_id hmem hc hid
    subst heq
    rw [if_pos rfl]
    refine ⟨by simp [Conversation.take, hinbox], ?_⟩
    show lastAnnouncement (deliveredTo c.id _) = _
    rw [deliveredTo_concat, if_pos rfl]
    exact History.lastSome_concat rfl
  cases hempty : username.isEmpty with
  | true =>
    have hnone : announcedUser username = none := by simp [announcedUser, hempty]
    rw [hnone]
    intro c' hc' hquiet name hname
    obtain ⟨hrest, hlast⟩ := hlast c' hc'
    have hname' : some username = some name := hlast.symm.trans hname
    cases hname'
    rw [hnone]
    exact hkeeps hempty (hrest ▸ hquiet)
  | false =>
    have hsome : announcedUser username = some username := by simp [announcedUser, hempty]
    rw [hsome]
    intro c' hc' _ name hname
    obtain ⟨_, hlast⟩ := hlast c' hc'
    have hlog : ((self.taken conversation (.signal (.usernameChanged username))).selectUser
        (some username)).log = self.log ++
          [.delivered conversation.id (.signal (.usernameChanged username))] ++
            [.selectedUser username] := rfl
    rw [hlog, deliveredTo_append_of_silent (by simp [SessionEffect.dispatches]), hlast] at hname
    cases hname
    exact hsome.symm

/-- The users that a step selects beyond the announcements may be selected. -/
theorem maySelect_of_selections (hw : WellFormed self) (hsingle : self.nextConversation ≤ 1)
    {event : SessionEvent × Surroundings}
    (hunselected : event.1.selectsUser = true → self.nextConversation = 0)
    (hkeeps : KeepsName self event)
    (hdeliver : ∀ id, event.1 ≠ .deliver id) {username : String}
    (h : username ∈ self.selections event.2 event.1) : MaySelect self username := by
  obtain ⟨event, around⟩ := event
  cases event with
  | client call =>
    cases call with
    | selectUser name =>
      intro c hc
      have hlt := hw.fresh c hc
      have hzero := hunselected rfl
      omega
    | beginAutoLogin name =>
      simp only [selections] at h
      split at h
      · rename_i hpasses
        obtain ⟨hexports, hrunning⟩ := Bool.and_eq_true_iff.mp hpasses
        rw [List.mem_singleton.mp h]
        exact hkeeps hexports (by simpa using hrunning)
      · cases h
    | _ => cases h
  | hello pid =>
    simp only [selections] at h
    split at h
    · cases h
    · rename_i conversation hof
      have hmem : conversation ∈ self.conversations := List.mem_of_find?_eq_some hof
      have hno : conversation.workerProxy = false := by
        cases hproxy : conversation.workerProxy with
        | false => rfl
        | true => simp [hproxy] at h
      intro c hc
      have hid : c.id = conversation.id := by
        have hlt := hw.fresh c hc
        have hlt' := hw.fresh conversation hmem
        omega
      right
      have hnone : deliveredTo c.id self.log = [] := by
        rw [List.eq_nil_iff_forall_not_mem]
        intro message hdelivered
        have hproxy := (hw.dispatched _ _ (mem_of_mem_deliveredTo hdelivered)).2 conversation hmem
          hid.symm
        rw [hno] at hproxy
        cases hproxy
      rw [hnone]
      rfl
  | deliver id => exact absurd rfl (hdeliver id)
  | _ => cases h

theorem Moves.namesAgree (h : Moves p self self') (hw : WellFormed self)
    (hselects : ∀ username, p.selects username → MaySelect self username)
    (hs : NamesAgree self) : NamesAgree self' :=
  (h.preserves (P := fun s => WellFormed s ∧
      (∀ username, p.selects username → MaySelect s username) ∧ NamesAgree s)
    (fun _ _ hmove hall => ⟨hmove.wellFormed hall.1,
      fun username hselect => hmove.maySelect hall.1 (hall.2.1 username hselect),
      hmove.namesAgree hall.1 hall.2.1 hall.2.2⟩)
    ⟨hw, hselects, hs⟩).2.2

theorem step_namesAgree (hw : WellFormed self) (hsingle : self.nextConversation ≤ 1)
    {event : SessionEvent × Surroundings}
    (hunselected : event.1.selectsUser = true → self.nextConversation = 0)
    (hkeeps : KeepsName self event) (hs : NamesAgree self) : NamesAgree (self.step event) := by
  by_cases hstatus : self.status = .running
  swap
  · rw [step, if_neg hstatus]
    exact hs
  by_cases hdeliver : ∃ id, event.1 = .deliver id
  · obtain ⟨event, around⟩ := event
    obtain ⟨id, rfl⟩ := hdeliver
    cases holdest : self.oldestMessage id with
    | none =>
      obtain ⟨s, htakes, hmoves⟩ := step_moves hw (.deliver id) around
      cases htakes with
      | nothing =>
        refine hmoves.namesAgree hw ?_ hs
        intro username hselect
        have hmem : username ∈ self.selections around (.deliver id) := hselect
        simp [selections, holdest] at hmem
      | message hevent _ _ htaken =>
        cases hevent
        rw [holdest] at htaken
        cases htaken
    | some entry =>
      obtain ⟨conversation, message⟩ := entry
      obtain ⟨hat, rest, hinbox⟩ := mem_of_oldestMessage holdest
      obtain ⟨hc, rfl⟩ := mem_of_conversationAt hat
      cases hmessage : message.announcement with
      | some username =>
        have heq : message = .signal (.usernameChanged username) := by
          cases message with
          | signal signal => cases signal with
            | usernameChanged name => rw [Option.some.inj hmessage]
            | _ => cases hmessage
          | _ => cases hmessage
        subst heq
        have hstep : self.step (.deliver conversation.id, around) =
            (self.taken conversation (.signal (.usernameChanged username))).selectUser
              (announcedUser username) := by
          simp only [step, if_pos hstatus, handleEvent, deliver, hat, hinbox]
          rfl
        rw [hstep]
        refine namesAgree_announced hw hsingle hc hinbox ?_
        intro hempty hrest
        simp only [KeepsName, holdest, WorkerMessage.announcement, Option.all_some, hempty, hinbox,
          List.tail_cons, hrest] at hkeeps
        simpa using hkeeps
      | none =>
        obtain ⟨s, htakes, hmoves⟩ := step_moves hw (.deliver conversation.id) around
        have hnone : self.selections around (.deliver conversation.id) = [] := by
          simp only [selections, holdest]
          cases message with
          | signal signal => cases signal with
            | usernameChanged name => cases hmessage
            | _ => rfl
          | _ => rfl
        have hselects : ∀ s username, (self.permits around (.deliver conversation.id)).selects
            username → MaySelect s username := by
          intro s username hselect
          have hmem : username ∈ self.selections around (.deliver conversation.id) := hselect
          rw [hnone] at hmem
          cases hmem
        cases htakes with
        | nothing => exact hmoves.namesAgree hw (hselects _) hs
        | message hevent hc' hinbox' htaken =>
          rw [← SessionEvent.deliver.inj hevent, holdest] at htaken
          cases htaken
          exact hmoves.namesAgree (hw.taken hc' hinbox') (hselects _)
            (hs.taken hinbox' hw hc' hmessage)
  · obtain ⟨s, htakes, hmoves⟩ := step_moves hw event.1 event.2
    have hselects : ∀ username, (self.permits event.2 event.1).selects username →
        MaySelect self username := fun username hselect =>
      maySelect_of_selections hw hsingle hunselected hkeeps
        (fun id hid => hdeliver ⟨id, hid⟩) hselect
    cases htakes with
    | nothing => exact hmoves.namesAgree hw hselects hs
    | message hevent _ _ _ => exact absurd ⟨_, hevent⟩ hdeliver

/-- In every run of one conversation the daemon has selected the user that the
worker has announced last, as long as no empty announcement takes one back and no
automatic login is begun for another. -/
theorem run_namesAgree {s : GdmSession} (hstart : machine.Start s)
    {events : List (SessionEvent × Surroundings)} (hsole : SoleConversation s events)
    (h : machine.Meets KeepsName s events) : NamesAgree (machine.run s events) := by
  obtain ⟨hsingle, hunselected⟩ := hsole
  induction events using List.reverseRecOn with
  | nil =>
    obtain ⟨owner, hostname, device, seatId, isLocal, rfl⟩ := hstart
    intro c hc
    cases hc
  | append_singleton events event ih =>
    rw [machine.run_concat] at hsingle ⊢
    have hw := run_wellFormed hstart events
    have hle := Nat.le_trans (step_nextConversation_le hw event) hsingle
    exact step_namesAgree hw hle hunselected.at_step.2 h.at_step.2
      (ih h.at_step.1 hle hunselected.at_step.1)

/-- A worker that is set up for nobody and asks for the name. -/
def namelessLogin : List (SessionEvent × Surroundings) :=
  [.clientConnected 700, .client (.beginVerification "gdm-password"), .hello 1000,
    .workerAnswers 0 (.Initialize [.service "gdm-password", .extensions [],
      .displayIsLocal true]) (.Initialize none), .deliver 0,
    .workerSends 0 (.usernameChanged "alice"), .deliver 0].map fun event => (event, {})

theorem namelessLogin_sole : SoleConversation greeterSession namelessLogin :=
  ⟨by decide, by decide⟩

theorem namelessLogin_namesAgree : NamesAgree (machine.run greeterSession namelessLogin) :=
  run_namesAgree start_greeterSession namelessLogin_sole (by decide)

/-- The modules take the name back. -/
def forgottenName : List (SessionEvent × Surroundings) :=
  namelessLogin ++ ([(.workerSends 0 (.usernameChanged ""), {}), (.deliver 0, {})] :
    List (SessionEvent × Surroundings))

/-- The user stays selected that the worker has no longer. -/
theorem forgottenName_not_namesAgree : SoleConversation greeterSession forgottenName ∧
    ¬ NamesAgree (machine.run greeterSession forgottenName) :=
  ⟨⟨by decide, by decide⟩, by decide⟩

end GdmSession

end Gdm
