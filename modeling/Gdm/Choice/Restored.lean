import Gdm.Choice.Logins

/-!
# From one login to the next

The worker of the next login tells the daemon of the session that is saved, first of its type
and then of its name, and answers Open after that.  So when nothing is selected, the daemon
starts what was run before, unless it has given up what it had read.
-/

namespace Gdm

namespace UserLogin

open GdmSessionWorker (accountSignals)

variable {self : UserLogin} {account : Account} {type : Option String} {installed : Installed}
  {r : Reading}

/-! ## The next login -/

/-- The event that the daemon handles. -/
def daemonEvent (self : UserLogin) : LoginEvent → Option SessionChoice.ChoiceEvent
  | .choice event => some event
  | .workerSignal =>
    match self.toDaemon with
    | .savedSessionTypeRead type :: _ => some (.savedSessionTypeRead type)
    | .savedSessionNameRead name :: _ => some (.savedSessionNameRead name)
    | _ => none
  | _ => none

/-- What a step does to what the daemon has read of a saved session. -/
def noteReading (account : Account) (type : Option String) (self : UserLogin) (r : Reading)
    (input : LoginEvent × Installed) : Reading :=
  match self.daemonEvent input.1 with
  | none => r
  | some event => r.step self.choice input.2 account type event

/-- A login, with what its daemon has read of the session that is saved with the account. -/
def readingMachine (account : Account) (type : Option String) :
    EventMachine (UserLogin × Reading) (LoginEvent × Installed) :=
  machine.noting (noteReading account type)

/-- The next login of the user, for what is stored with the account by now. -/
def next (self : UserLogin) (serviceName : String) (choice : SessionChoice) (waits : Bool) :
    UserLogin :=
  initially self.username serviceName self.account choice waits

/-- An event of a login in which nothing is selected.  What other conversations tell of a saved
session is what is saved, and the session is started when nothing that has been read of it is
lost, and while it is installed. -/
def SelectsNothing (account : Account) (type : Option String) (state : UserLogin × Reading)
    (input : LoginEvent × Installed) : Prop :=
  match input.1 with
  | .choice (.startSession _) => state.1.opened = true →
      state.2.lost = false ∧ state.1.choice.StillInstalled input.2 account type
  | .choice event => state.1.choice.LeavesSaved account event
  | _ => True

instance (account : Account) (type : Option String) (state : UserLogin × Reading)
    (input : LoginEvent × Installed) : Decidable (SelectsNothing account type state input) := by
  unfold SelectsNothing
  split <;> infer_instance

/-! ## The messages of the worker -/

/-- Where the messages of the worker are: it sends none before the account is loaded, then
those about what is saved, and after them the reply to Open. -/
inductive Arrives (account : Account) (r : Reading) : Bool → List AccountSignal → Bool → Prop
  | unloaded : Arrives account r false [] false
  | loaded {heard pending replies : List AccountSignal} {opened : Bool}
      (hsignals : accountSignals account = heard ++ pending)
      (hreplies : ∀ signal ∈ replies, signal = .opened)
      (hopened : opened = true → pending = [])
      (hheard : ∀ signal ∈ heard, r.Heard account signal) :
      Arrives account r true (pending ++ replies) opened

variable {loaded opened : Bool} {toDaemon : List AccountSignal}

theorem Arrives.step (h : Arrives account r loaded toDaemon opened) (choice : SessionChoice)
    (installed : Installed) (type : Option String) (event : SessionChoice.ChoiceEvent) :
    Arrives account (r.step choice installed account type event) loaded toDaemon opened := by
  cases h with
  | unloaded => exact .unloaded
  | loaded hsignals hreplies hopened hheard =>
    exact .loaded hsignals hreplies hopened fun signal hmem =>
      (hheard signal hmem).step choice installed type event

/-- The worker answers Open. -/
theorem Arrives.replies (h : Arrives account r loaded toDaemon opened)
    {replies : List AccountSignal} (hreplies : ∀ signal ∈ replies, signal = .opened)
    (hloaded : loaded = false → replies = []) :
    Arrives account r loaded (toDaemon ++ replies) opened := by
  cases h with
  | unloaded =>
    rw [hloaded rfl]
    exact .unloaded
  | loaded hsignals hearlier hopened hheard =>
    rw [List.append_assoc]
    refine .loaded hsignals (fun signal hmem => ?_) hopened hheard
    rcases List.mem_append.mp hmem with hmem | hmem
    · exact hearlier signal hmem
    · exact hreplies signal hmem

/-- The reply to Open comes after what is saved, so the name has been read by then. -/
theorem Arrives.named_or_lost (h : Arrives account r loaded toDaemon true)
    (hne : account.sessionName ≠ "") : r.named = true ∨ r.lost = true := by
  cases h with
  | @loaded heard pending replies _ hsignals hreplies hopened hheard =>
    have hmem : .savedSessionNameRead account.sessionName ∈ accountSignals account := by
      simp [accountSignals, isSet, hne]
    rw [hsignals, hopened rfl, List.append_nil] at hmem
    exact hheard _ hmem

/-- What the worker tells of a saved session is what is saved. -/
theorem saved_of_mem_accountSignals :
    (∀ text, .savedSessionTypeRead text ∈ accountSignals account →
      text ≠ "" ∧ text = account.sessionType) ∧
    ∀ text, .savedSessionNameRead text ∈ accountSignals account →
      text = account.sessionName := by
  unfold accountSignals isSet
  constructor
  · intro text hmem
    by_cases hempty : account.sessionType = ""
    · simp [hempty] at hmem
    · simp [hempty] at hmem
      rw [hmem]
      exact ⟨hempty, rfl⟩
  · intro text hmem
    by_cases hempty : account.sessionName = ""
    · simp [hempty] at hmem
    · simpa [hempty] using hmem

/-- The name comes after the type. -/
theorem type_heard {heard rest : List AccountSignal} {text : String}
    (hsignals : accountSignals account = heard ++ .savedSessionNameRead text :: rest)
    (hheard : ∀ signal ∈ heard, r.Heard account signal) :
    account.sessionType = "" ∨ r.typed = true ∨ r.lost = true := by
  by_cases hempty : account.sessionType = ""
  · exact .inl hempty
  · have hset : isSet account.sessionType = some account.sessionType := if_neg hempty
    rw [accountSignals, hset] at hsignals
    cases heard with
    | nil => cases (List.cons.inj hsignals).1
    | cons signal heard =>
      obtain ⟨rfl, -⟩ := List.cons.inj hsignals
      exact hheard _ List.mem_cons_self

/-- The daemon gets the next message of the worker. -/
theorem Arrives.pop {signal : AccountSignal} {rest : List AccountSignal}
    (h : Arrives account r loaded (signal :: rest) opened) :
    signal = .opened ∧ Arrives account r loaded rest true ∨
      signal ∈ accountSignals account ∧
        (∀ text, signal = .savedSessionNameRead text →
          account.sessionType = "" ∨ r.typed = true ∨ r.lost = true) ∧
        ∀ r' : Reading, r'.Heard account signal →
          (∀ other, r.Heard account other → r'.Heard account other) →
          Arrives account r' loaded rest opened := by
  generalize hqueue : signal :: rest = toDaemon at h
  cases h with
  | unloaded => cases hqueue
  | @loaded heard pending replies _ hsignals hreplies hopened hheard =>
    cases pending with
    | nil =>
      rw [List.nil_append] at hqueue
      subst hqueue
      refine .inl ⟨hreplies signal List.mem_cons_self, ?_⟩
      exact @Arrives.loaded account r heard [] rest true hsignals
        (fun later hmem => hreplies later (List.mem_cons_of_mem _ hmem)) (fun _ => rfl) hheard
    | cons first pending =>
      obtain ⟨rfl, rfl⟩ := List.cons.inj hqueue
      refine .inr ⟨?_, ?_, fun r' hfirst hothers => ?_⟩
      · rw [hsignals]
        exact List.mem_append_right heard List.mem_cons_self
      · rintro text rfl
        exact type_heard hsignals hheard
      · refine @Arrives.loaded account r' (heard ++ [signal]) pending replies opened ?_ hreplies
          (fun hyes => nomatch hopened hyes) fun other hmem => ?_
        · rw [hsignals, List.append_assoc, List.singleton_append]
        · rcases List.mem_append.mp hmem with hmem | hmem
          · exact hothers other (hheard other hmem)
          · obtain rfl := List.mem_singleton.mp hmem
            exact hfirst

/-! ## The worker -/

/-- The worker is told of the account, and tells the daemon. -/
theorem accountLoaded_sends (hstores : Stores account self) (hfollows : Follows account self)
    (hunknown : self.loaded = false) :
    self.accountLoaded.loaded = true ∧
      ∃ replies, self.accountLoaded.toDaemon =
          self.toDaemon ++ (accountSignals account ++ replies) ∧
        ∀ signal ∈ replies, signal = .opened := by
  have hunloaded : Unloaded account self := by
    refine hfollows.worker.resolve_right fun hloaded => ?_
    exact Bool.false_ne_true (hunknown.symm.trans hloaded.known)
  obtain ⟨name, handlers, hhas, hpending, -⟩ := hunloaded.settings
  have hsame := hfollows.unsaved hunloaded.unsaved
  have hunnamed : self.account.sessionName ≠ "" → name = none := by
    rw [hsame]
    exact (hunloaded.named hpending).1
  obtain ⟨settings, loaded, -, hhas', -, hsends, hsaved, -⟩ :=
    GdmSessionWorker.accountLoaded_spec hhas hunnamed
  have hsignals : accountSignals self.account = accountSignals account := by
    unfold accountSignals
    rw [hsame, hstores.sessionType]
  rw [hsignals] at hsends
  unfold UserLogin.accountLoaded
  rw [if_neg (by rw [hunknown]; exact Bool.false_ne_true)]
  constructor
  · show ((self.worker.accountLoaded self.username self.account).accounts self.username).isSome =
      true
    rw [hhas'.known]
    simp
  · rcases hsaved with ⟨-, hquiet⟩ | ⟨-, -, hreply⟩
    · rw [workerActs_eq (hsends.trans hquiet)]
      exact ⟨[], rfl, nofun⟩
    · rw [workerActs_eq (hsends.trans hreply)]
      exact ⟨[.opened], rfl, fun signal => List.mem_singleton.mp⟩

/-- The worker answers Open once the account is loaded. -/
theorem workerCall_sends (hfollows : Follows account self)
    (hcalls : ∀ call ∈ self.toWorker, call = .openSession) :
    self.workerCall.loaded = self.loaded ∧
      (∀ call ∈ self.workerCall.toWorker, call = .openSession) ∧
      ∃ replies, self.workerCall.toDaemon = self.toDaemon ++ replies ∧
        (∀ signal ∈ replies, signal = .opened) ∧ (self.loaded = false → replies = []) := by
  unfold UserLogin.workerCall
  cases hqueue : self.toWorker with
  | nil =>
    refine ⟨rfl, ?_, [], (List.append_nil _).symm, nofun, fun _ => rfl⟩
    rw [hqueue]
    exact nofun
  | cons call rest =>
    rw [hqueue] at hcalls
    obtain rfl := hcalls call List.mem_cons_self
    have hrest : ∀ call ∈ rest, call = .openSession := fun call hmem =>
      hcalls call (List.mem_cons_of_mem _ hmem)
    have hacts : ∀ {worker : GdmSessionWorker} {signals : List AccountSignal}
        {store : Account → Account}, Sends self.worker worker signals store →
        worker.accounts = self.worker.accounts →
        (∀ signal ∈ signals, signal = .opened) → (self.loaded = false → signals = []) →
        (({ self with toWorker := rest } : UserLogin).workerActs worker).loaded = self.loaded ∧
          (∀ call ∈ (({ self with toWorker := rest } : UserLogin).workerActs worker).toWorker,
            call = .openSession) ∧
          ∃ replies, (({ self with toWorker := rest } : UserLogin).workerActs worker).toDaemon =
              self.toDaemon ++ replies ∧
            (∀ signal ∈ replies, signal = .opened) ∧ (self.loaded = false → replies = []) := by
      intro worker signals store hsends haccounts hopens hnone
      have heq : ({ self with toWorker := rest } : UserLogin).workerActs worker = _ :=
        workerActs_eq hsends
      rw [heq]
      refine ⟨?_, hrest, signals, rfl, hopens, hnone⟩
      show (worker.accounts self.username).isSome = _
      rw [haccounts]
      rfl
    dsimp only
    split
    · rename_i hstate
      rcases hfollows.worker with hunloaded | hloaded
      · obtain ⟨name, handlers, hhas, -, -⟩ := hunloaded.settings
        obtain ⟨hwaits, -, hsends⟩ :=
          GdmSessionWorker.doSaveAccountDetailsWhenReady_unloaded hhas hunloaded.unknown hstate
        exact hacts hsends hwaits.known nofun fun _ => rfl
      · obtain ⟨settings, hhas, -, -⟩ := hloaded.settings
        obtain ⟨hhas', -, hsends⟩ :=
          GdmSessionWorker.doSaveAccountDetailsWhenReady_loaded hhas hloaded.known hstate
        refine hacts hsends hhas'.known (fun signal => List.mem_singleton.mp) fun hnot => ?_
        exact absurd (hnot.symm.trans hloaded.known) Bool.false_ne_true
    · -- Open is refused
      exact hacts (Sends.refl self.worker) rfl nofun fun _ => rfl

/-! ## The daemon -/

/-- A login in which nothing has been selected, by what has been read of the saved session. -/
structure Reads (account : Account) (type : Option String) (r : Reading) (login : UserLogin) :
    Prop where
  remembers : SessionChoice.Remembers account type r login.choice
  calls : ∀ call ∈ login.toWorker, call = .openSession
  arrives : Arrives account r login.loaded login.toDaemon login.opened

/-- An event of the daemon sends the worker nothing but Open. -/
theorem choose_reads {event : SessionChoice.ChoiceEvent}
    (hremembers : SessionChoice.Remembers account type r self.choice)
    (hcalls : ∀ call ∈ self.toWorker, call = .openSession)
    (hleaves : self.choice.LeavesSaved account event)
    (htype : account.sessionType ≠ "" → type = some account.sessionType)
    (hstarts : ∀ serviceName, event = .startSession serviceName →
      self.choice.StillInstalled installed account type ∧ r.named = true)
    (harrives : Arrives account (r.step self.choice installed account type event) self.loaded
      self.toDaemon self.opened) :
    (self.choose installed event).choice.terminated = false →
      (self.choose installed event).stopped = false →
      Reads account type (r.step self.choice installed account type event)
        (self.choose installed event) := by
  unfold UserLogin.choose
  cases hself : self.choice.handleEvent installed event with
  | none => exact fun hthere => nomatch hthere
  | some choice =>
    have hkept := hremembers.handleEvent htype hleaves hstarts hself
    intro _ hrunning
    cases event with
    | selectSession name =>
      have hselects : self.choice.isRunning = true := hleaves
      dsimp only
      rw [if_neg (by simp [hselects])]
      exact ⟨hkept, hcalls, harrives⟩
    | openSession serviceName =>
      dsimp only
      split
      · refine ⟨hkept, fun call hmem => ?_, harrives⟩
        rcases List.mem_append.mp hmem with hmem | hmem
        · exact hcalls call hmem
        · exact List.mem_singleton.mp hmem
      · exact ⟨hkept, hcalls, harrives⟩
    | startSession serviceName =>
      dsimp only
      split
      · exact ⟨hkept, hcalls, harrives⟩
      · exact ⟨hkept, hcalls, harrives⟩
    | reset => cases hrunning
    | setup serviceName
    | setupForUser serviceName username
    | selectUser username
    | usernameChanged username
    | savedSessionTypeRead text
    | savedSessionNameRead name
    | programStarted serviceName
    | sessionExited => exact ⟨hkept, hcalls, harrives⟩

/-- Only a start runs a session, which is the one that is chosen. -/
theorem choose_ran {event : SessionChoice.ChoiceEvent} {ran : String × Option String}
    (h : (self.choose installed event).ran = some ran) :
    self.ran = some ran ∨
      (∃ serviceName, event = .startSession serviceName) ∧
        self.choice.chosen installed = some ran := by
  unfold UserLogin.choose at h
  cases hself : self.choice.handleEvent installed event with
  | none =>
    rw [hself] at h
    exact .inl h
  | some choice =>
    rw [hself] at h
    cases event with
    | startSession serviceName =>
      dsimp only at h
      split at h
      · exact .inr ⟨⟨serviceName, rfl⟩, h⟩
      · exact .inl h
    | selectSession name
    | openSession serviceName =>
      dsimp only at h
      split at h
      · exact .inl h
      · exact .inl h
    | setup serviceName
    | setupForUser serviceName username
    | selectUser username
    | usernameChanged username
    | savedSessionTypeRead text
    | savedSessionNameRead name
    | programStarted serviceName
    | sessionExited
    | reset => exact .inl h

/-- What the next login keeps: the worker saves what the account has already, and what is run
is what has been saved. -/
structure Restoring (account : Account) (type : Option String) (state : UserLogin × Reading) :
    Prop where
  kept : Invariant account state.1
  ran : ∀ ran, state.1.ran = some ran → ran = (account.sessionName, type)
  reads : state.1.choice.terminated = false → state.1.stopped = false →
    Reads account type state.2 state.1

/-- A daemon that selects nothing keeps what is saved. -/
theorem heeds_of_remembers (h : SessionChoice.Remembers account type r self.choice)
    (hstores : Stores account self) (hfollows : Follows account self)
    (hname : account.sessionName ≠ "")
    (htype : account.sessionType ≠ "" → type = some account.sessionType)
    {event : SessionChoice.ChoiceEvent} (hleaves : self.choice.LeavesSaved account event)
    (hstarts : ∀ serviceName, event = .startSession serviceName →
      self.choice.StillInstalled installed account type ∧ r.named = true) :
    self.Heeds installed event := by
  cases event with
  | selectSession name =>
    have hrunning : self.choice.isRunning = true := hleaves
    intro hnot
    cases hrunning.symm.trans hnot
  | startSession serviceName =>
    obtain ⟨hstill, hnamed⟩ := hstarts serviceName rfl
    -- nothing is selected, so what is stored is what was there
    have hsame : self.account.sessionName = account.sessionName := by
      by_cases hsaved : self.worker.state = .accountDetailsSaved
      · rw [hfollows.saved hsaved, h.selectedSession, Option.getD_none]
      · exact hfollows.unsaved hsaved
    refine ⟨fun _ => ⟨hsame ▸ hname, fun name named hfound => ?_⟩, fun hset => ?_⟩
    · rw [h.getSessionName htype hstill hnamed] at hfound
      exact (Prod.mk.inj (Option.some.inj hfound)).1.symm.trans hsame.symm
    · rw [hstores.sessionType] at hset ⊢
      exact (h.named hnamed).1.trans (htype hset)
  | setup serviceName
  | setupForUser serviceName username
  | selectUser username
  | usernameChanged username
  | savedSessionTypeRead text
  | savedSessionNameRead name
  | openSession serviceName
  | programStarted serviceName
  | sessionExited
  | reset => trivial

/-- An event of the daemon, with what it does to where the messages are. -/
theorem Restoring.choose (hstores : Stores account self) (hfollows : Follows account self)
    (hran : ∀ ran, self.ran = some ran → ran = (account.sessionName, type))
    (hremembers : SessionChoice.Remembers account type r self.choice)
    (hcalls : ∀ call ∈ self.toWorker, call = .openSession) (hname : account.sessionName ≠ "")
    (htype : account.sessionType ≠ "" → type = some account.sessionType)
    {event : SessionChoice.ChoiceEvent} (hleaves : self.choice.LeavesSaved account event)
    (hstarts : ∀ serviceName, event = .startSession serviceName →
      self.opened = true ∧ self.choice.StillInstalled installed account type ∧ r.named = true)
    (harrives : Arrives account (r.step self.choice installed account type event) self.loaded
      self.toDaemon self.opened) :
    Restoring account type
      (self.choose installed event, r.step self.choice installed account type event) where
  kept := by
    have hheeds : self.Heeds installed event :=
      heeds_of_remembers hremembers hstores hfollows hname htype hleaves
        fun serviceName heq => (hstarts serviceName heq).2
    exact Invariant.choose hstores hfollows hheeds
      fun serviceName heq => (hstarts serviceName heq).1
  ran ran hafter := by
    rcases choose_ran hafter with hbefore | ⟨⟨serviceName, heq⟩, hchosen⟩
    · exact hran ran hbefore
    · obtain ⟨_, hstill, hnamed⟩ := hstarts serviceName heq
      rw [hremembers.chosen htype hstill hnamed] at hchosen
      exact (Option.some.inj hchosen).symm
  reads := choose_reads hremembers hcalls hleaves htype
    (fun serviceName heq => (hstarts serviceName heq).2) harrives

/-- The worker acts, and the daemon has not heard of it yet. -/
theorem Restoring.acts (h : Restoring account type (self, r)) {self' : UserLogin}
    (hkept : Invariant account self') (hchoice : self'.choice = self.choice)
    (hran : self'.ran = self.ran)
    (hcalls : ∀ call ∈ self'.toWorker, call = .openSession)
    (harrives : Arrives account r self'.loaded self'.toDaemon self'.opened)
    (hreads : Reads account type r self) : Restoring account type (self', r) where
  kept := hkept
  ran := by
    rw [hran]
    exact h.ran
  reads _ _ := by
    refine ⟨?_, hcalls, harrives⟩
    rw [hchoice]
    exact hreads.remembers

theorem workerCall_frame : self.workerCall.choice = self.choice ∧
    self.workerCall.ran = self.ran ∧ self.workerCall.opened = self.opened := by
  unfold UserLogin.workerCall
  split <;> exact ⟨rfl, rfl, rfl⟩

theorem accountLoaded_frame : self.accountLoaded.choice = self.choice ∧
    self.accountLoaded.ran = self.ran ∧ self.accountLoaded.opened = self.opened ∧
    self.accountLoaded.toWorker = self.toWorker := by
  unfold UserLogin.accountLoaded
  split <;> exact ⟨rfl, rfl, rfl, rfl⟩

/-- A step of PAM changes nothing but the state of the worker. -/
theorem pamStep_eq (self : UserLogin) : ∃ state,
    self.pamStep = { self with worker := { self.worker with state := state } } := by
  unfold UserLogin.pamStep
  split
  · exact ⟨self.worker.state, rfl⟩
  · split <;> exact ⟨_, rfl⟩

theorem Restoring.workerCall (h : Restoring account type (self, r))
    (hreads : Reads account type r self) (hfollows : Follows account self) :
    Restoring account type (self.workerCall, r) := by
  obtain ⟨hchoice, hran, hopened⟩ := self.workerCall_frame
  obtain ⟨hloaded, hcalls, replies, hreplies, hopens, hnone⟩ :=
    workerCall_sends hfollows hreads.calls
  refine h.acts (Invariant.workerCall h.kept.stores hfollows) hchoice hran hcalls ?_ hreads
  rw [hloaded, hreplies, hopened]
  exact hreads.arrives.replies hopens hnone

theorem Restoring.pamStep (h : Restoring account type (self, r))
    (hreads : Reads account type r self) (hfollows : Follows account self) :
    Restoring account type (self.pamStep, r) := by
  have hkept := Invariant.pamStep h.kept.stores hfollows
  obtain ⟨state, hstep⟩ := self.pamStep_eq
  rw [hstep] at hkept ⊢
  exact h.acts hkept rfl rfl hreads.calls hreads.arrives hreads

/-- The worker tells what is saved, before it answers Open. -/
theorem Restoring.accountLoaded (h : Restoring account type (self, r))
    (hreads : Reads account type r self) (hfollows : Follows account self) :
    Restoring account type (self.accountLoaded, r) := by
  obtain ⟨hchoice, hran, hopened, hcalls⟩ := self.accountLoaded_frame
  refine h.acts (Invariant.accountLoaded h.kept.stores hfollows) hchoice hran ?_ ?_ hreads
  · rw [hcalls]
    exact hreads.calls
  · have harrives := hreads.arrives
    rw [hopened]
    cases hloaded : self.loaded with
    | true =>
      have hstays : self.accountLoaded = self := if_pos hloaded
      rw [hstays]
      exact harrives
    | false =>
      obtain ⟨hknown, replies, hsent, hreplies⟩ :=
        accountLoaded_sends h.kept.stores hfollows hloaded
      rw [hloaded] at harrives
      rw [hknown, hsent]
      generalize self.toDaemon = toDaemon, self.opened = opened at harrives ⊢
      cases harrives with
      | unloaded => exact @Arrives.loaded account r [] _ replies false rfl hreplies nofun nofun

/-- The daemon hears what is saved, and what the type of the session is before its name. -/
theorem Restoring.workerSignal (h : Restoring account type (self, r))
    (hreads : Reads account type r self) (hfollows : Follows account self)
    (hname : account.sessionName ≠ "")
    (htype : account.sessionType ≠ "" → type = some account.sessionType) :
    Restoring account type
      (self.workerSignal installed,
        noteReading account type self r (.workerSignal, installed)) := by
  have hkept := Invariant.workerSignal h.kept.stores hfollows installed
  unfold noteReading daemonEvent
  cases hsignals : self.toDaemon with
  | nil =>
    have hstays : self.workerSignal installed = self := by
      unfold UserLogin.workerSignal
      rw [hsignals]
    rw [hstays]
    exact h
  | cons signal rest =>
    have harrives := hreads.arrives
    rw [hsignals] at harrives
    have hpopped : Stores account { self with toDaemon := rest } ∧
        Follows account { self with toDaemon := rest } := by
      refine ⟨⟨h.kept.stores.sessionType, fun hopened => ?_, h.kept.stores.ran⟩,
        hfollows.of_choice rfl rest self.opened self.ran⟩
      refine h.kept.stores.opened (hopened.imp_right fun hmem => ?_)
      rw [hsignals]
      exact List.mem_cons_of_mem signal hmem
    have hchooses : ∀ event : SessionChoice.ChoiceEvent, self.choice.LeavesSaved account event →
        (∀ serviceName, event ≠ .startSession serviceName) →
        Arrives account (r.step self.choice installed account type event) self.loaded rest
          self.opened →
        Restoring account type (({ self with toDaemon := rest } : UserLogin).choose installed event,
          r.step self.choice installed account type event) :=
      fun event hleaves hstarts hafter => Restoring.choose hpopped.1 hpopped.2 h.ran
        hreads.remembers hreads.calls hname htype hleaves
        (fun serviceName heq => absurd heq (hstarts serviceName)) hafter
    unfold UserLogin.workerSignal
    rw [hsignals]
    rcases harrives.pop with ⟨rfl, hafter⟩ | ⟨hmem, hknown, hafter⟩
    · -- the reply to Open
      unfold UserLogin.workerSignal at hkept
      rw [hsignals] at hkept
      exact h.acts hkept rfl rfl hreads.calls hafter hreads
    · cases signal with
      | savedSessionTypeRead text =>
        refine hchooses _ (saved_of_mem_accountSignals.1 text hmem) nofun (hafter _ ?_ ?_)
        · exact .inr (.inl rfl)
        · exact fun other hother => hother.step self.choice installed type _
      | savedSessionNameRead name =>
        refine hchooses _ (saved_of_mem_accountSignals.2 name hmem) nofun (hafter _ ?_ ?_)
        · rw [Reading.step]
          split
          · exact Reading.heard_name r _ name
          · rename_i hunknown
            rcases hknown name rfl with hempty | htyped | hlost
            · exact absurd (.inl hempty) hunknown
            · exact absurd (.inr htyped) hunknown
            · exact .inr hlost
        · exact fun other hother => hother.step self.choice installed type _
      | opened => exact absurd hmem (GdmSessionWorker.opened_not_mem_accountSignals account)

/-- What the daemon does; a session is started when it has been opened, and then its name has
been read. -/
theorem Restoring.choice (h : Restoring account type (self, r))
    (hreads : Reads account type r self) (hfollows : Follows account self)
    (hname : account.sessionName ≠ "")
    (htype : account.sessionType ≠ "" → type = some account.sessionType)
    {event : SessionChoice.ChoiceEvent}
    (hselects : SelectsNothing account type (self, r) (.choice event, installed)) :
    Restoring account type
      (match event with
        | .startSession serviceName =>
          if self.opened ∧ serviceName = self.serviceName then
            self.choose installed (.startSession serviceName)
          else self
        | event => self.choose installed event,
        r.step self.choice installed account type event) := by
  have hchooses : self.choice.LeavesSaved account event →
      (∀ serviceName, event = .startSession serviceName → self.opened = true ∧
        self.choice.StillInstalled installed account type ∧ r.named = true) →
      Restoring account type
        (self.choose installed event, r.step self.choice installed account type event) :=
    fun hleaves hstarts => Restoring.choose h.kept.stores hfollows h.ran hreads.remembers
      hreads.calls hname htype hleaves hstarts
      (hreads.arrives.step self.choice installed type event)
  cases event with
  | startSession serviceName =>
    dsimp only
    split
    · rename_i hopened
      refine hchooses trivial fun _ _ => ⟨hopened.1, ?_⟩
      obtain ⟨hkept, hstill⟩ := hselects hopened.1
      have harrives := hreads.arrives
      rw [hopened.1] at harrives
      refine ⟨hstill, (harrives.named_or_lost hname).resolve_right ?_⟩
      rw [hkept]
      exact Bool.false_ne_true
    · exact h
  | setup serviceName
  | setupForUser serviceName username
  | selectUser username
  | usernameChanged username
  | savedSessionTypeRead text
  | savedSessionNameRead name
  | selectSession name
  | openSession serviceName
  | programStarted serviceName
  | sessionExited
  | reset => exact hchooses hselects nofun

theorem Restoring.step {state : UserLogin × Reading} (h : Restoring account type state)
    (hname : account.sessionName ≠ "")
    (htype : account.sessionType ≠ "" → type = some account.sessionType)
    {input : LoginEvent × Installed} (hselects : SelectsNothing account type state input) :
    Restoring account type ((readingMachine account type).step state input) := by
  obtain ⟨self, r⟩ := state
  show Restoring account type (self.step input, noteReading account type self r input)
  unfold UserLogin.step
  split
  · rename_i hgone
    refine ⟨h.kept, h.ran, fun hthere hrunning => ?_⟩
    rcases hgone with hgone | hgone
    · cases hthere.symm.trans hgone
    · cases hrunning.symm.trans hgone
  · rename_i hthere
    have hrunning : self.stopped = false :=
      Bool.of_not_eq_true fun hstopped => hthere (.inr hstopped)
    have hreads := h.reads (Bool.of_not_eq_true fun hgone => hthere (.inl hgone)) hrunning
    have hfollows := h.kept.follows hrunning
    obtain ⟨event, installed⟩ := input
    cases event with
    | workerCall => exact h.workerCall hreads hfollows
    | workerSignal => exact h.workerSignal hreads hfollows hname htype
    | pamStep => exact h.pamStep hreads hfollows
    | accountLoaded => exact h.accountLoaded hreads hfollows
    | choice event =>
      have hchoice := h.choice hreads hfollows hname htype hselects
      cases event <;> exact hchoice

/-- Nothing has been read yet. -/
theorem initially_restoring (username serviceName : String) (account : Account) (waits : Bool)
    (type : Option String) {choice : SessionChoice} (hstart : SessionChoice.machine.Start choice) :
    Restoring account type (initially username serviceName account choice waits, {}) where
  kept := initially_invariant username serviceName account waits hstart
  ran := nofun
  reads _ _ := by
    obtain ⟨types, isLocal, greeter, rfl⟩ := hstart
    exact ⟨⟨rfl, .inl rfl, .inl rfl, nofun, nofun, nofun⟩, nofun, .unloaded⟩

/-- What a login that selects nothing restores: it runs no other session than the one that was
run before, with its type; this session is in force once its name has been read, and as long as
it is installed; and its name has been read, or is lost, by the time Open is answered. -/
structure Restores (account : Account) (name : String) (type : Option String)
    (login : UserLogin) (r : Reading) : Prop where
  ran : ∀ ran, login.ran = some ran → ran = (name, type)
  chosen : login.choice.terminated = false → login.stopped = false → r.named = true →
    ∀ installed : Installed, login.choice.StillInstalled installed account type →
      login.choice.chosen installed = some (name, type)
  read : login.choice.terminated = false → login.stopped = false → login.opened = true →
    r.named = true ∨ r.lost = true

theorem Restoring.restores {state : UserLogin × Reading} (h : Restoring account type state)
    (hname : account.sessionName ≠ "")
    (htype : account.sessionType ≠ "" → type = some account.sessionType) :
    Restores account account.sessionName type state.1 state.2 where
  ran := h.ran
  chosen hthere hrunning hnamed _ hstill :=
    (h.reads hthere hrunning).remembers.chosen htype hstill hnamed
  read hthere hrunning hopened := by
    have harrives := (h.reads hthere hrunning).arrives
    rw [hopened] at harrives
    exact harrives.named_or_lost hname

/-- In every run of the next login in which nothing is selected, the session that was run is
restored. -/
theorem run_restores {start : UserLogin} (hstart : machine.Start start)
    {events : List (LoginEvent × Installed)} (hkeeps : machine.Meets KeepsSession start events)
    {name : String} {type : Option String}
    (hran : (machine.run start events).ran = some (name, type))
    (serviceName : String) (waits : Bool) {choice : SessionChoice}
    (hchoice : SessionChoice.machine.Start choice) {later : List (LoginEvent × Installed)}
    (hselects : (readingMachine (machine.run start events).account type).Meets
      (SelectsNothing (machine.run start events).account type)
      ((machine.run start events).next serviceName choice waits, {}) later) :
    Restores (machine.run start events).account name type
      (machine.run ((machine.run start events).next serviceName choice waits) later)
      ((readingMachine (machine.run start events).account type).run
        ((machine.run start events).next serviceName choice waits, {}) later).2 := by
  obtain ⟨username, firstService, account, firstWaits, firstChoice, hfirst, rfl⟩ := hstart
  have hinvariant := hkeeps.invariant (Invariant account)
    (fun _ _ h hstep => h.step hstep)
    (initially_invariant username firstService account firstWaits hfirst)
  obtain ⟨_, rfl, hname, htype⟩ := hinvariant.stores.ran name type hran
  rw [← hinvariant.stores.sessionType] at htype
  have hrestoring := hselects.invariant (Restoring _ type)
    (fun _ _ h hstep => h.step hname htype hstep)
    (initially_restoring _ serviceName _ waits type hchoice)
  have hrestores := hrestoring.restores hname htype
  rw [readingMachine, EventMachine.run_noting_fst] at hrestores
  exact hrestores

/-- Two sessions for Wayland and one for X11. -/
def threeSessions : Installed :=
  .ofFiles [("/usr/share/wayland-sessions", "gnome.desktop", { exec := some "gnome-session" }),
    ("/usr/share/wayland-sessions", "sway.desktop", { exec := some "sway" }),
    ("/usr/share/xsessions", "gnome-xorg.desktop", { exec := some "gnome-session" })]

/-- A login with a password; the greeter acts once the saved session has been read. -/
def passwordLogin (chosen : List LoginEvent) : List (LoginEvent × Installed) :=
  let before : List LoginEvent :=
    [.choice (.setupForUser "gdm-password" "alice"), .accountLoaded, .workerSignal, .workerSignal]
  let after : List LoginEvent :=
    [.pamStep, .pamStep, .pamStep, .pamStep, .choice (.openSession "gdm-password"), .workerCall,
      .workerSignal, .choice (.startSession "gdm-password")]
  (before ++ chosen ++ after).map fun event => (event, threeSessions)

/-- The user has run a session before, and now selects `sway`. -/
def returningUser (sessionName sessionType : String) : UserLogin :=
  machine.run
    (initially "alice" "gdm-password" { sessionName := sessionName, sessionType := sessionType }
      {} true)
    (passwordLogin [.choice (.selectSession "sway"), .workerCall])

theorem run_restores_sway :
    (returningUser "gnome" "wayland").ran = some ("sway", some "wayland") ∧
      (machine.run ((returningUser "gnome" "wayland").next "gdm-password" {} true)
        (passwordLogin [])).ran = some ("sway", some "wayland") := by
  have hran : (returningUser "gnome" "wayland").ran = some ("sway", some "wayland") := by
    decide +kernel
  have hnext : (machine.run ((returningUser "gnome" "wayland").next "gdm-password" {} true)
      (passwordLogin [])).ran.isSome = true := by
    decide +kernel
  obtain ⟨again, hagain⟩ := Option.isSome_iff_exists.mp hnext
  refine ⟨hran, hagain.trans (congrArg some ?_)⟩
  refine (run_restores ⟨"alice", "gdm-password", _, true, {}, ⟨_, _, _, rfl⟩, rfl⟩ ?_ hran
    "gdm-password" true ⟨_, _, _, rfl⟩ ?_).ran again hagain
  · -- sway is selected while the conversation is there and Open has not been called
    refine ⟨trivial, trivial, trivial, trivial, fun _ => ?_, trivial, trivial, trivial, trivial,
      trivial, trivial, trivial, trivial, ⟨fun hnone => ?_, fun _ => ?_⟩, trivial⟩
    · decide +kernel
    · exact absurd hnone (by decide +kernel)
    · decide +kernel
  · decide +kernel

/-- The name of the new session is saved with the type of the old one, with which it cannot
be used, and the next login runs the fallback.  So it does when the session has been saved
right, but PAM changes the name of the user after it has been read. -/
theorem returningUser_not_restored :
    SessionChoice.StillInstalled {} threeSessions { sessionName := "sway", sessionType := "x11" }
        (some "wayland") ∧
      (returningUser "gnome-xorg" "x11").ran = some ("sway", some "wayland") ∧
      (machine.run ((returningUser "gnome-xorg" "x11").next "gdm-password" {} true)
        (passwordLogin [])).ran = some ("gnome", some "wayland") ∧
      (returningUser "gnome" "wayland").ran = some ("sway", some "wayland") ∧
      (machine.run ((returningUser "gnome" "wayland").next "gdm-password" {} true)
        (passwordLogin [.choice (.usernameChanged "alice")])).ran =
          some ("gnome", some "wayland") := by
  decide +kernel

end UserLogin

end Gdm
