import Gdm.Choice.NextLogin
import Gdm.Choice.SavedSettings

/-!
# The session that a login saves

The daemon sends the worker the name of a session that is selected, but not its type, and
the worker takes what is saved with the account over whatever it has been sent before.  So
the name and the type that are saved are those of the session that runs as long as a
session is selected once the account has been loaded, and has the type that is saved
already.
-/

namespace Gdm

/-! ## The calls that are under way -/

/-- The name that the settings get by calls that are under way. -/
def namedBy : List AccountCall → Option String → Option String
  | [], name => name
  | .setSessionName name :: rest, _ => namedBy rest (some name)
  | .openSession :: rest, name => namedBy rest name

variable {calls : List AccountCall}

theorem namedBy_setSessionName (calls : List AccountCall) (old : Option String) (name : String) :
    namedBy (calls ++ [.setSessionName name]) old = some name := by
  induction calls generalizing old with
  | nil => rfl
  | cons call rest ih => cases call with
    | setSessionName first => exact ih (some first)
    | openSession => exact ih old

theorem namedBy_openSession (calls : List AccountCall) (name : Option String) :
    namedBy (calls ++ [.openSession]) name = namedBy calls name := by
  induction calls generalizing name with
  | nil => rfl
  | cons call rest ih => cases call with
    | setSessionName first => exact ih (some first)
    | openSession => exact ih name

theorem namedBy_of_opens (h : ∀ call ∈ calls, call = AccountCall.openSession)
    (name : Option String) : namedBy calls name = name := by
  induction calls with
  | nil => rfl
  | cons call rest ih =>
    obtain rfl := h call List.mem_cons_self
    exact ih fun later hlater => h later (List.mem_cons_of_mem _ hlater)

theorem namedBy_some_ne_none (calls : List AccountCall) (name : String) :
    namedBy calls (some name) ≠ none := by
  induction calls generalizing name with
  | nil => exact Option.some_ne_none name
  | cons call rest ih => cases call with
    | setSessionName first => exact ih first
    | openSession => exact ih name

/-- Calls that leave the settings without a name set no name. -/
theorem namedBy_of_none (h : namedBy calls none = none) (name : Option String) :
    namedBy calls name = name := by
  induction calls with
  | nil => rfl
  | cons call rest ih => cases call with
    | setSessionName first => exact absurd h (namedBy_some_ne_none rest first)
    | openSession => exact ih h

theorem HasSettings.here {username : String} {accounts : String → Option Account}
    {settings : GdmSessionSettings} {worker : GdmSessionWorker}
    (h : HasSettings username accounts settings worker) :
    HasSettings username worker.accounts settings worker :=
  ⟨h.current, h.forUser, rfl, h.only, h.owner⟩

namespace UserLogin

variable {self : UserLogin} {account : Account} {installed : Installed}

/-! ## What is saved -/

/-- What the daemon must not do in a login: select a session that the worker does not save,
or start one that is not saved as it is. -/
def Heeds (self : UserLogin) (installed : Installed) : SessionChoice.ChoiceEvent → Prop
  | .selectSession name => self.choice.isRunning = false →
      name ≠ "" ∧ self.hasConversation = true ∧ self.calledOpen = false ∧
        (self.loaded = true ∨ self.account.sessionName = "")
  | .startSession _ =>
      (self.choice.selectedSession = none → self.account.sessionName ≠ "" ∧
        ∀ name named, self.choice.getSessionName installed = some (name, named) →
          name = self.account.sessionName) ∧
      (self.account.sessionType ≠ "" → self.choice.sessionType = some self.account.sessionType)
  | _ => True

/-- An event of a login whose session is saved. -/
def KeepsSession (self : UserLogin) (input : LoginEvent × Installed) : Prop :=
  match input.1 with
  | .choice event => self.Heeds input.2 event
  | _ => True

/-- The account has not been loaded.  A name that was sent stays when it has none itself,
and only Open waits for the account once the conversation is set up. -/
structure Unloaded (account : Account) (login : UserLogin) : Prop where
  unknown : login.worker.accounts login.username = none
  unsaved : login.worker.state ≠ .accountDetailsSaved
  unnamed : login.choice.selectedSession ≠ none → account.sessionName = ""
  settings : ∃ name handlers,
    HasSettings login.username login.worker.accounts
      (GdmSessionWorker.unloadedSettings login.username name handlers) login.worker ∧
    namedBy login.toWorker name = login.choice.selectedSession ∧
    (handlers = 0 ∨ login.worker.state = .none ∨
      login.calledOpen = true ∧ ∀ call ∈ login.toWorker, call = .openSession)

/-- The account has been loaded, and the name that was selected is on its way. -/
structure Loaded (account : Account) (login : UserLogin) : Prop where
  known : (login.worker.accounts login.username).isSome = true
  settings : ∃ settings,
    HasSettings login.username login.worker.accounts settings login.worker ∧
    settings.sessionType = isSet account.sessionType ∧
    (login.worker.state ≠ .accountDetailsSaved →
      namedBy login.toWorker settings.sessionName =
        login.choice.selectedSession.or (isSet account.sessionName))

/-- The worker follows what is selected: what it saves is the name that was selected. -/
structure Follows (account : Account) (login : UserLogin) : Prop where
  worker : Unloaded account login ∨ Loaded account login
  named : login.choice.selectedSession ≠ some ""
  unsaved : login.worker.state ≠ .accountDetailsSaved →
    login.account.sessionName = account.sessionName
  saved : login.worker.state = .accountDetailsSaved →
    login.account.sessionName = login.choice.selectedSession.getD account.sessionName
  ordered : login.toWorker.Pairwise fun call later =>
    call = .openSession → later = .openSession
  uncalled : login.calledOpen = false →
    .openSession ∉ login.toWorker ∧ login.worker.state ≠ .accountDetailsSaved

/-- What is stored with the account keeps its type, and what has been run is stored. -/
structure Stores (account : Account) (login : UserLogin) : Prop where
  sessionType : login.account.sessionType = account.sessionType
  opened : login.opened = true ∨ .opened ∈ login.toDaemon →
    login.worker.state = .accountDetailsSaved
  ran : ∀ name type, login.ran = some (name, type) →
    login.worker.state = .accountDetailsSaved ∧ login.account.sessionName = name ∧ name ≠ "" ∧
      (account.sessionType ≠ "" → type = some account.sessionType)

/-! ## The daemon -/

theorem Follows.of_choice (h : Follows account self) {choice : SessionChoice}
    (hsame : choice.selectedSession = self.choice.selectedSession)
    (toDaemon : List AccountSignal) (opened : Bool) (ran : Option (String × Option String)) :
    Follows account
      { self with choice := choice, toDaemon := toDaemon, opened := opened, ran := ran } where
  worker := by
    rcases h.worker with hunloaded | hloaded
    · refine .inl ⟨hunloaded.unknown, hunloaded.unsaved, ?_, ?_⟩
      · exact fun hne => hunloaded.unnamed (hsame ▸ hne)
      · obtain ⟨name, handlers, hhas, hpending, hwaits⟩ := hunloaded.settings
        exact ⟨name, handlers, hhas, hpending.trans hsame.symm, hwaits⟩
    · obtain ⟨settings, hhas, htype, hpending⟩ := hloaded.settings
      refine .inr ⟨hloaded.known, settings, hhas, htype, fun hunsaved => ?_⟩
      exact (hpending hunsaved).trans (by rw [hsame])
  named := by
    rw [hsame]
    exact h.named
  unsaved := h.unsaved
  saved hsaved := (h.saved hsaved).trans (by rw [hsame])
  ordered := h.ordered
  uncalled := h.uncalled

/-- The name of a session that is selected goes to the worker, which saves it. -/
theorem Follows.select (h : Follows account self) {choice : SessionChoice} {name : String}
    (hselected : choice.selectedSession = some name) (hne : name ≠ "")
    (hcalled : self.calledOpen = false)
    (hloaded : self.loaded = true ∨ self.account.sessionName = "") :
    Follows account
      { self with choice := choice, toWorker := self.toWorker ++ [.setSessionName name] } where
  worker := by
    obtain ⟨_, hunsaved⟩ := h.uncalled hcalled
    rcases h.worker with hunloaded | hknown
    · obtain ⟨old, handlers, hhas, -, hwaits⟩ := hunloaded.settings
      refine .inl ⟨hunloaded.unknown, hunsaved, fun _ => ?_, old, handlers, hhas, ?_, ?_⟩
      · rcases hloaded with hloaded | hempty
        · unfold loaded at hloaded
          rw [hunloaded.unknown] at hloaded
          cases hloaded
        · exact (h.unsaved hunsaved).symm.trans hempty
      · exact (namedBy_setSessionName self.toWorker old name).trans hselected.symm
      · rcases hwaits with hnone | hstate | ⟨hcall, _⟩
        · exact .inl hnone
        · exact .inr (.inl hstate)
        · rw [hcalled] at hcall
          cases hcall
    · obtain ⟨settings, hhas, htype, -⟩ := hknown.settings
      refine .inr ⟨hknown.known, settings, hhas, htype, fun _ => ?_⟩
      rw [hselected, Option.some_or]
      exact namedBy_setSessionName self.toWorker settings.sessionName name
  named := by
    rw [hselected]
    exact fun hempty => hne (Option.some.inj hempty)
  unsaved := h.unsaved
  saved hsaved := absurd hsaved (h.uncalled hcalled).2
  ordered := by
    refine List.pairwise_append.mpr ⟨h.ordered, List.pairwise_singleton _ _, ?_⟩
    rintro call hcall later - rfl
    exact absurd hcall (h.uncalled hcalled).1
  uncalled hnot := by
    refine ⟨fun hmem => ?_, (h.uncalled hnot).2⟩
    rcases List.mem_append.mp hmem with hmem | hmem
    · exact (h.uncalled hnot).1 hmem
    · cases List.mem_singleton.mp hmem

theorem Follows.callOpen (h : Follows account self) {choice : SessionChoice}
    (hsame : choice.selectedSession = self.choice.selectedSession) :
    Follows account
      { self with
        choice := choice
        toWorker := self.toWorker ++ [.openSession]
        calledOpen := true } where
  worker := by
    rcases h.worker with hunloaded | hloaded
    · refine .inl ⟨hunloaded.unknown, hunloaded.unsaved, ?_, ?_⟩
      · exact fun hne => hunloaded.unnamed (hsame ▸ hne)
      · obtain ⟨name, handlers, hhas, hpending, hwaits⟩ := hunloaded.settings
        refine ⟨name, handlers, hhas, ?_, ?_⟩
        · exact ((namedBy_openSession self.toWorker name).trans hpending).trans hsame.symm
        · rcases hwaits with hnone | hstate | ⟨_, hopens⟩
          · exact .inl hnone
          · exact .inr (.inl hstate)
          · refine .inr (.inr ⟨rfl, fun call hcall => ?_⟩)
            rcases List.mem_append.mp hcall with hcall | hcall
            · exact hopens call hcall
            · exact List.mem_singleton.mp hcall
    · obtain ⟨settings, hhas, htype, hpending⟩ := hloaded.settings
      refine .inr ⟨hloaded.known, settings, hhas, htype, fun hunsaved => ?_⟩
      refine ((namedBy_openSession self.toWorker settings.sessionName).trans
        (hpending hunsaved)).trans ?_
      rw [hsame]
  named := by
    rw [hsame]
    exact h.named
  unsaved := h.unsaved
  saved hsaved := (h.saved hsaved).trans (by rw [hsame])
  ordered := by
    refine List.pairwise_append.mpr ⟨h.ordered, List.pairwise_singleton _ _, ?_⟩
    intro call _ later hlater _
    exact List.mem_singleton.mp hlater
  uncalled hnot := nomatch hnot

/-- What is started after Open is what has been saved. -/
theorem Follows.ran (h : Follows account self) (hstores : Stores account self)
    (hopened : self.opened = true) {serviceName name : String} {type : Option String}
    (hheeds : self.Heeds installed (.startSession serviceName))
    (hchosen : self.choice.chosen installed = some (name, type)) :
    self.worker.state = .accountDetailsSaved ∧ self.account.sessionName = name ∧ name ≠ "" ∧
      (account.sessionType ≠ "" → type = some account.sessionType) := by
  have hsaved := hstores.opened (.inl hopened)
  obtain ⟨⟨named, hname⟩, rfl, hselected⟩ := SessionChoice.chosen_spec hchosen
  have htype : account.sessionType ≠ "" →
      self.choice.sessionType = some account.sessionType := by
    rw [← hstores.sessionType]
    exact hheeds.2
  cases hsession : self.choice.selectedSession with
  | some selected =>
    obtain rfl := hselected selected hsession
    have hstored := h.saved hsaved
    rw [hsession, Option.getD_some] at hstored
    refine ⟨hsaved, hstored, ?_, htype⟩
    rintro rfl
    exact h.named hsession
  | none =>
    obtain ⟨hne, hrestored⟩ := hheeds.1 hsession
    obtain rfl := hrestored name named hname
    exact ⟨hsaved, rfl, hne, htype⟩

/-- What is kept in a run: after a reset nothing more is sent or saved. -/
structure Invariant (account : Account) (login : UserLogin) : Prop where
  stores : Stores account login
  follows : login.stopped = false → Follows account login

theorem Stores.of_choice (h : Stores account self) (choice : SessionChoice)
    (toWorker : List AccountCall) (calledOpen stopped : Bool) :
    Stores account
      { self with
        choice := choice
        toWorker := toWorker
        calledOpen := calledOpen
        stopped := stopped } :=
  ⟨h.sessionType, h.opened, h.ran⟩

theorem Invariant.choose (hstores : Stores account self) (hfollows : Follows account self)
    {event : SessionChoice.ChoiceEvent} (hheeds : self.Heeds installed event)
    (hopened : ∀ serviceName, event = .startSession serviceName → self.opened = true) :
    Invariant account (self.choose installed event) := by
  have hsame : ∀ choice : SessionChoice,
      choice.selectedSession = self.choice.selectedSession →
      Invariant account { self with choice := choice } :=
    fun choice hselected => ⟨hstores.of_choice choice self.toWorker self.calledOpen self.stopped,
      fun _ => hfollows.of_choice hselected self.toDaemon self.opened self.ran⟩
  unfold UserLogin.choose
  cases hself : self.choice.handleEvent installed event with
  | none => exact hsame _ rfl
  | some choice =>
    cases event with
    | selectSession name =>
      have hselected := SessionChoice.selectSession_selectedSession hself
      dsimp only
      split
      · rename_i hsends
        obtain ⟨hne, _, hcalled, hloaded⟩ := hheeds hsends.1
        rw [hsends.1, if_neg Bool.false_ne_true] at hselected
        exact ⟨hstores.of_choice _ _ self.calledOpen self.stopped,
          fun _ => hfollows.select hselected hne hcalled hloaded⟩
      · rename_i hsilent
        refine hsame choice ?_
        cases hrunning : self.choice.isRunning with
        | true => rw [hselected, hrunning, if_pos rfl]
        | false => exact absurd ⟨hrunning, (hheeds hrunning).2.1⟩ hsilent
    | openSession serviceName =>
      have hselected := SessionChoice.handleEvent_selectedSession hself nofun nofun
      dsimp only
      split
      · exact ⟨hstores.of_choice _ _ true self.stopped, fun _ => hfollows.callOpen hselected⟩
      · exact hsame choice hselected
    | startSession serviceName =>
      have hselected := SessionChoice.handleEvent_selectedSession hself nofun nofun
      dsimp only
      split
      · refine ⟨⟨hstores.sessionType, hstores.opened, fun name type hchosen => ?_⟩,
          fun _ => hfollows.of_choice hselected self.toDaemon self.opened _⟩
        exact hfollows.ran hstores (hopened serviceName rfl) hheeds hchosen
      · exact hsame choice hselected
    | reset =>
      refine ⟨hstores.of_choice _ self.toWorker self.calledOpen true, fun hrunning => ?_⟩
      cases hrunning
    | setup serviceName
    | setupForUser serviceName username
    | selectUser username
    | usernameChanged username
    | savedSessionTypeRead type
    | savedSessionNameRead name
    | programStarted serviceName
    | sessionExited =>
      exact hsame choice (SessionChoice.handleEvent_selectedSession hself nofun nofun)

/-! ## The worker -/

/-- What the worker has sent and saved. -/
theorem workerActs_eq {worker : GdmSessionWorker} {signals : List AccountSignal}
    {store : Account → Account} (h : Sends self.worker worker signals store) :
    self.workerActs worker = { self with
      worker := worker
      account := store self.account
      toDaemon := self.toDaemon ++ signals } := by
  obtain ⟨effects, hlog, hsignals, hstore⟩ := h
  unfold workerActs
  rw [hlog, List.drop_left]
  dsimp only
  rw [hsignals, hstore]

/-- A worker that saves nothing sends no reply. -/
theorem Stores.acts (h : Stores account self) (toWorker : List AccountCall)
    {worker : GdmSessionWorker} {signals : List AccountSignal}
    (hstate : worker.state = self.worker.state) (hsilent : .opened ∉ signals) :
    Stores account { self with
      toWorker := toWorker
      worker := worker
      toDaemon := self.toDaemon ++ signals } where
  sessionType := h.sessionType
  opened hopened := by
    refine hstate.trans (h.opened ?_)
    rcases hopened with hopened | hopened
    · exact .inl hopened
    · exact .inr ((List.mem_append.mp hopened).resolve_right hsilent)
  ran name type hran := by
    obtain ⟨hsaved, hrest⟩ := h.ran name type hran
    exact ⟨hstate.trans hsaved, hrest⟩

/-- A worker that saves the account keeps the type, and has not been asked to before. -/
theorem Stores.saves (h : Stores account self) (toWorker : List AccountCall)
    {worker : GdmSessionWorker} (signals : List AccountSignal) {stored : Account}
    (hunsaved : self.worker.state ≠ .accountDetailsSaved)
    (hstate : worker.state = .accountDetailsSaved)
    (htype : stored.sessionType = self.account.sessionType) :
    Stores account { self with
      toWorker := toWorker
      worker := worker
      account := stored
      toDaemon := self.toDaemon ++ signals } where
  sessionType := htype.trans h.sessionType
  opened _ := hstate
  ran name type hran := absurd (h.ran name type hran).1 hunsaved

/-- The worker takes calls, and does not save. -/
theorem Follows.acts (h : Follows account self) {toWorker : List AccountCall}
    (hcalls : toWorker.Sublist self.toWorker) {worker : GdmSessionWorker}
    (hstate : worker.state = .accountDetailsSaved ↔ self.worker.state = .accountDetailsSaved)
    (toDaemon : List AccountSignal)
    (hworker : Unloaded account { self with toWorker := toWorker, worker := worker } ∨
      Loaded account { self with toWorker := toWorker, worker := worker }) :
    Follows account
      { self with toWorker := toWorker, worker := worker, toDaemon := toDaemon } where
  worker := by
    rcases hworker with hunloaded | hloaded
    · exact .inl ⟨hunloaded.unknown, hunloaded.unsaved, hunloaded.unnamed, hunloaded.settings⟩
    · exact .inr ⟨hloaded.known, hloaded.settings⟩
  named := h.named
  unsaved hunsaved := h.unsaved fun hsaved => hunsaved (hstate.mpr hsaved)
  saved hsaved := h.saved (hstate.mp hsaved)
  ordered := h.ordered.sublist hcalls
  uncalled hcalled := by
    obtain ⟨hnone, hunsaved⟩ := h.uncalled hcalled
    exact ⟨fun hmem => hnone (hcalls.mem hmem), fun hsaved => hunsaved (hstate.mp hsaved)⟩

/-- The worker saves the settings that it has by then. -/
theorem Follows.saves (h : Follows account self) {toWorker : List AccountCall}
    (hcalls : toWorker.Sublist self.toWorker) {worker : GdmSessionWorker}
    {settings : GdmSessionSettings} {stored : Account} (hcalled : self.calledOpen = true)
    (hstate : worker.state = .accountDetailsSaved)
    (hknown : (worker.accounts self.username).isSome = true)
    (hhas : HasSettings self.username worker.accounts settings worker)
    (htype : settings.sessionType = isSet account.sessionType)
    (hstored : stored.sessionName =
      self.choice.selectedSession.getD account.sessionName) (toDaemon : List AccountSignal) :
    Follows account { self with
      toWorker := toWorker
      worker := worker
      account := stored
      toDaemon := toDaemon } where
  worker := .inr ⟨hknown, settings, hhas, htype, fun hunsaved => absurd hstate hunsaved⟩
  named := h.named
  unsaved hunsaved := absurd hstate hunsaved
  saved _ := hstored
  ordered := h.ordered.sublist hcalls
  uncalled hnot := by
    have hboth : self.calledOpen = false := hnot
    rw [hcalled] at hboth
    cases hboth

/-- The settings get the name that was sent. -/
theorem Invariant.setSessionName (hstores : Stores account self)
    (hfollows : Follows account self) {name : String} {rest : List AccountCall}
    (hcalls : self.toWorker = .setSessionName name :: rest) :
    Invariant account ({ self with toWorker := rest }.workerActs
      (self.worker.handleSetSessionName name)) := by
  have hsublist : rest.Sublist self.toWorker := by
    rw [hcalls]
    exact List.sublist_cons_self _ rest
  obtain ⟨worker, hdef⟩ : ∃ worker, worker = self.worker.handleSetSessionName name := ⟨_, rfl⟩
  have hset : ∀ settings, HasSettings self.username self.worker.accounts settings self.worker →
      (HasSettings self.username worker.accounts { settings with sessionName := some name } worker →
        worker.accounts = self.worker.accounts → worker.state = self.worker.state →
        Unloaded account { self with toWorker := rest, worker := worker } ∨
          Loaded account { self with toWorker := rest, worker := worker }) →
      Invariant account ({ self with toWorker := rest }.workerActs worker) := by
    intro settings hhas hworker
    obtain ⟨hset, hstate, signals, hsends, hsilent⟩ :=
      GdmSessionWorker.handleSetSessionName_spec hhas name
    rw [← hdef] at hset hstate hsends
    have hacts : ({ self with toWorker := rest } : UserLogin).workerActs worker = _ :=
      workerActs_eq hsends
    rw [hacts]
    refine ⟨hstores.acts rest hstate hsilent, fun _ => ?_⟩
    exact hfollows.acts hsublist (by rw [hstate]) _ (hworker hset.here hset.known hstate)
  rw [← hdef]
  rcases hfollows.worker with hunloaded | hloaded
  · obtain ⟨old, handlers, hhas, hpending, hwaits⟩ := hunloaded.settings
    refine hset _ hhas fun hnow hknown hstate => .inl ⟨?_, ?_, hunloaded.unnamed, ?_⟩
    · exact (congrFun hknown self.username).trans hunloaded.unknown
    · exact fun hsaved => hunloaded.unsaved (hstate.symm.trans hsaved)
    · refine ⟨some name, handlers, hnow, ?_, ?_⟩
      · rw [hcalls] at hpending
        exact hpending
      · rcases hwaits with hnone | hstart | ⟨_, hopens⟩
        · exact .inl hnone
        · exact .inr (.inl (hstate.trans hstart))
        · have hopen := hopens (.setSessionName name) (by rw [hcalls]; exact List.mem_cons_self)
          cases hopen
  · obtain ⟨settings, hhas, htype, hpending⟩ := hloaded.settings
    refine hset settings hhas fun hnow hknown hstate => .inr ⟨?_, _, hnow, htype, ?_⟩
    · show (worker.accounts self.username).isSome = true
      rw [hknown]
      exact hloaded.known
    · intro hunsaved
      have hnamed := hpending fun hsaved => hunsaved (hstate.trans hsaved)
      rw [hcalls] at hnamed
      exact hnamed

/-- What is stored when the name that was selected has arrived. -/
theorem storeIn_spec (hstores : Stores account self) (hfollows : Follows account self)
    (hunsaved : self.worker.state ≠ .accountDetailsSaved) {settings : GdmSessionSettings}
    (htype : settings.sessionType = isSet account.sessionType)
    (hname : settings.sessionName =
      self.choice.selectedSession.or (isSet account.sessionName)) :
    (settings.storeIn self.account).sessionType = self.account.sessionType ∧
      (settings.storeIn self.account).sessionName =
        self.choice.selectedSession.getD account.sessionName := by
  have hkept : ∀ text : String, (isSet text).getD text = text := by
    intro text
    unfold isSet
    split <;> rfl
  constructor
  · show settings.sessionType.getD self.account.sessionType = self.account.sessionType
    rw [htype, hstores.sessionType, hkept]
  · show settings.sessionName.getD self.account.sessionName = _
    rw [hname, hfollows.unsaved hunsaved]
    cases self.choice.selectedSession with
    | some selected => rfl
    | none =>
      rw [Option.none_or, hkept]
      rfl

/-- Open makes the worker wait for the account, or save it.  No name comes after it. -/
theorem Invariant.openSession (hstores : Stores account self)
    (hfollows : Follows account self) {rest : List AccountCall}
    (hcalls : self.toWorker = .openSession :: rest) :
    Invariant account ({ self with toWorker := rest }.workerActs
      (if self.worker.state = GdmSessionWorkerState.accredited then
        self.worker.doSaveAccountDetailsWhenReady
      else self.worker)) := by
  have hsublist : rest.Sublist self.toWorker := by
    rw [hcalls]
    exact List.sublist_cons_self _ rest
  have hopens : ∀ call ∈ rest, call = .openSession := by
    intro call hcall
    have hordered := hfollows.ordered
    rw [hcalls] at hordered
    exact (List.pairwise_cons.mp hordered).1 call hcall rfl
  have hcalled : self.calledOpen = true := by
    cases hnot : self.calledOpen with
    | true => rfl
    | false =>
      refine absurd ?_ (hfollows.uncalled hnot).1
      rw [hcalls]
      exact List.mem_cons_self
  split
  · rename_i hstate
    have hunsaved : self.worker.state ≠ .accountDetailsSaved := by
      rw [hstate]
      exact nofun
    rcases hfollows.worker with hunloaded | hloaded
    · -- the worker waits
      obtain ⟨name, handlers, hhas, hpending, _⟩ := hunloaded.settings
      obtain ⟨hwaits, hstays, hsends⟩ :=
        GdmSessionWorker.doSaveAccountDetailsWhenReady_unloaded hhas hunloaded.unknown hstate
      have hacts : ({ self with toWorker := rest } : UserLogin).workerActs
          self.worker.doSaveAccountDetailsWhenReady = _ := workerActs_eq hsends
      rw [hacts]
      refine ⟨hstores.acts rest hstays List.not_mem_nil, fun _ => ?_⟩
      refine hfollows.acts hsublist (by rw [hstays]) _ (.inl ⟨?_, ?_, hunloaded.unnamed, ?_⟩)
      · exact (congrFun hwaits.known self.username).trans hunloaded.unknown
      · exact fun hsaved => hunsaved (hstays.symm.trans hsaved)
      · refine ⟨name, handlers + 1, hwaits.here, ?_, .inr (.inr ⟨hcalled, hopens⟩)⟩
        rw [hcalls] at hpending
        exact hpending
    · -- the worker saves
      obtain ⟨settings, hhas, htype, hpending⟩ := hloaded.settings
      obtain ⟨hhas', hstate', hsends⟩ :=
        GdmSessionWorker.doSaveAccountDetailsWhenReady_loaded hhas hloaded.known hstate
      have hacts : ({ self with toWorker := rest } : UserLogin).workerActs
          self.worker.doSaveAccountDetailsWhenReady = _ := workerActs_eq hsends
      have hname := hpending hunsaved
      rw [hcalls] at hname
      obtain ⟨hkept, hstored⟩ := storeIn_spec hstores hfollows hunsaved htype
        ((namedBy_of_opens hopens settings.sessionName).symm.trans hname)
      rw [hacts]
      refine ⟨hstores.saves rest _ hunsaved hstate' hkept, fun _ => ?_⟩
      refine hfollows.saves hsublist hcalled hstate' ?_ hhas'.here htype hstored _
      rw [hhas'.known]
      exact hloaded.known
  · -- Open is refused
    have hacts : ({ self with toWorker := rest } : UserLogin).workerActs self.worker = _ :=
      workerActs_eq (Sends.refl self.worker)
    rw [hacts]
    refine ⟨hstores.acts rest rfl List.not_mem_nil, fun _ => ?_⟩
    refine hfollows.acts hsublist Iff.rfl _ ?_
    rcases hfollows.worker with hunloaded | hloaded
    · obtain ⟨name, handlers, hhas, hpending, _⟩ := hunloaded.settings
      rw [hcalls] at hpending
      exact .inl ⟨hunloaded.unknown, hunloaded.unsaved, hunloaded.unnamed, name, handlers, hhas,
        hpending, .inr (.inr ⟨hcalled, hopens⟩)⟩
    · obtain ⟨settings, hhas, htype, hpending⟩ := hloaded.settings
      rw [hcalls] at hpending
      exact .inr ⟨hloaded.known, settings, hhas, htype, hpending⟩

theorem Invariant.workerCall (hstores : Stores account self)
    (hfollows : Follows account self) : Invariant account self.workerCall := by
  unfold UserLogin.workerCall
  cases hcalls : self.toWorker with
  | nil => exact ⟨hstores, fun _ => hfollows⟩
  | cons call rest => cases call with
    | setSessionName name => exact Invariant.setSessionName hstores hfollows hcalls
    | openSession => exact Invariant.openSession hstores hfollows hcalls

/-- What PAM does changes the state before the account is saved. -/
theorem Follows.advance (h : Follows account self) {state : GdmSessionWorkerState}
    (hunsaved : self.worker.state ≠ .accountDetailsSaved) (hstate : state ≠ .accountDetailsSaved)
    (hready : self.worker.state = .none → (self.worker.settingsObject 0).isLoadedHandlers = 0) :
    Follows account { self with worker := { self.worker with state := state } } := by
  refine h.acts (List.Sublist.refl self.toWorker)
    (iff_of_false hstate hunsaved) self.toDaemon ?_
  rcases h.worker with hunloaded | hloaded
  · obtain ⟨name, handlers, hhas, hpending, hwaits⟩ := hunloaded.settings
    refine .inl ⟨hunloaded.unknown, hstate, hunloaded.unnamed, name, handlers,
      ⟨hhas.current, hhas.forUser, rfl, hhas.only, hhas.owner⟩, hpending, ?_⟩
    rcases hwaits with hnone | hstart | hopens
    · exact .inl hnone
    · have hzero := hready hstart
      rw [hhas.object] at hzero
      exact .inl hzero
    · exact .inr (.inr hopens)
  · obtain ⟨settings, hhas, htype, hpending⟩ := hloaded.settings
    exact .inr ⟨hloaded.known, settings,
      ⟨hhas.current, hhas.forUser, rfl, hhas.only, hhas.owner⟩, htype,
      fun _ => hpending hunsaved⟩

theorem Invariant.pamStep (hstores : Stores account self) (hfollows : Follows account self) :
    Invariant account self.pamStep := by
  have hadvance : ∀ state : GdmSessionWorkerState,
      self.worker.state ≠ .accountDetailsSaved → state ≠ .accountDetailsSaved →
      (self.worker.state = .none →
        (self.worker.settingsObject 0).isLoadedHandlers = 0) →
      Invariant account { self with worker := { self.worker with state := state } } := by
    intro state hunsaved hstate hready
    refine ⟨⟨hstores.sessionType, fun hopened => ?_, fun name type hran => ?_⟩,
      fun _ => hfollows.advance hunsaved hstate hready⟩
    · exact absurd (hstores.opened hopened) hunsaved
    · exact absurd (hstores.ran name type hran).1 hunsaved
  unfold UserLogin.pamStep
  split
  · exact ⟨hstores, fun _ => hfollows⟩
  · rename_i hready
    split
    · rename_i hstate
      refine hadvance _ (by rw [hstate]; nofun) nofun fun _ => ?_
      by_contra hwaits
      exact hready ⟨hstate, hwaits⟩
    · rename_i hstate
      exact hadvance _ (by rw [hstate]; nofun) nofun (by rw [hstate]; nofun)
    · rename_i hstate
      exact hadvance _ (by rw [hstate]; nofun) nofun (by rw [hstate]; nofun)
    · rename_i hstate
      exact hadvance _ (by rw [hstate]; nofun) nofun (by rw [hstate]; nofun)
    · exact ⟨hstores, fun _ => hfollows⟩

/-- The account has a name, or a session has been selected, but not both. -/
theorem Unloaded.named (h : Unloaded account self) {name : Option String}
    (hpending : namedBy self.toWorker name = self.choice.selectedSession) :
    (account.sessionName ≠ "" → name = none) ∧
      namedBy self.toWorker ((isSet account.sessionName).or name) =
        self.choice.selectedSession.or (isSet account.sessionName) := by
  by_cases hempty : account.sessionName = ""
  · have hunset : isSet account.sessionName = none := if_pos hempty
    refine ⟨fun hne => absurd hempty hne, ?_⟩
    rw [hunset, Option.none_or, Option.or_none, hpending]
  · have hnot : self.choice.selectedSession = none := by
      by_contra hselected
      exact hempty (h.unnamed hselected)
    rw [hnot] at hpending ⊢
    have hnone : name = none := by
      cases name with
      | none => rfl
      | some sent => exact absurd hpending (namedBy_some_ne_none self.toWorker sent)
    subst hnone
    exact ⟨fun _ => rfl, by
      rw [Option.or_none, Option.none_or, namedBy_of_none hpending]⟩

/-- The account is loaded, and saved at once when Open has waited for it. -/
theorem Invariant.accountLoaded (hstores : Stores account self)
    (hfollows : Follows account self) : Invariant account self.accountLoaded := by
  unfold UserLogin.accountLoaded
  split
  · exact ⟨hstores, fun _ => hfollows⟩
  rename_i hnot
  rcases hfollows.worker with hunloaded | hloaded
  swap
  · exact absurd hloaded.known hnot
  have hunsaved := hunloaded.unsaved
  obtain ⟨name, handlers, hhas, hpending, hwaits⟩ := hunloaded.settings
  obtain ⟨hunnamed, hnamed⟩ := hunloaded.named hpending
  have hsame := hfollows.unsaved hunsaved
  rw [← hsame] at hunnamed
  obtain ⟨settings, loaded, ⟨_, hname, htype⟩, hhas', hstate, hsends, hsaved, hsilent⟩ :=
    GdmSessionWorker.accountLoaded_spec hhas hunnamed
  rw [hstores.sessionType] at htype
  rw [hsame] at hname
  have hknown : ((self.worker.accountLoaded self.username self.account).accounts
      self.username).isSome = true := by
    rw [hhas'.known]
    dsimp only
    rw [if_pos rfl]
    rfl
  rcases hsaved with ⟨hstays, hquiet⟩ | ⟨hbefore, hafter, hreply⟩
  · -- nothing waits for the account to be saved
    have hstays' := hstays.trans hstate
    rw [workerActs_eq (hsends.trans hquiet), List.append_nil]
    refine ⟨hstores.acts self.toWorker hstays'
      (GdmSessionWorker.opened_not_mem_accountSignals self.account), fun _ => ?_⟩
    refine hfollows.acts (List.Sublist.refl _) (by rw [hstays']) _
      (.inr ⟨hknown, settings, hhas'.here, htype, fun _ => ?_⟩)
    rw [hname]
    exact hnamed
  · -- Open has waited, and no name comes after it
    have hstart : self.worker.state = .accredited := hstate.symm.trans hbefore
    obtain ⟨hcalled, hopens⟩ : self.calledOpen = true ∧
        ∀ call ∈ self.toWorker, call = .openSession := by
      rcases hwaits with hnone | hnostate | hopens
      · have hstays := (hsilent hnone).symm.trans hafter
        exact absurd hstays hunsaved
      · cases hnostate.symm.trans hstart
      · exact hopens
    rw [namedBy_of_opens hopens] at hnamed
    obtain ⟨hkept, hstored⟩ := storeIn_spec hstores hfollows hunsaved htype
      (hname.trans hnamed)
    rw [workerActs_eq (hsends.trans hreply)]
    refine ⟨hstores.saves self.toWorker _ hunsaved hafter hkept, fun _ => ?_⟩
    exact hfollows.saves (List.Sublist.refl _) hcalled hafter hknown hhas'.here htype hstored _

/-! ## Runs -/

theorem Invariant.workerSignal (hstores : Stores account self)
    (hfollows : Follows account self) (installed : Installed) :
    Invariant account (self.workerSignal installed) := by
  have hpopped : ∀ (toDaemon : List AccountSignal) (opened : Bool),
      (opened = true ∨ .opened ∈ toDaemon → self.opened = true ∨ .opened ∈ self.toDaemon) →
      Stores account { self with toDaemon := toDaemon, opened := opened } ∧
        Follows account { self with toDaemon := toDaemon, opened := opened } :=
    fun toDaemon opened hopened =>
      ⟨⟨hstores.sessionType, fun h => hstores.opened (hopened h), hstores.ran⟩,
        hfollows.of_choice rfl toDaemon opened self.ran⟩
  unfold UserLogin.workerSignal
  cases hsignals : self.toDaemon with
  | nil => exact ⟨hstores, fun _ => hfollows⟩
  | cons signal rest =>
    have hrest : self.opened = true ∨ .opened ∈ rest →
        self.opened = true ∨ .opened ∈ self.toDaemon := by
      rw [hsignals]
      exact Or.imp_right (List.mem_cons_of_mem signal)
    obtain ⟨hpop, hpop'⟩ := hpopped rest self.opened hrest
    cases signal with
    | savedSessionTypeRead type => exact Invariant.choose hpop hpop' trivial nofun
    | savedSessionNameRead name => exact Invariant.choose hpop hpop' trivial nofun
    | opened =>
      obtain ⟨hpop, hpop'⟩ := hpopped rest true fun _ => by
        rw [hsignals]
        exact .inr List.mem_cons_self
      exact ⟨hpop, fun _ => hpop'⟩

theorem Invariant.step (h : Invariant account self) {input : LoginEvent × Installed}
    (hkeeps : self.KeepsSession input) : Invariant account (self.step input) := by
  unfold UserLogin.step
  split
  · exact h
  · rename_i hthere
    have hstores := h.stores
    have hfollows := h.follows (Bool.of_not_eq_true fun hstopped => hthere (.inr hstopped))
    obtain ⟨event, installed⟩ := input
    cases event with
    | workerCall => exact Invariant.workerCall hstores hfollows
    | workerSignal => exact Invariant.workerSignal hstores hfollows installed
    | pamStep => exact Invariant.pamStep hstores hfollows
    | accountLoaded => exact Invariant.accountLoaded hstores hfollows
    | choice event =>
      have hheeds : self.Heeds installed event := hkeeps
      cases event with
      | startSession serviceName =>
        dsimp only
        split
        · rename_i hopened
          exact Invariant.choose hstores hfollows hheeds fun _ _ => hopened.1
        · exact h
      | setup serviceName
      | setupForUser serviceName username
      | selectUser username
      | usernameChanged username
      | savedSessionTypeRead type
      | savedSessionNameRead name
      | selectSession name
      | openSession serviceName
      | programStarted serviceName
      | sessionExited
      | reset => exact Invariant.choose hstores hfollows hheeds nofun

/-- The worker has been told of the user, and nothing has been sent. -/
theorem initially_invariant (username serviceName : String) (account : Account) (waits : Bool)
    {choice : SessionChoice} (hstart : SessionChoice.machine.Start choice) :
    Invariant account (initially username serviceName account choice waits) := by
  obtain ⟨types, isLocal, greeter, rfl⟩ := hstart
  refine ⟨⟨rfl, ?_, nofun⟩, fun _ => ⟨.inl ⟨rfl, nofun, fun hne => absurd rfl hne, ?_⟩, nofun,
    fun _ => rfl, nofun, List.Pairwise.nil, fun _ => ⟨List.not_mem_nil, nofun⟩⟩⟩
  · rintro (hopened | hopened)
    · cases hopened
    · cases hopened
  · exact ⟨none, if waits then 1 else 0, ⟨rfl, rfl, rfl, rfl, rfl⟩, rfl, .inr (.inl rfl)⟩

end UserLogin

end Gdm
