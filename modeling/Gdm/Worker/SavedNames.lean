import Gdm.Worker.SettingsRule

/-!
# The saved names that the worker tells

The worker emits a signal when a name changes in a settings object, whoever changes it.  The
handlers are to be disconnected after the loading, which is done by the handler of the
is-loaded notification only, and that one is connected only while the worker waits.  In what
follows a name is told silently enough when it comes from the account of the user.
-/

namespace Gdm

/-- The fields that are told as long as the handlers for the saved names are connected. -/
def SavedField.names : List SavedField :=
  [.sessionName, .languageName]

/-- What a call of the daemon sets. -/
def WorkerEvent.sets : WorkerEvent → Option (SavedField × String)
  | .setSessionName name => some (.sessionName, name)
  | .setLanguageName name => some (.languageName, name)
  | _ => none

namespace GdmSessionWorker

variable {worker worker' : GdmSessionWorker} {i : Nat} {user : String} {account : Account}

/-- The value in the settings object that the worker uses. -/
def currentValue (worker : GdmSessionWorker) (field : SavedField) : Option String :=
  worker.currentSettings.bind (·.value field)

/-- The account of the user of the settings, when the accounts service has loaded it. -/
def currentAccount (worker : GdmSessionWorker) : Option Account :=
  worker.userSettings.bind fun i => (worker.settingsObject i).user.bind worker.accounts

/-- The value is the one that has been loaded for the user of the settings. -/
def Loaded (worker : GdmSessionWorker) (field : SavedField) (value : Option String) : Prop :=
  value ≠ none ∧ worker.currentAccount.map (·.value field) = value

instance (field : SavedField) (value : Option String) : Decidable (worker.Loaded field value) := by
  unfold Loaded
  infer_instance

/-- Each saved name that the worker tells on the event has been loaded, and it does not tell
what the daemon sets. -/
def ReadsSaved (worker : GdmSessionWorker) (event : WorkerEvent) : Prop :=
  ∀ effect ∈ (worker.step event).log.drop worker.log.length, ∀ field ∈ SavedField.names,
    ∀ value, effect = field.read value →
      event.sets = none ∧ (worker.step event).Loaded field value

/-- The account does not wake the settings object, or it is the one in use, or what the worker
tells then is loaded. -/
def WakesQuietly (worker : GdmSessionWorker) (user : String) (account : Account) (i : Nat) :
    Prop :=
  worker.Awaits i user → (worker.settingsObject i).savedNameHandlers = true →
    worker.userSettings ≠ some i → ∀ field ∈ SavedField.names, account.value field ≠ "" →
      (worker.knowsAccount user account).Loaded field (worker.currentValue field)

instance (user : String) (account : Account) (i : Nat) :
    Decidable (worker.WakesQuietly user account i) := by
  unfold WakesQuietly
  infer_instance

/-- The daemon sets a name only when the handlers have been disconnected, or when it is the
name that is there; and an account that is loaded wakes no settings object that has been
replaced, unless what the worker has now is a loaded name. -/
def KeepsSilent (worker : GdmSessionWorker) (event : WorkerEvent) : Prop :=
  worker.status = .running →
    match event with
    | .setSessionName name => ∀ i ∈ worker.userSettings,
      (worker.settingsObject i).savedNameHandlers = true →
        (worker.settingsObject i).sessionName = some name
    | .setLanguageName name => ∀ i ∈ worker.userSettings,
      (worker.settingsObject i).savedNameHandlers = true →
        (worker.settingsObject i).languageName = some name
    | .accountLoaded user account =>
      ∀ i < worker.settings.length, worker.WakesQuietly user account i
    | _ => True

instance (event : WorkerEvent) : Decidable (worker.KeepsSilent event) :=
  match event with
  | .setSessionName _ | .setLanguageName _ | .accountLoaded _ _ =>
    inferInstanceAs (Decidable (_ = _ → _))
  | .call _ | .stateChangeIdle _ | .accountUnloaded _ | .childExited _ _ | .finalize _ =>
    isTrue fun _ => trivial

/-- The worker uses a settings object that there is. -/
def InRange (worker : GdmSessionWorker) : Prop :=
  ∀ i, worker.userSettings = some i → i < worker.settings.length

/-! ## What is told in a step -/

/-- What the worker has told of the names since `before` has been loaded, and it has the
values that it had, or loaded ones. -/
structure Reads (values : SavedField → Option String) (before : List Effect)
    (w : GdmSessionWorker) : Prop where
  inRange : w.InRange
  log : ∃ new, w.log = before ++ new ∧ ∀ effect ∈ new, ∀ field ∈ SavedField.names, ∀ value,
    effect = field.read value → w.Loaded field value
  current : ∀ field, w.currentValue field = values field ∨ w.Loaded field (w.currentValue field)

variable {values : SavedField → Option String} {before : List Effect}

theorem read_isOfSettings {field : SavedField} (h : field ∈ SavedField.names)
    (value : Option String) : (field.read value).isOfSettings = true := by
  cases field with
  | sessionType => simp [SavedField.names] at h
  | sessionName => rfl
  | languageName => rfl

theorem read_injective {field other : SavedField} {value value' : Option String}
    (h : field.read value = other.read value') : field = other ∧ value = value' := by
  cases field with
  | sessionType => cases other with
    | sessionType => exact ⟨rfl, Effect.savedSessionTypeRead.inj h⟩
    | _ => cases h
  | sessionName => cases other with
    | sessionName => exact ⟨rfl, Effect.savedSessionNameRead.inj h⟩
    | _ => cases h
  | languageName => cases other with
    | languageName => exact ⟨rfl, Effect.savedLanguageNameRead.inj h⟩
    | _ => cases h

theorem SettingsFrame.currentAccount (h : SettingsFrame worker worker') :
    worker'.currentAccount = worker.currentAccount := by
  unfold GdmSessionWorker.currentAccount
  rw [h.userSettings, h.accounts]
  simp only [h.user]

theorem SettingsFrame.loaded (h : SettingsFrame worker worker') {field : SavedField}
    {value : Option String} : worker'.Loaded field value ↔ worker.Loaded field value := by
  unfold Loaded
  rw [h.currentAccount]

theorem SettingsFrame.inRange (h : SettingsFrame worker worker') (hrange : worker.InRange) :
    worker'.InRange := by
  intro i hcurrent
  rw [h.objects]
  exact hrange i (h.userSettings.symm.trans hcurrent)

theorem currentValue_eq (hcurrent : worker.userSettings = some i) (field : SavedField) :
    worker.currentValue field = (worker.settingsObject i).value field := by
  simp [currentValue, currentSettings, hcurrent]

theorem currentValue_none (hcurrent : worker.userSettings = none) (field : SavedField) :
    worker.currentValue field = none := by
  simp [currentValue, currentSettings, hcurrent]

/-- A frame in which nothing is told. -/
theorem Reads.of_frame (h : Reads values before worker) (hframe : SettingsFrame worker worker')
    (hvalue : ∀ field, worker'.currentValue field = worker.currentValue field)
    (hlog : ∃ new, worker'.log = worker.log ++ new ∧
      ∀ effect ∈ new, ∀ field ∈ SavedField.names, ∀ value, effect = field.read value →
        worker.Loaded field value) : Reads values before worker' := by
  constructor
  · exact hframe.inRange h.inRange
  · obtain ⟨new, hbefore, hnew⟩ := h.log
    obtain ⟨late, hlate, hread⟩ := hlog
    refine ⟨new ++ late, by rw [hlate, hbefore, List.append_assoc], ?_⟩
    intro effect heffect field hfield value hvalue
    rw [hframe.loaded]
    rcases List.mem_append.mp heffect with hold | hlast
    · exact hnew effect hold field hfield value hvalue
    · exact hread effect hlast field hfield value hvalue
  · intro field
    rw [hvalue, hframe.loaded]
    exact h.current field

theorem Reads.aside (h : Reads values before worker) (hsame : SameSettings worker worker') :
    Reads values before worker' := by
  have hobject : worker'.settingsObject = worker.settingsObject := funext hsame.settingsObject
  have haccount : worker'.currentAccount = worker.currentAccount := by
    simp [currentAccount, hobject, hsame.userSettings, hsame.accounts]
  have hvalue : worker'.currentValue = worker.currentValue := by
    funext field
    simp [currentValue, currentSettings, hobject, hsame.userSettings]
  constructor
  · intro i hcurrent
    rw [hsame.settings]
    exact h.inRange i (hsame.userSettings.symm.trans hcurrent)
  · obtain ⟨new, hbefore, hnew⟩ := h.log
    obtain ⟨late, hlate, hother⟩ := hsame.log
    refine ⟨new ++ late, by rw [hlate, hbefore, List.append_assoc], ?_⟩
    intro effect heffect field hfield value hvalue
    unfold Loaded
    rw [haccount]
    rcases List.mem_append.mp heffect with hold | hlast
    · exact hnew effect hold field hfield value hvalue
    · have hfalse := hother effect hlast
      rw [hvalue, read_isOfSettings hfield] at hfalse
      cases hfalse
  · intro field
    unfold Loaded
    rw [haccount, hvalue]
    exact h.current field

/-- The values stay when handlers are connected or disconnected, or the user changes. -/
theorem currentValue_modifySettings {f : GdmSessionSettings → GdmSessionSettings}
    (hf : ∀ s field, (f s).value field = s.value field) (field : SavedField) :
    (worker.modifySettings i f).currentValue field = worker.currentValue field := by
  cases hcurrent : worker.userSettings with
  | none =>
    have hmodified : (worker.modifySettings i f).userSettings = none := hcurrent
    rw [currentValue_none hcurrent, currentValue_none hmodified]
  | some j =>
    have hmodified : (worker.modifySettings i f).userSettings = some j := hcurrent
    rw [currentValue_eq hcurrent, currentValue_eq hmodified, settingsObject_modifySettings]
    split
    · exact hf _ field
    · rfl

theorem settingsRule_reads (values : SavedField → Option String) (before : List Effect) :
    SettingsRule (Reads values before) fun _ => True := by
  constructor
  · intro w w' hsame h
    exact h.aside hsame
  · intro w i f hf h
    have hvalue : ∀ field, (w.modifySettings i f).currentValue field = w.currentValue field :=
      fun field => currentValue_modifySettings (fun s field => (hf s).2 field) field
    have haccount : (w.modifySettings i f).currentAccount = w.currentAccount := by
      unfold currentAccount
      simp only [(modifySettings_keeps hf i _).1]
      rfl
    constructor
    · intro j hcurrent
      simpa [modifySettings] using h.inRange j hcurrent
    · unfold Loaded
      rw [haccount]
      exact h.log
    · intro field
      unfold Loaded
      rw [haccount, hvalue]
      exact h.current field
  · intro w i _ _ h
    unfold settingsSave
    split
    · exact h
    · split
      · refine h.of_frame (settingsFrame_emit _) (fun _ => rfl) ⟨[_], rfl, ?_⟩
        intro effect heffect field hfield value hvalue
        rw [List.mem_singleton.mp heffect] at hvalue
        cases field <;> cases hvalue
      · exact h
  · exact fun _ _ => trivial

/-- A value is taken over into the settings that the worker uses, or into others from which
nothing is told but loaded names. -/
theorem Reads.settingsTake (h : Reads values before worker)
    (hcurrent : worker.userSettings = some i → worker.currentAccount = some account)
    {field : SavedField}
    (htold : worker.userSettings = some i ∨
      ((worker.settingsObject i).savedNameHandlers = true → field ∈ SavedField.names →
        account.value field ≠ "" → worker.Loaded field (values field))) :
    Reads values before (worker.settingsTake i account field) := by
  unfold GdmSessionWorker.settingsTake
  split
  · rename_i hsome
    obtain ⟨changed, hchanged⟩ :
        ∃ w, w = worker.settingsChanged i field (account.value field) := ⟨_, rfl⟩
    have hframe : SettingsFrame worker changed := hchanged ▸ settingsFrame_settingsChanged i field _
    have hlog : changed.log = worker.log := by
      rw [hchanged]
      rfl
    have hown : worker.userSettings = some i → ∀ other, changed.currentValue other =
        if other = field then some (account.value field) else worker.currentValue other := by
      intro hi other
      have hi' : changed.userSettings = some i := hframe.userSettings.trans hi
      rw [currentValue_eq hi', currentValue_eq hi, hchanged, settingsChanged,
        settingsObject_modifySettings, if_pos ⟨rfl, h.inRange i hi⟩]
      exact GdmSessionSettings.value_withValue _ _ _ _
    have hothers : worker.userSettings ≠ some i → ∀ other,
        changed.currentValue other = worker.currentValue other := by
      intro hi other
      cases hj : worker.userSettings with
      | none =>
        rw [currentValue_none hj]
        exact currentValue_none (hframe.userSettings.trans hj) other
      | some j =>
        have hne : ¬ (i = j ∧ j < worker.settings.length) := by
          rintro ⟨rfl, -⟩
          exact hi hj
        have hj' : changed.userSettings = some j := hframe.userSettings.trans hj
        rw [currentValue_eq hj', currentValue_eq hj, hchanged, settingsChanged,
          settingsObject_modifySettings, if_neg hne]
    have hloaded : worker.userSettings = some i →
        changed.Loaded field (some (account.value field)) := by
      intro hi
      rw [hframe.loaded]
      constructor
      · simp
      · rw [hcurrent hi]
        rfl
    have hsilent : Reads values before changed := by
      constructor
      · exact hframe.inRange h.inRange
      · rw [hlog]
        obtain ⟨new, hbefore, hnew⟩ := h.log
        refine ⟨new, hbefore, ?_⟩
        intro effect heffect other hother value hvalue
        rw [hframe.loaded]
        exact hnew effect heffect other hother value hvalue
      · intro other
        by_cases hi : worker.userSettings = some i
        · rw [hown hi]
          split
          · rename_i heq
            right
            rw [heq]
            exact hloaded hi
          · rw [hframe.loaded]
            exact h.current other
        · rw [hothers hi, hframe.loaded]
          exact h.current other
    rw [settingsSet_eq]
    split
    · exact h
    · rw [← hchanged]
      split
      · rename_i hannounces
        refine hsilent.of_frame (settingsFrame_emit _) (fun _ => rfl) ⟨[_], rfl, ?_⟩
        intro effect heffect other hother value hvalue
        rw [List.mem_singleton.mp heffect] at hvalue
        obtain ⟨rfl, rfl⟩ := read_injective hvalue
        change changed.Loaded field (changed.currentValue field)
        by_cases hi : worker.userSettings = some i
        · rw [hown hi, if_pos rfl]
          exact hloaded hi
        · have hhandlers : (worker.settingsObject i).savedNameHandlers = true := by
            rcases hannounces with htype | hhandlers
            · rw [htype] at hother
              simp [SavedField.names] at hother
            · exact hhandlers
          rw [hothers hi, hframe.loaded]
          rcases h.current field with heq | hread
          · rw [heq]
            exact htold.resolve_left hi hhandlers hother hsome
          · exact hread
      · exact hsilent
  · exact h

/-- The settings get another user only while they are not loaded, so that nothing has been
told of them. -/
theorem Reads.settingsMoved (h : Reads values before worker)
    (hcurrent : worker.userSettings = some i) (hloaded : worker.settingsIsLoaded i = false)
    (user : String) : Reads values before (worker.settingsMoved i user) := by
  have hnone : worker.currentAccount = none := by
    unfold settingsIsLoaded at hloaded
    unfold currentAccount
    rw [hcurrent]
    cases huser : (worker.settingsObject i).user with
    | none => simp [huser]
    | some user =>
      rw [huser] at hloaded
      simpa [huser] using hloaded
  have hnever : ∀ field value, ¬ worker.Loaded field value := by
    rintro field value ⟨hsome, heq⟩
    rw [hnone] at heq
    exact hsome heq.symm
  constructor
  · intro j hj
    simpa [GdmSessionWorker.settingsMoved, modifySettings] using h.inRange j hj
  · obtain ⟨new, hbefore, hnew⟩ := h.log
    refine ⟨new, hbefore, ?_⟩
    intro effect heffect field hfield value hvalue
    exact absurd (hnew effect heffect field hfield value hvalue) (hnever field value)
  · intro field
    left
    have hsame : (worker.settingsMoved i user).currentValue field = worker.currentValue field :=
      currentValue_modifySettings (fun s field => by cases field <;> rfl) field
    rw [hsame]
    exact (h.current field).resolve_right (hnever field _)

/-- Loading into the settings that the worker uses tells what the account has. -/
theorem Reads.settingsLoad (h : Reads values before worker)
    (hcurrent : worker.userSettings = some i) (user : String) :
    Reads values before (worker.settingsLoad i (some user)).1 := by
  apply (settingsRule_reads values before).settingsLoad
  · intro hloaded
    exact h.settingsMoved hcurrent hloaded user
  · exact fun _ => trivial
  · intro account w field haccount hframe hw
    have hi : w.userSettings = some i := hframe.userSettings.trans hcurrent
    have huser : (w.settingsObject i).user = some user := by
      rw [hframe.user, GdmSessionWorker.settingsMoved, settingsObject_modifySettings,
        if_pos ⟨rfl, h.inRange i hcurrent⟩]
    apply hw.settingsTake
    · intro _
      have haccounts : w.accounts user = some account := by
        rw [hframe.accounts]
        exact haccount
      simp [currentAccount, hi, huser, haccounts]
    · exact .inl hi
  · exact h

theorem Reads.consults (h : Reads values before worker) {items : List UserItem}
    (hconsults : Consults items worker worker') : Reads values before worker' := by
  apply hconsults.preserves (P := Reads values before) _ _ h
  · intro w w' hsame _ hw
    exact hw.aside hsame
  · intro w item _ hw
    apply (settingsRule_reads values before).updateUsername item _ hw
    intro w' i user _ _ hcurrent _ _ hw'
    exact hw'.settingsLoad hcurrent user

/-! ## The steps -/

/-- Before a step nothing has been told in it. -/
theorem InRange.reads (hrange : worker.InRange) :
    Reads worker.currentValue worker.log worker := by
  constructor
  · exact hrange
  · exact ⟨[], by simp⟩
  · intro field
    left
    rfl

theorem Reads.readsSaved {event : WorkerEvent} (hsets : event.sets = none)
    (h : Reads values worker.log (worker.step event)) : ReadsSaved worker event := by
  intro effect heffect field hfield value hvalue
  obtain ⟨new, hlog, hnew⟩ := h.log
  rw [hlog, List.drop_left] at heffect
  exact ⟨hsets, hnew effect heffect field hfield value hvalue⟩

theorem reads_accountLoaded (hrange : worker.InRange)
    (hquiet : ∀ i < worker.settings.length, worker.WakesQuietly user account i) :
    Reads worker.currentValue worker.log (worker.accountLoaded user account) := by
  have hknows : Reads worker.currentValue worker.log (worker.knowsAccount user account) := by
    constructor
    · exact hrange
    · exact ⟨[], by simp [knowsAccount]⟩
    · intro field
      left
      rfl
  apply (settingsRule_reads _ _).accountLoaded _ _ hknows
  · exact fun _ _ => trivial
  · intro i hi hawaits w field hframe hw
    have huser : (w.settingsObject i).user = some user := (hframe.user i).trans hawaits.2
    apply hw.settingsTake
    · intro hcurrent
      simp [currentAccount, hcurrent, huser, hframe.accounts, knowsAccount]
    · by_cases hcurrent : worker.userSettings = some i
      · left
        exact hframe.userSettings.trans hcurrent
      · right
        intro hhandlers hfield hsome
        rw [hframe.loaded]
        exact hquiet i hi hawaits (hframe.savedNameHandlers i hhandlers) hcurrent field hfield hsome

theorem reads_stateChangeIdleCallback (hrange : worker.InRange) (o : Outcomes) :
    Reads worker.currentValue worker.log (worker.stateChangeIdleCallback o) := by
  by_cases hstate : worker.state = .accredited
  · rw [stateChangeIdleCallback_accredited hstate]
    apply (settingsRule_reads _ _).doSaveAccountDetailsWhenReady trivial _
      (hrange.reads.aside (sameSettings_dispatched _))
    intro w i user hcurrent _ _ hw hreads
    apply hreads.settingsLoad
    rw [hw]
    exact hcurrent
  · exact hrange.reads.consults (consults_stateChangeIdleCallback hstate o)

/-- `Initialize` comes with new settings, in which there is nothing yet. -/
theorem reads_receive (hrange : worker.InRange) (request : Request) :
    ∃ values, Reads values worker.log (worker.receive request) := by
  rcases @receive_cases worker request with hsame | ⟨w, hsame, -, heq⟩
  · exact ⟨_, hrange.reads.aside hsame⟩
  · rw [heq]
    have hnew : Reads (fun _ => none) worker.log w.newUserSettings := by
      have hcurrent : w.newUserSettings.userSettings = some w.settings.length := rfl
      constructor
      · intro i hi
        rw [hcurrent] at hi
        simp [newUserSettings, ← Option.some.inj hi]
      · obtain ⟨new, hlog, hother⟩ := hsame.log
        refine ⟨new, hlog, ?_⟩
        rintro effect heffect field hfield value rfl
        have hfalse := hother _ heffect
        rw [read_isOfSettings hfield] at hfalse
        cases hfalse
      · intro field
        left
        rw [currentValue_eq hcurrent, settingsObject_newUserSettings, settingsObject_length]
        cases field <;> rfl
    rcases (settingsRule_reads (fun _ => none) worker.log).startSettings hnew
      (fun user => hnew.settingsLoad rfl user) with hsame' | hstarted
    · exact ⟨_, hrange.reads.aside (hsame.trans hsame')⟩
    · exact ⟨_, hstarted⟩

/-- A name that is set silently. -/
theorem settingsSet_silent {field : SavedField} {text : String} (hfield : field ∈ SavedField.names)
    (h : (worker.settingsObject i).savedNameHandlers = true →
      (worker.settingsObject i).value field = some text) :
    (worker.settingsSet i field text).log = worker.log := by
  rw [settingsSet_eq]
  split
  · rfl
  · rename_i hvalue
    rw [if_neg]
    · rfl
    · rintro (htype | hhandlers)
      · rw [htype] at hfield
        simp [SavedField.names] at hfield
      · exact hvalue (h hhandlers)

theorem reads_sets (field : SavedField) (text : String) (hrange : worker.InRange)
    (hfield : field ∈ SavedField.names)
    (h : ∀ i ∈ worker.userSettings, (worker.settingsObject i).savedNameHandlers = true →
      (worker.settingsObject i).value field = some text) {event : WorkerEvent}
    (hstep : worker.step event =
      match worker.userSettings with
      | none => worker
      | some i => worker.settingsSet i field text) :
    ReadsSaved worker event ∧ (worker.step event).InRange := by
  have hboth : (worker.step event).log = worker.log ∧ (worker.step event).InRange := by
    rw [hstep]
    split
    · exact ⟨rfl, hrange⟩
    · rename_i i hcurrent
      constructor
      · exact settingsSet_silent hfield (h i hcurrent)
      · exact (settingsFrame_settingsSet i field text).inRange hrange
  constructor
  · intro effect heffect
    rw [hboth.1, List.drop_length] at heffect
    cases heffect
  · exact hboth.2

/-- A step under the condition tells loaded names only. -/
theorem KeepsSilent.readsSaved (hrange : worker.InRange) {event : WorkerEvent}
    (h : KeepsSilent worker event) :
    ReadsSaved worker event ∧ (worker.step event).InRange := by
  have hother : event.sets = none → (∃ values, Reads values worker.log (worker.step event)) →
      ReadsSaved worker event ∧ (worker.step event).InRange := by
    rintro hsets ⟨values, hreads⟩
    exact ⟨hreads.readsSaved hsets, hreads.inRange⟩
  by_cases hrunning : worker.status = .running
  · have hquiet := h hrunning
    cases event with
    | setSessionName name =>
      have hstep : worker.step (.setSessionName name) = worker.handleSetSessionName name := by
        simp [step, hrunning]
      exact reads_sets .sessionName name hrange (by simp [SavedField.names]) hquiet hstep
    | setLanguageName name =>
      have hstep : worker.step (.setLanguageName name) = worker.handleSetLanguageName name := by
        simp [step, hrunning]
      exact reads_sets .languageName name hrange (by simp [SavedField.names]) hquiet hstep
    | call request =>
      apply hother rfl
      simpa [step, hrunning] using reads_receive hrange request
    | stateChangeIdle o =>
      apply hother rfl
      refine ⟨worker.currentValue, ?_⟩
      by_cases hidle : worker.stateChangeIdle = true
      · simpa [step, hrunning, hidle] using reads_stateChangeIdleCallback hrange o
      · simpa [step, hrunning, hidle] using hrange.reads
    | accountLoaded user account =>
      apply hother rfl
      refine ⟨worker.currentValue, ?_⟩
      simpa [step, hrunning] using reads_accountLoaded hrange hquiet
    | accountUnloaded user =>
      apply hother rfl
      refine ⟨worker.currentValue, ?_⟩
      have hstep : worker.step (.accountUnloaded user) = worker.accountUnloaded user := by
        simp [step, hrunning]
      rw [hstep]
      constructor
      · exact hrange
      · exact ⟨[], by simp [accountUnloaded]⟩
      · intro field
        left
        rfl
    | childExited status o =>
      apply hother rfl
      refine ⟨worker.currentValue, ?_⟩
      cases hwatch : worker.childWatch with
      | none => simpa [step, hrunning, hwatch] using hrange.reads
      | some pid =>
        simpa [step, hrunning, hwatch] using
          hrange.reads.consults (consults_sessionWorkerChildWatch pid status o)
    | finalize o =>
      apply hother rfl
      refine ⟨worker.currentValue, ?_⟩
      simpa [step, hrunning] using hrange.reads.consults (consults_finalize o)
  · have hstep : worker.step event = worker := by
      simp [step, hrunning]
    constructor
    · intro effect heffect
      rw [hstep, List.drop_length] at heffect
      cases heffect
    · rw [hstep]
      exact hrange

/-- The condition is needed for what the daemon sets: the name is told otherwise. -/
theorem ReadsSaved.keepsSilent {event : WorkerEvent} (hsets : event.sets ≠ none)
    (h : ReadsSaved worker event) : KeepsSilent worker event := by
  have hset : ∀ (field : SavedField) (text : String), field ∈ SavedField.names →
      event.sets = some (field, text) → ∀ i ∈ worker.userSettings,
      worker.step event = worker.settingsSet i field text →
      (worker.settingsObject i).savedNameHandlers = true →
        (worker.settingsObject i).value field = some text := by
    intro field text hfield htext i hcurrent hstep hhandlers
    by_contra hvalue
    have hlog : (worker.step event).log = worker.log ++ [field.read
        ((worker.settingsChanged i field text).currentValue field)] := by
      rw [hstep, settingsSet_eq, if_neg hvalue, if_pos (.inr hhandlers)]
      rfl
    have htold := h (field.read ((worker.settingsChanged i field text).currentValue field))
      (by simp [hlog]) field hfield _ rfl
    rw [htext] at htold
    cases htold.1
  intro hrunning
  cases event with
  | setSessionName name =>
    intro i hcurrent
    apply hset .sessionName name (by simp [SavedField.names]) rfl i hcurrent
    have hcurrent : worker.userSettings = some i := hcurrent
    have hstep : worker.step (.setSessionName name) = worker.settingsSetSessionName i name := by
      simp [step, hrunning, handleSetSessionName, hcurrent]
    exact hstep
  | setLanguageName name =>
    intro i hcurrent
    apply hset .languageName name (by simp [SavedField.names]) rfl i hcurrent
    have hcurrent : worker.userSettings = some i := hcurrent
    have hstep : worker.step (.setLanguageName name) = worker.settingsSetLanguageName i name := by
      simp [step, hrunning, handleSetLanguageName, hcurrent]
    exact hstep
  | _ => exact absurd rfl hsets

/-! ## The runs -/

theorem inRange_new (isReauthSession : Bool) (accounts : String → Option Account) :
    (new isReauthSession accounts).InRange := by
  intro i hcurrent
  cases hcurrent

/-- In a run in which nothing is echoed, every name that is told has been loaded. -/
theorem run_readsSaved (isReauthSession : Bool) (accounts : String → Option Account)
    (events : List WorkerEvent)
    (h : machine.Meets KeepsSilent (new isReauthSession accounts) events) :
    machine.Meets ReadsSaved (new isReauthSession accounts) events := by
  apply h.imp_of_invariant InRange _ (inRange_new isReauthSession accounts)
  intro w event hrange hsilent
  exact hsilent.readsSaved hrange

/-- The worker waits for the account of the user, and the daemon sets another session after
that. -/
def waitingLogin : List WorkerEvent :=
  [.call (.Initialize [.service "gdm-password", .username "alice"] false),
    .accountLoaded "alice" { sessionName := "gnome", language := "de_DE.UTF-8" },
    .setSessionName "kde", .stateChangeIdle {}, .call .Authenticate, .stateChangeIdle {},
    .setLanguageName "fr_FR.UTF-8"]

theorem waitingLogin_readsSaved :
    machine.Meets ReadsSaved (new false fun _ => none) waitingLogin :=
  run_readsSaved false (fun _ => none) waitingLogin (by decide +kernel)

/-- The account of the user is there at once, and the worker tells the daemon what it has just
set. -/
theorem loadedLogin_echoes : ¬ ∀ (isReauthSession : Bool) (accounts : String → Option Account)
    (events : List WorkerEvent),
    machine.Meets ReadsSaved (new isReauthSession accounts) events := by
  intro h
  have hreads := h false (fun _ => some { sessionName := "gnome" })
    [.call (.Initialize [.service "gdm-password", .username "alice"] false),
      .setSessionName "kde"]
  have hsilent : KeepsSilent (machine.step (new false fun _ => some { sessionName := "gnome" })
      (.call (.Initialize [.service "gdm-password", .username "alice"] false)))
      (.setSessionName "kde") := hreads.2.1.keepsSilent (by simp [WorkerEvent.sets])
  exact absurd hsilent (by decide +kernel)

end GdmSessionWorker

end Gdm
