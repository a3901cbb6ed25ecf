import Gdm.Worker.Consultations

/-!
# A rule for the settings

The functions for the settings of a user call each other through notifications.  What each of
a few changes preserves is preserved by all of them: the worker does something else, handlers
are connected or disconnected, a value of an account is taken over, and the details are saved.
The saving is allowed under a guard that the other changes keep.
-/

namespace Gdm

/-- What an account has of the session of its user. -/
inductive SavedField
  | sessionType
  | sessionName
  | languageName
  deriving DecidableEq, Repr

def Account.value (account : Account) : SavedField → String
  | .sessionType => account.sessionType
  | .sessionName => account.sessionName
  | .languageName => account.language

def GdmSessionSettings.value (settings : GdmSessionSettings) : SavedField → Option String
  | .sessionType => settings.sessionType
  | .sessionName => settings.sessionName
  | .languageName => settings.languageName

/-- The object with a value. -/
def GdmSessionSettings.withValue (settings : GdmSessionSettings) :
    SavedField → String → GdmSessionSettings
  | .sessionType, text => { settings with sessionType := some text }
  | .sessionName, text => { settings with sessionName := some text }
  | .languageName, text => { settings with languageName := some text }

theorem GdmSessionSettings.value_withValue (settings : GdmSessionSettings)
    (field other : SavedField) (text : String) :
    (settings.withValue field text).value other =
      if other = field then some text else settings.value other := by
  cases field <;> cases other <;> rfl

/-- The signal with which the worker says what has been read. -/
def SavedField.read : SavedField → Option String → Effect
  | .sessionType => .savedSessionTypeRead
  | .sessionName => .savedSessionNameRead
  | .languageName => .savedLanguageNameRead

namespace GdmSessionWorker

variable {worker worker' worker'' : GdmSessionWorker} {i : Nat} {user : String}
  {account : Account}

/-! ## The changes -/

/-- `gdm_session_settings_set_session_type` and the functions next to it. -/
def settingsSet (worker : GdmSessionWorker) (i : Nat) : SavedField → String → GdmSessionWorker
  | .sessionType, text => worker.settingsSetSessionType i text
  | .sessionName, text => worker.settingsSetSessionName i text
  | .languageName, text => worker.settingsSetLanguageName i text

/-- The worker when the settings object has been given a value. -/
def settingsChanged (worker : GdmSessionWorker) (i : Nat) (field : SavedField) (text : String) :
    GdmSessionWorker :=
  worker.modifySettings i fun s => s.withValue field text

/-- A new value of the object makes the worker emit a signal. -/
def Announces (worker : GdmSessionWorker) (i : Nat) (field : SavedField) : Prop :=
  field = .sessionType ∨ (worker.settingsObject i).savedNameHandlers = true

instance (i : Nat) (field : SavedField) : Decidable (worker.Announces i field) := by
  unfold Announces
  infer_instance

/-- The three setters are one: a new value is told, as long as a handler is connected. -/
theorem settingsSet_eq (i : Nat) (field : SavedField) (text : String) :
    worker.settingsSet i field text =
      if (worker.settingsObject i).value field = some text then worker
      else if worker.Announces i field then
        (worker.settingsChanged i field text).emit (field.read
          ((worker.settingsChanged i field text).currentSettings.bind (·.value field)))
      else worker.settingsChanged i field text := by
  have hnames : ((worker.settingsChanged i field text).settingsObject i).savedNameHandlers =
      (worker.settingsObject i).savedNameHandlers := by
    unfold settingsChanged
    rw [settingsObject_modifySettings]
    split
    · cases field <;> rfl
    · rfl
  cases field with
  | sessionType => simp [settingsSet, settingsSetSessionType, Announces]; rfl
  | sessionName =>
    simp only [Announces, ← hnames]
    simp [settingsSet, settingsSetSessionName]
    rfl
  | languageName =>
    simp only [Announces, ← hnames]
    simp [settingsSet, settingsSetLanguageName]
    rfl

/-- What `load_settings_from_user` does for one field. -/
def settingsTake (worker : GdmSessionWorker) (i : Nat) (account : Account) (field : SavedField) :
    GdmSessionWorker :=
  if account.value field ≠ "" then worker.settingsSet i field (account.value field) else worker

/-- The worker when the settings object has been given its user. -/
def settingsMoved (worker : GdmSessionWorker) (i : Nat) (user : String) : GdmSessionWorker :=
  worker.modifySettings i fun s => { s with watchesUser := false, user := some user }

/-- The accounts service has loaded the account; nobody has been told yet. -/
def knowsAccount (worker : GdmSessionWorker) (user : String) (account : Account) :
    GdmSessionWorker :=
  { worker with
    accounts := fun other => if other = user then some account else worker.accounts other }

/-- The settings object waits for the account of the user. -/
def Awaits (worker : GdmSessionWorker) (i : Nat) (user : String) : Prop :=
  (worker.settingsObject i).watchesUser = true ∧ (worker.settingsObject i).user = some user

instance (i : Nat) (user : String) : Decidable (worker.Awaits i user) := by
  unfold Awaits
  infer_instance

/-- The three values of an account, one after the other. -/
def settingsTakeAll (worker : GdmSessionWorker) (i : Nat) (account : Account) :
    GdmSessionWorker :=
  ((worker.settingsTake i account .sessionType).settingsTake i account .sessionName).settingsTake
    i account .languageName

theorem loadSettingsFromUser_eq (i : Nat) (account : Account) :
    worker.loadSettingsFromUser i account =
      notifyIsLoaded i
        ((worker.settingsTakeAll i account).settingsObject i).isLoadedHandlers
        (worker.settingsTakeAll i account) := rfl

theorem accountLoaded_eq (user : String) (account : Account) :
    worker.accountLoaded user account =
      (List.range (worker.knowsAccount user account).settings.length).foldl
        (fun w i => w.onUserIsLoadedChanged user account i) (worker.knowsAccount user account) :=
  rfl

/-- What `Initialize` does for the settings, and what it waits for. -/
def startSettings (worker : GdmSessionWorker) : GdmSessionWorker :=
  match worker.loadInitialSettings with
  | (w, true) => w.connectIsLoaded worker.settings.length
  | (w, false) => w.queueStateChange

theorem sameSettings_initialized (invocation : Invocation) (details : List Detail)
    (seat0HasVts : Bool) :
    SameSettings worker (worker.initialized invocation details seat0HasVts) := by
  have hdetails : ∀ (details : List Detail) (w : GdmSessionWorker), SameSettings worker w →
      SameSettings worker (details.foldl applyDetail w) := by
    intro details
    induction details with
    | nil => exact fun w hw => hw
    | cons detail rest ih =>
      intro w hw
      apply ih
      cases detail <;> exact hw.trans (.of_eq rfl rfl rfl rfl)
  exact (hdetails details _ (.refl worker)).trans (.of_eq rfl rfl rfl rfl)

/-- `Initialize` is refused, or the worker gets its details and then its settings. -/
theorem handleInitialize_cases (invocation : Invocation) (details : List Detail)
    (seat0HasVts : Bool) :
    SameSettings worker (worker.handleInitialize invocation details seat0HasVts) ∨
      ∃ w, SameSettings worker w ∧ w.state = .none ∧
        worker.handleInitialize invocation details seat0HasVts = w.startSettings := by
  unfold handleInitialize
  rcases validateStateChange_cases worker invocation .setupComplete with
    ⟨haccepts, heq⟩ | ⟨_, ⟨error, heq⟩ | ⟨_, _, heq⟩⟩
  · right
    rw [heq]
    refine ⟨(worker.emit (.accepted invocation)).initialized invocation details seat0HasVts,
      ?_, ?_, rfl⟩
    · exact (sameSettings_emit rfl).trans (sameSettings_initialized invocation details seat0HasVts)
    · rw [(aside_initialized invocation details seat0HasVts).state]
      exact eq_none_of_succ haccepts.2
  · left
    rw [heq]
    exact sameSettings_emit rfl
  · left
    rw [heq]
    exact sameSettings_abort _

/-- The new object is as empty as what is not there. -/
theorem settingsObject_newUserSettings (i : Nat) :
    worker.newUserSettings.settingsObject i = worker.settingsObject i := by
  unfold settingsObject newUserSettings
  simp only [List.getD_eq_getElem?_getD, List.getElem?_append]
  split
  · rfl
  · rename_i hi
    rw [List.getElem?_eq_none (Nat.not_lt.mp hi)]
    cases i - worker.settings.length with
    | zero => rfl
    | succ n => rfl

theorem settingsObject_length : worker.settingsObject worker.settings.length = {} := by
  simp [settingsObject]

/-- A call leaves the settings alone, or it is one of `Initialize` that is accepted. -/
theorem receive_cases (request : Request) :
    SameSettings worker (worker.receive request) ∨
      ∃ w, SameSettings worker w ∧ w.state = .none ∧ worker.receive request = w.startSettings := by
  by_cases hmethod : request.method = .Initialize
  · cases request with
    | Initialize details seat0HasVts =>
      have harrived : SameSettings worker (worker.arrive .Initialize) := sameSettings_arrive _
      rcases @handleInitialize_cases (worker.arrive .Initialize)
        ⟨worker.nextSerial, .Initialize⟩ details seat0HasVts with hsame | ⟨w, hsame, hnone, heq⟩
      · left
        exact harrived.trans hsame
      · right
        exact ⟨w, harrived.trans hsame, hnone, heq⟩
    | _ => cases hmethod
  · left
    exact sameSettings_receive hmethod

/-- A change of an object that keeps its user and its values. -/
theorem modifySettings_keeps {f : GdmSessionSettings → GdmSessionSettings}
    (hf : ∀ s, (f s).user = s.user ∧ ∀ field, (f s).value field = s.value field) (i j : Nat) :
    ((worker.modifySettings i f).settingsObject j).user = (worker.settingsObject j).user ∧
      ∀ field, ((worker.modifySettings i f).settingsObject j).value field =
        (worker.settingsObject j).value field := by
  rw [settingsObject_modifySettings]
  split
  · exact hf _
  · exact ⟨rfl, fun _ => rfl⟩

/-! ## What the changes leave alone -/

/-- The objects have the users that they had, no more handlers than they had, and the worker
does not get into the state in which details are saved. -/
structure SettingsFrame (worker worker' : GdmSessionWorker) : Prop where
  userSettings : worker'.userSettings = worker.userSettings
  username : worker'.username = worker.username
  accounts : worker'.accounts = worker.accounts
  objects : worker'.settings.length = worker.settings.length
  user : ∀ j, (worker'.settingsObject j).user = (worker.settingsObject j).user
  watchesUser : ∀ j, (worker'.settingsObject j).watchesUser = true →
    (worker.settingsObject j).watchesUser = true
  savedNameHandlers : ∀ j, (worker'.settingsObject j).savedNameHandlers = true →
    (worker.settingsObject j).savedNameHandlers = true
  isLoadedHandlers : ∀ j, (worker'.settingsObject j).isLoadedHandlers ≠ 0 →
    (worker.settingsObject j).isLoadedHandlers ≠ 0
  state : worker'.state = .accredited → worker.state = .accredited

theorem SettingsFrame.of_eq (hsettings : worker'.settings = worker.settings)
    (huserSettings : worker'.userSettings = worker.userSettings)
    (husername : worker'.username = worker.username)
    (haccounts : worker'.accounts = worker.accounts)
    (hstate : worker'.state = .accredited → worker.state = .accredited) :
    SettingsFrame worker worker' := by
  have hobject : ∀ j, worker'.settingsObject j = worker.settingsObject j := by
    intro j
    simp [settingsObject, hsettings]
  constructor
  · exact huserSettings
  · exact husername
  · exact haccounts
  · rw [hsettings]
  · intro j
    rw [hobject]
  · intro j
    rw [hobject]
    exact id
  · intro j
    rw [hobject]
    exact id
  · intro j
    rw [hobject]
    exact id
  · exact hstate

theorem SettingsFrame.refl (worker : GdmSessionWorker) : SettingsFrame worker worker :=
  .of_eq rfl rfl rfl rfl id

theorem SettingsFrame.trans (h : SettingsFrame worker worker')
    (h' : SettingsFrame worker' worker'') : SettingsFrame worker worker'' := by
  constructor
  · exact h'.userSettings.trans h.userSettings
  · exact h'.username.trans h.username
  · exact h'.accounts.trans h.accounts
  · exact h'.objects.trans h.objects
  · intro j
    exact (h'.user j).trans (h.user j)
  · intro j hj
    exact h.watchesUser j (h'.watchesUser j hj)
  · intro j hj
    exact h.savedNameHandlers j (h'.savedNameHandlers j hj)
  · intro j hj
    exact h.isLoadedHandlers j (h'.isLoadedHandlers j hj)
  · intro hstate
    exact h.state (h'.state hstate)

theorem SettingsFrame.awaits (h : SettingsFrame worker worker') (hawaits : worker'.Awaits i user) :
    worker.Awaits i user := by
  constructor
  · exact h.watchesUser i hawaits.1
  · exact (h.user i).symm.trans hawaits.2

/-- A change of an object that connects no handler. -/
theorem settingsFrame_modifySettings (i : Nat) {f : GdmSessionSettings → GdmSessionSettings}
    (huser : ∀ s, (f s).user = s.user)
    (hwatches : ∀ s, (f s).watchesUser = true → s.watchesUser = true)
    (hnames : ∀ s, (f s).savedNameHandlers = true → s.savedNameHandlers = true)
    (hloaded : ∀ s, (f s).isLoadedHandlers ≠ 0 → s.isLoadedHandlers ≠ 0) :
    SettingsFrame worker (worker.modifySettings i f) := by
  constructor
  · rfl
  · rfl
  · rfl
  · simp [modifySettings]
  · intro j
    rw [settingsObject_modifySettings]
    split
    · exact huser _
    · rfl
  · intro j
    rw [settingsObject_modifySettings]
    split
    · exact hwatches _
    · exact id
  · intro j
    rw [settingsObject_modifySettings]
    split
    · exact hnames _
    · exact id
  · intro j
    rw [settingsObject_modifySettings]
    split
    · exact hloaded _
    · exact id
  · exact id

theorem settingsFrame_emit (effect : Effect) : SettingsFrame worker (worker.emit effect) :=
  .of_eq rfl rfl rfl rfl id

theorem settingsFrame_settingsChanged (i : Nat) (field : SavedField) (text : String) :
    SettingsFrame worker (worker.settingsChanged i field text) := by
  apply settingsFrame_modifySettings
  · intro s
    cases field <;> rfl
  · intro s
    cases field <;> exact id
  · intro s
    cases field <;> exact id
  · intro s
    cases field <;> exact id

theorem settingsFrame_settingsSet (i : Nat) (field : SavedField) (text : String) :
    SettingsFrame worker (worker.settingsSet i field text) := by
  have hchanged : SettingsFrame worker (worker.settingsChanged i field text) :=
    settingsFrame_settingsChanged i field text
  rw [settingsSet_eq]
  split
  · exact .refl worker
  · split
    · exact hchanged.trans (settingsFrame_emit _)
    · exact hchanged

theorem settingsFrame_settingsTake (i : Nat) (account : Account) (field : SavedField) :
    SettingsFrame worker (worker.settingsTake i account field) := by
  unfold settingsTake
  split
  · exact settingsFrame_settingsSet i field _
  · exact .refl worker

theorem settingsFrame_settingsTakeAll (i : Nat) (account : Account) :
    SettingsFrame worker (worker.settingsTakeAll i account) :=
  ((settingsFrame_settingsTake i account _).trans (settingsFrame_settingsTake i account _)).trans
    (settingsFrame_settingsTake i account _)

theorem settingsFrame_settingsSave (i : Nat) (username : Option String) :
    SettingsFrame worker (worker.settingsSave i username) := by
  unfold settingsSave
  split
  · exact .refl worker
  · split
    · exact settingsFrame_emit _
    · exact .refl worker

theorem settingsFrame_accountDetailsSaved :
    SettingsFrame worker (worker.setState .accountDetailsSaved) := by
  unfold setState
  split
  · exact .refl worker
  · exact .of_eq rfl rfl rfl rfl (fun hstate => by cases hstate)

theorem settingsFrame_saveAccountDetailsNow :
    SettingsFrame worker worker.saveAccountDetailsNow := by
  have hset : SettingsFrame worker (worker.setState .accountDetailsSaved) :=
    settingsFrame_accountDetailsSaved
  unfold saveAccountDetailsNow
  split
  · exact .of_eq rfl rfl rfl rfl id
  · dsimp only
    have hqueued : ∀ w : GdmSessionWorker, SettingsFrame w w.queueStateChange :=
      fun _ => .of_eq rfl rfl rfl rfl id
    split
    · exact hset.trans (hqueued _)
    · exact (hset.trans (settingsFrame_settingsSave _ _)).trans (hqueued _)

theorem settingsFrame_disconnectNames (i : Nat) :
    SettingsFrame worker
      (worker.modifySettings i fun s => { s with savedNameHandlers := false }) := by
  apply settingsFrame_modifySettings
  · exact fun _ => rfl
  · exact fun _ => id
  · intro s hs
    cases hs
  · exact fun _ => id

theorem settingsFrame_disconnectIsLoaded (i : Nat) :
    SettingsFrame worker (worker.modifySettings i fun s => { s with isLoadedHandlers := 0 }) := by
  apply settingsFrame_modifySettings
  · exact fun _ => rfl
  · exact fun _ => id
  · exact fun _ => id
  · intro s hs
    exact absurd rfl hs

theorem settingsFrame_onSettingsIsLoadedChanged :
    SettingsFrame worker worker.onSettingsIsLoadedChanged := by
  unfold onSettingsIsLoadedChanged
  split
  · exact .refl worker
  · rename_i i _
    split
    · exact .refl worker
    · dsimp only
      have hnames : SettingsFrame worker
          (worker.modifySettings i fun s => { s with savedNameHandlers := false }) :=
        settingsFrame_disconnectNames i
      split
      · have hqueued : SettingsFrame worker
            (worker.modifySettings i fun s => { s with savedNameHandlers := false
              }).queueStateChange :=
          hnames.trans (.of_eq rfl rfl rfl rfl id)
        exact hqueued.trans (settingsFrame_disconnectIsLoaded i)
      · split
        · exact (hnames.trans settingsFrame_saveAccountDetailsNow).trans
            (settingsFrame_disconnectIsLoaded i)
        · exact hnames

theorem settingsFrame_notifyIsLoaded (i handlers : Nat) :
    SettingsFrame worker (notifyIsLoaded i handlers worker) := by
  induction handlers generalizing worker with
  | zero => exact .refl worker
  | succ handlers ih =>
    unfold notifyIsLoaded
    split
    · exact .refl worker
    · exact settingsFrame_onSettingsIsLoadedChanged.trans ih

theorem settingsFrame_onUserIsLoadedChanged (user : String) (account : Account) (i : Nat) :
    SettingsFrame worker (worker.onUserIsLoadedChanged user account i) := by
  unfold onUserIsLoadedChanged
  split
  · rw [loadSettingsFromUser_eq]
    apply SettingsFrame.trans ((settingsFrame_settingsTakeAll i account).trans
      (settingsFrame_notifyIsLoaded i _))
    apply settingsFrame_modifySettings
    · exact fun _ => rfl
    · intro s hs
      cases hs
    · exact fun _ => id
    · exact fun _ => id
  · exact .refl worker

/-! ## The rule -/

/-- The property is kept by everything but the taking over of values, and the saving keeps it
under the guard. -/
structure SettingsRule (P Guard : GdmSessionWorker → Prop) : Prop where
  aside : ∀ {w w' : GdmSessionWorker}, SameSettings w w' → P w → P w'
  flags : ∀ {w : GdmSessionWorker} (i : Nat) (f : GdmSessionSettings → GdmSessionSettings),
    (∀ s, (f s).user = s.user ∧ ∀ field, (f s).value field = s.value field) →
      P w → P (w.modifySettings i f)
  saves : ∀ {w : GdmSessionWorker} {i : Nat}, w.userSettings = some i → Guard w → P w →
    P (w.settingsSave i w.username)
  guard : ∀ {w w' : GdmSessionWorker}, SettingsFrame w w' → Guard w → Guard w'

namespace SettingsRule

variable {P Guard : GdmSessionWorker → Prop} (h : SettingsRule P Guard)
include h

theorem saveAccountDetailsNow (hguard : worker.state = .accredited → Guard worker)
    (hP : P worker) : P worker.saveAccountDetailsNow := by
  unfold GdmSessionWorker.saveAccountDetailsNow
  split
  · exact h.aside (sameSettings_abort _) hP
  · rename_i hstate
    have hset : P (worker.setState .accountDetailsSaved) := h.aside (sameSettings_setState _) hP
    have hallowed : Guard (worker.setState .accountDetailsSaved) :=
      h.guard settingsFrame_accountDetailsSaved (hguard (not_not.mp hstate))
    dsimp only
    split
    · exact h.aside sameSettings_queueStateChange hset
    · rename_i i hcurrent
      exact h.aside sameSettings_queueStateChange (h.saves hcurrent hallowed hset)

theorem onSettingsIsLoadedChanged (hguard : worker.state = .accredited → Guard worker)
    (hP : P worker) : P worker.onSettingsIsLoadedChanged := by
  unfold GdmSessionWorker.onSettingsIsLoadedChanged
  split
  · exact hP
  · rename_i i _
    split
    · exact hP
    · dsimp only
      have hnames : P (worker.modifySettings i fun s => { s with savedNameHandlers := false }) :=
        h.flags i _ (fun s => ⟨rfl, fun field => by cases field <;> rfl⟩) hP
      have hdisconnect : ∀ w, P w → P (w.modifySettings i fun s => { s with
          isLoadedHandlers := 0 }) :=
        fun w hw => h.flags i _ (fun s => ⟨rfl, fun field => by cases field <;> rfl⟩) hw
      split
      · exact hdisconnect _ (h.aside sameSettings_queueStateChange hnames)
      · split
        · apply hdisconnect
          apply h.saveAccountDetailsNow _ hnames
          intro hstate
          exact h.guard (settingsFrame_disconnectNames i) (hguard hstate)
        · exact hnames

theorem notifyIsLoaded (i handlers : Nat) (hguard : worker.state = .accredited → Guard worker)
    (hP : P worker) : P (notifyIsLoaded i handlers worker) := by
  induction handlers generalizing worker with
  | zero => exact hP
  | succ handlers ih =>
    unfold GdmSessionWorker.notifyIsLoaded
    split
    · exact hP
    · apply ih
      · intro hstate
        have hframe : SettingsFrame worker worker.onSettingsIsLoadedChanged :=
          settingsFrame_onSettingsIsLoadedChanged
        exact h.guard hframe (hguard (hframe.state hstate))
      · exact h.onSettingsIsLoadedChanged hguard hP

omit h in
theorem settingsTakeAll
    (htake : ∀ w field, SettingsFrame worker w → P w → P (w.settingsTake i account field))
    (hP : P worker) : P (worker.settingsTakeAll i account) := by
  have htype : P (worker.settingsTake i account .sessionType) := htake _ _ (.refl worker) hP
  have hframe : SettingsFrame worker (worker.settingsTake i account .sessionType) :=
    settingsFrame_settingsTake i account _
  apply htake
  · exact hframe.trans (settingsFrame_settingsTake i account _)
  · exact htake _ _ hframe htype

theorem loadSettingsFromUser
    (hguard : worker.state = .accredited → (worker.settingsObject i).isLoadedHandlers ≠ 0 →
      Guard worker)
    (htake : ∀ w field, SettingsFrame worker w → P w → P (w.settingsTake i account field))
    (hP : P worker) : P (worker.loadSettingsFromUser i account) := by
  have hframe : SettingsFrame worker (worker.settingsTakeAll i account) :=
    settingsFrame_settingsTakeAll i account
  have htaken : P (worker.settingsTakeAll i account) := settingsTakeAll htake hP
  rw [loadSettingsFromUser_eq]
  by_cases hzero : ((worker.settingsTakeAll i account).settingsObject i).isLoadedHandlers = 0
  · rw [hzero]
    exact htaken
  · apply h.notifyIsLoaded _ _ _ htaken
    intro hstate
    exact h.guard hframe (hguard (hframe.state hstate) (hframe.isLoadedHandlers i hzero))

/-- Loading for a user, when nothing is loaded yet: the object gets the user first. -/
theorem settingsLoad
    (hmoved : worker.settingsIsLoaded i = false → P (worker.settingsMoved i user))
    (hguard : worker.state = .accredited → Guard (worker.settingsMoved i user))
    (htake : ∀ account w field, worker.accounts user = some account →
      SettingsFrame (worker.settingsMoved i user) w → P w → P (w.settingsTake i account field))
    (hP : P worker) : P (worker.settingsLoad i (some user)).1 := by
  unfold GdmSessionWorker.settingsLoad
  dsimp only
  split
  · exact hP
  · rename_i hloaded
    have hmoved : P (worker.settingsMoved i user) := hmoved (by simpa using hloaded)
    split
    · exact h.flags i _ (fun s => ⟨rfl, fun field => by cases field <;> rfl⟩) hmoved
    · rename_i account haccount
      apply h.loadSettingsFromUser _ _ hmoved
      · intro hstate _
        exact hguard hstate
      · intro w field hframe hw
        exact htake account w field haccount hframe hw

theorem onUserIsLoadedChanged
    (hguard : worker.state = .accredited → worker.Awaits i user →
      (worker.settingsObject i).isLoadedHandlers ≠ 0 → Guard worker)
    (htake : worker.Awaits i user → ∀ w field, SettingsFrame worker w → P w →
      P (w.settingsTake i account field))
    (hP : P worker) : P (worker.onUserIsLoadedChanged user account i) := by
  unfold GdmSessionWorker.onUserIsLoadedChanged
  split
  · rename_i hawaits
    have hloaded : P (worker.loadSettingsFromUser i account) := by
      apply h.loadSettingsFromUser _ (htake hawaits) hP
      intro hstate hhandlers
      exact hguard hstate hawaits hhandlers
    exact h.flags i _ (fun s => ⟨rfl, fun field => by cases field <;> rfl⟩) hloaded
  · exact hP

/-- The accounts service tells the objects, one after the other. -/
theorem accountLoaded
    (hguard : worker.state = .accredited →
      (∃ i < worker.settings.length, worker.Awaits i user ∧
        (worker.settingsObject i).isLoadedHandlers ≠ 0) →
      Guard (worker.knowsAccount user account))
    (htake : ∀ i < worker.settings.length, worker.Awaits i user → ∀ w field,
      SettingsFrame (worker.knowsAccount user account) w → P w →
      P (w.settingsTake i account field))
    (hP : P (worker.knowsAccount user account)) : P (worker.accountLoaded user account) := by
  have hobjects : ∀ i, (worker.knowsAccount user account).settingsObject i =
      worker.settingsObject i := fun _ => rfl
  have hall : ∀ (indices : List Nat) (w : GdmSessionWorker),
      (∀ i ∈ indices, i < worker.settings.length) →
      SettingsFrame (worker.knowsAccount user account) w → P w →
      P (indices.foldl (fun w i => w.onUserIsLoadedChanged user account i) w) := by
    intro indices
    induction indices with
    | nil => exact fun w _ _ hw => hw
    | cons i indices ih =>
      intro w hindices hframe hw
      have hi : i < worker.settings.length := hindices i List.mem_cons_self
      rw [List.foldl_cons]
      apply ih
      · intro j hj
        exact hindices j (List.mem_cons_of_mem i hj)
      · exact hframe.trans (settingsFrame_onUserIsLoadedChanged user account i)
      · apply h.onUserIsLoadedChanged _ _ hw
        · intro hstate hawaits hhandlers
          apply h.guard hframe
          exact hguard (hframe.state hstate)
            ⟨i, hi, hframe.awaits hawaits, hframe.isLoadedHandlers i hhandlers⟩
        · intro hawaits w' field hframe' hw'
          exact htake i hi (hframe.awaits hawaits) w' field (hframe.trans hframe') hw'
  rw [accountLoaded_eq]
  apply hall
  · intro i hi
    exact List.mem_range.mp hi
  · exact .refl _
  · exact hP

/-- A new username makes the worker load the settings, when there are none yet. -/
theorem updateUsername (item : UserItem)
    (hload : ∀ w i user, SameSettings worker w → w.username = some user →
      w.userSettings = some i → w.settingsIsLoaded i = false → item = some (some user) → P w →
      P (w.settingsLoad i (some user)).1)
    (hP : P worker) : P (worker.updateUsername item) := by
  unfold GdmSessionWorker.updateUsername
  split
  · exact h.aside (sameSettings_abort _) hP
  · split
    · exact hP
    · rename_i username
      split
      · exact hP
      · have hsame : SameSettings worker
            ({ worker with username := username }.emit (.usernameChanged username)) := by
          have hnamed : SameSettings worker { worker with username := username } :=
            .of_eq rfl rfl rfl rfl
          exact hnamed.emit rfl
        have hnamed := h.aside hsame hP
        cases username with
        | none => exact hnamed
        | some user =>
          dsimp only
          split
          · unfold attemptToLoadUserSettings
            split
            · exact hnamed
            · rename_i i hcurrent
              split
              · exact hnamed
              · rename_i hloaded
                exact hload _ i user hsame rfl hcurrent (by simpa using hloaded) rfl hnamed
          · exact hnamed

theorem doSaveAccountDetailsWhenReady (hguard : Guard worker)
    (hload : ∀ w i user, worker.userSettings = some i → worker.settingsIsLoaded i = false →
      worker.username = some user → w = worker.connectIsLoaded i → P w →
      P (w.settingsLoad i (some user)).1)
    (hP : P worker) : P worker.doSaveAccountDetailsWhenReady := by
  have hnow : P worker.saveAccountDetailsNow := h.saveAccountDetailsNow (fun _ => hguard) hP
  unfold GdmSessionWorker.doSaveAccountDetailsWhenReady
  split
  · exact h.aside (sameSettings_abort _) hP
  · split
    · exact hnow
    · rename_i i hcurrent
      split
      · exact hnow
      · rename_i hloaded
        have hconnected : P (worker.connectIsLoaded i) :=
          h.flags i _ (fun s => ⟨rfl, fun field => by cases field <;> rfl⟩) hP
        change P ((worker.connectIsLoaded i).settingsLoad i worker.username).1
        cases husername : worker.username with
        | none => exact hconnected
        | some user =>
          exact hload _ i user hcurrent (by simpa using hloaded) husername rfl hconnected

/-- A new object is made and loaded, if the session is one of a user. -/
theorem startSettings (hnew : P worker.newUserSettings)
    (hload : ∀ user, P (worker.newUserSettings.settingsLoad worker.settings.length (some user)).1) :
    SameSettings worker worker.startSettings ∨ P worker.startSettings := by
  have hqueued : ∀ w, P w → P w.queueStateChange :=
    fun w hw => h.aside sameSettings_queueStateChange hw
  have hconnected : ∀ w, P w → P (w.connectIsLoaded worker.settings.length) :=
    fun w hw => h.flags _ _ (fun s => ⟨rfl, fun field => by cases field <;> rfl⟩) hw
  unfold GdmSessionWorker.startSettings loadInitialSettings
  by_cases hprogram : worker.isProgramSession = true
  · left
    rw [if_pos hprogram]
    exact sameSettings_queueStateChange
  · right
    rw [if_neg hprogram]
    have husername : worker.newUserSettings.username = worker.username := rfl
    dsimp only
    rw [husername]
    cases worker.username with
    | none => exact hqueued _ hnew
    | some user =>
      have hloaded := hload user
      dsimp only
      generalize worker.newUserSettings.settingsLoad worker.settings.length (some user) = result
        at hloaded
      obtain ⟨w, loaded⟩ := result
      cases loaded with
      | true => exact hqueued w hloaded
      | false => exact hconnected w hloaded

end SettingsRule

end GdmSessionWorker

end Gdm
