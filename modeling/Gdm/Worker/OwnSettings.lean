import Gdm.Worker.SavedNames

/-!
# Settings that are saved for their own user

The values that the worker saves for a user come from the settings object, and the settings
object has them from the account that it was loaded from, or from the daemon.  The username
of the worker can change after the loading, and an object can be loaded once more with values
in it.  Where a text comes from is read off the past of the worker: the daemon has set it, or
the accounts service has had it for the user.
-/

namespace Gdm

/-- The event brings the text: the daemon sets it, or it is in the account of the user. -/
def WorkerEvent.Supplies (user : Option String) (field : SavedField) (text : String)
    (event : WorkerEvent) : Prop :=
  event.sets = some (field, text) ∨
    match event with
    | .accountLoaded other account => user = some other ∧ account.value field = text
    | _ => False

instance (user : Option String) (field : SavedField) (text : String) (event : WorkerEvent) :
    Decidable (event.Supplies user field text) :=
  match event with
  | .accountLoaded _ _ => inferInstanceAs (Decidable (_ ∨ _))
  | .call _ | .stateChangeIdle _ | .accountUnloaded _ | .setSessionName _ | .setLanguageName _
  | .childExited _ _ | .finalize _ => inferInstanceAs (Decidable (_ ∨ False))

/-- The values that the worker gives to an account, with the user of the account. -/
def Effect.saves : Effect → Option (String × (SavedField → Option String))
  | .accountSaved user sessionName sessionType language =>
    some (user, fun
      | .sessionType => sessionType
      | .sessionName => sessionName
      | .languageName => language)
  | _ => none

instance (P : SavedField → Prop) [DecidablePred P] : Decidable (∀ field, P field) :=
  decidable_of_iff (P .sessionType ∧ P .sessionName ∧ P .languageName) <| by
    constructor
    · rintro ⟨htype, hsession, hlanguage⟩ field
      cases field
      · exact htype
      · exact hsession
      · exact hlanguage
    · exact fun h => ⟨h _, h _, h _⟩

/-- The usernames that PAM answers in a step. -/
def Outcomes.usernames (o : Outcomes) : List String :=
  o.userItems.filterMap Option.join

namespace GdmSessionWorker

variable {worker worker' : GdmSessionWorker} {i : Nat} {user : String} {account : Account}

/-! ## Where the values come from -/

section

variable (accounts : String → Option Account) (past : List WorkerEvent)

/-- The daemon has set the text, or the accounts service has had it for the user: from the
beginning, or since an event of the past. -/
def Supplied (user : Option String) (field : SavedField) (text : String) : Prop :=
  (user.bind accounts).map (·.value field) = some text ∨
    ∃ event ∈ past, event.Supplies user field text

instance (user : Option String) (field : SavedField) (text : String) :
    Decidable (Supplied accounts past user field text) :=
  inferInstanceAs (Decidable (_ ∨ _))

/-- All values of the object were supplied for the user. -/
def HoldsOnly (user : Option String) (settings : GdmSessionSettings) : Prop :=
  ∀ field, ∀ text ∈ settings.value field, Supplied accounts past user field text

instance (user : Option String) (settings : GdmSessionSettings) :
    Decidable (HoldsOnly accounts past user settings) := by
  unfold HoldsOnly
  infer_instance

/-- Nothing was saved for a user that comes from the account of another one. -/
def OwnValues (log : List Effect) : Prop :=
  ∀ effect ∈ log, ∀ user values, effect.saves = some (user, values) →
    ∀ field text, values field = some text → Supplied accounts past (some user) field text

end

/-! ## The condition -/

/-- The settings that the worker uses are those of its user, once they are loaded. -/
def OwnAccount (worker : GdmSessionWorker) : Prop :=
  ∀ i ∈ worker.userSettings, worker.settingsIsLoaded i = true →
    (worker.settingsObject i).user = worker.username

instance : Decidable worker.OwnAccount := by
  unfold OwnAccount
  infer_instance

/-- The callback of the event is installed. -/
def Happens (worker : GdmSessionWorker) : WorkerEvent → Prop
  | .stateChangeIdle _ => worker.stateChangeIdle = true
  | .childExited _ _ => worker.childWatch ≠ none
  | _ => True

instance (event : WorkerEvent) : Decidable (worker.Happens event) :=
  match event with
  | .stateChangeIdle _ => inferInstanceAs (Decidable (_ = _))
  | .childExited _ _ => inferInstanceAs (Decidable (_ ≠ _))
  | .call _ | .accountLoaded _ _ | .accountUnloaded _ | .setSessionName _ | .setLanguageName _
  | .finalize _ => isTrue trivial

/-- The settings are those of the user when an event can make the worker save them. -/
def SavesOwn (worker : GdmSessionWorker) (event : WorkerEvent) : Prop :=
  worker.state = .accredited →
    match event with
    | .stateChangeIdle _ => worker.OwnAccount
    | .accountLoaded user account =>
      (∃ i < worker.settings.length, worker.Awaits i user ∧
        (worker.settingsObject i).isLoadedHandlers ≠ 0) →
      (worker.knowsAccount user account).OwnAccount
    | _ => True

instance (event : WorkerEvent) : Decidable (worker.SavesOwn event) :=
  match event with
  | .stateChangeIdle _ => inferInstanceAs (Decidable (_ = _ → worker.OwnAccount))
  | .accountLoaded user account => inferInstanceAs (Decidable (_ = _ →
    (∃ i < worker.settings.length, worker.Awaits i user ∧
      (worker.settingsObject i).isLoadedHandlers ≠ 0) →
    (worker.knowsAccount user account).OwnAccount))
  | .call _ | .accountUnloaded _ | .setSessionName _ | .setLanguageName _ | .childExited _ _
  | .finalize _ => isTrue fun _ => trivial

/-- The users whose settings the worker may load on an event. -/
def usernames (worker : GdmSessionWorker) : WorkerEvent → List String
  | .stateChangeIdle o =>
    if worker.state = .accredited then worker.username.toList else o.usernames
  | .childExited _ o | .finalize o => o.usernames
  | _ => []

/-- When the settings are not loaded, they have nothing of another user than those that they
may be loaded for. -/
def LoadsOwn (accounts : String → Option Account) (past : List WorkerEvent)
    (worker : GdmSessionWorker) (event : WorkerEvent) : Prop :=
  ∀ i ∈ worker.userSettings, worker.settingsIsLoaded i = false →
    ∀ user ∈ worker.usernames event,
      HoldsOnly accounts past (some user) (worker.settingsObject i)

instance (accounts : String → Option Account) (past : List WorkerEvent) (event : WorkerEvent) :
    Decidable (LoadsOwn accounts past worker event) := by
  unfold LoadsOwn
  infer_instance

/-- The details of a user are saved from the settings of this user, and settings are loaded
for a user when they have nothing of another one. -/
def KeepsOwn (accounts : String → Option Account) (s : GdmSessionWorker × List WorkerEvent)
    (event : WorkerEvent) : Prop :=
  s.1.status = .running → s.1.Happens event →
    s.1.SavesOwn event ∧ LoadsOwn accounts s.2 s.1 event

instance (accounts : String → Option Account) (s : GdmSessionWorker × List WorkerEvent)
    (event : WorkerEvent) : Decidable (KeepsOwn accounts s event) := by
  unfold KeepsOwn
  infer_instance

/-! ## The invariant -/

/-- The objects have nothing but values of their users, nor has anything else been saved; the
settings in use can be loaded for any of the names. -/
structure Own (accounts : String → Option Account) (past : List WorkerEvent)
    (names : List String) (w : GdmSessionWorker) : Prop where
  inRange : w.InRange
  log : OwnValues accounts past w.log
  objects : ∀ i, HoldsOnly accounts past (w.settingsObject i).user (w.settingsObject i)
  known : ∀ user account, w.accounts user = some account →
    ∀ field, Supplied accounts past (some user) field (account.value field)
  pending : ∀ i, w.userSettings = some i → w.settingsIsLoaded i = false →
    ∀ user ∈ names, HoldsOnly accounts past (some user) (w.settingsObject i)

variable {accounts : String → Option Account} {past : List WorkerEvent} {names : List String}

theorem Supplied.mono {user : Option String} {field : SavedField} {text : String}
    (h : Supplied accounts past user field text) (late : List WorkerEvent) :
    Supplied accounts (past ++ late) user field text := by
  rcases h with hfirst | ⟨event, hevent, hsupplies⟩
  · left
    exact hfirst
  · right
    exact ⟨event, List.mem_append_left late hevent, hsupplies⟩

theorem HoldsOnly.mono {user : Option String} {settings : GdmSessionSettings}
    (h : HoldsOnly accounts past user settings) (late : List WorkerEvent) :
    HoldsOnly accounts (past ++ late) user settings := by
  intro field text hvalue
  exact (h field text hvalue).mono late

theorem HoldsOnly.of_value {user : Option String} {settings settings' : GdmSessionSettings}
    (h : HoldsOnly accounts past user settings)
    (hvalue : ∀ field, settings'.value field = settings.value field) :
    HoldsOnly accounts past user settings' := by
  intro field text htext
  rw [hvalue] at htext
  exact h field text htext

theorem holdsOnly_empty (user : Option String) : HoldsOnly accounts past user {} := by
  intro field text hvalue
  cases field <;> cases hvalue

/-- The invariant over more of the past. -/
theorem Own.mono (h : Own accounts past names worker) (late : List WorkerEvent) :
    Own accounts (past ++ late) names worker := by
  constructor
  · exact h.inRange
  · intro effect heffect user values hsaves field text hvalue
    exact (h.log effect heffect user values hsaves field text hvalue).mono late
  · intro i
    exact (h.objects i).mono late
  · intro user account haccount field
    exact (h.known user account haccount field).mono late
  · intro i hcurrent hloaded user huser
    exact (h.pending i hcurrent hloaded user huser).mono late

theorem Own.of_pending {names' : List String} (h : Own accounts past names worker)
    (hpending : ∀ i, worker.userSettings = some i → worker.settingsIsLoaded i = false →
      ∀ user ∈ names', HoldsOnly accounts past (some user) (worker.settingsObject i)) :
    Own accounts past names' worker := by
  constructor
  · exact h.inRange
  · exact h.log
  · exact h.objects
  · exact h.known
  · exact hpending

theorem ownValues_append {log new : List Effect} (h : OwnValues accounts past log)
    (hnew : ∀ effect ∈ new, effect.saves = none) : OwnValues accounts past (log ++ new) := by
  intro effect heffect user values hsaves field text hvalue
  rcases List.mem_append.mp heffect with hold | hlast
  · exact h effect hold user values hsaves field text hvalue
  · rw [hnew effect hlast] at hsaves
    cases hsaves

theorem saves_of_isOfSettings {effect : Effect} (h : effect.isOfSettings = false) :
    effect.saves = none := by
  cases effect with
  | accountSaved => cases h
  | _ => rfl

theorem saves_read (field : SavedField) (value : Option String) :
    (field.read value).saves = none := by
  cases field <;> rfl

theorem settingsIsLoaded_eq_of {w w' : GdmSessionWorker}
    (huser : (w'.settingsObject i).user = (w.settingsObject i).user)
    (haccounts : w'.accounts = w.accounts) :
    w'.settingsIsLoaded i = w.settingsIsLoaded i := by
  unfold settingsIsLoaded
  rw [huser, haccounts]

theorem Own.aside (h : Own accounts past names worker) (hsame : SameSettings worker worker') :
    Own accounts past names worker' := by
  have hobject := hsame.settingsObject
  constructor
  · intro i hcurrent
    rw [hsame.settings]
    exact h.inRange i (hsame.userSettings.symm.trans hcurrent)
  · obtain ⟨new, hlog, hnew⟩ := hsame.log
    rw [hlog]
    exact ownValues_append h.log fun effect heffect => saves_of_isOfSettings (hnew effect heffect)
  · intro i
    rw [hobject]
    exact h.objects i
  · rw [hsame.accounts]
    exact h.known
  · intro i hcurrent hloaded
    rw [hobject]
    apply h.pending i (hsame.userSettings.symm.trans hcurrent)
    rw [← hloaded]
    exact (settingsIsLoaded_eq_of (by rw [hobject]) hsame.accounts).symm

theorem SettingsFrame.ownAccount (h : SettingsFrame worker worker') (hown : worker.OwnAccount) :
    worker'.OwnAccount := by
  intro i hcurrent hloaded
  rw [h.user, h.username]
  apply hown i
  · exact h.userSettings.symm.trans hcurrent
  · rw [← hloaded]
    exact (settingsIsLoaded_eq_of (h.user i) h.accounts).symm

/-- Handlers are connected or disconnected. -/
theorem Own.flags (h : Own accounts past names worker) (i : Nat)
    {f : GdmSessionSettings → GdmSessionSettings}
    (hf : ∀ s, (f s).user = s.user ∧ ∀ field, (f s).value field = s.value field) :
    Own accounts past names (worker.modifySettings i f) := by
  have hobject := @modifySettings_keeps worker f hf i
  constructor
  · intro j hcurrent
    simpa [modifySettings] using h.inRange j hcurrent
  · exact h.log
  · intro j
    rw [(hobject j).1]
    exact (h.objects j).of_value (hobject j).2
  · exact h.known
  · intro j hcurrent hloaded user huser
    apply HoldsOnly.of_value _ (hobject j).2
    apply h.pending j hcurrent _ user huser
    rw [← hloaded]
    exact (settingsIsLoaded_eq_of (hobject j).1 rfl).symm

/-- The settings of the user are saved for the user. -/
theorem Own.settingsSave (h : Own accounts past names worker)
    (hcurrent : worker.userSettings = some i) (hown : worker.OwnAccount) :
    Own accounts past names (worker.settingsSave i worker.username) := by
  unfold GdmSessionWorker.settingsSave
  split
  · exact h
  · rename_i user husername
    split
    · rename_i hsaved
      have huser : (worker.settingsObject i).user = some user :=
        (hown i hcurrent hsaved.1).trans husername
      constructor
      · exact h.inRange
      · intro effect heffect other values hsaves field text hvalue
        rcases List.mem_append.mp heffect with hold | hlast
        · exact h.log effect hold other values hsaves field text hvalue
        · rw [List.mem_singleton.mp hlast] at hsaves
          cases hsaves
          have hholds := h.objects i
          rw [huser] at hholds
          apply hholds field text
          cases field <;> exact hvalue
      · exact h.objects
      · exact h.known
      · exact h.pending
    · exact h

theorem settingsRule_own (accounts : String → Option Account) (past : List WorkerEvent)
    (names : List String) : SettingsRule (Own accounts past names) OwnAccount := by
  constructor
  · intro w w' hsame h
    exact h.aside hsame
  · intro w i f hf h
    exact h.flags i hf
  · intro w i hcurrent hown h
    exact h.settingsSave hcurrent hown
  · intro w w' hframe hown
    exact hframe.ownAccount hown

/-- A value is set that was supplied for the user of the settings.  They are loaded, or they
cannot be loaded in this step. -/
theorem Own.settingsSet (h : Own accounts past names worker) {field : SavedField} {text : String}
    (htext : Supplied accounts past (worker.settingsObject i).user field text)
    (hloaded : worker.settingsIsLoaded i = true ∨ names = []) :
    Own accounts past names (worker.settingsSet i field text) := by
  have hchanged : Own accounts past names (worker.settingsChanged i field text) := by
    have hframe : SettingsFrame worker (worker.settingsChanged i field text) :=
      settingsFrame_settingsChanged i field text
    have hsame : ∀ j, j ≠ i → (worker.settingsChanged i field text).settingsObject j =
        worker.settingsObject j := by
      intro j hj
      rw [settingsChanged, settingsObject_modifySettings, if_neg]
      rintro ⟨rfl, -⟩
      exact hj rfl
    constructor
    · exact hframe.inRange h.inRange
    · exact h.log
    · intro j
      rw [hframe.user]
      intro other value hvalue
      rw [settingsChanged, settingsObject_modifySettings] at hvalue
      split at hvalue
      · rename_i hij
        rw [GdmSessionSettings.value_withValue] at hvalue
        split at hvalue
        · rename_i heq
          rw [heq, ← Option.some.inj hvalue, ← hij.1]
          exact htext
        · exact h.objects j other value hvalue
      · exact h.objects j other value hvalue
    · exact h.known
    · intro j hcurrent hchanged user huser
      have hnot : worker.settingsIsLoaded j = false := by
        rw [← hchanged]
        exact (settingsIsLoaded_eq_of (hframe.user j) rfl).symm
      by_cases hji : j = i
      · subst hji
        rcases hloaded with hloaded | hnone
        · rw [hloaded] at hnot
          cases hnot
        · rw [hnone] at huser
          cases huser
      · rw [hsame j hji]
        exact h.pending j hcurrent hnot user huser
  rw [settingsSet_eq]
  split
  · exact h
  · split
    · constructor
      · exact hchanged.inRange
      · apply ownValues_append hchanged.log
        intro effect heffect
        rw [List.mem_singleton.mp heffect]
        exact saves_read _ _
      · exact hchanged.objects
      · exact hchanged.known
      · exact hchanged.pending
    · exact hchanged

theorem Own.settingsTake (h : Own accounts past names worker)
    (huser : (worker.settingsObject i).user = some user)
    (haccount : worker.accounts user = some account) (field : SavedField) :
    Own accounts past names (worker.settingsTake i account field) := by
  unfold GdmSessionWorker.settingsTake
  split
  · apply h.settingsSet
    · rw [huser]
      exact h.known user account haccount field
    · left
      simp [settingsIsLoaded, huser, haccount]
  · exact h

/-- The settings that are not loaded get a user of whom they have nothing but own values. -/
theorem Own.settingsMoved (h : Own accounts past names worker)
    (hloaded : worker.settingsIsLoaded i = false)
    (hholds : HoldsOnly accounts past (some user) (worker.settingsObject i)) :
    Own accounts past names (worker.settingsMoved i user) := by
  have hvalue : ∀ j field, ((worker.settingsMoved i user).settingsObject j).value field =
      (worker.settingsObject j).value field := by
    intro j field
    rw [GdmSessionWorker.settingsMoved, settingsObject_modifySettings]
    split
    · cases field <;> rfl
    · rfl
  constructor
  · intro j hcurrent
    simpa [GdmSessionWorker.settingsMoved, modifySettings] using h.inRange j hcurrent
  · exact h.log
  · intro j
    apply HoldsOnly.of_value _ (hvalue j)
    rw [GdmSessionWorker.settingsMoved, settingsObject_modifySettings]
    split
    · rename_i hij
      rw [← hij.1]
      exact hholds
    · exact h.objects j
  · exact h.known
  · intro j hcurrent hnot other hother
    apply HoldsOnly.of_value _ (hvalue j)
    apply h.pending j hcurrent _ other hother
    by_cases hji : j = i
    · rw [hji]
      exact hloaded
    · have huser : ((worker.settingsMoved i user).settingsObject j).user =
          (worker.settingsObject j).user := by
        rw [GdmSessionWorker.settingsMoved, settingsObject_modifySettings, if_neg]
        rintro ⟨rfl, -⟩
        exact hji rfl
      rw [← hnot]
      exact (settingsIsLoaded_eq_of huser rfl).symm

/-- Loading the settings in use for the user of the worker. -/
theorem Own.settingsLoad (h : Own accounts past names worker)
    (hcurrent : worker.userSettings = some i)
    (husername : worker.state = .accredited → worker.username = some user)
    (hholds : worker.settingsIsLoaded i = false →
      HoldsOnly accounts past (some user) (worker.settingsObject i)) :
    Own accounts past names (worker.settingsLoad i (some user)).1 := by
  have hmoved : ((worker.settingsMoved i user).settingsObject i).user = some user := by
    rw [GdmSessionWorker.settingsMoved, settingsObject_modifySettings,
      if_pos ⟨rfl, h.inRange i hcurrent⟩]
  apply (settingsRule_own accounts past names).settingsLoad
  · intro hloaded
    exact h.settingsMoved hloaded (hholds hloaded)
  · intro hstate j hj _
    have hji : j = i := Option.some.inj ((hj : worker.userSettings = some j).symm.trans hcurrent)
    rw [hji, hmoved]
    exact (husername hstate).symm
  · intro account w field haccount hframe hw
    apply hw.settingsTake
    · rw [hframe.user]
      exact hmoved
    · rw [hframe.accounts]
      exact haccount
  · exact h

theorem Own.consults {o : Outcomes} (h : Own accounts past o.usernames worker)
    (hconsults : Consults o.userItems worker worker') :
    Own accounts past o.usernames worker' := by
  apply hconsults.preserves (P := Own accounts past o.usernames) _ _ h
  · intro w w' hsame _ hw
    exact hw.aside hsame
  · intro w item hitem hw
    apply (settingsRule_own accounts past o.usernames).updateUsername item _ hw
    intro w' i user _ husername hcurrent _ hnamed hw'
    apply hw'.settingsLoad hcurrent (fun _ => husername)
    intro hloaded
    apply hw'.pending i hcurrent hloaded
    rw [Outcomes.usernames, List.mem_filterMap]
    exact ⟨item, hitem, by rw [hnamed]; rfl⟩

/-! ## The steps -/

theorem own_accountLoaded (h : Own accounts (past ++ [.accountLoaded user account]) [] worker)
    (hown : worker.SavesOwn (.accountLoaded user account)) :
    Own accounts (past ++ [.accountLoaded user account]) []
      (worker.accountLoaded user account) := by
  have hknows : Own accounts (past ++ [.accountLoaded user account]) []
      (worker.knowsAccount user account) := by
    constructor
    · exact h.inRange
    · exact h.log
    · exact h.objects
    · intro other found hfound field
      by_cases hother : other = user
      · have hsame : found = account := by
          simpa [knowsAccount, hother] using hfound.symm
        right
        refine ⟨.accountLoaded user account, by simp, ?_⟩
        right
        rw [hother, hsame]
        exact ⟨rfl, rfl⟩
      · apply h.known other found
        simpa [knowsAccount, hother] using hfound
    · intro i _ _ name hname
      cases hname
  apply (settingsRule_own accounts _ []).accountLoaded _ _ hknows
  · intro hstate hwakes
    exact hown hstate hwakes
  · intro i _ hawaits w field hframe hw
    apply hw.settingsTake
    · rw [hframe.user]
      exact hawaits.2
    · rw [hframe.accounts]
      simp [knowsAccount]

theorem own_stateChangeIdleCallback {o : Outcomes}
    (h : Own accounts past (worker.usernames (.stateChangeIdle o)) worker)
    (hown : worker.SavesOwn (.stateChangeIdle o)) :
    Own accounts past (worker.usernames (.stateChangeIdle o))
      (worker.stateChangeIdleCallback o) := by
  by_cases hstate : worker.state = .accredited
  · rw [stateChangeIdleCallback_accredited hstate]
    have hframe : SettingsFrame worker (worker.dispatched .accountDetailsSaved) :=
      .of_eq rfl rfl rfl rfl id
    apply (settingsRule_own accounts past _).doSaveAccountDetailsWhenReady
      (hframe.ownAccount (hown hstate)) _ (h.aside (sameSettings_dispatched _))
    intro w i user hcurrent hloaded husername hw hconnected
    have hname : user ∈ worker.usernames (.stateChangeIdle o) := by
      have husername : worker.username = some user := husername
      simp [usernames, hstate, husername]
    apply hconnected.settingsLoad
    · rw [hw]
      exact hcurrent
    · intro _
      rw [hw]
      exact husername
    · intro hnot
      apply hconnected.pending i _ hnot user hname
      rw [hw]
      exact hcurrent
  · have hnames : worker.usernames (.stateChangeIdle o) = o.usernames := by
      simp [usernames, hstate]
    rw [hnames] at h ⊢
    exact h.consults (consults_stateChangeIdleCallback hstate o)

/-- `Initialize` comes with new settings, in which there is nothing yet. -/
theorem own_receive (h : Own accounts past [] worker) (request : Request) :
    Own accounts past [] (worker.receive request) := by
  rcases @receive_cases worker request with hsame | ⟨w, hsame, hnone, heq⟩
  · exact h.aside hsame
  · rw [heq]
    have hw : Own accounts past [] w := h.aside hsame
    have hcurrent : w.newUserSettings.userSettings = some w.settings.length := rfl
    have hnew : Own accounts past [] w.newUserSettings := by
      constructor
      · intro i hi
        rw [hcurrent] at hi
        simp [newUserSettings, ← Option.some.inj hi]
      · exact hw.log
      · intro i
        rw [settingsObject_newUserSettings]
        exact hw.objects i
      · exact hw.known
      · intro i _ _ name hname
        cases hname
    have hloads : ∀ user, Own accounts past []
        (w.newUserSettings.settingsLoad w.settings.length (some user)).1 := by
      intro user
      apply hnew.settingsLoad hcurrent
      · intro hstate
        have hstate : w.state = .accredited := hstate
        rw [hnone] at hstate
        cases hstate
      · intro _
        rw [settingsObject_newUserSettings, settingsObject_length]
        exact holdsOnly_empty _
    rcases (settingsRule_own accounts past []).startSettings hnew hloads with hsame' | hstarted
    · exact hw.aside hsame'
    · exact hstarted

/-- A step under the condition saves nothing of another user. -/
theorem KeepsOwn.own {s : GdmSessionWorker × List WorkerEvent} {event : WorkerEvent}
    (hs : Own accounts s.2 [] s.1) (h : KeepsOwn accounts s event) :
    Own accounts (machine.withPast.step s event).2 [] (machine.withPast.step s event).1 := by
  obtain ⟨worker, past⟩ := s
  change Own accounts (past ++ [event]) [] (worker.step event)
  have hpast : Own accounts (past ++ [event]) [] worker := hs.mono [event]
  have hempty : ∀ {names : List String} {w : GdmSessionWorker},
      Own accounts (past ++ [event]) names w → Own accounts (past ++ [event]) [] w := by
    intro names w hw
    apply hw.of_pending
    intro i _ _ user huser
    cases huser
  by_cases hrunning : worker.status = .running
  · have hboth := h hrunning
    have hnames : worker.Happens event →
        Own accounts (past ++ [event]) (worker.usernames event) worker := by
      intro hhappens
      apply hpast.of_pending
      intro i hcurrent hloaded user huser
      exact ((hboth hhappens).2 i hcurrent hloaded user huser).mono [event]
    have hset : ∀ field text, event.sets = some (field, text) → ∀ i,
        Own accounts (past ++ [event]) [] (worker.settingsSet i field text) := by
      intro field text hsets i
      apply hpast.settingsSet
      · right
        exact ⟨event, by simp, .inl hsets⟩
      · right
        rfl
    cases event with
    | call request => simpa [step, hrunning] using own_receive hpast request
    | stateChangeIdle o =>
      by_cases hidle : worker.stateChangeIdle = true
      · have hstep := own_stateChangeIdleCallback (hnames hidle) (hboth hidle).1
        simpa [step, hrunning, hidle] using hempty hstep
      · simpa [step, hrunning, hidle] using hpast
    | accountLoaded user account =>
      simpa [step, hrunning] using own_accountLoaded hpast (hboth trivial).1
    | accountUnloaded user =>
      have hstep : worker.step (.accountUnloaded user) = worker.accountUnloaded user := by
        simp [step, hrunning]
      rw [hstep]
      constructor
      · exact hpast.inRange
      · exact hpast.log
      · exact hpast.objects
      · intro other account haccount
        apply hpast.known other account
        by_cases hother : other = user
        · simp [GdmSessionWorker.accountUnloaded, hother] at haccount
        · simpa [GdmSessionWorker.accountUnloaded, hother] using haccount
      · intro i _ _ name hname
        cases hname
    | setSessionName name =>
      cases hcurrent : worker.userSettings with
      | none => simpa [step, hrunning, handleSetSessionName, hcurrent] using hpast
      | some i =>
        have hstep : worker.step (.setSessionName name) =
            worker.settingsSet i .sessionName name := by
          simp [step, hrunning, handleSetSessionName, hcurrent, settingsSet]
        rw [hstep]
        exact hset _ _ rfl i
    | setLanguageName name =>
      cases hcurrent : worker.userSettings with
      | none => simpa [step, hrunning, handleSetLanguageName, hcurrent] using hpast
      | some i =>
        have hstep : worker.step (.setLanguageName name) =
            worker.settingsSet i .languageName name := by
          simp [step, hrunning, handleSetLanguageName, hcurrent, settingsSet]
        rw [hstep]
        exact hset _ _ rfl i
    | childExited status o =>
      cases hwatch : worker.childWatch with
      | none => simpa [step, hrunning, hwatch] using hpast
      | some pid =>
        have hstep := (hnames (by simp [Happens, hwatch])).consults
          (consults_sessionWorkerChildWatch pid status o)
        simpa [step, hrunning, hwatch] using hempty hstep
    | finalize o =>
      have hstep := (hnames trivial).consults (consults_finalize o)
      simpa [step, hrunning] using hempty hstep
  · have hstep : worker.step event = worker := by
      simp [step, hrunning]
    rw [hstep]
    exact hpast

/-! ## The runs -/

theorem own_new (isReauthSession : Bool) (accounts : String → Option Account) :
    Own accounts [] [] (new isReauthSession accounts) := by
  constructor
  · exact inRange_new isReauthSession accounts
  · intro effect heffect
    cases heffect
  · intro i
    exact holdsOnly_empty _
  · intro user account haccount field
    left
    have haccount : accounts user = some account := haccount
    simp [haccount]
  · intro i _ _ name hname
    cases hname

/-- In a run that meets the condition, nothing is saved for a user that comes from the account
of another one. -/
theorem run_ownValues (isReauthSession : Bool) (accounts : String → Option Account)
    (events : List WorkerEvent)
    (h : machine.withPast.Meets (KeepsOwn accounts) (new isReauthSession accounts, []) events) :
    ∀ before after, events = before ++ after →
      OwnValues accounts before (machine.run (new isReauthSession accounts) before).log := by
  intro before after hevents
  rw [hevents, EventMachine.meets_append] at h
  have hown := h.1.invariant (fun s => Own accounts s.2 [] s.1)
    (fun s event hs hkeeps => hkeeps.own hs) (own_new isReauthSession accounts)
  rw [EventMachine.run_withPast] at hown
  exact hown.log

/-- The steps of a login as far as the saving of the details.  PAM has the user at the end of
the authentication. -/
def loginWithPamUser (user : String) : List WorkerEvent :=
  [.call (.Initialize [.service "gdm-password", .username "alice"] false), .stateChangeIdle {},
    .call .Authenticate, .stateChangeIdle { userItem := some (some user) },
    .call .Authorize, .stateChangeIdle {},
    .call .EstablishCredentials, .stateChangeIdle {},
    .setSessionName "kde",
    .call .Open, .stateChangeIdle {}]

/-- Two users with different languages. -/
def twoAccounts : String → Option Account
  | "alice" => some { sessionName := "gnome", language := "de_DE.UTF-8" }
  | "bob" => some { sessionName := "gnome-classic", language := "fr_FR.UTF-8" }
  | _ => none

theorem loginWithPamUser_ownValues :
    OwnValues twoAccounts (loginWithPamUser "alice")
      (machine.run (new false twoAccounts) (loginWithPamUser "alice")).log :=
  run_ownValues false twoAccounts (loginWithPamUser "alice") (by decide +kernel)
    (loginWithPamUser "alice") [] (List.append_nil _).symm

/-- PAM has another user in the end: the language of the first user is saved for the second. -/
theorem loginWithPamUser_crosses : ¬ ∀ (isReauthSession : Bool)
    (accounts : String → Option Account) (events : List WorkerEvent),
    OwnValues accounts events (machine.run (new isReauthSession accounts) events).log := by
  intro h
  have hsupplied := h false twoAccounts (loginWithPamUser "bob")
    (.accountSaved "bob" (some "kde") none (some "de_DE.UTF-8")) (by decide +kernel) "bob" _ rfl
    .languageName "de_DE.UTF-8" rfl
  exact absurd hsupplied (by decide +kernel)

end GdmSessionWorker

end Gdm
