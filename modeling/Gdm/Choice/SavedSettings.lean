import Gdm.Choice.Accounts
import Gdm.Worker.Transitions

/-!
# The settings of the worker for a user

While the settings of a user have not been loaded they have no values; loading them gives
them the values of the account, and tells the daemon of the type and the name in this
order.  Saving stores the values that they have by then.
-/

namespace Gdm

/-! ## What the worker has for the user -/

/-- A text of the accounts service, which is empty when it is not set. -/
def isSet (text : String) : Option String :=
  if text = "" then none else some text

/-- The worker has these settings for the user, and these accounts are loaded. -/
structure HasSettings (username : String) (accounts : String → Option Account)
    (settings : GdmSessionSettings) (worker : GdmSessionWorker) : Prop where
  current : worker.userSettings = some 0
  forUser : worker.username = some username
  known : worker.accounts = accounts
  only : worker.settings = [settings]
  owner : settings.user = some username

/-- The worker sends these messages, and saves this. -/
def Sends (worker worker' : GdmSessionWorker) (signals : List AccountSignal)
    (store : Account → Account) : Prop :=
  ∃ effects, worker'.log = worker.log ++ effects ∧
    effects.filterMap Effect.signal = signals ∧
      ∀ account : Account, effects.foldl Account.store account = store account

/-- What is stored when these settings are saved. -/
def GdmSessionSettings.storeIn (settings : GdmSessionSettings) (account : Account) : Account :=
  { sessionName := settings.sessionName.getD account.sessionName
    sessionType := settings.sessionType.getD account.sessionType
    language := settings.languageName.getD account.language }

variable {worker worker' worker'' : GdmSessionWorker} {username : String}
  {accounts : String → Option Account} {settings : GdmSessionSettings}
  {signals signals' : List AccountSignal} {store store' : Account → Account}

theorem Sends.refl (worker : GdmSessionWorker) : Sends worker worker [] id :=
  ⟨[], (List.append_nil _).symm, rfl, fun _ => rfl⟩

/-- Nothing is logged. -/
theorem Sends.of_log (h : worker'.log = worker.log) : Sends worker worker' [] id :=
  ⟨[], h.trans (List.append_nil _).symm, rfl, fun _ => rfl⟩

theorem Sends.trans (h : Sends worker worker' signals store)
    (h' : Sends worker' worker'' signals' store') :
    Sends worker worker'' (signals ++ signals') fun account => store' (store account) := by
  obtain ⟨effects, hlog, hsignals, hstore⟩ := h
  obtain ⟨effects', hlog', hsignals', hstore'⟩ := h'
  refine ⟨effects ++ effects', ?_, ?_, fun account => ?_⟩
  · rw [hlog', hlog, List.append_assoc]
  · rw [List.filterMap_append, hsignals, hsignals']
  · rw [List.foldl_append, hstore, hstore']

theorem HasSettings.object (h : HasSettings username accounts settings worker) :
    worker.settingsObject 0 = settings := by
  unfold GdmSessionWorker.settingsObject
  rw [h.only]
  rfl

theorem HasSettings.currentSettings (h : HasSettings username accounts settings worker) :
    worker.currentSettings = some settings := by
  unfold GdmSessionWorker.currentSettings
  rw [h.current, Option.map_some, h.object]

theorem HasSettings.isLoaded (h : HasSettings username accounts settings worker) :
    worker.settingsIsLoaded 0 = (accounts username).isSome := by
  unfold GdmSessionWorker.settingsIsLoaded
  rw [h.object, h.owner, h.known]

theorem HasSettings.modify (h : HasSettings username accounts settings worker)
    {f : GdmSessionSettings → GdmSessionSettings} (hf : (f settings).user = settings.user) :
    HasSettings username accounts (f settings) (worker.modifySettings 0 f) := by
  refine ⟨h.current, h.forUser, h.known, ?_, hf.trans h.owner⟩
  unfold GdmSessionWorker.modifySettings
  rw [h.only]
  rfl

namespace GdmSessionWorker

/-! ## Setting a value -/

theorem settingsSetSessionName_spec (h : HasSettings username accounts settings worker)
    (name : String) :
    HasSettings username accounts { settings with sessionName := some name }
        (worker.settingsSetSessionName 0 name) ∧
      (worker.settingsSetSessionName 0 name).state = worker.state ∧
      Sends worker (worker.settingsSetSessionName 0 name)
        (if settings.sessionName ≠ some name ∧ settings.savedNameHandlers = true then
          [.savedSessionNameRead name] else []) id := by
  unfold settingsSetSessionName
  rw [h.object]
  by_cases hequal : settings.sessionName = some name
  · rw [if_pos hequal, if_neg fun hne => hne.1 hequal]
    have hsame : { settings with sessionName := some name } = settings := by rw [← hequal]
    rw [hsame]
    exact ⟨h, rfl, Sends.refl worker⟩
  · rw [if_neg hequal]
    have hset : HasSettings username accounts { settings with sessionName := some name }
        (worker.modifySettings 0 fun s => { s with sessionName := some name }) :=
      h.modify (f := fun s => { s with sessionName := some name }) rfl
    dsimp only
    rw [hset.object]
    by_cases hhandlers : settings.savedNameHandlers = true
    · rw [if_pos hhandlers, if_pos ⟨hequal, hhandlers⟩]
      unfold onSavedSessionNameRead
      rw [hset.currentSettings]
      exact ⟨⟨hset.current, hset.forUser, hset.known, hset.only, hset.owner⟩, rfl,
        [_], rfl, rfl, fun _ => rfl⟩
    · rw [if_neg hhandlers, if_neg fun hne => hhandlers hne.2]
      exact ⟨hset, rfl, Sends.of_log rfl⟩

theorem settingsSetSessionType_spec (h : HasSettings username accounts settings worker)
    (htype : settings.sessionType = none) (type : String) :
    HasSettings username accounts { settings with sessionType := some type }
        (worker.settingsSetSessionType 0 type) ∧
      (worker.settingsSetSessionType 0 type).state = worker.state ∧
      Sends worker (worker.settingsSetSessionType 0 type) [.savedSessionTypeRead type] id := by
  have hset : HasSettings username accounts { settings with sessionType := some type }
      (worker.modifySettings 0 fun s => { s with sessionType := some type }) :=
    h.modify (f := fun s => { s with sessionType := some type }) rfl
  unfold settingsSetSessionType
  rw [h.object, htype, if_neg nofun]
  unfold onSavedSessionTypeRead
  rw [hset.currentSettings]
  exact ⟨⟨hset.current, hset.forUser, hset.known, hset.only, hset.owner⟩, rfl,
    [_], rfl, rfl, fun _ => rfl⟩

theorem settingsSetLanguageName_spec (h : HasSettings username accounts settings worker)
    (name : String) :
    HasSettings username accounts { settings with languageName := some name }
        (worker.settingsSetLanguageName 0 name) ∧
      (worker.settingsSetLanguageName 0 name).state = worker.state ∧
      Sends worker (worker.settingsSetLanguageName 0 name) [] id := by
  unfold settingsSetLanguageName
  rw [h.object]
  by_cases hequal : settings.languageName = some name
  · rw [if_pos hequal]
    have hsame : { settings with languageName := some name } = settings := by rw [← hequal]
    rw [hsame]
    exact ⟨h, rfl, Sends.refl worker⟩
  · rw [if_neg hequal]
    have hset : HasSettings username accounts { settings with languageName := some name }
        (worker.modifySettings 0 fun s => { s with languageName := some name }) :=
      h.modify (f := fun s => { s with languageName := some name }) rfl
    dsimp only
    split
    · exact ⟨⟨hset.current, hset.forUser, hset.known, hset.only, hset.owner⟩, rfl,
        [_], rfl, rfl, fun _ => rfl⟩
    · exact ⟨hset, rfl, Sends.of_log rfl⟩

/-! ## Saving -/

/-- What a callback of the worker has done when the settings were loaded: it has saved them
in the state that waits for that, or it has sent nothing. -/
def SavedOrNot (settings : GdmSessionSettings) (worker worker' : GdmSessionWorker) : Prop :=
  worker'.state = worker.state ∧ Sends worker worker' [] id ∨
    worker.state = .accredited ∧ worker'.state = .accountDetailsSaved ∧
      Sends worker worker' [.opened] settings.storeIn

/-- The settings have been told of, and the handlers for that are gone. -/
def SameValues (settings settings' : GdmSessionSettings) : Prop :=
  settings'.user = settings.user ∧ settings'.sessionName = settings.sessionName ∧
    settings'.sessionType = settings.sessionType ∧ settings'.languageName = settings.languageName

theorem saveAccountDetailsNow_spec (h : HasSettings username accounts settings worker)
    (hloaded : (accounts username).isSome = true) (hstate : worker.state = .accredited) :
    HasSettings username accounts settings worker.saveAccountDetailsNow ∧
      worker.saveAccountDetailsNow.state = .accountDetailsSaved ∧
      Sends worker worker.saveAccountDetailsNow [.opened] settings.storeIn := by
  have hne : worker.state ≠ .accountDetailsSaved := by
    rw [hstate]
    exact nofun
  have hset : HasSettings username accounts settings
      (worker.setState .accountDetailsSaved) := by
    rw [setState_of_ne hne]
    exact ⟨h.current, h.forUser, h.known, h.only, h.owner⟩
  have hsend : Sends worker (worker.setState .accountDetailsSaved) [] id := by
    rw [setState_of_ne hne]
    exact ⟨[_], rfl, rfl, fun _ => rfl⟩
  unfold saveAccountDetailsNow
  rw [if_neg (by rw [hstate]; exact fun hnot => hnot rfl)]
  dsimp only
  rw [hset.current]
  dsimp only
  unfold settingsSave
  rw [hset.forUser]
  dsimp only
  rw [if_pos ⟨hset.isLoaded.trans hloaded, by rw [hset.known]; exact hloaded⟩, hset.object]
  refine ⟨⟨hset.current, hset.forUser, hset.known, hset.only, hset.owner⟩,
    setState_state .accountDetailsSaved, ?_⟩
  exact hsend.trans ⟨[_], rfl, rfl, fun _ => rfl⟩

/-- The worker is told that the settings have been loaded. -/
theorem onSettingsIsLoadedChanged_spec (h : HasSettings username accounts settings worker)
    (hloaded : (accounts username).isSome = true) :
    ∃ settings', SameValues settings settings' ∧
      HasSettings username accounts settings' worker.onSettingsIsLoadedChanged ∧
      SavedOrNot settings worker worker.onSettingsIsLoadedChanged := by
  have htold : HasSettings username accounts { settings with savedNameHandlers := false }
      (worker.modifySettings 0 fun s => { s with savedNameHandlers := false }) :=
    h.modify (f := fun s => { s with savedNameHandlers := false }) rfl
  unfold onSettingsIsLoadedChanged
  rw [h.current]
  dsimp only
  rw [if_neg (by rw [h.isLoaded, hloaded]; exact fun hnot => hnot rfl)]
  have hdone : ∀ w, HasSettings username accounts { settings with savedNameHandlers := false } w →
      HasSettings username accounts
        { settings with savedNameHandlers := false, isLoadedHandlers := 0 }
        (w.modifySettings 0 fun s => { s with isLoadedHandlers := 0 }) :=
    fun w hw => hw.modify (f := fun s => { s with isLoadedHandlers := 0 }) rfl
  split
  · refine ⟨{ settings with savedNameHandlers := false, isLoadedHandlers := 0 },
      ⟨rfl, rfl, rfl, rfl⟩, hdone _ ?_, .inl ⟨rfl, Sends.of_log rfl⟩⟩
    exact ⟨htold.current, htold.forUser, htold.known, htold.only, htold.owner⟩
  · split
    · rename_i hstate
      obtain ⟨hsaved, hstate', hsends⟩ := saveAccountDetailsNow_spec htold hloaded hstate
      exact ⟨{ settings with savedNameHandlers := false, isLoadedHandlers := 0 },
        ⟨rfl, rfl, rfl, rfl⟩, hdone _ hsaved, .inr ⟨hstate, hstate', hsends⟩⟩
    · exact ⟨{ settings with savedNameHandlers := false }, ⟨rfl, rfl, rfl, rfl⟩, htold,
        .inl ⟨rfl, Sends.of_log rfl⟩⟩

theorem SavedOrNot.trans {settings' : GdmSessionSettings} (hsame : SameValues settings settings')
    (h : SavedOrNot settings worker worker') (h' : SavedOrNot settings' worker' worker'') :
    SavedOrNot settings worker worker'' := by
  obtain ⟨_, hname, htype, hlanguage⟩ := hsame
  have hstore : settings'.storeIn = settings.storeIn := by
    unfold GdmSessionSettings.storeIn
    rw [hname, htype, hlanguage]
  rcases h with ⟨hstate, hsends⟩ | ⟨hbefore, hafter, hsends⟩
  · rcases h' with ⟨hstate', hsends'⟩ | ⟨hbefore', hafter', hsends'⟩
    · exact .inl ⟨hstate'.trans hstate, hsends.trans hsends'⟩
    · rw [hstore] at hsends'
      exact .inr ⟨hstate.symm.trans hbefore', hafter', hsends.trans hsends'⟩
  · rcases h' with ⟨hstate', hsends'⟩ | ⟨hbefore', _, _⟩
    · exact .inr ⟨hbefore, hstate'.trans hafter, hsends.trans hsends'⟩
    · cases hbefore'.symm.trans hafter

theorem SameValues.trans {settings' settings'' : GdmSessionSettings}
    (h : SameValues settings settings') (h' : SameValues settings' settings'') :
    SameValues settings settings'' :=
  ⟨h'.1.trans h.1, h'.2.1.trans h.2.1, h'.2.2.1.trans h.2.2.1, h'.2.2.2.trans h.2.2.2⟩

/-- All handlers are told. -/
theorem notifyIsLoaded_spec (handlers : Nat) (h : HasSettings username accounts settings worker)
    (hloaded : (accounts username).isSome = true) :
    ∃ settings', SameValues settings settings' ∧
      HasSettings username accounts settings' (notifyIsLoaded 0 handlers worker) ∧
      SavedOrNot settings worker (notifyIsLoaded 0 handlers worker) := by
  have hsame : SameValues settings settings := ⟨rfl, rfl, rfl, rfl⟩
  induction handlers generalizing worker settings with
  | zero => exact ⟨settings, hsame, h, .inl ⟨rfl, Sends.refl worker⟩⟩
  | succ handlers ih =>
    unfold notifyIsLoaded
    split
    · exact ⟨settings, hsame, h, .inl ⟨rfl, Sends.refl worker⟩⟩
    · obtain ⟨told, htold, hhas, hsaved⟩ := onSettingsIsLoadedChanged_spec h hloaded
      obtain ⟨last, hlast, hhas', hsaved'⟩ := ih hhas ⟨rfl, rfl, rfl, rfl⟩
      exact ⟨last, htold.trans hlast, hhas', hsaved.trans htold hsaved'⟩

/-! ## Loading -/

/-- The settings of a user before they are loaded.  A name may have been sent by then. -/
def unloadedSettings (username : String) (name : Option String) (handlers : Nat) :
    GdmSessionSettings :=
  { user := some username
    sessionName := name
    watchesUser := true
    isLoadedHandlers := handlers }

/-- The settings have the values of the account; a name that it does not have is left. -/
def FromAccount (username : String) (account : Account) (name : Option String)
    (settings : GdmSessionSettings) : Prop :=
  settings.user = some username ∧
    settings.sessionName = (isSet account.sessionName).or name ∧
    settings.sessionType = isSet account.sessionType

/-- What the worker tells the daemon of an account: first the type, then the name. -/
def accountSignals (account : Account) : List AccountSignal :=
  (isSet account.sessionType).toList.map .savedSessionTypeRead ++
    (isSet account.sessionName).toList.map .savedSessionNameRead

theorem opened_not_mem_accountSignals (account : Account) :
    .opened ∉ accountSignals account := by
  intro hmem
  rcases List.mem_append.mp hmem with hmem | hmem
  · obtain ⟨type, _, htype⟩ := List.mem_map.mp hmem
    cases htype
  · obtain ⟨name, _, hname⟩ := List.mem_map.mp hmem
    cases hname

theorem loadSettingsFromUser_spec {name : Option String} {handlers : Nat}
    (h : HasSettings username accounts (unloadedSettings username name handlers) worker)
    (hloaded : (accounts username).isSome = true) {account : Account}
    (hunnamed : account.sessionName ≠ "" → name = none) :
    ∃ settings loaded, FromAccount username account name settings ∧
      HasSettings username accounts settings (worker.loadSettingsFromUser 0 account) ∧
      loaded.state = worker.state ∧ Sends worker loaded (accountSignals account) id ∧
      SavedOrNot settings loaded (worker.loadSettingsFromUser 0 account) ∧
      (handlers = 0 → worker.loadSettingsFromUser 0 account = loaded) := by
  -- the type is set first, then the name and the language
  have htype : ∃ typed : GdmSessionWorker, typed = (if account.sessionType ≠ "" then
        worker.settingsSetSessionType 0 account.sessionType else worker) ∧
      HasSettings username accounts { unloadedSettings username name handlers with
        sessionType := isSet account.sessionType } typed ∧
      typed.state = worker.state ∧ Sends worker typed
        ((isSet account.sessionType).toList.map .savedSessionTypeRead) id := by
    refine ⟨_, rfl, ?_⟩
    by_cases hempty : account.sessionType = ""
    · rw [if_neg (not_not.mpr hempty)]
      have hnone : isSet account.sessionType = none := if_pos hempty
      rw [hnone]
      exact ⟨h, rfl, Sends.refl worker⟩
    · rw [if_pos hempty]
      have hsome : isSet account.sessionType = some account.sessionType := if_neg hempty
      rw [hsome]
      exact settingsSetSessionType_spec h rfl account.sessionType
  obtain ⟨typed, htyped, hhas, hstate, hsends⟩ := htype
  have hname : ∃ named : GdmSessionWorker, named = (if account.sessionName ≠ "" then
        typed.settingsSetSessionName 0 account.sessionName else typed) ∧
      HasSettings username accounts { unloadedSettings username name handlers with
        sessionType := isSet account.sessionType
        sessionName := (isSet account.sessionName).or name } named ∧
      named.state = typed.state ∧ Sends typed named
        ((isSet account.sessionName).toList.map .savedSessionNameRead) id := by
    refine ⟨_, rfl, ?_⟩
    by_cases hempty : account.sessionName = ""
    · rw [if_neg (not_not.mpr hempty)]
      have hnone : isSet account.sessionName = none := if_pos hempty
      rw [hnone, Option.none_or]
      exact ⟨hhas, rfl, Sends.refl typed⟩
    · rw [if_pos hempty]
      have hsome : isSet account.sessionName = some account.sessionName := if_neg hempty
      rw [hsome, Option.some_or]
      have hset := settingsSetSessionName_spec hhas account.sessionName
      have hdiffers : ({ unloadedSettings username name handlers with
          sessionType := isSet account.sessionType } : GdmSessionSettings).sessionName ≠
            some account.sessionName := by
        rw [show ({ unloadedSettings username name handlers with
          sessionType := isSet account.sessionType } : GdmSessionSettings).sessionName = none from
            hunnamed hempty]
        exact nofun
      rw [if_pos ⟨hdiffers, rfl⟩] at hset
      exact hset
  obtain ⟨named, hnamed, hhas', hstate', hsends'⟩ := hname
  have hlanguage : ∃ loaded : GdmSessionWorker, ∃ language, loaded = (if account.language ≠ "" then
        named.settingsSetLanguageName 0 account.language else named) ∧
      HasSettings username accounts { unloadedSettings username name handlers with
        sessionType := isSet account.sessionType
        sessionName := (isSet account.sessionName).or name
        languageName := language } loaded ∧
      loaded.state = named.state ∧ Sends named loaded [] id := by
    by_cases hempty : account.language = ""
    · exact ⟨named, none, (if_neg (not_not.mpr hempty)).symm, hhas', rfl, Sends.refl named⟩
    · obtain ⟨hhas'', hstate'', hsends''⟩ := settingsSetLanguageName_spec hhas' account.language
      exact ⟨_, some account.language, (if_pos hempty).symm, hhas'', hstate'', hsends''⟩
  obtain ⟨loaded, language, hlast, hhas'', hstate'', hsends''⟩ := hlanguage
  obtain ⟨settings, ⟨huser, hsame, hsame', hsame''⟩, hfinal, hsaved⟩ :=
    notifyIsLoaded_spec (loaded.settingsObject 0).isLoadedHandlers hhas'' hloaded
  have heq : worker.loadSettingsFromUser 0 account =
      notifyIsLoaded 0 (loaded.settingsObject 0).isLoadedHandlers loaded := by
    unfold loadSettingsFromUser
    dsimp only
    rw [← htyped, ← hnamed, ← hlast]
  rw [heq]
  refine ⟨settings, loaded, ⟨huser, hsame, hsame'⟩, hfinal,
    (hstate''.trans hstate').trans hstate, ?_, ?_, ?_⟩
  · have hall := (hsends.trans hsends').trans hsends''
    rw [List.append_nil] at hall
    exact hall
  · have hback : SavedOrNot { unloadedSettings username name handlers with
        sessionType := isSet account.sessionType
        sessionName := (isSet account.sessionName).or name
        languageName := language } loaded
          (notifyIsLoaded 0 (loaded.settingsObject 0).isLoadedHandlers loaded) := hsaved
    have hstore : settings.storeIn = ({ unloadedSettings username name handlers with
        sessionType := isSet account.sessionType
        sessionName := (isSet account.sessionName).or name
        languageName := language } : GdmSessionSettings).storeIn := by
      unfold GdmSessionSettings.storeIn
      rw [hsame, hsame', hsame'']
    unfold SavedOrNot at hback ⊢
    rw [hstore]
    exact hback
  · intro hnone
    have hzero : (loaded.settingsObject 0).isLoadedHandlers = 0 := by
      rw [hhas''.object, ← hnone]
      rfl
    rw [hzero]
    rfl

/-- The accounts service tells the worker of the account. -/
theorem accountLoaded_spec {name : Option String} {handlers : Nat}
    (h : HasSettings username accounts (unloadedSettings username name handlers) worker)
    {account : Account} (hunnamed : account.sessionName ≠ "" → name = none) :
    ∃ settings loaded, FromAccount username account name settings ∧
      HasSettings username
        (fun other => if other = username then some account else accounts other) settings
        (worker.accountLoaded username account) ∧
      loaded.state = worker.state ∧ Sends worker loaded (accountSignals account) id ∧
      SavedOrNot settings loaded (worker.accountLoaded username account) ∧
      (handlers = 0 → (worker.accountLoaded username account).state = worker.state) := by
  obtain ⟨known, hdef⟩ : ∃ known : GdmSessionWorker, known = { worker with
      accounts := fun other => if other = username then some account else worker.accounts other } :=
    ⟨_, rfl⟩
  have hknown : HasSettings username
      (fun other => if other = username then some account else accounts other)
      (unloadedSettings username name handlers) known := by
    rw [hdef]
    exact ⟨h.current, h.forUser, by rw [h.known], h.only, h.owner⟩
  have hsame : known.state = worker.state ∧ known.log = worker.log := by
    rw [hdef]
    exact ⟨rfl, rfl⟩
  obtain ⟨settings, loaded, hfrom, hhas, hstate, hsends, hsaved, hsilent⟩ :=
    loadSettingsFromUser_spec hknown (by rw [if_pos rfl]; rfl) hunnamed
  have heq : worker.accountLoaded username account =
      (known.loadSettingsFromUser 0 account).modifySettings 0 fun s =>
        { s with watchesUser := false } := by
    have hrange : List.range worker.settings.length = [0] := by
      rw [h.only]
      rfl
    unfold accountLoaded
    dsimp only
    rw [hrange, List.foldl_cons, List.foldl_nil, ← hdef]
    unfold onUserIsLoadedChanged
    rw [hknown.object]
    exact if_pos ⟨rfl, rfl⟩
  rw [heq]
  refine ⟨{ settings with watchesUser := false }, loaded, hfrom,
    hhas.modify (f := fun s => { s with watchesUser := false }) rfl, hstate.trans hsame.1, ?_,
    hsaved, fun hnone => ?_⟩
  swap
  · rw [hsilent hnone]
    exact hstate.trans hsame.1
  unfold Sends at hsends ⊢
  rw [← hsame.2]
  exact hsends

/-- Open waits for settings that are not loaded. -/
theorem doSaveAccountDetailsWhenReady_unloaded {name : Option String} {handlers : Nat}
    (h : HasSettings username accounts (unloadedSettings username name handlers) worker)
    (hunloaded : accounts username = none) (hstate : worker.state = .accredited) :
    HasSettings username accounts (unloadedSettings username name (handlers + 1))
        worker.doSaveAccountDetailsWhenReady ∧
      worker.doSaveAccountDetailsWhenReady.state = worker.state ∧
      Sends worker worker.doSaveAccountDetailsWhenReady [] id := by
  have hwaits : HasSettings username accounts (unloadedSettings username name (handlers + 1))
      (worker.modifySettings 0 fun s => { s with isLoadedHandlers := s.isLoadedHandlers + 1 }) :=
    h.modify (f := fun s => { s with isLoadedHandlers := s.isLoadedHandlers + 1 }) rfl
  have hnot : worker.settingsIsLoaded 0 = false := by rw [h.isLoaded, hunloaded]; rfl
  unfold doSaveAccountDetailsWhenReady
  rw [if_neg (not_not.mpr hstate), h.current]
  dsimp only
  rw [hnot, if_neg Bool.false_ne_true]
  unfold settingsLoad
  rw [hwaits.forUser]
  dsimp only
  rw [hwaits.isLoaded, hunloaded, Option.isSome_none, if_neg Bool.false_ne_true]
  have hnone : (modifySettings worker 0 fun s =>
      { s with isLoadedHandlers := s.isLoadedHandlers + 1 }).accounts username = none := by
    rw [hwaits.known, hunloaded]
  have hwatched : HasSettings username accounts
      { unloadedSettings username name (handlers + 1) with
        watchesUser := false
        user := some username }
      ((worker.modifySettings 0 fun s =>
        { s with isLoadedHandlers := s.isLoadedHandlers + 1 }).modifySettings 0 fun s =>
          { s with watchesUser := false, user := some username }) :=
    hwaits.modify (f := fun s => { s with watchesUser := false, user := some username }) rfl
  have hagain := hwatched.modify (f := fun s => { s with watchesUser := true }) rfl
  rw [hwatched.known, hunloaded]
  exact ⟨hagain, rfl, Sends.of_log rfl⟩

/-- Open saves settings that are loaded. -/
theorem doSaveAccountDetailsWhenReady_loaded
    (h : HasSettings username accounts settings worker)
    (hloaded : (accounts username).isSome = true) (hstate : worker.state = .accredited) :
    HasSettings username accounts settings worker.doSaveAccountDetailsWhenReady ∧
      worker.doSaveAccountDetailsWhenReady.state = .accountDetailsSaved ∧
      Sends worker worker.doSaveAccountDetailsWhenReady [.opened] settings.storeIn := by
  have heq : worker.doSaveAccountDetailsWhenReady = worker.saveAccountDetailsNow := by
    unfold doSaveAccountDetailsWhenReady
    rw [if_neg (not_not.mpr hstate), h.current]
    exact if_pos (h.isLoaded.trans hloaded)
  rw [heq]
  exact saveAccountDetailsNow_spec h hloaded hstate

theorem handleSetSessionName_spec (h : HasSettings username accounts settings worker)
    (name : String) :
    HasSettings username accounts { settings with sessionName := some name }
        (worker.handleSetSessionName name) ∧
      (worker.handleSetSessionName name).state = worker.state ∧
      ∃ signals, Sends worker (worker.handleSetSessionName name) signals id ∧
        .opened ∉ signals := by
  obtain ⟨hset, hstate, hsends⟩ := settingsSetSessionName_spec h name
  unfold handleSetSessionName
  rw [h.current]
  refine ⟨hset, hstate, _, hsends, ?_⟩
  split
  · exact fun hmem => nomatch List.mem_singleton.mp hmem
  · exact List.not_mem_nil

end GdmSessionWorker

end Gdm
