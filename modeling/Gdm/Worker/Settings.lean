import Gdm.Worker.State

/-!
# User settings of the worker

The settings objects load the saved session and language of a user through the
accounts service.  While they load they call back into the worker, which relays
the saved names and, once they are loaded, queues a state change or saves the
account details.
-/

namespace Gdm

namespace GdmSessionWorker

/-! ## The settings objects -/

/-- The settings object with index `i`. -/
def settingsObject (worker : GdmSessionWorker) (i : Nat) : GdmSessionSettings :=
  worker.settings.getD i {}

def modifySettings (worker : GdmSessionWorker) (i : Nat)
    (f : GdmSessionSettings → GdmSessionSettings) : GdmSessionWorker :=
  { worker with settings := worker.settings.modify i f }

/-- The settings object that `worker->user_settings` points to. -/
def currentSettings (worker : GdmSessionWorker) : Option GdmSessionSettings :=
  worker.userSettings.map worker.settingsObject

/-- `gdm_session_settings_is_loaded` -/
def settingsIsLoaded (worker : GdmSessionWorker) (i : Nat) : Bool :=
  match (worker.settingsObject i).user with
  | none => false
  | some user => (worker.accounts user).isSome

/-! ## Handlers of the worker for the saved names

They read the current object, whichever object emitted the signal. -/

def onSavedLanguageNameRead (worker : GdmSessionWorker) : GdmSessionWorker :=
  worker.emit (.savedLanguageNameRead (worker.currentSettings.bind (·.languageName)))

def onSavedSessionNameRead (worker : GdmSessionWorker) : GdmSessionWorker :=
  worker.emit (.savedSessionNameRead (worker.currentSettings.bind (·.sessionName)))

def onSavedSessionTypeRead (worker : GdmSessionWorker) : GdmSessionWorker :=
  worker.emit (.savedSessionTypeRead (worker.currentSettings.bind (·.sessionType)))

/-- `gdm_session_settings_set_language_name` -/
def settingsSetLanguageName (worker : GdmSessionWorker) (i : Nat) (name : String) :
    GdmSessionWorker :=
  if (worker.settingsObject i).languageName = some name then worker
  else
    let worker := worker.modifySettings i fun s => { s with languageName := some name }
    if (worker.settingsObject i).savedNameHandlers then worker.onSavedLanguageNameRead
    else worker

/-- `gdm_session_settings_set_session_name` -/
def settingsSetSessionName (worker : GdmSessionWorker) (i : Nat) (name : String) :
    GdmSessionWorker :=
  if (worker.settingsObject i).sessionName = some name then worker
  else
    let worker := worker.modifySettings i fun s => { s with sessionName := some name }
    if (worker.settingsObject i).savedNameHandlers then worker.onSavedSessionNameRead
    else worker

/-- `gdm_session_settings_set_session_type`; the handler for the type is never
disconnected. -/
def settingsSetSessionType (worker : GdmSessionWorker) (i : Nat) (type : String) :
    GdmSessionWorker :=
  if (worker.settingsObject i).sessionType = some type then worker
  else
    (worker.modifySettings i fun s => { s with sessionType := some type })
      |>.onSavedSessionTypeRead

/-! ## Saving and the is-loaded notification -/

/-- `gdm_session_settings_save` -/
def settingsSave (worker : GdmSessionWorker) (i : Nat) (username : Option String) :
    GdmSessionWorker :=
  match username with
  | none => worker
  | some user =>
    if worker.settingsIsLoaded i ∧ (worker.accounts user).isSome then
      let object := worker.settingsObject i
      worker.emit (.accountSaved user object.sessionName object.sessionType
        object.languageName)
    else worker

def saveAccountDetailsNow (worker : GdmSessionWorker) : GdmSessionWorker :=
  if worker.state ≠ .accredited then worker.abort .saveAccountDetailsNow
  else
    let worker := worker.setState .accountDetailsSaved
    let worker := match worker.userSettings with
      | none => worker
      | some i => worker.settingsSave i worker.username
    worker.queueStateChange

/-- The handler of `notify::is-loaded`.  It asks the current object whether it
is loaded and disconnects from the current object, and it stays connected when
the worker is in neither of the two states that wait for it. -/
def onSettingsIsLoadedChanged (worker : GdmSessionWorker) : GdmSessionWorker :=
  match worker.userSettings with
  | none => worker
  | some i =>
    if ¬ worker.settingsIsLoaded i then worker
    else
      let worker := worker.modifySettings i fun s => { s with savedNameHandlers := false }
      let disconnect := fun worker : GdmSessionWorker =>
        worker.modifySettings i fun s => { s with isLoadedHandlers := 0 }
      if worker.state = .none then disconnect worker.queueStateChange
      else if worker.state = .accredited then disconnect worker.saveAccountDetailsNow
      else worker

/-- Emission of `notify::is-loaded` by object `i` to the handlers that are
connected; one that has been disconnected meanwhile is not called. -/
def notifyIsLoaded (i : Nat) : Nat → GdmSessionWorker → GdmSessionWorker
  | 0, worker => worker
  | handlers + 1, worker =>
    if (worker.settingsObject i).isLoadedHandlers = 0 then worker
    else notifyIsLoaded i handlers worker.onSettingsIsLoadedChanged

/-! ## Loading -/

def loadSettingsFromUser (worker : GdmSessionWorker) (i : Nat) (account : Account) :
    GdmSessionWorker :=
  let worker :=
    if account.sessionType ≠ "" then worker.settingsSetSessionType i account.sessionType
    else worker
  let worker :=
    if account.sessionName ≠ "" then worker.settingsSetSessionName i account.sessionName
    else worker
  let worker :=
    if account.language ≠ "" then worker.settingsSetLanguageName i account.language
    else worker
  notifyIsLoaded i (worker.settingsObject i).isLoadedHandlers worker

/-- `gdm_session_settings_load` with its return value. -/
def settingsLoad (worker : GdmSessionWorker) (i : Nat) (username : Option String) :
    GdmSessionWorker × Bool :=
  match username with
  | none => (worker, false)
  | some user =>
    if worker.settingsIsLoaded i then (worker, false)
    else
      let worker := worker.modifySettings i fun s =>
        { s with watchesUser := false, user := some user }
      match worker.accounts user with
      | none => (worker.modifySettings i fun s => { s with watchesUser := true }, false)
      | some account => (worker.loadSettingsFromUser i account, true)

/-- `on_user_is_loaded_changed` for object `i`. -/
def onUserIsLoadedChanged (worker : GdmSessionWorker) (user : String)
    (account : Account) (i : Nat) : GdmSessionWorker :=
  if (worker.settingsObject i).watchesUser ∧ (worker.settingsObject i).user = some user then
    (worker.loadSettingsFromUser i account).modifySettings i fun s =>
      { s with watchesUser := false }
  else worker

/-- The accounts service has loaded `user`: every object that watches the user
is told. -/
def accountLoaded (worker : GdmSessionWorker) (user : String) (account : Account) :
    GdmSessionWorker :=
  let worker := { worker with
    accounts := fun other => if other = user then some account else worker.accounts other }
  (List.range worker.settings.length).foldl
    (fun worker i => worker.onUserIsLoadedChanged user account i) worker

/-- The accounts service no longer has `user` loaded; nobody reacts to it. -/
def accountUnloaded (worker : GdmSessionWorker) (user : String) : GdmSessionWorker :=
  { worker with
    accounts := fun other => if other = user then none else worker.accounts other }

/-! ## The username -/

def attemptToLoadUserSettings (worker : GdmSessionWorker) (username : String) :
    GdmSessionWorker :=
  match worker.userSettings with
  | none => worker
  | some i =>
    if worker.settingsIsLoaded i then worker
    else (worker.settingsLoad i (some username)).1

/-- `gdm_session_worker_update_username`, given what PAM answers for
`PAM_USER`. -/
def updateUsername (worker : GdmSessionWorker) (item : UserItem) : GdmSessionWorker :=
  if worker.pamHandle = none then worker.abort .getUsername
  else match item with
    | none => worker
    | some username =>
      if worker.username = username then worker
      else
        let worker := { worker with username := username }.emit (.usernameChanged username)
        match username with
        | none => worker
        | some user =>
          if user ≠ "" then worker.attemptToLoadUserSettings user else worker

end GdmSessionWorker

end Gdm
