import Gdm.Worker.Settings

/-!
# What the settings code can do to the worker

Loading and saving user settings changes the settings objects and the username
and tells others about it.  Beyond that it can only call the worker's own
handler of the is-loaded notification, and only through an object that the
handler is connected to.
-/

namespace Gdm

/-- The effects of the settings code. -/
def Effect.isNotice : Effect → Bool
  | usernameChanged _ | savedLanguageNameRead _ | savedSessionNameRead _
  | savedSessionTypeRead _ | accountSaved _ _ _ _ => true
  | _ => false

namespace GdmSessionWorker

/-- How many is-loaded handlers of the worker are connected to object `i`. -/
def isLoadedHandlers (worker : GdmSessionWorker) (i : Nat) : Nat :=
  (worker.settingsObject i).isLoadedHandlers

/-- `worker'` differs from `worker` in the settings, the username and the loaded
accounts only, the history grew by notices, no is-loaded handler was connected or
disconnected and no settings object was made. -/
structure Quiet (worker worker' : GdmSessionWorker) : Prop where
  change : ∃ settings username accounts notices,
    worker' = { worker with
      settings := settings
      username := username
      accounts := accounts
      log := worker.log ++ notices } ∧
    ∀ effect ∈ notices, effect.isNotice = true
  handlers : ∀ i, worker'.isLoadedHandlers i = worker.isLoadedHandlers i
  objects : worker'.settings.length = worker.settings.length

variable {worker worker' worker'' : GdmSessionWorker}

@[simp] theorem isLoadedHandlers_queueStateChange (i : Nat) :
    worker.queueStateChange.isLoadedHandlers i = worker.isLoadedHandlers i := rfl

@[simp] theorem isLoadedHandlers_setState (state : GdmSessionWorkerState) (i : Nat) :
    (worker.setState state).isLoadedHandlers i = worker.isLoadedHandlers i := by
  unfold setState
  split <;> rfl

theorem Quiet.refl (worker : GdmSessionWorker) : Quiet worker worker :=
  ⟨⟨worker.settings, worker.username, worker.accounts, [], by simp, by simp⟩, fun _ => rfl, rfl⟩

namespace Quiet

variable (h : Quiet worker worker')
include h

theorem state : worker'.state = worker.state := by
  obtain ⟨⟨_, _, _, _, rfl, _⟩, _⟩ := h
  rfl

theorem pamHandle : worker'.pamHandle = worker.pamHandle := by
  obtain ⟨⟨_, _, _, _, rfl, _⟩, _⟩ := h
  rfl

theorem stateChangeIdle : worker'.stateChangeIdle = worker.stateChangeIdle := by
  obtain ⟨⟨_, _, _, _, rfl, _⟩, _⟩ := h
  rfl

theorem isReauthSession : worker'.isReauthSession = worker.isReauthSession := by
  obtain ⟨⟨_, _, _, _, rfl, _⟩, _⟩ := h
  rfl

theorem userSettings : worker'.userSettings = worker.userSettings := by
  obtain ⟨⟨_, _, _, _, rfl, _⟩, _⟩ := h
  rfl

theorem pendingInvocation : worker'.pendingInvocation = worker.pendingInvocation := by
  obtain ⟨⟨_, _, _, _, rfl, _⟩, _⟩ := h
  rfl

theorem log : ∃ notices, worker'.log = worker.log ++ notices ∧
    ∀ effect ∈ notices, effect.isNotice = true := by
  obtain ⟨⟨_, _, _, notices, rfl, hnotices⟩, _⟩ := h
  exact ⟨notices, rfl, hnotices⟩

end Quiet

theorem Quiet.trans (h : Quiet worker worker') (h' : Quiet worker' worker'') :
    Quiet worker worker'' := by
  obtain ⟨⟨settings, username, accounts, notices, rfl, hnotices⟩, hhandlers, hobjects⟩ := h
  obtain ⟨⟨settings', username', accounts', notices', rfl, hnotices'⟩, hhandlers', hobjects'⟩ := h'
  refine ⟨⟨settings', username', accounts', notices ++ notices', by simp, ?_⟩, ?_,
    hobjects'.trans hobjects⟩
  · intro effect heffect
    rcases List.mem_append.mp heffect with hold | hnew
    · exact hnotices effect hold
    · exact hnotices' effect hnew
  · intro i
    rw [hhandlers' i, hhandlers i]

theorem quiet_emit {effect : Effect} (h : effect.isNotice = true) :
    Quiet worker (worker.emit effect) :=
  ⟨⟨worker.settings, worker.username, worker.accounts, [effect], rfl, by simpa using h⟩,
    fun _ => rfl, rfl⟩

theorem settingsObject_modifySettings (i j : Nat)
    (f : GdmSessionSettings → GdmSessionSettings) :
    (worker.modifySettings i f).settingsObject j =
      if i = j ∧ j < worker.settings.length then f (worker.settingsObject j)
      else worker.settingsObject j := by
  unfold settingsObject modifySettings
  simp only [List.getD_eq_getElem?_getD, List.getElem?_modify]
  by_cases hj : j < worker.settings.length
  · by_cases hij : i = j <;> simp [hj, hij]
  · simp [hj]

theorem quiet_modifySettings (i : Nat) {f : GdmSessionSettings → GdmSessionSettings}
    (hf : ∀ s, (f s).isLoadedHandlers = s.isLoadedHandlers) :
    Quiet worker (worker.modifySettings i f) := by
  refine ⟨⟨worker.settings.modify i f, worker.username, worker.accounts, [], ?_, by simp⟩, ?_,
    by simp [modifySettings]⟩
  · simp [modifySettings]
  · intro j
    unfold isLoadedHandlers
    rw [settingsObject_modifySettings]
    split
    · exact hf _
    · rfl

theorem quiet_ite (c : Prop) [Decidable c] (h : Quiet worker worker') :
    Quiet worker (if c then worker' else worker) := by
  split
  · exact h
  · exact .refl _

/-! ## The setters and the saving of settings are quiet -/

theorem quiet_settingsSetLanguageName (i : Nat) (name : String) :
    Quiet worker (worker.settingsSetLanguageName i name) := by
  unfold settingsSetLanguageName
  split
  · exact .refl _
  · have hset : Quiet worker
        (worker.modifySettings i fun s => { s with languageName := some name }) :=
      quiet_modifySettings i fun _ => rfl
    dsimp only
    split
    · exact hset.trans (quiet_emit rfl)
    · exact hset

theorem quiet_settingsSetSessionName (i : Nat) (name : String) :
    Quiet worker (worker.settingsSetSessionName i name) := by
  unfold settingsSetSessionName
  split
  · exact .refl _
  · have hset : Quiet worker
        (worker.modifySettings i fun s => { s with sessionName := some name }) :=
      quiet_modifySettings i fun _ => rfl
    dsimp only
    split
    · exact hset.trans (quiet_emit rfl)
    · exact hset

theorem quiet_settingsSetSessionType (i : Nat) (type : String) :
    Quiet worker (worker.settingsSetSessionType i type) := by
  unfold settingsSetSessionType
  split
  · exact .refl _
  · have hset : Quiet worker
        (worker.modifySettings i fun s => { s with sessionType := some type }) :=
      quiet_modifySettings i fun _ => rfl
    exact hset.trans (quiet_emit rfl)

theorem quiet_settingsSave (i : Nat) (username : Option String) :
    Quiet worker (worker.settingsSave i username) := by
  unfold settingsSave
  cases username with
  | none => exact .refl _
  | some user =>
    dsimp only
    split
    · exact quiet_emit rfl
    · exact .refl _

/-! ## Settling -/

/-- What the settings code does: quiet changes and calls of the worker's
is-loaded handler, the latter through an object the handler is connected to. -/
inductive Settles : GdmSessionWorker → GdmSessionWorker → Prop
  | quiet {w w' : GdmSessionWorker} : Quiet w w' → Settles w w'
  | wake {w : GdmSessionWorker} (i : Nat) : w.isLoadedHandlers i ≠ 0 →
      Settles w w.onSettingsIsLoadedChanged
  | trans {w w' w'' : GdmSessionWorker} : Settles w w' → Settles w' w'' → Settles w w''

theorem Settles.refl (worker : GdmSessionWorker) : Settles worker worker :=
  .quiet (.refl worker)

/-- What quiet changes and the handler preserve, the settings code preserves. -/
theorem Settles.preserves {P : GdmSessionWorker → Prop}
    (hquiet : ∀ worker worker', Quiet worker worker' → P worker → P worker')
    (hwake : ∀ worker i, worker.isLoadedHandlers i ≠ 0 → P worker →
      P worker.onSettingsIsLoadedChanged)
    (h : Settles worker worker') (hP : P worker) : P worker' := by
  induction h with
  | quiet h => exact hquiet _ _ h hP
  | wake i hi => exact hwake _ i hi hP
  | trans _ _ ih ih' => exact ih' (ih hP)

theorem settles_notifyIsLoaded (i handlers : Nat) (worker : GdmSessionWorker) :
    Settles worker (notifyIsLoaded i handlers worker) := by
  induction handlers generalizing worker with
  | zero => exact .refl worker
  | succ handlers ih =>
    unfold notifyIsLoaded
    by_cases hconnected : (worker.settingsObject i).isLoadedHandlers = 0
    · rw [if_pos hconnected]
      exact .refl worker
    · rw [if_neg hconnected]
      exact .trans (.wake i hconnected) (ih _)

theorem settles_loadSettingsFromUser (i : Nat) (account : Account) :
    Settles worker (worker.loadSettingsFromUser i account) := by
  unfold loadSettingsFromUser
  have hquiet := ((quiet_ite (account.sessionType ≠ "")
    (quiet_settingsSetSessionType i account.sessionType : Quiet worker _)).trans
    (quiet_ite (account.sessionName ≠ "")
      (quiet_settingsSetSessionName i account.sessionName))).trans
    (quiet_ite (account.language ≠ "")
      (quiet_settingsSetLanguageName i account.language))
  exact .trans (.quiet hquiet) (settles_notifyIsLoaded _ _ _)

theorem settles_settingsLoad (i : Nat) (username : Option String) :
    Settles worker (worker.settingsLoad i username).1 := by
  unfold settingsLoad
  cases username with
  | none => exact .refl _
  | some user =>
    dsimp only
    by_cases hloaded : worker.settingsIsLoaded i = true
    · rw [if_pos hloaded]
      exact .refl _
    · rw [if_neg hloaded]
      have hset : Quiet worker (worker.modifySettings i fun s =>
          { s with watchesUser := false, user := some user }) :=
        quiet_modifySettings i fun _ => rfl
      split
      · exact .quiet (hset.trans (quiet_modifySettings i fun _ => rfl))
      · exact .trans (.quiet hset) (settles_loadSettingsFromUser i _)

theorem settles_onUserIsLoadedChanged (user : String) (account : Account) (i : Nat) :
    Settles worker (worker.onUserIsLoadedChanged user account i) := by
  unfold onUserIsLoadedChanged
  split
  · exact .trans (settles_loadSettingsFromUser i account)
      (.quiet (quiet_modifySettings i fun _ => rfl))
  · exact .refl _

theorem quiet_setAccounts (accounts : String → Option Account) :
    Quiet worker { worker with accounts := accounts } :=
  ⟨⟨worker.settings, worker.username, accounts, [], by simp, by simp⟩, fun _ => rfl, rfl⟩

theorem settles_accountLoaded (user : String) (account : Account) :
    Settles worker (worker.accountLoaded user account) := by
  have hobjects : ∀ (objects : List Nat) (worker : GdmSessionWorker),
      Settles worker (objects.foldl
        (fun worker i => worker.onUserIsLoadedChanged user account i) worker) := by
    intro objects
    induction objects with
    | nil => exact .refl
    | cons i objects ih =>
      intro worker
      exact .trans (settles_onUserIsLoadedChanged user account i) (ih _)
  exact .trans (.quiet (quiet_setAccounts _)) (hobjects _ _)

theorem settles_attemptToLoadUserSettings (username : String) :
    Settles worker (worker.attemptToLoadUserSettings username) := by
  unfold attemptToLoadUserSettings
  split
  · exact .refl _
  · split
    · exact .refl _
    · exact settles_settingsLoad _ _

theorem settles_updateUsername (item : UserItem) (hhandle : worker.pamHandle ≠ none) :
    Settles worker (worker.updateUsername item) := by
  unfold updateUsername
  rw [if_neg hhandle]
  cases item with
  | none => exact .refl _
  | some username =>
    dsimp only
    split
    · exact .refl _
    · have hset : Quiet worker
          ({ worker with username := username }.emit (.usernameChanged username)) :=
        ⟨⟨worker.settings, username, worker.accounts, [_], rfl, by simp [Effect.isNotice]⟩,
          fun _ => rfl, rfl⟩
      cases username with
      | none => exact .quiet hset
      | some user =>
        dsimp only
        split
        · exact .trans (.quiet hset) (settles_attemptToLoadUserSettings user)
        · exact .quiet hset

/-! ## The is-loaded handler -/

/-- `worker'` is `worker` after its is-loaded handler has queued the set-up or
the opening of the session: the handler is no longer connected to the current
object `current`, and the state is one that has been waiting for the settings. -/
structure Woken (worker worker' : GdmSessionWorker) (current : Nat) : Prop where
  isCurrent : worker.userSettings = some current
  handlers : ∀ i, worker'.isLoadedHandlers i =
    if i = current then 0 else worker.isLoadedHandlers i
  objects : worker'.settings.length = worker.settings.length
  change : ∃ settings username accounts state notices,
    worker' = { worker with
      settings := settings
      username := username
      accounts := accounts
      state := state
      stateChangeIdle := true
      log := worker.log ++ notices } ∧
    (worker.state = .none ∧ state = .none ∧ notices = [] ∨
      worker.state = .accredited ∧ state = .accountDetailsSaved ∧
        ∃ saved, notices = .notifyState .accountDetailsSaved :: saved ∧
          ∀ effect ∈ saved, effect.isNotice = true)

theorem isLoadedHandlers_disconnect (i current : Nat) :
    (worker.modifySettings current fun s => { s with isLoadedHandlers := 0 }).isLoadedHandlers i =
      if i = current then 0 else worker.isLoadedHandlers i := by
  unfold isLoadedHandlers
  rw [settingsObject_modifySettings]
  by_cases hi : i = current
  · subst hi
    by_cases hrange : i < worker.settings.length
    · simp [hrange]
    · simp [hrange, settingsObject]
  · simp [hi, Ne.symm hi]

theorem Quiet.queueStateChange (h : Quiet worker worker') :
    Quiet worker.queueStateChange worker'.queueStateChange := by
  obtain ⟨⟨settings, username, accounts, notices, rfl, hnotices⟩, hhandlers, hobjects⟩ := h
  exact ⟨⟨settings, username, accounts, notices, rfl, hnotices⟩, hhandlers, hobjects⟩

/-- Saving is quiet once the state has been set and the idle source queued. -/
theorem quiet_saveAccountDetailsNow {w : GdmSessionWorker} (hstate : w.state = .accredited) :
    Quiet (w.setState .accountDetailsSaved).queueStateChange w.saveAccountDetailsNow := by
  unfold saveAccountDetailsNow
  rw [if_neg (not_not.mpr hstate)]
  refine Quiet.queueStateChange ?_
  split
  · exact .refl _
  · exact quiet_settingsSave _ _

theorem onSettingsIsLoadedChanged_cases (worker : GdmSessionWorker) :
    Quiet worker worker.onSettingsIsLoadedChanged ∨
      ∃ current, Woken worker worker.onSettingsIsLoadedChanged current := by
  unfold onSettingsIsLoadedChanged
  cases hcurrent : worker.userSettings with
  | none => exact .inl (.refl _)
  | some current =>
    dsimp only
    by_cases hloaded : worker.settingsIsLoaded current
    swap
    · rw [if_pos hloaded]
      exact .inl (.refl _)
    rw [if_neg (not_not.mpr hloaded)]
    have hnames : Quiet worker
        (worker.modifySettings current fun s => { s with savedNameHandlers := false }) :=
      quiet_modifySettings current fun _ => rfl
    by_cases hnone : worker.state = .none
    · rw [if_pos (by exact hnone)]
      right
      refine ⟨current, hcurrent, ?_, by simp [modifySettings, queueStateChange], ?_⟩
      · intro i
        rw [isLoadedHandlers_disconnect, ← hnames.handlers i]
        rfl
      · refine ⟨((worker.settings.modify current fun s =>
            { s with savedNameHandlers := false }).modify current fun s =>
            { s with isLoadedHandlers := 0 }),
          worker.username, worker.accounts, .none, [], ?_, .inl ⟨hnone, rfl, rfl⟩⟩
        simp [modifySettings, queueStateChange, hnone]
    rw [if_neg (by exact hnone)]
    by_cases haccredited : worker.state = .accredited
    · rw [if_pos (by exact haccredited)]
      right
      have hsave := quiet_saveAccountDetailsNow
        (w := worker.modifySettings current fun s => { s with savedNameHandlers := false })
        haccredited
      obtain ⟨⟨settings', username', accounts', saved, heq', hsaved⟩, hhandlers', hobjects'⟩ :=
        hsave
      refine ⟨current, hcurrent, ?_, ?_, ?_⟩
      · intro i
        rw [isLoadedHandlers_disconnect, hhandlers' i, isLoadedHandlers_queueStateChange,
          isLoadedHandlers_setState, hnames.handlers i]
      · simp only [setState, queueStateChange, emit] at hobjects'
        split at hobjects' <;> simpa [modifySettings] using hobjects'
      · refine ⟨settings'.modify current fun s => { s with isLoadedHandlers := 0 },
          username', accounts', .accountDetailsSaved,
          .notifyState .accountDetailsSaved :: saved, ?_,
          .inr ⟨haccredited, rfl, saved, rfl, hsaved⟩⟩
        rw [heq']
        simp [modifySettings, setState, haccredited, queueStateChange, emit]
    · rw [if_neg (by exact haccredited)]
      exact .inl hnames

/-- In a state that does not wait for settings the handler finds nothing to do. -/
theorem Settles.quiet_of_state (h : Settles worker worker')
    (hnone : worker.state ≠ .none) (haccredited : worker.state ≠ .accredited) :
    Quiet worker worker' := by
  induction h with
  | quiet h => exact h
  | @wake w i hi =>
    rcases onSettingsIsLoadedChanged_cases w with hquiet | ⟨current, hwoken⟩
    · exact hquiet
    · obtain ⟨_, _, _, _, _, _, hstate | hstate⟩ := hwoken.change
      · exact absurd hstate.1 hnone
      · exact absurd hstate.1 haccredited
  | trans _ _ ih ih' =>
    have hquiet := ih hnone haccredited
    exact hquiet.trans (ih' (hquiet.state ▸ hnone) (hquiet.state ▸ haccredited))

/-- The settings code does not touch the PAM handle. -/
theorem Settles.pamHandle (h : Settles worker worker') :
    worker'.pamHandle = worker.pamHandle := by
  refine h.preserves (P := fun w => w.pamHandle = worker.pamHandle) ?_ ?_ rfl
  · intro w w' hquiet hw
    rw [hquiet.pamHandle, hw]
  · intro w i _ hw
    rcases onSettingsIsLoadedChanged_cases w with hquiet | ⟨current, hwoken⟩
    · rw [hquiet.pamHandle, hw]
    · obtain ⟨_, _, _, _, _, heq, _⟩ := hwoken.change
      rw [heq, ← hw]

/-- The settings code changes the state in one way only. -/
theorem Settles.state (h : Settles worker worker') :
    worker'.state = worker.state ∨
      worker.state = .accredited ∧ worker'.state = .accountDetailsSaved := by
  refine h.preserves (P := fun w => w.state = worker.state ∨
    worker.state = .accredited ∧ w.state = .accountDetailsSaved) ?_ ?_ (.inl rfl)
  · intro w w' hquiet hw
    rw [hquiet.state]
    exact hw
  · intro w i _ hw
    rcases onSettingsIsLoadedChanged_cases w with hquiet | ⟨current, hwoken⟩
    · rw [hquiet.state]
      exact hw
    · obtain ⟨_, _, _, _, _, heq, hstate | hstate⟩ := hwoken.change
      · left
        rw [heq]
        rcases hw with hw | hw
        · rw [← hw, hstate.1, hstate.2.1]
        · rw [hw.2] at hstate
          cases hstate.1
      · right
        rw [heq]
        rcases hw with hw | hw
        · exact ⟨hw ▸ hstate.1, hstate.2.1⟩
        · exact ⟨hw.1, hstate.2.1⟩

end GdmSessionWorker

end Gdm
