import Gdm.Choice.Accounts
import Gdm.Choice.Agreement

/-!
# What is read of a saved session

Only a selection changes what has been selected.  When nothing is selected, the daemon would
start the session that is saved with the account once it has read its type, if there is one,
and then its name.  It forgets both when a user is selected, and may find another type for
the name when a conversation is set up.
-/

namespace Gdm

namespace SessionChoice

variable {self self' : SessionChoice} {installed : Installed} {name : String}

/-! ## What has been selected -/

theorem updateSessionType_selectedSession (h : self.updateSessionType installed = some self') :
    self'.selectedSession = self.selectedSession := by
  obtain ⟨_, type, fallback, rfl⟩ := updateSessionType_spec h
  rfl

/-- The greeter is told of the default session; the type is found with the name. -/
theorem defaultsChanged_eq (h : self.defaultsChanged installed = some self') :
    ∃ type fallback, self' =
      { self with sessionType := some type, fallbackSessionName := fallback } := by
  unfold defaultsChanged at h
  obtain ⟨updated, hupdate, h⟩ := Option.bind_eq_some_iff.mp h
  obtain ⟨-, type, fallback, rfl⟩ := updateSessionType_spec hupdate
  split at h
  · obtain ⟨⟨default, named⟩, hnamed, rfl⟩ := Option.map_eq_some_iff.mp h
    obtain ⟨fallback', rfl, -⟩ := getDefaultSessionName_spec hnamed
    exact ⟨type, fallback', rfl⟩
  · obtain rfl := Option.some.inj h
    exact ⟨type, fallback, rfl⟩

theorem defaultsChanged_selectedSession (h : self.defaultsChanged installed = some self') :
    self'.selectedSession = self.selectedSession := by
  obtain ⟨type, fallback, rfl⟩ := defaultsChanged_eq h
  rfl

/-- A saved session is put in the place of the one that was read before, or is dropped; what
has been selected and the type that has been read stay. -/
theorem workerOnSavedSessionNameRead_spec
    (h : self.workerOnSavedSessionNameRead installed name = some self') :
    ∃ saved type fallback, self' =
        { self with
          savedSession := saved
          sessionType := some type
          fallbackSessionName := fallback } ∧
      (saved = none ∨ saved = self.savedSession ∨ saved = some name) := by
  unfold workerOnSavedSessionNameRead at h
  split at h
  · obtain ⟨⟨default, named⟩, hnamed, h⟩ := Option.bind_eq_some_iff.mp h
    obtain ⟨fallback, rfl, -⟩ := getDefaultSessionName_spec hnamed
    obtain ⟨saved, hread, hkept⟩ : ∃ saved,
        (if name ≠ default then
            { self with fallbackSessionName := fallback, savedSession := some name }
          else { self with fallbackSessionName := fallback }) =
            ({ self with
              fallbackSessionName := fallback
              savedSession := saved } : SessionChoice) ∧
          (saved = self.savedSession ∨ saved = some name) := by
      split
      · exact ⟨some name, rfl, .inr rfl⟩
      · exact ⟨self.savedSession, rfl, .inl rfl⟩
    dsimp only at h
    rw [hread] at h
    split at h
    · rename_i type _
      obtain rfl := Option.some.inj h
      exact ⟨saved, type, fallback, rfl, .inr hkept⟩
    · obtain ⟨-, type, fallback', rfl⟩ := updateSessionType_spec h
      exact ⟨saved, type, fallback', rfl, .inr hkept⟩
  · obtain ⟨-, type, fallback, rfl⟩ := updateSessionType_spec h
    exact ⟨none, type, fallback, rfl, .inl rfl⟩

/-- What runs has the name that was selected, if one was. -/
theorem chosen_spec {type : Option String} (h : self.chosen installed = some (name, type)) :
    (∃ named, self.getSessionName installed = some (name, named)) ∧
      type = self.sessionType ∧
      ∀ selected, self.selectedSession = some selected → name = selected := by
  unfold chosen at h
  obtain ⟨⟨found, named⟩, hnamed, hpair⟩ := Option.map_eq_some_iff.mp h
  obtain ⟨rfl, rfl⟩ := Prod.mk.inj hpair
  refine ⟨⟨named, hnamed⟩, ?_, ?_⟩
  · obtain ⟨fallback, rfl⟩ := getSessionName_spec hnamed
    rfl
  · intro selected hselected
    unfold getSessionName at hnamed
    rw [hselected] at hnamed
    exact (Prod.mk.inj (Option.some.inj hnamed)).1.symm

theorem startSession_selectedSession {serviceName : String}
    (h : self.startSession installed serviceName = some self') :
    self'.selectedSession = self.selectedSession := by
  unfold startSession at h
  split at h
  · split at h
    · obtain rfl := Option.some.inj h
      rfl
    · obtain ⟨name, named, command, wrapper, hname, _, _, rfl⟩ := startProgram_spec h
      obtain ⟨fallback, rfl⟩ := getSessionName_spec hname
      rfl
  · obtain rfl := Option.some.inj h
    rfl

/-- Only a selection changes what has been selected, and a reset. -/
theorem handleEvent_selectedSession {event : ChoiceEvent}
    (h : self.handleEvent installed event = some self')
    (hselect : ∀ name, event ≠ .selectSession name) (hreset : event ≠ .reset) :
    self'.selectedSession = self.selectedSession := by
  cases event with
  | setup serviceName =>
    obtain ⟨updated, hupdate, h⟩ := Option.bind_eq_some_iff.mp h
    have hsame := updateSessionType_selectedSession hupdate
    exact (defaultsChanged_selectedSession h).trans hsame
  | setupForUser serviceName username =>
    obtain ⟨updated, hupdate, h⟩ := Option.bind_eq_some_iff.mp h
    have hsame := updateSessionType_selectedSession hupdate
    exact (defaultsChanged_selectedSession h).trans hsame
  | usernameChanged username =>
    have hsame : (if username.isEmpty then self
        else self.selectUser username).selectedSession = self.selectedSession := by
      split <;> rfl
    exact (defaultsChanged_selectedSession h).trans hsame
  | savedSessionNameRead name =>
    obtain ⟨saved, type, fallback, rfl, -⟩ := workerOnSavedSessionNameRead_spec h
    rfl
  | selectSession name => exact absurd rfl (hselect name)
  | startSession serviceName => exact startSession_selectedSession h
  | reset => exact absurd rfl hreset
  | selectUser username
  | savedSessionTypeRead type
  | openSession serviceName
  | programStarted serviceName
  | sessionExited =>
    obtain rfl := Option.some.inj h
    rfl

/-- A session that runs is left alone. -/
theorem selectSession_selectedSession
    (h : self.handleEvent installed (.selectSession name) = some self') :
    self'.selectedSession = if self.isRunning then self.selectedSession else some name := by
  have hselect : self.handleClientSelectSession installed name = some self' := h
  unfold handleClientSelectSession at hselect
  split at hselect
  · rename_i hrunning
    obtain rfl := Option.some.inj hselect
    exact (if_pos hrunning).symm
  · rename_i hrunning
    exact (updateSessionType_selectedSession hselect).trans (if_neg hrunning).symm

/-! ## A saved session -/

/-- The type that a session gets when it is selected. -/
def typeFor (self : SessionChoice) (installed : Installed) (name : String) : String :=
  if self.supportsSessionType (some "wayland") then self.foundType installed name else "x11"

/-- The session that is saved with an account is still there with the type that it was run
with: it is found with the type, it has a command once it has this type, and the daemon has a
fallback.  When the account has no type, what is found for the name alone is of this type. -/
structure StillInstalled (choice : SessionChoice) (installed : Installed) (account : Account)
    (type : Option String) : Prop where
  usable : choice.isUsable installed account.sessionName type = true
  supported : ∀ present ∈ type,
    (choice.setSessionType present).isUsable installed account.sessionName none = true
  fallback : (choice.getFallbackSessionName installed).isSome = true
  found : account.sessionType = "" →
    choice.isUsable installed account.sessionName none = true ∧
      type = some (choice.typeFor installed account.sessionName)

instance (choice : SessionChoice) (installed : Installed) (account : Account)
    (type : Option String) : Decidable (choice.StillInstalled installed account type) :=
  decidable_of_iff
    (choice.isUsable installed account.sessionName type = true ∧
      (∀ present ∈ type,
        (choice.setSessionType present).isUsable installed account.sessionName none = true) ∧
      (choice.getFallbackSessionName installed).isSome = true ∧
      (account.sessionType = "" →
        choice.isUsable installed account.sessionName none = true ∧
          type = some (choice.typeFor installed account.sessionName)))
    ⟨fun ⟨husable, hsupported, hfallback, hfound⟩ => ⟨husable, hsupported, hfallback, hfound⟩,
      fun h => ⟨h.usable, h.supported, h.fallback, h.found⟩⟩

end SessionChoice

/-- What a daemon has read of a session that is saved with an account, since a user was last
selected: the type, and the name with the type known, if there is one.  What is `lost` has been
read before, or could not be used then, and has not been read again. -/
structure Reading where
  typed : Bool := false
  named : Bool := false
  lost : Bool := false
  deriving DecidableEq, Repr

namespace Reading

/-- A user is selected. -/
def forget (self : Reading) : Reading :=
  { typed := false, named := false, lost := self.typed || self.named || self.lost }

/-- The type is found anew; `same` when it is the one that was read. -/
def retype (self : Reading) (same : Bool) : Reading :=
  if self.named && !same then { self with named := false, lost := true } else self

/-- The name is read; `usable` when its file is there. -/
def name (self : Reading) (usable : Bool) : Reading :=
  { self with named := usable, lost := !usable }

/-- What an event of the daemon does to what it has read. -/
def step (self : Reading) (choice : SessionChoice) (installed : Installed) (account : Account)
    (type : Option String) : SessionChoice.ChoiceEvent → Reading
  | .setup _ => self.retype (choice.StillInstalled installed account type ∧
      type = some (choice.typeFor installed account.sessionName))
  | .setupForUser _ _ | .selectUser _ | .reset => self.forget
  | .usernameChanged username =>
    if username.isEmpty then
      self.retype (choice.StillInstalled installed account type ∧
        type = some (choice.typeFor installed account.sessionName))
    else self.forget
  | .savedSessionTypeRead _ => { self with typed := true }
  | .savedSessionNameRead _ =>
    if account.sessionType = "" ∨ self.typed then
      self.name (choice.StillInstalled installed account type)
    else self
  | _ => self

theorem retype_cases (self : Reading) (same : Bool) :
    self.named = true ∧ same = true ∧ self.retype same = self ∨
      (self.retype same).named = false ∧ (self.retype same).typed = self.typed := by
  unfold retype
  cases hnamed : self.named with
  | false => exact .inr ⟨hnamed, rfl⟩
  | true => cases same with
    | true => exact .inl ⟨rfl, rfl, rfl⟩
    | false => exact .inr ⟨rfl, rfl⟩

/-- What a message of the worker tells has been read, or is lost. -/
def Heard (self : Reading) (account : Account) : AccountSignal → Prop
  | .savedSessionTypeRead _ =>
    account.sessionType = "" ∨ self.typed = true ∨ self.lost = true
  | .savedSessionNameRead _ => self.named = true ∨ self.lost = true
  | .opened => True

variable {self : Reading} {account : Account}

theorem heard_forget (self : Reading) (signal : AccountSignal) (h : self.Heard account signal) :
    self.forget.Heard account signal := by
  cases signal with
  | savedSessionTypeRead =>
    rcases h with hempty | htyped | hlost
    · exact .inl hempty
    · exact .inr (.inr (by simp [forget, htyped]))
    · exact .inr (.inr (by simp [forget, hlost]))
  | savedSessionNameRead =>
    rcases h with hnamed | hlost
    · exact .inr (by simp [forget, hnamed])
    · exact .inr (by simp [forget, hlost])
  | opened => trivial

theorem heard_retype (self : Reading) (same : Bool) (signal : AccountSignal)
    (h : self.Heard account signal) : (self.retype same).Heard account signal := by
  unfold retype
  split
  · cases signal with
    | savedSessionTypeRead => exact h.imp_right fun h => .inr rfl
    | savedSessionNameRead => exact .inr rfl
    | opened => trivial
  · exact h

/-- The name has been read, or could not be used. -/
theorem heard_name (self : Reading) (usable : Bool) (text : String) :
    (self.name usable).Heard account (.savedSessionNameRead text) := by
  cases usable with
  | true => exact .inl rfl
  | false => exact .inr rfl

/-- What has been read stays read, or is lost. -/
theorem Heard.step {signal : AccountSignal} (h : self.Heard account signal)
    (choice : SessionChoice) (installed : Installed) (type : Option String)
    (event : SessionChoice.ChoiceEvent) :
    (self.step choice installed account type event).Heard account signal := by
  cases event with
  | setup serviceName => exact heard_retype self _ signal h
  | setupForUser serviceName username => exact heard_forget self signal h
  | selectUser username => exact heard_forget self signal h
  | reset => exact heard_forget self signal h
  | usernameChanged username =>
    rw [Reading.step]
    split
    · exact heard_retype self _ signal h
    · exact heard_forget self signal h
  | savedSessionTypeRead text => cases signal with
    | savedSessionTypeRead => exact .inr (.inl rfl)
    | savedSessionNameRead => exact h
    | opened => trivial
  | savedSessionNameRead text =>
    rw [Reading.step]
    split
    · rename_i hknown
      cases signal with
      | savedSessionTypeRead => exact hknown.imp_right .inl
      | savedSessionNameRead => exact heard_name self _ _
      | opened => trivial
    · exact h
  | selectSession name
  | openSession serviceName
  | startSession serviceName
  | programStarted serviceName
  | sessionExited => exact h

end Reading

namespace SessionChoice

variable {self self' : SessionChoice} {installed : Installed} {account : Account}
  {type : Option String} {r : Reading}

/-- What the choice has of a saved session, by what has been read of it, when nothing is
selected. -/
structure Remembers (account : Account) (type : Option String) (r : Reading)
    (choice : SessionChoice) : Prop where
  selectedSession : choice.selectedSession = none
  savedSession : choice.savedSession = none ∨ choice.savedSession = some account.sessionName
  savedSessionType : choice.savedSessionType = none ∨
    account.sessionType ≠ "" ∧ choice.savedSessionType = some account.sessionType
  typed : r.typed = true → choice.savedSessionType = some account.sessionType
  known : r.named = true → account.sessionType = "" ∨ r.typed = true
  named : r.named = true → choice.sessionType = type ∧
    (choice.savedSession = some account.sessionName ∨
      choice.fallbackSessionName = some account.sessionName)

/-- The type that a saved session was run with is that of the account, if it has one. -/
theorem StillInstalled.exists_type (h : self.StillInstalled installed account type)
    (htype : account.sessionType ≠ "" → type = some account.sessionType) :
    ∃ present, type = some present := by
  by_cases hempty : account.sessionType = ""
  · exact ⟨_, (h.found hempty).2⟩
  · exact ⟨_, htype hempty⟩

/-- The session that was read is the one that is run, also when it is the fallback. -/
theorem getSessionName_of_read {name : String} (hselected : self.selectedSession = none)
    (hname : self.savedSession = some name ∨ self.savedSession = none ∧
      self.fallbackSessionName = some name ∧ self.isUsable installed name none = true) :
    self.getSessionName installed = some (name, self) := by
  rcases hname with hsaved | ⟨hsaved, hfallback, husable⟩
  · exact getSessionName_of_chosen (by unfold chosenSession; rw [hselected, hsaved]; rfl)
  · have hchosen : self.chosenSession = none := by
      unfold chosenSession
      rw [hselected, hsaved]
      rfl
    have hfound : self.fallbackFound installed = some name := by
      rw [fallbackFound_of_remembered (by rw [hfallback]; exact husable), hfallback]
    rw [getSessionName_of_not_chosen hchosen, getFallbackSessionName_eq, hfound, Option.map_some,
      ← hfallback]

/-- What has been read is in force, as long as it is installed. -/
theorem Remembers.getSessionName (h : Remembers account type r self)
    (htype : account.sessionType ≠ "" → type = some account.sessionType)
    (hstill : self.StillInstalled installed account type) (hnamed : r.named = true) :
    self.getSessionName installed = some (account.sessionName, self) := by
  obtain ⟨hsame, hforce⟩ := h.named hnamed
  apply getSessionName_of_read h.selectedSession
  rcases h.savedSession with hsaved | hsaved
  · have hfallback := hforce.resolve_left (by rw [hsaved]; nofun)
    obtain ⟨present, hpresent⟩ := hstill.exists_type htype
    have husable := hstill.supported present hpresent
    have hset : self.setSessionType present = self := by
      unfold setSessionType
      rw [← hpresent, ← hsame]
    rw [hset] at husable
    exact .inr ⟨hsaved, hfallback, husable⟩
  · exact .inl hsaved

/-- What would be started is what is saved, with the type that it was run with. -/
theorem Remembers.chosen (h : Remembers account type r self)
    (htype : account.sessionType ≠ "" → type = some account.sessionType)
    (hstill : self.StillInstalled installed account type) (hnamed : r.named = true) :
    self.chosen installed = some (account.sessionName, type) := by
  unfold SessionChoice.chosen
  rw [h.getSessionName htype hstill hnamed, Option.map_some, ← (h.named hnamed).1]

/-! ## The type is found anew -/

/-- The type is found for the session that was read. -/
theorem updateSessionType_read {name : String}
    (hname : self.getSessionName installed = some (name, self)) :
    self.updateSessionType installed =
      some (self.setSessionType (self.typeFor installed name)) := by
  unfold updateSessionType typeFor
  split
  · rw [hname]
    rfl
  · rfl

/-- Nothing changes when the type that is found is the one that was read. -/
theorem Remembers.updateSessionType (h : Remembers account type r self)
    (htype : account.sessionType ≠ "" → type = some account.sessionType)
    (hstill : self.StillInstalled installed account type) (hnamed : r.named = true)
    (hfound : type = some (self.typeFor installed account.sessionName)) :
    self.updateSessionType installed = some self := by
  have hname := h.getSessionName htype hstill hnamed
  rw [updateSessionType_read hname, setSessionType, ← hfound, ← (h.named hnamed).1]

theorem Remembers.defaultsChanged (h : Remembers account type r self)
    (htype : account.sessionType ≠ "" → type = some account.sessionType)
    (hstill : self.StillInstalled installed account type) (hnamed : r.named = true)
    (hfound : type = some (self.typeFor installed account.sessionName)) :
    self.defaultsChanged installed = some self := by
  have hname := h.getSessionName htype hstill hnamed
  have hdefault : self.getDefaultSessionName installed = some (account.sessionName, self) := by
    rw [← hname, SessionChoice.getSessionName, h.selectedSession]
  unfold SessionChoice.defaultsChanged
  rw [h.updateSessionType htype hstill hnamed hfound, Option.bind_some, hdefault]
  split <;> rfl

/-- Only the type and the fallback have changed, and the session is not taken to be read. -/
theorem Remembers.unnamed (h : Remembers account type r self) {r' : Reading}
    (hselected : self'.selectedSession = self.selectedSession)
    (hsaved : self'.savedSession = self.savedSession)
    (hsavedType : self'.savedSessionType = self.savedSessionType)
    (htyped : r'.typed = r.typed) (hnamed : r'.named = false) :
    Remembers account type r' self' where
  selectedSession := hselected.trans h.selectedSession
  savedSession := by
    rw [hsaved]
    exact h.savedSession
  savedSessionType := by
    rw [hsavedType]
    exact h.savedSessionType
  typed := by
    rw [htyped, hsavedType]
    exact h.typed
  known hnot := by
    rw [hnamed] at hnot
    cases hnot
  named hnot := by
    rw [hnamed] at hnot
    cases hnot

/-- A choice that differs in nothing that matters here. -/
theorem Remembers.congr (h : Remembers account type r self)
    (hselected : self'.selectedSession = self.selectedSession)
    (hsaved : self'.savedSession = self.savedSession)
    (hsavedType : self'.savedSessionType = self.savedSessionType)
    (hsessionType : self'.sessionType = self.sessionType)
    (hfallback : self'.fallbackSessionName = self.fallbackSessionName) :
    Remembers account type r self' where
  selectedSession := hselected.trans h.selectedSession
  savedSession := by
    rw [hsaved]
    exact h.savedSession
  savedSessionType := by
    rw [hsavedType]
    exact h.savedSessionType
  typed := by
    rw [hsavedType]
    exact h.typed
  known := h.known
  named := by
    rw [hsaved, hsessionType, hfallback]
    exact h.named

theorem StillInstalled.initializeConversation
    (h : self.StillInstalled installed account type) (serviceName : String) :
    (self.initializeConversation serviceName).StillInstalled installed account type where
  usable := h.usable
  supported := h.supported
  fallback := by
    have hfallback := h.fallback
    rw [getFallbackSessionName_eq, Option.isSome_map] at hfallback ⊢
    exact hfallback
  found := h.found

/-! ## What is read -/

/-- A name that can be used is in force once it has been read, and the type is the one that
has been read, or is found for the name. -/
theorem workerOnSavedSessionNameRead_read {name type : String}
    (hselected : self.selectedSession = none)
    (hsaved : self.savedSession = none ∨ self.savedSession = some name)
    (hfallback : (self.getFallbackSessionName installed).isSome = true)
    (husable : self.isUsable installed name self.savedSessionType = true)
    (htype : self.savedSessionType.getD (self.typeFor installed name) = type) :
    ∃ saved fallback, self.workerOnSavedSessionNameRead installed name =
        some { self with
          savedSession := saved
          sessionType := some type
          fallbackSessionName := fallback } ∧
      (saved = some name ∨ saved = none ∧ fallback = some name) := by
  -- the name is saved, or is that of the fallback
  obtain ⟨default, named, hdefault, saved, fallback, hread, hkept⟩ :
      ∃ default named, self.getDefaultSessionName installed = some (default, named) ∧
        ∃ saved fallback, (if name ≠ default then
            { named with savedSession := some name } else named) =
          ({ self with
            savedSession := saved
            fallbackSessionName := fallback } : SessionChoice) ∧
          (saved = some name ∨ saved = none ∧ fallback = some name ∧
            self.isUsable installed name none = true) := by
    unfold getDefaultSessionName
    rcases hsaved with hsaved | hsaved
    · obtain ⟨⟨default, named⟩, hdefault⟩ := Option.isSome_iff_exists.mp hfallback
      obtain ⟨hfound, rfl⟩ := getFallbackSessionName_spec hdefault
      rw [hsaved]
      refine ⟨default, _, hdefault, ?_⟩
      by_cases hequal : name = default
      · subst hequal
        refine ⟨none, some name, ?_, .inr ⟨rfl, rfl, hfound⟩⟩
        rw [if_neg (not_not.mpr rfl), ← hsaved]
      · exact ⟨some name, some default, if_pos hequal, .inl rfl⟩
    · rw [hsaved]
      refine ⟨name, self, rfl, some name, self.fallbackSessionName, ?_, .inl rfl⟩
      rw [if_neg (not_not.mpr rfl), ← hsaved]
  obtain ⟨read, hdef⟩ : ∃ read : SessionChoice,
      read = { self with savedSession := saved, fallbackSessionName := fallback } := ⟨_, rfl⟩
  have htyped : read.savedSessionType = self.savedSessionType := by rw [hdef]
  have hset : ∀ found, some (read.setSessionType found) = some { self with
      savedSession := saved
      sessionType := some found
      fallbackSessionName := fallback } := by
    intro found
    rw [hdef]
    rfl
  refine ⟨saved, fallback, ?_, hkept.imp_right fun h => ⟨h.1, h.2.1⟩⟩
  unfold workerOnSavedSessionNameRead
  rw [if_pos husable, hdefault, Option.bind_some]
  dsimp only
  rw [hread, ← hdef, htyped, ← hset]
  cases hpresent : self.savedSessionType with
  | some present =>
    rw [hpresent] at htype
    obtain rfl : present = type := htype
    rfl
  | none =>
    rw [hpresent, Option.getD_none] at htype
    have hname : read.getSessionName installed = some (name, read) := by
      apply getSessionName_of_read (by rw [hdef]; exact hselected)
      rw [hdef]
      exact hkept
    have hfound : read.typeFor installed name = type := by
      rw [hdef]
      exact htype
    dsimp only
    rw [updateSessionType_read hname, hfound]

/-! ## Events -/

/-- Nothing is selected, and nothing else is heard of a saved session than what is saved. -/
def LeavesSaved (self : SessionChoice) (account : Account) : ChoiceEvent → Prop
  | .selectSession _ => self.isRunning = true
  | .savedSessionTypeRead type => type ≠ "" ∧ type = account.sessionType
  | .savedSessionNameRead name => name = account.sessionName
  | _ => True

instance (choice : SessionChoice) (account : Account) (event : ChoiceEvent) :
    Decidable (choice.LeavesSaved account event) := by
  unfold LeavesSaved
  split <;> infer_instance

theorem Remembers.forget (hselected : self.selectedSession = none)
    (hsaved : self.savedSession = none)
    (hsavedType : self.savedSessionType = none ∨
      account.sessionType ≠ "" ∧ self.savedSessionType = some account.sessionType)
    (r : Reading) : Remembers account type r.forget self :=
  ⟨hselected, .inl hsaved, hsavedType, nofun, nofun, nofun⟩

/-- A conversation is set up; the type may be found anew. -/
theorem Remembers.handleSetup (h : Remembers account type r self)
    (htype : account.sessionType ≠ "" → type = some account.sessionType) {serviceName : String}
    (hself : self.setup installed serviceName = some self') :
    Remembers account type (r.step self installed account type (.setup serviceName)) self' := by
  unfold SessionChoice.setup at hself
  obtain ⟨updated, hupdate, hself⟩ := Option.bind_eq_some_iff.mp hself
  rcases r.retype_cases (self.StillInstalled installed account type ∧
      type = some (self.typeFor installed account.sessionName)) with
    ⟨hnamed, hsame, hr⟩ | ⟨hnamed, htyped⟩
  · obtain ⟨hstill, hfound⟩ := of_decide_eq_true hsame
    rw [h.updateSessionType htype hstill hnamed hfound] at hupdate
    obtain rfl := Option.some.inj hupdate
    have hset : Remembers account type r (self.initializeConversation serviceName) :=
      h.congr rfl rfl rfl rfl rfl
    rw [hset.defaultsChanged htype (hstill.initializeConversation serviceName) hnamed hfound]
      at hself
    obtain rfl := Option.some.inj hself
    rw [Reading.step, hr]
    exact hset
  · obtain ⟨-, _, _, rfl⟩ := updateSessionType_spec hupdate
    obtain ⟨_, _, rfl⟩ := defaultsChanged_eq hself
    exact h.unnamed rfl rfl rfl htyped hnamed

/-- The user of a worker is another one, or the same. -/
theorem Remembers.handleUsernameChanged (h : Remembers account type r self)
    (htype : account.sessionType ≠ "" → type = some account.sessionType) {username : String}
    (hself : self.workerOnUsernameChanged installed username = some self') :
    Remembers account type (r.step self installed account type (.usernameChanged username))
      self' := by
  unfold workerOnUsernameChanged at hself
  rw [Reading.step]
  cases hempty : username.isEmpty with
  | false =>
    rw [hempty, if_neg Bool.false_ne_true] at hself
    obtain ⟨_, _, rfl⟩ := defaultsChanged_eq hself
    refine Remembers.forget ?_ rfl (.inl rfl) r
    exact h.selectedSession
  | true =>
    rw [hempty, if_pos rfl] at hself
    rcases r.retype_cases (self.StillInstalled installed account type ∧
        type = some (self.typeFor installed account.sessionName)) with
      ⟨hnamed, hsame, hr⟩ | ⟨hnamed, htyped⟩
    · obtain ⟨hstill, hfound⟩ := of_decide_eq_true hsame
      rw [h.defaultsChanged htype hstill hnamed hfound] at hself
      obtain rfl := Option.some.inj hself
      rw [if_pos rfl, hr]
      exact h
    · obtain ⟨_, _, rfl⟩ := defaultsChanged_eq hself
      exact h.unnamed rfl rfl rfl htyped hnamed

/-- The type is read. -/
theorem Remembers.handleSavedSessionTypeRead (h : Remembers account type r self)
    (hset : account.sessionType ≠ "") :
    Remembers account type { r with typed := true }
      (self.workerOnSavedSessionTypeRead account.sessionType) :=
  ⟨h.selectedSession, h.savedSession, .inr ⟨hset, rfl⟩, fun _ => rfl, fun _ => .inr rfl, h.named⟩

/-- The name is read: what is saved is in force when the type is known and the file is there. -/
theorem Remembers.handleSavedSessionNameRead (h : Remembers account type r self)
    (htype : account.sessionType ≠ "" → type = some account.sessionType)
    (hself : self.workerOnSavedSessionNameRead installed account.sessionName = some self') :
    Remembers account type
      (r.step self installed account type (.savedSessionNameRead account.sessionName)) self' := by
  rw [Reading.step]
  by_cases hknown : account.sessionType = "" ∨ r.typed = true
  · by_cases hstill : self.StillInstalled installed account type
    · obtain ⟨present, hpresent⟩ := hstill.exists_type htype
      obtain ⟨husable, hfound⟩ : self.isUsable installed account.sessionName
            self.savedSessionType = true ∧
          self.savedSessionType.getD (self.typeFor installed account.sessionName) =
            present := by
        rcases hknown with hempty | htyped
        · have hnone : self.savedSessionType = none :=
            h.savedSessionType.resolve_right fun hset => hset.1 hempty
          obtain ⟨husable, hfound⟩ := hstill.found hempty
          rw [hnone]
          exact ⟨husable, Option.some.inj (hfound.symm.trans hpresent)⟩
        · have hsavedType := h.typed htyped
          have hset : account.sessionType ≠ "" := by
            rcases h.savedSessionType with hnone | hset
            · cases hnone.symm.trans hsavedType
            · exact hset.1
          have husable := hstill.usable
          rw [htype hset] at husable hpresent
          rw [hsavedType]
          exact ⟨husable, Option.some.inj hpresent⟩
      obtain ⟨saved, fallback, hread, hkept⟩ := workerOnSavedSessionNameRead_read
        h.selectedSession h.savedSession hstill.fallback husable hfound
      obtain rfl := Option.some.inj (hread.symm.trans hself)
      rw [if_pos hknown, decide_eq_true hstill]
      refine ⟨h.selectedSession, ?_, h.savedSessionType, h.typed, fun _ => hknown, fun _ => ?_⟩
      · exact hkept.symm.imp And.left id
      · exact ⟨hpresent.symm, hkept.imp_right And.right⟩
    · obtain ⟨saved, _, _, rfl, hkept⟩ := workerOnSavedSessionNameRead_spec hself
      rw [if_pos hknown, decide_eq_false hstill]
      refine ⟨h.selectedSession, ?_, h.savedSessionType, h.typed, nofun, nofun⟩
      rcases hkept with rfl | rfl | rfl
      · exact .inl rfl
      · exact h.savedSession
      · exact .inr rfl
  · obtain ⟨saved, _, _, rfl, hkept⟩ := workerOnSavedSessionNameRead_spec hself
    rw [if_neg hknown]
    refine ⟨h.selectedSession, ?_, h.savedSessionType, h.typed,
      fun hnamed => absurd (h.known hnamed) hknown, fun hnamed => absurd (h.known hnamed) hknown⟩
    rcases hkept with rfl | rfl | rfl
    · exact .inl rfl
    · exact h.savedSession
    · exact .inr rfl

/-- A start leaves what has been read. -/
theorem Remembers.handleStartSession (h : Remembers account type r self)
    (htype : account.sessionType ≠ "" → type = some account.sessionType)
    (hstill : self.StillInstalled installed account type) (hnamed : r.named = true)
    {serviceName : String} (hself : self.startSession installed serviceName = some self') :
    Remembers account type r self' := by
  unfold SessionChoice.startSession at hself
  split at hself
  · split at hself
    · obtain rfl := Option.some.inj hself
      exact h
    · obtain ⟨name, named, _, _, hname, _, _, rfl⟩ := startProgram_spec hself
      rw [h.getSessionName htype hstill hnamed] at hname
      obtain ⟨rfl, rfl⟩ := Prod.mk.inj (Option.some.inj hname)
      exact h.congr rfl rfl rfl rfl rfl
  · obtain rfl := Option.some.inj hself
    exact h

/-- What every event leaves of what has been read. -/
theorem Remembers.handleEvent (h : Remembers account type r self)
    (htype : account.sessionType ≠ "" → type = some account.sessionType) {event : ChoiceEvent}
    (hleaves : self.LeavesSaved account event)
    (hstarts : ∀ serviceName, event = .startSession serviceName →
      self.StillInstalled installed account type ∧ r.named = true)
    (hself : self.handleEvent installed event = some self') :
    Remembers account type (r.step self installed account type event) self' := by
  cases event with
  | setup serviceName => exact h.handleSetup htype hself
  | setupForUser serviceName username =>
    have hsetup : self.setupForUser installed serviceName username = some self' := hself
    unfold SessionChoice.setupForUser at hsetup
    obtain ⟨updated, hupdate, hsetup⟩ := Option.bind_eq_some_iff.mp hsetup
    obtain ⟨-, _, _, rfl⟩ := updateSessionType_spec hupdate
    obtain ⟨_, _, rfl⟩ := defaultsChanged_eq hsetup
    refine Remembers.forget ?_ rfl (.inl rfl) r
    exact h.selectedSession
  | selectUser username =>
    obtain rfl := Option.some.inj hself
    refine Remembers.forget ?_ rfl (.inl rfl) r
    exact h.selectedSession
  | usernameChanged username => exact h.handleUsernameChanged htype hself
  | savedSessionTypeRead text =>
    obtain ⟨hne, rfl⟩ := hleaves
    obtain rfl := Option.some.inj hself
    exact h.handleSavedSessionTypeRead hne
  | savedSessionNameRead name =>
    obtain rfl : name = account.sessionName := hleaves
    exact h.handleSavedSessionNameRead htype hself
  | selectSession name =>
    have hrunning : self.isRunning = true := hleaves
    have hselect : self.handleClientSelectSession installed name = some self' := hself
    unfold handleClientSelectSession at hselect
    rw [if_pos hrunning] at hselect
    obtain rfl := Option.some.inj hselect
    exact h
  | openSession serviceName =>
    obtain rfl := Option.some.inj hself
    exact h.congr rfl rfl rfl rfl rfl
  | startSession serviceName =>
    obtain ⟨hstill, hnamed⟩ := hstarts serviceName rfl
    exact h.handleStartSession htype hstill hnamed hself
  | programStarted serviceName =>
    obtain rfl := Option.some.inj hself
    exact h.congr rfl rfl rfl rfl rfl
  | sessionExited =>
    obtain rfl := Option.some.inj hself
    exact h.congr rfl rfl rfl rfl rfl
  | reset =>
    obtain rfl := Option.some.inj hself
    refine Remembers.forget rfl rfl ?_ r
    exact h.savedSessionType

end SessionChoice

end Gdm
