import Gdm.Choice.Names

/-!
# Starting a session that is not there

The name of the session is taken as it was selected in the greeter, or as it was saved
with the account, and its file is looked up when the session is started.  Only for the
fallback are other names tried.  Without a command the process exits.
-/

namespace Gdm

namespace SessionChoice

variable {self self' : SessionChoice} {installed : Installed} {name serviceName : String}

/-- The session that was selected, or else the one that was saved. -/
def chosenSession (self : SessionChoice) : Option String :=
  self.selectedSession.or self.savedSession

/-- At least one session with a command is installed. -/
def HasSession (self : SessionChoice) (installed : Installed) : Prop :=
  self.discoveredSessions installed ≠ []

instance decidableHasSession (self : SessionChoice) (installed : Installed) :
    Decidable (self.HasSession installed) :=
  inferInstanceAs (Decidable (self.discoveredSessions installed ≠ []))

/-- The process is there after the start, and what it runs is the command of a session
that is installed. -/
def StartsSafely (self : SessionChoice) (installed : Installed) (serviceName : String) : Prop :=
  ∃ self', self.startSession installed serviceName = some self' ∧
    ∀ session ∈ self'.started, session ∈ self.started ∨
      ∃ name, self.getSessionCommandForName installed name none = some session.command

theorem isUsable_of_mem_discovered (h : name ∈ self.discoveredSessions installed) :
    self.isUsable installed name none = true := by
  obtain ⟨baseName, _, hbase⟩ := List.mem_filterMap.mp h
  obtain ⟨hname, hcommand⟩ := Option.filter_eq_some_iff.mp hbase
  unfold isUsable getSessionCommandForName
  rw [← desktopName_eq hname]
  exact hcommand

/-- The fallback has a command, and is remembered. -/
theorem getFallbackSessionName_spec
    (h : self.getFallbackSessionName installed = some (name, self')) :
    self.isUsable installed name none = true ∧
      self' = { self with fallbackSessionName := some name } := by
  unfold getFallbackSessionName at h
  split at h
  · rename_i cached hcached
    obtain ⟨hname, hself⟩ := Prod.mk.inj (Option.some.inj h)
    subst hname hself
    obtain ⟨hfallback, husable⟩ := Option.filter_eq_some_iff.mp hcached
    exact ⟨husable, by rw [← hfallback]⟩
  · obtain ⟨found, hfound, hpair⟩ := Option.map_eq_some_iff.mp h
    obtain ⟨hname, hself⟩ := Prod.mk.inj hpair
    subst hname hself
    refine ⟨?_, rfl⟩
    split at hfound
    · rename_i hconfigured
      rw [← Option.some.inj hfound]
      exact hconfigured
    · exact isUsable_of_mem_discovered (mem_of_leastName hfound)

theorem getFallbackSessionName_isSome (h : self.HasSession installed) :
    (self.getFallbackSessionName installed).isSome = true := by
  unfold getFallbackSessionName
  split
  · rfl
  · rw [Option.isSome_map]
    split
    · rfl
    · exact leastName_isSome h

/-- The name of the session is the one that was chosen, or a fallback with a command. -/
theorem getSessionName_of_chosen (h : self.chosenSession = some name) :
    self.getSessionName installed = some (name, self) := by
  unfold chosenSession at h
  unfold getSessionName getDefaultSessionName
  cases hselected : self.selectedSession with
  | some selected =>
    rw [hselected] at h
    obtain rfl := Option.some.inj h
    rfl
  | none =>
    rw [hselected, Option.none_or] at h
    simp only [h]

theorem getSessionName_of_not_chosen (h : self.chosenSession = none) :
    self.getSessionName installed = self.getFallbackSessionName installed := by
  obtain ⟨hselected, hsaved⟩ := Option.or_eq_none_iff.mp h
  unfold getSessionName getDefaultSessionName
  rw [hselected, hsaved]

/-- Only the fallback is remembered when the name is found. -/
theorem getSessionName_spec (h : self.getSessionName installed = some (name, self')) :
    ∃ fallback, self' = { self with fallbackSessionName := fallback } := by
  cases hchosen : self.chosenSession with
  | some chosen =>
    rw [getSessionName_of_chosen hchosen] at h
    obtain ⟨-, rfl⟩ := Prod.mk.inj (Option.some.inj h)
    exact ⟨self.fallbackSessionName, rfl⟩
  | none =>
    rw [getSessionName_of_not_chosen hchosen] at h
    obtain ⟨-, rfl⟩ := getFallbackSessionName_spec h
    exact ⟨some name, rfl⟩

/-- Once the name is there it is found again. -/
theorem getSessionName_again (h : self.getSessionName installed = some (name, self')) :
    self'.getSessionName installed = some (name, self') := by
  cases hchosen : self.chosenSession with
  | some chosen =>
    rw [getSessionName_of_chosen hchosen] at h
    obtain ⟨rfl, rfl⟩ := Prod.mk.inj (Option.some.inj h)
    exact getSessionName_of_chosen hchosen
  | none =>
    rw [getSessionName_of_not_chosen hchosen] at h
    obtain ⟨husable, rfl⟩ := getFallbackSessionName_spec h
    have hremembered : ({ self with
        fallbackSessionName := some name } : SessionChoice).chosenSession = none := hchosen
    rw [getSessionName_of_not_chosen hremembered]
    unfold getFallbackSessionName
    have hfilter : (Option.filter (fun n => ({ self with
        fallbackSessionName := some name } : SessionChoice).isUsable installed n none)
          (some name)) = some name := by
      rw [Option.filter_eq_some_iff]
      exact ⟨rfl, husable⟩
    rw [hfilter]

theorem chooseWrapper_isSome (h : self.getSessionName installed = some (name, self)) :
    ∃ wrapper, self.chooseWrapper installed = some (wrapper, self) := by
  unfold chooseWrapper
  split
  · unfold sessionRegisters
    rw [h]
    exact ⟨_, rfl⟩
  · exact ⟨_, rfl⟩

/-- The program can be built just when there is a command for the name of the session. -/
theorem startProgram_isSome_iff (sentType : Option String)
    (h : self.getSessionName installed = some (name, self')) :
    (self.startProgram installed serviceName sentType).isSome = true ↔
      self'.isUsable installed name none = true := by
  obtain ⟨wrapper, hwrapper⟩ := chooseWrapper_isSome (getSessionName_again h)
  unfold startProgram getSessionCommand isUsable
  rw [h, Option.bind_some]
  dsimp only
  cases self'.getSessionCommandForName installed name none with
  | none => simp
  | some command => simp [hwrapper]

/-- What is started has the name, the command and the wrapper of the session. -/
theorem startProgram_spec {sentType : Option String} {started : SessionChoice}
    (h : self.startProgram installed serviceName sentType = some started) :
    ∃ name named command wrapper, self.getSessionName installed = some (name, named) ∧
      named.getSessionCommandForName installed name none = some command ∧
      named.chooseWrapper installed = some (wrapper, named) ∧
      started = { named with
        conversations := named.conversations.filter fun entry => entry.1 = serviceName
        started := named.started ++
          [{ serviceName := serviceName
             sentType := sentType
             sessionType := named.sessionType
             path := self.commandPath installed
             wrapper := wrapper
             command := command }] } := by
  unfold startProgram getSessionCommand at h
  obtain ⟨⟨command, named⟩, hcommand, h⟩ := Option.bind_eq_some_iff.mp h
  obtain ⟨⟨name, named'⟩, hname, hcommand⟩ := Option.bind_eq_some_iff.mp hcommand
  obtain ⟨found, hfound, hpair⟩ := Option.map_eq_some_iff.mp hcommand
  obtain ⟨rfl, rfl⟩ := Prod.mk.inj hpair
  obtain ⟨⟨wrapper, wrapped⟩, hwrapper, rfl⟩ := Option.map_eq_some_iff.mp h
  obtain ⟨wrapper', hwrapper'⟩ := chooseWrapper_isSome (getSessionName_again hname)
  obtain ⟨rfl, rfl⟩ := Prod.mk.inj (Option.some.inj (hwrapper'.symm.trans hwrapper))
  exact ⟨name, _, _, wrapper', hname, hfound, hwrapper, rfl⟩

/-- The program that is built has the command of the session. -/
theorem startProgram_started {sentType : Option String} {started : SessionChoice}
    (h : self.startProgram installed serviceName sentType = some started)
    {session : StartedSession} (hsession : session ∈ started.started) :
    session ∈ self.started ∨
      ∃ name, self.getSessionCommandForName installed name none = some session.command := by
  obtain ⟨name, named, command, wrapper, hname, hfound, _, rfl⟩ := startProgram_spec h
  obtain ⟨fallback, rfl⟩ := getSessionName_spec hname
  rcases List.mem_append.mp hsession with hold | hnew
  · exact .inl hold
  · obtain rfl := List.mem_singleton.mp hnew
    exact .inr ⟨name, hfound⟩

/-- With a session installed, the start of a session leaves the process there just when
the session that was selected, or else saved, has a command. -/
theorem startsSafely_iff (hsession : self.HasSession installed) (serviceName : String) :
    self.StartsSafely installed serviceName ↔
      (self.sessionConversation = none → self.conversations.lookup serviceName ≠ none →
        ∀ name, self.chosenSession = some name → self.isUsable installed name none = true) := by
  unfold StartsSafely startSession
  by_cases hfree : self.sessionConversation = none
  · rw [if_pos hfree]
    cases hentry : self.conversations.lookup serviceName with
    | none =>
      exact iff_of_true ⟨self, rfl, fun _ h => .inl h⟩ fun _ hnone => absurd rfl hnone
    | some sentType =>
      obtain ⟨name, self', hname⟩ : ∃ name self', self.getSessionName installed =
          some (name, self') := by
        cases hchosen : self.chosenSession with
        | some chosen => exact ⟨_, _, getSessionName_of_chosen hchosen⟩
        | none =>
          rw [getSessionName_of_not_chosen hchosen]
          obtain ⟨⟨name, self'⟩, hfound⟩ :=
            Option.isSome_iff_exists.mp (getFallbackSessionName_isSome hsession)
          exact ⟨name, self', hfound⟩
      have hbuilt : (self.startProgram installed serviceName sentType).isSome = true ↔
          self'.isUsable installed name none = true := startProgram_isSome_iff sentType hname
      have husable : self'.isUsable installed name none = true ↔
          ∀ chosen, self.chosenSession = some chosen →
            self.isUsable installed chosen none = true := by
        cases hchosen : self.chosenSession with
        | some chosen =>
          rw [getSessionName_of_chosen hchosen] at hname
          obtain ⟨rfl, rfl⟩ := Prod.mk.inj (Option.some.inj hname)
          simp
        | none =>
          rw [getSessionName_of_not_chosen hchosen] at hname
          obtain ⟨hfallback, rfl⟩ := getFallbackSessionName_spec hname
          exact iff_of_true hfallback (fun _ h => nomatch h)
      dsimp only
      constructor
      · rintro ⟨started, hstarted, _⟩ _ _
        refine husable.mp (hbuilt.mp ?_)
        rw [hstarted]
        rfl
      · intro h
        obtain ⟨started, hstarted⟩ := Option.isSome_iff_exists.mp
          (hbuilt.mpr (husable.mpr (h hfree (Option.some_ne_none sentType))))
        exact ⟨started, hstarted, fun session hs => startProgram_started hstarted hs⟩
  · rw [if_neg hfree]
    exact iff_of_true ⟨self, rfl, fun _ h => .inl h⟩ fun h => absurd h hfree

/-- The greeter selects a session that there is no file for. -/
def missingSession : SessionChoice :=
  machine.run {} ((login [.selectSession "missing"]).take 3)

/-- The process ends when the session is started. -/
theorem missingSession_not_safe :
    missingSession.HasSession gnomeFiles ∧
      ¬ missingSession.StartsSafely gnomeFiles "gdm-password" := by
  refine ⟨by decide +kernel, ?_⟩
  rintro ⟨started, hstarted, _⟩
  have hnone : missingSession.startSession gnomeFiles "gdm-password" = none := by
    decide +kernel
  rw [hnone] at hstarted
  cases hstarted

theorem startsSafely_iff_gnome :
    (machine.run {} (login [.selectSession "gnome"])).StartsSafely gnomeFiles "gdm-password" ↔
      ((machine.run {} (login [.selectSession "gnome"])).sessionConversation = none →
        (machine.run {} (login [.selectSession "gnome"])).conversations.lookup
          "gdm-password" ≠ none →
        ∀ name, (machine.run {} (login [.selectSession "gnome"])).chosenSession = some name →
          (machine.run {} (login [.selectSession "gnome"])).isUsable gnomeFiles name none =
            true) :=
  startsSafely_iff (by decide +kernel) "gdm-password"

end SessionChoice

end Gdm
