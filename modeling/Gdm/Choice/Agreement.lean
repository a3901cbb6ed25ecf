import Gdm.Choice.Failure

/-!
# Agreement of the type of a session and its file

The type of a session is found with the file of the session, and then kept by itself.
It is found anew when a session is selected, and set to the type that is saved with the
account when a saved session is read, whatever file there is for the name.
-/

namespace Gdm

/-- What the path of a session file says about its type. -/
def pathType (path : String) : String :=
  if isWaylandPath path then "wayland" else "x11"

/-- The wrapper, the type that the session was opened with and the file agree. -/
structure StartedSession.Agrees (session : StartedSession) : Prop where
  sessionType : session.sessionType = some (pathType session.path)
  sentType : ∀ type, session.sentType = some type → type = pathType session.path
  wrapper : (∃ handlesRegistration, session.wrapper = .wayland handlesRegistration) ↔
    pathType session.path = "wayland"

namespace SessionChoice

variable {self self' : SessionChoice} {installed : Installed} {name serviceName : String}

/-- The type that is found with the file of a session. -/
def foundType (self : SessionChoice) (installed : Installed) (name : String) : String :=
  if self.isWaylandSession installed name then "wayland" else "x11"

/-- The name of the session, as long as the fallback is the one that is remembered. -/
def nameInForce (self : SessionChoice) : Option String :=
  self.chosenSession.or self.fallbackSessionName

/-- The type that goes with the name. -/
def typeInForce (self : SessionChoice) (installed : Installed) : Option String :=
  if self.supportsSessionType (some "wayland") then
    self.nameInForce.map (self.foundType installed)
  else some "x11"

/-- The type of the session is the one that goes with its name. -/
def Synced (self : SessionChoice) (installed : Installed) : Prop :=
  ∃ type, self.sessionType = some type ∧ self.typeInForce installed = some type

/-- A conversation has been sent the type of the session. -/
def Opened (self : SessionChoice) : Prop :=
  ∃ entry ∈ self.conversations, entry.2 ≠ none

/-- The name of the fallback. -/
def fallbackFound (self : SessionChoice) (installed : Installed) : Option String :=
  (self.fallbackSessionName.filter fun name => self.isUsable installed name none).or
    (if self.isUsable installed installed.fallbackName none then some installed.fallbackName
    else leastName (self.discoveredSessions installed))

/-- The fallback has a command when the session gets the type of the fallback as well: on
a remote display a fallback for Wayland can run headless. -/
def FallbackStays (self : SessionChoice) (installed : Installed) : Prop :=
  self.supportsSessionType (some "wayland") = true →
    ∀ name, self.fallbackFound installed = some name →
      (self.setSessionType (self.foundType installed name)).isUsable installed name none = true

/-- What an event must not do to the choice, in terms of what is there before: give up a
session without finding the type anew, or read a saved session with a type other than
that of its file. -/
def Heeds (self : SessionChoice) (installed : Installed) : ChoiceEvent → Prop
  | .setup _ => self.chosenSession = none → self.FallbackStays installed
  | .setupForUser _ _ => self.selectedSession = none → ∀ updated,
      self.updateSessionType installed = some updated → updated.FallbackStays installed
  | .selectUser _ => self.conversations ≠ [] → self.selectedSession = none →
      self.savedSession ≠ none → ({ self with
        savedSession := none } : SessionChoice).Synced installed
  | .usernameChanged username =>
      (if username.isEmpty then self.chosenSession else self.selectedSession) = none →
        self.FallbackStays installed
  | .savedSessionNameRead name => self.supportsSessionType (some "wayland") = true →
      ∀ type, self.savedSessionType = some type →
        self.isUsable installed name (some type) = true →
          self.foundType installed (self.selectedSession.getD name) = type
  | .startSession _ =>
      if self.supportsSessionType (some "wayland") = true then
        self.chosenSession = none →
          self.fallbackSessionName.any (fun name => self.isUsable installed name none) = true
      else isWaylandPath (self.commandPath installed) = false
  | _ => True

/-- An event of a run in which types and files agree: it keeps the type that a
conversation has been sent. -/
structure Harmless (choice : SessionChoice) (installed : Installed) (event : ChoiceEvent) :
    Prop where
  heeds : choice.Heeds installed event
  keeps : choice.Opened → ∀ choice', choice.handleEvent installed event = some choice' →
    choice'.sessionType = choice.sessionType

/-! ## The fallback -/

theorem getFallbackSessionName_eq :
    self.getFallbackSessionName installed = (self.fallbackFound installed).map fun name =>
      (name, { self with fallbackSessionName := some name }) := by
  unfold getFallbackSessionName fallbackFound
  split
  · rename_i name hcached
    obtain ⟨hfallback, _⟩ := Option.filter_eq_some_iff.mp hcached
    rw [hcached, Option.some_or, Option.map_some, ← hfallback]
  · rename_i hcached
    rw [hcached, Option.none_or]

/-- A fallback that is remembered and has a command is found again. -/
theorem fallbackFound_of_remembered
    (h : self.fallbackSessionName.any (fun name => self.isUsable installed name none) = true) :
    self.fallbackFound installed = self.fallbackSessionName := by
  unfold fallbackFound
  cases hcached : self.fallbackSessionName with
  | none =>
    rw [hcached] at h
    cases h
  | some name =>
    rw [hcached, Option.any_some] at h
    simp [Option.filter, h]

/-! ## Finding the type -/

/-- The type of the name in force is set. -/
theorem synced_foundType (hsupported : self.supportsSessionType (some "wayland") = true)
    (hforce : self.nameInForce = some name) :
    (self.setSessionType (self.foundType installed name)).Synced installed := by
  refine ⟨self.foundType installed name, rfl, ?_⟩
  have hforce' : (self.setSessionType (self.foundType installed name)).nameInForce = some name :=
    hforce
  have hsupported' : (self.setSessionType
      (self.foundType installed name)).supportsSessionType (some "wayland") = true := hsupported
  unfold typeInForce
  rw [if_pos hsupported', hforce']
  rfl

/-- Without Wayland a session is only found as one for X11. -/
theorem eq_x11_of_isUsable (hunsupported : self.supportsSessionType (some "wayland") ≠ true)
    {type : String} (h : self.isUsable installed name (some type) = true) : type = "x11" := by
  have hdirs : installed.getSystemSessionDirs self.supportedSessionTypes (some type) ≠ [] := by
    intro hnone
    simp [isUsable, getSessionCommandForName, getSessionCommandForFile,
      Installed.loadKeyFileForFile, hnone] at h
  by_contra hother
  refine hdirs (List.flatMap_eq_nil_iff.mpr fun supported hmem => ?_)
  have hwayland : supported ≠ "wayland" := by
    rintro rfl
    exact hunsupported (by simp [supportsSessionType, hmem])
  have hx11 : ¬ (supported = "x11" ∧ type = supported) := by
    rintro ⟨rfl, rfl⟩
    exact hother rfl
  simpa [hwayland] using hx11

/-- Without Wayland there is but one type. -/
theorem synced_x11 (hunsupported : self.supportsSessionType (some "wayland") ≠ true) :
    (self.setSessionType "x11").Synced installed := by
  have hunsupported' : (self.setSessionType "x11").supportsSessionType (some "wayland") ≠ true :=
    hunsupported
  refine ⟨"x11", rfl, ?_⟩
  unfold typeInForce
  rw [if_neg hunsupported']

/-- The type is found with the name, and nothing else changes but the fallback that is
remembered. -/
theorem updateSessionType_spec (h : self.updateSessionType installed = some self') :
    self'.Synced installed ∧ ∃ type fallback, self' =
      { self with sessionType := some type, fallbackSessionName := fallback } := by
  unfold updateSessionType at h
  split at h
  · rename_i hsupported
    obtain ⟨⟨name, named⟩, hname, hself⟩ := Option.map_eq_some_iff.mp h
    dsimp only at hself
    subst hself
    cases hchosen : self.chosenSession with
    | some chosen =>
      rw [getSessionName_of_chosen hchosen] at hname
      obtain ⟨rfl, rfl⟩ := Prod.mk.inj (Option.some.inj hname)
      have hforce : self.nameInForce = some chosen := by
        unfold nameInForce
        rw [hchosen, Option.some_or]
      exact ⟨synced_foundType hsupported hforce, _, self.fallbackSessionName, rfl⟩
    | none =>
      rw [getSessionName_of_not_chosen hchosen] at hname
      obtain ⟨-, rfl⟩ := getFallbackSessionName_spec hname
      have hforce : ({ self with
          fallbackSessionName := some name } : SessionChoice).nameInForce = some name := by
        show self.chosenSession.or (some name) = some name
        rw [hchosen, Option.none_or]
      exact ⟨synced_foundType hsupported hforce, _, some name, rfl⟩
  · rename_i hunsupported
    obtain rfl := Option.some.inj h
    exact ⟨synced_x11 hunsupported, "x11", self.fallbackSessionName, rfl⟩

/-- A fallback that is in force is still there when its type has been found. -/
theorem FallbackStays.updated (h : self.FallbackStays installed)
    (hsupported : self.supportsSessionType (some "wayland") = true)
    (hchosen : self.chosenSession = none)
    (hupdate : self.updateSessionType installed = some self') :
    ∃ name, self' = ({ self with
        fallbackSessionName := some name } : SessionChoice).setSessionType
          (self.foundType installed name) ∧
      self'.fallbackFound installed = some name ∧ self'.FallbackStays installed := by
  unfold updateSessionType at hupdate
  rw [if_pos hsupported] at hupdate
  obtain ⟨⟨name, named⟩, hname, hself⟩ := Option.map_eq_some_iff.mp hupdate
  dsimp only at hself
  rw [getSessionName_of_not_chosen hchosen, getFallbackSessionName_eq] at hname
  obtain ⟨found, hfound, hpair⟩ := Option.map_eq_some_iff.mp hname
  obtain ⟨rfl, rfl⟩ := Prod.mk.inj hpair
  have husable := h hsupported found hfound
  have hagain : self'.fallbackFound installed = some found := by
    subst hself
    exact fallbackFound_of_remembered husable
  refine ⟨found, hself.symm, hagain, ?_⟩
  intro _ name hname
  obtain rfl := Option.some.inj (hagain.symm.trans hname)
  subst hself
  exact husable

/-- The fallback that is remembered does not matter when it is not in force. -/
theorem Synced.remember (h : self.Synced installed) {fallback : Option String}
    (hforce : self.supportsSessionType (some "wayland") = true →
      self.selectedSession = none → self.savedSession = none →
        fallback = self.fallbackSessionName) :
    ({ self with fallbackSessionName := fallback } : SessionChoice).Synced installed := by
  obtain ⟨type, htype, hinforce⟩ := h
  refine ⟨type, htype, ?_⟩
  rw [← hinforce]
  unfold typeInForce
  by_cases hsupported : self.supportsSessionType (some "wayland") = true
  · have hsupported' : ({ self with
        fallbackSessionName := fallback } : SessionChoice).supportsSessionType
          (some "wayland") = true := hsupported
    rw [if_pos hsupported, if_pos hsupported']
    have hname : ({ self with fallbackSessionName := fallback } : SessionChoice).nameInForce =
        self.nameInForce := by
      show (self.selectedSession.or self.savedSession).or fallback =
        (self.selectedSession.or self.savedSession).or self.fallbackSessionName
      cases hselected : self.selectedSession with
      | some name => rfl
      | none =>
        cases hsaved : self.savedSession with
        | some name => rfl
        | none => rw [hforce hsupported hselected hsaved]
    rw [hname]
    rfl
  · have hunsupported : ¬ ({ self with
        fallbackSessionName := fallback } : SessionChoice).supportsSessionType
          (some "wayland") = true := hsupported
    rw [if_neg hsupported, if_neg hunsupported]

theorem defaultsChanged_spec
    (hstays : self.chosenSession = none → self.FallbackStays installed)
    (h : self.defaultsChanged installed = some self') :
    self'.Synced installed ∧ ∃ type fallback, self' =
      { self with sessionType := some type, fallbackSessionName := fallback } := by
  unfold defaultsChanged at h
  obtain ⟨updated, hupdate, h⟩ := Option.bind_eq_some_iff.mp h
  obtain ⟨hsynced, type, fallback, hupdated⟩ := updateSessionType_spec hupdate
  split at h
  · -- the greeter is told of the default session
    obtain ⟨⟨name, named⟩, hname, rfl⟩ := Option.map_eq_some_iff.mp h
    unfold getDefaultSessionName at hname
    split at hname
    · obtain ⟨-, rfl⟩ := Prod.mk.inj (Option.some.inj hname)
      exact ⟨hsynced, type, fallback, hupdated⟩
    · rename_i hsaved
      rw [getFallbackSessionName_eq] at hname
      obtain ⟨found, hfound, hpair⟩ := Option.map_eq_some_iff.mp hname
      obtain ⟨rfl, rfl⟩ := Prod.mk.inj hpair
      refine ⟨hsynced.remember ?_, type, some found, by rw [hupdated]⟩
      intro hsupported hselected _
      subst hupdated
      have hchosen : self.chosenSession = none := Option.or_eq_none_iff.mpr ⟨hselected, hsaved⟩
      obtain ⟨name, hremembered, hagain, _⟩ :=
        (hstays hchosen).updated hsupported hchosen hupdate
      rw [← hfound, hagain, hremembered]
      rfl
  · obtain rfl := Option.some.inj h
    exact ⟨hsynced, type, fallback, hupdated⟩

/-- The default session is the one that is saved, or else the fallback. -/
theorem getDefaultSessionName_spec {default : String} {named : SessionChoice}
    (h : self.getDefaultSessionName installed = some (default, named)) :
    ∃ fallback, named = { self with fallbackSessionName := fallback } ∧
      self.savedSession.or fallback = some default := by
  unfold getDefaultSessionName at h
  split at h
  · rename_i saved hsaved
    obtain ⟨rfl, rfl⟩ := Prod.mk.inj (Option.some.inj h)
    exact ⟨self.fallbackSessionName, rfl, by rw [hsaved, Option.some_or]⟩
  · rename_i hsaved
    obtain ⟨-, rfl⟩ := getFallbackSessionName_spec h
    exact ⟨some default, rfl, by rw [hsaved, Option.none_or]⟩

/-- The session that is saved with the account, when it is not the default already. -/
def saveUnlessDefault (self : SessionChoice) (name default : String) : SessionChoice :=
  if name ≠ default then { self with savedSession := some name } else self

/-- A session that is read is in force unless one has been selected. -/
theorem nameInForce_saveUnlessDefault {default : String} {named : SessionChoice}
    (h : self.getDefaultSessionName installed = some (default, named)) :
    (named.saveUnlessDefault name default).nameInForce =
      some (self.selectedSession.getD name) := by
  obtain ⟨fallback, rfl, hdefault⟩ := getDefaultSessionName_spec h
  unfold saveUnlessDefault nameInForce chosenSession
  split
  · cases hselected : self.selectedSession with
    | some selected => rfl
    | none => rfl
  · rename_i hname
    rw [not_not] at hname
    subst hname
    show (self.selectedSession.or self.savedSession).or fallback = _
    rw [Option.or_assoc, hdefault]
    cases self.selectedSession with
    | some selected => rfl
    | none => rfl

/-! ## Events -/

/-- In a run in which types and files agree: the type is found for the conversations that
have been set up, and is the one that they have been sent. -/
structure InStep (installed : Installed) (choice : SessionChoice) : Prop where
  synced : choice.conversations ≠ [] → choice.Synced installed
  sent : ∀ entry ∈ choice.conversations, ∀ type, entry.2 = some type →
    choice.sessionType = some type
  agrees : ∀ session ∈ choice.started, session.Agrees

/-- What has been sent stays right as long as the type is kept. -/
theorem InStep.sent_kept (h : InStep installed self)
    (hkeeps : self.Opened → self'.sessionType = self.sessionType) {entry : String × Option String}
    (hentry : entry ∈ self.conversations) {type : String} (htype : entry.2 = some type) :
    self'.sessionType = some type := by
  rw [hkeeps ⟨entry, hentry, by rw [htype]; exact Option.some_ne_none _⟩]
  exact h.sent entry hentry type htype

theorem InStep.setUp (h : InStep installed self)
    (hkeeps : self.Opened → self'.sessionType = self.sessionType)
    (hsynced : self'.Synced installed)
    (hconversations : ∀ entry ∈ self'.conversations,
      entry ∈ self.conversations ∨ entry.2 = none)
    (hstarted : self'.started = self.started) : InStep installed self' where
  synced _ := hsynced
  sent := by
    intro entry hentry type htype
    rcases hconversations entry hentry with hold | hnew
    · exact h.sent_kept hkeeps hold htype
    · rw [hnew] at htype
      cases htype
  agrees := by
    rw [hstarted]
    exact h.agrees

theorem mem_initializeConversation {entry : String × Option String}
    (h : entry ∈ (self.initializeConversation serviceName).conversations) :
    entry ∈ self.conversations ∨ entry.2 = none := by
  rcases List.mem_cons.mp h with rfl | hold
  · exact .inr rfl
  · exact .inl (List.mem_of_mem_filter hold)

theorem InStep.handleSetup (h : InStep installed self)
    (hstays : self.chosenSession = none → self.FallbackStays installed)
    (hkeeps : self.Opened → self'.sessionType = self.sessionType)
    (hself : self.setup installed serviceName = some self') : InStep installed self' := by
  unfold SessionChoice.setup at hself
  obtain ⟨updated, hupdate, hself⟩ := Option.bind_eq_some_iff.mp hself
  obtain ⟨_, type, fallback, hupdated⟩ := updateSessionType_spec hupdate
  have hstays' : (updated.initializeConversation serviceName).chosenSession = none →
      (updated.initializeConversation serviceName).FallbackStays installed := by
    intro hchosen hsupported
    have hchosen' : self.chosenSession = none := by
      rw [hupdated] at hchosen
      exact hchosen
    have hsupported' : self.supportsSessionType (some "wayland") = true := by
      rw [hupdated] at hsupported
      exact hsupported
    obtain ⟨_, _, _, hstill⟩ := (hstays hchosen').updated hsupported' hchosen' hupdate
    exact hstill hsupported
  obtain ⟨hsynced, type', fallback', hself'⟩ := defaultsChanged_spec hstays' hself
  refine h.setUp hkeeps hsynced ?_ (by rw [hself', hupdated]; rfl)
  intro entry hentry
  rw [hself', hupdated] at hentry
  exact mem_initializeConversation hentry

theorem InStep.handleSetupForUser (h : InStep installed self) {username : String}
    (hstays : self.selectedSession = none → ∀ updated,
      self.updateSessionType installed = some updated → updated.FallbackStays installed)
    (hkeeps : self.Opened → self'.sessionType = self.sessionType)
    (hself : self.setupForUser installed serviceName username = some self') :
    InStep installed self' := by
  unfold SessionChoice.setupForUser at hself
  obtain ⟨updated, hupdate, hself⟩ := Option.bind_eq_some_iff.mp hself
  obtain ⟨_, type, fallback, hupdated⟩ := updateSessionType_spec hupdate
  have hstays' : ((updated.selectUser username).initializeConversation
      serviceName).chosenSession = none → ((updated.selectUser username).initializeConversation
        serviceName).FallbackStays installed := by
    intro hchosen
    obtain ⟨hselected, _⟩ := Option.or_eq_none_iff.mp hchosen
    have hselected' : self.selectedSession = none := by
      rw [hupdated] at hselected
      exact hselected
    exact hstays hselected' updated hupdate
  obtain ⟨hsynced, type', fallback', hself'⟩ := defaultsChanged_spec hstays' hself
  refine h.setUp hkeeps hsynced ?_ (by rw [hself', hupdated]; rfl)
  intro entry hentry
  rw [hself', hupdated] at hentry
  have hmem : entry ∈ (self.selectUser username).conversations ∨ entry.2 = none :=
    mem_initializeConversation hentry
  exact hmem

theorem InStep.handleSelectUser (h : InStep installed self) {username : String}
    (hsaved : self.conversations ≠ [] → self.selectedSession = none →
      self.savedSession ≠ none →
        ({ self with savedSession := none } : SessionChoice).Synced installed) :
    InStep installed (self.selectUser username) where
  synced hne := by
    have hcleared : ({ self with savedSession := none } : SessionChoice).Synced installed := by
      by_cases hsession : self.selectedSession = none
      · by_cases hnone : self.savedSession = none
        · have hsame : ({ self with savedSession := none } : SessionChoice) = self := by
            rw [← hnone]
          rw [hsame]
          exact h.synced hne
        · exact hsaved hne hsession hnone
      · obtain ⟨type, htype, hinforce⟩ := h.synced hne
        refine ⟨type, htype, ?_⟩
        obtain ⟨selected, hselected⟩ := Option.ne_none_iff_exists'.mp hsession
        have hname : ({ self with savedSession := none } : SessionChoice).nameInForce =
            self.nameInForce := by
          unfold nameInForce chosenSession
          rw [hselected]
          rfl
        rw [← hinforce]
        unfold typeInForce
        rw [hname]
        rfl
    exact hcleared
  sent := h.sent
  agrees := h.agrees

theorem InStep.handleUsernameChanged (h : InStep installed self) {username : String}
    (hstays : (if username.isEmpty then self.chosenSession else self.selectedSession) = none →
      self.FallbackStays installed)
    (hkeeps : self.Opened → self'.sessionType = self.sessionType)
    (hself : self.workerOnUsernameChanged installed username = some self') :
    InStep installed self' := by
  unfold workerOnUsernameChanged at hself
  split at hself
  · rename_i hempty
    rw [if_pos hempty] at hstays
    obtain ⟨hsynced, type, fallback, hself'⟩ := defaultsChanged_spec hstays hself
    refine h.setUp hkeeps hsynced ?_ (by rw [hself'])
    intro entry hentry
    rw [hself'] at hentry
    exact .inl hentry
  · rename_i hempty
    rw [if_neg hempty] at hstays
    have hstays' : (self.selectUser username).chosenSession = none →
        (self.selectUser username).FallbackStays installed := by
      intro hchosen
      obtain ⟨hselected, _⟩ := Option.or_eq_none_iff.mp hchosen
      exact hstays hselected
    obtain ⟨hsynced, type, fallback, hself'⟩ := defaultsChanged_spec hstays' hself
    refine h.setUp hkeeps hsynced ?_ (by rw [hself']; rfl)
    intro entry hentry
    rw [hself'] at hentry
    exact .inl hentry

theorem InStep.handleSavedSessionNameRead (h : InStep installed self)
    (hfile : self.supportsSessionType (some "wayland") = true →
      ∀ type, self.savedSessionType = some type →
        self.isUsable installed name (some type) = true →
          self.foundType installed (self.selectedSession.getD name) = type)
    (hkeeps : self.Opened → self'.sessionType = self.sessionType)
    (hself : self.workerOnSavedSessionNameRead installed name = some self') :
    InStep installed self' := by
  have hupdating : ∀ named : SessionChoice, named.conversations = self.conversations →
      named.started = self.started → named.updateSessionType installed = some self' →
      InStep installed self' := by
    intro named hconversations hstarted hupdate
    obtain ⟨hsynced, type, fallback, hself'⟩ := updateSessionType_spec hupdate
    refine h.setUp hkeeps hsynced ?_ (by rw [hself']; exact hstarted)
    intro entry hentry
    rw [hself'] at hentry
    exact .inl (hconversations ▸ hentry)
  unfold workerOnSavedSessionNameRead at hself
  split at hself
  · rename_i husable
    obtain ⟨⟨default, named⟩, hdefault, hself⟩ := Option.bind_eq_some_iff.mp hself
    have hforce : (named.saveUnlessDefault name default).nameInForce =
        some (self.selectedSession.getD name) := nameInForce_saveUnlessDefault hdefault
    obtain ⟨fallback, hnamed, _⟩ := getDefaultSessionName_spec hdefault
    have hframe : ∃ saved, named.saveUnlessDefault name default =
        { self with fallbackSessionName := fallback, savedSession := saved } := by
      unfold saveUnlessDefault
      rw [hnamed]
      split
      · exact ⟨_, rfl⟩
      · exact ⟨self.savedSession, rfl⟩
    obtain ⟨saved, hframe⟩ := hframe
    rw [hframe] at hforce
    unfold saveUnlessDefault at hframe
    dsimp only at hself
    rw [hframe] at hself
    cases htype : self.savedSessionType with
    | some type =>
      simp only [htype] at hself
      obtain rfl := Option.some.inj hself
      rw [htype] at husable
      have hsynced : (({ self with
          fallbackSessionName := fallback, savedSession := saved } : SessionChoice).setSessionType
            type).Synced installed := by
        by_cases hsupported : self.supportsSessionType (some "wayland") = true
        · rw [← hfile hsupported type htype husable]
          exact synced_foundType hsupported hforce
        · rw [eq_x11_of_isUsable hsupported husable]
          exact synced_x11 hsupported
      simp only [htype] at hsynced ⊢
      exact h.setUp hkeeps hsynced (fun _ hentry => .inl hentry) rfl
    | none =>
      simp only [htype] at hself
      exact hupdating _ (by rfl) (by rfl) hself
  · exact hupdating _ (by rfl) (by rfl) hself

theorem InStep.handleClientSelectSession (h : InStep installed self)
    (hkeeps : self.Opened → self'.sessionType = self.sessionType)
    (hself : self.handleClientSelectSession installed name = some self') :
    InStep installed self' := by
  unfold SessionChoice.handleClientSelectSession at hself
  split at hself
  · obtain rfl := Option.some.inj hself
    exact h
  · obtain ⟨hsynced, type, fallback, hself'⟩ := updateSessionType_spec hself
    refine h.setUp hkeeps hsynced ?_ (by rw [hself'])
    intro entry hentry
    rw [hself'] at hentry
    exact .inl hentry

/-- The type of the session is what is sent. -/
theorem InStep.handleOpenSession (h : InStep installed self) :
    InStep installed (self.openSession serviceName) where
  synced hne := by
    have hne' : self.conversations ≠ [] := by
      intro hnil
      refine hne ?_
      unfold openSession
      rw [hnil]
      rfl
    exact h.synced hne'
  sent := by
    intro entry hentry type htype
    obtain ⟨old, hold, rfl⟩ := List.mem_map.mp hentry
    show self.sessionType = some type
    split at htype
    · obtain ⟨present, hpresent, _⟩ := h.synced (List.ne_nil_of_mem hold)
      rw [hpresent, Option.getD_some] at htype
      exact hpresent.trans htype
    · exact h.sent old hold type htype
  agrees := h.agrees

theorem foundType_eq_pathType {file : KeyFile × String}
    (h : self.loadSessionFile installed name = some file) :
    self.foundType installed name = pathType file.2 := by
  unfold foundType isWaylandSession pathType
  rw [h, Option.any_some]

/-- What is started has the name in force. -/
theorem getSessionName_of_force
    (hfallback : self.chosenSession = none →
      self.fallbackSessionName.any (fun name => self.isUsable installed name none) = true) :
    ∃ name, self.getSessionName installed = some (name, self) ∧ self.nameInForce = some name := by
  cases hchosen : self.chosenSession with
  | some chosen =>
    refine ⟨chosen, getSessionName_of_chosen hchosen, ?_⟩
    unfold nameInForce
    rw [hchosen, Option.some_or]
  | none =>
    have hremembered := hfallback hchosen
    cases hname : self.fallbackSessionName with
    | none =>
      rw [hname] at hremembered
      cases hremembered
    | some name =>
      have hfound := fallbackFound_of_remembered hremembered
      refine ⟨name, ?_, ?_⟩
      · rw [getSessionName_of_not_chosen hchosen, getFallbackSessionName_eq, hfound, hname,
          Option.map_some, ← hname]
      · unfold nameInForce
        rw [hchosen, Option.none_or, hname]

/-- A session that has a command has a file. -/
theorem exists_file_of_command {command : String}
    (h : self.getSessionCommandForName installed name none = some command) :
    ∃ file, self.loadSessionFile installed name = some file := by
  unfold getSessionCommandForName getSessionCommandForFile at h
  split at h
  · split at h
    · cases h
    · rename_i file hfile
      exact ⟨_, hfile⟩
  · cases h

theorem chooseWrapper_iff {wrapper : Wrapper}
    (h : self.chooseWrapper installed = some (wrapper, self')) :
    (∃ handlesRegistration, wrapper = .wayland handlesRegistration) ↔
      self.sessionType = some "wayland" := by
  unfold chooseWrapper at h
  split at h
  · rename_i hwayland
    obtain ⟨⟨registers, named⟩, _, hpair⟩ := Option.map_eq_some_iff.mp h
    exact iff_of_true ⟨_, (Prod.mk.inj hpair).1.symm⟩ hwayland
  · rename_i hx11
    obtain ⟨rfl, -⟩ := Prod.mk.inj (Option.some.inj h)
    refine iff_of_false ?_ hx11
    rintro ⟨_, hwrapper⟩
    cases hwrapper

theorem commandPath_eq {file : KeyFile × String}
    (hname : self.getSessionName installed = some (name, self))
    (hfile : self.loadSessionFile installed name = some file) :
    self.commandPath installed = file.2 := by
  unfold commandPath
  rw [hname, Option.bind_some]
  dsimp only
  rw [hfile]
  rfl

/-- What is started has the type of its file. -/
theorem sessionType_eq_pathType (hsynced : self.Synced installed)
    (hheeds : self.Heeds installed (.startSession serviceName))
    {named : SessionChoice} (hname : self.getSessionName installed = some (name, named))
    {command : String}
    (hcommand : named.getSessionCommandForName installed name none = some command) :
    self.sessionType = some (pathType (self.commandPath installed)) := by
  obtain ⟨type, htype, hinforce⟩ := hsynced
  rw [htype, ← hinforce]
  by_cases hsupported : self.supportsSessionType (some "wayland") = true
  · have hfallback := (if_pos hsupported).mp hheeds
    obtain ⟨_, hname', hforce⟩ := getSessionName_of_force hfallback
    obtain ⟨rfl, rfl⟩ := Prod.mk.inj (Option.some.inj (hname'.symm.trans hname))
    obtain ⟨file, hfile⟩ := exists_file_of_command hcommand
    rw [typeInForce, if_pos hsupported, hforce, Option.map_some, foundType_eq_pathType hfile,
      commandPath_eq hname hfile]
  · have hx11 : isWaylandPath (self.commandPath installed) = false := (if_neg hsupported).mp hheeds
    rw [typeInForce, if_neg hsupported, pathType, hx11]
    rfl

theorem InStep.handleStartSession (h : InStep installed self)
    (hheeds : self.Heeds installed (.startSession serviceName))
    (hself : self.startSession installed serviceName = some self') : InStep installed self' := by
  unfold SessionChoice.startSession at hself
  split at hself
  · cases hentry : self.conversations.lookup serviceName with
    | none =>
      rw [hentry] at hself
      obtain rfl := Option.some.inj hself
      exact h
    | some sentType =>
      rw [hentry] at hself
      obtain ⟨entry, hmem, hservice, hsent⟩ : ∃ entry ∈ self.conversations,
          entry.1 = serviceName ∧ entry.2 = sentType := by
        obtain ⟨before, after, hsplit, _⟩ := List.lookup_eq_some_iff.mp hentry
        exact ⟨(serviceName, sentType), by simp [hsplit], rfl, rfl⟩
      have hsynced := h.synced (List.ne_nil_of_mem hmem)
      dsimp only at hself
      obtain ⟨name, named, command, wrapper, hname, hfound, hwrapper, rfl⟩ :=
        startProgram_spec hself
      have htype := sessionType_eq_pathType hsynced hheeds hname hfound
      have hkind := chooseWrapper_iff hwrapper
      obtain ⟨fallback, rfl⟩ := getSessionName_spec hname
      refine ⟨fun _ => hsynced.remember fun hsupported _ _ => ?_, ?_, ?_⟩
      · -- the fallback is the one that is remembered already
        obtain ⟨_, hname', _⟩ := getSessionName_of_force ((if_pos hsupported).mp hheeds)
        have hsame := congrArg SessionChoice.fallbackSessionName
          (Prod.mk.inj (Option.some.inj (hname'.symm.trans hname))).2
        exact hsame.symm
      · intro entry hentry
        exact h.sent entry (List.mem_of_mem_filter hentry)
      · intro session hsession
        rcases List.mem_append.mp hsession with hold | hnew
        · exact h.agrees session hold
        · obtain rfl := List.mem_singleton.mp hnew
          refine ⟨htype, ?_, ?_⟩
          · intro sent hsentType
            have hopened := h.sent entry hmem sent (hsent.trans hsentType)
            exact Option.some.inj (hopened.symm.trans htype)
          · refine hkind.trans ?_
            show self.sessionType = some "wayland" ↔ _
            rw [htype, Option.some.injEq]
  · obtain rfl := Option.some.inj hself
    exact h

/-! ## Runs -/

theorem InStep.handleEvent (h : InStep installed self) {event : ChoiceEvent}
    (hharmless : Harmless self installed event)
    (hself : self.handleEvent installed event = some self') : InStep installed self' := by
  have hheeds := hharmless.heeds
  have hkeeps : self.Opened → self'.sessionType = self.sessionType :=
    fun hopened => hharmless.keeps hopened self' hself
  cases event with
  | setup serviceName => exact h.handleSetup hheeds hkeeps hself
  | setupForUser serviceName username => exact h.handleSetupForUser hheeds hkeeps hself
  | selectUser username =>
    obtain rfl := Option.some.inj hself
    exact h.handleSelectUser hheeds
  | usernameChanged username => exact h.handleUsernameChanged hheeds hkeeps hself
  | savedSessionTypeRead type =>
    obtain rfl := Option.some.inj hself
    exact ⟨h.synced, h.sent, h.agrees⟩
  | savedSessionNameRead name => exact h.handleSavedSessionNameRead hheeds hkeeps hself
  | selectSession name => exact h.handleClientSelectSession hkeeps hself
  | openSession serviceName =>
    obtain rfl := Option.some.inj hself
    exact h.handleOpenSession
  | startSession serviceName => exact h.handleStartSession hheeds hself
  | programStarted serviceName =>
    obtain rfl := Option.some.inj hself
    exact ⟨h.synced, h.sent, h.agrees⟩
  | sessionExited =>
    obtain rfl := Option.some.inj hself
    exact ⟨h.synced, h.sent, h.agrees⟩
  | reset =>
    obtain rfl := Option.some.inj hself
    exact ⟨fun hne => absurd rfl hne, fun _ hentry => (nomatch hentry), h.agrees⟩

theorem InStep.step (h : InStep installed self) {event : ChoiceEvent}
    (hharmless : Harmless self installed event) :
    InStep installed (self.step (event, installed)) := by
  unfold SessionChoice.step
  split
  · exact h
  · cases hself : self.handleEvent installed event with
    | none => exact ⟨h.synced, h.sent, h.agrees⟩
    | some self' => exact h.handleEvent hharmless hself

/-- Whatever is installed, in a run of harmless events each session that is started has a
wrapper, a file and an environment of one type. -/
theorem started_agrees (installed : Installed) {start : SessionChoice}
    (hstart : machine.Start start) (events : List ChoiceEvent)
    (hharmless : machine.Meets (fun choice event => Harmless choice installed event.1) start
      (events.map fun event => (event, installed))) :
    ∀ session ∈ (machine.run start (events.map fun event => (event, installed))).started,
      session.Agrees := by
  obtain ⟨types, isLocal, greeter, rfl⟩ := hstart
  have hrun : ∀ (events : List ChoiceEvent) (choice : SessionChoice), InStep installed choice →
      machine.Meets (fun choice event => Harmless choice installed event.1) choice
        (events.map fun event => (event, installed)) →
      InStep installed (machine.run choice (events.map fun event => (event, installed))) := by
    intro events
    induction events with
    | nil =>
      intro choice h _
      exact h
    | cons event rest ih =>
      rintro choice h ⟨hfirst, hrest⟩
      exact ih _ (h.step hfirst) hrest
  refine (hrun events _ ⟨?_, ?_, ?_⟩ hharmless).agrees
  · exact fun hne => absurd rfl hne
  · exact fun _ hentry => (nomatch hentry)
  · exact fun _ hsession => (nomatch hsession)

/-- A login in which a session is selected meets the condition, and a session is started. -/
theorem started_agrees_selected :
    (machine.run {} ((loginEvents [.selectSession "gnome"]).map fun event =>
      (event, gnomeFiles))).started ≠ [] ∧
    ∀ session ∈ (machine.run {} ((loginEvents [.selectSession "gnome"]).map fun event =>
      (event, gnomeFiles))).started, session.Agrees := by
  have hopened : ∀ choice : SessionChoice, (∀ entry ∈ choice.conversations, entry.2 = none) →
      ¬ choice.Opened := by
    rintro choice hnone ⟨entry, hentry, hsent⟩
    exact hsent (hnone entry hentry)
  refine ⟨by decide +kernel, started_agrees gnomeFiles ⟨_, _, _, rfl⟩ _
    ⟨⟨?_, ?_⟩, ⟨trivial, ?_⟩, ⟨trivial, ?_⟩, ⟨?_, ?_⟩, trivial⟩⟩
  · -- the first session that is found is the fallback
    intro _ updated hupdated
    have hfound : (updateSessionType {} gnomeFiles).map (fun choice =>
        choice.fallbackFound gnomeFiles) = some (some "gnome") := by
      decide +kernel
    rw [hupdated, Option.map_some, Option.some.injEq] at hfound
    intro _ name hname
    obtain rfl := Option.some.inj (hfound.symm.trans hname)
    have husable : (updateSessionType {} gnomeFiles).all (fun choice =>
        (choice.setSessionType (choice.foundType gnomeFiles "gnome")).isUsable gnomeFiles "gnome"
          none) = true := by
      decide +kernel
    rw [hupdated] at husable
    exact husable
  · exact fun hopen => absurd hopen (hopened _ (by decide +kernel))
  · exact fun hopen => absurd hopen (hopened _ (by decide +kernel))
  · exact fun hopen => absurd hopen (hopened _ (by decide +kernel))
  · intro hnone
    cases hnone
  · intro _ choice hchoice
    have htype : ∀ result, handleEvent (machine.run {} ((loginEvents
        [.selectSession "gnome"]).take 3 |>.map fun event => (event, gnomeFiles))) gnomeFiles
          (.startSession "gdm-password") = some result → result.sessionType = some "wayland" := by
      have hall : (handleEvent (machine.run {} ((loginEvents
          [.selectSession "gnome"]).take 3 |>.map fun event => (event, gnomeFiles))) gnomeFiles
            (.startSession "gdm-password")).all (fun result =>
              decide (result.sessionType = some "wayland")) = true := by
        decide +kernel
      intro result hresult
      rw [hresult] at hall
      exact of_decide_eq_true hall
    exact htype choice hchoice

/-- The account has a saved session of the type X11. -/
def savedLogin : List ChoiceEvent :=
  loginEvents [.savedSessionTypeRead "x11", .savedSessionNameRead "gnome"]

/-- The wrapper is the one for X11 and the file that of a Wayland session. -/
theorem savedLogin_disagrees :
    ¬ ∀ session ∈ (machine.run {} (savedLogin.map fun event => (event, gnomeFiles))).started,
      session.Agrees := by
  intro h
  have hstarted : (machine.run {} (savedLogin.map fun event => (event, gnomeFiles))).started =
      [{ serviceName := "gdm-password"
         sentType := some "x11"
         sessionType := some "x11"
         path := "/usr/share/wayland-sessions/gnome.desktop"
         wrapper := .x11
         command := "gnome-session" }] := by
    decide +kernel
  rw [hstarted] at h
  have htype := (h _ List.mem_cons_self).sessionType
  revert htype
  decide +kernel

end SessionChoice

end Gdm
