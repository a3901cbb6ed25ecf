import Gdm.Common.Settings
import Gdm.Manager.Bus
import Gdm.Session.Reactions

/-!
# Timed logins

A client that connects to the session of a greeter makes the manager read the settings of the
timed login, give them to the session, and start the conversation that logs the user in.
-/

namespace Gdm

/-- What the manager reads of the configuration.  A malformed value is none, and a string that is
`NULL` is used like an empty one. -/
def DaemonConfig.settings (self : DaemonConfig) : Settings where
  automaticLoginEnable := (self.getBoolean "daemon/AutomaticLoginEnable".toList).join
  automaticLogin := String.ofList ((self.getString "daemon/AutomaticLogin".toList).join.getD [])
  timedLoginEnable := (self.getBoolean "daemon/TimedLoginEnable".toList).join
  timedLogin := String.ofList ((self.getString "daemon/TimedLogin".toList).join.getD [])
  timedLoginDelay := (self.getInt "daemon/TimedLoginDelay".toList).join

namespace GdmManager

/-- The machine of the manager, with the configuration at each event. -/
def configured : EventMachine GdmManager (ManagerEvent × ManagerSurroundings × DaemonConfig) where
  Start self := self = {}
  step self event :=
    self.step (event.1, { event.2.1 with settings := event.2.2.settings })

/-- The session for which `on_session_client_connected` starts the conversation of a timed login
at an event. -/
def startsTimedLogin (self : GdmManager) (around : ManagerSurroundings) :
    ManagerEvent → Option Nat
  | .session k (.clientConnected pid) =>
    match self.sessions[k]? with
    | none => none
    | some s =>
      if self.running && !s.disposed &&
          s.session.startsTimedLogin (self.surroundings around k s (.clientConnected pid)) then
        some k
      else none
  | _ => none

/-- Where the event starts a timed login, the session has the details that have been read, which
are a user name and a positive delay. -/
def StartsTimedLoginRight (self : GdmManager)
    (event : ManagerEvent × ManagerSurroundings × DaemonConfig) : Prop :=
  ∀ k, self.startsTimedLogin { event.2.1 with settings := event.2.2.settings } event.1 = some k →
    ∃ s username delay, (configured.step self event).sessions[k]? = some s ∧
      getTimedLoginDetails event.2.2.settings = some (some username, delay) ∧
      s.session.timedLoginUsername = some username ∧ s.session.timedLoginDelay = delay ∧
      username ≠ "" ∧ 0 < delay

/-- Where the event starts a timed login, the configuration has a user and a number. -/
def TimedLoginConfigured (self : GdmManager)
    (event : ManagerEvent × ManagerSurroundings × DaemonConfig) : Prop :=
  self.startsTimedLogin { event.2.1 with settings := event.2.2.settings } event.1 ≠ none →
    (∃ username, event.2.2.getString "daemon/TimedLogin".toList = some (some username) ∧
      username ≠ []) ∧
    ∃ delay, event.2.2.getInt "daemon/TimedLoginDelay".toList = some (some delay)

/-! ## The details -/

theorem getTimedLoginDetails_isSome_iff (settings : Settings) :
    (getTimedLoginDetails settings).isSome ↔ settings.timedLoginEnable = some true := by
  unfold getTimedLoginDetails
  split
  · next henable =>
    split <;> simp [henable]
  · next henable => simp [henable]

/-- An enabled timed login has a user and a positive delay exactly if both are there. -/
theorem getTimedLoginDetails_right_iff {settings : Settings}
    (henable : settings.timedLoginEnable = some true) :
    (∃ username delay, getTimedLoginDetails settings = some (some username, delay) ∧
        username ≠ "" ∧ 0 < delay) ↔
      settings.timedLogin ≠ "" ∧ settings.timedLoginDelay.isSome := by
  have hisEmpty : settings.timedLogin.isEmpty = true ↔ settings.timedLogin = "" :=
    String.isEmpty_iff
  rw [getTimedLoginDetails, if_pos henable]
  by_cases hempty : settings.timedLogin = ""
  · simp [hempty]
  · rw [if_neg fun h => hempty (hisEmpty.mp h)]
    cases hdelay : settings.timedLoginDelay with
    | none => simp
    | some delay =>
      simp only [Option.map_some, Option.getD_some, Option.some.injEq, Prod.mk.injEq]
      constructor
      · intro _
        exact ⟨hempty, rfl⟩
      · intro _
        refine ⟨_, _, ⟨rfl, rfl⟩, hempty, ?_⟩
        split <;> omega

/-! ## The session that the client has connected to -/

/-- The details of a timed login that a session has. -/
def timedLoginDetails (session : GdmSession) : Option String × Int :=
  (session.timedLoginUsername, session.timedLoginDelay)

/-- What the session does has no signals for the manager. -/
def OnlyAdds (session session' : GdmSession) : Prop :=
  timedLoginDetails session' = timedLoginDetails session ∧
    ∃ new, session'.log = session.log ++ new ∧ ∀ effect ∈ new, ∀ signal, effect ≠ .signal signal

theorem OnlyAdds.refl (session : GdmSession) : OnlyAdds session session :=
  ⟨rfl, [], by simp, by simp⟩

theorem OnlyAdds.trans {s t u : GdmSession} (hst : OnlyAdds s t) (htu : OnlyAdds t u) :
    OnlyAdds s u := by
  obtain ⟨hdetails, new, hlog, hnew⟩ := hst
  obtain ⟨hdetails', new', hlog', hnew'⟩ := htu
  refine ⟨hdetails'.trans hdetails, new ++ new', by rw [hlog', hlog, List.append_assoc], ?_⟩
  intro effect hmem
  rcases List.mem_append.mp hmem with hmem | hmem
  · exact hnew effect hmem
  · exact hnew' effect hmem

theorem OnlyAdds.of_log {s t : GdmSession} (hdetails : timedLoginDetails t = timedLoginDetails s)
    (hlog : t.log = s.log) : OnlyAdds s t :=
  ⟨hdetails, [], by simp [hlog], by simp⟩

theorem onlyAdds_freeConversations (self : GdmSession) (gone : Conversation → Bool) :
    OnlyAdds self (self.freeConversations gone) := by
  refine ⟨rfl, _, rfl, ?_⟩
  intro effect hmem signal
  obtain ⟨c, -, rfl⟩ := List.mem_map.mp hmem
  simp

theorem onlyAdds_insertConversation (self : GdmSession) (spawn : Option Int)
    (serviceName : String) : OnlyAdds self (self.insertConversation spawn serviceName) := by
  unfold GdmSession.insertConversation
  split
  · exact .of_log rfl rfl
  · cases spawn with
    | none => exact (onlyAdds_freeConversations self _).trans (.of_log rfl rfl)
    | some pid =>
      have hspawn : OnlyAdds self (self.spawnWorker serviceName pid) :=
        ⟨rfl, _, rfl, by simp⟩
      exact (hspawn.trans (onlyAdds_freeConversations _ _)).trans (.of_log rfl rfl)

theorem onlyAdds_startConversation (self : GdmSession) (spawn : Option Int)
    (serviceName : String) : OnlyAdds self (self.startConversation spawn serviceName).1 := by
  unfold GdmSession.startConversation
  split
  · next old _ =>
    split
    · have hkill : OnlyAdds self (self.emit (.killed old.workerPid)) := ⟨rfl, _, rfl, by simp⟩
      exact (hkill.trans (.of_log rfl rfl)).trans (onlyAdds_insertConversation _ _ _)
    · exact .refl self
  · exact onlyAdds_insertConversation _ _ _

/-- The details that are left after `gdm_session_set_timed_login_details`. -/
def detailsAfter (username : Option String) (delay : Int) (before : Option String × Int) :
    Option String × Int :=
  match username with
  | some username => (some username, delay)
  | none => before

theorem timedLoginDetails_setTimedLoginDetails (session : GdmSession) (username : Option String)
    (delay : Int) : timedLoginDetails (session.setTimedLoginDetails username delay) =
      detailsAfter username delay (timedLoginDetails session) := by
  cases username <;> rfl

theorem log_setTimedLoginDetails (session : GdmSession) (username : Option String) (delay : Int) :
    (session.setTimedLoginDetails username delay).log = session.log := by
  cases username <;> rfl

/-- The session that a client has connected to, when the signal is emitted. -/
def connected (session : GdmSession) (pid : Int) : GdmSession :=
  GdmSession.emit { session with
    outsideConnections := pid :: session.outsideConnections
    userVerifierInterface := true
    greeterInterface := session.greeterInterface ||
      session.verificationMode = VerificationMode.login }
    (.signal (.clientConnected pid))

/-- The session gets the details, if they have a user, and its history has the connection. -/
theorem step_clientConnected {session : GdmSession} {around : Surroundings} {pid : Int}
    {username : Option String} {delay : Int} (hrunning : session.status = .running)
    (hstarts : session.startsTimedLogin around = true)
    (htimed : around.timedLogin = some (username, delay)) :
    timedLoginDetails (session.step (.clientConnected pid, around)) =
        detailsAfter username delay (timedLoginDetails session) ∧
      ∃ new, (session.step (.clientConnected pid, around)).log =
          session.log ++ .signal (.clientConnected pid) :: new ∧
        ∀ effect ∈ new, ∀ signal, effect ≠ .signal signal := by
  simp only [GdmSession.startsTimedLogin, Bool.and_eq_true, decide_eq_true_eq,
    Bool.not_eq_true'] at hstarts
  obtain ⟨⟨howner, hidle⟩, -⟩ := hstarts
  have howner' : (connected session pid).owner = .userSession := howner
  have hidle' : (connected session pid).isRunning = false := hidle
  have hstep : session.step (.clientConnected pid, around) =
      (((connected session pid).setTimedLoginDetails username delay).startConversation around.spawn
        "gdm-autologin").1 := by
    have hreact : session.step (.clientConnected pid, around) =
        (connected session pid).react around (.clientConnected pid) := by
      rw [GdmSession.step, if_pos hrunning]
      rfl
    rw [hreact, GdmSession.react, howner']
    simp only [GdmSession.reactUserSession, hidle', htimed, Bool.false_eq_true, if_false]
  obtain ⟨hsame, new, hnewLog, hnew⟩ := onlyAdds_startConversation
    ((connected session pid).setTimedLoginDetails username delay) around.spawn "gdm-autologin"
  rw [hstep]
  refine ⟨?_, new, ?_, hnew⟩
  · rw [hsame, timedLoginDetails_setTimedLoginDetails]
    rfl
  · rw [hnewLog, log_setTimedLoginDetails]
    simp [connected, GdmSession.emit]

/-! ## The sessions of the manager -/

/-- The details of a session of the manager. -/
def detailsAt (self : GdmManager) (k : Nat) : Option (Option String × Int) :=
  self.sessions[k]?.map fun s => timedLoginDetails s.session

theorem detailsAt_modifySession (self : GdmManager) (j k : Nat)
    {f : ManagedSession → ManagedSession}
    (hf : ∀ s, timedLoginDetails (f s).session = timedLoginDetails s.session) :
    (self.modifySession j f).detailsAt k = self.detailsAt k := by
  simp only [detailsAt, modifySession, List.getElem?_modify]
  cases self.sessions[k]? with
  | none => simp
  | some s => by_cases hjk : j = k <;> simp [hjk, hf]

theorem timedLoginDetails_dispose (s : ManagedSession) :
    timedLoginDetails s.dispose.session = timedLoginDetails s.session := by
  simp only [ManagedSession.dispose, GdmSession.step]
  split <;> rfl

theorem detailsAt_disposeIfUnreferenced (self : GdmManager) (j k : Nat) :
    (self.disposeIfUnreferenced j).detailsAt k = self.detailsAt k := by
  apply detailsAt_modifySession
  intro s
  split
  · exact timedLoginDetails_dispose s
  · rfl

theorem detailsAt_refSession (self : GdmManager) (j k : Nat) :
    (self.refSession j).detailsAt k = self.detailsAt k :=
  detailsAt_modifySession self j k fun _ => rfl

/-- A session that loses a reference keeps its details. -/
theorem detailsAt_dropReference (self : GdmManager) (j k : Nat) :
    (self.modifySession j fun s => { s with refs := s.refs - 1 }).detailsAt k =
      self.detailsAt k :=
  detailsAt_modifySession self j k fun _ => rfl

theorem detailsAt_unrefSession (self : GdmManager) (j k : Nat) :
    (self.unrefSession j).detailsAt k = self.detailsAt k := by
  rw [← detailsAt_dropReference self j k, unrefSession, collectSession]
  split
  · rfl
  · split
    · exact detailsAt_disposeIfUnreferenced _ _ _
    · next user _ =>
      rw [detailsAt_disposeIfUnreferenced, detailsAt_dropReference _ user,
        detailsAt_disposeIfUnreferenced]

theorem foldl_handleEffect_of_no_signal (self : GdmManager) (around : ManagerSurroundings) (k : Nat)
    (owner : Owner) (isOwnClient : Bool) {new : List SessionEffect}
    (hnew : ∀ effect ∈ new, ∀ signal, effect ≠ .signal signal) :
    new.foldl (handleEffect around k owner isOwnClient) self = self := by
  induction new with
  | nil => rfl
  | cons effect new ih =>
    have hfirst : handleEffect around k owner isOwnClient self effect = self := by
      cases effect with
      | signal signal => exact absurd rfl (hnew _ List.mem_cons_self signal)
      | _ => rfl
    rw [List.foldl_cons, hfirst]
    exact ih fun effect hmem => hnew effect (List.mem_cons_of_mem _ hmem)

/-- An event that starts a timed login is a client that connects to the running session. -/
theorem startsTimedLogin_eq_some {self : GdmManager} {around : ManagerSurroundings}
    {event : ManagerEvent} {k : Nat} (hstarts : self.startsTimedLogin around event = some k) :
    ∃ pid s, event = .session k (.clientConnected pid) ∧ self.sessions[k]? = some s ∧
      self.running = true ∧ s.disposed = false ∧
      s.session.startsTimedLogin (self.surroundings around k s (.clientConnected pid)) = true := by
  unfold startsTimedLogin at hstarts
  split at hstarts
  · next j pid =>
    cases hs : self.sessions[j]? with
    | none => simp [hs] at hstarts
    | some s =>
      simp only [hs, Option.ite_none_right_eq_some, Option.some.injEq, Bool.and_eq_true,
        Bool.not_eq_true'] at hstarts
      obtain ⟨⟨⟨hrunning, hdisposed⟩, hstart⟩, rfl⟩ := hstarts
      exact ⟨pid, s, rfl, hs, hrunning, hdisposed, hstart⟩
  · cases hstarts

/-- The timed login is enabled where it is started. -/
theorem details_of_startsTimedLogin {self : GdmManager} {around : ManagerSurroundings} {k : Nat}
    {s : ManagedSession} {pid : Int}
    (hstart : s.session.startsTimedLogin
      (self.surroundings around k s (.clientConnected pid)) = true) :
    (self.surroundings around k s (.clientConnected pid)).timedLogin =
        getTimedLoginDetails around.settings ∧
      (getTimedLoginDetails around.settings).isSome := by
  simp only [GdmSession.startsTimedLogin, Bool.and_eq_true] at hstart
  have hsome := hstart.2
  simp only [surroundings] at hsome ⊢
  split at hsome
  · next hseat =>
    rw [if_pos hseat]
    exact ⟨rfl, hsome⟩
  · cases hsome

/-- After the event the session has the details, if they have a user. -/
theorem detailsAt_step {self : GdmManager} {around : ManagerSurroundings} {event : ManagerEvent}
    {k : Nat} (hstarts : self.startsTimedLogin around event = some k) {username : Option String}
    {delay : Int} (hdetails : getTimedLoginDetails around.settings = some (username, delay)) :
    (self.step (event, around)).detailsAt k =
      (self.detailsAt k).map (detailsAfter username delay) := by
  obtain ⟨pid, s, rfl, hs, hrunning, hdisposed, hstart⟩ := startsTimedLogin_eq_some hstarts
  have hstatus : s.session.status = .running := by
    simp only [running, Bool.and_eq_true, List.all_eq_true, decide_eq_true_eq] at hrunning
    exact hrunning.2 s (List.mem_of_getElem? hs)
  have howner : s.session.owner = .userSession := by
    simp only [GdmSession.startsTimedLogin, Bool.and_eq_true, decide_eq_true_eq] at hstart
    exact hstart.1.1
  have htimed : (self.surroundings around k s (.clientConnected pid)).timedLogin =
      some (username, delay) := (details_of_startsTimedLogin hstart).1.trans hdetails
  obtain ⟨session', hstep⟩ : ∃ session', s.session.step (.clientConnected pid,
      self.surroundings around k s (.clientConnected pid)) = session' := ⟨_, rfl⟩
  obtain ⟨hsession, new, hlog, hnew⟩ := step_clientConnected hstatus hstart htimed
  rw [hstep] at hsession hlog
  have hreceive : self.step (.session k (.clientConnected pid), around) =
      ((self.modifySession k fun s' => { s' with session := session' }).refSession k).unrefSession
        k := by
    rw [step, if_pos hrunning, handleEvent, if_neg (by simp [isOwnerCall]), receive]
    simp only [hs, hdisposed, Bool.false_eq_true, if_false, hstep, hlog]
    rw [List.drop_left, List.foldl_cons]
    have hsignal : ∀ self : GdmManager, handleEffect around k s.session.owner
        (isOwnClient s around (.clientConnected pid)) self
          (.signal (.clientConnected pid)) = self := by
      intro self
      rw [howner]
      rfl
    rw [hsignal, foldl_handleEffect_of_no_signal _ _ _ _ _ hnew]
  rw [hreceive, detailsAt_unrefSession, detailsAt_refSession]
  simp only [detailsAt, modifySession, List.getElem?_modify, if_true, hs, Option.map_eq_map,
    Option.map_some, hsession]

/-! ## The configuration -/

theorem settings_timedLogin_ne_iff (config : DaemonConfig) :
    config.settings.timedLogin ≠ "" ↔
      ∃ username, config.getString "daemon/TimedLogin".toList = some (some username) ∧
        username ≠ [] := by
  simp only [DaemonConfig.settings]
  rcases config.getString "daemon/TimedLogin".toList with _ | _ | username
  · simp
  · simp
  · simp

theorem settings_timedLoginDelay_isSome_iff (config : DaemonConfig) :
    config.settings.timedLoginDelay.isSome ↔
      ∃ delay, config.getInt "daemon/TimedLoginDelay".toList = some (some delay) := by
  simp only [DaemonConfig.settings]
  rcases config.getInt "daemon/TimedLoginDelay".toList with _ | _ | delay
  · simp
  · simp
  · simp

/-- An event starts a timed login with a user and a positive delay exactly if both are in the
configuration. -/
theorem startsTimedLoginRight_iff (self : GdmManager)
    (event : ManagerEvent × ManagerSurroundings × DaemonConfig) :
    self.StartsTimedLoginRight event ↔ self.TimedLoginConfigured event := by
  obtain ⟨event, around, config⟩ := event
  simp only [StartsTimedLoginRight, TimedLoginConfigured]
  cases hstarts : self.startsTimedLogin { around with settings := config.settings } event with
  | none => simp
  | some k =>
    obtain ⟨pid, s, rfl, hs, -, -, hstart⟩ := startsTimedLogin_eq_some hstarts
    have henable : config.settings.timedLoginEnable = some true :=
      (getTimedLoginDetails_isSome_iff _).mp (details_of_startsTimedLogin hstart).2
    rw [← settings_timedLogin_ne_iff, ← settings_timedLoginDelay_isSome_iff,
      ← getTimedLoginDetails_right_iff henable]
    constructor
    · intro hright _
      obtain ⟨s', username, delay, -, hdetails, -, -, hgood⟩ := hright k rfl
      exact ⟨username, delay, hdetails, hgood⟩
    · rintro hconfigured _ ⟨rfl⟩
      obtain ⟨username, delay, hdetails, hgood⟩ := hconfigured (by simp)
      have hat := detailsAt_step hstarts hdetails
      simp only [detailsAt, hs, Option.map_some, detailsAfter, Option.map_eq_some_iff,
        timedLoginDetails, Prod.mk.injEq] at hat
      obtain ⟨s', hs', husername, hdelay⟩ := hat
      exact ⟨s', username, delay, hs', hdetails, husername, hdelay, hgood⟩

/-- In a run every timed login has a user and a positive delay exactly if the configuration has
both whenever one is started. -/
theorem timedLogins_right_iff (self : GdmManager)
    (events : List (ManagerEvent × ManagerSurroundings × DaemonConfig)) :
    configured.Meets StartsTimedLoginRight self events ↔
      configured.Meets TimedLoginConfigured self events := by
  constructor
  · intro h
    exact h.imp fun self event => (startsTimedLoginRight_iff self event).mp
  · intro h
    exact h.imp fun self event => (startsTimedLoginRight_iff self event).mpr

/-- A configuration file whose timed login has a delay that is no number. -/
def delaySoon : DaemonConfig where
  custom := fun group key =>
    if group = "daemon".toList then
      if key = "TimedLoginEnable".toList then some "true".toList
      else if key = "TimedLogin".toList then some "alice".toList
      else if key = "TimedLoginDelay".toList then some "soon".toList
      else none
    else none

/-- A greeter connects that allows timed logins. -/
def greeterConnects (config : DaemonConfig) :
    List (ManagerEvent × ManagerSurroundings × DaemonConfig) :=
  (greeterOnSeat ++ ofSession 0 [.clientConnected 700]).map fun event => (event.1, event.2, config)

/-- The timed login of the greeter has a delay of zero. -/
theorem delaySoon_not_right :
    ¬ configured.Meets StartsTimedLoginRight {} (greeterConnects delaySoon) := by
  intro h
  have hstep := h.2.2.1 0 (by decide)
  obtain ⟨s, username, delay, -, hdetails, -, -, -, hpositive⟩ := hstep
  have hzero : getTimedLoginDetails delaySoon.settings = some (some "alice", 0) := by decide
  rw [hzero] at hdetails
  obtain rfl : (0 : Int) = delay := by
    simpa using congrArg (Option.map Prod.snd) hdetails
  exact absurd hpositive (by decide)

end GdmManager

end Gdm
