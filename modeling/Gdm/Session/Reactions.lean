import Gdm.Session.Steps

/-!
# Signals and callbacks as moves

The reaction of the owner to a signal, and each callback for a message of a
worker, is a sequence of moves.
-/

namespace Gdm

/-- The signals on which an owner starts or sets up something. -/
def SessionSignal.starts : SessionSignal → Bool
  | conversationStarted _ | clientConnected _ | sessionOpened _ _ => true
  | _ => false

/-- The signals to which no owner reacts. -/
def SessionSignal.isSilent : SessionSignal → Bool
  | setupComplete _ | clientReadyForSessionToStart _ _ | authenticationFailed _ _
  | credentialsEstablished _ _ | sessionOpenedFailed _ _ | sessionStarted _ _ _
  | reauthenticationStarted _ _ | reauthenticated _ _ _ | stopConflictingSession _ => true
  | _ => false

/-- The signal that says that the session of a conversation has ended. -/
def ExitStatus.signal (id : Nat) : ExitStatus → SessionSignal
  | exited code => .sessionExited code id
  | signaled signum => .sessionDied signum id

namespace GdmSession

variable {self self' : GdmSession} {p : Permits} {around : Surroundings}

/-! ## What the owner is going to do -/

/-- The owner closes or resets the session on this signal. -/
def closesOn (self : GdmSession) (around : Surroundings) (signal : SessionSignal) : Bool :=
  match self.owner, signal with
  | .userSession, .sessionStartFailed _ _ | .userSession, .sessionExited _ _
  | .userSession, .sessionDied _ _ => around.inUserSessions
  | .transient, .clientDisconnected _ | .transient, .cancelled
  | .transient, .verificationComplete _ => true
  | .transient, .clientRejected _ => !self.clientIsConnected && around.isOwnClient
  | .launchEnvironment, .conversationStopped _ => around.launchHasSession
  | .reauthenticationRequest, .cancelled
  | .reauthenticationRequest, .verificationComplete _ => true
  | .reauthenticationRequest, .clientDisconnected _ => around.isOwnClient
  | _, _ => false

/-- The user whom the owner sets a conversation up for when it has started. -/
def autologinUser (self : GdmSession) (around : Surroundings) (serviceName : String) :
    Option String :=
  if self.owner = .userSession ∧ serviceName = "gdm-autologin" then around.automaticLogin
  else none

/-- The owner sets up the program of its launch environment when a conversation
has started. -/
def setsUpProgram (self : GdmSession) (around : Surroundings) : Bool :=
  self.owner = .launchEnvironment && around.launchHasSession

/-- A client that connects makes the owner start a conversation for the timed
login. -/
def startsTimedLogin (self : GdmSession) (around : Surroundings) : Bool :=
  self.owner = .userSession && !self.isRunning && around.timedLogin.isSome

/-- What the owner does on a signal is permitted. -/
structure MayReact (p : Permits) (s : GdmSession) (around : Surroundings)
    (signal : SessionSignal) : Prop where
  closes : s.closesOn around signal = true → MayClose p s
  logsIn : ∀ serviceName username, signal = .conversationStarted serviceName →
    s.autologinUser around serviceName = some username →
    p.selects username ∧ p.initializes (some serviceName) (some username) ∧
      MayCall p s serviceName
  launches : ∀ serviceName, signal = .conversationStarted serviceName →
    s.setsUpProgram around = true →
    p.initializes (some "gdm-launch-environment") around.launchUser ∧
      MayCall p s "gdm-launch-environment"
  restarts : ∀ pid, signal = .clientConnected pid → s.startsTimedLogin around = true →
    MayStart p s around.spawn "gdm-autologin"
  startsSession : ∀ serviceName sessionId, signal = .sessionOpened serviceName sessionId →
    MayCall p s serviceName

/-- A signal on which the owner starts nothing. -/
theorem MayReact.of_closes {signal : SessionSignal} (hstarts : signal.starts = false)
    (h : self.closesOn around signal = true → MayClose p self) :
    MayReact p self around signal where
  closes := h
  logsIn := by
    rintro _ _ rfl
    cases hstarts
  launches := by
    rintro _ rfl
    cases hstarts
  restarts := by
    rintro _ rfl
    cases hstarts
  startsSession := by
    rintro _ _ rfl
    cases hstarts

theorem moves_reactUserSession (hs : WellFormed self) {signal : SessionSignal}
    (howner : self.owner = .userSession) (h : MayReact p self around signal) :
    Moves p self (self.reactUserSession around signal) := by
  have hclose : self.closesOn around signal = around.inUserSessions →
      Moves p self (if around.inUserSessions then self.close else self) := by
    intro heq
    split
    · rename_i hin
      exact moves_close (h.closes (heq.trans hin))
    · exact .refl _
  cases signal with
  | conversationStarted serviceName =>
    simp only [reactUserSession]
    split
    · rename_i username hlogin
      split
      · rename_i hname
        obtain ⟨hselects, hinitializes, hcall⟩ := h.logsIn serviceName username rfl
          (by simp [autologinUser, howner, hname, hlogin])
        exact moves_setupForUser hselects hinitializes hcall
      · exact .refl _
    · exact .refl _
  | clientConnected pid =>
    simp only [reactUserSession]
    split
    · exact .refl _
    · rename_i hrunning
      split
      · rename_i username delay htimed
        have hstarts : self.startsTimedLogin around = true := by
          simp [startsTimedLogin, howner, hrunning, htimed]
        have hdetails : Moves p self (self.setTimedLoginDetails username delay) := by
          cases username with
          | none => exact .refl _
          | some username =>
            exact moves_aside ⟨rfl, rfl, rfl, rfl, .inl rfl, rfl, rfl, rfl, rfl, rfl, rfl, rfl,
              rfl, .inl rfl, [], by simp [setTimedLoginDetails], by simp⟩
        have hmay : MayStart p (self.setTimedLoginDetails username delay) around.spawn
            "gdm-autologin" := by
          intro hstopping
          cases username with
          | none => exact h.restarts pid rfl hstarts hstopping
          | some username =>
            have hinsert := h.restarts pid rfl hstarts hstopping
            exact ⟨hinsert.spawns, hinsert.frees, hinsert.orphans, hinsert.clashes⟩
        exact hdetails.trans (moves_startConversation (hdetails.wellFormed hs) hmay)
      · exact .refl _
  | sessionStartFailed _ _ => exact hclose (by simp [closesOn, howner])
  | sessionExited _ _ => exact hclose (by simp [closesOn, howner])
  | sessionDied _ _ => exact hclose (by simp [closesOn, howner])
  | _ => exact .refl _

theorem moves_reactTransient {signal : SessionSignal} (howner : self.owner = .transient)
    (hcloses : self.closesOn around signal = true → MayClose p self) :
    Moves p self (self.reactTransient around signal) := by
  cases signal with
  | clientDisconnected _ => exact moves_close (hcloses (by simp [closesOn, howner]))
  | cancelled => exact moves_close (hcloses (by simp [closesOn, howner]))
  | verificationComplete _ => exact moves_close (hcloses (by simp [closesOn, howner]))
  | clientRejected _ =>
    simp only [reactTransient]
    split
    · exact .refl _
    · rename_i hconnected
      split
      · rename_i hown
        exact moves_close (hcloses (by simp [closesOn, howner, hconnected, hown]))
      · exact .refl _
  | _ => exact .refl _

theorem moves_reactLaunchEnvironment {signal : SessionSignal}
    (howner : self.owner = .launchEnvironment) (h : MayReact p self around signal) :
    Moves p self (self.reactLaunchEnvironment around signal) := by
  have hunless : ∀ {s : GdmSession}, (around.launchHasSession = true → Moves p self s) →
      Moves p self (if around.launchHasSession then s else self) := by
    intro s hmoves
    split
    · rename_i hhas
      exact hmoves hhas
    · exact .refl _
  cases signal with
  | conversationStarted serviceName =>
    refine hunless fun hhas => ?_
    obtain ⟨hinitializes, hcall⟩ := h.launches serviceName rfl
      (by simp [setsUpProgram, howner, hhas])
    exact moves_setupForProgram _ hinitializes hcall
  | sessionOpened serviceName sessionId =>
    exact hunless fun _ => moves_startSession fun _ _ _ => h.startsSession serviceName sessionId rfl
  | sessionExited _ _ => exact hunless fun _ => moves_stopConversation _
  | sessionDied _ _ => exact hunless fun _ => moves_stopConversation _
  | conversationStopped _ =>
    exact hunless fun hhas => moves_close (h.closes (by simp [closesOn, howner, hhas]))
  | _ => exact .refl _

theorem moves_reactReauthenticationRequest {signal : SessionSignal}
    (howner : self.owner = .reauthenticationRequest)
    (hcloses : self.closesOn around signal = true → MayClose p self) :
    Moves p self (self.reactReauthenticationRequest around signal) := by
  cases signal with
  | cancelled => exact moves_doReset (hcloses (by simp [closesOn, howner]))
  | verificationComplete _ => exact moves_doReset (hcloses (by simp [closesOn, howner]))
  | clientDisconnected _ =>
    simp only [reactReauthenticationRequest]
    split
    · rename_i hown
      exact moves_close (hcloses (by simp [closesOn, howner, hown]))
    · exact .refl _
  | _ => exact .refl _

/-- The owner's reaction is made of moves. -/
theorem moves_react (hs : WellFormed self) {signal : SessionSignal}
    (h : MayReact p self around signal) : Moves p self (self.react around signal) := by
  unfold react
  cases howner : self.owner with
  | userSession => exact moves_reactUserSession hs howner h
  | transient => exact moves_reactTransient howner h.closes
  | launchEnvironment => exact moves_reactLaunchEnvironment howner h
  | reauthenticationRequest => exact moves_reactReauthenticationRequest howner h.closes

/-- What is permitted before the emission of a signal is permitted after it. -/
theorem MayReact.emit {signal : SessionSignal} (h : MayReact p self around signal)
    (effect : SessionEffect) : MayReact p (self.emit effect) around signal where
  closes hcloses := ⟨(h.closes hcloses).resets, (h.closes hcloses).frees⟩
  logsIn := h.logsIn
  launches := h.launches
  restarts pid hsignal hstarts hstopping :=
    have hinsert := h.restarts pid hsignal hstarts hstopping
    ⟨hinsert.spawns, hinsert.frees, hinsert.orphans, hinsert.clashes⟩
  startsSession := h.startsSession

theorem moves_signal (hs : WellFormed self) {signal : SessionSignal}
    (hemit : Move p self (self.emit (.signal signal))) (h : MayReact p self around signal) :
    Moves p self (self.signal around signal) :=
  .trans (.single hemit) (moves_react (hemit.wellFormed hs) (h.emit _))

theorem signal_of_isSilent (signal : SessionSignal) (h : SessionSignal.isSilent signal = true) :
    self.signal around signal = self.emit (.signal signal) := by
  unfold GdmSession.signal react
  cases signal with
  | conversationStarted
  | conversationStopped
  | cancelled
  | clientRejected
  | clientConnected
  | clientDisconnected
  | verificationComplete
  | sessionOpened
  | sessionStartFailed
  | sessionExited
  | sessionDied => cases h
  | _ => split <;> rfl

/-- A silent signal that is not of note. -/
theorem moves_signal_of_isSilent {signal : SessionSignal}
    (hsilent : SessionSignal.isSilent signal = true)
    (hminor : (SessionEffect.signal signal).isMinor = true) :
    Moves p self (self.signal around signal) := by
  rw [signal_of_isSilent signal hsilent]
  exact moves_emit hminor

/-! ## Replies of a worker -/

/-- What a callback can rely on: its conversation is in the table, and its
message is the one that is dispatched. -/
structure Dispatches (s : GdmSession) (conversation : Conversation)
    (message : WorkerMessage) : Prop where
  wellFormed : WellFormed s
  mem : conversation ∈ s.conversations
  proxy : conversation.workerProxy = true
  dispatching : dispatching s.log = some (conversation.id, message)

/-- A call for the conversation of the callback is not an early one. -/
theorem Dispatches.mayCall {conversation : Conversation} {message : WorkerMessage}
    (h : Dispatches self conversation message) : MayCall p self conversation.serviceName := by
  intro d hd hname hno
  rw [h.wellFormed.eq_of_name hd h.mem hname, h.proxy] at hno
  cases hno

/-- An entry of the history does not get in the way. -/
theorem Dispatches.emit {conversation : Conversation} {message : WorkerMessage}
    (h : Dispatches self conversation message) {effect : SessionEffect}
    (heffect : effect.dispatches = none) :
    Dispatches (self.emit effect) conversation message where
  wellFormed := h.wellFormed.emit heffect
  mem := h.mem
  proxy := h.proxy
  dispatching := (History.lastSome_append (by simpa using heffect)).trans h.dispatching

theorem Dispatches.silent {conversation : Conversation} {message : WorkerMessage}
    (h : Dispatches self conversation message) (around : Surroundings) (signal : SessionSignal)
    (hsilent : SessionSignal.isSilent signal = true) :
    Dispatches (self.signal around signal) conversation message := by
  rw [signal_of_isSilent signal hsilent]
  exact h.emit rfl

end GdmSession

end Gdm
