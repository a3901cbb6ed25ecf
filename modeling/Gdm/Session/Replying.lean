import Gdm.Session.Reactions

/-!
# The callbacks of a session as moves

Each callback for a reply or a signal of a worker is a sequence of moves.
-/

namespace Gdm

/-- A conversation that has forgotten the invocation it was started for. -/
def Conversation.forget (c : Conversation) : Conversation :=
  { c with startingInvocation := none }

namespace GdmSession

variable {self self' : GdmSession} {p : Permits} {around : Surroundings}

/-! ## Changes that commute -/

theorem modifyConversation_comm (self : GdmSession) (i j : Nat) {f g : Conversation → Conversation}
    (hf : ∀ c, (f c).id = c.id) (hg : ∀ c, (g c).id = c.id) (hfg : ∀ c, f (g c) = g (f c)) :
    (self.modifyConversation i f).modifyConversation j g =
      (self.modifyConversation j g).modifyConversation i f := by
  simp only [modifyConversation, List.map_map]
  congr 1
  refine List.map_congr_left fun c _ => ?_
  have hidf : (if c.id = i then f c else c).id = c.id := by
    split
    · exact hf c
    · rfl
  have hidg : (if c.id = j then g c else c).id = c.id := by
    split
    · exact hg c
    · rfl
  simp only [Function.comp_apply, hidf, hidg]
  split <;> split <;> simp only [hfg]

theorem findConversationByName_modify {id : Nat} {f : Conversation → Conversation}
    (hname : ∀ c, (f c).serviceName = c.serviceName) (serviceName : String) :
    (self.modifyConversation id f).findConversationByName serviceName =
      (self.findConversationByName serviceName).map fun c => if c.id = id then f c else c := by
  have hsame : ∀ c : Conversation, (if c.id = id then f c else c).serviceName = c.serviceName := by
    intro c
    split
    · exact hname c
    · rfl
  simp only [findConversationByName, modifyConversation, List.find?_map, Function.comp_def, hsame]

theorem callByName_forget (id : Nat) (serviceName : String) (call : WorkerCall) :
    (self.callByName serviceName call).modifyConversation id Conversation.forget =
      (self.modifyConversation id Conversation.forget).callByName serviceName call := by
  unfold callByName
  rw [findConversationByName_modify (f := Conversation.forget) (fun _ => rfl)]
  cases self.findConversationByName serviceName with
  | none => rfl
  | some c =>
    have hid : (if c.id = id then Conversation.forget c else c).id = c.id := by
      split <;> rfl
    have hproxy : (if c.id = id then Conversation.forget c else c).workerProxy =
        c.workerProxy := by
      split <;> rfl
    have hname : (if c.id = id then Conversation.forget c else c).serviceName =
        c.serviceName := by
      split <;> rfl
    simp only [Option.map_some, callWorker, hid, hproxy, hname]
    split
    · rw [modifyConversation_comm]
      · rfl
      · intro d
        split <;> rfl
      · exact fun _ => rfl
      · intro d
        unfold Conversation.forget
        split <;> rfl
    · rfl

theorem stopConversation_forget (id : Nat) (serviceName : String) :
    (self.stopConversation serviceName).modifyConversation id Conversation.forget =
      (self.modifyConversation id Conversation.forget).stopConversation serviceName := by
  unfold stopConversation
  rw [findConversationByName_modify (f := Conversation.forget) (fun _ => rfl)]
  cases self.findConversationByName serviceName with
  | none => rfl
  | some c =>
    have hid : (if c.id = id then Conversation.forget c else c).id = c.id := by
      split <;> rfl
    have hpid : (if c.id = id then Conversation.forget c else c).workerPid = c.workerPid := by
      split <;> rfl
    simp only [Option.map_some, hid, hpid]
    have hcomm := modifyConversation_comm self c.id id
      (f := Conversation.stop) (g := Conversation.forget) (fun _ => rfl) (fun _ => rfl)
      (fun _ => rfl)
    exact congrArg (fun s => s.emit (.killed c.workerPid)) hcomm

/-! ## Replies of a worker -/

theorem moves_onInitializationCompleteCb (around : Surroundings)
    {conversation : Conversation} (error : Option WorkerError) {message : WorkerMessage}
    (h : Dispatches self conversation message)
    (hsuccess : error = none → ∃ user, message = .success (.Initialize user))
    (hfailure : error ≠ none → conversation.startingInvocation = none → p.returnsNull) :
    Moves p self (self.onInitializationCompleteCb around conversation error) := by
  have hmodify : ∀ s : GdmSession, (s.modifyConversation conversation.id fun c =>
      { c with startingInvocation := none }) =
        s.modifyConversation conversation.id Conversation.forget := fun _ => rfl
  unfold onInitializationCompleteCb
  rw [hmodify]
  cases error with
  | none =>
    obtain ⟨user, rfl⟩ := hsuccess rfl
    have hauthenticate : ∀ s : GdmSession, Moves p self s →
        Dispatches s { conversation with startingInvocation := none }
          (.success (.Initialize user)) →
        Moves p self ((s.signal around (.setupComplete conversation.serviceName)).authenticate
          conversation.serviceName) := by
      intro s hmoves hdispatches
      have hcomplete := hdispatches.silent around
        (.setupComplete conversation.serviceName) rfl
      exact (hmoves.trans (moves_signal_of_isSilent rfl rfl)).trans
        (moves_callByName_of_mem (c := { conversation with startingInvocation := none })
          hcomplete.wellFormed hcomplete.mem hcomplete.proxy ⟨user, hcomplete.dispatching⟩)
    simp only [authenticate, callByName_forget]
    rw [signal_of_isSilent (.setupComplete conversation.serviceName) rfl]
    cases hstarting : conversation.startingInvocation with
    | none =>
      have hself : self.modifyConversation conversation.id Conversation.forget = self := by
        refine modifyConversation_eq_self ?_
        intro c hc hid
        rw [h.wellFormed.eq_of_id hc h.mem hid, Conversation.forget, ← hstarting]
      have hsame : { conversation with startingInvocation := none } = conversation := by
        rw [← hstarting]
      have hmoves := hauthenticate self (.refl _) (hsame ▸ h)
      rw [signal_of_isSilent (.setupComplete conversation.serviceName) rfl] at hmoves
      have heq : (self.emit (.signal (.setupComplete conversation.serviceName))).modifyConversation
          conversation.id Conversation.forget =
            self.emit (.signal (.setupComplete conversation.serviceName)) :=
        congrArg (fun s => s.emit (.signal (.setupComplete conversation.serviceName))) hself
      simp only [Option.isSome_none, Bool.false_eq_true, if_false, heq]
      exact hmoves
    | some invocation =>
      have hreturns : Move p self ((self.emit (.returned conversation.startingInvocation
          none)).modifyConversation conversation.id fun c =>
            { c with startingInvocation := none }) :=
        .returnsStarting none h.mem (by simp [hstarting])
      have hdispatches : Dispatches ((self.emit (.returned conversation.startingInvocation
          none)).modifyConversation conversation.id fun c =>
            { c with startingInvocation := none })
          { conversation with startingInvocation := none } (.success (.Initialize user)) := by
        refine ⟨hreturns.wellFormed h.wellFormed, ?_, h.proxy,
          hreturns.dispatching.trans h.dispatching⟩
        exact mem_modifyConversation.mpr ⟨conversation, h.mem, by simp⟩
      have hmoves := hauthenticate _ (.single hreturns) hdispatches
      rw [signal_of_isSilent (.setupComplete conversation.serviceName) rfl,
        hstarting] at hmoves
      simp only [Option.isSome_some, if_true]
      exact hmoves
  | some error =>
    rw [stopConversation_forget]
    have hreturns : Move p self ((self.emit (.returned conversation.startingInvocation
        (some ⟨.worker error.code, error.message⟩))).modifyConversation conversation.id fun c =>
          { c with startingInvocation := none }) :=
      .returnsStarting _ h.mem (hfailure (by simp))
    exact .trans (.single hreturns) (moves_stopConversation _)

theorem moves_onAuthenticateCb (around : Surroundings) {conversation : Conversation}
    (error : Option WorkerError)
    (hsuccess : error = none →
      ∃ user, Dispatches self conversation (.success (.Authenticate user)) ∧
        (conversation.connected = true → conversation.verified ≠ none)) :
    Moves p self (self.onAuthenticateCb around conversation error) := by
  unfold onAuthenticateCb
  cases error with
  | none =>
    obtain ⟨user, h, hverified⟩ := hsuccess rfl
    refine moves_callByName_of_mem h.wellFormed h.mem h.proxy ⟨user, h.dispatching, ?_⟩
    intro c hc hid
    rw [h.wellFormed.eq_of_id hc h.mem hid]
    exact hverified
  | some error =>
    refine .trans ?_ (moves_stopConversation _)
    split
    · exact moves_signal_of_isSilent rfl rfl
    · exact .refl _

theorem moves_onAuthorizeCb {conversation : Conversation} (error : Option WorkerError)
    (hsuccess : error = none → Dispatches self conversation (.success .Authorize)) :
    Moves p self (self.onAuthorizeCb conversation error) := by
  unfold onAuthorizeCb
  cases error with
  | none =>
    have h := hsuccess rfl
    exact moves_callByName_of_mem h.wellFormed h.mem h.proxy h.dispatching
  | some error => exact moves_stopConversation _

theorem moves_onEstablishCredentialsCb (around : Surroundings) {conversation : Conversation}
    (error : Option WorkerError)
    (hsuccess : error = none → Dispatches self conversation (.success .EstablishCredentials))
    (hcloses : error = none → self.verificationMode = .reauthenticate →
      self.userVerifierInterface = true →
      self.closesOn around (.verificationComplete conversation.serviceName) = true →
      MayClose p self) :
    Moves p self (self.onEstablishCredentialsCb around conversation error) := by
  unfold onEstablishCredentialsCb
  cases error with
  | none =>
    have h := (hsuccess rfl).silent around
      (.credentialsEstablished conversation.serviceName conversation.workerPid) rfl
    have hmoves : Moves p self (self.signal around
        (.credentialsEstablished conversation.serviceName conversation.workerPid)) :=
      moves_signal_of_isSilent rfl rfl
    refine hmoves.trans ?_
    have hsame : self.signal around
        (.credentialsEstablished conversation.serviceName conversation.workerPid) =
          self.emit (.signal
            (.credentialsEstablished conversation.serviceName conversation.workerPid)) :=
      signal_of_isSilent _ rfl
    simp only [hsame] at h ⊢
    split
    · rename_i hlogin
      exact moves_callByName_of_mem h.wellFormed h.mem h.proxy
        (show Prompted p _ conversation.id .Open from ⟨hlogin, h.dispatching⟩)
    · rename_i hreauth
      split
      · rename_i hverifier
        refine moves_signal h.wellFormed (.verifies h.mem h.dispatching trivial) ?_
        refine MayReact.of_closes rfl fun hon => ?_
        have hmay := hcloses rfl hreauth hverifier hon
        exact ⟨hmay.resets, hmay.frees⟩
      · exact .refl _
  | some error => exact moves_stopConversation _

/-- In the mode for logins nobody reacts to verification-complete. -/
theorem signal_verificationComplete_of_login (hs : WellFormed self)
    (hlogin : self.verificationMode = .login) (serviceName : String) :
    self.signal around (.verificationComplete serviceName) =
      self.emit (.signal (.verificationComplete serviceName)) := by
  have hmode : self.owner.verificationMode = .login := hs.mode ▸ hlogin
  have howner : (self.emit (.signal (.verificationComplete serviceName))).owner = self.owner := rfl
  unfold GdmSession.signal react
  rw [howner]
  cases h : self.owner with
  | userSession
  | launchEnvironment => rfl
  | transient
  | reauthenticationRequest =>
    rw [h] at hmode
    cases hmode

/-- Only a reset takes the identifier of an opened session away. -/
theorem Move.sessionOpened (h : Move p self self') (hresets : ¬ p.resets)
    (hopened : self.sessionOpened ≠ none) : self'.sessionOpened ≠ none := by
  cases h with
  | aside h => exact h.sessionOpened ▸ hopened
  | calls _ _ _ =>
    unfold callWorker
    split <;> exact hopened
  | asks _ _ _ _ =>
    unfold callWorker
    split <;> exact hopened
  | resets hr _ => exact absurd hr hresets
  | keepsSessionId sessionId _ => exact Option.some_ne_none sessionId
  | _ => exact hopened

/-- On the opening of the session nobody resets it. -/
theorem signal_sessionOpened_keeps (hw : WellFormed self) (around : Surroundings)
    {conversation : Conversation} {sessionId : String}
    (h : Dispatches self conversation (.success (.Open sessionId)))
    (hopened : self.sessionOpened ≠ none) :
    (self.signal around (.sessionOpened conversation.serviceName sessionId)).sessionOpened ≠
      none := by
  have hmoves : Moves { Permits.all with resets := False } self
      (self.signal around (.sessionOpened conversation.serviceName sessionId)) := by
    refine moves_signal hw (.opens trivial h.mem h.dispatching) ?_
    exact ⟨by simp [closesOn], by simp, by simp, by simp, fun _ _ _ _ _ _ _ => trivial⟩
  exact hmoves.preserves (fun _ _ hmove => hmove.sessionOpened fun hr => hr) hopened

theorem moves_onOpened (around : Surroundings) {conversation : Conversation}
    (result : Except WorkerError String)
    (hsuccess : ∀ sessionId, result = .ok sessionId →
      Dispatches self conversation (.success (.Open sessionId)) ∧
        self.verificationMode = .login ∧ p.opens) :
    Moves p self (self.onOpened around conversation result) := by
  cases result with
  | ok sessionId =>
    obtain ⟨h, hlogin, hopens⟩ := hsuccess sessionId rfl
    obtain ⟨opened, hopened⟩ : ∃ s, s = { self.modifyConversation conversation.id
        (fun c => { c with sessionId := some sessionId }) with
      sessionOpened := some sessionId } := ⟨_, rfl⟩
    have hmoves : Moves p self opened := by
      rw [hopened]
      exact (moves_modify _ (harmless_sessionId _)).tail (.keepsSessionId sessionId hopens)
    have hmem : { conversation with sessionId := some sessionId } ∈ opened.conversations := by
      rw [hopened]
      exact mem_modifyConversation.mpr ⟨conversation, h.mem, by simp⟩
    have hdispatches : Dispatches opened { conversation with sessionId := some sessionId }
        (.success (.Open sessionId)) :=
      ⟨hmoves.wellFormed h.wellFormed, hmem, h.proxy, hmoves.dispatching.trans h.dispatching⟩
    have hmode : opened.verificationMode = .login := by
      rw [hopened]
      exact hlogin
    obtain ⟨verified, hverified⟩ : ∃ s, s = if opened.userVerifierInterface then
      opened.signal around (.verificationComplete conversation.serviceName) else opened :=
        ⟨_, rfl⟩
    have hmoves' : Moves p opened verified ∧
        Dispatches verified { conversation with sessionId := some sessionId }
          (.success (.Open sessionId)) := by
      rw [hverified]
      split
      · rw [signal_verificationComplete_of_login hdispatches.wellFormed hmode]
        have hmove : Move p opened _ := .verifies hmem hdispatches.dispatching trivial
        exact ⟨.single hmove, hdispatches.emit rfl⟩
      · exact ⟨.refl _, hdispatches⟩
    have hsignal : Moves p verified
        (verified.signal around (.sessionOpened conversation.serviceName sessionId)) := by
      have hmove : Move p verified _ := .opens hopens hmoves'.2.mem hmoves'.2.dispatching
      refine moves_signal hmoves'.2.wellFormed hmove ?_
      refine ⟨by simp [closesOn], by simp, by simp, by simp, ?_⟩
      intro serviceName _ heq
      cases heq
      exact hmoves'.2.mayCall
    have heq : self.onOpened around conversation (.ok sessionId) =
        { verified.signal around (.sessionOpened conversation.serviceName sessionId) with
          isOpened := true } := by
      rw [hverified, hopened]
      rfl
    have hopened' : opened.sessionOpened ≠ none := by
      rw [hopened]
      exact Option.some_ne_none sessionId
    have hverified' : verified.sessionOpened ≠ none := by
      rw [hverified]
      split
      · rw [signal_verificationComplete_of_login hdispatches.wellFormed hmode]
        exact hopened'
      · exact hopened'
    have hkeeps := signal_sessionOpened_keeps hmoves'.2.wellFormed around hmoves'.2 hverified'
    rw [heq]
    exact ((hmoves.trans hmoves'.1).trans hsignal).tail (.setsOpened hopens hkeeps)
  | error error => exact (moves_stopConversation _).trans (moves_signal_of_isSilent rfl rfl)

/-- Stopping a conversation leaves what is pending. -/
theorem MayClose.stopConversation (h : MayClose p self) (serviceName : String) :
    MayClose p (self.stopConversation serviceName) where
  resets := h.resets
  frees := by
    intro c hc
    unfold GdmSession.stopConversation at hc
    split at hc
    · obtain ⟨d, hd, rfl⟩ := mem_modifyConversation.mp hc
      split
      · exact h.frees d hd
      · exact h.frees d hd
    · exact h.frees c hc

theorem closesOn_stopConversation {serviceName : String} {signal : SessionSignal} :
    (self.stopConversation serviceName).closesOn around signal = self.closesOn around signal := by
  unfold stopConversation
  split <;> rfl

theorem moves_onStartProgramCb (around : Surroundings) {conversation : Conversation}
    {message : WorkerMessage} (result : Except WorkerError Int)
    (h : Dispatches self conversation message)
    (hsuccess : ∀ pid, result = .ok pid → message = .success (.StartProgram pid))
    (hcloses : ∀ error, result = .error error →
      self.closesOn around (.sessionStartFailed conversation.serviceName error.message) = true →
      MayClose p self) :
    Moves p self (self.onStartProgramCb around conversation result) := by
  cases result with
  | ok pid =>
    have hdispatching : Gdm.dispatching self.log =
        some (conversation.id, .success (.StartProgram pid)) := hsuccess pid rfl ▸ h.dispatching
    simp only [onStartProgramCb]
    rw [signal_of_isSilent (.sessionStarted conversation.serviceName pid conversation.id) rfl]
    exact .single (.starts h.mem hdispatching)
  | error error =>
    have hstop : Moves p self (self.stopConversation conversation.serviceName) :=
      moves_stopConversation _
    refine hstop.trans (moves_signal (hstop.wellFormed h.wellFormed) (.aside (aside_emit rfl)) ?_)
    refine MayReact.of_closes rfl fun hon => ?_
    rw [closesOn_stopConversation] at hon
    exact (hcloses error rfl hon).stopConversation _

theorem moves_onReauthenticationStartedCb (around : Surroundings) {conversation : Conversation}
    (result : Except WorkerError String) {message : WorkerMessage}
    (h : Dispatches self conversation message)
    (hends : message.endsReauthentication = true)
    (hsuccess : ∀ address, result = .ok address →
      message = .success (.StartReauthentication address)) :
    Moves p self (self.onReauthenticationStartedCb around conversation result) := by
  unfold onReauthenticationStartedCb
  cases result with
  | ok address =>
    have hdispatching : Gdm.dispatching self.log =
        some (conversation.id, .success (.StartReauthentication address)) :=
      hsuccess address rfl ▸ h.dispatching
    have hemit : Dispatches (self.emit (.signal
        (.reauthenticationStarted conversation.reauthPidOfCaller address))) conversation message :=
      h.emit rfl
    simp only [signal_of_isSilent
      (.reauthenticationStarted conversation.reauthPidOfCaller address) rfl]
    exact .tail (.single (.reauthenticates h.mem hdispatching))
      (.forgetsCaller hemit.mem hemit.dispatching hends)
  | error error => exact .single (.forgetsCaller h.mem h.dispatching hends)

/-! ## Signals of a worker -/

theorem moves_workerOnSessionExited (hs : WellFormed self) {conversation : Conversation}
    {status : ExitStatus} (hmarks : p.marks (status.signal conversation.id))
    (hcloses : self.closesOn around (status.signal conversation.id) = true → MayClose p self) :
    Moves p self (self.workerOnSessionExited around conversation status) := by
  have hclear : Moves p self { self with sessionConversation := none } :=
    moves_aside ⟨rfl, rfl, rfl, rfl, .inr rfl, rfl, rfl, rfl, rfl, rfl, rfl, rfl, rfl,
      .inl rfl, [], by simp, by simp⟩
  have hs' := hclear.wellFormed hs
  have hmay : self.closesOn around (status.signal conversation.id) = true →
      MayClose p { self with sessionConversation := none } := fun hon =>
    ⟨(hcloses hon).resets, (hcloses hon).frees⟩
  unfold workerOnSessionExited
  cases status with
  | exited code => exact hclear.trans (moves_signal hs' (.marks rfl hmarks) (.of_closes rfl hmay))
  | signaled signum =>
    exact hclear.trans (moves_signal hs' (.marks rfl hmarks) (.of_closes rfl hmay))

theorem moves_workerOnUsernameChanged {username : String}
    (hselects : ∀ user, announcedUser username = some user → p.selects user) :
    Moves p self (self.workerOnUsernameChanged username) := by
  unfold workerOnUsernameChanged
  cases h : announcedUser username with
  | none => exact .refl _
  | some user => exact .single (.selects (hselects user h))

theorem moves_workerOnSavedLanguageNameRead (languageName : String) :
    Moves p self (self.workerOnSavedLanguageNameRead languageName) := by
  unfold workerOnSavedLanguageNameRead
  split
  · exact .refl _
  · exact moves_aside ⟨rfl, rfl, rfl, rfl, .inl rfl, rfl, rfl, rfl, rfl, rfl, rfl, rfl, rfl,
      .inl rfl, [], by simp, by simp⟩

theorem moves_workerOnSavedSessionNameRead (sessionName : String) :
    Moves p self (self.workerOnSavedSessionNameRead around sessionName) := by
  have hsave : ∀ savedSession, Moves p self { self with savedSession } := fun _ =>
    moves_aside ⟨rfl, rfl, rfl, rfl, .inl rfl, rfl, rfl, rfl, rfl, rfl, rfl, rfl, rfl,
      .inl rfl, [], by simp, by simp⟩
  unfold workerOnSavedSessionNameRead
  split
  · split
    · exact .refl _
    · exact hsave _
  · exact hsave _

theorem moves_workerOnSavedSessionTypeRead (sessionType : String) :
    Moves p self (self.workerOnSavedSessionTypeRead sessionType) :=
  moves_aside ⟨rfl, rfl, rfl, rfl, .inl rfl, rfl, rfl, rfl, rfl, rfl, rfl, rfl, rfl,
    .inl rfl, [], by simp [workerOnSavedSessionTypeRead], by simp⟩

end GdmSession

end Gdm
