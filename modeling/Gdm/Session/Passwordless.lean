import Gdm.Session.Images

/-!
# The service without a password

The worker of `gdm-autologin` asks for no password.  The user it is set up for is
the one of the automatic login, or whomever a client has named: nothing compares
the name that a client gives with the one that the daemon has configured.
-/

namespace Gdm

/-- The service whose worker asks for no password. -/
def autologinService : String := "gdm-autologin"

namespace GdmSession

variable {self self' : GdmSession} {p : Permits}

/-- The user is the one that the manager has chosen for the automatic login when
the worker said Hello, or one that a client has named for the service. -/
def AutologinUser (events : List (SessionEvent × Surroundings)) (username : String) : Prop :=
  ∃ event ∈ events,
    (∃ pid, event.1 = .hello pid ∧ event.2.automaticLogin = some username) ∨
      event.1 = .client (.beginAutoLogin username) ∨
      event.1 = .client (.beginVerificationForUser autologinService username)

/-- What a client has named is kept in the conversation until the worker says
Hello. -/
structure AutologinInv (events : List (SessionEvent × Surroundings)) (s : GdmSession) :
    Prop where
  calls : ∀ id details username, .called id (.Initialize details) ∈ s.log →
    detailsService details = some autologinService → detailsUsername details = some username →
      AutologinUser events username
  starting : ∀ c ∈ s.conversations, c.serviceName = autologinService →
    ∀ username, c.startingUsername = some username → AutologinUser events username

theorem Evolves.startingUsername {s s' : GdmSession} {c c' : Conversation}
    (h : Evolves p s s' c c') {username : String}
    (hstarting : c'.startingUsername = some username) :
    c.startingUsername = some username ∨ p.begins c.serviceName (some username) := by
  cases h with
  | harmless h =>
    rcases h.startingUsername c with hsame | hnone
    · exact .inl (hsame ▸ hstarting)
    · rw [hnone] at hstarting
      cases hstarting
  | begins hbegins _ _ => exact .inr (hstarting ▸ hbegins)
  | _ => exact .inl hstarting

theorem Move.autologinInv (h : Move p self self') (hw : WellFormed self)
    {events : List (SessionEvent × Surroundings)} (hs : AutologinInv events self)
    (hinitializes : ∀ username, p.initializes (some autologinService) (some username) →
      AutologinUser events username)
    (hbegins : ∀ username, p.begins autologinService (some username) →
      AutologinUser events username) : AutologinInv events self' := by
  obtain ⟨new, hlog, hreasons⟩ := h.reasons hw
  refine ⟨?_, ?_⟩
  · intro id details username hmem hservice huser
    rw [hlog] at hmem
    rcases List.mem_append.mp hmem with hold | hnew
    · exact hs.calls id details username hold hservice huser
    · obtain ⟨c, _, rfl, _, hprompted | ⟨_, hmethod⟩⟩ := hreasons _ hnew
      · have hpermitted : p.initializes (detailsService details) (detailsUsername details) :=
          hprompted
        rw [hservice, huser] at hpermitted
        exact hinitializes username hpermitted
      · cases hmethod
  · intro c' hc' hname username hstarting
    rcases h.image hw hc' with ⟨c, hc, hevolves⟩ | ⟨_, _, _, _, rfl⟩
    · rw [hevolves.serviceName] at hname
      rcases hevolves.startingUsername hstarting with hold | hnew
      · exact hs.starting c hc hname username hold
      · exact hbegins username (hname ▸ hnew)
    · cases hstarting

/-- What a step initializes the service with comes from its event or has been kept
since an earlier one. -/
theorem autologinUser_of_initializes {events : List (SessionEvent × Surroundings)}
    (hs : AutologinInv events self) {event : SessionEvent × Surroundings} (hevent : event ∈ events)
    {username : String}
    (h : (some autologinService, some username) ∈ self.initializations event.2 event.1) :
    AutologinUser events username := by
  obtain ⟨event, around⟩ := event
  cases event with
  | client call =>
    cases call with
    | beginAutoLogin name =>
      simp only [initializations] at h
      split at h
      · simp only [List.mem_singleton, Prod.mk.injEq, Option.some.injEq] at h
        exact ⟨_, hevent, .inr (.inl (by rw [h.2]))⟩
      · cases h
    | _ => cases h
  | hello pid =>
    simp only [initializations] at h
    split at h
    · cases h
    · rename_i c hof
      rcases List.mem_append.mp h with h | h
      · rcases List.mem_append.mp h with h | h
        · -- the automatic login of the manager
          obtain ⟨name, hname, heq⟩ := List.mem_map.mp h
          simp only [Prod.mk.injEq, Option.some.injEq] at heq
          rw [Option.mem_toList, heq.2] at hname
          refine ⟨_, hevent, .inl ⟨pid, rfl, ?_⟩⟩
          unfold autologinUser at hname
          split at hname
          · exact hname
          · cases hname
        · split at h
          · simp [autologinService] at h
          · cases h
      · split at h
        · simp only [List.mem_singleton, Prod.mk.injEq, Option.some.injEq] at h
          exact hs.starting c (List.mem_of_find?_eq_some hof) h.1.symm username h.2.symm
        · cases h
  | _ => cases h

theorem autologinUser_of_begins {events : List (SessionEvent × Surroundings)}
    {event : SessionEvent × Surroundings} (hevent : event ∈ events) {username : String}
    (h : self.beginnings event.1 = some (autologinService, some username)) :
    AutologinUser events username := by
  obtain ⟨event, around⟩ := event
  cases event with
  | client call =>
    simp only [beginnings] at h
    split at h
    · cases call with
      | beginVerificationForUser serviceName name =>
        simp only [ClientCall.begins, Option.some.injEq, Prod.mk.injEq] at h
        exact ⟨_, hevent, .inr (.inr (by rw [h.1, h.2]))⟩
      | beginVerification serviceName => simp [ClientCall.begins] at h
      | _ => cases h
    · cases h
  | _ => cases h

/-- In every run the worker of the service without a password is set up for nobody
but the user of the automatic login and those whom clients have named. -/
theorem autologin_initialized_for {s : GdmSession} (hstart : machine.Start s)
    (events : List (SessionEvent × Surroundings)) (id : Nat) (details : List Detail)
    (hcalled : .called id (.Initialize details) ∈ (machine.run s events).log)
    (hservice : detailsService details = some autologinService) {username : String}
    (huser : detailsUsername details = some username) : AutologinUser events username := by
  have hmeets : machine.Meets (fun _ event => event ∈ events) s events :=
    EventMachine.meets_of_forall fun _ _ hevent => hevent
  refine (run_invariant (P := AutologinInv events) ?_ ?_ ?_ hstart hmeets).2.calls id details
    username hcalled hservice huser
  · intro s c message rest hw hc hinbox hs
    refine ⟨?_, ?_⟩
    · intro id details username hmem
      have hlog : (s.taken c message).log = s.log ++ [.delivered c.id message] := rfl
      exact hs.calls id details username (by simpa [hlog] using hmem)
    · intro d' hd' hname username hstarting
      obtain ⟨d, hd, rfl⟩ := mem_taken.mp hd'
      refine hs.starting d hd ?_ username ?_
      · split at hname <;> exact hname
      · split at hstarting <;> exact hstarting
  · intro start event hevent _ hstart s s' hw hmove hs
    exact hmove.autologinInv hw hs
      (fun _ hinitializes => autologinUser_of_initializes hstart hevent hinitializes)
      (fun _ hbegins => autologinUser_of_begins hevent hbegins)
  · intro owner hostname device seatId isLocal
    exact ⟨by simp [new], by simp [new]⟩

/-- A greeter that begins an automatic login for a user of its own choice. -/
def namedAutoLogin : List (SessionEvent × Surroundings) :=
  [.clientConnected 700, .client (.beginVerification "gdm-autologin"), .hello 1000,
    .client (.beginAutoLogin "bob")].map fun event => (event, {})

theorem namedAutoLogin_initialized_for : AutologinUser namedAutoLogin "bob" :=
  autologin_initialized_for start_greeterSession namedAutoLogin 0
    [.service "gdm-autologin", .extensions [], .username "bob", .displayIsLocal true]
    (by decide) (by decide) (by decide)

/-- The service is only set up for users whom the daemon has configured. -/
def OnlyConfigured (events : List (SessionEvent × Surroundings)) (s : GdmSession) : Prop :=
  ∀ id details username, .called id (.Initialize details) ∈ s.log →
    detailsService details = some autologinService → detailsUsername details = some username →
      ∃ event ∈ events, event.2.automaticLogin = some username ∨
        event.2.timedLogin.bind Prod.fst = some username

/-- Nobody is configured when the greeter names its user. -/
theorem namedAutoLogin_not_configured :
    ¬ OnlyConfigured namedAutoLogin (machine.run greeterSession namedAutoLogin) := by
  intro h
  have hnever : ¬ ∃ event ∈ namedAutoLogin, event.2.automaticLogin = some "bob" ∨
      event.2.timedLogin.bind Prod.fst = some "bob" := by
    decide
  exact hnever (h 0 [.service "gdm-autologin", .extensions [], .username "bob",
    .displayIsLocal true] "bob" (by decide) (by decide) (by decide))

end GdmSession

end Gdm
