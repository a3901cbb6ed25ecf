import Gdm.Factory.UserDisplays

/-!
# Creations of displays that are outstanding

An entry of the table has the value `NULL`, which is also what is found where there is no
entry, so a second creation is refused only when the first one's session is there already.
Both requests change the table before a step that may fail, and do not change it back.
-/

namespace Gdm

/-- The caller may manage the displays of users. -/
def UserDisplayOutcomes.Authorized (outcomes : UserDisplayOutcomes) : Prop :=
  outcomes.authority = .ok () ∧ outcomes.authorized = .ok true

/-- The sessions of the user are looked up, and there is none. -/
def UserDisplayOutcomes.NoSession (outcomes : UserDisplayOutcomes) : Prop :=
  outcomes.pwent = true ∧ outcomes.graphicalSessions = some []

/-- The sessions of the user are looked up, and all of them are terminated. -/
def UserDisplayOutcomes.Terminated (outcomes : UserDisplayOutcomes) : Prop :=
  outcomes.pwent = true ∧ outcomes.systemBus = .ok () ∧
    ∃ sessions, outcomes.graphicalSessions = some sessions ∧ sessions ≠ [] ∧
      ∀ session ∈ sessions, outcomes.terminates session = true

namespace GdmDisplayFactory

variable {self other : GdmDisplayFactory} {cls : FactoryClass} {outcomes : UserDisplayOutcomes}
  {user : String} {request : UserDisplayRequest}

/-! ## The steps of a request -/

theorem authorize_ok_iff : authorizeManageUserDisplays outcomes = .ok () ↔ outcomes.Authorized := by
  unfold authorizeManageUserDisplays UserDisplayOutcomes.Authorized
  split
  · rename_i heq
    simp [heq]
  · rename_i heq
    split
    · rename_i hauthorized
      simp [hauthorized]
    · rename_i hauthorized
      simp [hauthorized]
    · rename_i hauthorized
      simp [heq, hauthorized]

theorem answer_unauthorized (cls : FactoryClass) (self : GdmDisplayFactory)
    (h : ¬ request.outcomes.Authorized) :
    ∃ error, self.answer cls request = (self, .error error) := by
  unfold answer
  split
  · rename_i error heq
    exact ⟨error, rfl⟩
  · rename_i heq
    exact absurd (authorize_ok_iff.mp heq) h

theorem answer_authorized (cls : FactoryClass) (self : GdmDisplayFactory)
    (h : request.outcomes.Authorized) :
    self.answer cls request =
      match request.method with
      | .createUserDisplay => self.handleCreateUserDisplay cls request.outcomes request.user
      | .destroyUserDisplay => self.handleDestroyUserDisplay request.outcomes request.user := by
  unfold answer
  split
  · rename_i error heq
    rw [authorize_ok_iff.mpr h] at heq
    cases heq
  · cases request.method with
    | createUserDisplay => rfl
    | destroyUserDisplay => rfl

theorem findGraphicalSessions_ok_iff {sessions : List String} :
    findGraphicalSessionsForUsername outcomes user = .ok sessions ↔
      outcomes.pwent = true ∧ outcomes.graphicalSessions = some sessions := by
  unfold findGraphicalSessionsForUsername
  split
  · rename_i hpwent
    split
    · rename_i heq
      simp [hpwent, heq]
    · rename_i heq
      simp [heq]
  · rename_i hpwent
    simp [hpwent]

/-- Nothing that is found in the table stops a creation but a value. -/
theorem onUserDisplayCreation_entered (hvalue : (self.displayCreationUsers.lookup user).join = none)
    (hnone : outcomes.NoSession) :
    self.onUserDisplayCreation outcomes user =
      ({ self with displayCreationUsers := self.displayCreationUsers.insert user none },
        .ok ()) := by
  unfold onUserDisplayCreation
  rw [if_neg (by simp [hvalue]), findGraphicalSessions_ok_iff.mpr hnone]

theorem onUserDisplayCreation_refused
    (h : ¬ ((self.displayCreationUsers.lookup user).join = none ∧ outcomes.NoSession)) :
    ∃ error, self.onUserDisplayCreation outcomes user = (self, .error error) := by
  unfold onUserDisplayCreation
  split
  · exact ⟨_, rfl⟩
  · rename_i hvalue
    split
    · exact ⟨_, rfl⟩
    · exact ⟨_, rfl⟩
    · rename_i heq
      exact absurd ⟨not_not.mp hvalue, findGraphicalSessions_ok_iff.mp heq⟩ h

theorem handleCreateUserDisplay_entered
    (hvalue : (self.displayCreationUsers.lookup user).join = none) (hnone : outcomes.NoSession) :
    self.handleCreateUserDisplay cls outcomes user =
      ({ displayCreationUsers := self.displayCreationUsers.insert user none
         autologinUsers := self.autologinUsers ++ [user] },
        if outcomes.prepares then .ok () else .error (preparationError cls)) := by
  unfold handleCreateUserDisplay
  rw [onUserDisplayCreation_entered hvalue hnone]
  simp only [createDisplay]
  split
  · rfl
  · rfl

theorem handleCreateUserDisplay_refused (cls : FactoryClass)
    (h : ¬ ((self.displayCreationUsers.lookup user).join = none ∧ outcomes.NoSession)) :
    ∃ error, self.handleCreateUserDisplay cls outcomes user = (self, .error error) := by
  obtain ⟨error, heq⟩ := onUserDisplayCreation_refused h
  exact ⟨error, by rw [handleCreateUserDisplay, heq]⟩

theorem terminateSessions_ok_iff {sessions : List String} :
    terminateSessions outcomes sessions = .ok () ↔
      ∀ session ∈ sessions, outcomes.terminates session = true := by
  induction sessions with
  | nil => simp [terminateSessions]
  | cons session sessions ih =>
    unfold terminateSessions
    split
    · rename_i hterminates
      simp [ih, hterminates]
    · rename_i hterminates
      simp [hterminates]

theorem handleDestroyUserDisplay_missing (outcomes : UserDisplayOutcomes)
    (h : user ∉ self.displayCreationUsers) :
    ∃ error, self.handleDestroyUserDisplay outcomes user = (self, .error error) := by
  rw [← Finmap.lookup_eq_none] at h
  exact ⟨_, by rw [handleDestroyUserDisplay, onUserDisplayDestruction, if_pos (by simp [h])]⟩

/-- The entry is removed before it is known whether the display can be destroyed. -/
theorem handleDestroyUserDisplay_removed (outcomes : UserDisplayOutcomes)
    (h : user ∈ self.displayCreationUsers) :
    (self.handleDestroyUserDisplay outcomes user).1 =
        { self with displayCreationUsers := self.displayCreationUsers.erase user } ∧
      ((self.handleDestroyUserDisplay outcomes user).2 = .ok () ↔ outcomes.Terminated) := by
  obtain ⟨value, hvalue⟩ := Finmap.mem_iff.mp h
  unfold handleDestroyUserDisplay onUserDisplayDestruction UserDisplayOutcomes.Terminated
  rw [if_neg (by simp [hvalue])]
  dsimp only
  split
  · rename_i error heq
    refine ⟨rfl, ?_⟩
    simp only [reduceCtorEq, false_iff]
    rintro ⟨hpwent, -, sessions, hfound, -⟩
    rw [findGraphicalSessions_ok_iff.mpr ⟨hpwent, hfound⟩] at heq
    cases heq
  · rename_i heq
    refine ⟨rfl, ?_⟩
    have hfound := (findGraphicalSessions_ok_iff.mp heq).2
    simp [hfound]
  · rename_i session sessions heq
    obtain ⟨hpwent, hfound⟩ := findGraphicalSessions_ok_iff.mp heq
    split
    · rename_i hbus
      exact ⟨rfl, by simp [hbus]⟩
    · rename_i hbus
      refine ⟨rfl, ?_⟩
      rw [terminateSessions_ok_iff]
      simp [hpwent, hfound, hbus]

/-! ## Errors and the table -/

/-- A request that is answered with an error leaves the table. -/
def Atomic (cls : FactoryClass) (self : GdmDisplayFactory) (request : UserDisplayRequest) : Prop :=
  ∀ error, (self.answer cls request).2 = .error error →
    (self.answer cls request).1.displayCreationUsers = self.displayCreationUsers

/-- No step fails after the table has changed: a display is prepared when its user is entered,
and the sessions of a user that is in the table are all terminated when they are to be. -/
def Undisturbed (self : GdmDisplayFactory) (request : UserDisplayRequest) : Prop :=
  request.outcomes.Authorized →
    match request.method with
    | .createUserDisplay =>
      request.user ∉ self.displayCreationUsers → request.outcomes.NoSession →
        request.outcomes.prepares = true
    | .destroyUserDisplay =>
      request.user ∈ self.displayCreationUsers → request.outcomes.Terminated

theorem atomic_create_iff (hauthorized : request.outcomes.Authorized)
    (hmethod : request.method = .createUserDisplay) :
    Atomic cls self request ↔ Undisturbed self request := by
  have hanswer := answer_authorized cls self hauthorized
  rw [hmethod] at hanswer
  unfold Atomic Undisturbed
  rw [hanswer, hmethod]
  dsimp only
  by_cases hentered : (self.displayCreationUsers.lookup request.user).join = none ∧
      request.outcomes.NoSession
  · rw [handleCreateUserDisplay_entered hentered.1 hentered.2]
    by_cases hprepares : request.outcomes.prepares = true
    · simp [hprepares]
    · rw [if_neg hprepares]
      constructor
      · intro hatomic _ hmissing
        have hsame := hatomic _ rfl
        rw [← hsame] at hmissing
        exact absurd (Finmap.mem_insert.mpr (.inl rfl)) hmissing
      · intro hundisturbed _ _
        have hmem : request.user ∈ self.displayCreationUsers := by
          by_contra hmissing
          exact hprepares (hundisturbed hauthorized hmissing hentered.2)
        obtain ⟨value, hvalue⟩ := Finmap.mem_iff.mp hmem
        have hnull : value = none := by simpa [hvalue] using hentered.1
        subst hnull
        apply Finmap.ext_lookup
        intro name
        by_cases hname : name = request.user
        · rw [hname, Finmap.lookup_insert, hvalue]
        · rw [Finmap.lookup_insert_of_ne _ hname]
  · obtain ⟨error, heq⟩ := handleCreateUserDisplay_refused cls hentered
    rw [heq]
    constructor
    · intro _ _ hmissing hnone
      exact absurd ⟨by rw [Finmap.lookup_eq_none.mpr hmissing]; rfl, hnone⟩ hentered
    · intro _ _ _
      rfl

theorem atomic_destroy_iff (hauthorized : request.outcomes.Authorized)
    (hmethod : request.method = .destroyUserDisplay) :
    Atomic cls self request ↔ Undisturbed self request := by
  have hanswer := answer_authorized cls self hauthorized
  rw [hmethod] at hanswer
  unfold Atomic Undisturbed
  rw [hanswer, hmethod]
  dsimp only
  by_cases hmem : request.user ∈ self.displayCreationUsers
  · obtain ⟨hremoved, hok⟩ := handleDestroyUserDisplay_removed request.outcomes hmem
    rw [hremoved]
    have hchanged : self.displayCreationUsers.erase request.user ≠ self.displayCreationUsers := by
      intro hsame
      rw [← hsame] at hmem
      exact Finmap.notMem_erase_self hmem
    simp only [hchanged, imp_false, hmem, forall_const, hauthorized, ← hok]
    cases (self.handleDestroyUserDisplay request.outcomes request.user).2 with
    | error error => simp
    | ok done => simp
  · obtain ⟨error, heq⟩ := handleDestroyUserDisplay_missing request.outcomes hmem
    rw [heq]
    simp [hmem]

/-- What is answered depends on the table alone. -/
theorem answer_congr (users : List String) (request : UserDisplayRequest) :
    (({ self with autologinUsers := users } : GdmDisplayFactory).answer cls request).2 =
      (self.answer cls request).2 := by
  by_cases hauthorized : request.outcomes.Authorized
  · rw [answer_authorized _ _ hauthorized, answer_authorized _ _ hauthorized]
    split
    · unfold handleCreateUserDisplay onUserDisplayCreation createDisplay
      by_cases hvalue : (self.displayCreationUsers.lookup request.user).join ≠ none
      · simp only [if_pos hvalue]
      · simp only [if_neg hvalue]
        cases findGraphicalSessionsForUsername request.outcomes request.user with
        | error error => rfl
        | ok sessions =>
          cases sessions with
          | nil =>
            dsimp only
            split
            · rfl
            · rfl
          | cons => rfl
    · unfold handleDestroyUserDisplay onUserDisplayDestruction
      dsimp only
      split
      · rfl
      · split
        · rfl
        · rfl
        · split
          · rfl
          · rfl
  · unfold answer
    split
    · rfl
    · rename_i heq
      exact absurd (authorize_ok_iff.mp heq) hauthorized

/-- A request is atomic just when no step fails after the table has changed.  Then one that
has been answered with an error can be made again as if for the first time. -/
theorem answer_atomic_iff (cls : FactoryClass) (self : GdmDisplayFactory)
    (request : UserDisplayRequest) :
    (Atomic cls self request ↔ Undisturbed self request) ∧
    (Undisturbed self request → ∀ error, (self.answer cls request).2 = .error error →
      ∀ retry, ((self.answer cls request).1.answer cls retry).2 = (self.answer cls retry).2) := by
  have hiff : Atomic cls self request ↔ Undisturbed self request := by
    by_cases hauthorized : request.outcomes.Authorized
    · cases hmethod : request.method with
      | createUserDisplay => exact atomic_create_iff hauthorized hmethod
      | destroyUserDisplay => exact atomic_destroy_iff hauthorized hmethod
    · obtain ⟨error, heq⟩ := answer_unauthorized cls self hauthorized
      simp [Atomic, Undisturbed, heq, hauthorized]
  refine ⟨hiff, ?_⟩
  intro hundisturbed error herror retry
  have hsame := hiff.mpr hundisturbed error herror
  have hnext : (self.answer cls request).1 =
      { self with autologinUsers := (self.answer cls request).1.autologinUsers } := by
    rw [← hsame]
  rw [hnext]
  exact answer_congr _ retry

/-- A display is to be destroyed before its session is there: it is an error, and the user is
no longer in the table. -/
theorem answer_not_atomic :
    ¬ ∀ (cls : FactoryClass) (self : GdmDisplayFactory) (request : UserDisplayRequest),
      Atomic cls self request := by
  intro h
  have hatomic := h .local
    { displayCreationUsers := Finmap.singleton "user" none }
    { method := .destroyUserDisplay, user := "user", outcomes := {} }
    (.general "There's no display for user user") (by decide)
  have hlookup := congrArg (Finmap.lookup "user") hatomic
  exact absurd hlookup (by decide)

/-- All values of the table are `NULL`. -/
def NullValues (self : GdmDisplayFactory) : Prop :=
  ∀ user, (self.displayCreationUsers.lookup user).join = none

theorem nullValues_insert (h : NullValues self) (user : String) :
    NullValues
      { self with displayCreationUsers := self.displayCreationUsers.insert user none } := by
  intro name
  by_cases hname : name = user
  · rw [hname, Finmap.lookup_insert]
    rfl
  · rw [Finmap.lookup_insert_of_ne _ hname]
    exact h name

theorem nullValues_erase (h : NullValues self) (user : String) :
    NullValues { self with displayCreationUsers := self.displayCreationUsers.erase user } := by
  intro name
  by_cases hname : name = user
  · rw [hname, Finmap.lookup_erase]
    rfl
  · rw [Finmap.lookup_erase_ne hname]
    exact h name

theorem answer_nullValues (h : NullValues self) (request : UserDisplayRequest) :
    NullValues (self.answer cls request).1 := by
  by_cases hauthorized : request.outcomes.Authorized
  · rw [answer_authorized _ _ hauthorized]
    split
    · by_cases hnone : request.outcomes.NoSession
      · rw [handleCreateUserDisplay_entered (h request.user) hnone]
        exact nullValues_insert h request.user
      · obtain ⟨error, heq⟩ :=
          handleCreateUserDisplay_refused cls
            (fun hentered => hnone hentered.2)
        rw [heq]
        exact h
    · by_cases hmem : request.user ∈ self.displayCreationUsers
      · rw [(handleDestroyUserDisplay_removed _ hmem).1]
        exact nullValues_erase h request.user
      · obtain ⟨error, heq⟩ := handleDestroyUserDisplay_missing request.outcomes hmem
        rw [heq]
        exact h
  · obtain ⟨error, heq⟩ := answer_unauthorized cls self hauthorized
    rw [heq]
    exact h

/-- A creation is refused, and no display is created. -/
def Refused (cls : FactoryClass) (self : GdmDisplayFactory) (request : UserDisplayRequest) : Prop :=
  (∃ error, (self.answer cls request).2 = .error error) ∧
    (self.answer cls request).1.autologinUsers = self.autologinUsers

/-- As no value stops it, a creation is refused just when the caller may not make it or the
sessions of the user do. -/
theorem refused_iff (h : NullValues self) (hmethod : request.method = .createUserDisplay) :
    Refused cls self request ↔ (request.outcomes.Authorized → ¬ request.outcomes.NoSession) := by
  unfold Refused
  by_cases hauthorized : request.outcomes.Authorized
  · rw [answer_authorized _ _ hauthorized, hmethod]
    dsimp only
    by_cases hnone : request.outcomes.NoSession
    · rw [handleCreateUserDisplay_entered (h request.user) hnone]
      simp [hauthorized, hnone]
    · obtain ⟨error, heq⟩ :=
        handleCreateUserDisplay_refused cls
          (fun hentered => hnone hentered.2)
      rw [heq]
      simp [hnone]
  · obtain ⟨error, heq⟩ := answer_unauthorized cls self hauthorized
    rw [heq]
    simp [hauthorized]

end GdmDisplayFactory

/-! ## Creations of one user -/

namespace UserDisplays

open GdmDisplayFactory

variable {cls : FactoryClass} {self : UserDisplays}

/-- A request to create a display for a user who has one that is not destroyed. -/
def CreatesAgain (self : UserDisplays) (request : UserDisplayRequest) : Prop :=
  request.method = .createUserDisplay ∧ 0 < outstanding request.user self.succeeded

/-- A creation that is made again finds a session of the user, or does not get so far. -/
def FindsSession (self : UserDisplays) (request : UserDisplayRequest) : Prop :=
  CreatesAgain self request → request.outcomes.Authorized → ¬ request.outcomes.NoSession

theorem step_factory (request : UserDisplayRequest) :
    (step cls self request).factory = (self.factory.answer cls request).1 := by
  unfold step
  split
  · rename_i heq
    rw [heq]
  · rename_i heq
    rw [heq]

theorem run_nullValues (requests : List UserDisplayRequest) :
    NullValues ((machine cls).run {} requests).factory := by
  apply (machine cls).run_invariant (fun self => NullValues self.factory)
  · intro self request h
    show NullValues (step cls self request).factory
    rw [step_factory]
    exact answer_nullValues h request
  · intro user
    rw [Finmap.lookup_empty]
    rfl

/-- A creation that is refused when it is made again is never outstanding twice. -/
theorem step_outstanding {request : UserDisplayRequest}
    (hrefused : CreatesAgain self request → Refused cls self.factory request)
    (h : ∀ user, outstanding user self.succeeded ≤ 1) (user : String) :
    outstanding user (step cls self request).succeeded ≤ 1 := by
  unfold step
  split
  · rename_i factory done heq
    unfold outstanding
    dsimp only
    split
    · rename_i huser
      split
      · rename_i hmethod
        have hnone : ¬ 0 < outstanding user self.succeeded := by
          intro hlt
          rw [← huser] at hlt
          obtain ⟨⟨error, herror⟩, -⟩ := hrefused ⟨hmethod, hlt⟩
          rw [heq] at herror
          cases herror
        omega
      · exact Nat.zero_le 1
    · exact h user
  · exact h user

/-- A second creation is refused, wherever there is one in a run, just when it finds a session
of the user.  Then no user has more than one creation outstanding. -/
theorem run_outstanding (cls : FactoryClass) (requests : List UserDisplayRequest) :
    ((machine cls).Meets FindsSession {} requests ↔
      ∀ before request after, requests = before ++ request :: after →
        CreatesAgain ((machine cls).run {} before) request →
        Refused cls ((machine cls).run {} before).factory request) ∧
    ((machine cls).Meets FindsSession {} requests →
      ∀ user, outstanding user ((machine cls).run {} requests).succeeded ≤ 1) := by
  have hiff (before : List UserDisplayRequest) (request : UserDisplayRequest) :
      FindsSession ((machine cls).run {} before) request ↔
        (CreatesAgain ((machine cls).run {} before) request →
          Refused cls ((machine cls).run {} before).factory request) := by
    constructor
    · intro h hagain
      exact (refused_iff (run_nullValues before) hagain.1).mpr (h hagain)
    · intro h hagain
      exact (refused_iff (run_nullValues before) hagain.1).mp (h hagain)
  have hmeets : (machine cls).Meets FindsSession {} requests ↔
      (machine cls).Meets
        (fun self request => CreatesAgain self request → Refused cls self.factory request)
        {} requests := by
    rw [EventMachine.meets_iff_forall_step, EventMachine.meets_iff_forall_step]
    constructor
    · intro h before request after hes
      exact (hiff before request).mp (h before request after hes)
    · intro h before request after hes
      exact (hiff before request).mpr (h before request after hes)
  constructor
  · rw [hmeets, EventMachine.meets_iff_forall_step]
  · intro h
    apply (hmeets.mp h).invariant (fun self => ∀ user, outstanding user self.succeeded ≤ 1)
    · intro self request hone hrefused
      exact step_outstanding hrefused hone
    · intro user
      exact Nat.zero_le 1

/-- Two displays are created for a user whose first session has not started yet. -/
theorem run_createsAgain :
    ¬ ∀ (cls : FactoryClass) (before : List UserDisplayRequest) (request : UserDisplayRequest),
      CreatesAgain ((machine cls).run {} before) request →
      Refused cls ((machine cls).run {} before).factory request := by
  intro h
  have hrefused := h .local
    [{ method := .createUserDisplay, user := "user", outcomes := {} }]
    { method := .createUserDisplay, user := "user", outcomes := {} }
    ⟨rfl, by decide⟩
  exact absurd hrefused.2 (by decide)

end UserDisplays

end Gdm
