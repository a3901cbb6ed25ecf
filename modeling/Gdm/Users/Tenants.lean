import Gdm.Users.Changes

/-!
# The greeters have the users of the store

With userdb each user of the store is that of one launch environment, and each launch environment
that has a user has one of its own, with a name and a home directory that no other one has.
-/

namespace Gdm

/-! ## The calls of the store -/

namespace GdmDynamicUserStore

variable {config : UserdbConfig} {store next : GdmDynamicUserStore}

/-- The users by their numbers. -/
def user (store : GdmDynamicUserStore) (uid : ℕ) : Option DynamicUser :=
  store.byUid.lookup uid

theorem createNamed_user {database : UserDatabase} {request : UserRequest} {username : String}
    {user : DynamicUser}
    (h : store.createNamed config database request username = (next, .ok user)) :
    user.displayName = request.displayName ∧
      user.home = buildFilename config.dynHomeDir user.username := by
  unfold createNamed at h
  split at h
  · cases h
  · split at h
    · cases h
    · dsimp only at h
      split at h
      · cases h
      · cases h
        exact ⟨rfl, rfl⟩

theorem insertUser_user (added : DynamicUser) :
    (store.insertUser added).user = Function.update store.user added.uid (some added) := by
  funext uid
  by_cases hsame : uid = added.uid
  · rw [hsame, Function.update_self]
    exact Finmap.lookup_insert _
  · rw [Function.update_of_ne hsame]
    exact Finmap.lookup_insert_of_ne _ hsame

/-- A user that has been created has a number that nobody had. -/
theorem create_ok {database : UserDatabase} {request : UserRequest} {added : DynamicUser}
    (huserdb : config.haveUserdb = true) (hrange : InRange config store.nextAlloc)
    (h : store.create config database request = some (next, .ok added)) :
    store.user added.uid = none ∧
      next.user = Function.update store.user added.uid (some added) ∧
      InRange config added.uid ∧ added.displayName = request.displayName ∧
      added.home = buildFilename config.dynHomeDir added.username := by
  obtain ⟨username, -, hresult⟩ := Option.map_eq_some_iff.mp h
  obtain ⟨hdisplayName, hhome⟩ := createNamed_user hresult
  have hcreated := createNamed_created database request username hrange
  rw [hresult] at hcreated
  cases hcreated with
  | @added picked _ _ hbyUid _ _ huid =>
    obtain ⟨hinRange, habsent, -⟩ := pickUid_unused huserdb hrange huid
    refine ⟨habsent, ?_, hinRange, hdisplayName, hhome⟩
    have hpicked : picked.user = store.user := by
      unfold user
      rw [hbyUid]
    rw [insertUser_user, hpicked]

theorem create_error_user {database : UserDatabase} {request : UserRequest}
    {error : DynamicUserError} (hrange : InRange config store.nextAlloc)
    (h : store.create config database request = some (next, .error error)) :
    next.user = store.user := by
  unfold user
  rw [(create_error hrange h).2]

/-- Whether a user may be removed. -/
def HomeOfSystem (user : DynamicUser) : Prop :=
  user.home = "/" ∨ user.home.startsWith "/home"

theorem remove_user {uid : ℕ} (h : store.remove uid = some next) :
    next.user = Function.update store.user uid none ∧
      ∀ removed, store.user uid = some removed → ¬ HomeOfSystem removed := by
  unfold remove at h
  split at h
  · rename_i hnone
    obtain rfl := Option.some.inj h
    constructor
    · have hsame : store.user uid = none := hnone
      rw [← hsame, Function.update_eq_self]
    · intro removed hremoved
      unfold user at hremoved
      rw [hnone] at hremoved
      cases hremoved
  · rename_i found hfound
    split at h
    · cases h
    · rename_i hhome
      obtain rfl := Option.some.inj h
      constructor
      · funext other
        by_cases hsame : other = uid
        · rw [hsame, Function.update_self]
          exact Finmap.lookup_erase uid store.byUid
        · rw [Function.update_of_ne hsame]
          exact Finmap.lookup_erase_ne hsame
      · intro removed hremoved
        obtain rfl := Option.some.inj (hfound.symm.trans hremoved)
        exact hhome

end GdmDynamicUserStore

/-! ## Tenants -/

namespace GdmLaunchEnvironment

/-- The number of its user, if it has one. -/
def heldUid (self : GdmLaunchEnvironment) : Option ℕ :=
  if self.dynUid = 0 then none else some self.dynUid

/-- It runs its greeter as the user. -/
structure RunsAs (environment : GdmLaunchEnvironment) (user : DynamicUser) : Prop where
  username : environment.dynUserName = user.username
  home : environment.dynUserHome = user.home
  displayName : environment.userDispName = user.displayName

variable {self : GdmLaunchEnvironment}

theorem heldUid_eq_some_iff {uid : ℕ} : self.heldUid = some uid ↔ self.dynUid = uid ∧ uid ≠ 0 := by
  unfold heldUid
  split
  · rename_i hfree
    constructor
    · intro h
      cases h
    · rintro ⟨rfl, hne⟩
      exact absurd hfree hne
  · rename_i hheld
    constructor
    · intro h
      obtain rfl := Option.some.inj h
      exact ⟨rfl, hheld⟩
    · rintro ⟨rfl, -⟩
      rfl

theorem heldUid_eq_none_iff : self.heldUid = none ↔ self.dynUid = 0 := by
  unfold heldUid
  split
  · rename_i hfree
    exact ⟨fun _ => hfree, fun _ => rfl⟩
  · rename_i hheld
    constructor
    · intro h
      cases h
    · intro h
      exact absurd h hheld

theorem Keeps.heldUid {next : GdmLaunchEnvironment} (h : self.Keeps next) :
    next.heldUid = self.heldUid := by
  unfold GdmLaunchEnvironment.heldUid
  rw [h.dynUid]

theorem Keeps.runsAs {next : GdmLaunchEnvironment} (h : self.Keeps next) {user : DynamicUser}
    (hruns : self.RunsAs user) : next.RunsAs user :=
  ⟨h.dynUserName.trans hruns.username, h.dynUserHome.trans hruns.home,
    h.userDispName.trans hruns.displayName⟩

end GdmLaunchEnvironment

namespace Greeters

open GdmDynamicUserStore GdmLaunchEnvironment

variable {config : UserdbConfig} {gdmGroupname : String} {self next : Greeters} {e : ℕ}
  {environment : GdmLaunchEnvironment}

/-- The process is that of a store after some calls. -/
def Served (config : UserdbConfig) (process : UserStoreProcess) : Prop :=
  ∃ events, process = (UserStoreProcess.machine config).run (UserStoreProcess.init config) events

theorem Served.step {process : UserStoreProcess} (h : Served config process)
    (event : UserStoreEvent) : Served config (UserStoreProcess.step config process event) := by
  obtain ⟨events, rfl⟩ := h
  exact ⟨events ++ [event], by rw [EventMachine.run_concat]; rfl⟩

theorem Served.create {process : UserStoreProcess} {database : UserDatabase} {request : UserRequest}
    {store : GdmDynamicUserStore} {result : Except DynamicUserError DynamicUser}
    (h : Served config process) (hlive : process.aborted = false)
    (hcreate : process.store.create config database request = some (store, result)) :
    Served config { process with store := store } := by
  have hstep : UserStoreProcess.step config process (.create database request) =
      { process with store := store } := by
    simp [UserStoreProcess.step, hlive, hcreate]
  rw [← hstep]
  exact h.step _

theorem Served.remove {process : UserStoreProcess} {uid : ℕ} {store : GdmDynamicUserStore}
    (h : Served config process) (hlive : process.aborted = false)
    (hremove : process.store.remove uid = some store) :
    Served config { process with store := store } := by
  have hstep : UserStoreProcess.step config process (.remove uid) =
      { process with store := store } := by
    simp [UserStoreProcess.step, hlive, hremove]
  rw [← hstep]
  exact h.step _

theorem Served.inRange {process : UserStoreProcess} (h : Served config process) :
    InRange config process.store.nextAlloc := by
  obtain ⟨events, rfl⟩ := h
  exact UserStoreProcess.run_inRange events

theorem Served.numbered {process : UserStoreProcess} (h : Served config process)
    (huserdb : config.haveUserdb = true) : Numbered config process.store := by
  obtain ⟨events, rfl⟩ := h
  exact UserStoreProcess.run_numbered huserdb events

/-- What holds of the launch environments and the store. -/
structure Tenancy (config : UserdbConfig) (greeters : Greeters) : Prop where
  served : Served config greeters.process
  leased : Leases.Leased heldUid RunsAs greeters.process.store.user greeters.environments
  homes : ∀ uid user, greeters.process.store.user uid = some user →
    user.home = buildFilename config.dynHomeDir user.username
  session : ∀ (e : ℕ) environment, greeters.environments[e]? = some environment →
    environment.session = true → environment.dynUid ≠ 0
  finalized : ∀ (e : ℕ) environment, greeters.environments[e]? = some environment →
    environment.finalized = true → environment.dynUid = 0 ∧ environment.session = false

theorem tenancy_init : Tenancy config (init config) := by
  constructor
  · exact ⟨[], rfl⟩
  · have hempty : (init config).process.store.user = fun _ => none := by
      funext uid
      exact Finmap.lookup_empty _
    rw [hempty]
    exact Leases.leased_nil
  · intro uid user huser
    cases huser
  · intro e environment henvironment
    cases henvironment
  · intro e environment henvironment
    cases henvironment

theorem concat_cases {environments : List GdmLaunchEnvironment} {added : GdmLaunchEnvironment}
    (h : (environments ++ [added])[e]? = some environment) :
    environments[e]? = some environment ∨ environment = added := by
  rw [List.getElem?_append] at h
  split at h
  · exact .inl h
  · exact .inr (List.mem_singleton.mp (List.mem_of_getElem? h))

theorem Tenancy.created (h : Tenancy config self) (kind : GreeterKind) :
    Tenancy config { self with
      environments := self.environments ++ [GdmLaunchEnvironment.create gdmGroupname kind] } := by
  constructor
  · exact h.served
  · apply h.leased.concat
    cases kind <;> rfl
  · exact h.homes
  · intro e environment henvironment hsession
    rcases concat_cases henvironment with hold | rfl
    · exact h.session e environment hold hsession
    · cases kind <;> cases hsession
  · intro e environment henvironment hfinalized
    rcases concat_cases henvironment with hold | rfl
    · exact h.finalized e environment hold hfinalized
    · cases kind <;> cases hfinalized

/-- The process goes on with the users that there are. -/
theorem Tenancy.called (h : Tenancy config self) {process : UserStoreProcess}
    (hserved : Served config process) (huser : process.store.user = self.process.store.user) :
    Tenancy config { self with process := process } := by
  constructor
  · exact hserved
  · rw [huser]
    exact h.leased
  · rw [huser]
    exact h.homes
  · exact h.session
  · exact h.finalized

theorem Tenancy.acquired (huserdb : config.haveUserdb = true) (hmin : 0 < config.greeterUidMin)
    (h : Tenancy config self) (hlive : self.process.aborted = false)
    (henvironment : self.environments[e]? = some environment)
    (hopen : environment.finalized = false) (hfree : environment.dynUid = 0)
    {database : UserDatabase} {store : GdmDynamicUserStore} {added : DynamicUser}
    (hcreate : self.process.store.create config database environment.request =
      some (store, .ok added)) :
    Tenancy config
      ({ self with process := { self.process with store := store } }.modifyEnvironment e
        (takeUser added)) := by
  obtain ⟨habsent, huser, hinRange, hdisplayName, hhome⟩ :=
    create_ok huserdb h.served.inRange hcreate
  have hne : added.uid ≠ 0 := by
    have := hinRange.1
    omega
  constructor
  · exact h.served.create hlive hcreate
  · rw [modifyEnvironment_process, huser]
    apply h.leased.acquire henvironment (heldUid_eq_none_iff.mpr hfree) habsent
    · exact heldUid_eq_some_iff.mpr ⟨rfl, hne⟩
    · exact ⟨rfl, rfl, hdisplayName.symm⟩
  · intro uid user hfound
    rw [modifyEnvironment_process, huser] at hfound
    by_cases hsame : uid = added.uid
    · rw [hsame, Function.update_self] at hfound
      obtain rfl := Option.some.inj hfound
      exact hhome
    · rw [Function.update_of_ne hsame] at hfound
      exact h.homes uid user hfound
  · intro d other hother hsession
    rcases Leases.getElem?_modify_cases hother with ⟨rfl, x, hx, rfl⟩ | ⟨-, hold⟩
    · exact hne
    · exact h.session d other hold hsession
  · intro d other hother hfinalized
    rcases Leases.getElem?_modify_cases hother with ⟨rfl, x, hx, rfl⟩ | ⟨-, hold⟩
    · obtain rfl := Option.some.inj (hx.symm.trans henvironment)
      exact absurd (hopen.symm.trans hfinalized) nofun
    · exact h.finalized d other hold hfinalized

theorem Tenancy.released (h : Tenancy config self) (hlive : self.process.aborted = false)
    (henvironment : self.environments[e]? = some environment)
    (hclosed : environment.session = false) (hheld : environment.dynUid ≠ 0)
    {store : GdmDynamicUserStore}
    (hremove : self.process.store.remove environment.dynUid = some store) :
    Tenancy config
      ({ self with process := { self.process with store := store } }.modifyEnvironment e
        fun environment => { environment with dynUid := 0 }) := by
  obtain ⟨huser, -⟩ := remove_user hremove
  constructor
  · exact h.served.remove hlive hremove
  · rw [modifyEnvironment_process, huser]
    exact h.leased.release henvironment (heldUid_eq_some_iff.mpr ⟨rfl, hheld⟩) rfl
  · intro uid user hfound
    rw [modifyEnvironment_process, huser] at hfound
    by_cases hsame : uid = environment.dynUid
    · rw [hsame, Function.update_self] at hfound
      cases hfound
    · rw [Function.update_of_ne hsame] at hfound
      exact h.homes uid user hfound
  · intro d other hother hsession
    rcases Leases.getElem?_modify_cases hother with ⟨rfl, x, hx, rfl⟩ | ⟨-, hold⟩
    · obtain rfl := Option.some.inj (hx.symm.trans henvironment)
      exact absurd (hclosed.symm.trans hsession) nofun
    · exact h.session d other hold hsession
  · intro d other hother hfinalized
    rcases Leases.getElem?_modify_cases hother with ⟨rfl, x, hx, rfl⟩ | ⟨-, hold⟩
    · exact ⟨rfl, (h.finalized d x hx hfinalized).2⟩
    · exact h.finalized d other hold hfinalized

theorem Tenancy.modified (h : Tenancy config self) {f : GdmLaunchEnvironment → GdmLaunchEnvironment}
    (hkeeps : ∀ environment, self.environments[e]? = some environment →
      environment.Keeps (f environment)) : Tenancy config (self.modifyEnvironment e f) := by
  constructor
  · exact h.served
  · apply h.leased.modify
    · intro x hx
      exact (hkeeps x hx).heldUid
    · intro x user hx hruns
      exact (hkeeps x hx).runsAs hruns
  · exact h.homes
  · intro d other hother hsession
    rcases Leases.getElem?_modify_cases hother with ⟨rfl, x, hx, rfl⟩ | ⟨-, hold⟩
    · rw [(hkeeps x hx).dynUid]
      rcases (hkeeps x hx).session hsession with hheld | hheld
      · exact h.session d x hx hheld
      · exact hheld
    · exact h.session d other hold hsession
  · intro d other hother hfinalized
    rcases Leases.getElem?_modify_cases hother with ⟨rfl, x, hx, rfl⟩ | ⟨-, hold⟩
    · exact (hkeeps x hx).finalized hfinalized
    · exact h.finalized d other hold hfinalized

theorem Tenancy.emit (h : Tenancy config self) (effect : GreeterEffect) :
    Tenancy config (self.emit effect) :=
  ⟨h.served, h.leased, h.homes, h.session, h.finalized⟩

/-- Every change keeps it. -/
theorem Tenancy.change (huserdb : config.haveUserdb = true) (hmin : 0 < config.greeterUidMin)
    (hchange : Change config e self next) (h : Tenancy config self) : Tenancy config next := by
  cases hchange with
  | created hnew gdmGroupname kind => exact h.created kind
  | aborted hstep =>
    refine h.called ?_ rfl
    rw [← hstep]
    exact h.served.step _
  | @refused database request store error hlive hcreate =>
    exact h.called (h.served.create hlive hcreate) (create_error_user h.served.inRange hcreate)
  | acquired hlive henvironment hopen hfree hcreate =>
    exact h.acquired huserdb hmin hlive henvironment hopen hfree hcreate
  | released hlive henvironment hclosed hheld hremove =>
    exact h.released hlive henvironment hclosed hheld hremove
  | modified f henvironment hkeeps hpid =>
    apply h.modified
    intro x hx
    obtain rfl := Option.some.inj (hx.symm.trans henvironment)
    exact hkeeps
  | started henvironment hopen pid =>
    apply Tenancy.emit
    apply h.modified
    intro x hx
    obtain rfl := Option.some.inj (hx.symm.trans henvironment)
    constructor
    · rfl
    · rfl
    · rfl
    · rfl
    · exact fun hsession => .inl hsession
    · intro habsurd
      exact absurd (hopen.symm.trans habsurd) nofun
  | terminated => exact h.emit _
  | emitted effect => exact h.emit effect

theorem run_tenancy (huserdb : config.haveUserdb = true) (hmin : 0 < config.greeterUidMin)
    (events : List GreeterEvent) :
    Tenancy config ((machine config gdmGroupname).run (init config) events) :=
  run_of_change tenancy_init (fun _ _ _ hchange h => h.change huserdb hmin hchange) events

/-! ## Others -/

/-- A change is to one launch environment. -/
theorem Change.others {d : ℕ} (h : Change config e self next) (hne : d ≠ e) :
    next.environments[d]? = self.environments[d]? := by
  have hmodify : ∀ f, (self.environments.modify e f)[d]? = self.environments[d]? := fun f =>
    List.getElem?_modify_ne _ _ (Ne.symm hne)
  cases h with
  | created hnew =>
    rw [List.getElem?_append]
    split
    · rfl
    · rename_i hlarge
      rw [List.getElem?_eq_none (by rw [List.length_singleton]; omega),
        List.getElem?_eq_none (by omega)]
  | aborted => rfl
  | refused => rfl
  | acquired => exact hmodify _
  | released => exact hmodify _
  | modified => exact hmodify _
  | started => exact hmodify _
  | terminated => rfl
  | emitted => rfl

/-- A user that a change removes is the one of its launch environment, and its home is not a
directory of the system. -/
theorem Change.user_cases {uid : ℕ} {user : DynamicUser} (huserdb : config.haveUserdb = true)
    (hserved : Served config self.process) (h : Change config e self next)
    (huser : self.process.store.user uid = some user) :
    next.process.store.user uid = some user ∨
      ¬ HomeOfSystem user ∧ ∃ environment, self.environments[e]? = some environment ∧
        environment.heldUid = some uid := by
  cases h with
  | created => exact .inl huser
  | aborted => exact .inl huser
  | refused hlive hcreate =>
    left
    rw [← huser]
    exact congrFun (create_error_user hserved.inRange hcreate) uid
  | acquired hlive henvironment hopen hfree hcreate =>
    obtain ⟨habsent, hnext, -⟩ := create_ok huserdb hserved.inRange hcreate
    left
    rw [modifyEnvironment_process, hnext, Function.update_of_ne]
    · exact huser
    · rintro rfl
      rw [habsent] at huser
      cases huser
  | @released environment store hlive henvironment hclosed hheld hremove =>
    obtain ⟨hnext, hhome⟩ := remove_user hremove
    by_cases hsame : uid = environment.dynUid
    · subst hsame
      exact .inr ⟨hhome user huser, environment, henvironment,
        heldUid_eq_some_iff.mpr ⟨rfl, hheld⟩⟩
    · left
      rw [modifyEnvironment_process, hnext, Function.update_of_ne hsame]
      exact huser
  | modified => exact .inl huser
  | started => exact .inl huser
  | terminated => exact .inl huser
  | emitted => exact .inl huser

theorem Changes.others {d : ℕ} (h : Changes config e self next) (hne : d ≠ e) :
    next.environments[d]? = self.environments[d]? := by
  induction h with
  | refl => rfl
  | tail _ hlast ih => exact (hlast.others hne).trans ih

/-- The user of a launch environment that a chain of changes is not about stays. -/
theorem Changes.keeps_user {d uid : ℕ} {other : GdmLaunchEnvironment} {user : DynamicUser}
    (huserdb : config.haveUserdb = true) (hmin : 0 < config.greeterUidMin)
    (h : Changes config e self next) (htenancy : Tenancy config self) (hne : d ≠ e)
    (hother : self.environments[d]? = some other) (hheld : other.heldUid = some uid)
    (huser : self.process.store.user uid = some user) :
    next.process.store.user uid = some user := by
  induction h with
  | refl => exact huser
  | tail hbefore hlast ih =>
    have hmid := Changes.invariant hbefore
      (fun _ _ _ hchange hinv => hinv.change huserdb hmin hchange) htenancy
    have hother' := (Changes.others hbefore hne).trans hother
    rcases hlast.user_cases huserdb hmid.served ih with hkept | ⟨-, environment, hat, hkey⟩
    · exact hkept
    · exact absurd (hmid.leased.one d e _ _ uid hother' hat hheld hkey) hne

theorem Changes.user_cases {uid : ℕ} {user : DynamicUser} (huserdb : config.haveUserdb = true)
    (hmin : 0 < config.greeterUidMin) (h : Changes config e self next)
    (htenancy : Tenancy config self) (huser : self.process.store.user uid = some user) :
    next.process.store.user uid = some user ∨ ¬ HomeOfSystem user := by
  induction h with
  | refl => exact .inl huser
  | tail hbefore hlast ih =>
    have hmid := Changes.invariant hbefore
      (fun _ _ _ hchange hinv => hinv.change huserdb hmin hchange) htenancy
    rcases ih with huser' | hhome
    · exact (hlast.user_cases huserdb hmid.served huser').imp id And.left
    · exact .inr hhome

end Greeters

end Gdm
