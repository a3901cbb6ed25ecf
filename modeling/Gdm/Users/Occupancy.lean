import Gdm.Users.Enumeration
import Gdm.Users.Tenants

/-!
# What others see of the users of the greeters

The users of the store are those of the launch environments.  An event leaves the users of the
launch environments that it is not about, and the userdb service tells of each greeter just what
it runs as.
-/

namespace Gdm

namespace Greeters

open GdmDynamicUserStore GdmLaunchEnvironment

variable {config : UserdbConfig} {gdmGroupname : String} {greeters : Greeters}

/-- Each launch environment that has a user has one of its own, and there are no other users. -/
structure Occupied (config : UserdbConfig) (greeters : Greeters) : Prop where
  user : ∀ (e : ℕ) environment, greeters.environments[e]? = some environment →
    environment.dynUid ≠ 0 → ∃ user, greeters.process.store.Has user ∧
      user.uid = environment.dynUid ∧ environment.RunsAs user ∧ InRange config user.uid
  tenant : ∀ user, greeters.process.store.Has user → ∃ (e : ℕ) (environment : GdmLaunchEnvironment),
    greeters.environments[e]? = some environment ∧ environment.dynUid = user.uid ∧
      environment.RunsAs user
  distinct : ∀ (d e : ℕ) first second, greeters.environments[d]? = some first →
    greeters.environments[e]? = some second → first.dynUid ≠ 0 → second.dynUid ≠ 0 → d ≠ e →
      first.dynUid ≠ second.dynUid ∧ first.dynUserName ≠ second.dynUserName ∧
        first.dynUserHome ≠ second.dynUserHome
  session : ∀ (e : ℕ) environment, greeters.environments[e]? = some environment →
    environment.session = true → environment.dynUid ≠ 0
  finalized : ∀ (e : ℕ) environment, greeters.environments[e]? = some environment →
    environment.finalized = true → environment.dynUid = 0 ∧ environment.session = false

theorem Tenancy.user_iff (huserdb : config.haveUserdb = true) (h : Tenancy config greeters)
    {uid : ℕ} {user : DynamicUser} : greeters.process.store.user uid = some user ↔
      greeters.process.store.Has user ∧ user.uid = uid := by
  have hindexed := (h.served.numbered huserdb).indexed
  constructor
  · intro hfound
    obtain ⟨rfl, hhas⟩ := hindexed.right uid user hfound
    exact ⟨hhas, rfl⟩
  · rintro ⟨hhas, rfl⟩
    exact (hindexed.left _ user hhas).2

/-- The user of a launch environment. -/
theorem Tenancy.user (huserdb : config.haveUserdb = true) (h : Tenancy config greeters) {e : ℕ}
    {environment : GdmLaunchEnvironment}
    (henvironment : greeters.environments[e]? = some environment)
    (hheld : environment.dynUid ≠ 0) : ∃ user, greeters.process.store.Has user ∧
      user.uid = environment.dynUid ∧ environment.RunsAs user := by
  obtain ⟨user, hfound, hruns⟩ :=
    h.leased.entry e environment _ henvironment (heldUid_eq_some_iff.mpr ⟨rfl, hheld⟩)
  obtain ⟨hhas, huid⟩ := (h.user_iff huserdb).mp hfound
  exact ⟨user, hhas, huid, hruns⟩

theorem Tenancy.tenant (huserdb : config.haveUserdb = true) (h : Tenancy config greeters)
    {user : DynamicUser} (hhas : greeters.process.store.Has user) :
    ∃ (e : ℕ) (environment : GdmLaunchEnvironment), greeters.environments[e]? = some environment ∧
      environment.heldUid = some user.uid ∧ environment.RunsAs user := by
  have hfound := (h.user_iff huserdb).mpr ⟨hhas, rfl⟩
  obtain ⟨e, environment, henvironment, hkey⟩ := h.leased.holder _ _ hfound
  obtain ⟨user', hfound', hruns⟩ := h.leased.entry e environment _ henvironment hkey
  obtain rfl := Option.some.inj (hfound.symm.trans hfound')
  exact ⟨e, environment, henvironment, hkey, hruns⟩

/-- The home directory of a user is told from its name, so no two users have one. -/
theorem Tenancy.eq_of_home (huserdb : config.haveUserdb = true) (h : Tenancy config greeters)
    {user other : DynamicUser} (huser : greeters.process.store.Has user)
    (hother : greeters.process.store.Has other) (hhome : user.home = other.home) :
    user = other := by
  have hindexed := (h.served.numbered huserdb).indexed
  have hpath := h.homes _ _ ((h.user_iff huserdb).mpr ⟨huser, rfl⟩)
  have hpath' := h.homes _ _ ((h.user_iff huserdb).mpr ⟨hother, rfl⟩)
  rw [hpath, hpath', buildFilename, buildFilename, ← String.toList_inj] at hhome
  simp only [String.toList_append] at hhome
  exact hindexed.eq_of_key huser hother
    (.inl (String.toList_inj.mp (List.append_cancel_left hhome)))

theorem Tenancy.distinct (huserdb : config.haveUserdb = true) (h : Tenancy config greeters)
    {d e : ℕ} {first second : GdmLaunchEnvironment}
    (hfirst : greeters.environments[d]? = some first)
    (hsecond : greeters.environments[e]? = some second) (hheld : first.dynUid ≠ 0)
    (hheld' : second.dynUid ≠ 0) (hne : d ≠ e) :
    first.dynUid ≠ second.dynUid ∧ first.dynUserName ≠ second.dynUserName ∧
      first.dynUserHome ≠ second.dynUserHome := by
  have hindexed := (h.served.numbered huserdb).indexed
  obtain ⟨user, hhas, huid, hruns⟩ := h.user huserdb hfirst hheld
  obtain ⟨user', hhas', huid', hruns'⟩ := h.user huserdb hsecond hheld'
  have hother : user ≠ user' := by
    rintro rfl
    apply hne
    exact h.leased.one d e first second user.uid hfirst hsecond
      (heldUid_eq_some_iff.mpr ⟨huid.symm, huid ▸ hheld⟩)
      (heldUid_eq_some_iff.mpr ⟨huid'.symm, huid ▸ hheld⟩)
  refine ⟨?_, ?_, ?_⟩
  · rw [← huid, ← huid']
    exact fun hsame => hother (hindexed.eq_of_key hhas hhas' (.inr hsame))
  · rw [hruns.username, hruns'.username]
    exact fun hsame => hother (hindexed.eq_of_key hhas hhas' (.inl hsame))
  · rw [hruns.home, hruns'.home]
    exact fun hsame => hother (h.eq_of_home huserdb hhas hhas' hsame)

/-- In every state of a run, each launch environment that has a user has one of its own, of the
range, and no other one has its number, its name or its home directory; there are no users
besides.  A session is held only with a user, and nothing is left of what has been finalized. -/
theorem run_occupied (huserdb : config.haveUserdb = true) (hmin : 0 < config.greeterUidMin)
    (events : List GreeterEvent) :
    Occupied config ((machine config gdmGroupname).run (init config) events) := by
  have h := @run_tenancy config gdmGroupname huserdb hmin events
  constructor
  · intro e environment henvironment hheld
    obtain ⟨user, hhas, huid, hruns⟩ := h.user huserdb henvironment hheld
    exact ⟨user, hhas, huid, hruns, (h.served.numbered huserdb).inRange _ _ hhas⟩
  · intro user hhas
    obtain ⟨e, environment, henvironment, hkey, hruns⟩ := h.tenant huserdb hhas
    exact ⟨e, environment, henvironment, (heldUid_eq_some_iff.mp hkey).1, hruns⟩
  · intro d e first second hfirst hsecond hheld hheld' hne
    exact h.distinct huserdb hfirst hsecond hheld hheld' hne
  · exact h.session
  · exact h.finalized

/-- Two seats, one of which is set up for the first time. -/
def twoSeats : List GreeterEvent :=
  [.create .greeter, .create .initialSetup, .create .greeter, .prepareGreeterSession 0 {},
    .prepareGreeterSession 1 {}, .prepareGreeterSession 2 {}]

theorem run_occupied_twoSeats :
    ((machine {} "gdm").run (init {}) twoSeats).environments.map
        (fun environment => (environment.dynUserName, environment.dynUid)) =
        [("gdm-greeter", 60578), ("gnome-initial-setup", 60579), ("gdm-greeter-2", 60580)] ∧
      Occupied {} ((machine {} "gdm").run (init {}) twoSeats) :=
  ⟨by decide +kernel, run_occupied rfl (by decide) twoSeats⟩

/-! ## Events -/

/-- In every state of a run, an event leaves the launch environments that it is not about, and
their users.  A user that is gone after it was that of the launch environment it is about, and the
home directory that has gone with it is neither one of the system nor that of another greeter. -/
theorem run_concernsOne (huserdb : config.haveUserdb = true) (hmin : 0 < config.greeterUidMin)
    (before : List GreeterEvent) (event : GreeterEvent) :
    let self := (machine config gdmGroupname).run (init config) before
    let next := (machine config gdmGroupname).run (init config) (before ++ [event])
    (∀ (d : ℕ) other, d ≠ self.subject event → self.environments[d]? = some other →
      next.environments[d]? = some other ∧ ∀ user, self.process.store.Has user →
        user.uid = other.dynUid → next.process.store.Has user) ∧
    ∀ user, self.process.store.Has user → ¬ next.process.store.Has user →
      ¬ HomeOfSystem user ∧ ∃ environment,
        self.environments[self.subject event]? = some environment ∧
          environment.dynUid = user.uid ∧ environment.RunsAs user ∧
          ∀ (d : ℕ) other, d ≠ self.subject event → next.environments[d]? = some other →
            other.dynUid ≠ 0 → other.dynUserHome ≠ user.home := by
  intro self next
  have h : Tenancy config self := run_tenancy huserdb hmin before
  have hafter : Tenancy config next := run_tenancy huserdb hmin (before ++ [event])
  have hchanges : Changes config (self.subject event) self next := by
    have hnext : next = step config gdmGroupname self event :=
      EventMachine.run_concat (machine config gdmGroupname) (init config) before event
    rw [hnext]
    exact step_changes event
  have hkeeps : ∀ (d : ℕ) other, d ≠ self.subject event → self.environments[d]? = some other →
      ∀ user, self.process.store.Has user → user.uid = other.dynUid → user.uid ≠ 0 →
        next.process.store.Has user := by
    intro d other hne hother user hhas huid hpositive
    have hfound := (h.user_iff huserdb).mpr ⟨hhas, rfl⟩
    have hstays := hchanges.keeps_user huserdb hmin h hne hother
      (heldUid_eq_some_iff.mpr ⟨huid.symm, hpositive⟩) hfound
    exact ((hafter.user_iff huserdb).mp hstays).1
  have hpositive : ∀ user, self.process.store.Has user → user.uid ≠ 0 := by
    intro user hhas
    have hrange := (h.served.numbered huserdb).inRange _ _ hhas
    have := hrange.1
    omega
  constructor
  · intro d other hne hother
    refine ⟨(hchanges.others hne).trans hother, ?_⟩
    intro user hhas huid
    exact hkeeps d other hne hother user hhas huid (hpositive user hhas)
  · intro user hhas hgone
    obtain ⟨d, environment, henvironment, hkey, hruns⟩ := h.tenant huserdb hhas
    have huid := (heldUid_eq_some_iff.mp hkey).1
    -- otherwise the user would still be there
    have hsubject : d = self.subject event := by
      by_contra hne
      exact hgone (hkeeps d environment hne henvironment user hhas huid.symm (hpositive user hhas))
    subst hsubject
    have hfound := (h.user_iff huserdb).mpr ⟨hhas, rfl⟩
    constructor
    · rcases hchanges.user_cases huserdb hmin h hfound with hkept | hhome
      · exact absurd ((hafter.user_iff huserdb).mp hkept).1 hgone
      · exact hhome
    · refine ⟨environment, henvironment, huid, hruns, ?_⟩
      intro c other hne hother hheld
      rw [hchanges.others hne] at hother
      have hdistinct :=
        h.distinct huserdb hother henvironment hheld (huid ▸ hpositive user hhas) hne
      rw [← hruns.home]
      exact hdistinct.2.2

/-- When the first one is dropped after the initial setup, the greeter of the other seat stays. -/
theorem run_concernsOne_twoSeats :
    ((machine {} "gdm").run (init {}) (twoSeats ++ [.clear 1])).process.store.byName.lookup
        "gnome-initial-setup" = none ∧
      ∀ other, ((machine {} "gdm").run (init {}) twoSeats).environments[2]? = some other →
        ((machine {} "gdm").run (init {}) (twoSeats ++ [.clear 1])).environments[2]? = some other :=
  ⟨by decide +kernel, fun other hother =>
    ((run_concernsOne rfl (by decide) twoSeats (.clear 1)).1 2 other (by decide) hother).1⟩

/-! ## The userdb service -/

/-- The record tells of the user of a launch environment. -/
structure RecordOf (environment : GdmLaunchEnvironment) (record : UserRecord) : Prop where
  userName : record.userName = environment.dynUserName
  uid : record.uid = environment.dynUid
  homeDirectory : record.homeDirectory = environment.dynUserHome
  realName : record.realName = environment.userDispName

theorem recordOf_buildRecord {environment : GdmLaunchEnvironment} {user : DynamicUser}
    {nologinPath : String} (hruns : environment.RunsAs user)
    (huid : user.uid = environment.dynUid) :
    RecordOf environment (user.buildRecord nologinPath) :=
  ⟨hruns.username.symm, huid, hruns.home.symm, hruns.displayName.symm⟩

/-- A call of `GetUserRecord`; no number is `UID_INVALID`. -/
def recordCall (uid : ℕ) (username : Option String) : GetUserRecordParams :=
  { uid := uid, username := username, service := some gdmServiceId }

/-- What a call for a number is answered with. -/
theorem vlGetUserRecord_uid {nologinPath : String} {call : SdVarlink UserRecord}
    {store : GdmDynamicUserStore} {order : List DynamicUser} {uid : ℕ} {username : Option String}
    (hgiven : uid ≠ uidInvalid) :
    vlGetUserRecord nologinPath call (recordCall uid username) (some store) order =
      { messages := [answerFound nologinPath (recordCall uid username) (store.user uid)] } := by
  have hservice : (recordCall uid username).service = some gdmServiceId := rfl
  unfold vlGetUserRecord
  rw [if_neg (not_not_intro hservice)]
  exact if_pos hgiven

/-- What `GetUserRecord` tells of the launch environments: a greeter is found by its number, unless
with the name of somebody else, and no other number is found. -/
structure TellsOfGreeters (greeters : Greeters)
    (answer : GetUserRecordParams → List (VarlinkMessage UserRecord)) : Prop where
  greeter : ∀ (e : ℕ) environment, greeters.environments[e]? = some environment →
    environment.dynUid ≠ 0 → ∀ username, username = none ∨ username = some environment.dynUserName →
      ∃ record, RecordOf environment record ∧
        answer (recordCall environment.dynUid username) = [.reply record]
  conflict : ∀ (e : ℕ) environment, greeters.environments[e]? = some environment →
    environment.dynUid ≠ 0 → ∀ username, username ≠ environment.dynUserName →
      answer (recordCall environment.dynUid (some username)) =
        [.error (userDatabaseError "ConflictingRecordFound")]
  stranger : ∀ uid username, uid ≠ uidInvalid →
    (∀ (e : ℕ) environment, greeters.environments[e]? = some environment →
      environment.heldUid ≠ some uid) →
    answer (recordCall uid username) = [.error (userDatabaseError "NoRecordFound")]
  all : List.Perm
    (((answer (recordCall uidInvalid none)).filterMap VarlinkMessage.record).map
      fun record => (record.uid, record.userName, record.homeDirectory))
    ((greeters.environments.filter fun environment => environment.dynUid ≠ 0).map
      fun environment => (environment.dynUid, environment.dynUserName, environment.dynUserHome))

/-- Each launch environment that has a user is in the list once. -/
theorem Tenancy.nodup_tenants (h : Tenancy config greeters) :
    ((greeters.environments.filter fun environment => environment.dynUid ≠ 0).map
      fun environment => (environment.dynUid, environment.dynUserName,
        environment.dynUserHome)).Nodup := by
  apply List.Nodup.of_map Prod.fst
  have hkeys : (greeters.environments.filter fun environment => environment.dynUid ≠ 0).map
      GdmLaunchEnvironment.dynUid = greeters.environments.filterMap heldUid := by
    rw [← List.filterMap_eq_map, List.filterMap_filter]
    congr 1
    funext environment
    unfold heldUid
    by_cases hfree : environment.dynUid = 0
    · simp [hfree]
    · simp [hfree]
  rw [List.map_map]
  exact hkeys ▸ h.leased.nodup_keys

/-- The users that are told for a call for everybody. -/
theorem Tenancy.tells_all (huserdb : config.haveUserdb = true) (h : Tenancy config greeters)
    {told : List DynamicUser} (htold : told.Nodup)
    (hmem : ∀ user, user ∈ told ↔ greeters.process.store.Has user) :
    List.Perm (told.map fun user => (user.uid, user.username, user.home))
      ((greeters.environments.filter fun environment => environment.dynUid ≠ 0).map
        fun environment => (environment.dynUid, environment.dynUserName,
          environment.dynUserHome)) := by
  have hindexed := (h.served.numbered huserdb).indexed
  have hnodup : (told.map fun user => (user.uid, user.username, user.home)).Nodup := by
    apply List.Nodup.map_on _ htold
    intro user huser other hother hsame
    have huid : user.uid = other.uid := congrArg Prod.fst hsame
    exact hindexed.eq_of_key ((hmem user).mp huser) ((hmem other).mp hother) (.inr huid)
  rw [List.perm_ext_iff_of_nodup hnodup h.nodup_tenants]
  intro entry
  rw [List.mem_map, List.mem_map]
  constructor
  · rintro ⟨user, huser, rfl⟩
    obtain ⟨e, environment, henvironment, hkey, hruns⟩ := h.tenant huserdb ((hmem user).mp huser)
    obtain ⟨huid, hheld⟩ := heldUid_eq_some_iff.mp hkey
    refine ⟨environment, ?_, ?_⟩
    · simp [List.mem_of_getElem? henvironment, huid, hheld]
    · rw [huid, hruns.username, hruns.home]
  · rintro ⟨environment, henvironment, rfl⟩
    obtain ⟨hmember, hheld⟩ := List.mem_filter.mp henvironment
    obtain ⟨e, he⟩ := List.mem_iff_getElem?.mp hmember
    obtain ⟨user, hhas, huid, hruns⟩ := h.user huserdb he (by simpa using hheld)
    exact ⟨user, (hmem user).mpr hhas, by rw [huid, hruns.username, hruns.home]⟩

theorem Tenancy.tellsOfGreeters (huserdb : config.haveUserdb = true)
    (hmax : config.greeterUidMax < uidInvalid) (h : Tenancy config greeters) (nologinPath : String)
    {call : SdVarlink UserRecord} (haccepts : call.AcceptsMore) {order : List DynamicUser}
    (horder : IsOrderOf order greeters.process.store) :
    TellsOfGreeters greeters fun params =>
      (vlGetUserRecord nologinPath call params (some greeters.process.store) order).messages := by
  have hnumbered := h.served.numbered huserdb
  have hgiven : ∀ user, greeters.process.store.Has user → user.uid ≠ uidInvalid := by
    intro user hhas
    have hrange := (hnumbered.inRange _ _ hhas).2
    omega
  constructor
  · intro e environment henvironment hheld username husername
    obtain ⟨user, hhas, huid, hruns⟩ := h.user huserdb henvironment hheld
    refine ⟨user.buildRecord nologinPath, recordOf_buildRecord hruns huid, ?_⟩
    rw [← huid, vlGetUserRecord_uid (hgiven user hhas), (h.user_iff huserdb).mpr ⟨hhas, rfl⟩]
    rcases husername with rfl | rfl
    · simp [answerFound, recordCall]
    · simp [answerFound, recordCall, hruns.username]
  · intro e environment henvironment hheld username husername
    obtain ⟨user, hhas, huid, hruns⟩ := h.user huserdb henvironment hheld
    rw [← huid, vlGetUserRecord_uid (hgiven user hhas), (h.user_iff huserdb).mpr ⟨hhas, rfl⟩]
    rw [hruns.username] at husername
    simp [answerFound, recordCall, husername]
  · intro uid username huid hstranger
    have hnone : greeters.process.store.user uid = none := by
      cases hfound : greeters.process.store.user uid with
      | none => rfl
      | some user =>
        obtain ⟨e, environment, henvironment, hkey⟩ := h.leased.holder uid user hfound
        exact absurd hkey (hstranger e environment henvironment)
    rw [vlGetUserRecord_uid huid, hnone]
    rfl
  · have hanswers : AnswersGetUserRecord nologinPath greeters.process.store
        (recordCall uidInvalid none) _ :=
      vlGetUserRecord_answers haccepts rfl hnumbered.indexed horder
    obtain ⟨told, htold, hmem, hrecords⟩ := hanswers.tells.users
    rw [hrecords, List.map_map]
    apply h.tells_all huserdb htold
    intro user
    rw [hmem]
    constructor
    · intro hmatches
      exact hmatches.1
    · intro hhas
      refine ⟨hhas, fun hne => absurd rfl hne, ?_⟩
      intro username habsurd
      cases habsurd

/-- In every state of a run, the userdb service answers for the number of each greeter with what
the greeter runs as, for any other number with an error, and for everybody with the greeters, each
of them once. -/
theorem run_tellsOfGreeters (huserdb : config.haveUserdb = true) (hmin : 0 < config.greeterUidMin)
    (hmax : config.greeterUidMax < uidInvalid) (events : List GreeterEvent) (nologinPath : String)
    {call : SdVarlink UserRecord} (haccepts : call.AcceptsMore) {order : List DynamicUser}
    (horder : IsOrderOf order
      ((machine config gdmGroupname).run (init config) events).process.store) :
    TellsOfGreeters ((machine config gdmGroupname).run (init config) events) fun params =>
      (vlGetUserRecord nologinPath call params
        (some ((machine config gdmGroupname).run (init config) events).process.store)
        order).messages :=
  (run_tenancy huserdb hmin events).tellsOfGreeters huserdb hmax nologinPath haccepts horder

/-- The greeter of a seat alone. -/
theorem run_tellsOfGreeters_oneSeat :
    ∃ record, RecordOf
        { preferredUserName := "gdm-greeter", userDispName := "GDM Greeter", userMemberOf := "gdm",
          dynUserName := "gdm-greeter", dynUid := 60578,
          dynUserHome := "/run/gdm/home/gdm-greeter" } record ∧
      (vlGetUserRecord "/usr/sbin/nologin" {} (recordCall 60578 none)
        (some ((machine {} "gdm").run (init {})
          [.create .greeter, .prepareGreeterSession 0 {}]).process.store)
        [{ username := "gdm-greeter", displayName := "GDM Greeter",
           home := "/run/gdm/home/gdm-greeter", group := "gdm", uid := 60578,
           gid := 120 }]).messages = [.reply record] :=
  (run_tellsOfGreeters rfl (by decide) (by decide)
    [.create .greeter, .prepareGreeterSession 0 {}] "/usr/sbin/nologin" (fun _ _ => rfl)
    (by unfold IsOrderOf; decide +kernel)).greeter 0 _ (by decide +kernel) (by decide) none
    (.inl rfl)

end Greeters

end Gdm
