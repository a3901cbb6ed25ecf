import Gdm.Library.TwoIndexes
import Gdm.Users.DynamicUserStore

/-!
# The two tables of dynamic users

The tables of a store have the same users, and no two users share a name or a number.  A
name is always picked so that it is new, and with userdb so is a number; without, the number
is the one of the password database, and is not looked for among the users there are.
-/

namespace Gdm

namespace GdmDynamicUserStore

variable {config : UserdbConfig} {store next : GdmDynamicUserStore}

/-! ## The range of numbers -/

/-- A number of the range. -/
def InRange (config : UserdbConfig) (uid : Nat) : Prop :=
  config.greeterUidMin ≤ uid ∧ uid ≤ config.greeterUidMax

theorem following_inRange {uid : Nat} (h : InRange config uid) :
    InRange config (following config uid) := by
  have hordered := config.ordered
  unfold InRange at h ⊢
  unfold following
  split
  · omega
  · omega

/-- What the loop of `pick_uid` leaves, and what it finds. -/
structure Picked (config : UserdbConfig) (database : UserDatabase)
    (store : GdmDynamicUserStore) (result : GdmDynamicUserStore × Option Nat) : Prop where
  byName : result.1.byName = store.byName
  byUid : result.1.byUid = store.byUid
  nextAlloc : InRange config result.1.nextAlloc
  unused : ∀ uid, result.2 = some uid →
    InRange config uid ∧ store.byUid.lookup uid = none ∧ database.pwentForUid uid = false

theorem pickUidFrom_picked (database : UserDatabase) (start rounds : Nat)
    (store : GdmDynamicUserStore) (hrange : InRange config store.nextAlloc) :
    Picked config database store (pickUidFrom config database start rounds store) := by
  induction rounds generalizing store with
  | zero => exact ⟨rfl, rfl, hrange, by simp [pickUidFrom]⟩
  | succ rounds ih =>
    have hnext := following_inRange hrange
    simp only [pickUidFrom]
    split
    · split
      · exact ⟨rfl, rfl, hnext, by simp⟩
      · -- the tables are the same in the next round
        obtain ⟨hbyName, hbyUid, hrange', hunused⟩ :=
          ih { store with nextAlloc := following config store.nextAlloc } hnext
        exact ⟨hbyName, hbyUid, hrange', hunused⟩
    · rename_i hfree
      refine ⟨rfl, rfl, hnext, ?_⟩
      intro uid huid
      obtain rfl := Option.some.inj huid
      simp only [alreadyUsed, Bool.or_eq_true, not_or, Bool.not_eq_true] at hfree
      exact ⟨hrange, by simpa using hfree.1, hfree.2⟩

/-- What `pick_uid` leaves, and what it finds. -/
theorem pickUid_tables (database : UserDatabase) (username : String)
    (hrange : InRange config store.nextAlloc) :
    (store.pickUid config database username).1.byName = store.byName ∧
      (store.pickUid config database username).1.byUid = store.byUid ∧
      InRange config (store.pickUid config database username).1.nextAlloc := by
  have hpicked := pickUidFrom_picked database store.nextAlloc config.greeterUidCount store hrange
  unfold pickUid
  split
  · split
    · rename_i heq
      rw [heq] at hpicked
      exact ⟨hpicked.byName, hpicked.byUid, hpicked.nextAlloc⟩
    · rename_i heq
      rw [heq] at hpicked
      exact ⟨hpicked.byName, hpicked.byUid, hpicked.nextAlloc⟩
  · split
    · exact ⟨rfl, rfl, hrange⟩
    · exact ⟨rfl, rfl, hrange⟩

/-- With userdb the number is of the range, and nobody has it. -/
theorem pickUid_unused {database : UserDatabase} {username : String} {uid : Nat}
    (huserdb : config.haveUserdb = true) (hrange : InRange config store.nextAlloc)
    (h : (store.pickUid config database username).2 = .ok uid) :
    InRange config uid ∧ store.byUid.lookup uid = none ∧ database.pwentForUid uid = false := by
  have hpicked := pickUidFrom_picked database store.nextAlloc config.greeterUidCount store hrange
  unfold pickUid at h
  rw [if_pos huserdb] at h
  split at h
  · rename_i heq
    rw [heq] at hpicked
    cases h
    exact hpicked.unused _ rfl
  · cases h

/-- Without, it is that of the password database. -/
theorem pickUid_pwent {database : UserDatabase} {username : String} {uid : Nat}
    (huserdb : config.haveUserdb = false) :
    (store.pickUid config database username).2 = .ok uid ↔
      database.pwentForName username = some uid := by
  unfold pickUid
  rw [if_neg (by simp [huserdb])]
  split
  · rename_i heq
    simp [heq]
  · rename_i heq
    simp [heq]

/-! ## The rounds of the loop -/

/-- Where the loop is after some rounds. -/
def position (config : UserdbConfig) (start rounds : Nat) : Nat :=
  config.greeterUidMin + (start - config.greeterUidMin + rounds) % config.greeterUidCount

theorem position_zero {start : Nat} (h : InRange config start) :
    position config start 0 = start := by
  obtain ⟨hmin, hmax⟩ := h
  have hlt : start - config.greeterUidMin < config.greeterUidCount := by
    unfold UserdbConfig.greeterUidCount
    omega
  simp only [position, Nat.add_zero, Nat.mod_eq_of_lt hlt]
  omega

theorem following_position (start rounds : Nat) :
    following config (position config start rounds) = position config start (rounds + 1) := by
  have hordered := config.ordered
  have hcount : config.greeterUidCount = config.greeterUidMax - config.greeterUidMin + 1 := rfl
  unfold following position
  rw [← Nat.add_assoc, Nat.add_mod (start - config.greeterUidMin + rounds) 1]
  generalize hoffset : (start - config.greeterUidMin + rounds) % config.greeterUidCount = offset
  have hlt : offset < config.greeterUidCount := by
    rw [← hoffset]
    exact Nat.mod_lt _ (by omega)
  split
  · rename_i hbelow
    -- the end of the range is not reached, which has at least two numbers
    have hone : 1 % config.greeterUidCount = 1 := Nat.mod_eq_of_lt (by omega)
    rw [hone, Nat.mod_eq_of_lt (by omega)]
    omega
  · rename_i hend
    have hlast : offset + 1 = config.greeterUidCount := by omega
    by_cases hsingle : config.greeterUidCount = 1
    · simp [hsingle, Nat.mod_one]
    · have hone : 1 % config.greeterUidCount = 1 := Nat.mod_eq_of_lt (by omega)
      rw [hone, hlast, Nat.mod_self]
      omega

/-- Every number of the range is met before the loop is back at its start. -/
theorem exists_position {start uid : Nat} (hstart : InRange config start)
    (huid : InRange config uid) :
    ∃ rounds < config.greeterUidCount, position config start rounds = uid := by
  have hcount : config.greeterUidCount = config.greeterUidMax - config.greeterUidMin + 1 := rfl
  unfold InRange at hstart huid
  unfold position
  by_cases hle : start ≤ uid
  · refine ⟨uid - start, by omega, ?_⟩
    rw [Nat.mod_eq_of_lt (by omega)]
    omega
  · refine ⟨config.greeterUidCount - (start - uid), by omega, ?_⟩
    have hsum : start - config.greeterUidMin + (config.greeterUidCount - (start - uid)) =
        (uid - config.greeterUidMin) + config.greeterUidCount := by omega
    rw [hsum, Nat.add_mod_right, Nat.mod_eq_of_lt (by omega)]
    omega

theorem position_eq_start {start rounds : Nat} (hstart : InRange config start)
    (hrounds : rounds < config.greeterUidCount)
    (h : position config start (rounds + 1) = start) : rounds + 1 = config.greeterUidCount := by
  have hcount : config.greeterUidCount = config.greeterUidMax - config.greeterUidMin + 1 := rfl
  unfold InRange at hstart
  unfold position at h
  by_cases hlt : start - config.greeterUidMin + (rounds + 1) < config.greeterUidCount
  · rw [Nat.mod_eq_of_lt hlt] at h
    omega
  · rw [Nat.mod_eq_sub_mod (by omega), Nat.mod_eq_of_lt (by omega)] at h
    omega

/-- The loop gives up only when it has met every number, so the bound of its rounds is never
what ends it. -/
theorem pickUidFrom_none {database : UserDatabase} {start : Nat} (hstart : InRange config start)
    (rounds done : Nat) (hdone : done + rounds = config.greeterUidCount)
    (hposition : store.nextAlloc = position config start done)
    (h : (pickUidFrom config database start rounds store).2 = none) :
    ∀ k, done ≤ k → k < config.greeterUidCount →
      store.alreadyUsed database (position config start k) = true := by
  induction rounds generalizing store done with
  | zero =>
    intro k hk hlt
    omega
  | succ rounds ih =>
    have hnext : following config store.nextAlloc = position config start (done + 1) := by
      rw [hposition, following_position]
    simp only [pickUidFrom] at h
    split at h
    · rename_i hused
      intro k hk hlt
      rcases Nat.eq_or_lt_of_le hk with rfl | hlater
      · rw [← hposition]
        exact hused
      · split at h
        · rename_i hback
          rw [hnext] at hback
          have hend := position_eq_start hstart (by omega) hback
          omega
        · exact ih (done + 1) (by omega) hnext h k hlater hlt
    · cases h

/-- With userdb, a number is picked unless all numbers of the range are used. -/
theorem pickUid_error {database : UserDatabase} {username : String} {error : DynamicUserError}
    (huserdb : config.haveUserdb = true) (hrange : InRange config store.nextAlloc)
    (h : (store.pickUid config database username).2 = .error error) :
    ∀ uid, InRange config uid → store.alreadyUsed database uid = true := by
  intro uid huid
  unfold pickUid at h
  rw [if_pos huserdb] at h
  split at h
  · cases h
  · rename_i heq
    obtain ⟨rounds, hlt, rfl⟩ := exists_position hrange huid
    apply pickUidFrom_none hrange config.greeterUidCount 0 (by omega)
      (position_zero hrange).symm
    · rw [heq]
    · exact Nat.zero_le rounds
    · exact hlt

/-! ## One call -/

theorem pickUsername_new {preferred username : String}
    (h : store.pickUsername config preferred = some username) :
    store.byName.lookup username = none := by
  have hnew := List.find?_some h
  simpa using hnew

/-- The steps of a creation after a number has been picked all succeed. -/
def Settled (config : UserdbConfig) (database : UserDatabase) (request : UserRequest)
    (username : String) (uid : Nat) : Prop :=
  (∃ group, database.grentForName request.memberOf = some group) ∧
    ∃ done, database.ensureDir (buildFilename config.dynHomeDir username) uid = .ok done

/-- A creation fails and leaves the tables, or adds a user with the name and the number that
have been picked. -/
inductive Created (config : UserdbConfig) (database : UserDatabase) (request : UserRequest)
    (store : GdmDynamicUserStore) (username : String) :
    GdmDynamicUserStore × Except DynamicUserError DynamicUser → Prop
  | failed {picked : GdmDynamicUserStore} {error : DynamicUserError}
      (hbyName : picked.byName = store.byName)
      (hbyUid : picked.byUid = store.byUid) (hrange : InRange config picked.nextAlloc)
      (hunsettled : ∀ uid, (store.pickUid config database username).2 = .ok uid →
        ¬ Settled config database request username uid) :
      Created config database request store username (picked, .error error)
  | added {picked : GdmDynamicUserStore} {user : DynamicUser}
      (hbyName : picked.byName = store.byName) (hbyUid : picked.byUid = store.byUid)
      (hrange : InRange config picked.nextAlloc)
      (husername : user.username = username)
      (huid : (store.pickUid config database username).2 = .ok user.uid)
      (hsettled : Settled config database request username user.uid) :
      Created config database request store username (picked.insertUser user, .ok user)

theorem createNamed_created (database : UserDatabase) (request : UserRequest) (username : String)
    (hrange : InRange config store.nextAlloc) :
    Created config database request store username
      (store.createNamed config database request username) := by
  obtain ⟨hbyName, hbyUid, hrange'⟩ := pickUid_tables database username hrange
  unfold createNamed
  split
  · rename_i heq
    rw [heq] at hbyName hbyUid hrange'
    refine .failed hbyName hbyUid hrange' ?_
    intro uid huid
    rw [heq] at huid
    cases huid
  · rename_i picked uid heq
    rw [heq] at hbyName hbyUid hrange'
    split
    · rename_i hgroup
      refine .failed hbyName hbyUid hrange' ?_
      rintro uid' - ⟨⟨group, hfound⟩, -⟩
      rw [hgroup] at hfound
      cases hfound
    · rename_i group gid hgroup
      dsimp only
      split
      · rename_i message hdir
        refine .failed hbyName hbyUid hrange' ?_
        rintro uid' huid' ⟨-, done, hmade⟩
        rw [heq] at huid'
        cases huid'
        rw [hdir] at hmade
        cases hmade
      · rename_i done hdir
        apply Created.added hbyName hbyUid hrange'
        · rfl
        · rw [heq]
        · exact ⟨⟨(group, gid), hgroup⟩, done, hdir⟩

/-- A creation that fails leaves the tables. -/
theorem create_error {database : UserDatabase} {request : UserRequest}
    {error : DynamicUserError} (hrange : InRange config store.nextAlloc)
    (h : store.create config database request = some (next, .error error)) :
    next.byName = store.byName ∧ next.byUid = store.byUid := by
  obtain ⟨username, -, hresult⟩ := Option.map_eq_some_iff.mp h
  have hcreated := createNamed_created database request username hrange
  rw [hresult] at hcreated
  cases hcreated with
  | failed hbyName hbyUid => exact ⟨hbyName, hbyUid⟩

/-- The tables of a store are those of one set of users, in which no two users share a name
or a number. -/
def Representation (store : GdmDynamicUserStore) : Prop :=
  ∃ users : Set DynamicUser,
    (∀ x ∈ users, ∀ y ∈ users, x.username = y.username ∨ x.uid = y.uid → x = y) ∧
    (∀ name x, store.byName.lookup name = some x ↔ x ∈ users ∧ x.username = name) ∧
    ∀ uid x, store.byUid.lookup uid = some x ↔ x ∈ users ∧ x.uid = uid

theorem representation_iff : Representation store ↔
    TwoIndexes.Indexed DynamicUser.username DynamicUser.uid store.byName store.byUid :=
  TwoIndexes.indexed_iff_exists_set.symm

theorem representation_congr (hbyName : next.byName = store.byName)
    (hbyUid : next.byUid = store.byUid) : Representation next ↔ Representation store := by
  rw [representation_iff, representation_iff, hbyName, hbyUid]

/-- A user with a new name keeps the representation just when the number is new too. -/
theorem representation_insertUser {user : DynamicUser} (h : Representation store)
    (hname : store.byName.lookup user.username = none) :
    Representation (store.insertUser user) ↔ store.byUid.lookup user.uid = none := by
  rw [representation_iff] at h ⊢
  exact h.insert_iff hname

theorem representation_remove {uid : Nat} (h : Representation store)
    (hnext : store.remove uid = some next) : Representation next := by
  rw [representation_iff] at h ⊢
  unfold remove at hnext
  split at hnext
  · obtain rfl := Option.some.inj hnext
    exact h
  · rename_i user hfound
    split at hnext
    · cases hnext
    · obtain rfl := Option.some.inj hnext
      have hkey : user.uid = uid := (h.right uid user hfound).1
      subst hkey
      exact h.erase hfound

theorem remove_nextAlloc {uid : Nat} (hnext : store.remove uid = some next) :
    next.nextAlloc = store.nextAlloc := by
  unfold remove at hnext
  split at hnext
  · obtain rfl := Option.some.inj hnext
    rfl
  · split at hnext
    · cases hnext
    · obtain rfl := Option.some.inj hnext
      rfl

/-- A removal adds no user. -/
theorem remove_found {uid : Nat} (hnext : store.remove uid = some next) {user : DynamicUser}
    (h : (∃ name, next.byName.lookup name = some user) ∨
      ∃ number, next.byUid.lookup number = some user) :
    (∃ name, store.byName.lookup name = some user) ∨
      ∃ number, store.byUid.lookup number = some user := by
  unfold remove at hnext
  split at hnext
  · obtain rfl := Option.some.inj hnext
    exact h
  · rename_i removed hfound
    split at hnext
    · cases hnext
    · obtain rfl := Option.some.inj hnext
      rcases h with ⟨name, hname⟩ | ⟨number, hnumber⟩
      · left
        by_cases hsame : name = removed.username
        · rw [hsame, Finmap.lookup_erase] at hname
          cases hname
        · rw [Finmap.lookup_erase_ne hsame] at hname
          exact ⟨name, hname⟩
      · right
        by_cases hsame : number = uid
        · rw [hsame, Finmap.lookup_erase] at hnumber
          cases hnumber
        · rw [Finmap.lookup_erase_ne hsame] at hnumber
          exact ⟨number, hnumber⟩

/-- The only user that an insertion adds is the one inserted. -/
theorem insertUser_found {user added : DynamicUser}
    (h : (∃ name, (store.insertUser added).byName.lookup name = some user) ∨
      ∃ number, (store.insertUser added).byUid.lookup number = some user) :
    user = added ∨ (∃ name, store.byName.lookup name = some user) ∨
      ∃ number, store.byUid.lookup number = some user := by
  rcases h with ⟨name, hname⟩ | ⟨number, hnumber⟩
  · by_cases hsame : name = added.username
    · subst hsame
      left
      rw [insertUser, Finmap.lookup_insert] at hname
      exact (Option.some.inj hname).symm
    · rw [insertUser, Finmap.lookup_insert_of_ne _ hsame] at hname
      exact .inr (.inl ⟨name, hname⟩)
  · by_cases hsame : number = added.uid
    · subst hsame
      left
      rw [insertUser, Finmap.lookup_insert] at hnumber
      exact (Option.some.inj hnumber).symm
    · rw [insertUser, Finmap.lookup_insert_of_ne _ hsame] at hnumber
      exact .inr (.inr ⟨number, hnumber⟩)

end GdmDynamicUserStore

/-! ## Runs -/

namespace UserStoreProcess

open GdmDynamicUserStore

variable (config : UserdbConfig)

/-- Without userdb, a user is not added with a number that another user has: the number which
the password database has for the first free name is new. -/
def FreshUid (self : UserStoreProcess) : UserStoreEvent → Prop
  | .create database request =>
    self.aborted = false → config.haveUserdb = false →
      ∀ username uid,
        ((candidates config request.preferredUsername).find? fun name =>
          (self.store.byName.lookup name).isNone) = some username →
        database.pwentForName username = some uid →
        Settled config database request username uid →
        self.store.byUid.lookup uid = none
  | .remove _ => True

variable {config} {self : UserStoreProcess}

theorem step_inRange (event : UserStoreEvent) (hrange : InRange config self.store.nextAlloc) :
    InRange config (step config self event).store.nextAlloc := by
  unfold step
  split
  · exact hrange
  · cases event with
    | create database request =>
      dsimp only
      split
      · exact hrange
      · rename_i store result hresult
        obtain ⟨username, -, heq⟩ := Option.map_eq_some_iff.mp hresult
        have hcreated := createNamed_created database request username hrange
        rw [heq] at hcreated
        cases hcreated with
        | failed _ _ hnext => exact hnext
        | added _ _ hnext => exact hnext
    | remove uid =>
      dsimp only
      split
      · exact hrange
      · rename_i store hresult
        rw [remove_nextAlloc hresult]
        exact hrange

theorem init_inRange : InRange config (init config).store.nextAlloc :=
  ⟨Nat.le_refl _, config.ordered⟩

theorem run_inRange (events : List UserStoreEvent) :
    InRange config ((machine config).run (init config) events).store.nextAlloc :=
  (machine config).run_invariant (fun self => InRange config self.store.nextAlloc)
    (fun _ event hrange => step_inRange event hrange) events init_inRange

/-- The condition is exactly what keeps the representation. -/
theorem step_representation_iff (event : UserStoreEvent)
    (hrange : InRange config self.store.nextAlloc) (h : Representation self.store) :
    Representation (step config self event).store ↔ FreshUid config self event := by
  unfold step
  split
  · rename_i haborted
    cases event with
    | create => simp [FreshUid, haborted, h]
    | remove => simp [FreshUid, h]
  · rename_i haborted
    cases event with
    | create database request =>
      dsimp only
      split
      · rename_i hnone
        have hnoname := Option.map_eq_none_iff.mp hnone
        unfold pickUsername at hnoname
        simp only [FreshUid, h, hnoname, true_iff]
        intro _ _ _ _ hname
        cases hname
      · rename_i store result hresult
        obtain ⟨username, hname, heq⟩ := Option.map_eq_some_iff.mp hresult
        have hnew := pickUsername_new hname
        have hcreated := createNamed_created database request username hrange
        rw [heq] at hcreated
        unfold pickUsername at hname
        cases hcreated with
        | failed hbyName hbyUid _ hunsettled =>
          rw [representation_congr hbyName hbyUid]
          simp only [h, true_iff]
          intro _ huserdb username' uid hname' hpwent hsettled
          rw [hname] at hname'
          obtain rfl := Option.some.inj hname'
          exact absurd hsettled (hunsettled uid ((pickUid_pwent huserdb).mpr hpwent))
        | @added picked user hbyName hbyUid _ husername huid hsettled =>
          have hpicked : Representation picked := (representation_congr hbyName hbyUid).mpr h
          rw [← husername] at hnew hname hsettled
          rw [representation_insertUser hpicked (by rw [hbyName]; exact hnew), hbyUid]
          constructor
          · intro hfree _ huserdb username' uid hname' hpwent _
            rw [hname] at hname'
            obtain rfl := Option.some.inj hname'
            rw [husername] at hpwent
            have hthis : (self.store.pickUid config database _).2 = .ok uid :=
              (pickUid_pwent huserdb).mpr hpwent
            rw [huid] at hthis
            cases hthis
            exact hfree
          · intro hfresh
            by_cases huserdb : config.haveUserdb = true
            · exact (pickUid_unused huserdb hrange huid).2.1
            · have hpwent := (pickUid_pwent (by simpa using huserdb)).mp huid
              rw [← husername] at hpwent
              exact hfresh (by simpa using haborted) (by simpa using huserdb) _ _ hname hpwent
                hsettled
    | remove uid =>
      dsimp only
      split
      · simp [FreshUid, h]
      · rename_i store hresult
        simp [FreshUid, representation_remove h hresult]

theorem init_representation : Representation (init config).store := by
  rw [representation_iff]
  exact TwoIndexes.Indexed.empty

/-- A user of a store is in one of its tables. -/
def Found (self : UserStoreProcess) (user : DynamicUser) : Prop :=
  (∃ name, self.store.byName.lookup name = some user) ∨
    ∃ uid, self.store.byUid.lookup uid = some user

/-- An event that gives a user a number which is of the range and not that of a user of the
password database. -/
def Allocates (config : UserdbConfig) (self : UserStoreProcess) (event : UserStoreEvent)
    (user : DynamicUser) : Prop :=
  ∃ database request store, event = .create database request ∧ self.aborted = false ∧
    self.store.create config database request = some (store, .ok user) ∧
    InRange config user.uid ∧ database.pwentForUid user.uid = false

/-- With userdb, a user that is found was there before or has been allocated a number. -/
theorem step_found (huserdb : config.haveUserdb = true) (event : UserStoreEvent)
    (hrange : InRange config self.store.nextAlloc) {user : DynamicUser}
    (h : Found (step config self event) user) :
    Found self user ∨ Allocates config self event user := by
  unfold step at h
  split at h
  · exact .inl h
  · rename_i haborted
    cases event with
    | create database request =>
      dsimp only at h
      split at h
      · exact .inl h
      · rename_i store result hresult
        obtain ⟨username, -, heq⟩ := Option.map_eq_some_iff.mp hresult
        have hcreated := createNamed_created database request username hrange
        rw [heq] at hcreated
        cases hcreated with
        | failed hbyName hbyUid =>
          left
          unfold Found at h ⊢
          rw [hbyName, hbyUid] at h
          exact h
        | @added picked added hbyName hbyUid _ _ huid =>
          rcases insertUser_found h with rfl | hold
          · right
            obtain ⟨hinRange, -, habsent⟩ := pickUid_unused huserdb hrange huid
            exact ⟨database, request, _, rfl, by simpa using haborted, hresult, hinRange, habsent⟩
          · left
            unfold Found
            rw [hbyName, hbyUid] at hold
            exact hold
    | remove uid =>
      dsimp only at h
      split at h
      · exact .inl h
      · rename_i store hresult
        exact .inl (remove_found hresult h)

theorem run_found (huserdb : config.haveUserdb = true) {user : DynamicUser}
    (events : List UserStoreEvent)
    (h : Found ((machine config).run (init config) events) user) :
    ∃ before event after, events = before ++ event :: after ∧
      Allocates config ((machine config).run (init config) before) event user := by
  induction events using List.reverseRecOn with
  | nil =>
    rcases h with ⟨name, hname⟩ | ⟨uid, huid⟩
    · rw [EventMachine.run_nil, init, Finmap.lookup_empty] at hname
      cases hname
    · rw [EventMachine.run_nil, init, Finmap.lookup_empty] at huid
      cases huid
  | append_singleton events event ih =>
    rw [EventMachine.run_concat] at h
    rcases step_found huserdb event (run_inRange events) h with hbefore | hnow
    · obtain ⟨before, earlier, after, rfl, hallocates⟩ := ih hbefore
      exact ⟨before, earlier, after ++ [event], by simp, hallocates⟩
    · exact ⟨events, event, [], rfl, hnow⟩

theorem meets_freshUid_iff (events : List UserStoreEvent) :
    (machine config).Meets (FreshUid config) (init config) events ↔
      ∀ before after, events = before ++ after →
        Representation ((machine config).run (init config) before).store := by
  apply EventMachine.meets_iff_forall_prefix
    (fun self : UserStoreProcess => InRange config self.store.nextAlloc)
    (fun self => Representation self.store)
  · intro self event hrange
    exact step_inRange event hrange
  · intro self event hrange hrepresentation
    exact step_representation_iff event hrange hrepresentation
  · exact init_inRange
  · exact init_representation

/-- With userdb the tables are always those of one set of users: the condition is about the
other configuration only. -/
theorem run_represents (huserdb : config.haveUserdb = true) {events : List UserStoreEvent}
    (before after : List UserStoreEvent) (hevents : events = before ++ after) :
    Representation ((machine config).run (init config) before).store := by
  apply (meets_freshUid_iff events).mp ?_ before after hevents
  apply EventMachine.meets_of_forall
  intro self event _
  cases event with
  | create => simp [FreshUid, huserdb]
  | remove => trivial

/-- The tables are indexes of one set of users all through a run just when no user is added
with the number of another one, which with userdb cannot be.  Then every number is also of
the range, and was not in the password database when it was allocated.  A creation that fails
leaves the tables. -/
theorem run_representation (config : UserdbConfig) (events : List UserStoreEvent) :
    ((machine config).Meets (FreshUid config) (init config) events ↔
      ∀ before after, events = before ++ after →
        Representation ((machine config).run (init config) before).store) ∧
    (config.haveUserdb = true →
      (∀ before after, events = before ++ after →
        Representation ((machine config).run (init config) before).store) ∧
      ∀ user, Found ((machine config).run (init config) events) user →
        ∃ before event after, events = before ++ event :: after ∧
          Allocates config ((machine config).run (init config) before) event user) ∧
    ∀ database request next error,
      ((machine config).run (init config) events).store.create config database request =
        some (next, .error error) →
      next.byName = ((machine config).run (init config) events).store.byName ∧
        next.byUid = ((machine config).run (init config) events).store.byUid := by
  refine ⟨meets_freshUid_iff events, ?_, ?_⟩
  · intro huserdb
    constructor
    · intro before after hevents
      exact run_represents huserdb before after hevents
    · exact fun user h => run_found huserdb events h
  · intro database request next error h
    exact create_error (run_inRange events) h

/-- A system without userdb whose password database has two names for one number. -/
def sharedUid : UserDatabase :=
  { pwentForName := fun name =>
      if name = "gdm-greeter" ∨ name = "gdm-greeter-2" then some 120 else none }

def greeterRequest : UserRequest :=
  { preferredUsername := "gdm-greeter", displayName := "GNOME Display Manager", memberOf := "gdm" }

/-- Two greeters are created with one number, and only the second one is found by it. -/
theorem run_sharedUid :
    ¬ ∀ (config : UserdbConfig) (events : List UserStoreEvent),
      Representation ((machine config).run (init config) events).store := by
  intro h
  have hboth := h { haveUserdb := false }
    [.create sharedUid greeterRequest, .create sharedUid greeterRequest]
  rw [representation_iff] at hboth
  have hfound := hboth.left "gdm-greeter"
    { username := "gdm-greeter", displayName := "GNOME Display Manager",
      home := "/run/gdm/home/gdm-greeter", group := "gdm", uid := 120, gid := 120 } (by decide)
  exact absurd hfound.2 (by decide)

end UserStoreProcess

end Gdm
