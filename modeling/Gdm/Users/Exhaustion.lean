import Gdm.Library.NumberedNames
import Gdm.Users.Representation
import Mathlib.Order.Interval.Finset.Nat

/-!
# When names and numbers run out

A name is picked before a number is.  There are as many names to pick from as there are
numbers in the range, and when all of them are taken the process is aborted, before it is
seen that no number is free.
-/

namespace Gdm

namespace GdmDynamicUserStore

variable {config : UserdbConfig} {store next : GdmDynamicUserStore} {preferred : String}

/-! ## The names to pick from -/

theorem candidates_nodup : (candidates config preferred).Nodup := by
  unfold candidates
  rw [List.nodup_cons]
  constructor
  · rw [List.mem_map]
    rintro ⟨i, -, hname⟩
    exact NumberedNames.numbered_ne (by decide) (i + 2) hname
  · apply List.Nodup.map _ List.nodup_range
    intro i j hname
    have hnext := NumberedNames.numbered_injective hname
    omega

theorem length_candidates :
    (candidates config preferred).length = config.greeterUidCount := by
  have hcount : config.greeterUidCount = config.greeterUidMax - config.greeterUidMin + 1 := rfl
  simp only [candidates, List.length_cons, List.length_map, List.length_range]
  omega

/-- One of the names for this one is left. -/
def NameLeft (config : UserdbConfig) (store : GdmDynamicUserStore) (preferred : String) : Prop :=
  ∃ name ∈ candidates config preferred, store.byName.lookup name = none

theorem pickUsername_isSome_iff :
    (store.pickUsername config preferred).isSome ↔ NameLeft config store preferred := by
  simp [pickUsername, NameLeft]

/-! ## Names and numbers are equally many -/

/-- The users have the numbers of the range, and no two of them share one. -/
structure Numbered (config : UserdbConfig) (store : GdmDynamicUserStore) : Prop where
  indexed : TwoIndexes.Indexed DynamicUser.username DynamicUser.uid store.byName store.byUid
  inRange : ∀ name user, store.byName.lookup name = some user → InRange config user.uid

theorem card_range : (Finset.Icc config.greeterUidMin config.greeterUidMax).card =
    config.greeterUidCount := by
  have hordered := config.ordered
  rw [Nat.card_Icc, UserdbConfig.greeterUidCount]
  omega

theorem card_candidates :
    (candidates config preferred).toFinset.card = config.greeterUidCount := by
  rw [List.toFinset_card_of_nodup candidates_nodup, length_candidates]

/-- Every name is taken just when every number is, by a user with one of the names. -/
theorem Numbered.not_nameLeft_iff (h : Numbered config store) :
    ¬ NameLeft config store preferred ↔
      ∀ uid, InRange config uid → ∃ user, store.byUid.lookup uid = some user ∧
        user.username ∈ candidates config preferred := by
  have hcard : (Finset.Icc config.greeterUidMin config.greeterUidMax).card =
      (candidates config preferred).toFinset.card := by
    rw [card_range, card_candidates]
  constructor
  · intro hnone uid huid
    have hused : ∀ name ∈ (candidates config preferred).toFinset, ∃ user,
        store.byName.lookup name = some user ∧
          user.uid ∈ Finset.Icc config.greeterUidMin config.greeterUidMax := by
      intro name hname
      obtain ⟨user, huser⟩ := Option.ne_none_iff_exists'.mp fun hfree =>
        hnone ⟨name, List.mem_toFinset.mp hname, hfree⟩
      exact ⟨user, huser, Finset.mem_Icc.mpr (h.inRange name user huser)⟩
    obtain ⟨user, hfound, hname⟩ := h.indexed.exists_of_card_le (Nat.le_of_eq hcard) hused uid
      (Finset.mem_Icc.mpr huid)
    exact ⟨user, hfound, List.mem_toFinset.mp hname⟩
  · rintro hall ⟨name, hname, hfree⟩
    have hused : ∀ uid ∈ Finset.Icc config.greeterUidMin config.greeterUidMax, ∃ user,
        store.byUid.lookup uid = some user ∧
          user.username ∈ (candidates config preferred).toFinset := by
      intro uid huid
      obtain ⟨user, huser, hnamed⟩ := hall uid (Finset.mem_Icc.mp huid)
      exact ⟨user, huser, List.mem_toFinset.mpr hnamed⟩
    obtain ⟨user, hfound, -⟩ := h.indexed.symm.exists_of_card_le (Nat.le_of_eq hcard.symm) hused
      name (List.mem_toFinset.mpr hname)
    rw [hfree] at hfound
    cases hfound

/-! ## One call -/

/-- There is no number to pick for the name. -/
def NoFreeUid (config : UserdbConfig) (store : GdmDynamicUserStore) (database : UserDatabase)
    (username : String) : Prop :=
  if config.haveUserdb = true then
    ∀ uid, InRange config uid → store.alreadyUsed database uid = true
  else database.pwentForName username = none

theorem pickUid_isError {database : UserDatabase} {username : String} {error : DynamicUserError}
    (h : (store.pickUid config database username).2 = .error error) :
    ∃ message, error = .noFreeUid message := by
  unfold pickUid at h
  split at h
  · split at h
    · cases h
    · cases h
      exact ⟨_, rfl⟩
  · split at h
    · cases h
    · cases h
      exact ⟨_, rfl⟩

theorem noFreeUid_iff {database : UserDatabase} {username : String}
    (hrange : InRange config store.nextAlloc) :
    NoFreeUid config store database username ↔
      ∃ error, (store.pickUid config database username).2 = .error error := by
  unfold NoFreeUid
  split
  · rename_i huserdb
    constructor
    · intro hall
      cases hpicked : (store.pickUid config database username).2 with
      | error error => exact ⟨error, rfl⟩
      | ok uid =>
        obtain ⟨huid, hfree, habsent⟩ := pickUid_unused huserdb hrange hpicked
        have hused := hall uid huid
        simp [alreadyUsed, hfree, habsent] at hused
    · rintro ⟨error, herror⟩
      exact pickUid_error huserdb hrange herror
  · rename_i huserdb
    have hpwent : ∀ uid, (store.pickUid config database username).2 = .ok uid ↔
        database.pwentForName username = some uid :=
      fun uid => pickUid_pwent (Bool.of_not_eq_true huserdb)
    constructor
    · intro hnone
      cases hpicked : (store.pickUid config database username).2 with
      | error error => exact ⟨error, rfl⟩
      | ok uid =>
        rw [(hpwent uid).mp hpicked] at hnone
        cases hnone
    · rintro ⟨error, herror⟩
      cases hfound : database.pwentForName username with
      | none => rfl
      | some uid =>
        rw [(hpwent uid).mpr hfound] at herror
        cases herror

/-- A creation returns: it has added a user to both tables, or it says what has gone wrong,
and it says that there is no number just when there is none. -/
def Reports (config : UserdbConfig) (store : GdmDynamicUserStore) (database : UserDatabase)
    (request : UserRequest) : Prop :=
  ∃ username next result,
    store.pickUsername config request.preferredUsername = some username ∧
    store.create config database request = some (next, result) ∧
    ((∃ user, result = .ok user ∧ next.byName.lookup user.username = some user ∧
        next.byUid.lookup user.uid = some user) ∨ ∃ error, result = .error error) ∧
    (NoFreeUid config store database username ↔
      ∃ message, result = .error (.noFreeUid message))

/-- What a creation says, after the name has been picked. -/
theorem createNamed_noFreeUid_iff {database : UserDatabase} {request : UserRequest}
    {username : String} (hrange : InRange config store.nextAlloc) :
    NoFreeUid config store database username ↔
      ∃ message, (store.createNamed config database request username).2 =
        .error (.noFreeUid message) := by
  rw [noFreeUid_iff hrange]
  unfold createNamed
  split
  · rename_i picked error heq
    obtain ⟨message, rfl⟩ := pickUid_isError (congrArg Prod.snd heq)
    rw [heq]
    exact ⟨fun _ => ⟨message, rfl⟩, fun _ => ⟨_, rfl⟩⟩
  · rename_i picked uid heq
    rw [heq]
    constructor
    · rintro ⟨error, herror⟩
      cases herror
    · rintro ⟨message, hmessage⟩
      split at hmessage
      · cases hmessage
      · dsimp only at hmessage
        split at hmessage
        · cases hmessage
        · cases hmessage

/-- A creation reports what has happened just when one of the names is left. -/
theorem reports_iff {database : UserDatabase} {request : UserRequest}
    (hrange : InRange config store.nextAlloc) :
    Reports config store database request ↔
      NameLeft config store request.preferredUsername := by
  rw [← pickUsername_isSome_iff]
  constructor
  · rintro ⟨username, next, result, hname, -⟩
    rw [hname]
    rfl
  · intro hleft
    obtain ⟨username, hname⟩ := Option.isSome_iff_exists.mp hleft
    have hcreated := createNamed_created database request username hrange
    have hcreate : store.create config database request =
        some (store.createNamed config database request username) := congrArg (Option.map _) hname
    have hnoFree : NoFreeUid config store database username ↔
        ∃ message, (store.createNamed config database request username).2 =
          .error (.noFreeUid message) := createNamed_noFreeUid_iff hrange
    generalize store.createNamed config database request username = created at *
    obtain ⟨next, result⟩ := created
    refine ⟨username, next, result, hname, hcreate, ?_, hnoFree⟩
    cases hcreated with
    | failed => exact .inr ⟨_, rfl⟩
    | @added picked user =>
      refine .inl ⟨user, rfl, ?_, ?_⟩
      · exact Finmap.lookup_insert _
      · exact Finmap.lookup_insert _

end GdmDynamicUserStore

/-! ## Runs -/

namespace UserStoreProcess

open GdmDynamicUserStore

variable {config : UserdbConfig}

theorem run_numbered (huserdb : config.haveUserdb = true) (events : List UserStoreEvent) :
    Numbered config ((machine config).run (init config) events).store := by
  refine ⟨representation_iff.mp (run_represents huserdb events [] rfl), ?_⟩
  intro name user huser
  obtain ⟨_, _, _, -, _, _, _, -, -, -, hinRange, -⟩ :=
    run_found huserdb events (.inl ⟨name, huser⟩)
  exact hinRange

/-- In every state of a run a creation reports what has happened just when one of the names
is left.  With userdb there is none left when all numbers are those of users with these
names. -/
theorem run_reports_iff (config : UserdbConfig) (events : List UserStoreEvent)
    (database : UserDatabase) (request : UserRequest) :
    (Reports config ((machine config).run (init config) events).store database request ↔
      NameLeft config ((machine config).run (init config) events).store
        request.preferredUsername) ∧
    (config.haveUserdb = true →
      (¬ NameLeft config ((machine config).run (init config) events).store
          request.preferredUsername ↔
        ∀ uid, InRange config uid → ∃ user,
          ((machine config).run (init config) events).store.byUid.lookup uid = some user ∧
            user.username ∈ candidates config request.preferredUsername)) :=
  ⟨reports_iff (run_inRange events), fun huserdb => (run_numbered huserdb events).not_nameLeft_iff⟩

/-- A build for a system without userdb and without a range of numbers. -/
def elogindConfig : UserdbConfig :=
  { haveUserdb := false, greeterUidMin := 0, greeterUidMax := 0 }

/-- The users that such a system has for the greeters. -/
def preallocated : UserDatabase :=
  { pwentForName := fun name =>
      if name = "gdm-greeter" then some 120
      else if name = "gdm-greeter-2" then some 121 else none }

/-- The greeter of a second seat: its user is there, but the name of the first one is the only
one that is tried. -/
theorem run_secondSeat_aborts :
    ¬ ∀ (config : UserdbConfig) (events : List UserStoreEvent) (database : UserDatabase)
      (request : UserRequest),
      Reports config ((machine config).run (init config) events).store database request := by
  intro h
  have hreports := h elogindConfig [.create preallocated greeterRequest] preallocated greeterRequest
  rw [reports_iff (run_inRange _)] at hreports
  obtain ⟨name, hname, hfree⟩ := hreports
  obtain rfl : name = "gdm-greeter" := List.mem_singleton.mp hname
  revert hfree
  decide

end UserStoreProcess

end Gdm
