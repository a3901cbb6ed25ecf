import Gdm.Library.CyclicSearch
import Gdm.Users.Representation

/-!
# The cursor of `pick_uid`

The search for a free number begins where the last one has ended, and goes around the range
at most once.  It finds the first free number from the cursor on, and it fails only when
there is none.  As every search goes on from the last one, a number comes again only after
all the others.
-/

namespace Gdm

namespace GdmDynamicUserStore

open CyclicSearch Function

variable {config : UserdbConfig} {store : GdmDynamicUserStore} {database : UserDatabase}

/-! ## The range is a cycle -/

theorem iterate_following {start : Nat} (h : InRange config start) (rounds : Nat) :
    (following config)^[rounds] start = position config start rounds := by
  induction rounds with
  | zero => exact (position_zero h).symm
  | succ rounds ih => rw [iterate_succ_apply', ih, following_position]

theorem position_inRange {start : Nat} (h : InRange config start) (rounds : Nat) :
    InRange config (position config start rounds) := by
  induction rounds with
  | zero => exact (position_zero h).symm ▸ h
  | succ rounds ih =>
    rw [← following_position]
    exact following_inRange ih

theorem position_count {start : Nat} (h : InRange config start) :
    position config start config.greeterUidCount = start := by
  calc
    position config start config.greeterUidCount = position config start 0 := by
      simp [position]
    _ = start := position_zero h

theorem minimalPeriod_following {start : Nat} (h : InRange config start) :
    minimalPeriod (following config) start = config.greeterUidCount := by
  have hpos : 0 < config.greeterUidCount := Nat.succ_pos _
  have hperiod : IsPeriodicPt (following config) config.greeterUidCount start :=
    (iterate_following h _).trans (position_count h)
  apply Nat.le_antisymm (hperiod.minimalPeriod_le hpos)
  by_contra hshort
  rw [Nat.not_le] at hshort
  have hminimal := hperiod.minimalPeriod_pos hpos
  obtain ⟨rounds, hrounds⟩ := Nat.exists_eq_succ_of_ne_zero (Nat.ne_of_gt hminimal)
  have hback : position config start (rounds + 1) = start := by
    rw [← iterate_following h, ← Nat.succ_eq_add_one, ← hrounds]
    exact iterate_minimalPeriod
  have hend := position_eq_start h (by omega) hback
  omega

theorem mem_periodicPts {start : Nat} (h : InRange config start) :
    start ∈ periodicPts (following config) := by
  rw [← minimalPeriod_pos_iff_mem_periodicPts, minimalPeriod_following h]
  exact Nat.succ_pos _

/-! ## One search -/

/-- The loop of `pick_uid` with the numbers that it asks for: `none` when it has not ended after
some rounds. -/
def pickUidLoop (config : UserdbConfig) (database : UserDatabase) (start : Nat) :
    Nat → GdmDynamicUserStore → Option (GdmDynamicUserStore × Option Nat × List Nat)
  | 0, _ => none
  | rounds + 1, store =>
    let next := { store with nextAlloc := following config store.nextAlloc }
    if store.alreadyUsed database store.nextAlloc then
      if next.nextAlloc = start then some (next, none, [store.nextAlloc])
      else
        (pickUidLoop config database start rounds next).map fun (left, found, asked) =>
          (left, found, store.nextAlloc :: asked)
    else some (next, some store.nextAlloc, [store.nextAlloc])

theorem pickUidLoop_eq (start rounds : Nat) (store : GdmDynamicUserStore) :
    pickUidLoop config database start rounds store =
      (search (following config) (store.alreadyUsed database) start rounds store.nextAlloc).map
        fun outcome =>
          ({ store with nextAlloc := outcome.cursor }, outcome.found, outcome.asked) := by
  induction rounds generalizing store with
  | zero => rfl
  | succ rounds ih =>
    simp only [pickUidLoop, search]
    split
    · split
      · rfl
      · rw [ih, Option.map_map, Option.map_map]
        rfl
    · rfl

/-- Once the loop has ended, so it has for `pickUidFrom`. -/
theorem pickUidFrom_of_pickUidLoop {start rounds : Nat} {store left : GdmDynamicUserStore}
    {found : Option Nat} {asked : List Nat}
    (h : pickUidLoop config database start rounds store = some (left, found, asked)) :
    pickUidFrom config database start rounds store = (left, found) := by
  induction rounds generalizing store asked with
  | zero => cases h
  | succ rounds ih =>
    simp only [pickUidLoop] at h
    simp only [pickUidFrom]
    split at h
    · rename_i hused
      rw [if_pos hused]
      split at h
      · rename_i hback
        rw [if_pos hback]
        cases h
        rfl
      · rename_i hback
        rw [if_neg hback]
        obtain ⟨⟨_, _, _⟩, hlater, heq⟩ := Option.map_eq_some_iff.mp h
        cases heq
        exact ih hlater
    · rename_i hfree
      rw [if_neg hfree]
      cases h
      rfl

/-- What `pick_uid` asks for, where it leaves the cursor, and what it finds, when its loop ends
in round `k`. -/
structure Searched (config : UserdbConfig) (database : UserDatabase) (store : GdmDynamicUserStore)
    (k : Nat) (left : GdmDynamicUserStore) (found : Option Nat) (asked : List Nat) : Prop where
  lt_count : k < config.greeterUidCount
  left_eq : left = { store with nextAlloc := position config store.nextAlloc (k + 1) }
  asked_eq : asked = walk (following config) store.nextAlloc (k + 1)
  used_before : ∀ j < k,
    store.alreadyUsed database (position config store.nextAlloc j) = true
  found_eq : (store.alreadyUsed database (position config store.nextAlloc k) = false ∧
      found = some (position config store.nextAlloc k)) ∨
    (store.alreadyUsed database (position config store.nextAlloc k) = true ∧
      k + 1 = config.greeterUidCount ∧ found = none)

theorem pickUidLoop_searched (database : UserDatabase) (hrange : InRange config store.nextAlloc) :
    ∃ k left found asked, Searched config database store k left found asked ∧
      ∀ rounds ≥ config.greeterUidCount,
        pickUidLoop config database store.nextAlloc rounds store = some (left, found, asked) := by
  obtain ⟨k, outcome, hends, hsearch⟩ := search_ends (store.alreadyUsed database)
    (mem_periodicPts hrange)
  have hiterate := iterate_following hrange
  refine ⟨k, { store with nextAlloc := outcome.cursor }, outcome.found, outcome.asked, ?_, ?_⟩
  · obtain ⟨hlt, hasked, hcursor, hused, hfound⟩ := hends
    simp only [minimalPeriod_following hrange, hiterate] at hlt hcursor hused hfound
    exact ⟨hlt, by rw [hcursor], hasked, hused, hfound⟩
  · intro rounds hrounds
    rw [pickUidLoop_eq, hsearch rounds (by rwa [minimalPeriod_following hrange])]
    rfl

/-- The answer of `pick_uid` to what its loop has found. -/
def answer : Option Nat → Except DynamicUserError Nat
  | some uid => .ok uid
  | none => .error (.noFreeUid "No free UID found for dynamic user")

/-- The numbers that `pick_uid` asks for. -/
def askedUids (config : UserdbConfig) (database : UserDatabase) (store : GdmDynamicUserStore) :
    List Nat :=
  match pickUidLoop config database store.nextAlloc config.greeterUidCount store with
  | some (_, _, asked) => asked
  | none => []

theorem pickUid_of_pickUidLoop {left : GdmDynamicUserStore} {found : Option Nat}
    {asked : List Nat} (huserdb : config.haveUserdb = true)
    (h : pickUidLoop config database store.nextAlloc config.greeterUidCount store =
      some (left, found, asked)) (username : String) :
    store.pickUid config database username = (left, answer found) := by
  rw [pickUid, if_pos huserdb, pickUidFrom_of_pickUidLoop h]
  cases found with
  | none => rfl
  | some uid => rfl

theorem pickUid_searched (database : UserDatabase) (huserdb : config.haveUserdb = true)
    (hrange : InRange config store.nextAlloc) :
    ∃ k left found, Searched config database store k left found
        (askedUids config database store) ∧
      ∀ username, store.pickUid config database username = (left, answer found) := by
  obtain ⟨k, left, found, asked, hsearched, hloop⟩ := pickUidLoop_searched database hrange
  have hended := hloop config.greeterUidCount (Nat.le_refl _)
  refine ⟨k, left, found, ?_, ?_⟩
  · rw [askedUids, hended]
    exact hsearched
  · exact pickUid_of_pickUidLoop huserdb hended

/-- The first number from the cursor on that nobody has. -/
def FirstUnused (config : UserdbConfig) (database : UserDatabase) (store : GdmDynamicUserStore)
    (uid : Nat) : Prop :=
  InRange config uid ∧ store.alreadyUsed database uid = false ∧
    ∃ k < config.greeterUidCount, uid = position config store.nextAlloc k ∧
      ∀ j < k, store.alreadyUsed database (position config store.nextAlloc j) = true

/-- What a search finds is the first unused number, and it finds nothing just when there is
none. -/
theorem Searched.found_firstUnused {k : Nat} {left : GdmDynamicUserStore} {found : Option Nat}
    {asked : List Nat} (h : Searched config database store k left found asked)
    (hrange : InRange config store.nextAlloc) :
    (∀ uid, found = some uid → FirstUnused config database store uid) ∧
      (found = none ↔ ∀ uid, InRange config uid → store.alreadyUsed database uid = true) := by
  have hin := position_inRange hrange k
  rcases h.found_eq with ⟨hfree, rfl⟩ | ⟨hused, hlast, rfl⟩
  · constructor
    · intro uid huid
      cases huid
      exact ⟨hin, hfree, k, h.lt_count, rfl, h.used_before⟩
    · constructor
      · intro hnone
        cases hnone
      · intro hall
        rw [hall _ hin] at hfree
        cases hfree
  · constructor
    · intro uid huid
      cases huid
    · refine ⟨fun _ uid huid => ?_, fun _ => rfl⟩
      obtain ⟨j, hj, rfl⟩ := exists_position hrange huid
      rcases Nat.lt_succ_iff_lt_or_eq.mp (show j < k + 1 by omega) with hbefore | rfl
      · exact h.used_before j hbefore
      · exact hused

/-- A creation leaves the cursor where `pick_uid` has left it. -/
theorem createNamed_nextAlloc (request : UserRequest) (username : String) :
    (store.createNamed config database request username).1.nextAlloc =
      (store.pickUid config database username).1.nextAlloc := by
  unfold createNamed
  split
  · rename_i heq
    rw [heq]
  · rename_i heq
    rw [heq]
    split
    · rfl
    · dsimp only
      split
      · rfl
      · rfl

theorem position_add {start : Nat} (h : InRange config start) (m n : Nat) :
    position config (position config start m) n = position config start (m + n) := by
  rw [← iterate_following (position_inRange h m), ← iterate_following h, ← iterate_following h,
    ← iterate_add_apply, Nat.add_comm]

end GdmDynamicUserStore

/-! ## Searches one after the other -/

namespace UserStoreProcess

open GdmDynamicUserStore CyclicSearch Function

variable {config : UserdbConfig} {self : UserStoreProcess}

/-- The numbers that are asked for in one step. -/
def asked (config : UserdbConfig) (self : UserStoreProcess) : UserStoreEvent → List Nat
  | .create database request =>
    if self.aborted then []
    else
      match self.store.pickUsername config request.preferredUsername with
      | none => []
      | some _ => self.store.askedUids config database
  | .remove _ => []

/-- The numbers that are asked for in a run. -/
def askedAlong (config : UserdbConfig) : UserStoreProcess → List UserStoreEvent → List Nat
  | _, [] => []
  | self, event :: events =>
    self.asked config event ++ askedAlong config (step config self event) events

/-- In this step `pick_uid` returns the number. -/
def Picks (config : UserdbConfig) (self : UserStoreProcess) : UserStoreEvent → Nat → Prop
  | .create database request, uid =>
    self.aborted = false ∧ ∃ username,
      self.store.pickUsername config request.preferredUsername = some username ∧
      (self.store.pickUid config database username).2 = .ok uid
  | .remove _, _ => False

/-- A step asks for consecutive numbers from the cursor on, and moves the cursor behind them. -/
theorem step_walks (huserdb : config.haveUserdb = true) (event : UserStoreEvent)
    (hrange : InRange config self.store.nextAlloc) :
    ∃ steps, self.asked config event = walk (following config) self.store.nextAlloc steps ∧
      (step config self event).store.nextAlloc = position config self.store.nextAlloc steps ∧
      ∀ uid, Picks config self event uid →
        0 < steps ∧ uid = position config self.store.nextAlloc (steps - 1) := by
  have hstays : position config self.store.nextAlloc 0 = self.store.nextAlloc :=
    position_zero hrange
  unfold step asked
  cases event with
  | remove uid =>
    refine ⟨0, rfl, ?_, fun _ hpicks => hpicks.elim⟩
    dsimp only
    split
    · exact hstays.symm
    · split
      · exact hstays.symm
      · rename_i hremove
        rw [hstays]
        exact remove_nextAlloc hremove
  | create database request =>
    dsimp only
    split
    · rename_i haborted
      refine ⟨0, rfl, hstays.symm, ?_⟩
      rintro uid ⟨hruns, -⟩
      rw [haborted] at hruns
      cases hruns
    · cases hname : self.store.pickUsername config request.preferredUsername with
      | none =>
        refine ⟨0, rfl, ?_, ?_⟩
        · simp only [create, hname, Option.map_none]
          exact hstays.symm
        · rintro uid ⟨-, username, hsome, -⟩
          rw [hname] at hsome
          cases hsome
      | some username =>
        obtain ⟨k, left, found, hsearched, hpicked⟩ := pickUid_searched database huserdb hrange
        refine ⟨k + 1, hsearched.asked_eq, ?_, ?_⟩
        · simp only [create, hname, Option.map_some]
          rw [createNamed_nextAlloc, hpicked, hsearched.left_eq]
        · rintro uid ⟨-, username', -, huid⟩
          refine ⟨Nat.succ_pos k, ?_⟩
          rw [hpicked] at huid
          rcases hsearched.found_eq with ⟨-, hfound⟩ | ⟨-, -, hnone⟩
          · rw [hfound] at huid
            cases huid
            rfl
          · rw [hnone] at huid
            cases huid

theorem run_keepsRange (events : List UserStoreEvent)
    (hrange : InRange config self.store.nextAlloc) :
    InRange config ((machine config).run self events).store.nextAlloc :=
  (machine config).run_invariant (fun self => InRange config self.store.nextAlloc)
    (fun _ event hrange => step_inRange event hrange) events hrange

/-- So does a run. -/
theorem run_walks (huserdb : config.haveUserdb = true) (events : List UserStoreEvent)
    (hrange : InRange config self.store.nextAlloc) :
    ∃ steps,
      askedAlong config self events = walk (following config) self.store.nextAlloc steps ∧
      ((machine config).run self events).store.nextAlloc =
        position config self.store.nextAlloc steps := by
  induction events generalizing self with
  | nil => exact ⟨0, rfl, (position_zero hrange).symm⟩
  | cons event events ih =>
    obtain ⟨m, hasked, hcursor, -⟩ := step_walks huserdb event hrange
    obtain ⟨n, hasked', hcursor'⟩ := ih (step_inRange event hrange)
    refine ⟨m + n, ?_, ?_⟩
    · rw [askedAlong, hasked, hasked', hcursor, walk_add, iterate_following hrange]
    · rw [EventMachine.run_cons]
      exact hcursor'.trans (by rw [hcursor, position_add hrange])

theorem askedAlong_append (before after : List UserStoreEvent) :
    askedAlong config self (before ++ after) =
      askedAlong config self before ++
        askedAlong config ((machine config).run self before) after := by
  induction before generalizing self with
  | nil => rfl
  | cons event before ih =>
    rw [List.cons_append, askedAlong, ih, askedAlong, List.append_assoc]
    rfl

/-- A number that is picked is picked again only after all the others of the range have been
asked for. -/
theorem picks_again (huserdb : config.haveUserdb = true)
    (hrange : InRange config self.store.nextAlloc) {first second : UserStoreEvent}
    {middle : List UserStoreEvent} {uid : Nat} (hfirst : Picks config self first uid)
    (hsecond : Picks config ((machine config).run self (first :: middle)) second uid) :
    ∃ earlier,
      askedAlong config (step config self first) (middle ++ [second]) = earlier ++ [uid] ∧
      ∀ other, InRange config other → other ≠ uid → other ∈ earlier := by
  obtain ⟨m, -, hcursor, hpicked⟩ := step_walks huserdb first hrange
  obtain ⟨hm, huid⟩ := hpicked uid hfirst
  obtain ⟨m, rfl⟩ := Nat.exists_eq_succ_of_ne_zero (Nat.ne_of_gt hm)
  rw [Nat.succ_eq_add_one, Nat.add_sub_cancel] at huid
  have hin : InRange config uid := huid ▸ position_inRange hrange m
  have hnext := step_inRange first hrange
  -- the cursor is behind the number that has been picked
  have hbehind : (step config self first).store.nextAlloc = following config uid := by
    rw [hcursor, huid, following_position]
  rw [EventMachine.run_cons] at hsecond
  obtain ⟨n, hmiddle, hcursor'⟩ := run_walks huserdb middle hnext
  obtain ⟨k, hlast, -, hpicked'⟩ := step_walks huserdb second (run_keepsRange middle hnext)
  obtain ⟨hk, huid'⟩ := hpicked' uid hsecond
  obtain ⟨k, rfl⟩ := Nat.exists_eq_succ_of_ne_zero (Nat.ne_of_gt hk)
  rw [Nat.succ_eq_add_one, Nat.add_sub_cancel, hcursor', hbehind,
    position_add (following_inRange hin), ← iterate_following (following_inRange hin)] at huid'
  refine ⟨walk (following config) (following config uid) (n + k), ?_, ?_⟩
  · calc
      askedAlong config (step config self first) (middle ++ [second]) =
          walk (following config) (following config uid) n ++
            walk (following config) ((following config)^[n] (following config uid)) (k + 1) := by
        rw [askedAlong_append, hmiddle, askedAlong, askedAlong, List.append_nil, hlast, hcursor',
          hbehind, iterate_following (following_inRange hin)]
      _ = walk (following config) (following config uid) (n + k) ++ [uid] := by
        rw [← walk_add, ← Nat.add_assoc, walk_succ, ← huid']
  · intro other hother hne
    obtain ⟨rounds, -, rfl⟩ := exists_position hin hother
    rw [← iterate_following hin] at hne ⊢
    exact mem_walk_of_return huid'.symm hne

/-- `pick_uid` ends, from every store with the cursor in the range, and leaves the cursor there.
It fails just when every number of the range is used, and otherwise returns the first unused one
from the cursor on.  In what follows, the number comes again only after all the others have been
asked for. -/
theorem pickUid_firstUnused (config : UserdbConfig) (database : UserDatabase)
    (store : GdmDynamicUserStore) (username : String) (huserdb : config.haveUserdb = true)
    (hrange : InRange config store.nextAlloc) :
    (∃ left found asked,
      (∀ rounds ≥ config.greeterUidCount,
        pickUidLoop config database store.nextAlloc rounds store = some (left, found, asked)) ∧
      store.pickUid config database username = (left, answer found)) ∧
    InRange config (store.pickUid config database username).1.nextAlloc ∧
    ((∃ message, (store.pickUid config database username).2 = .error (.noFreeUid message)) ↔
      ∀ uid, InRange config uid → store.alreadyUsed database uid = true) ∧
    ((∀ uid, InRange config uid → store.alreadyUsed database uid = true) ∨
      ∃ uid, (store.pickUid config database username).2 = .ok uid ∧
        FirstUnused config database store uid) ∧
    ∀ first middle second uid,
      Picks config { store := store } first uid →
      Picks config ((machine config).run { store := store } (first :: middle)) second uid →
      ∃ earlier,
        askedAlong config (step config { store := store } first) (middle ++ [second]) =
          earlier ++ [uid] ∧
        ∀ other, InRange config other → other ≠ uid → other ∈ earlier := by
  obtain ⟨k, left, found, asked, hsearched, hloop⟩ := pickUidLoop_searched database hrange
  have hpicked : store.pickUid config database username = (left, answer found) :=
    pickUid_of_pickUidLoop huserdb (hloop _ (Nat.le_refl _)) username
  obtain ⟨hfirst, hnone⟩ := hsearched.found_firstUnused hrange
  rw [hpicked, ← hnone]
  refine ⟨⟨left, found, asked, hloop, rfl⟩, ?_, ?_, ?_, fun _ _ _ _ => picks_again huserdb hrange⟩
  · rw [hsearched.left_eq]
    exact position_inRange hrange (k + 1)
  · cases found with
    | none => simp [answer]
    | some uid => simp [answer]
  · cases found with
    | none => exact .inl rfl
    | some uid => exact .inr ⟨uid, rfl, hfirst uid rfl⟩

/-- The last number of the range is free and the cursor is at it: the next search begins at the
first number. -/
theorem pickUid_firstUnused_last :
    InRange {} 60705 ∧ (GdmDynamicUserStore.pickUid {} { nextAlloc := 60705 } {} "gdm-greeter") =
        ({ nextAlloc := 60578 }, .ok 60705) ∧
      ∃ uid, (GdmDynamicUserStore.pickUid {} { nextAlloc := 60705 } {} "gdm-greeter").2 = .ok uid ∧
        FirstUnused {} {} { nextAlloc := 60705 } uid := by
  have hrange : InRange {} ({ nextAlloc := 60705 } : GdmDynamicUserStore).nextAlloc :=
    ⟨by decide, by decide⟩
  refine ⟨hrange, rfl, ?_⟩
  rcases (pickUid_firstUnused {} {} { nextAlloc := 60705 } "gdm-greeter" rfl hrange).2.2.2.1
    with hall | hfound
  · exact absurd (hall 60578 ⟨by decide, by decide⟩) (by decide)
  · exact hfound

end UserStoreProcess

end Gdm
