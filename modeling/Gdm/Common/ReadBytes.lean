import Gdm.Library.EventMachine
import Mathlib.Algebra.Order.Ring.Nat

/-!
# Reading random bytes

The loop that fills a buffer from a device.  What `read` returns is kept in an unsigned
variable, so a failed call looks like one that has read a very large number of bytes.
-/

namespace Gdm

/-- The `errno` of a call that has failed. -/
inductive Errno
  | eintr
  | other (code : Nat)
  deriving DecidableEq, Repr

/-- What `read` meets: so many bytes, none at the end of the file, or an error. -/
inductive ReadOutcome
  | bytes (available : Nat)
  | error (errno : Errno)
  deriving DecidableEq, Repr

/-- The errors of `_read_bytes`: "No data available", and that of `errno`. -/
inductive ReadBytesError
  | noDataAvailable
  | errno (errno : Option Errno)
  deriving DecidableEq, Repr

/-- `_read_bytes` before a call of `read` or when it has returned.  `stores` has the offset and
the number of the bytes that each call has written. -/
structure ReadBytes where
  numberOfBytes : Nat
  bytesLeftToRead : Nat
  totalBytesRead : Nat := 0
  errno : Option Errno := none
  stores : List (Nat × Nat) := []
  result : Option (Except ReadBytesError Unit) := none

namespace ReadBytes

variable (w : Nat) (self : ReadBytes)

/-- What `read` returns when it is asked for some bytes, as an unsigned number of `w` bits. -/
def returned (asked : Nat) : ReadOutcome → Nat
  | .bytes available => min available (min asked (2 ^ (w - 1) - 1))
  | .error _ => 2 ^ w - 1

/-- `errno`, which was cleared before the call. -/
def errnoOf : ReadOutcome → Option Errno
  | .bytes _ => none
  | .error errno => some errno

/-- What the call has written. -/
def storesOf (self : ReadBytes) : ReadOutcome → List (Nat × Nat)
  | .bytes available => [(self.totalBytesRead, returned w self.bytesLeftToRead (.bytes available))]
  | .error _ => []

/-- After the loop, which was not left at the end of the file. -/
def leaveLoop : ReadBytes :=
  { self with
    result := some (if 0 < self.bytesLeftToRead then .error (.errno self.errno) else .ok ()) }

/-- The condition of the loop. -/
def again : ReadBytes :=
  if 0 < self.bytesLeftToRead then self else self.leaveLoop

/-- One round of the loop of `_read_bytes`. -/
def step (outcome : ReadOutcome) : ReadBytes :=
  if self.result.isSome then self
  else
    let bytesRead := returned w self.bytesLeftToRead outcome
    let self := { self with
      errno := errnoOf outcome
      stores := self.stores ++ storesOf w self outcome }
    if 0 < bytesRead then
      { self with
        totalBytesRead := (self.totalBytesRead + bytesRead) % 2 ^ w
        bytesLeftToRead := (self.bytesLeftToRead + 2 ^ w - bytesRead) % 2 ^ w }.again
    else if bytesRead = 0 then { self with result := some (.error .noDataAvailable) }
    else if self.errno ≠ some .eintr then self.leaveLoop
    else self.again

/-- The start of `_read_bytes`. -/
def start (numberOfBytes : Nat) : ReadBytes :=
  { numberOfBytes := numberOfBytes, bytesLeftToRead := numberOfBytes }

/-- The loop as a machine that is driven by what `read` meets. -/
def machine : EventMachine ReadBytes ReadOutcome where
  Start self := ∃ numberOfBytes, 0 < numberOfBytes ∧ numberOfBytes < 2 ^ w ∧
    self = start numberOfBytes
  step := step w

/-! ## What is asked of the loop -/

/-- The number of bytes that have been stored. -/
def stored : Nat :=
  (self.stores.map Prod.snd).sum

/-- Each call has stored its bytes right after those of the calls before it. -/
def InOrder (stores : List (Nat × Nat)) : Prop :=
  ∀ before store after, stores = before ++ store :: after →
    store.1 = (before.map Prod.snd).sum

/-- What is asked of a round. -/
structure ReadsRight (state : ReadBytes) (outcome : ReadOutcome) : Prop where
  counts : (step w state outcome).stored + (step w state outcome).bytesLeftToRead =
    (step w state outcome).numberOfBytes
  within : ∀ store ∈ (step w state outcome).stores,
    store.1 + store.2 ≤ (step w state outcome).numberOfBytes
  inOrder : InOrder (step w state outcome).stores
  retries : state.result = none → outcome = .error .eintr →
    (step w state outcome).result = none ∧
      (step w state outcome).bytesLeftToRead = state.bytesLeftToRead ∧
      (step w state outcome).totalBytesRead = state.totalBytesRead ∧
      (step w state outcome).stores = state.stores
  fails : state.result = none → (outcome = .bytes 0 ∨ ∃ code, outcome = .error (.other code)) →
    ∃ error, (step w state outcome).result = some (.error error)
  succeeds : (step w state outcome).result = some (.ok ()) →
    (step w state outcome).stored = (step w state outcome).numberOfBytes

/-- While the loop runs, `read` does not fail. -/
def ReadSucceeds (self : ReadBytes) (outcome : ReadOutcome) : Prop :=
  self.result = none → ∃ available, outcome = .bytes available

variable {w} {self}

/-! ## A call that reads -/

theorem returned_bytes_le (asked available : Nat) :
    returned w asked (.bytes available) ≤ asked := by
  simp only [returned]
  omega

/-- What is kept while no call fails. -/
structure Sound (w : Nat) (state : ReadBytes) : Prop where
  size_lt : state.numberOfBytes < 2 ^ w
  total : state.totalBytesRead = state.stored
  counts : state.stored + state.bytesLeftToRead = state.numberOfBytes
  within : ∀ store ∈ state.stores, store.1 + store.2 ≤ state.numberOfBytes
  inOrder : InOrder state.stores
  left_pos : state.result = none → 0 < state.bytesLeftToRead
  ok : state.result = some (.ok ()) → state.bytesLeftToRead = 0

theorem sound_start {n : Nat} (hpos : 0 < n) (hlt : n < 2 ^ w) : Sound w (start n) where
  size_lt := hlt
  total := by simp [start, stored]
  counts := by simp [start, stored]
  within := by simp [start]
  inOrder := by
    intro before store after h
    simp [start] at h
  left_pos := fun _ => hpos
  ok := by simp [start]

theorem inOrder_concat {stores : List (Nat × Nat)} {store : Nat × Nat} (h : InOrder stores)
    (hstore : store.1 = (stores.map Prod.snd).sum) : InOrder (stores ++ [store]) := by
  intro before store' after heq
  rcases List.eq_nil_or_concat after with rfl | ⟨after, last, rfl⟩
  · obtain ⟨rfl, hlast⟩ := List.append_inj' heq rfl
    obtain rfl : store = store' := by simpa using hlast
    exact hstore
  · have heq' : stores ++ [store] = (before ++ store' :: after) ++ [last] := by simpa using heq
    exact h before store' after (List.append_inj' heq' rfl).1

/-- The state after a call that has written `count` bytes, before the loop goes on. -/
def advanced (self : ReadBytes) (count : Nat) : ReadBytes :=
  { self with
    errno := none
    stores := self.stores ++ [(self.totalBytesRead, count)]
    totalBytesRead := self.totalBytesRead + count
    bytesLeftToRead := self.bytesLeftToRead - count }

/-- While the loop runs, a call that does not fail either finds the end of the file or moves
the counters by what it has written. -/
theorem Sound.step_bytes (h : Sound w self) (hrunning : self.result = none) (available : Nat) :
    let count := returned w self.bytesLeftToRead (.bytes available)
    (0 < count → step w self (.bytes available) = (advanced self count).again) ∧
      (count = 0 → step w self (.bytes available) =
        { advanced self 0 with result := some (.error .noDataAvailable) }) := by
  intro count
  have hcount : count ≤ self.bytesLeftToRead := returned_bytes_le _ _
  have htotal : self.totalBytesRead + self.bytesLeftToRead = self.numberOfBytes := by
    rw [h.total, h.counts]
  have hsize := h.size_lt
  constructor
  · intro hpos
    have hadd : (self.totalBytesRead + count) % 2 ^ w = self.totalBytesRead + count :=
      Nat.mod_eq_of_lt (by omega)
    have hsub : (self.bytesLeftToRead + 2 ^ w - count) % 2 ^ w = self.bytesLeftToRead - count := by
      have hrearranged : self.bytesLeftToRead + 2 ^ w - count =
          (self.bytesLeftToRead - count) + 2 ^ w := by omega
      rw [hrearranged, Nat.add_mod_right, Nat.mod_eq_of_lt (by omega)]
    simp only [step, hrunning, Option.isSome_none, Bool.false_eq_true, if_false, errnoOf, storesOf]
    rw [if_pos hpos, hadd, hsub]
    simp only [advanced, hrunning, count]
  · intro hzero
    simp only [step, hrunning, Option.isSome_none, Bool.false_eq_true, if_false, errnoOf, storesOf]
    rw [if_neg (by omega), if_pos hzero]
    simp [advanced, count] at hzero ⊢
    exact hzero

/-- What is kept between a call and the condition of the loop. -/
theorem Sound.of_again (h : Sound w self) (hrunning : self.result = none) {count : Nat}
    (hcount : count ≤ self.bytesLeftToRead) : Sound w (advanced self count).again := by
  have htotal : self.totalBytesRead + self.bytesLeftToRead = self.numberOfBytes := by
    rw [h.total, h.counts]
  have hstored : (advanced self count).stored = self.stored + count := by
    simp [advanced, stored]
  have hwithin : ∀ store ∈ (advanced self count).stores, store.1 + store.2 ≤
      self.numberOfBytes := by
    intro store hstore
    rcases List.mem_append.mp hstore with hold | hnew
    · exact h.within store hold
    · obtain rfl := List.mem_singleton.mp hnew
      simp only
      omega
  have horder : InOrder (advanced self count).stores := inOrder_concat h.inOrder h.total
  have hcounts := h.counts
  by_cases hleft : 0 < (advanced self count).bytesLeftToRead
  · rw [again, if_pos hleft]
    exact
      { size_lt := h.size_lt
        total := by rw [hstored, ← h.total]; rfl
        counts := by rw [hstored]; simp only [advanced]; omega
        within := hwithin
        inOrder := horder
        left_pos := fun _ => hleft
        ok := fun hok => by simp [advanced, hrunning] at hok }
  · rw [again, if_neg hleft]
    exact
      { size_lt := h.size_lt
        total := by
          have htotal' : (advanced self count).totalBytesRead = (advanced self count).stored := by
            rw [hstored, ← h.total]
            rfl
          exact htotal'
        counts := by
          simp only [leaveLoop, advanced, stored] at hstored ⊢
          rw [hstored]
          simp only [stored] at hcounts
          omega
        within := hwithin
        inOrder := horder
        left_pos := fun hnone => by simp [leaveLoop] at hnone
        ok := fun _ => Nat.eq_zero_of_not_pos hleft }

theorem Sound.noDataAvailable (h : Sound w self) :
    Sound w { advanced self 0 with result := some (.error .noDataAvailable) } where
  size_lt := h.size_lt
  total := by simpa [advanced, stored] using h.total
  counts := by simpa [advanced, stored] using h.counts
  within := by
    intro store hstore
    have hcounts := h.counts
    have htotal := h.total
    rcases List.mem_append.mp hstore with hold | hnew
    · exact h.within store hold
    · obtain rfl := List.mem_singleton.mp hnew
      simp only [advanced]
      omega
  inOrder := inOrder_concat h.inOrder h.total
  left_pos := fun hnone => by simp at hnone
  ok := fun hok => by simp at hok

theorem step_of_finished {outcome : ReadOutcome} (h : self.result ≠ none) :
    step w self outcome = self := by
  rw [step, if_pos (Option.isSome_iff_ne_none.mpr h)]

theorem Sound.of_step (h : Sound w self) {outcome : ReadOutcome}
    (hread : ReadSucceeds self outcome) : Sound w (step w self outcome) := by
  by_cases hrunning : self.result = none
  · obtain ⟨available, rfl⟩ := hread hrunning
    obtain ⟨hsome, hnone⟩ := h.step_bytes hrunning available
    rcases Nat.eq_zero_or_pos (returned w self.bytesLeftToRead (.bytes available)) with hz | hp
    · rw [hnone hz]
      exact h.noDataAvailable
    · rw [hsome hp]
      exact h.of_again hrunning (returned_bytes_le _ _)
  · rw [step_of_finished hrunning]
    exact h

/-- A call that does not fail is handled as it should be. -/
theorem Sound.readsRight (h : Sound w self) {outcome : ReadOutcome}
    (hread : ReadSucceeds self outcome) : ReadsRight w self outcome := by
  have hnext := h.of_step hread
  exact
    { counts := hnext.counts
      within := hnext.within
      inOrder := hnext.inOrder
      retries := by
        intro hrunning heintr
        obtain ⟨available, hbytes⟩ := hread hrunning
        rw [heintr] at hbytes
        cases hbytes
      fails := by
        intro hrunning hfail
        obtain ⟨available, rfl⟩ := hread hrunning
        rcases hfail with hzero | ⟨code, hcode⟩
        · obtain rfl : available = 0 := by simpa using hzero
          exact ⟨_, by rw [(h.step_bytes hrunning 0).2 (by simp [returned])]⟩
        · cases hcode
      succeeds := by
        intro hok
        have hcounts := hnext.counts
        rw [hnext.ok hok] at hcounts
        exact hcounts }

/-! ## A call that fails -/

/-- What every round keeps. -/
structure Running (w : Nat) (state : ReadBytes) : Prop where
  left_lt : state.bytesLeftToRead < 2 ^ w
  left_pos : state.result = none → 0 < state.bytesLeftToRead

theorem running_again (h : self.bytesLeftToRead < 2 ^ w) : Running w self.again := by
  unfold again
  split
  · next hpos => exact ⟨h, fun _ => hpos⟩
  · exact ⟨h, fun hnone => by simp [leaveLoop] at hnone⟩

theorem Running.of_step (h : Running w self) (outcome : ReadOutcome) :
    Running w (step w self outcome) := by
  have hmod (n : Nat) : n % 2 ^ w < 2 ^ w := Nat.mod_lt _ (Nat.two_pow_pos w)
  by_cases hrunning : self.result = none
  · simp only [step, hrunning, Option.isSome_none, Bool.false_eq_true, if_false]
    split
    · exact running_again (hmod _)
    · split
      · exact ⟨h.left_lt, fun hnone => by simp at hnone⟩
      · split
        · exact ⟨h.left_lt, fun hnone => by simp [leaveLoop] at hnone⟩
        · exact running_again h.left_lt
  · rw [step_of_finished hrunning]
    exact h

/-- After a call that has failed, one more byte is left to be read than before. -/
theorem Running.step_error (h : Running w self) (hrunning : self.result = none) (errno : Errno) :
    ∃ total, step w self (.error errno) =
      { self with
        errno := some errno
        totalBytesRead := total
        bytesLeftToRead := (self.bytesLeftToRead + 1) % 2 ^ w }.again := by
  have hleft := h.left_pos hrunning
  have hlt := h.left_lt
  have hreturned : 0 < returned w self.bytesLeftToRead (.error errno) := by
    simp only [returned]
    omega
  have hsub : self.bytesLeftToRead + 2 ^ w - (2 ^ w - 1) = self.bytesLeftToRead + 1 := by omega
  simp only [step, hrunning, Option.isSome_none, Bool.false_eq_true, if_false, errnoOf,
    storesOf]
  rw [if_pos hreturned]
  simp only [returned, hsub, List.append_nil]
  exact ⟨_, rfl⟩

/-- Where a round is handled as it should be, its call has not failed. -/
theorem Running.readSucceeds (h : Running w self) {outcome : ReadOutcome}
    (hright : ReadsRight w self outcome) : ReadSucceeds self outcome := by
  intro hrunning
  have hpos := h.left_pos hrunning
  have hlt := h.left_lt
  cases outcome with
  | bytes available => exact ⟨available, rfl⟩
  | error errno =>
    obtain ⟨total, hstep⟩ := h.step_error hrunning errno
    exfalso
    cases errno with
    | eintr =>
      obtain ⟨-, hleft, -⟩ := hright.retries hrunning rfl
      rw [hstep] at hleft
      have hsame : (self.bytesLeftToRead + 1) % 2 ^ w = self.bytesLeftToRead := by
        unfold again at hleft
        split at hleft <;> exact hleft
      rcases Nat.lt_or_ge (self.bytesLeftToRead + 1) (2 ^ w) with hsmall | hlarge
      · rw [Nat.mod_eq_of_lt hsmall] at hsame
        omega
      · have hfull : self.bytesLeftToRead + 1 = 2 ^ w := by omega
        rw [hfull, Nat.mod_self] at hsame
        omega
    | other code =>
      obtain ⟨error, herror⟩ := hright.fails hrunning (Or.inr ⟨code, rfl⟩)
      rw [hstep] at herror
      unfold again at herror
      split at herror
      · simp [hrunning] at herror
      · next hnone => simp [leaveLoop, hnone] at herror

/-- Every round of `_read_bytes` keeps count of the bytes, stores them within the buffer, retries
after an interruption and stops at an error exactly if no call of `read` fails. -/
theorem run_readsRight_iff {n : Nat} (hpos : 0 < n) (hlt : n < 2 ^ w)
    (outcomes : List ReadOutcome) :
    (machine w).Meets (ReadsRight w) (start n) outcomes ↔
      (machine w).Meets ReadSucceeds (start n) outcomes := by
  constructor
  · intro h
    exact h.imp_of_invariant (Running w)
      (fun _ _ hs hright => ⟨hs.readSucceeds hright, hs.of_step _⟩) ⟨hlt, fun _ => hpos⟩
  · intro h
    exact h.imp_of_invariant (Sound w)
      (fun _ _ hs hread => ⟨hs.readsRight hread, hs.of_step hread⟩) (sound_start hpos hlt)

theorem run_readsRight_iff_short :
    (machine 64).Meets (ReadsRight 64) (start 3) [.bytes 1, .bytes 2] ↔
      (machine 64).Meets ReadSucceeds (start 3) [.bytes 1, .bytes 2] :=
  run_readsRight_iff (by decide) (by decide) [.bytes 1, .bytes 2]

/-- A signal that arrives after the first of two bytes: both bytes are then left to be read. -/
theorem run_interrupted :
    ¬ (machine 64).Meets (ReadsRight 64) (start 2) [.bytes 1, .error .eintr] := by
  rintro ⟨-, hright, -⟩
  have hleft := (hright.retries rfl rfl).2.1
  have hbefore : ((machine 64).step (start 2) (.bytes 1)).bytesLeftToRead = 1 := by decide
  have hafter : (step 64 ((machine 64).step (start 2) (.bytes 1))
      (.error .eintr)).bytesLeftToRead = 2 := by decide
  rw [hbefore, hafter] at hleft
  exact absurd hleft (by decide)

end ReadBytes

end Gdm
