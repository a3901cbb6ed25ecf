import Gdm.Library.Monitor
import Gdm.Worker.TransitionSystem
import Mathlib.Data.List.Induction

/-!
# PAM balance

Whatever the worker does with a PAM handle is undone before `pam_end`: a session
that was opened is closed, credentials that were established are deleted, and
every handle is ended once.

The protocol of one handle is a monitor.  The invariant is that the monitor of
every handle accepts the history and that the worker knows where the handle is
in its life: the state of the monitor is a function of the state of the worker.
-/

namespace Gdm

/-! ## The life of a handle -/

/-- Where a PAM handle is in its life.  Once there is nothing left to undo, the
life still tells whether there were credentials and a session. -/
inductive HandleLife
  | unborn
  | alive
  | accredited
  | opened
  | closed
  | deleted (hadSession : Bool)
  | ended (hadCredentials hadSession : Bool)
  deriving DecidableEq, Repr

namespace HandleLife

/-- What a PAM call does to the life of its own handle; `none` is a breach of the
protocol. -/
def call : HandleLife → PamCall → PamCode → Option HandleLife
  | unborn, .start, .success => some alive
  | _, .start, _ => none
  | accredited, .openSession _, .success => some opened
  | _, .openSession _, .success => none
  | opened, .closeSession, _ => some closed
  | _, .closeSession, _ => none
  | accredited, .setcred .deleteCred, _ => some (deleted false)
  | closed, .setcred .deleteCred, _ => some (deleted true)
  | _, .setcred .deleteCred, _ => none
  | alive, .pamEnd, _ => some (ended false false)
  | deleted hadSession, .pamEnd, _ => some (ended true hadSession)
  | _, .pamEnd, _ => none
  | life, _, _ => some life

/-- The worker reaches ACCREDITED: that concerns the handle that is alive. -/
def accredit : HandleLife → HandleLife
  | alive => accredited
  | life => life

/-- The protocol of one handle. -/
def monitor (handle : Nat) : Monitor Effect HandleLife where
  init := unborn
  step life effect :=
    match effect with
    | .pam call (some handle') code =>
      if handle' = handle then life.call call code else some life
    | .notifyState .accredited => some life.accredit
    | _ => some life

/-- What the history says about a life, as numbers. -/
def starts : HandleLife → Nat
  | unborn => 0
  | _ => 1

def opens : HandleLife → Nat
  | opened | closed => 1
  | deleted hadSession | ended _ hadSession => hadSession.toNat
  | _ => 0

def closes : HandleLife → Nat
  | closed => 1
  | deleted hadSession | ended _ hadSession => hadSession.toNat
  | _ => 0

def deletes : HandleLife → Nat
  | deleted _ => 1
  | ended hadCredentials _ => hadCredentials.toNat
  | _ => 0

def ends : HandleLife → Nat
  | ended _ _ => 1
  | _ => 0

end HandleLife

/-! ## Counting calls -/

/-- The entries of the history that are calls of one kind on `handle`. -/
def Effect.onHandle (kind : PamCall → PamCode → Bool) (handle : Nat) : Effect → Bool
  | pam call (some handle') code => handle' = handle && kind call code
  | _ => false

namespace PamCall

/-- The kinds of calls that have to balance. -/
def starts : PamCall → PamCode → Bool
  | start, .success => true
  | _, _ => false

def opens : PamCall → PamCode → Bool
  | openSession _, .success => true
  | _, _ => false

def closes : PamCall → PamCode → Bool
  | closeSession, _ => true
  | _, _ => false

def deletes : PamCall → PamCode → Bool
  | setcred .deleteCred, _ => true
  | _, _ => false

def ends : PamCall → PamCode → Bool
  | pamEnd, _ => true
  | _, _ => false

/-- A call that is none of those that have to balance. -/
structure ChangesNothing (call : PamCall) (code : PamCode) : Prop where
  start : call ≠ .start
  opens : call.opens code = false
  closes : call.closes code = false
  deletes : call.deletes code = false
  ends : call.ends code = false

theorem ChangesNothing.starts {call : PamCall} {code : PamCode}
    (h : ChangesNothing call code) : call.starts code = false := by
  cases call with
  | start => exact absurd rfl h.start
  | _ => rfl

end PamCall

namespace HandleLife

theorem call_of_changesNothing (life : HandleLife) {call : PamCall} {code : PamCode}
    (h : call.ChangesNothing code) : life.call call code = some life := by
  cases call with
  | start => exact absurd rfl h.start
  | closeSession => cases h.closes
  | pamEnd => cases h.ends
  | setcred flags => cases flags with
    | deleteCred => cases h.deletes
    | _ => cases life <;> rfl
  | openSession silent => cases code with
    | success => cases h.opens
    | _ => cases life <;> rfl
  | authenticate _ | acctMgmt _ | chauthtok => cases life <;> rfl

/-- What the protocol lets a call do to a life. -/
inductive Calls : HandleLife → PamCall → PamCode → HandleLife → Prop
  | starts : Calls unborn .start .success alive
  | opens (silent : Bool) : Calls accredited (.openSession silent) .success opened
  | closes (code : PamCode) : Calls opened .closeSession code closed
  | deletes (code : PamCode) : Calls accredited (.setcred .deleteCred) code (deleted false)
  | deletesClosed (code : PamCode) : Calls closed (.setcred .deleteCred) code (deleted true)
  | ends (code : PamCode) : Calls alive .pamEnd code (ended false false)
  | endsDeleted (hadSession : Bool) (code : PamCode) :
      Calls (deleted hadSession) .pamEnd code (ended true hadSession)
  | idle {life : HandleLife} {call : PamCall} {code : PamCode}
      (hkind : call.ChangesNothing code) : Calls life call code life

theorem calls_of_call {life life' : HandleLife} {call : PamCall} {code : PamCode}
    (h : life.call call code = some life') : Calls life call code life' := by
  have hidle : call.ChangesNothing code → Calls life call code life' := by
    intro hkind
    obtain rfl := Option.some.inj ((life.call_of_changesNothing hkind).symm.trans h)
    exact .idle hkind
  cases call with
  | start => cases life with
    | unborn => cases code with
      | success =>
        cases h
        exact .starts
      | _ => cases h
    | _ => cases h
  | openSession silent => cases code with
    | success => cases life with
      | accredited =>
        cases h
        exact .opens silent
      | _ => cases h
    | _ => exact hidle ⟨nofun, rfl, rfl, rfl, rfl⟩
  | closeSession => cases life with
    | opened =>
      cases h
      exact .closes code
    | _ => cases h
  | setcred flags => cases flags with
    | deleteCred => cases life with
      | accredited =>
        cases h
        exact .deletes code
      | closed =>
        cases h
        exact .deletesClosed code
      | _ => cases h
    | _ => exact hidle ⟨nofun, rfl, rfl, rfl, rfl⟩
  | pamEnd => cases life with
    | alive =>
      cases h
      exact .ends code
    | deleted hadSession =>
      cases h
      exact .endsDeleted hadSession code
    | _ => cases h
  | authenticate _
  | acctMgmt _
  | chauthtok => exact hidle ⟨nofun, rfl, rfl, rfl, rfl⟩

/-- A kind of call is counted by a number of the life if every call of the
protocol adds as much to the one as to the other. -/
structure Counts (kind : PamCall → PamCode → Bool) (number : HandleLife → Nat) : Prop where
  unborn : number unborn = 0
  call : ∀ (life life' : HandleLife) call code, life.call call code = some life' →
    number life' = number life + if kind call code then 1 else 0
  accredit : ∀ life : HandleLife, number life.accredit = number life

theorem Counts.step {kind : PamCall → PamCode → Bool} {number : HandleLife → Nat}
    (h : Counts kind number) {handle : Nat} {life life' : HandleLife} {effect : Effect}
    (hstep : (monitor handle).step life effect = some life') :
    number life' = number life + if effect.onHandle kind handle then 1 else 0 := by
  cases effect with
  | pam call handle' code =>
    cases handle' with
    | none =>
      cases hstep
      rfl
    | some handle' =>
      by_cases hself : handle' = handle
      · simp only [monitor, hself, if_true] at hstep
        simpa [Effect.onHandle, hself] using h.call life life' call code hstep
      · simp only [monitor, hself, if_false] at hstep
        cases hstep
        simp [Effect.onHandle, hself]
  | notifyState state => cases state with
    | accredited =>
      cases hstep
      exact h.accredit life
    | _ =>
      cases hstep
      rfl
  | _ =>
    cases hstep
    rfl

/-- The number of a life is the number of the calls in the history. -/
theorem Counts.countP_eq {kind : PamCall → PamCode → Bool} {number : HandleLife → Nat}
    (h : Counts kind number) {handle : Nat} {log : List Effect} {life : HandleLife}
    (hread : (monitor handle).read log = some life) :
    log.countP (Effect.onHandle kind handle) = number life := by
  induction log using List.reverseRecOn generalizing life with
  | nil =>
    cases hread
    exact h.unborn.symm
  | append_singleton log effect ih =>
    rw [Monitor.read_concat, Option.bind_eq_some_iff] at hread
    obtain ⟨life₁, hread₁, hstep⟩ := hread
    rw [h.step hstep, List.countP_append, ih hread₁, List.countP_singleton]

theorem counts_starts : Counts PamCall.starts starts where
  unborn := rfl
  accredit life := by cases life <;> rfl
  call life life' call code h := by
    cases calls_of_call h with
    | idle hkind => rw [hkind.starts, if_neg Bool.false_ne_true, Nat.add_zero]
    | _ => rfl

theorem counts_opens : Counts PamCall.opens opens where
  unborn := rfl
  accredit life := by cases life <;> rfl
  call life life' call code h := by
    cases calls_of_call h with
    | idle hkind => rw [hkind.opens, if_neg Bool.false_ne_true, Nat.add_zero]
    | _ => rfl

theorem counts_closes : Counts PamCall.closes closes where
  unborn := rfl
  accredit life := by cases life <;> rfl
  call life life' call code h := by
    cases calls_of_call h with
    | idle hkind => rw [hkind.closes, if_neg Bool.false_ne_true, Nat.add_zero]
    | _ => rfl

theorem counts_deletes : Counts PamCall.deletes deletes where
  unborn := rfl
  accredit life := by cases life <;> rfl
  call life life' call code h := by
    cases calls_of_call h with
    | idle hkind => rw [hkind.deletes, if_neg Bool.false_ne_true, Nat.add_zero]
    | _ => rfl

theorem counts_ends : Counts PamCall.ends ends where
  unborn := rfl
  accredit life := by cases life <;> rfl
  call life life' call code h := by
    cases calls_of_call h with
    | idle hkind => rw [hkind.ends, if_neg Bool.false_ne_true, Nat.add_zero]
    | _ => rfl

end HandleLife

/-! ## Reading a life back into the history -/

namespace HandleLife

/-- The handle has reached ACCREDITED. -/
def reached : HandleLife → Bool
  | unborn | alive => false
  | ended hadCredentials _ => hadCredentials
  | _ => true

theorem call_started {life life' : HandleLife} {call : PamCall} {code : PamCode}
    (h : life.call call code = some life') (hborn : life ≠ unborn) (hend : ends life' = 0) :
    life' ≠ unborn ∧ ends life = 0 ∧ life'.reached = life.reached := by
  cases calls_of_call h with
  | starts => exact absurd rfl hborn
  | ends
  | endsDeleted => cases hend
  | idle => exact ⟨hborn, hend, rfl⟩
  | opens
  | closes
  | deletes
  | deletesClosed => exact ⟨nofun, rfl, rfl⟩

/-- A handle is born once. -/
theorem call_ne_unborn {life life' : HandleLife} {call : PamCall} {code : PamCode}
    (h : life.call call code = some life') (hborn : life ≠ unborn) : life' ≠ unborn := by
  cases calls_of_call h with
  | idle => exact hborn
  | _ => exact nofun

/-- A handle that is alive is accredited. -/
theorem accredit_reached {life : HandleLife} (hborn : life ≠ unborn)
    (hend : ends life.accredit = 0) :
    ends life = 0 ∧ life.accredit.reached = true := by
  cases life with
  | unborn => exact absurd rfl hborn
  | ended => cases hend
  | _ => exact ⟨rfl, rfl⟩

/-- A handle that has been born and not been ended has reached ACCREDITED if and
only if the change to ACCREDITED is in its part of the history. -/
theorem reached_iff {handle : Nat} {log : List Effect} {life life' : HandleLife}
    (hread : (monitor handle).readFrom life log = some life') (hborn : life ≠ unborn)
    (hend : ends life' = 0) :
    ends life = 0 ∧
      (life'.reached = true ↔ life.reached = true ∨ .notifyState .accredited ∈ log) := by
  induction log generalizing life with
  | nil =>
    cases hread
    exact ⟨hend, by simp⟩
  | cons effect log ih =>
    rw [Monitor.readFrom_cons, Option.bind_eq_some_iff] at hread
    obtain ⟨life₁, hstep, hrest⟩ := hread
    cases effect with
    | pam call handle' code =>
      cases handle' with
      | none =>
        cases hstep
        simpa using ih hrest hborn
      | some handle' =>
        by_cases hself : handle' = handle
        · simp only [monitor, hself, if_true] at hstep
          obtain ⟨hend₁, hiff⟩ := ih hrest (call_ne_unborn hstep hborn)
          obtain ⟨_, hend₀, hsame⟩ := call_started hstep hborn hend₁
          exact ⟨hend₀, by simpa [hsame] using hiff⟩
        · simp only [monitor, hself, if_false] at hstep
          cases hstep
          simpa using ih hrest hborn
    | notifyState state =>
      by_cases hstate : state = .accredited
      · subst hstate
        cases hstep
        have hborn₁ : life.accredit ≠ unborn := by
          cases life with
          | unborn => exact absurd rfl hborn
          | _ => exact nofun
        obtain ⟨hend₁, hiff⟩ := ih hrest hborn₁
        obtain ⟨hend₀, hreached⟩ := accredit_reached hborn hend₁
        exact ⟨hend₀, by simp [hiff, hreached]⟩
      · have hsame : life₁ = life := by
          cases state with
          | accredited => exact absurd rfl hstate
          | _ =>
            cases hstep
            rfl
        subst hsame
        have hrec := ih hrest hborn
        simpa [Ne.symm hstate] using hrec
    | _ =>
      cases hstep
      simpa using ih hrest hborn

/-- A handle is born by its `pam_start`. -/
theorem unborn_of_starts {handle : Nat} {life life' : HandleLife}
    (hstep : (monitor handle).step life (.pam .start (some handle) .success) = some life') :
    life = unborn ∧ life' = alive := by
  simp only [monitor, if_true] at hstep
  cases calls_of_call hstep with
  | starts => exact ⟨rfl, rfl⟩
  | idle hkind => exact absurd rfl hkind.start

/-- When a handle is ended there is nothing left to undo. -/
theorem call_pamEnd {life life' : HandleLife} {status : PamCode}
    (h : life.call .pamEnd status = some life') :
    life = alive ∨ ∃ hadSession, life = deleted hadSession := by
  cases calls_of_call h with
  | ends => exact .inl rfl
  | endsDeleted hadSession => exact .inr ⟨hadSession, rfl⟩
  | idle hkind => cases hkind.ends

/-- Credentials are deleted when they are the next thing to undo. -/
theorem call_deleteCred {life life' : HandleLife} {code : PamCode}
    (h : life.call (.setcred .deleteCred) code = some life') :
    life = accredited ∨ life = closed := by
  cases calls_of_call h with
  | deletes => exact .inl rfl
  | deletesClosed => exact .inr rfl
  | idle hkind => cases hkind.deletes

theorem call_openSession {life life' : HandleLife} {silent : Bool}
    (h : life.call (.openSession silent) .success = some life') : life = accredited := by
  cases calls_of_call h with
  | opens => rfl
  | idle hkind => cases hkind.opens

end HandleLife

/-! ## Entries of no consequence -/

/-- The entries that no life depends on. -/
def Effect.isIdle : Effect → Bool
  | pam _ none _ => true
  | pam call (some _) code =>
    call != .start && !(call.opens code || call.closes code || call.deletes code ||
      call.ends code)
  | notifyState .accredited => false
  | _ => true

theorem HandleLife.step_of_isIdle {handle : Nat} {life : HandleLife} {effect : Effect}
    (h : effect.isIdle = true) : (monitor handle).step life effect = some life := by
  cases effect with
  | pam call handle' code =>
    cases handle' with
    | none => rfl
    | some handle' =>
      simp only [Effect.isIdle, Bool.and_eq_true, Bool.not_eq_true', Bool.or_eq_false_iff,
        bne_iff_ne] at h
      obtain ⟨hstart, ⟨⟨hopens, hcloses⟩, hdeletes⟩, hends⟩ := h
      simp only [monitor, life.call_of_changesNothing ⟨hstart, hopens, hcloses, hdeletes, hends⟩,
        ite_self]
  | notifyState state => cases state with
    | accredited => cases h
    | _ => rfl
  | _ => rfl

theorem Effect.isIdle_of_isNotice {effect : Effect} (h : effect.isNotice = true) :
    effect.isIdle = true := by
  cases effect with
  | notifyState
  | pam => cases h
  | _ => rfl

theorem Effect.isIdle_of_isAside {effect : Effect} (h : effect.isAside = true) :
    effect.isIdle = true := by
  cases effect with
  | notifyState
  | pam => cases h
  | _ => rfl

namespace GdmSessionWorker

variable {worker worker' : GdmSessionWorker}

/-! ## The worker follows the protocol -/

/-- The life of the current handle, which is a matter of the state. -/
def currentLife (state : GdmSessionWorkerState) : HandleLife :=
  if .sessionOpened ≤ state then .opened
  else if .accredited ≤ state then .accredited
  else .alive

/-- Where a handle is in its life, as far as the worker knows: it keeps the
current handle and its state, and has ended all earlier handles.  What an ended
handle had is left open. -/
def LifeIs (worker : GdmSessionWorker) (handle : Nat) (life : HandleLife) : Prop :=
  if worker.pamHandle = some handle then life = currentLife worker.state
  else if handle < worker.nextHandle then ∃ a b, life = .ended a b
  else life = .unborn

/-- The monitor of every handle has read the whole history and agrees with the
worker. -/
structure Balanced (worker : GdmSessionWorker) : Prop where
  sound : Sound worker
  fresh : ∀ handle, worker.pamHandle = some handle → handle < worker.nextHandle
  lives : ∀ handle, ∃ life, (HandleLife.monitor handle).read worker.log = some life ∧
    worker.LifeIs handle life
  /-- after `pam_end` there is no handle until the next `pam_start` -/
  clean : ∀ before handle status after,
    worker.log = before ++ .pam .pamEnd (some handle) status :: after →
    (∀ next, .pam .start (some next) .success ∉ after) → worker.pamHandle = none

theorem balanced_new (isReauthSession : Bool) (accounts : String → Option Account) :
    Balanced (new isReauthSession accounts) := by
  refine ⟨sound_new _ _, by simp [new], ?_, fun _ _ _ _ _ _ => rfl⟩
  intro handle
  exact ⟨.unborn, rfl, by simp [LifeIs, new]⟩

/-- What is new does not break the rule about `pam_end`: there is no handle, or no
handle was ended and the handle is the same or a new one. -/
def StaysClean (worker worker' : GdmSessionWorker) (new : List Effect) : Prop :=
  worker'.pamHandle = none ∨
    (∀ handle status, .pam .pamEnd (some handle) status ∉ new) ∧
      (worker'.pamHandle = worker.pamHandle ∨ ∃ next, .pam .start (some next) .success ∈ new)

theorem Balanced.clean_of_staysClean (hb : Balanced worker) {new : List Effect}
    (hlog : worker'.log = worker.log ++ new) (hstays : StaysClean worker worker' new)
    (before : List Effect) (handle : Nat) (status : PamCode) (after : List Effect)
    (hsplit : worker'.log = before ++ .pam .pamEnd (some handle) status :: after)
    (hnone : ∀ next, .pam .start (some next) .success ∉ after) : worker'.pamHandle = none := by
  rcases hstays with hno | ⟨hnoEnd, hhandle⟩
  · exact hno
  · rw [hlog] at hsplit
    rcases List.append_eq_append_iff.mp hsplit with ⟨mid, hbefore, hnew⟩ | ⟨mid, hold, hafter⟩
    · exact absurd (by simp [hnew]) (hnoEnd handle status)
    · cases mid with
      | nil =>
        refine absurd ?_ (hnoEnd handle status)
        simp only [List.nil_append] at hafter
        simp [← hafter]
      | cons effect mid =>
        simp only [List.cons_append, List.cons.injEq] at hafter
        obtain ⟨rfl, rfl⟩ := hafter
        rcases hhandle with heq | ⟨next, hstart⟩
        · rw [heq]
          exact hb.clean before handle status mid hold
            fun next hmem => hnone next (by simp [hmem])
        · exact absurd (by simp [hstart]) (hnone next)

/-- To stay balanced it is enough that the monitors can read what is new. -/
theorem Balanced.extend (hb : Balanced worker) (new : List Effect)
    (hlog : worker'.log = worker.log ++ new) (hsound : Sound worker')
    (hfresh : ∀ handle, worker'.pamHandle = some handle → handle < worker'.nextHandle)
    (hclean : StaysClean worker worker' new)
    (hlives : ∀ handle life, worker.LifeIs handle life →
      ∃ life', (HandleLife.monitor handle).readFrom life new = some life' ∧
        worker'.LifeIs handle life') : Balanced worker' := by
  refine ⟨hsound, hfresh, ?_, hb.clean_of_staysClean hlog hclean⟩
  intro handle
  obtain ⟨life, hread, hlife⟩ := hb.lives handle
  obtain ⟨life', hread', hlife'⟩ := hlives handle life hlife
  refine ⟨life', ?_, hlife'⟩
  rw [hlog, Monitor.read_append, hread]
  exact hread'

theorem not_pamEnd_of_isIdle {new : List Effect} (hnew : ∀ effect ∈ new, effect.isIdle = true)
    (handle : Nat) (status : PamCode) : .pam .pamEnd (some handle) status ∉ new := by
  intro hmem
  cases hnew _ hmem

/-- Entries that no life depends on, and no change of the handle or of what has
to be undone. -/
theorem Balanced.stay (hb : Balanced worker) (new : List Effect)
    (hlog : worker'.log = worker.log ++ new) (hnew : ∀ effect ∈ new, effect.isIdle = true)
    (hsound : Sound worker') (hhandle : worker'.pamHandle = worker.pamHandle)
    (hnext : worker'.nextHandle = worker.nextHandle)
    (haccredited : .accredited ≤ worker'.state ↔ .accredited ≤ worker.state)
    (hopened : .sessionOpened ≤ worker'.state ↔ .sessionOpened ≤ worker.state) :
    Balanced worker' := by
  refine hb.extend new hlog hsound (by rw [hhandle, hnext]; exact hb.fresh)
    (.inr ⟨not_pamEnd_of_isIdle hnew, .inl hhandle⟩) ?_
  intro handle life hlife
  refine ⟨life, Monitor.readFrom_of_ignored _ ?_, ?_⟩
  · intro effect heffect
    exact HandleLife.step_of_isIdle (hnew effect heffect)
  · simpa only [LifeIs, currentLife, hhandle, hnext, haccredited, hopened] using hlife

theorem lifeIs_current {handle : Nat} {life : HandleLife}
    (hhandle : worker.pamHandle = some handle) :
    worker.LifeIs handle life ↔ life = currentLife worker.state := by
  unfold LifeIs
  rw [if_pos hhandle]

/-- The other handles are ended or not yet born, and stay so when the current
handle has its life changed. -/
theorem lifeIs_other {handle other : Nat} {life : HandleLife}
    (hhandle : worker.pamHandle = some handle) (hother : other ≠ handle) :
    worker.LifeIs other life ↔
      if other < worker.nextHandle then ∃ a b, life = .ended a b else life = .unborn := by
  unfold LifeIs
  rw [if_neg (by rw [hhandle]; simpa [eq_comm] using hother)]

theorem lifeIs_none {handle : Nat} {life : HandleLife} (hhandle : worker.pamHandle = none) :
    worker.LifeIs handle life ↔
      if handle < worker.nextHandle then ∃ a b, life = .ended a b else life = .unborn := by
  unfold LifeIs
  rw [if_neg (by simp [hhandle])]

/-! ## Each transition keeps the balance -/

theorem isIdle_of_isNeutral {call : PamCall} {handle : Nat} {code : PamCode}
    (h : IsNeutral call code) : (Effect.pam call (some handle) code).isIdle = true := by
  cases call with
  | start | closeSession | pamEnd => cases h
  | setcred flags => cases flags with
    | deleteCred => exact absurd rfl h
    | _ => rfl
  | openSession silent => cases code with
    | success => exact absurd rfl h
    | _ => rfl
  | authenticate _ | acctMgmt _ | chauthtok => rfl

theorem Quiet.balanced (h : Quiet worker worker') (hsound : Sound worker')
    (hb : Balanced worker) : Balanced worker' := by
  obtain ⟨⟨settings, username, accounts, notices, rfl, hnotices⟩, _⟩ := h
  exact hb.stay notices rfl
    (fun effect heffect => Effect.isIdle_of_isNotice (hnotices effect heffect))
    hsound rfl rfl Iff.rfl Iff.rfl

theorem Settles.balanced (h : Settles worker worker') (hb : Balanced worker) :
    Balanced worker' := by
  induction h with
  | quiet hquiet => exact hquiet.balanced ((Settles.quiet hquiet).sound hb.sound) hb
  | @wake w i hi =>
    have hsound := (Settles.wake i hi).sound hb.sound
    rcases onSettingsIsLoadedChanged_cases w with hquiet | ⟨current, hwoken⟩
    · exact hquiet.balanced hsound hb
    · obtain ⟨settings, username, accounts, state, notices, heq, hstate⟩ := hwoken.change
      rw [heq] at hsound ⊢
      refine hb.stay notices rfl ?_ hsound rfl rfl ?_ ?_
      · rcases hstate with ⟨_, _, rfl⟩ | ⟨_, _, saved, rfl, hsaved⟩
        · simp
        · intro effect heffect
          rcases List.mem_cons.mp heffect with rfl | hlate
          · rfl
          · exact Effect.isIdle_of_isNotice (hsaved effect hlate)
      · rcases hstate with ⟨hold, rfl, _⟩ | ⟨hold, rfl, _⟩
        · simp only [hold]
        · simp only [hold]
          decide
      · rcases hstate with ⟨hold, rfl, _⟩ | ⟨hold, rfl, _⟩
        · simp only [hold]
        · simp only [hold]
          decide
  | trans _ _ ih ih' => exact ih' (ih hb)

/-- A call that is not counted, followed by a change of the state that does not
change what has to be undone. -/
theorem Balanced.call (hb : Balanced worker) {effect : Effect} {state : GdmSessionWorkerState}
    (heffect : effect.isIdle = true) (hnotify : (Effect.notifyState state).isIdle = true)
    (hne : worker.state ≠ state)
    (hsound : Sound ((worker.emit effect).setState state))
    (haccredited : .accredited ≤ state ↔ .accredited ≤ worker.state)
    (hopened : .sessionOpened ≤ state ↔ .sessionOpened ≤ worker.state) :
    Balanced ((worker.emit effect).setState state) := by
  have hne' : (worker.emit effect).state ≠ state := hne
  rw [setState_of_ne hne'] at hsound ⊢
  refine hb.stay [effect, .notifyState state] (by simp [emit]) ?_ hsound rfl rfl haccredited hopened
  simp [heffect, hnotify]

/-- The current handle is accredited. -/
theorem Balanced.accredit (hb : Balanced worker) (new : List Effect) {handle : Nat}
    (hlog : worker'.log = worker.log ++ new ++ [.notifyState .accredited])
    (hnew : ∀ effect ∈ new, effect.isIdle = true) (hsound : Sound worker')
    (hhandle : worker.pamHandle = some handle) (hhandle' : worker'.pamHandle = some handle)
    (hnext : worker'.nextHandle = worker.nextHandle) (hstate : worker.state = .authorized)
    (hstate' : worker'.state = .accredited) : Balanced worker' := by
  refine hb.extend (new ++ [.notifyState .accredited]) (by simpa using hlog) hsound ?_
    (.inr ⟨?_, .inl (by rw [hhandle, hhandle'])⟩) ?_
  · intro other hother
    rw [hnext]
    exact hb.fresh other (by rw [hhandle, ← hhandle', hother])
  · intro other status hmem
    rcases List.mem_append.mp hmem with hold | hlast
    · exact not_pamEnd_of_isIdle hnew other status hold
    · simp at hlast
  · intro other life hlife
    refine ⟨life.accredit, ?_, ?_⟩
    · rw [Monitor.readFrom_append, Monitor.readFrom_of_ignored _
        fun effect heffect => HandleLife.step_of_isIdle (hnew effect heffect)]
      rfl
    · by_cases hother : other = handle
      · subst hother
        rw [lifeIs_current hhandle, hstate] at hlife
        rw [lifeIs_current hhandle', hstate', hlife]
        decide
      · rw [lifeIs_other hhandle hother] at hlife
        rw [lifeIs_other hhandle' hother, hnext]
        split at hlife
        · obtain ⟨a, b, rfl⟩ := hlife
          rename_i hlt
          rw [if_pos hlt]
          exact ⟨a, b, rfl⟩
        · rename_i hlt
          rw [if_neg hlt, hlife]
          rfl

theorem lifeIs_ended {handle : Nat} (hhandle : worker.pamHandle = none)
    (hlt : handle < worker.nextHandle) (a b : Bool) :
    worker.LifeIs handle (.ended a b) := by
  rw [lifeIs_none hhandle, if_pos hlt]
  exact ⟨a, b, rfl⟩

/-- Entries that do not matter to a handle other than `handle`. -/
def OfHandle (handle : Nat) (effect : Effect) : Prop :=
  effect.isIdle = true ∨ ∃ call code, effect = .pam call (some handle) code

theorem readFrom_of_ofHandle {handle other : Nat} {life : HandleLife} {new : List Effect}
    (hother : other ≠ handle) (hnew : ∀ effect ∈ new, OfHandle handle effect) :
    (HandleLife.monitor other).readFrom life new = some life := by
  refine Monitor.readFrom_of_ignored _ ?_
  intro effect heffect
  rcases hnew effect heffect with hidle | ⟨call, code, rfl⟩
  · exact HandleLife.step_of_isIdle hidle
  · simp [HandleLife.monitor, Ne.symm hother]

/-- The current handle is ended, and there is none any more. -/
theorem Balanced.finish (hb : Balanced worker) (new : List Effect) {handle : Nat}
    (hlog : worker'.log = worker.log ++ new) (hsound : Sound worker')
    (hnew : ∀ effect ∈ new, OfHandle handle effect)
    (hhandle : worker.pamHandle = some handle) (hhandle' : worker'.pamHandle = none)
    (hnext : worker'.nextHandle = worker.nextHandle)
    (hended : ∀ life, worker.LifeIs handle life →
      ∃ a b, (HandleLife.monitor handle).readFrom life new = some (.ended a b)) :
    Balanced worker' := by
  refine hb.extend new hlog hsound (by simp [hhandle']) (.inl hhandle') ?_
  intro other life hlife
  by_cases hother : other = handle
  · subst hother
    obtain ⟨a, b, hread⟩ := hended life hlife
    refine ⟨_, hread, ?_⟩
    rw [lifeIs_none hhandle', hnext, if_pos (hb.fresh other hhandle)]
    exact ⟨a, b, rfl⟩
  · refine ⟨life, readFrom_of_ofHandle hother hnew, ?_⟩
    rw [lifeIs_other hhandle hother] at hlife
    rw [lifeIs_none hhandle', hnext]
    exact hlife

/-- A new handle takes the place of no handle. -/
theorem Balanced.begin (hb : Balanced worker) (new : List Effect)
    (hlog : worker'.log = worker.log ++ new) (hsound : Sound worker')
    (hnew : ∀ effect ∈ new, OfHandle worker.nextHandle effect)
    (hhandle : worker.pamHandle = none)
    (hhandle' : worker'.pamHandle = none ∨ worker'.pamHandle = some worker.nextHandle)
    (hnext : worker'.nextHandle = worker.nextHandle + 1)
    (hclean : StaysClean worker worker' new)
    (hbegun : ∃ life, (HandleLife.monitor worker.nextHandle).readFrom .unborn new = some life ∧
      worker'.LifeIs worker.nextHandle life) : Balanced worker' := by
  refine hb.extend new hlog hsound ?_ hclean ?_
  · intro handle hcurrent
    rcases hhandle' with h | h <;> rw [h] at hcurrent <;> cases hcurrent
    rw [hnext]
    exact Nat.lt_succ_self _
  · intro other life hlife
    rw [lifeIs_none hhandle] at hlife
    by_cases hother : other = worker.nextHandle
    · subst hother
      rw [if_neg (Nat.lt_irrefl _)] at hlife
      rw [hlife]
      exact hbegun
    · refine ⟨life, readFrom_of_ofHandle hother hnew, ?_⟩
      have hcurrent : worker'.pamHandle ≠ some other := by
        rcases hhandle' with h | h <;> rw [h] <;> simp [Ne.symm hother]
      have hlt : other < worker'.nextHandle ↔ other < worker.nextHandle := by
        rw [hnext]
        omega
      unfold LifeIs
      rw [if_neg hcurrent]
      simpa only [hlt] using hlife

theorem endPam_log {handle : Nat} {status : PamCode} (hstate : worker.state ≠ .none) :
    (worker.endPam handle status).log =
      worker.log ++ [.pam .pamEnd (some handle) status, .notifyState .none] := by
  have hne : { worker.emit (.pam .pamEnd (some handle) status) with pamHandle := none }.state ≠
      .none := hstate
  rw [endPam, setState_of_ne hne]
  simp [emit]

@[simp] theorem endPam_nextHandle (handle : Nat) (status : PamCode) :
    (worker.endPam handle status).nextHandle = worker.nextHandle := by
  unfold endPam setState
  split <;> rfl

@[simp] theorem endPam_pamHandle (handle : Nat) (status : PamCode) :
    (worker.endPam handle status).pamHandle = none := by
  simp [endPam]

theorem ofHandle_pam (handle : Nat) (call : PamCall) (code : PamCode) :
    OfHandle handle (.pam call (some handle) code) :=
  .inr ⟨call, code, rfl⟩

/-- The current handle gets on with its life. -/
theorem Balanced.proceed (hb : Balanced worker) (new : List Effect) {handle : Nat}
    (hlog : worker'.log = worker.log ++ new) (hsound : Sound worker')
    (hnew : ∀ effect ∈ new, OfHandle handle effect)
    (hhandle : worker.pamHandle = some handle) (hhandle' : worker'.pamHandle = some handle)
    (hnext : worker'.nextHandle = worker.nextHandle)
    (hend : ∀ handle status, .pam .pamEnd (some handle) status ∉ new)
    (hlife : (HandleLife.monitor handle).readFrom (currentLife worker.state) new =
      some (currentLife worker'.state)) : Balanced worker' := by
  refine hb.extend new hlog hsound ?_ (.inr ⟨hend, .inl (by rw [hhandle, hhandle'])⟩) ?_
  · intro other hother
    rw [hnext]
    exact hb.fresh other (by rw [hhandle, ← hhandle', hother])
  · intro other life hother
    by_cases hself : other = handle
    · subst hself
      rw [lifeIs_current hhandle] at hother
      rw [hother]
      exact ⟨_, hlife, (lifeIs_current hhandle').mpr rfl⟩
    · refine ⟨life, readFrom_of_ofHandle hself hnew, ?_⟩
      rw [lifeIs_other hhandle hself] at hother
      rw [lifeIs_other hhandle' hself, hnext]
      exact hother

theorem Balanced.setState (hb : Balanced worker) {state : GdmSessionWorkerState}
    (hnotify : (Effect.notifyState state).isIdle = true) (hne : worker.state ≠ state)
    (hsound : Sound (worker.setState state))
    (haccredited : .accredited ≤ state ↔ .accredited ≤ worker.state)
    (hopened : .sessionOpened ≤ state ↔ .sessionOpened ≤ worker.state) :
    Balanced (worker.setState state) := by
  rw [setState_of_ne hne] at hsound ⊢
  exact hb.stay [.notifyState state] rfl (by simpa using hnotify) hsound rfl rfl haccredited hopened

theorem AccountManaged.balanced {handle : Nat} (h : AccountManaged handle worker worker')
    (hhandle : worker.pamHandle = some handle) (hb : Balanced worker) : Balanced worker' := by
  have hcall : ∀ (w : GdmSessionWorker) (call : PamCall) (code : PamCode),
      w.pamHandle = some handle → IsNeutral call code → Balanced w →
      Balanced (w.emit (.pam call (some handle) code)) := by
    intro w call code hcurrent hneutral hw
    refine hw.stay [_] rfl ?_ ((PamStep.calls hcurrent hneutral).sound hw.sound) rfl rfl
      Iff.rfl Iff.rfl
    simpa using isIdle_of_isNeutral hneutral
  cases h with
  | valid flag => exact hcall _ _ _ hhandle trivial hb
  | tokenChanged flag hquiet =>
    have hmanaged := hcall _ (.acctMgmt flag) .newAuthtokReqd hhandle trivial hb
    have hsettled := (Settles.quiet hquiet).balanced hmanaged
    exact hcall _ _ _ (hquiet.pamHandle.trans hhandle) trivial hsettled

/-- Ending the handle after `new`, which brings its life to a point where it may
be ended. -/
theorem Balanced.endPam (hb : Balanced worker) (new : List Effect) {handle : Nat}
    (status : PamCode) (life : HandleLife) {worker₁ : GdmSessionWorker} {a b : Bool}
    (hlog : worker₁.log = worker.log ++ new) (hsound : Sound (worker₁.endPam handle status))
    (hnew : ∀ effect ∈ new, OfHandle handle effect)
    (hhandle : worker.pamHandle = some handle) (hstate : worker₁.state ≠ .none)
    (hnext : worker₁.nextHandle = worker.nextHandle)
    (hread : (HandleLife.monitor handle).readFrom (currentLife worker.state) new = some life)
    (hend : life.call .pamEnd status = some (.ended a b)) :
    Balanced (worker₁.endPam handle status) := by
  refine hb.finish (new ++ [.pam .pamEnd (some handle) status, .notifyState .none]) ?_ hsound ?_
    hhandle (by simp) (by simpa using hnext) ?_
  · rw [endPam_log hstate, hlog, List.append_assoc]
  · intro effect heffect
    simp only [List.mem_append, List.mem_cons, List.not_mem_nil, or_false] at heffect
    rcases heffect with hold | rfl | rfl
    · exact hnew effect hold
    · exact ofHandle_pam _ _ _
    · exact .inl rfl
  · intro life' hlife'
    rw [lifeIs_current hhandle] at hlife'
    refine ⟨a, b, ?_⟩
    rw [hlife', Monitor.readFrom_append, hread]
    simp [Monitor.readFrom_cons, HandleLife.monitor, hend]

theorem currentLife_of_not_accredited {state : GdmSessionWorkerState}
    (h : ¬ .accredited ≤ state) : currentLife state = .alive := by
  cases state with
  | none
  | setupComplete
  | authenticated
  | authorized => rfl
  | _ => exact absurd (by decide) h

theorem currentLife_of_accredited {state : GdmSessionWorkerState}
    (h : .accredited ≤ state) (hopened : ¬ .sessionOpened ≤ state) :
    currentLife state = .accredited := by
  unfold currentLife
  rw [if_neg hopened, if_pos h]

theorem currentLife_of_opened {state : GdmSessionWorkerState}
    (h : .sessionOpened ≤ state) : currentLife state = .opened := by
  unfold currentLife
  rw [if_pos h]

theorem PamStep.balanced (h : PamStep worker worker') (hb : Balanced worker) :
    Balanced worker' := by
  have hsound := h.sound hb.sound
  cases h with
  | settles hsettles => exact hsettles.balanced hb
  | sideline _ _ => exact hb.stay [] (by simp) (by simp) hsound rfl rfl Iff.rfl Iff.rfl
  | startFails _ => exact hb.stay [_] rfl (by simp [Effect.isIdle]) hsound rfl rfl Iff.rfl Iff.rfl
  | @calls handle call code hhandle hneutral =>
    refine hb.stay [_] rfl ?_ hsound rfl rfl Iff.rfl Iff.rfl
    simpa using isIdle_of_isNeutral hneutral
  | starts hstate hhandle =>
    have hne : worker.startPam.state ≠ .setupComplete := by simp [startPam, emit, hstate]
    refine hb.begin [.pam .start (some worker.nextHandle) .success, .notifyState .setupComplete]
      ?_ hsound ?_ hhandle (.inr ?_) ?_ (.inr ⟨by simp, .inr ⟨worker.nextHandle, by simp⟩⟩)
      ⟨.alive, ?_, ?_⟩
    · rw [setState_of_ne hne]
      simp [startPam, emit]
    · simp [OfHandle, Effect.isIdle]
    · simp [startPam, emit]
    · rw [setState_of_ne hne]
      simp [startPam, emit]
    · simp [Monitor.readFrom_cons, HandleLife.monitor, HandleLife.call]
    · rw [lifeIs_current (by simp [startPam, emit])]
      simp
      rfl
  | startEnds code hstate hhandle =>
    have hself : { worker.startPam.emit (.pam .pamEnd (some worker.nextHandle) code) with
        pamHandle := none }.state = .none := hstate
    rw [GdmSessionWorker.endPam, setState_self hself] at hsound ⊢
    refine hb.begin [.pam .start (some worker.nextHandle) .success,
      .pam .pamEnd (some worker.nextHandle) code] (by simp [startPam, emit]) hsound ?_ hhandle
      (.inl rfl) rfl (.inl rfl) ⟨.ended false false, ?_, ?_⟩
    · simp [OfHandle]
    · simp [Monitor.readFrom_cons, HandleLife.monitor, HandleLife.call]
    · exact lifeIs_ended rfl (Nat.lt_succ_self _) false false
  | authenticated flag hstate hhandle =>
    exact hb.call rfl rfl (by simp [hstate]) hsound (by simp [hstate]; decide)
      (by simp [hstate]; decide)
  | @authorized w' handle hstate hhandle hmanaged =>
    have hstate' : w'.state = .authenticated := by
      cases hmanaged with
      | valid flag => exact hstate
      | tokenChanged flag hquiet => exact hquiet.state.trans hstate
    exact (hmanaged.balanced hhandle hb).setState rfl (by simp [hstate']) hsound
      (by rw [hstate']; decide) (by rw [hstate']; decide)
  | reauthAuthorized hflag hstate =>
    exact hb.setState rfl (by simp [hstate]) hsound (by rw [hstate]; decide)
      (by rw [hstate]; decide)
  | @accredited handle flags hstate hhandle hflags =>
    have hne : (worker.emit (.pam (.setcred flags) (some handle) .success)).state ≠
        .accredited := by simp [emit, hstate]
    refine hb.accredit [.pam (.setcred flags) (some handle) .success] ?_ ?_ hsound
      hhandle (by simpa [emit] using hhandle) ?_ hstate (by simp)
    · rw [setState_of_ne hne]
      rfl
    · intro effect heffect
      rw [List.mem_singleton] at heffect
      rw [heffect]
      exact isIdle_of_isNeutral hflags
    · rw [setState_of_ne hne]
      rfl
  | reauthAccredited hflag hstate =>
    obtain ⟨handle, hat⟩ := hb.sound.at_state hstate (by decide)
    have hne : worker.state ≠ .accredited := by simp [hstate]
    refine hb.accredit [] ?_ (by simp) hsound hat.handle_eq
      (by simpa using hat.handle_eq) ?_ hstate (by simp)
    · simp [setState_of_ne hne]
    · simp [setState_of_ne hne]
  | @opened handle silent hstate hhandle _ =>
    have hne : (worker.emit (.pam (.openSession silent) (some handle) .success)).state ≠
        .sessionOpened := by simp [emit, hstate]
    refine hb.proceed [.pam (.openSession silent) (some handle) .success,
      .notifyState .sessionOpened] ?_ hsound ?_ hhandle (by simpa [emit] using hhandle) ?_
      (by simp) ?_
    · rw [setState_of_ne hne]
      simp [emit]
    · simp [OfHandle, Effect.isIdle]
    · rw [setState_of_ne hne]
      rfl
    · have hbefore : currentLife .accountDetailsSaved = .accredited := rfl
      have hafter : currentLife .sessionOpened = .opened := rfl
      rw [hstate, hbefore, setState_state, hafter]
      simp [Monitor.readFrom_cons, HandleLife.monitor, HandleLife.call]
  | @ended handle status hhandle hstate haccredited =>
    refine hb.endPam [] status .alive (by simp) hsound (by simp) hhandle hstate rfl ?_
      (a := false) (b := false) rfl
    rw [currentLife_of_not_accredited haccredited]
    rfl
  | @endedAccredited handle code status hhandle haccredited hopened =>
    refine hb.endPam [.pam (.setcred .deleteCred) (some handle) code] status
      (.deleted false) rfl hsound ?_ hhandle ?_ rfl (a := true) (b := false) ?_ rfl
    · simp [OfHandle]
    · intro hnone
      have hnone' : worker.state = .none := hnone
      rw [hnone'] at haccredited
      exact absurd haccredited (by decide)
    · rw [currentLife_of_accredited haccredited hopened]
      simp [Monitor.readFrom_cons, HandleLife.monitor, HandleLife.call]
  | @endedOpened w' handle code code' status hhandle hopened hquiet =>
    obtain ⟨notices, hlog, hnotices⟩ := hquiet.log
    refine hb.endPam (.pam .closeSession (some handle) code ::
      (notices ++ [.pam (.setcred .deleteCred) (some handle) code'])) status
      (.deleted true) ?_ hsound ?_ hhandle ?_ ?_ (a := true) (b := true) ?_ rfl
    · simp [emit, hlog]
    · intro effect heffect
      simp only [List.mem_cons, List.mem_append, List.not_mem_nil, or_false] at heffect
      rcases heffect with rfl | hnotice | rfl
      · exact ofHandle_pam _ _ _
      · exact .inl (Effect.isIdle_of_isNotice (hnotices effect hnotice))
      · exact ofHandle_pam _ _ _
    · intro hnone
      have hnone' : worker.state = .none := hquiet.state.symm.trans hnone
      rw [hnone'] at hopened
      exact absurd hopened (by decide)
    · obtain ⟨⟨_, _, _, _, rfl, _⟩, _⟩ := hquiet
      rfl
    · rw [currentLife_of_opened hopened, Monitor.readFrom_cons]
      have hclose : (HandleLife.monitor handle).step .opened
          (.pam .closeSession (some handle) code) = some .closed := by
        simp [HandleLife.monitor, HandleLife.call]
      have hidle : (HandleLife.monitor handle).readFrom .closed notices = some .closed :=
        Monitor.readFrom_of_ignored _ fun effect heffect =>
          HandleLife.step_of_isIdle (Effect.isIdle_of_isNotice (hnotices effect heffect))
      rw [hclose, Option.bind_some, Monitor.readFrom_append, hidle]
      simp [Monitor.readFrom_cons, HandleLife.monitor, HandleLife.call]

theorem Transition.balanced (h : Transition worker worker') (hb : Balanced worker) :
    Balanced worker' := by
  have hsound := h.sound hb.sound
  cases h with
  | pam hstep => exact hstep.balanced hb
  | saves hstate =>
    have hne : worker.state ≠ .accountDetailsSaved := by simp [hstate]
    rw [setState_of_ne hne] at hsound ⊢
    refine hb.stay [.notifyState .accountDetailsSaved] rfl (by simp [Effect.isIdle]) hsound rfl rfl
      ?_ ?_
    · simp only [queueStateChange, hstate]
      decide
    · simp only [queueStateChange, hstate]
      decide
  | connects i =>
    exact hb.stay [] (by simp [connectIsLoaded, modifySettings]) (by simp) hsound rfl rfl
      Iff.rfl Iff.rfl
  | @forks handle pid arguments hat _ =>
    have hstate := hat.state_eq
    have hne : { worker.emit (.forked pid arguments) with childPid := pid }.state ≠
        .sessionStarted := by simp [emit, hstate]
    rw [GdmSessionWorker.forks, setState_of_ne hne] at hsound ⊢
    refine hb.stay [.forked pid arguments, .notifyState .sessionStarted] (by simp [emit])
      (by simp [Effect.isIdle]) hsound rfl rfl ?_ ?_
    · simp only [hstate]
      decide
    · simp only [hstate]
      decide
  | aside haside =>
    obtain ⟨new, hlog, hnew⟩ := haside.log
    refine hb.stay new hlog (fun effect heffect => Effect.isIdle_of_isAside (hnew effect heffect))
      hsound haside.pamHandle haside.nextHandle ?_ ?_
    · rw [haside.state]
    · rw [haside.state]

theorem balanced_step (hb : Balanced worker) (event : WorkerEvent) :
    Balanced (worker.step event) :=
  (step_transitions hb.sound event).preserves (fun _ _ h => h.balanced) hb

theorem balanced_run (isReauthSession : Bool) (accounts : String → Option Account)
    (events : List WorkerEvent) :
    Balanced (machine.run (new isReauthSession accounts) events) :=
  machine.run_invariant Balanced (fun _ event hb => balanced_step hb event) events
    (balanced_new isReauthSession accounts)

/-! ## What the balance says about the history -/

/-- The life of a handle when an entry is made, and after it. -/
theorem Balanced.life_at (hb : Balanced worker) (handle : Nat) {before after : List Effect}
    {effect : Effect} (hlog : worker.log = before ++ effect :: after) :
    ∃ life life', (HandleLife.monitor handle).read before = some life ∧
      (HandleLife.monitor handle).step life effect = some life' := by
  obtain ⟨_, hread, _⟩ := hb.lives handle
  rw [hlog] at hread
  obtain ⟨life, hbefore, hrest⟩ := Monitor.read_split _ hread
  rw [Monitor.readFrom_cons, Option.bind_eq_some_iff] at hrest
  obtain ⟨life', hstep, _⟩ := hrest
  exact ⟨life, life', hbefore, hstep⟩

/-- Between the opening of the session and the end of the handle the session is
closed once. -/
theorem Balanced.closes_once (hb : Balanced worker) {handle : Nat}
    {before between after : List Effect} {silent : Bool} {status : PamCode}
    (hlog : worker.log = before ++ .pam (.openSession silent) (some handle) .success ::
      (between ++ .pam .pamEnd (some handle) status :: after)) :
    between.countP (Effect.onHandle PamCall.closes handle) = 1 := by
  obtain ⟨life, life', hread, hstep⟩ := hb.life_at handle hlog
  have hlog' : worker.log = (before ++ .pam (.openSession silent) (some handle) .success ::
      between) ++ .pam .pamEnd (some handle) status :: after := by simp [hlog]
  obtain ⟨last, last', hreadLast, hend⟩ := hb.life_at handle hlog'
  simp only [HandleLife.monitor, if_true] at hstep hend
  have haccredited := HandleLife.call_openSession hstep
  have hopens := HandleLife.counts_opens.countP_eq hreadLast
  have hcloses := HandleLife.counts_closes.countP_eq hreadLast
  have hbefore := HandleLife.counts_closes.countP_eq hread
  rw [haccredited] at hbefore
  simp only [List.countP_append, List.countP_cons, HandleLife.closes] at hopens hcloses hbefore
  simp only [Effect.onHandle, PamCall.closes, PamCall.opens, decide_true, Bool.and_true,
    Bool.and_false, if_true, Bool.false_eq_true, if_false] at hopens hcloses
  rcases HandleLife.call_pamEnd hend with rfl | ⟨hadSession, rfl⟩
  · simp only [HandleLife.opens] at hopens
    omega
  · cases hadSession
    · simp only [HandleLife.opens, Bool.toNat_false] at hopens
      omega
    · simp only [Bool.toNat_true] at hcloses
      omega

/-- A handle that has been started and has not been ended by an entry: its
history since the start. -/
theorem Balanced.readFrom_start (hb : Balanced worker) {handle : Nat}
    {before between after : List Effect} {effect : Effect}
    (hlog : worker.log = before ++ .pam .start (some handle) .success ::
      (between ++ effect :: after)) :
    ∃ last last', (HandleLife.monitor handle).read
        (before ++ .pam .start (some handle) .success :: between) = some last ∧
      (HandleLife.monitor handle).readFrom .alive between = some last ∧
      (HandleLife.monitor handle).read before = some .unborn ∧
      (HandleLife.monitor handle).step last effect = some last' := by
  obtain ⟨life, life', hread, hstep⟩ := hb.life_at handle hlog
  have hlog' : worker.log = (before ++ .pam .start (some handle) .success :: between) ++
      effect :: after := by simp [hlog]
  obtain ⟨last, last', hreadLast, hend⟩ := hb.life_at handle hlog'
  obtain ⟨rfl, rfl⟩ := HandleLife.unborn_of_starts hstep
  refine ⟨last, last', hreadLast, ?_, hread, hend⟩
  rw [Monitor.read_append, hread, Option.bind_some, Monitor.readFrom_cons, hstep,
    Option.bind_some] at hreadLast
  exact hreadLast

/-- Between the start and the end of a handle its credentials are deleted once if
ACCREDITED was reached, and not at all otherwise. -/
theorem Balanced.deletes_between (hb : Balanced worker) {handle : Nat}
    {before between after : List Effect} {status : PamCode}
    (hlog : worker.log = before ++ .pam .start (some handle) .success ::
      (between ++ .pam .pamEnd (some handle) status :: after)) :
    between.countP (Effect.onHandle PamCall.deletes handle) =
      if .notifyState .accredited ∈ between then 1 else 0 := by
  obtain ⟨last, last', hreadLast, hreadFrom, hreadBefore, hend⟩ := hb.readFrom_start hlog
  simp only [HandleLife.monitor, if_true] at hend
  have hdeletes := HandleLife.counts_deletes.countP_eq hreadLast
  have hbefore := HandleLife.counts_deletes.countP_eq hreadBefore
  have hstart : Effect.onHandle PamCall.deletes handle (.pam .start (some handle) .success) =
      false := by simp [Effect.onHandle, PamCall.deletes]
  rw [List.countP_append, List.countP_cons, hbefore, hstart] at hdeletes
  simp only [HandleLife.deletes, Bool.false_eq_true, if_false] at hdeletes
  rcases HandleLife.call_pamEnd hend with rfl | ⟨hadSession, rfl⟩
  · have hiff := (HandleLife.reached_iff hreadFrom (by simp) rfl).2
    have hnot : .notifyState .accredited ∉ between := by
      intro hmem
      simp [HandleLife.reached, hmem] at hiff
    rw [if_neg hnot]
    simpa using hdeletes
  · have hiff := (HandleLife.reached_iff hreadFrom (by simp) rfl).2
    have hmem : .notifyState .accredited ∈ between := by
      simpa [HandleLife.reached] using hiff
    rw [if_pos hmem]
    simpa using hdeletes

theorem eq_start_of_onHandle {effect : Effect} {handle : Nat}
    (h : effect.onHandle PamCall.starts handle = true) :
    effect = .pam .start (some handle) .success := by
  cases effect with
  | pam call handle' code => cases handle' with
    | none => cases h
    | some handle' =>
      obtain ⟨hhandle, hkind⟩ := Bool.and_eq_true_iff.mp h
      obtain rfl := of_decide_eq_true hhandle
      cases call with
      | start => cases code with
        | success => rfl
        | _ => cases hkind
      | _ => cases hkind
  | _ => cases h

/-- Credentials are deleted only of a handle that has been started and not ended,
and after ACCREDITED was reached on it. -/
theorem Balanced.delete_justified (hb : Balanced worker) {handle : Nat}
    {before after : List Effect} {code : PamCode}
    (hlog : worker.log = before ++ .pam (.setcred .deleteCred) (some handle) code :: after) :
    (∀ status, .pam .pamEnd (some handle) status ∉ before) ∧
      ∃ earlier since, before = earlier ++ .pam .start (some handle) .success :: since ∧
        .notifyState .accredited ∈ since := by
  obtain ⟨life, life', hread, hstep⟩ := hb.life_at handle hlog
  simp only [HandleLife.monitor, if_true] at hstep
  have hstarts := HandleLife.counts_starts.countP_eq hread
  have hends := HandleLife.counts_ends.countP_eq hread
  have hlife := HandleLife.call_deleteCred hstep
  have hreached : life.reached = true ∧ life.ends = 0 ∧ life.starts = 1 := by
    rcases hlife with rfl | rfl <;> exact ⟨rfl, rfl, rfl⟩
  refine ⟨?_, ?_⟩
  · intro status hmem
    rw [hreached.2.1, List.countP_eq_zero] at hends
    exact hends _ hmem (by simp [Effect.onHandle, PamCall.ends])
  · rw [hreached.2.2] at hstarts
    have hpos : 0 < before.countP (Effect.onHandle PamCall.starts handle) := by omega
    obtain ⟨effect, hmem, hkind⟩ := List.countP_pos_iff.mp hpos
    obtain rfl := eq_start_of_onHandle hkind
    obtain ⟨earlier, since, rfl⟩ := List.append_of_mem hmem
    have hlog' : worker.log = earlier ++ .pam .start (some handle) .success ::
        (since ++ .pam (.setcred .deleteCred) (some handle) code :: after) := by simp [hlog]
    obtain ⟨last, _, hreadLast, hreadFrom, _, _⟩ := hb.readFrom_start hlog'
    rw [hread] at hreadLast
    cases hreadLast
    refine ⟨earlier, since, rfl, ?_⟩
    have hiff := (HandleLife.reached_iff hreadFrom (by simp) hreached.2.1).2
    rw [hreached.1] at hiff
    simpa [HandleLife.reached] using hiff

/-- Without a current handle every started handle has been ended once. -/
theorem Balanced.ends_once (hb : Balanced worker) (hnone : worker.pamHandle = none)
    {handle : Nat} (hstart : .pam .start (some handle) .success ∈ worker.log) :
    worker.log.countP (Effect.onHandle PamCall.starts handle) = 1 ∧
      worker.log.countP (Effect.onHandle PamCall.ends handle) = 1 := by
  obtain ⟨life, hread, hlife⟩ := hb.lives handle
  rw [lifeIs_none hnone] at hlife
  rw [HandleLife.counts_starts.countP_eq hread, HandleLife.counts_ends.countP_eq hread]
  split at hlife
  · obtain ⟨a, b, rfl⟩ := hlife
    exact ⟨rfl, rfl⟩
  · subst hlife
    have hstarts := HandleLife.counts_starts.countP_eq hread
    rw [HandleLife.starts, List.countP_eq_zero] at hstarts
    exact absurd (by simp [Effect.onHandle, PamCall.starts]) (hstarts _ hstart)

theorem uninitializePam_pamHandle (hs : Sound worker) (status : PamCode) (o : Outcomes) :
    (worker.uninitializePam status o).pamHandle = none := by
  cases hhandle : worker.pamHandle with
  | none => simp [uninitializePam, hhandle]
  | some handle =>
    have hstate : worker.state ≠ .none := mt hs.handle.mp (by simp [hhandle])
    exact (pamSteps_uninitializePam hhandle hstate status o).2.2

/-- Finalization leaves no handle. -/
theorem step_finalize_pamHandle (hs : Sound worker) (hrunning : worker.status = .running)
    (o : Outcomes) : (worker.step (.finalize o)).pamHandle = none := by
  unfold step
  rw [if_neg (not_not.mpr hrunning)]
  unfold finalize
  refine uninitializePam_pamHandle ?_ .success o
  split
  · exact ⟨hs.handle, hs.root, hs.credFlags, hs.reauthOpened, hs.reauthStarted⟩
  · exact ⟨hs.handle, hs.root, hs.credFlags, hs.reauthOpened, hs.reauthStarted⟩

/-- The balance of a history, handle by handle: a session that was opened is
closed once before the handle is ended, and credentials are deleted before that
if and only if ACCREDITED was reached, and then once. -/
structure PamBalance (log : List Effect) : Prop where
  closes : ∀ handle silent status before between after,
    log = before ++ .pam (.openSession silent) (some handle) .success ::
      (between ++ .pam .pamEnd (some handle) status :: after) →
    between.countP (Effect.onHandle PamCall.closes handle) = 1
  deletes : ∀ handle status before between after,
    log = before ++ .pam .start (some handle) .success ::
      (between ++ .pam .pamEnd (some handle) status :: after) →
    between.countP (Effect.onHandle PamCall.deletes handle) =
      if .notifyState .accredited ∈ between then 1 else 0
  deleteOnly : ∀ handle code before after,
    log = before ++ .pam (.setcred .deleteCred) (some handle) code :: after →
    (∀ status, .pam .pamEnd (some handle) status ∉ before) ∧
      ∃ earlier since, before = earlier ++ .pam .start (some handle) .success :: since ∧
        .notifyState .accredited ∈ since

/-- In every run of a worker the PAM calls balance; from each `pam_end` to the
next `pam_start` the state is NONE and there is no handle; and when the worker is
finalized each handle that was started has been ended exactly once. -/
theorem run_pam_balance (isReauthSession : Bool) (accounts : String → Option Account)
    (events : List WorkerEvent) :
    let worker := machine.run (new isReauthSession accounts) events
    PamBalance worker.log ∧
      (∀ before handle status after,
        worker.log = before ++ .pam .pamEnd (some handle) status :: after →
        (∀ next, .pam .start (some next) .success ∉ after) →
        worker.state = .none ∧ worker.pamHandle = none) ∧
      ∀ o, worker.status = .running → ∀ handle,
        .pam .start (some handle) .success ∈ (worker.step (.finalize o)).log →
        (worker.step (.finalize o)).log.countP (Effect.onHandle PamCall.starts handle) = 1 ∧
          (worker.step (.finalize o)).log.countP (Effect.onHandle PamCall.ends handle) = 1 := by
  intro worker
  have hb : Balanced worker := balanced_run isReauthSession accounts events
  refine ⟨⟨?_, ?_, ?_⟩, ?_, ?_⟩
  · intro handle silent status before between after hlog
    exact hb.closes_once hlog
  · intro handle status before between after hlog
    exact hb.deletes_between hlog
  · intro handle code before after hlog
    exact hb.delete_justified hlog
  · intro before handle status after hlog hnone
    have hhandle := hb.clean before handle status after hlog hnone
    exact ⟨hb.sound.handle.mpr hhandle, hhandle⟩
  · intro o hrunning handle hstart
    exact (balanced_step hb (.finalize o)).ends_once
      (step_finalize_pamHandle hb.sound hrunning o) hstart

end GdmSessionWorker

end Gdm
