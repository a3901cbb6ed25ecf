import Gdm.Library.EventMachine
import Mathlib.Data.List.Basic

/-!
# The suspend inhibitor

The factory of remote displays counts them, and while there is one it holds a descriptor
from logind that keeps the system from being suspended.  The descriptor is asked for and
comes with a later reply; until then there is none to give back.
-/

namespace Gdm

structure StoredDisplay where
  id : Nat
  /-- `GDM_IS_REMOTE_DISPLAY` -/
  isRemote : Bool
  deriving DecidableEq, Repr

/-- `struct _GdmRemoteDisplayFactory`; there is no descriptor where the source has -1. -/
structure GdmRemoteDisplayFactory where
  remoteDisplaysCount : Int := 0
  suspendInhibited : Bool := false
  inhibitSuspendFd : Option Nat := none
  deriving DecidableEq, Repr

/-- The end of a call of `Inhibit`: it fails, or there is no descriptor in the reply, or
there is one. -/
inductive InhibitReply
  | failed
  | noFd
  | fd (fd : Nat)
  deriving DecidableEq, Repr

/-- The factory, with the display store, the calls that have not been answered and the
descriptors of the process that have come with an answer. -/
structure RemoteDisplays where
  factory : GdmRemoteDisplayFactory := {}
  store : List StoredDisplay := []
  inFlight : Nat := 0
  openFds : List Nat := []
  deriving DecidableEq, Repr

/-- What happens to the store and at the bus; `proxy` is whether the proxy of logind can be
made should it be needed. -/
inductive RemoteDisplayEvent
  | displayAdded (display : StoredDisplay) (proxy : Bool)
  | displayRemoved (id : Nat)
  | inhibitDone (reply : InhibitReply)
  deriving DecidableEq, Repr

namespace RemoteDisplays

variable (self : RemoteDisplays)

/-- `on_inhibit_suspend_done` -/
def onInhibitSuspendDone : InhibitReply → RemoteDisplays
  | .failed => { self with factory := { self.factory with suspendInhibited := false } }
  | .noFd =>
    { self with
      factory := { self.factory with inhibitSuspendFd := none, suspendInhibited := false } }
  | .fd fd =>
    { self with
      factory := { self.factory with inhibitSuspendFd := some fd }
      openFds := fd :: self.openFds }

/-- `inhibit_suspend` -/
def inhibitSuspend (proxy : Bool) : RemoteDisplays :=
  if self.factory.suspendInhibited then self
  else if proxy then
    { self with
      factory := { self.factory with suspendInhibited := true }
      inFlight := self.inFlight + 1 }
  else self

/-- `on_display_added` -/
def onDisplayAdded (display : StoredDisplay) (proxy : Bool) : RemoteDisplays :=
  if display.isRemote then
    let counted :=
      { self with
        factory :=
          { self.factory with remoteDisplaysCount := self.factory.remoteDisplaysCount + 1 } }
    if counted.factory.remoteDisplaysCount > 0 then counted.inhibitSuspend proxy else counted
  else self

/-- `uninhibit_suspend` -/
def uninhibitSuspend : RemoteDisplays :=
  match self.factory.inhibitSuspendFd with
  | none => self
  | some fd =>
    { self with
      factory := { self.factory with inhibitSuspendFd := none, suspendInhibited := false }
      openFds := self.openFds.erase fd }

/-- `on_display_removed` -/
def onDisplayRemoved (display : StoredDisplay) : RemoteDisplays :=
  if display.isRemote then
    let counted :=
      { self with
        factory :=
          { self.factory with remoteDisplaysCount := self.factory.remoteDisplaysCount - 1 } }
    if counted.factory.remoteDisplaysCount = 0 then counted.uninhibitSuspend else counted
  else self

/-- A display that is not in the store is added, one that is there is removed, and a call
that has been made is answered. -/
def step : RemoteDisplayEvent → RemoteDisplays
  | .displayAdded display proxy =>
    if self.store.any fun stored => stored.id = display.id then self
    else { self with store := display :: self.store }.onDisplayAdded display proxy
  | .displayRemoved id =>
    match self.store.find? fun stored => stored.id = id with
    | none => self
    | some display =>
      { self with store := self.store.erase display }.onDisplayRemoved display
  | .inhibitDone reply =>
    if self.inFlight = 0 then self
    else { self with inFlight := self.inFlight - 1 }.onInhibitSuspendDone reply

/-- The factory from its start on. -/
def machine : EventMachine RemoteDisplays RemoteDisplayEvent where
  Start self := self = {}
  step := step

/-! ## What holds of every run -/

/-- The number of remote displays in the store. -/
def remoteDisplays : Nat :=
  self.store.countP (·.isRemote)

variable {self}

/-- The count is that of the store; a descriptor that has come is the one that is held; and
there is one descriptor or one call just when suspend is said to be inhibited. -/
structure Accounted (state : RemoteDisplays) : Prop where
  count : state.factory.remoteDisplaysCount = state.remoteDisplays
  held : state.openFds = state.factory.inhibitSuspendFd.toList
  one : state.inFlight + state.openFds.length = state.factory.suspendInhibited.toNat

theorem inhibitSuspend_accounted {proxy : Bool} (h : Accounted self) :
    Accounted (self.inhibitSuspend proxy) := by
  obtain ⟨hcount, hheld, hone⟩ := h
  unfold inhibitSuspend
  split
  · exact ⟨hcount, hheld, hone⟩
  · rename_i hfree
    split
    · refine ⟨hcount, hheld, ?_⟩
      rw [Bool.not_eq_true] at hfree
      rw [hfree, Bool.toNat_false] at hone
      simp only [Bool.toNat_true]
      omega
    · exact ⟨hcount, hheld, hone⟩

theorem uninhibitSuspend_accounted (h : Accounted self) : Accounted self.uninhibitSuspend := by
  obtain ⟨hcount, hheld, hone⟩ := h
  unfold uninhibitSuspend
  split
  · exact ⟨hcount, hheld, hone⟩
  · rename_i fd hfd
    rw [hfd] at hheld
    have hinhibited := self.factory.suspendInhibited.toNat_le
    rw [hheld] at hone
    refine ⟨hcount, by simp [hheld], ?_⟩
    simp only [Option.toList_some, List.length_singleton] at hone
    simp only [hheld, Option.toList_some, List.erase_cons_head, List.length_nil,
      Bool.toNat_false]
    omega

theorem onInhibitSuspendDone_accounted {reply : InhibitReply} (h : Accounted self)
    (hcall : self.inFlight ≠ 0) :
    Accounted ({ self with inFlight := self.inFlight - 1 }.onInhibitSuspendDone reply) := by
  obtain ⟨hcount, hheld, hone⟩ := h
  -- the one there is is the call, so nothing is held
  have hinhibited := self.factory.suspendInhibited.toNat_le
  have hnone : self.openFds = [] := List.length_eq_zero_iff.mp (by omega)
  have hfd : self.factory.inhibitSuspendFd = none := by
    cases hfd : self.factory.inhibitSuspendFd with
    | none => rfl
    | some fd =>
      rw [hnone, hfd] at hheld
      cases hheld
  rw [hnone, List.length_nil] at hone
  cases reply with
  | failed =>
    refine ⟨hcount, hheld, ?_⟩
    simp only [onInhibitSuspendDone, hnone, List.length_nil, Bool.toNat_false]
    omega
  | noFd =>
    refine ⟨hcount, by simp [onInhibitSuspendDone, hnone], ?_⟩
    simp only [onInhibitSuspendDone, hnone, List.length_nil, Bool.toNat_false]
    omega
  | fd fd =>
    refine ⟨hcount, by simp [onInhibitSuspendDone, hnone], ?_⟩
    simp only [onInhibitSuspendDone, hnone, List.length_singleton]
    omega

theorem remoteDisplays_cons (self : RemoteDisplays) (display : StoredDisplay) :
    remoteDisplays { self with store := display :: self.store } =
      self.remoteDisplays + display.isRemote.toNat := by
  unfold remoteDisplays
  rw [List.countP_cons]
  cases display.isRemote with
  | true => rfl
  | false => rfl

theorem remoteDisplays_erase {display : StoredDisplay} (h : display ∈ self.store) :
    remoteDisplays { self with store := self.store.erase display } + display.isRemote.toNat =
      self.remoteDisplays := by
  have hcons := remoteDisplays_cons { self with store := self.store.erase display } display
  rw [← hcons]
  exact ((List.perm_cons_erase h).countP_eq _).symm

theorem onDisplayAdded_accounted {display : StoredDisplay} {proxy : Bool} (h : Accounted self) :
    Accounted ({ self with store := display :: self.store }.onDisplayAdded display proxy) := by
  obtain ⟨hcount, hheld, hone⟩ := h
  have hcons := remoteDisplays_cons self display
  unfold onDisplayAdded
  split
  · rename_i hremote
    rw [hremote, Bool.toNat_true] at hcons
    have hcounted : Accounted
        { self with
          store := display :: self.store
          factory :=
            { self.factory with
              remoteDisplaysCount := self.factory.remoteDisplaysCount + 1 } } := by
      refine ⟨?_, hheld, hone⟩
      show self.factory.remoteDisplaysCount + 1 =
        (remoteDisplays { self with store := display :: self.store } : Int)
      rw [hcons, hcount, Int.natCast_add, Int.natCast_one]
    dsimp only
    split
    · exact inhibitSuspend_accounted hcounted
    · exact hcounted
  · rename_i hlocal
    rw [Bool.not_eq_true] at hlocal
    rw [hlocal, Bool.toNat_false, Nat.add_zero] at hcons
    refine ⟨?_, hheld, hone⟩
    rw [hcons]
    exact hcount

theorem onDisplayRemoved_accounted {display : StoredDisplay} (h : Accounted self)
    (hmem : display ∈ self.store) :
    Accounted ({ self with store := self.store.erase display }.onDisplayRemoved display) := by
  obtain ⟨hcount, hheld, hone⟩ := h
  have herase := remoteDisplays_erase hmem
  unfold onDisplayRemoved
  split
  · rename_i hremote
    rw [hremote, Bool.toNat_true] at herase
    have hcounted : Accounted
        { self with
          store := self.store.erase display
          factory :=
            { self.factory with
              remoteDisplaysCount := self.factory.remoteDisplaysCount - 1 } } := by
      refine ⟨?_, hheld, hone⟩
      show self.factory.remoteDisplaysCount - 1 =
        (remoteDisplays { self with store := self.store.erase display } : Int)
      rw [hcount, ← herase, Int.natCast_add, Int.natCast_one, Int.add_sub_cancel]
    dsimp only
    split
    · exact uninhibitSuspend_accounted hcounted
    · exact hcounted
  · rename_i hlocal
    rw [Bool.not_eq_true] at hlocal
    rw [hlocal, Bool.toNat_false, Nat.add_zero] at herase
    refine ⟨?_, hheld, hone⟩
    rw [herase]
    exact hcount

theorem step_accounted (event : RemoteDisplayEvent) (h : Accounted self) :
    Accounted (self.step event) := by
  cases event with
  | displayAdded display proxy =>
    simp only [step]
    split
    · exact h
    · exact onDisplayAdded_accounted h
  | displayRemoved id =>
    simp only [step]
    split
    · exact h
    · rename_i display hfound
      exact onDisplayRemoved_accounted h (List.mem_of_find?_eq_some hfound)
  | inhibitDone reply =>
    simp only [step]
    split
    · exact h
    · rename_i hcall
      exact onInhibitSuspendDone_accounted h hcall

theorem run_accounted (events : List RemoteDisplayEvent) : Accounted (machine.run {} events) :=
  machine.run_invariant Accounted (fun _ event h => step_accounted event h) events
    ⟨rfl, rfl, rfl⟩

/-! ## The descriptor and the displays -/

/-- When no call is in flight, a descriptor is held if and only if there is a remote display. -/
def Agreement (self : RemoteDisplays) : Prop :=
  self.inFlight = 0 →
    (self.factory.inhibitSuspendFd.isSome = true ↔
      ∃ display ∈ self.store, display.isRemote = true)

/-- A call is made when the first remote display is added, and it is answered with a
descriptor just when there is still a remote display. -/
def InStep (self : RemoteDisplays) : RemoteDisplayEvent → Prop
  | .displayAdded display proxy =>
    (∀ stored ∈ self.store, stored.id ≠ display.id) → display.isRemote = true →
      self.factory.suspendInhibited = false → proxy = true
  | .displayRemoved _ => True
  | .inhibitDone reply =>
    self.inFlight ≠ 0 →
      ((∃ fd, reply = .fd fd) ↔ ∃ display ∈ self.store, display.isRemote = true)

/-- Suspend is inhibited by a descriptor or by a call for one. -/
theorem Accounted.inhibited_iff (h : Accounted self) :
    self.factory.suspendInhibited = true ↔
      self.inFlight ≠ 0 ∨ self.factory.inhibitSuspendFd.isSome = true := by
  obtain ⟨-, hheld, hone⟩ := h
  rw [hheld] at hone
  cases hinhibited : self.factory.suspendInhibited with
  | true =>
    rw [hinhibited, Bool.toNat_true] at hone
    cases hfd : self.factory.inhibitSuspendFd with
    | none =>
      rw [hfd] at hone
      simp only [Option.toList_none, List.length_nil] at hone
      simp only [true_iff]
      left
      omega
    | some fd => simp
  | false =>
    rw [hinhibited, Bool.toNat_false] at hone
    cases hfd : self.factory.inhibitSuspendFd with
    | none =>
      rw [hfd] at hone
      simp only [Option.toList_none, List.length_nil] at hone
      simp only [reduceCtorEq, Option.isSome_none, false_iff, or_false, not_not]
      omega
    | some fd =>
      rw [hfd] at hone
      simp at hone

theorem exists_remote_cons {display : StoredDisplay} :
    (∃ stored ∈ display :: self.store, stored.isRemote = true) ↔
      display.isRemote = true ∨ ∃ stored ∈ self.store, stored.isRemote = true := by
  simp

theorem displayAdded_agreement_iff {display : StoredDisplay} {proxy : Bool} (h : Accounted self)
    (hagree : Agreement self) :
    Agreement ({ self with store := display :: self.store }.onDisplayAdded display proxy) ↔
      (display.isRemote = true → self.factory.suspendInhibited = false → proxy = true) := by
  have hinhibited := h.inhibited_iff
  unfold onDisplayAdded
  split
  · rename_i hremote
    have hexists : ∃ stored ∈ display :: self.store, stored.isRemote = true :=
      ⟨display, List.mem_cons_self, hremote⟩
    have hpos : self.factory.remoteDisplaysCount + 1 > 0 := by
      rw [h.count]
      omega
    dsimp only
    rw [if_pos hpos]
    unfold inhibitSuspend Agreement
    dsimp only
    split
    · rename_i hheld
      -- what there is is a call or a descriptor
      simp only [hexists, iff_true, hheld, reduceCtorEq, false_implies, implies_true]
      intro hnone
      exact (hinhibited.mp hheld).resolve_left (not_not.mpr hnone)
    · rename_i hfree
      have hcalls : self.inFlight = 0 := by
        by_contra hcalls
        exact hfree (hinhibited.mpr (.inl hcalls))
      have hfd : ¬ self.factory.inhibitSuspendFd.isSome = true := by
        intro hfd
        exact hfree (hinhibited.mpr (.inr hfd))
      rw [Bool.not_eq_true] at hfree
      split
      · rename_i hproxy
        simp [hproxy]
      · rename_i hproxy
        simp only [hexists, hcalls, hfd, hremote, hfree, hproxy, iff_true, forall_const,
          Bool.false_eq_true]
  · rename_i hlocal
    have hsame : (∃ stored ∈ display :: self.store, stored.isRemote = true) ↔
        ∃ stored ∈ self.store, stored.isRemote = true := by
      rw [exists_remote_cons]
      simp [hlocal]
    unfold Agreement at hagree ⊢
    dsimp only
    rw [hsame]
    exact ⟨fun _ hremote => absurd hremote hlocal, fun _ => hagree⟩

theorem displayRemoved_agreement {display : StoredDisplay} (h : Accounted self)
    (hmem : display ∈ self.store) (hagree : Agreement self) :
    Agreement ({ self with store := self.store.erase display }.onDisplayRemoved display) := by
  have herase := remoteDisplays_erase hmem
  have hcount := h.count
  unfold Agreement at hagree
  unfold onDisplayRemoved
  split
  · rename_i hremote
    have hbefore : self.inFlight = 0 → self.factory.inhibitSuspendFd.isSome = true :=
      fun hcalls => (hagree hcalls).mpr ⟨display, hmem, hremote⟩
    rw [hremote, Bool.toNat_true] at herase
    dsimp only
    split
    · rename_i hzero
      have hnone : ¬ ∃ stored ∈ self.store.erase display, stored.isRemote = true := by
        rw [← List.countP_pos_iff]
        show ¬ 0 < remoteDisplays { self with store := self.store.erase display }
        omega
      unfold uninhibitSuspend Agreement
      dsimp only
      split
      · rename_i hfd
        intro hcalls
        have hsome := hbefore hcalls
        rw [hfd] at hsome
        cases hsome
      · simp [hnone]
    · rename_i hmore
      have hsome : ∃ stored ∈ self.store.erase display, stored.isRemote = true := by
        rw [← List.countP_pos_iff]
        show 0 < remoteDisplays { self with store := self.store.erase display }
        omega
      intro hcalls
      exact ⟨fun _ => hsome, fun _ => hbefore hcalls⟩
  · rename_i hlocal
    have hsame : (∃ stored ∈ self.store.erase display, stored.isRemote = true) ↔
        ∃ stored ∈ self.store, stored.isRemote = true := by
      rw [← List.countP_pos_iff, ← List.countP_pos_iff]
      show 0 < remoteDisplays { self with store := self.store.erase display } ↔
        0 < self.remoteDisplays
      rw [Bool.not_eq_true] at hlocal
      rw [hlocal, Bool.toNat_false] at herase
      omega
    intro hcalls
    exact (hagree hcalls).trans hsame.symm

theorem inhibitDone_agreement_iff {reply : InhibitReply} (h : Accounted self)
    (hcall : self.inFlight ≠ 0) :
    Agreement ({ self with inFlight := self.inFlight - 1 }.onInhibitSuspendDone reply) ↔
      ((∃ fd, reply = .fd fd) ↔ ∃ display ∈ self.store, display.isRemote = true) := by
  obtain ⟨-, hheld, hone⟩ := h
  have hinhibited := self.factory.suspendInhibited.toNat_le
  have hlast : self.inFlight - 1 = 0 := by omega
  have hfd : self.factory.inhibitSuspendFd = none := by
    have hnone : self.openFds = [] := List.length_eq_zero_iff.mp (by omega)
    rw [hnone] at hheld
    cases hfd : self.factory.inhibitSuspendFd with
    | none => rfl
    | some fd =>
      rw [hfd] at hheld
      cases hheld
  unfold Agreement
  cases reply with
  | failed => simp [onInhibitSuspendDone, hlast, hfd]
  | noFd => simp [onInhibitSuspendDone, hlast]
  | fd fd => simp [onInhibitSuspendDone, hlast]

/-- A step keeps the agreement just when it meets the condition. -/
theorem step_agreement_iff (event : RemoteDisplayEvent) (h : Accounted self)
    (hagree : Agreement self) : Agreement (self.step event) ↔ InStep self event := by
  cases event with
  | displayAdded display proxy =>
    simp only [step, InStep]
    split
    · rename_i hthere
      simp only [hagree, true_iff]
      intro hnew
      simp only [List.any_eq_true, decide_eq_true_eq] at hthere
      obtain ⟨stored, hmem, hid⟩ := hthere
      exact absurd hid (hnew stored hmem)
    · rename_i hnew
      rw [displayAdded_agreement_iff h hagree]
      simp only [List.any_eq_true, decide_eq_true_eq, not_exists, not_and] at hnew
      exact ⟨fun hproxy _ => hproxy, fun hproxy => hproxy hnew⟩
  | displayRemoved id =>
    simp only [step, InStep, iff_true]
    split
    · exact hagree
    · rename_i display hfound
      exact displayRemoved_agreement h (List.mem_of_find?_eq_some hfound) hagree
  | inhibitDone reply =>
    simp only [step, InStep]
    split
    · rename_i hnone
      simp [hagree, hnone]
    · rename_i hcall
      rw [inhibitDone_agreement_iff h hcall]
      exact ⟨fun hiff _ => hiff, fun hiff => hiff hcall⟩

/-- The descriptor and the displays agree all through a run just when every call is made that
is needed, and every answer still fits.  However that may be, there is never a second
descriptor, nor one that is not held. -/
theorem run_agreement (events : List RemoteDisplayEvent) :
    (machine.Meets InStep {} events ↔
      ∀ before after, events = before ++ after → Agreement (machine.run {} before)) ∧
    (machine.run {} events).openFds = (machine.run {} events).factory.inhibitSuspendFd.toList ∧
    (machine.run {} events).inFlight + (machine.run {} events).openFds.length ≤ 1 := by
  refine ⟨?_, ?_, ?_⟩
  · apply EventMachine.meets_iff_forall_prefix Accounted Agreement
    · intro self event haccounted
      exact step_accounted event haccounted
    · intro self event haccounted hagree
      exact step_agreement_iff event haccounted hagree
    · exact run_accounted []
    · simp [Agreement]
  · exact (run_accounted events).held
  · rw [(run_accounted events).one]
    exact Bool.toNat_le _

/-- A remote display is removed before the call for it is answered: the descriptor stays. -/
theorem run_displayRemoved :
    ¬ ∀ events : List RemoteDisplayEvent, Agreement (machine.run {} events) := by
  intro h
  have hagree := h
    [.displayAdded { id := 1, isRemote := true } true, .displayRemoved 1, .inhibitDone (.fd 7)]
  exact absurd (hagree (by decide)) (by decide)

end RemoteDisplays

end Gdm
