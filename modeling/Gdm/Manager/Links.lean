import Gdm.Library.Pairing
import Gdm.Manager.Bus

/-!
# Displays and sessions point at each other

The pointers between displays and sessions are inverse to each other, and what they
point to has not been disposed of.  The reference counters carry this: each of them
is no smaller than the number of references that are held, by displays, by the lists
and tables of the manager, by what is queued, and by a handler that is running.
-/

namespace Gdm

/-- What the pointers and counters of a session are. -/
def ManagedSession.ties (s : ManagedSession) : Option Nat × Option Nat × Nat × Bool :=
  (s.gdmDisplay, s.userSession, s.refs, s.disposed)

def GdmDisplay.ties (x : GdmDisplay) : Option Nat × Bool × Nat :=
  (x.userSession, x.stored, x.refs)

namespace GdmManager

variable {self self' : GdmManager} {around : ManagerSurroundings} {ks ks' ds ds' : List Nat}
  {k d : Nat}

/-- The sessions that the lists, tables and queues of the manager refer to. -/
def heldByManager (self : GdmManager) : List Nat :=
  self.userSessions ++ self.transientSessions.map Prod.snd ++
    self.idle.map IdleOperation.session

/-- The sessions that something other than a display refers to. -/
def held (self : GdmManager) : List Nat :=
  self.heldByManager ++ self.sessions.filterMap ManagedSession.userSession

/-- The pointers are paired, and the counters cover the references; `ks` and `ds` are
the sessions and displays that a running handler refers to. -/
structure Linked (ks ds : List Nat) (m : GdmManager) : Prop where
  paired : Paired m.getUserSessionForDisplay m.getDisplayForUserSession
  counted : ∀ (k : Nat) (s : ManagedSession), m.sessions[k]? = some s →
    (ks ++ m.held).count k + s.gdmDisplay.toList.length ≤ s.refs
  known : ∀ k ∈ ks ++ m.held, k < m.sessions.length
  living : ∀ (k : Nat) (s : ManagedSession), m.sessions[k]? = some s → s.disposed = true →
    s.gdmDisplay = none ∧ k ∉ ks ++ m.held
  stored : ∀ (d : Nat) (x : GdmDisplay), m.displays[d]? = some x →
    (ds ++ m.lookups).count d + x.stored.toNat ≤ x.refs
  knownDisplays : ∀ d ∈ ds ++ m.lookups, d < m.displays.length
  gone : ∀ (d : Nat) (x : GdmDisplay), m.displays[d]? = some x → x.refs = 0 → x.userSession = none

/-! ## What leaves the pointers alone -/

theorem map_modify {α β : Type} {l : List α} {i : Nat} {f : α → α} {g : α → β}
    (hf : ∀ a, l[i]? = some a → g (f a) = g a) : (l.modify i f).map g = l.map g := by
  refine List.ext_getElem? fun j => ?_
  rw [List.getElem?_map, List.getElem?_modify, List.getElem?_map]
  cases hj : l[j]? with
  | none => rfl
  | some a =>
    by_cases hij : i = j
    · subst hij
      simp [hf a hj]
    · simp [hij]

theorem map_map_getElem? {α β : Type} {l l' : List α} {g : α → β} (h : l'.map g = l.map g)
    (i : Nat) : (l'[i]?).map g = (l[i]?).map g := by
  rw [← List.getElem?_map, h, List.getElem?_map]

theorem getElem?_of_map {α β : Type} {l l' : List α} {g : α → β} (h : l'.map g = l.map g)
    {i : Nat} {a : α} (ha : l'[i]? = some a) : ∃ b, l[i]? = some b ∧ g b = g a := by
  have hmap := map_map_getElem? h i
  rw [ha, Option.map_some, eq_comm, Option.map_eq_some_iff] at hmap
  exact hmap

theorem bind_of_map {α β γ : Type} {l l' : List α} {g : α → β} (p : β → Option γ)
    (h : l'.map g = l.map g) (i : Nat) :
    (l'[i]?.bind fun a => p (g a)) = l[i]?.bind fun a => p (g a) := by
  have hmap := congrArg (Option.bind · p) (map_map_getElem? h i)
  rw [Option.bind_map, Option.bind_map] at hmap
  exact hmap

theorem length_of_map {α β : Type} {l l' : List α} {g : α → β} (h : l'.map g = l.map g) :
    l'.length = l.length := by
  simpa using congrArg List.length h

theorem filterMap_of_map {α β γ : Type} {l l' : List α} {g : α → β} (p : β → Option γ)
    (h : l'.map g = l.map g) : l'.filterMap (fun a => p (g a)) = l.filterMap fun a => p (g a) := by
  have hcomp : ∀ l : List α, l.filterMap (fun a => p (g a)) = (l.map g).filterMap p := by
    intro l
    rw [List.filterMap_map]
    rfl
  rw [hcomp, hcomp, h]

/-- The same pointers and counters, and no more references that are held. -/
theorem Linked.rearrange (h : Linked ks ds self)
    (hsessions : self'.sessions.map ManagedSession.ties = self.sessions.map ManagedSession.ties)
    (hdisplays : self'.displays.map GdmDisplay.ties = self.displays.map GdmDisplay.ties)
    (hheld : ∀ j, (ks' ++ self'.heldByManager).count j ≤ (ks ++ self.heldByManager).count j)
    (hlookups : ∀ d, (ds' ++ self'.lookups).count d ≤ (ds ++ self.lookups).count d) :
    Linked ks' ds' self' := by
  have hcount : ∀ j, (ks' ++ self'.held).count j ≤ (ks ++ self.held).count j := by
    intro j
    have hj := hheld j
    have hsame := filterMap_of_map (fun t => t.2.1) hsessions
    have hsame' : self'.sessions.filterMap ManagedSession.userSession =
        self.sessions.filterMap ManagedSession.userSession := hsame
    simp only [held, List.count_append, hsame'] at hj ⊢
    omega
  have hmem : ∀ j, j ∈ ks' ++ self'.held → j ∈ ks ++ self.held := by
    intro j hj
    exact List.count_pos_iff.mp (Nat.lt_of_lt_of_le (List.count_pos_iff.mpr hj) (hcount j))
  have hmemDisplay : ∀ d, d ∈ ds' ++ self'.lookups → d ∈ ds ++ self.lookups := by
    intro d hd
    exact List.count_pos_iff.mp (Nat.lt_of_lt_of_le (List.count_pos_iff.mpr hd) (hlookups d))
  refine ⟨?_, ?_, ?_, ?_, ?_, ?_, ?_⟩
  · have hforth : self'.getUserSessionForDisplay = self.getUserSessionForDisplay := by
      funext d
      exact bind_of_map (fun t => t.1) hdisplays d
    have hback : self'.getDisplayForUserSession = self.getDisplayForUserSession := by
      funext j
      exact bind_of_map (fun t => t.1) hsessions j
    rw [hforth, hback]
    exact h.paired
  · intro j s hs
    obtain ⟨t, ht, hties⟩ := getElem?_of_map hsessions hs
    simp only [ManagedSession.ties, Prod.mk.injEq] at hties
    have hj := h.counted j t ht
    have hj' := hcount j
    rw [hties.1, hties.2.2.1] at hj
    omega
  · intro j hj
    rw [length_of_map hsessions]
    exact h.known j (hmem j hj)
  · intro j s hs hdisposed
    obtain ⟨t, ht, hties⟩ := getElem?_of_map hsessions hs
    simp only [ManagedSession.ties, Prod.mk.injEq] at hties
    obtain ⟨hnone, hnot⟩ := h.living j t ht (hties.2.2.2.trans hdisposed)
    exact ⟨hties.1 ▸ hnone, fun hj => hnot (hmem j hj)⟩
  · intro d x hx
    obtain ⟨y, hy, hties⟩ := getElem?_of_map hdisplays hx
    simp only [GdmDisplay.ties, Prod.mk.injEq] at hties
    have hd := h.stored d y hy
    have hd' := hlookups d
    rw [hties.2.1, hties.2.2] at hd
    omega
  · intro d hd
    rw [length_of_map hdisplays]
    exact h.knownDisplays d (hmemDisplay d hd)
  · intro d x hx hrefs
    obtain ⟨y, hy, hties⟩ := getElem?_of_map hdisplays hx
    simp only [GdmDisplay.ties, Prod.mk.injEq] at hties
    exact hties.1 ▸ h.gone d y hy (hties.2.2.trans hrefs)

/-- A handler drops its interest in a session. -/
theorem Linked.forget (h : Linked (k :: ks) ds self) : Linked ks ds self := by
  refine h.rearrange rfl rfl ?_ fun d => Nat.le_refl _
  intro j
  simp only [List.cons_append]
  exact List.count_le_count_cons

theorem Linked.modifySession (h : Linked ks ds self) {f : ManagedSession → ManagedSession}
    (hf : ∀ s, self.sessions[k]? = some s → (f s).ties = s.ties) :
    Linked ks ds (self.modifySession k f) :=
  h.rearrange (map_modify hf) rfl (fun _ => Nat.le_refl _) fun _ => Nat.le_refl _

theorem Linked.modifyDisplay (h : Linked ks ds self) {f : GdmDisplay → GdmDisplay}
    (hf : ∀ x, (f x).ties = x.ties) : Linked ks ds (self.modifyDisplay d f) :=
  h.rearrange rfl (map_modify fun x _ => hf x) (fun _ => Nat.le_refl _) fun _ => Nat.le_refl _

theorem Linked.callSession (h : Linked ks ds self) (call : OwnerCall) :
    Linked ks ds (self.callSession k around call) :=
  h.modifySession fun _ _ => rfl

/-! ## References to sessions -/

theorem getElem?_modifySession {f : ManagedSession → ManagedSession} (j : Nat) :
    (self.modifySession k f).sessions[j]? =
      if k = j then (self.sessions[j]?).map f else self.sessions[j]? := by
  simp only [GdmManager.modifySession, List.getElem?_modify]
  split
  · rfl
  · cases self.sessions[j]? <;> rfl

theorem getElem?_modifySession_self {f : ManagedSession → ManagedSession} {s : ManagedSession}
    (hs : self.sessions[k]? = some s) : (self.modifySession k f).sessions[k]? = some (f s) := by
  rw [getElem?_modifySession, if_pos rfl, hs]
  rfl

theorem getElem?_modifyDisplay {f : GdmDisplay → GdmDisplay} (e : Nat) :
    (self.modifyDisplay d f).displays[e]? =
      if d = e then (self.displays[e]?).map f else self.displays[e]? := by
  simp only [GdmManager.modifyDisplay, List.getElem?_modify]
  split
  · rfl
  · cases self.displays[e]? <;> rfl

theorem length_modifySession {f : ManagedSession → ManagedSession} :
    (self.modifySession k f).sessions.length = self.sessions.length :=
  List.length_modify ..

/-- What is said of sessions and their counters, after one session has changed. -/
theorem Linked.sessions_modify (h : Linked ks ds self) {f : ManagedSession → ManagedSession}
    (huser : ∀ s, (f s).userSession = s.userSession)
    (hdisposed : ∀ s, (f s).disposed = s.disposed)
    (hother : ∀ j, j ≠ k → ks'.count j ≤ ks.count j)
    (hself : ∀ s, self.sessions[k]? = some s →
      (ks' ++ self.held).count k + (f s).gdmDisplay.toList.length ≤ (f s).refs)
    (hnone : ∀ s, self.sessions[k]? = some s → s.disposed = true → (f s).gdmDisplay = none)
    (hknown : k ∈ ks' → ∃ s, self.sessions[k]? = some s ∧ s.disposed = false) :
    (∀ (j : Nat) (s : ManagedSession), (self.modifySession k f).sessions[j]? = some s →
        (ks' ++ (self.modifySession k f).held).count j + s.gdmDisplay.toList.length ≤ s.refs) ∧
      (∀ j ∈ ks' ++ (self.modifySession k f).held, j < (self.modifySession k f).sessions.length) ∧
      ∀ (j : Nat) (s : ManagedSession), (self.modifySession k f).sessions[j]? = some s →
        s.disposed = true →
          s.gdmDisplay = none ∧ j ∉ ks' ++ (self.modifySession k f).held := by
  have hheld : (self.modifySession k f).held = self.held := by
    have huserList : (self.modifySession k f).sessions.map ManagedSession.userSession =
        self.sessions.map ManagedSession.userSession := map_modify fun s _ => huser s
    have hsame : (self.modifySession k f).sessions.filterMap ManagedSession.userSession =
        self.sessions.filterMap ManagedSession.userSession := filterMap_of_map id huserList
    unfold held
    rw [hsame]
    rfl
  have hmem : ∀ j, j ≠ k → j ∈ ks' ++ self.held → j ∈ ks ++ self.held := by
    intro j hjk hj
    rcases List.mem_append.mp hj with hj | hj
    · exact List.mem_append_left _ (List.count_pos_iff.mp
        (Nat.lt_of_lt_of_le (List.count_pos_iff.mpr hj) (hother j hjk)))
    · exact List.mem_append_right _ hj
  rw [hheld]
  refine ⟨?_, ?_, ?_⟩
  · intro j s hs
    rw [getElem?_modifySession] at hs
    split at hs
    · rename_i hjk
      subst hjk
      obtain ⟨t, ht, rfl⟩ := Option.map_eq_some_iff.mp hs
      exact hself t ht
    · rename_i hjk
      have hj := h.counted j s hs
      have hj' := hother j (Ne.symm hjk)
      rw [List.count_append] at hj ⊢
      omega
  · intro j hj
    rw [length_modifySession]
    by_cases hjk : j = k
    · subst hjk
      rcases List.mem_append.mp hj with hj | hj
      · obtain ⟨s, hs, _⟩ := hknown hj
        exact (List.getElem?_eq_some_iff.mp hs).1
      · exact h.known j (List.mem_append_right _ hj)
    · exact h.known j (hmem j hjk hj)
  · intro j s hs hgone
    rw [getElem?_modifySession] at hs
    split at hs
    · rename_i hjk
      subst hjk
      obtain ⟨t, ht, rfl⟩ := Option.map_eq_some_iff.mp hs
      rw [hdisposed] at hgone
      refine ⟨hnone t ht hgone, ?_⟩
      intro hmem'
      rcases List.mem_append.mp hmem' with hk | hk
      · obtain ⟨u, hu, hlive⟩ := hknown hk
        rw [ht] at hu
        cases hu
        rw [hgone] at hlive
        cases hlive
      · exact (h.living k t ht hgone).2 (List.mem_append_right _ hk)
    · rename_i hjk
      obtain ⟨hnone', hnot⟩ := h.living j s hs hgone
      exact ⟨hnone', fun hj => hnot (hmem j (Ne.symm hjk) hj)⟩

/-- Only the counter of a session changes. -/
theorem Linked.recount (h : Linked ks ds self) {f : ManagedSession → ManagedSession}
    (hdisplay : ∀ s, (f s).gdmDisplay = s.gdmDisplay)
    (huser : ∀ s, (f s).userSession = s.userSession)
    (hdisposed : ∀ s, (f s).disposed = s.disposed)
    (hother : ∀ j, j ≠ k → ks'.count j ≤ ks.count j)
    (hself : ∀ s, self.sessions[k]? = some s →
      (ks' ++ self.held).count k + s.gdmDisplay.toList.length ≤ (f s).refs)
    (hknown : k ∈ ks' → ∃ s, self.sessions[k]? = some s ∧ s.disposed = false) :
    Linked ks' ds (self.modifySession k f) := by
  have hback : (self.modifySession k f).getDisplayForUserSession =
      self.getDisplayForUserSession := by
    funext j
    unfold getDisplayForUserSession
    rw [getElem?_modifySession]
    split
    · cases self.sessions[j]? with
      | none => rfl
      | some s => exact hdisplay s
    · rfl
  obtain ⟨hcounted, hknown', hliving⟩ := h.sessions_modify huser hdisposed hother
    (fun s hs => by rw [hdisplay]; exact hself s hs)
    (fun s hs hgone => (hdisplay s).trans (h.living k s hs hgone).1) hknown
  exact ⟨hback ▸ h.paired, hcounted, hknown', hliving, h.stored, h.knownDisplays, h.gone⟩

/-- A session that has not been disposed of is referred to once more. -/
theorem Linked.refSession (h : Linked ks ds self) {s : ManagedSession}
    (hs : self.sessions[k]? = some s) (hlive : s.disposed = false) :
    Linked (k :: ks) ds (self.refSession k) := by
  refine h.recount (fun _ => rfl) (fun _ => rfl) (fun _ => rfl) ?_ ?_ fun _ => ⟨s, hs, hlive⟩
  · intro j hj
    exact Nat.le_of_eq (List.count_cons_of_ne (Ne.symm hj))
  · intro t ht
    have hcounted := h.counted k t ht
    simp only [List.cons_append, List.count_cons_self]
    omega

/-- The reference of a handler is dropped. -/
theorem Linked.drop (h : Linked (k :: ks) ds self) :
    Linked ks ds (self.modifySession k fun s => { s with refs := s.refs - 1 }) := by
  have hk := h.known k (by simp)
  refine h.recount (fun _ => rfl) (fun _ => rfl) (fun _ => rfl) ?_ ?_ ?_
  · intro j hj
    exact Nat.le_of_eq (List.count_cons_of_ne (Ne.symm hj)).symm
  · intro t ht
    have hcounted := h.counted k t ht
    simp only [List.cons_append, List.count_cons_self] at hcounted
    show _ ≤ t.refs - 1
    omega
  · intro _
    refine ⟨_, List.getElem?_eq_getElem hk, ?_⟩
    cases hd : self.sessions[k].disposed with
    | false => rfl
    | true =>
      have hnot := (h.living k _ (List.getElem?_eq_getElem hk) hd).2
      exact absurd (List.mem_append_left _ List.mem_cons_self) hnot

/-! ## References to displays -/

/-- What is said of displays and their counters, after one display has changed. -/
theorem Linked.displays_modify (h : Linked ks ds self) {x : GdmDisplay}
    (hx : self.displays[d]? = some x) {f : GdmDisplay → GdmDisplay}
    (hother : ∀ e, e ≠ d → ds'.count e ≤ ds.count e)
    (hself : (ds' ++ self.lookups).count d + (f x).stored.toNat ≤ (f x).refs)
    (hgone : (f x).refs = 0 → (f x).userSession = none) :
    (∀ (e : Nat) (y : GdmDisplay), (self.modifyDisplay d f).displays[e]? = some y →
        (ds' ++ self.lookups).count e + y.stored.toNat ≤ y.refs) ∧
      (∀ e ∈ ds' ++ self.lookups, e < (self.modifyDisplay d f).displays.length) ∧
      ∀ (e : Nat) (y : GdmDisplay), (self.modifyDisplay d f).displays[e]? = some y →
        y.refs = 0 → y.userSession = none := by
  have hlength : (self.modifyDisplay d f).displays.length = self.displays.length :=
    List.length_modify ..
  refine ⟨?_, ?_, ?_⟩
  · intro e y hy
    rw [getElem?_modifyDisplay] at hy
    split at hy
    · rename_i hde
      subst hde
      rw [hx] at hy
      cases hy
      exact hself
    · rename_i hde
      have hstored := h.stored e y hy
      have hcount := hother e (Ne.symm hde)
      rw [List.count_append] at hstored ⊢
      omega
  · intro e he
    rw [hlength]
    by_cases hde : e = d
    · rw [hde]
      exact (List.getElem?_eq_some_iff.mp hx).1
    · rcases List.mem_append.mp he with he | he
      · exact h.knownDisplays e (List.mem_append_left _ (List.count_pos_iff.mp
          (Nat.lt_of_lt_of_le (List.count_pos_iff.mpr he) (hother e hde))))
      · exact h.knownDisplays e (List.mem_append_right _ he)
  · intro e y hy hzero
    rw [getElem?_modifyDisplay] at hy
    split at hy
    · rename_i hde
      subst hde
      rw [hx] at hy
      cases hy
      exact hgone hzero
    · exact h.gone e y hy hzero

/-- Only the counter of a display changes. -/
theorem Linked.recountDisplay (h : Linked ks ds self) {x : GdmDisplay}
    (hx : self.displays[d]? = some x) {f : GdmDisplay → GdmDisplay}
    (huser : ∀ y, (f y).userSession = y.userSession)
    (hother : ∀ e, e ≠ d → ds'.count e ≤ ds.count e)
    (hself : (ds' ++ self.lookups).count d + (f x).stored.toNat ≤ (f x).refs)
    (hgone : (f x).refs = 0 → x.userSession = none) :
    Linked ks ds' (self.modifyDisplay d f) := by
  have hforth : (self.modifyDisplay d f).getUserSessionForDisplay =
      self.getUserSessionForDisplay := by
    funext e
    unfold getUserSessionForDisplay
    rw [getElem?_modifyDisplay]
    split
    · cases self.displays[e]? with
      | none => rfl
      | some y => exact huser y
    · rfl
  obtain ⟨hstored, hknown, hgone'⟩ := h.displays_modify hx hother hself
    fun hzero => (huser x).trans (hgone hzero)
  exact ⟨hforth ▸ h.paired, h.counted, h.known, h.living, hstored, hknown, hgone'⟩

/-! ## Sessions that are disposed of -/

theorem count_filterMap_modify {α : Type} {l : List α} {i : Nat} {a : α} (h : l[i]? = some a)
    (f : α → α) (g : α → Option Nat) (j : Nat) :
    ((l.modify i f).filterMap g).count j + (g a).toList.count j =
      (l.filterMap g).count j + (g (f a)).toList.count j := by
  have hi : i < l.length := (List.getElem?_eq_some_iff.mp h).1
  obtain ⟨before, b, after, rfl, rfl, hmodify⟩ := List.exists_of_modify f hi
  have hb : b = a := by simpa using h
  subst hb
  have hcons : ∀ (c : α) (rest : List α), ((c :: rest).filterMap g).count j =
      (g c).toList.count j + (rest.filterMap g).count j := by
    intro c rest
    cases hc : g c <;> simp [hc, List.count_cons, Nat.add_comm]
  rw [hmodify, List.filterMap_append, List.filterMap_append, List.count_append,
    List.count_append, hcons, hcons]
  omega

theorem disposeIfUnreferenced_of_not (h : ∀ s, self.sessions[k]? = some s →
    s.isUnreferenced = false) : self.disposeIfUnreferenced k = self := by
  have hsessions : (self.sessions.modify k fun s =>
      if s.isUnreferenced then s.dispose else s) = self.sessions := by
    refine List.ext_getElem? fun j => ?_
    rw [List.getElem?_modify]
    cases hj : self.sessions[j]? with
    | none => rfl
    | some s =>
      by_cases hjk : k = j
      · subst hjk
        simp [h s hj]
      · simp [hjk]
  simp [GdmManager.disposeIfUnreferenced, GdmManager.modifySession, hsessions]

/-- The session that an unreferenced session for reauthentication lets go of. -/
def ManagedSession.releases (s : ManagedSession) : Option Nat :=
  if s.isUnreferenced then s.userSession else none

/-- A session is disposed of only when nothing points to it; what it refers to has to
be let go of. -/
theorem Linked.disposeIfUnreferenced (h : Linked ks ds self) {s : ManagedSession}
    (hs : self.sessions[k]? = some s) :
    Linked ((ManagedSession.releases s).toList ++ ks) ds (self.disposeIfUnreferenced k) := by
  cases hunref : s.isUnreferenced with
  | false =>
    have hnot : ∀ t, self.sessions[k]? = some t → t.isUnreferenced = false := by
      intro t ht
      rw [hs] at ht
      cases ht
      exact hunref
    rw [disposeIfUnreferenced_of_not hnot]
    simpa [ManagedSession.releases, hunref] using h
  | true =>
    have hrefs : s.refs = 0 := by
      simp only [ManagedSession.isUnreferenced, Bool.and_eq_true, decide_eq_true_eq] at hunref
      exact hunref.1.1
    have hcounted := h.counted k s hs
    rw [hrefs] at hcounted
    have hnone : s.gdmDisplay = none := by
      cases hd : s.gdmDisplay with
      | none => rfl
      | some d => simp [hd] at hcounted
    have hfree : (ks ++ self.held).count k = 0 := by omega
    have hcount : ∀ j, (s.userSession.toList ++ ks ++ (self.disposeIfUnreferenced k).held).count j =
        (ks ++ self.held).count j := by
      intro j
      have hj := count_filterMap_modify hs
        (fun s => if s.isUnreferenced then s.dispose else s) ManagedSession.userSession j
      rw [show (if s.isUnreferenced then s.dispose else s).userSession = none by
        simp [hunref, ManagedSession.dispose], Option.toList_none, List.count_nil] at hj
      simp only [held, heldByManager, GdmManager.disposeIfUnreferenced, GdmManager.modifySession,
        List.count_append] at hj ⊢
      omega
    have hmem : ∀ j, j ∈ s.userSession.toList ++ ks ++ (self.disposeIfUnreferenced k).held ↔
        j ∈ ks ++ self.held := by
      intro j
      rw [← List.count_pos_iff, ← List.count_pos_iff, hcount]
    have hreleases : ManagedSession.releases s = s.userSession := by
      simp [ManagedSession.releases, hunref]
    rw [hreleases]
    refine ⟨?_, ?_, ?_, ?_, h.stored, h.knownDisplays, h.gone⟩
    · have hback : (self.disposeIfUnreferenced k).getDisplayForUserSession =
          self.getDisplayForUserSession := by
        funext j
        unfold getDisplayForUserSession GdmManager.disposeIfUnreferenced
        rw [getElem?_modifySession]
        split
        · rename_i hjk
          subst hjk
          simp [hs, hunref, hnone, ManagedSession.dispose]
        · rfl
      rw [hback]
      exact h.paired
    · intro j t ht
      rw [hcount]
      unfold GdmManager.disposeIfUnreferenced at ht
      rw [getElem?_modifySession] at ht
      split at ht
      · rename_i hjk
        subst hjk
        rw [hs] at ht
        simp only [Option.map_some, hunref, if_true, Option.some.injEq] at ht
        subst ht
        simp only [ManagedSession.dispose, Option.toList_none, List.length_nil]
        omega
      · exact h.counted j t ht
    · intro j hj
      unfold GdmManager.disposeIfUnreferenced
      rw [length_modifySession]
      exact h.known j ((hmem j).mp hj)
    · intro j t ht hgone
      rw [hmem]
      unfold GdmManager.disposeIfUnreferenced at ht
      rw [getElem?_modifySession] at ht
      split at ht
      · rename_i hjk
        subst hjk
        rw [hs] at ht
        simp only [Option.map_some, hunref, if_true, Option.some.injEq] at ht
        subst ht
        exact ⟨rfl, List.count_eq_zero.mp hfree⟩
      · exact h.living j t ht hgone

/-- A handler drops its interest in several sessions. -/
theorem Linked.forgetAll (h : Linked (ks' ++ ks) ds self) : Linked ks ds self := by
  refine h.rearrange rfl rfl ?_ fun d => Nat.le_refl _
  intro j
  simp only [List.count_append]
  omega

theorem Linked.exists_session (h : Linked ks ds self) (hk : k ∈ ks ++ self.held) :
    ∃ s, self.sessions[k]? = some s ∧ s.disposed = false := by
  have hlt := h.known k hk
  refine ⟨_, List.getElem?_eq_getElem hlt, ?_⟩
  cases hd : self.sessions[k].disposed with
  | false => rfl
  | true => exact absurd hk (h.living k _ (List.getElem?_eq_getElem hlt) hd).2

theorem Linked.collectSession (h : Linked ks ds self) : Linked ks ds (self.collectSession k) := by
  unfold GdmManager.collectSession
  split
  · exact h
  · rename_i s hs
    have hdisposed := h.disposeIfUnreferenced hs
    unfold ManagedSession.releases at hdisposed
    split
    · rename_i hnone
      rw [hnone] at hdisposed
      exact hdisposed
    · rename_i j hj
      rw [hj] at hdisposed
      obtain ⟨t, ht, _⟩ := hdisposed.exists_session (k := j) (by simp)
      have ht' : ((self.disposeIfUnreferenced k).modifySession j fun s =>
          { s with refs := s.refs - 1 }).sessions[j]? = some { t with refs := t.refs - 1 } :=
        getElem?_modifySession_self ht
      exact (hdisposed.drop.disposeIfUnreferenced ht').forgetAll

theorem Linked.unrefSession (h : Linked (k :: ks) ds self) :
    Linked ks ds (self.unrefSession k) :=
  h.drop.collectSession

/-! ## Pointers that are set and cleared -/

theorem getUserSessionForDisplay_modifyDisplay {x : GdmDisplay} (hd : self.displays[d]? = some x)
    (v : Option Nat) :
    (self.modifyDisplay d fun x => { x with userSession := v }).getUserSessionForDisplay =
      Function.update self.getUserSessionForDisplay d v := by
  funext e
  unfold getUserSessionForDisplay
  rw [getElem?_modifyDisplay]
  by_cases hde : d = e
  · subst hde
    simp [hd]
  · simp [hde, Function.update_of_ne (Ne.symm hde)]

theorem getDisplayForUserSession_modifySession {s : ManagedSession}
    (hs : self.sessions[k]? = some s) {f : ManagedSession → ManagedSession} {v : Option Nat}
    (hf : (f s).gdmDisplay = v) :
    (self.modifySession k f).getDisplayForUserSession =
      Function.update self.getDisplayForUserSession k v := by
  funext j
  unfold getDisplayForUserSession
  rw [getElem?_modifySession]
  by_cases hkj : k = j
  · subst hkj
    simp [hs, hf]
  · simp [hkj, Function.update_of_ne (Ne.symm hkj)]

theorem getDisplayForUserSession_of_session {s : ManagedSession}
    (hs : self.sessions[k]? = some s) : self.getDisplayForUserSession k = s.gdmDisplay := by
  simp [getDisplayForUserSession, hs]

theorem getUserSessionForDisplay_of_display {x : GdmDisplay} (hx : self.displays[d]? = some x) :
    self.getUserSessionForDisplay d = x.userSession := by
  simp [getUserSessionForDisplay, hx]

/-- What a display points to is there and has not been disposed of. -/
theorem Linked.session_of_display (h : Linked ks ds self)
    (hd : self.getUserSessionForDisplay d = some k) :
    ∃ s, self.sessions[k]? = some s ∧ s.gdmDisplay = some d ∧ s.disposed = false := by
  have hback := (h.paired d k).mp hd
  cases hs : self.sessions[k]? with
  | none => simp [getDisplayForUserSession, hs] at hback
  | some s =>
    rw [getDisplayForUserSession_of_session hs] at hback
    refine ⟨s, rfl, hback, ?_⟩
    cases hdisposed : s.disposed with
    | false => rfl
    | true =>
      rw [(h.living k s hs hdisposed).1] at hback
      cases hback

/-- What a session points to is there and has not been disposed of. -/
theorem Linked.display_of_session (h : Linked ks ds self)
    (hk : self.getDisplayForUserSession k = some d) :
    ∃ x, self.displays[d]? = some x ∧ x.userSession = some k ∧ 0 < x.refs := by
  have hforth := (h.paired d k).mpr hk
  cases hx : self.displays[d]? with
  | none => simp [getUserSessionForDisplay, hx] at hforth
  | some x =>
    rw [getUserSessionForDisplay_of_display hx] at hforth
    refine ⟨x, rfl, hforth, Nat.pos_of_ne_zero ?_⟩
    intro hrefs
    rw [h.gone d x hx hrefs] at hforth
    cases hforth

/-- A display lets go of its session. -/
theorem Linked.unlink (h : Linked ks ds self) (hd : self.getUserSessionForDisplay d = some k) :
    Linked (k :: ks) ds
      ((self.modifyDisplay d fun x => { x with userSession := none }).modifySession k
        fun s => { s with gdmDisplay := none }) := by
  obtain ⟨s, hs, hdisplay, hlive⟩ := h.session_of_display hd
  obtain ⟨x, hx, _, _⟩ := h.display_of_session ((h.paired d k).mp hd)
  have hs' : (self.modifyDisplay d fun x => { x with userSession := none }).sessions[k]? = some s :=
    hs
  obtain ⟨hstored, hknownDisplays, hgone⟩ := h.displays_modify hx
    (f := fun x => { x with userSession := none }) (fun _ _ => Nat.le_refl _) (h.stored d x hx)
    fun _ => rfl
  have hother : ∀ j, j ≠ k → (k :: ks).count j ≤ ks.count j := fun _ hj =>
    Nat.le_of_eq (List.count_cons_of_ne (Ne.symm hj))
  obtain ⟨hcounted, hknown, hliving⟩ := h.sessions_modify
    (f := fun s => { s with gdmDisplay := none }) (fun _ => rfl) (fun _ => rfl) hother
    (fun t ht => by
      -- the reference of the display becomes one of the handler
      have hcounted := h.counted k s hs
      rw [hs] at ht
      cases ht
      rw [hdisplay] at hcounted
      simpa using hcounted)
    (fun _ _ _ => rfl) fun _ => ⟨s, hs, hlive⟩
  refine ⟨?_, hcounted, hknown, hliving, hstored, hknownDisplays, hgone⟩
  rw [getDisplayForUserSession_modifySession hs' rfl]
  have hforth := getUserSessionForDisplay_modifyDisplay hx none
  have hpaired := h.paired.unlink hd
  rw [← hforth] at hpaired
  exact hpaired

/-- A session and a display that point nowhere are joined; the display takes over a
reference to the session. -/
theorem Linked.link (h : Linked (k :: ks) ds self) {x : GdmDisplay}
    (hx : self.displays[d]? = some x) (hfree : x.userSession = none) (hrefs : 0 < x.refs)
    {s : ManagedSession} (hs : self.sessions[k]? = some s) (hnone : s.gdmDisplay = none) :
    Linked ks ds ((self.modifyDisplay d fun x => { x with userSession := some k }).modifySession
      k fun s => { s with gdmDisplay := some d }) := by
  have hs' : (self.modifyDisplay d fun x => { x with userSession := some k }).sessions[k]? =
      some s := hs
  have hlive : s.disposed = false := by
    obtain ⟨t, ht, hlive⟩ := h.exists_session (k := k) (by simp)
    rw [hs] at ht
    cases ht
    exact hlive
  obtain ⟨hstored, hknownDisplays, hgone⟩ := h.displays_modify hx
    (f := fun x => { x with userSession := some k }) (fun _ _ => Nat.le_refl _) (h.stored d x hx)
    fun hzero => absurd hzero (Nat.pos_iff_ne_zero.mp hrefs)
  have hother : ∀ j, j ≠ k → ks.count j ≤ (k :: ks).count j := fun _ hj =>
    Nat.le_of_eq (List.count_cons_of_ne (Ne.symm hj)).symm
  obtain ⟨hcounted, hknown, hliving⟩ := h.sessions_modify
    (f := fun s => { s with gdmDisplay := some d }) (fun _ => rfl) (fun _ => rfl) hother
    (fun t ht => by
      have hcounted := h.counted k s hs
      rw [hs] at ht
      cases ht
      rw [hnone] at hcounted
      simpa using hcounted)
    (fun t ht hdisposed => by
      rw [hs] at ht
      cases ht
      rw [hlive] at hdisposed
      cases hdisposed)
    fun _ => ⟨s, hs, hlive⟩
  refine ⟨?_, hcounted, hknown, hliving, hstored, hknownDisplays, hgone⟩
  rw [getDisplayForUserSession_modifySession hs' rfl]
  have hforth := getUserSessionForDisplay_modifyDisplay hx (some k)
  have hpaired := h.paired.link
    ((getUserSessionForDisplay_of_display hx).trans hfree)
    ((getDisplayForUserSession_of_session hs).trans hnone)
  rw [← hforth] at hpaired
  exact hpaired

theorem getElem?_concat {α : Type} {l : List α} {a b : α} {i : Nat}
    (h : (l ++ [a])[i]? = some b) : l[i]? = some b ∨ i = l.length ∧ b = a := by
  rcases Nat.lt_trichotomy i l.length with hlt | heq | hgt
  · rw [List.getElem?_append_left hlt] at h
    exact .inl h
  · subst heq
    rw [List.getElem?_concat_length] at h
    exact .inr ⟨rfl, (Option.some.inj h).symm⟩
  · rw [List.getElem?_eq_none (by simp; omega)] at h
    cases h

/-- A new session that points nowhere, with the reference of its creator; it takes
over a reference to the session that it is to reauthenticate for. -/
theorem Linked.append {s : ManagedSession} (h : Linked (s.userSession.toList ++ ks) ds self)
    (hdisplay : s.gdmDisplay = none) (hrefs : s.refs = 1) (hlive : s.disposed = false) :
    Linked (self.sessions.length :: ks) ds { self with sessions := self.sessions ++ [s] } := by
  have hcount : ∀ j,
      (ks ++ ({ self with sessions := self.sessions ++ [s] } : GdmManager).held).count j =
        (s.userSession.toList ++ ks ++ self.held).count j := by
    intro j
    have hlist : (self.sessions ++ [s]).filterMap ManagedSession.userSession =
        self.sessions.filterMap ManagedSession.userSession ++ s.userSession.toList := by
      rw [List.filterMap_append]
      cases hu : s.userSession <;> simp [hu]
    simp only [held, heldByManager, hlist, List.count_append]
    omega
  have hmem : ∀ j, j ∈ ks ++ ({ self with sessions := self.sessions ++ [s] } : GdmManager).held →
      j ∈ s.userSession.toList ++ ks ++ self.held := by
    intro j hj
    exact List.count_pos_iff.mp (hcount j ▸ List.count_pos_iff.mpr hj)
  have hnew : (s.userSession.toList ++ ks ++ self.held).count self.sessions.length = 0 := by
    rw [List.count_eq_zero]
    intro hmem'
    exact Nat.lt_irrefl _ (h.known _ hmem')
  refine ⟨?_, ?_, ?_, ?_, h.stored, h.knownDisplays, h.gone⟩
  · have hback :
        ({ self with sessions := self.sessions ++ [s] } : GdmManager).getDisplayForUserSession =
          self.getDisplayForUserSession := by
      funext j
      unfold getDisplayForUserSession
      cases hj : (self.sessions ++ [s])[j]? with
      | none =>
        have hlong := List.getElem?_eq_none_iff.mp hj
        rw [List.getElem?_eq_none (by simp at hlong; omega)]
      | some t =>
        rcases getElem?_concat hj with hold | ⟨rfl, rfl⟩
        · rw [hold]
        · simp [hdisplay]
    rw [hback]
    exact h.paired
  · intro j t ht
    rcases getElem?_concat ht with hold | ⟨rfl, rfl⟩
    · have hj := h.counted j t hold
      have hlt := (List.getElem?_eq_some_iff.mp hold).1
      rw [List.cons_append, List.count_cons_of_ne (by omega), hcount]
      exact hj
    · rw [List.cons_append, List.count_cons_self, hcount, hnew, hdisplay, hrefs]
      simp
  · intro j hj
    simp only [List.length_append, List.length_singleton]
    rcases List.mem_cons.mp hj with rfl | hj
    · exact Nat.lt_succ_self _
    · exact Nat.lt_succ_of_lt (h.known j (hmem j hj))
  · intro j t ht hgone
    rcases getElem?_concat ht with hold | ⟨rfl, rfl⟩
    · obtain ⟨hnone, hnot⟩ := h.living j t hold hgone
      refine ⟨hnone, ?_⟩
      rw [List.cons_append, List.mem_cons]
      rintro (rfl | hj)
      · exact Nat.lt_irrefl _ (List.getElem?_eq_some_iff.mp hold).1
      · exact hnot (hmem j hj)
    · rw [hlive] at hgone
      cases hgone

/-- A new display that points nowhere. -/
theorem Linked.appendDisplay (h : Linked ks ds self) {x : GdmDisplay}
    (hfree : x.userSession = none) (hrefs : x.stored.toNat ≤ x.refs) :
    Linked ks ds { self with displays := self.displays ++ [x] } := by
  refine ⟨?_, h.counted, h.known, h.living, ?_, ?_, ?_⟩
  · have hforth :
        ({ self with displays := self.displays ++ [x] } : GdmManager).getUserSessionForDisplay =
          self.getUserSessionForDisplay := by
      funext e
      unfold getUserSessionForDisplay
      cases he : (self.displays ++ [x])[e]? with
      | none =>
        have hlong := List.getElem?_eq_none_iff.mp he
        rw [List.getElem?_eq_none (by simp at hlong; omega)]
      | some y =>
        rcases getElem?_concat he with hold | ⟨rfl, rfl⟩
        · rw [hold]
        · simp [hfree]
    rw [hforth]
    exact h.paired
  · intro e y hy
    rcases getElem?_concat hy with hold | ⟨rfl, rfl⟩
    · exact h.stored e y hold
    · have hnew : (ds ++ self.lookups).count self.displays.length = 0 := by
        rw [List.count_eq_zero]
        intro hmem
        exact Nat.lt_irrefl _ (h.knownDisplays _ hmem)
      show (ds ++ self.lookups).count self.displays.length + _ ≤ _
      omega
  · intro e he
    simp only [List.length_append, List.length_singleton]
    exact Nat.lt_succ_of_lt (h.knownDisplays e he)
  · intro e y hy hzero
    rcases getElem?_concat hy with hold | ⟨rfl, rfl⟩
    · exact h.gone e y hold hzero
    · exact hfree

/-! ## What the functions of the manager keep -/

@[simp] theorem collectSession_displays : (self.collectSession k).displays = self.displays := by
  unfold GdmManager.collectSession
  split
  · rfl
  · split <;> rfl

@[simp] theorem unrefSession_displays : (self.unrefSession k).displays = self.displays :=
  collectSession_displays

theorem setUserSession_displays (v : Option Nat) : (self.setUserSession d v).displays =
    self.displays.modify d fun x => { x with userSession := v } := by
  unfold setUserSession
  split
  · rfl
  · exact unrefSession_displays

theorem Linked.setUserSession_none (h : Linked ks ds self) :
    Linked ks ds (self.setUserSession d none) := by
  unfold setUserSession
  split
  · rename_i hnone
    have hsame : (self.modifyDisplay d fun x => { x with userSession := none }) = self := by
      have hdisplays : (self.displays.modify d fun x => { x with userSession := none }) =
          self.displays := by
        refine List.ext_getElem? fun e => ?_
        rw [List.getElem?_modify]
        cases he : self.displays[e]? with
        | none => rfl
        | some x =>
          by_cases hde : d = e
          · subst hde
            rw [getUserSessionForDisplay_of_display he] at hnone
            simp [← hnone]
          · simp [hde]
      simp [GdmManager.modifyDisplay, hdisplays]
    rwa [hsame]
  · rename_i old hold
    exact (h.unlink hold).unrefSession

theorem modify_concat {α : Type} {l : List α} {a : α} {i : Nat} {f : α → α}
    (h : i < l.length) : (l ++ [a]).modify i f = l.modify i f ++ [a] := by
  refine List.ext_getElem? fun j => ?_
  rw [List.getElem?_modify]
  rcases Nat.lt_or_ge j l.length with hlt | hge
  · rw [List.getElem?_append_left hlt, List.getElem?_append_left (by simpa using hlt),
      List.getElem?_modify]
  · have hne : i ≠ j := by omega
    rw [List.getElem?_append_right hge, List.getElem?_append_right (by simpa using hge)]
    simp [hne]

theorem modify_length_concat {α : Type} {l : List α} {a : α} {f : α → α} :
    (l ++ [a]).modify l.length f = l ++ [f a] := by
  refine List.ext_getElem? fun j => ?_
  rw [List.getElem?_modify]
  rcases Nat.lt_trichotomy j l.length with hlt | rfl | hgt
  · rw [List.getElem?_append_left hlt, List.getElem?_append_left hlt]
    simp [Nat.ne_of_gt hlt]
  · simp
  · rw [List.getElem?_eq_none (by simp; omega), List.getElem?_eq_none (by simp; omega)]
    rfl

/-- A new session is joined with a display that points nowhere. -/
theorem Linked.join (h : Linked ks ds self) {x : GdmDisplay} (hx : self.displays[d]? = some x)
    (hfree : x.userSession = none) (hrefs : 0 < x.refs) {s : ManagedSession}
    (hdisplay : s.gdmDisplay = some d) (huser : s.userSession = none) (hone : s.refs = 1)
    (hlive : s.disposed = false) :
    Linked ks ds ({ self with sessions := self.sessions ++ [s] }.modifyDisplay d fun x =>
      { x with userSession := some self.sessions.length }) := by
  have happend : Linked (self.sessions.length :: ks) ds
      { self with sessions := self.sessions ++ [{ s with gdmDisplay := none }] } := by
    refine Linked.append ?_ rfl hone hlive
    simpa [huser] using h
  have hlink := happend.link hx hfree hrefs (s := { s with gdmDisplay := none })
    (by simp) rfl
  have heq : ({ s with gdmDisplay := some d } : ManagedSession) = s := by
    rw [← hdisplay]
  simpa only [GdmManager.modifyDisplay, GdmManager.modifySession, modify_length_concat, heq]
    using hlink

theorem Linked.createUserSessionForDisplay (h : Linked ks ds self) {x : GdmDisplay}
    (hx : self.displays[d]? = some x) (hrefs : 0 < x.refs) (allowedUser : Nat) :
    Linked ks ds (self.createUserSessionForDisplay around (some d) allowedUser) := by
  unfold GdmManager.createUserSessionForDisplay setUserSession
  simp only
  split
  · rename_i hnone
    have hfree := (getUserSessionForDisplay_of_display hx).symm.trans hnone
    exact h.join hx hfree hrefs rfl rfl rfl rfl
  · rename_i old hold
    have hold' : self.getUserSessionForDisplay d = some old := hold
    have hunlinked := h.unlink hold'
    have hx' : ((self.modifyDisplay d fun x => { x with userSession := none }).modifySession
        old fun s => { s with gdmDisplay := none }).displays[d]? =
          some { x with userSession := none } := by
      show (self.modifyDisplay d fun x => { x with userSession := none }).displays[d]? = _
      rw [getElem?_modifyDisplay, if_pos rfl, hx]
      rfl
    have hlt : old < self.sessions.length := by
      obtain ⟨s, hs, _⟩ := h.session_of_display hold'
      exact (List.getElem?_eq_some_iff.mp hs).1
    refine Linked.unrefSession ?_
    have hjoined := fun s hd hu hr hl => hunlinked.join hx' rfl hrefs (s := s) hd hu hr hl
    simp only [GdmManager.modifyDisplay, GdmManager.modifySession, List.modify_modify_eq,
      List.length_modify] at hjoined
    simp only [GdmManager.modifyDisplay, GdmManager.modifySession, modify_concat hlt]
    exact hjoined _ rfl rfl rfl rfl

/-- Without a display the new session points nowhere. -/
theorem Linked.createUserSessionForNone (h : Linked ks ds self) (allowedUser : Nat) :
    Linked ks ds (self.createUserSessionForDisplay around none allowedUser) := by
  unfold GdmManager.createUserSessionForDisplay
  refine Linked.forget (k := self.sessions.length) ?_
  exact Linked.append (by simpa using h) rfl rfl rfl

theorem Linked.createDisplayForUserSession (h : Linked ks ds self) {s : ManagedSession}
    (hs : self.sessions[k]? = some s) (hnone : s.gdmDisplay = none) (hlive : s.disposed = false)
    (sessionId : Option String) :
    Linked ks ds (self.createDisplayForUserSession k sessionId) := by
  unfold GdmManager.createDisplayForUserSession
  simp only [hs]
  have hkept := h.refSession hs hlive
  have hs' : (self.refSession k).sessions[k]? = some { s with refs := s.refs + 1 } :=
    getElem?_modifySession_self hs
  have hlink := fun y hfree hstored hpos =>
    (hkept.appendDisplay (x := y) hfree hstored).link (d := self.displays.length) (x := y)
      (by simp [GdmManager.refSession, GdmManager.modifySession]) hfree hpos hs' hnone
  simp only [GdmManager.refSession, GdmManager.modifySession, GdmManager.modifyDisplay,
    modify_length_concat, List.modify_modify_eq] at hlink
  exact hlink
    { isRemoteDisplay := !s.session.displayIsLocal
      remoteId := if s.session.displayIsLocal then none else s.remoteId
      remoteHostname := if s.session.displayIsLocal then none else s.session.displayHostname
      isLocal := s.session.displayIsLocal
      seatId := s.session.displaySeatId
      sessionId := sessionId
      sessionClass := "user"
      stored := true
      refs := 2 } rfl (Nat.le_succ 1) Nat.two_pos

/-! ## The end of displays -/

/-- Neither the pointers nor the references change. -/
theorem Linked.of_eq (h : Linked ks ds self) (hsessions : self'.sessions = self.sessions)
    (hdisplays : self'.displays = self.displays)
    (hheld : self'.heldByManager = self.heldByManager) (hlookups : self'.lookups = self.lookups) :
    Linked ks ds self' := by
  refine h.rearrange (congrArg _ hsessions) (congrArg _ hdisplays) ?_ ?_
  · intro j
    exact Nat.le_of_eq (by rw [hheld])
  · intro e
    exact Nat.le_of_eq (by rw [hlookups])

theorem Linked.disposeDisplay (h : Linked ks ds self) : Linked ks ds (self.disposeDisplay d) := by
  have hweak : Linked ks ds { self with
      automaticLoginDisplay := self.automaticLoginDisplay.filter (· ≠ d) } :=
    h.of_eq rfl rfl rfl rfl
  exact hweak.setUserSession_none

theorem Linked.dropDisplay (h : Linked ks (d :: ds) self)
    (hgone : ∀ x, self.displays[d]? = some x → x.refs = 1 → x.userSession = none) :
    Linked ks ds (self.modifyDisplay d fun x => { x with refs := x.refs - 1 }) := by
  have hlt := h.knownDisplays d (List.mem_cons_self ..)
  have hx := List.getElem?_eq_getElem hlt
  have hstored := h.stored d _ hx
  rw [List.cons_append, List.count_cons_self] at hstored
  refine h.recountDisplay hx (fun _ => rfl) ?_ ?_ ?_
  · intro e he
    exact Nat.le_of_eq (List.count_cons_of_ne (Ne.symm he)).symm
  · show (ds ++ self.lookups).count d + self.displays[d].stored.toNat ≤ self.displays[d].refs - 1
    omega
  · intro hzero
    have hone : self.displays[d].refs - 1 = 0 := hzero
    exact hgone _ hx (by omega)

theorem Linked.exists_display (h : Linked ks ds self) (hd : d ∈ ds ++ self.lookups) :
    ∃ x, self.displays[d]? = some x ∧ 0 < x.refs := by
  have hlt := h.knownDisplays d hd
  refine ⟨_, List.getElem?_eq_getElem hlt, ?_⟩
  have hstored := h.stored d _ (List.getElem?_eq_getElem hlt)
  have hpos := List.count_pos_iff.mpr hd
  omega

theorem Linked.unrefDisplay (h : Linked ks (d :: ds) self) :
    Linked ks ds (self.unrefDisplay d) := by
  obtain ⟨x, hx, _⟩ := h.exists_display (d := d) (by simp)
  unfold GdmManager.unrefDisplay
  simp only [hx]
  split
  · refine h.disposeDisplay.dropDisplay ?_
    intro y hy _
    rw [GdmManager.disposeDisplay, setUserSession_displays, List.getElem?_modify_eq] at hy
    obtain ⟨z, _, rfl⟩ := Option.map_eq_some_iff.mp hy
    rfl
  · rename_i hrefs
    refine h.dropDisplay ?_
    intro y hy hone
    rw [hx] at hy
    cases hy
    exact absurd hone hrefs

theorem Linked.removeDisplay (h : Linked ks ds self) : Linked ks ds (self.removeDisplay d) := by
  unfold GdmManager.removeDisplay
  split
  · exact h
  · rename_i x hx
    split
    · rename_i hstored
      refine Linked.unrefDisplay ?_
      -- the reference of the store becomes one of the handler
      have hcounted := h.stored d x hx
      rw [hstored] at hcounted
      refine h.recountDisplay hx (fun _ => rfl) ?_ ?_ (h.gone d x hx)
      · intro e he
        exact Nat.le_of_eq (List.count_cons_of_ne (Ne.symm he))
      · rw [List.cons_append, List.count_cons_self]
        exact hcounted
    · exact h

theorem Linked.onDisplayEnded (h : Linked ks ds self) : Linked ks ds (self.onDisplayEnded d) := by
  unfold GdmManager.onDisplayEnded
  split
  · exact h.setUserSession_none.of_eq rfl rfl rfl rfl
  · exact h.setUserSession_none

theorem Linked.setEndStatus (h : Linked ks ds self) (status : GdmDisplayStatus) :
    Linked ks ds (self.setEndStatus d status) := by
  unfold GdmManager.setEndStatus
  split
  · exact h
  · split
    · exact h
    · have hchanged : Linked ks ds (self.modifyDisplay d fun x => { x with status := status }) :=
        h.modifyDisplay fun _ => rfl
      split
      · exact hchanged.onDisplayEnded
      · exact hchanged

theorem Linked.unmanageDisplay (h : Linked ks ds self) : Linked ks ds (self.unmanageDisplay d) := by
  unfold GdmManager.unmanageDisplay
  split
  · exact h
  · exact h.setEndStatus _

theorem Linked.finishDisplay (h : Linked ks ds self) : Linked ks ds (self.finishDisplay d) :=
  h.setEndStatus _

end GdmManager

end Gdm
