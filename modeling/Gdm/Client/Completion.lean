import Gdm.Client.UserVerifier
import Mathlib.Data.List.Duplicate

/-!
# When a request is completed

The table has a placeholder for each extension whose proxy is being created, as long as no
extension is created twice.  So the request is completed with the last proxy.  Of two calls for
one extension the first that is answered takes the placeholder away.
-/

namespace Gdm

namespace VerifierRequest

open UserVerifierExtension

theorem interfaceName_injective : Function.Injective interfaceName := by
  intro a b h
  cases a with
  | choiceList =>
    cases b with
    | choiceList => rfl
    | customJSON => exact absurd h (by decide)
  | customJSON =>
    cases b with
    | choiceList => exact absurd h (by decide)
    | customJSON => rfl

theorem ofName_eq_some_iff {name : String} {extension : UserVerifierExtension} :
    ofName name = some extension ↔ extension.interfaceName = name := by
  unfold ofName
  constructor
  · intro h
    split at h
    · next hname =>
      obtain rfl := Option.some.inj h
      exact hname.symm
    · split at h
      · next hname =>
        obtain rfl := Option.some.inj h
        exact hname.symm
      · cases h
  · rintro rfl
    cases extension
    · rw [if_pos rfl]
    · rw [if_neg (by decide), if_pos rfl]

/-! ## The table -/

/-- The table has placeholders for these extensions, and nothing else. -/
def HasPlaceholders (table : ExtensionTable) (creations : List UserVerifierExtension) : Prop :=
  ∀ name value, table.lookup name = some value ↔
    value = none ∧ ∃ extension ∈ creations, extension.interfaceName = name

theorem hasPlaceholders_enableExtension {table : ExtensionTable}
    {creations : List UserVerifierExtension} (h : HasPlaceholders table creations) (name : String) :
    HasPlaceholders (enableExtension (table, creations) name).1
      (enableExtension (table, creations) name).2 := by
  intro other value
  simp only [enableExtension]
  cases hname : ofName name with
  | some extension =>
    have heq := ofName_eq_some_iff.mp hname
    by_cases hother : other = name
    · subst hother
      rw [AList.lookup_insert]
      simp [heq, eq_comm]
    · rw [AList.lookup_insert_ne hother, AList.lookup_insert_ne hother, h]
      simp only [List.mem_append, List.mem_singleton]
      constructor
      · rintro ⟨hvalue, extension', hmem, heq'⟩
        exact ⟨hvalue, extension', Or.inl hmem, heq'⟩
      · rintro ⟨hvalue, extension', hmem | rfl, heq'⟩
        · exact ⟨hvalue, extension', hmem, heq'⟩
        · exact absurd (heq'.symm.trans heq) hother
  | none =>
    by_cases hother : other = name
    · subst hother
      rw [AList.lookup_erase]
      constructor
      · intro hnone
        cases hnone
      · rintro ⟨-, extension, -, heq⟩
        rw [ofName_eq_some_iff.mpr heq] at hname
        cases hname
    · rw [AList.lookup_erase_ne hother, AList.lookup_insert_ne hother, h]

theorem foldl_enableExtension (names : List String) {table : ExtensionTable}
    {creations : List UserVerifierExtension} (h : HasPlaceholders table creations) :
    (names.foldl enableExtension (table, creations)).2 = creations ++ names.filterMap ofName ∧
      HasPlaceholders (names.foldl enableExtension (table, creations)).1
        (creations ++ names.filterMap ofName) := by
  induction names generalizing table creations with
  | nil => simpa using h
  | cons name names ih =>
    have hnext := hasPlaceholders_enableExtension h name
    have hcreations : (enableExtension (table, creations) name).2 ++ names.filterMap ofName =
        creations ++ (name :: names).filterMap ofName := by
      simp only [enableExtension, List.filterMap_cons]
      cases ofName name <;> simp
    rw [List.foldl_cons, ← hcreations]
    exact ih hnext

theorem HasPlaceholders.entries_eq_nil_iff {table : ExtensionTable}
    {creations : List UserVerifierExtension} (h : HasPlaceholders table creations) :
    table.entries = [] ↔ creations = [] := by
  constructor
  · intro hentries
    rw [List.eq_nil_iff_forall_not_mem]
    intro extension hmem
    have hlookup := (h extension.interfaceName none).mpr ⟨rfl, extension, hmem, rfl⟩
    rw [← Option.mem_def, AList.mem_lookup_iff, hentries] at hlookup
    cases hlookup
  · rintro rfl
    rw [List.eq_nil_iff_forall_not_mem]
    rintro ⟨name, value⟩ hmem
    have hlookup := (h name value).mp (AList.mem_lookup_iff.mpr hmem)
    simp at hlookup

/-! ## No extension twice -/

/-- What every answer keeps, where no supported extension is enabled twice. -/
structure Sound (state : VerifierRequest) : Prop where
  nodup : (supportedExtensions state.enabledExtensions).Nodup
  once : (state.Pending → state.completions = 0) ∧ (¬ state.Pending → state.completions = 1)
  data : state.data = true ↔ state.enablePending = true ∨ state.creations ≠ []
  verifierFirst : state.verifierPending = true →
    state.enablePending = false ∧ state.creations = [] ∧ state.succeeded = [] ∧
      state.extensions = none
  enableNext : state.enablePending = true →
    state.creations = [] ∧ state.succeeded = [] ∧ state.extensions = some ∅
  creations_nodup : state.creations.Nodup
  hasTable : state.creations ≠ [] → state.extensions.isSome
  notFreed : state.usedFreed = false
  table : ∀ name value, state.lookup name = some value ↔
    (value = none ∧ ∃ extension ∈ state.creations, extension.interfaceName = name) ∨
      ∃ extension proxy, extension.interfaceName = name ∧ value = some proxy ∧
        (extension, proxy) ∈ state.succeeded

theorem sound_start {enabledExtensions : Option (List String)}
    (h : (supportedExtensions enabledExtensions).Nodup) : Sound (start enabledExtensions) where
  nodup := h
  once := ⟨fun _ => rfl, fun hnot => absurd (Or.inl rfl) hnot⟩
  data := by simp [start]
  verifierFirst := fun _ => ⟨rfl, rfl, rfl, rfl⟩
  enableNext := fun hfalse => by cases hfalse
  creations_nodup := List.nodup_nil
  hasTable := fun hne => absurd rfl hne
  notFreed := rfl
  table := by simp [start, lookup]

variable {s : VerifierRequest}

theorem Sound.completesProperly (h : Sound s) : CompletesProperly s where
  once := h.once
  notFreed := h.notFreed
  table := by
    intro hdone name value
    have hnot : ¬ s.Pending := by
      intro hpending
      rw [h.once.1 hpending] at hdone
      cases hdone
    have hcreations : s.creations = [] := by
      by_contra hne
      exact hnot (Or.inr (Or.inr hne))
    rw [h.table, hcreations]
    simp

/-- The request is completed before any proxy is created. -/
theorem Sound.completed_without_proxies (h : Sound s) (hpending : s.Pending)
    (hcreations : s.creations = []) (hsucceeded : s.succeeded = [])
    (htable : ∀ name, s.lookup name = none) :
    Sound { s with
      verifierPending := false
      enablePending := false
      data := false
      completions := s.completions + 1 } where
  nodup := h.nodup
  once := by
    refine ⟨?_, fun _ => by rw [h.once.1 hpending]⟩
    rintro (hverifier | henable | hne)
    · cases hverifier
    · cases henable
    · exact absurd hcreations hne
  data := by simp [hcreations]
  verifierFirst := fun hfalse => by cases hfalse
  enableNext := fun hfalse => by cases hfalse
  creations_nodup := h.creations_nodup
  hasTable := h.hasTable
  notFreed := h.notFreed
  table := by
    intro name value
    have hlookup := htable name
    simp only [lookup] at hlookup
    simp [lookup, hlookup, hcreations, hsucceeded]

theorem Sound.verifierCreated (h : Sound s) (ok : Bool) :
    Sound (s.step (.verifierCreated ok)) := by
  rw [step]
  split
  · next hverifier =>
    have hpending : s.Pending := Or.inl hverifier
    obtain ⟨henable, hcreations, hsucceeded, hextensions⟩ := h.verifierFirst hverifier
    have hlookup : ∀ name, s.lookup name = none := by
      intro name
      simp [lookup, hextensions]
    have hdata : s.data = false := by
      rw [← Bool.not_eq_true, h.data]
      simp [henable, hcreations]
    have hdone : Sound { s with verifierPending := false }.taskReturn := by
      have heq := h.completed_without_proxies hpending hcreations hsucceeded hlookup
      simpa only [taskReturn, henable, hdata] using heq
    unfold onUserVerifierProxyCreated
    split
    · exact hdone
    · split
      · exact hdone
      · exact
          { nodup := h.nodup
            once := ⟨fun _ => h.once.1 hpending, fun hnot => absurd (Or.inr (Or.inl rfl)) hnot⟩
            data := by simp
            verifierFirst := fun hfalse => by cases hfalse
            enableNext := fun _ => ⟨hcreations, hsucceeded, rfl⟩
            creations_nodup := h.creations_nodup
            hasTable := fun _ => rfl
            notFreed := h.notFreed
            table := by simp [lookup, hcreations, hsucceeded] }
  · exact h

/-- The table has placeholders for the extensions that are being created, and the proxies that
have been. -/
def TableOf (table : ExtensionTable) (creations : List UserVerifierExtension)
    (succeeded : List (UserVerifierExtension × Nat)) : Prop :=
  ∀ name value, table.lookup name = some value ↔
    (value = none ∧ ∃ extension ∈ creations, extension.interfaceName = name) ∨
      ∃ extension proxy, extension.interfaceName = name ∧ value = some proxy ∧
        (extension, proxy) ∈ succeeded

section Created

variable {table : ExtensionTable} {creations : List UserVerifierExtension}
  {succeeded : List (UserVerifierExtension × Nat)} {extension : UserVerifierExtension}

/-- An extension is not created once more after it has been. -/
theorem TableOf.not_succeeded (h : TableOf table creations succeeded)
    (hmem : extension ∈ creations) (proxy : Nat) : (extension, proxy) ∉ succeeded := by
  intro hsucceeded
  have hnull := (h extension.interfaceName none).mpr (Or.inl ⟨rfl, extension, hmem, rfl⟩)
  have hproxy := (h extension.interfaceName (some proxy)).mpr
    (Or.inr ⟨extension, proxy, rfl, rfl, hsucceeded⟩)
  rw [hnull] at hproxy
  cases hproxy

theorem not_mem_erase_of_name (hnodup : creations.Nodup) {other : UserVerifierExtension}
    (hother : other ∈ creations.erase extension) :
    other.interfaceName ≠ extension.interfaceName := by
  intro heq
  obtain rfl := interfaceName_injective heq
  exact hnodup.not_mem_erase hother

theorem TableOf.erase (h : TableOf table creations succeeded) (hnodup : creations.Nodup)
    (hmem : extension ∈ creations) :
    TableOf (table.erase extension.interfaceName) (creations.erase extension) succeeded := by
  intro name value
  by_cases hname : name = extension.interfaceName
  · subst hname
    rw [AList.lookup_erase]
    constructor
    · intro hnone
      cases hnone
    · rintro (⟨-, other, hother, heq⟩ | ⟨other, proxy, heq, -, hsucceeded⟩)
      · exact absurd heq (not_mem_erase_of_name hnodup hother)
      · obtain rfl := interfaceName_injective heq
        exact absurd hsucceeded (h.not_succeeded hmem proxy)
  · rw [AList.lookup_erase_ne hname, h]
    have hcreations : (∃ other ∈ creations, other.interfaceName = name) ↔
        ∃ other ∈ creations.erase extension, other.interfaceName = name := by
      constructor
      · rintro ⟨other, hother, rfl⟩
        have hne : other ≠ extension := fun heq => hname (heq ▸ rfl)
        exact ⟨other, (List.mem_erase_of_ne hne).mpr hother, rfl⟩
      · rintro ⟨other, hother, rfl⟩
        exact ⟨other, List.mem_of_mem_erase hother, rfl⟩
    rw [hcreations]

theorem TableOf.insert (h : TableOf table creations succeeded) (hnodup : creations.Nodup)
    (hmem : extension ∈ creations) (proxy : Nat) :
    TableOf (table.insert extension.interfaceName (some proxy)) (creations.erase extension)
      (succeeded ++ [(extension, proxy)]) := by
  intro name value
  by_cases hname : name = extension.interfaceName
  · subst hname
    rw [AList.lookup_insert]
    constructor
    · intro heq
      exact Or.inr ⟨extension, proxy, rfl, (Option.some.inj heq).symm, by simp⟩
    · rintro (⟨-, other, hother, heq⟩ | ⟨other, proxy', heq, rfl, hsucceeded⟩)
      · exact absurd heq (not_mem_erase_of_name hnodup hother)
      · obtain rfl := interfaceName_injective heq
        rcases List.mem_append.mp hsucceeded with hold | hnew
        · exact absurd hold (h.not_succeeded hmem proxy')
        · obtain rfl : proxy' = proxy := by simpa using hnew
          rfl
  · rw [AList.lookup_insert_ne hname, ← AList.lookup_erase_ne hname, h.erase hnodup hmem]
    apply or_congr_right
    constructor
    · rintro ⟨other, proxy', heq, hvalue, hsucceeded⟩
      exact ⟨other, proxy', heq, hvalue, List.mem_append_left _ hsucceeded⟩
    · rintro ⟨other, proxy', heq, hvalue, hsucceeded⟩
      rcases List.mem_append.mp hsucceeded with hold | hnew
      · exact ⟨other, proxy', heq, hvalue, hold⟩
      · obtain ⟨rfl, -⟩ : other = extension ∧ proxy' = proxy := by simpa using hnew
        exact absurd heq.symm hname

theorem TableOf.hasPlaceholder_iff (h : TableOf table creations succeeded)
    (hs : s.extensions = some table) : s.hasPlaceholder = true ↔ creations ≠ [] := by
  simp only [hasPlaceholder, hs, List.any_eq_true, decide_eq_true_iff]
  constructor
  · rintro ⟨⟨name, value⟩, hentry, hnull⟩
    have hlookup := (h name value).mp (AList.mem_lookup_iff.mpr hentry)
    rcases hlookup with ⟨-, extension, hmem, -⟩ | ⟨extension, proxy, -, hproxy, -⟩
    · exact List.ne_nil_of_mem hmem
    · rw [hproxy] at hnull
      cases hnull
  · intro hne
    obtain ⟨extension, hmem⟩ := List.exists_mem_of_ne_nil _ hne
    have hlookup := (h extension.interfaceName none).mpr (Or.inl ⟨rfl, extension, hmem, rfl⟩)
    exact ⟨_, AList.mem_lookup_iff.mp hlookup, rfl⟩

/-- What is left to show of a request once its extensions have been enabled: what the table holds,
and that the task is completed where no proxy is being created. -/
theorem Sound.of_creations {request : VerifierRequest}
    (hnodup : (supportedExtensions request.enabledExtensions).Nodup)
    (hverifier : request.verifierPending = false) (henable : request.enablePending = false)
    (hfreed : request.usedFreed = false) (hextensions : request.extensions = some table)
    (hcreations : request.creations.Nodup)
    (htable : TableOf table request.creations request.succeeded)
    (hdata : request.data = true ↔ request.creations ≠ [])
    (honce : request.completions = if request.creations = [] then 1 else 0) :
    Sound request where
  nodup := hnodup
  once := by
    rw [Pending, hverifier, henable]
    by_cases hnil : request.creations = []
    · simp [hnil, honce]
    · simp [hnil, honce]
  data := by rw [hdata, henable]; simp
  verifierFirst hfirst := by
    rw [hverifier] at hfirst
    cases hfirst
  enableNext hnext := by
    rw [henable] at hnext
    cases hnext
  creations_nodup := hcreations
  hasTable _ := by rw [hextensions]; rfl
  notFreed := hfreed
  table name value := by
    rw [lookup, hextensions, Option.bind_some]
    exact htable name value

end Created

theorem Sound.extensionsEnabled (h : Sound s) (ok : Bool) :
    Sound (s.step (.extensionsEnabled ok)) := by
  rw [step]
  split
  · next henable =>
    have hpending : s.Pending := Or.inr (Or.inl henable)
    obtain ⟨hcreations, hsucceeded, hextensions⟩ := h.enableNext henable
    have hverifier : s.verifierPending = false := by
      rw [← Bool.not_eq_true]
      intro hverifier
      rw [(h.verifierFirst hverifier).1] at henable
      cases henable
    have hlookup : ∀ name, s.lookup name = none := by
      intro name
      simp [lookup, hextensions]
    have hdone : Sound
        { s with enablePending := false }.completeUserVerifierProxyOperation := by
      have heq := h.completed_without_proxies hpending hcreations hsucceeded hlookup
      simpa only [completeUserVerifierProxyOperation, taskReturn, hverifier] using heq
    unfold onUserVerifierExtensionsEnabled
    split
    · exact hdone
    · have hempty : HasPlaceholders (∅ : ExtensionTable) [] := by
        intro name value
        simp
      obtain ⟨hstarted, hplaceholders⟩ :=
        foldl_enableExtension (s.enabledExtensions.getD []) hempty
      rw [List.nil_append] at hstarted hplaceholders
      have hzero := h.once.1 hpending
      rw [hextensions, Option.getD_some, hcreations]
      generalize hfold : (s.enabledExtensions.getD []).foldl enableExtension (∅, []) = started
        at hstarted hplaceholders ⊢
      obtain ⟨table, creations⟩ := started
      have hstarted : creations = supportedExtensions s.enabledExtensions := hstarted
      have hplaceholders : HasPlaceholders table creations := by
        rw [hstarted]
        exact hplaceholders
      have htable : TableOf table creations s.succeeded := by
        intro name value
        rw [hplaceholders name value, hsucceeded]
        simp
      have hnodup : creations.Nodup := hstarted ▸ h.nodup
      simp only
      split
      · next hentries =>
        obtain rfl := hplaceholders.entries_eq_nil_iff.mp hentries
        exact .of_creations h.nodup hverifier rfl h.notFreed rfl hnodup htable
          (by simp [completeUserVerifierProxyOperation, taskReturn])
          (by simp [completeUserVerifierProxyOperation, taskReturn, hzero])
      · next hentries =>
        have hne : creations ≠ [] := fun hnil =>
          hentries (hplaceholders.entries_eq_nil_iff.mpr hnil)
        exact .of_creations h.nodup hverifier rfl h.notFreed rfl hnodup htable
          (by simp [h.data, henable, hne]) (by simp [hne, hzero])
  · exact h

/-- What is left of a request when the answer to a call has been put in the table. -/
theorem Sound.answered (h : Sound s) {extension : UserVerifierExtension}
    (hmem : extension ∈ s.creations) {table : ExtensionTable}
    {succeeded : List (UserVerifierExtension × Nat)}
    (htable : TableOf table (s.creations.erase extension) succeeded) :
    Sound { s with
      creations := s.creations.erase extension
      extensions := some table
      succeeded := succeeded }.maybeCompleteUserVerifierProxyOperation := by
  have hcreations : s.creations ≠ [] := List.ne_nil_of_mem hmem
  have hzero := h.once.1 (Or.inr (Or.inr hcreations))
  have hverifier : s.verifierPending = false := by
    rw [← Bool.not_eq_true]
    intro hverifier
    exact hcreations (h.verifierFirst hverifier).2.1
  have henable : s.enablePending = false := by
    rw [← Bool.not_eq_true]
    intro henable
    exact hcreations (h.enableNext henable).1
  have hdata : s.data = true := h.data.mpr (Or.inr hcreations)
  rw [maybeCompleteUserVerifierProxyOperation]
  split
  · next hplaceholder =>
    have hne := (htable.hasPlaceholder_iff rfl).mp hplaceholder
    exact .of_creations h.nodup hverifier henable h.notFreed rfl (h.creations_nodup.erase _) htable
      (by simp [hdata, hne]) (by simp [hne, hzero])
  · next hplaceholder =>
    have hnil : s.creations.erase extension = [] := by
      by_contra hne
      exact hplaceholder ((htable.hasPlaceholder_iff rfl).mpr hne)
    exact .of_creations h.nodup hverifier henable h.notFreed rfl (h.creations_nodup.erase _) htable
      (by simp [completeUserVerifierProxyOperation, taskReturn, hnil])
      (by simp [completeUserVerifierProxyOperation, taskReturn, hnil, hzero])

theorem Sound.proxyCreated (h : Sound s) (extension : UserVerifierExtension)
    (proxy : Option Nat) : Sound (s.step (.proxyCreated extension proxy)) := by
  rw [step]
  split
  · next hmem =>
    have hcreations : s.creations ≠ [] := List.ne_nil_of_mem hmem
    have hdata : s.data = true := h.data.mpr (Or.inr hcreations)
    obtain ⟨table, hextensions⟩ := Option.isSome_iff_exists.mp (h.hasTable hcreations)
    have htable : TableOf table s.creations s.succeeded := by
      intro name value
      rw [← h.table name value, lookup, hextensions, Option.bind_some]
    have hnot : ¬ (!s.data) = true := by simp [hdata]
    unfold onExtensionProxyCreated
    rw [if_neg hnot]
    simp only [hextensions, Option.map_some]
    cases proxy with
    | none => exact h.answered hmem (htable.erase h.creations_nodup hmem)
    | some proxy => exact h.answered hmem (htable.insert h.creations_nodup hmem proxy)
  · exact h

theorem Sound.of_step (h : Sound s) (event : VerifierEvent) : Sound (s.step event) := by
  cases event with
  | verifierCreated ok => exact h.verifierCreated ok
  | extensionsEnabled ok => exact h.extensionsEnabled ok
  | proxyCreated extension proxy => exact h.proxyCreated extension proxy

/-! ## An extension twice -/

theorem exists_placeholder_of_hasPlaceholder {table : ExtensionTable}
    (hs : s.extensions = some table) (h : s.hasPlaceholder = true) :
    ∃ name, table.lookup name = some none := by
  simp only [hasPlaceholder, hs, List.any_eq_true, decide_eq_true_iff] at h
  obtain ⟨⟨name, value⟩, hentry, rfl⟩ := h
  exact ⟨name, AList.mem_lookup_iff.mpr hentry⟩

/-- A request that is completed with a call unanswered is not completed properly. -/
theorem not_completesProperly_of_complete {extension : UserVerifierExtension}
    (hmem : extension ∈ s.creations) :
    ¬ CompletesProperly s.completeUserVerifierProxyOperation := by
  intro h
  have hpending : s.completeUserVerifierProxyOperation.Pending :=
    Or.inr (Or.inr (List.ne_nil_of_mem hmem))
  have hzero := h.once.1 hpending
  cases hzero

/-- The request once the extensions are enabled, some of which are supported. -/
def enabled (names : List String) (table : ExtensionTable) : VerifierRequest :=
  { enabledExtensions := some names
    verifierPending := false
    creations := names.filterMap ofName
    extensions := some table
    data := true }

theorem run_extensionsEnabled {names : List String} (hne : names.filterMap ofName ≠ []) :
    ∃ table, HasPlaceholders table (names.filterMap ofName) ∧
      machine.run (start (some names)) [.verifierCreated true, .extensionsEnabled true] =
        enabled names table := by
  have hempty : HasPlaceholders (∅ : ExtensionTable) [] := by
    intro name value
    simp
  obtain ⟨hstarted, hplaceholders⟩ := foldl_enableExtension names hempty
  rw [List.nil_append] at hstarted hplaceholders
  have hentries : ¬ (names.foldl enableExtension (∅, [])).1.entries = [] := fun hnil =>
    hne (hplaceholders.entries_eq_nil_iff.mp hnil)
  refine ⟨_, hplaceholders, ?_⟩
  simp [machine, start, step, onUserVerifierProxyCreated, onUserVerifierExtensionsEnabled, hentries,
    hstarted, enabled]

theorem machine_step (event : VerifierEvent) : machine.step s event = s.step event := rfl

/-- While the record is there, a proxy that has been created replaces the placeholder. -/
theorem step_proxyCreated {extension : UserVerifierExtension} {proxy : Nat}
    {table : ExtensionTable} (hmem : extension ∈ s.creations) (hdata : s.data = true)
    (hextensions : s.extensions = some table) :
    s.step (.proxyCreated extension (some proxy)) =
      { s with
        creations := s.creations.erase extension
        extensions := some (table.insert extension.interfaceName (some proxy))
        succeeded := s.succeeded ++ [(extension, proxy)]
        }.maybeCompleteUserVerifierProxyOperation := by
  have hnot : ¬ (!s.data) = true := by simp [hdata]
  rw [step, if_pos hmem, onExtensionProxyCreated, if_neg hnot]
  simp only [hextensions, Option.map_some]

theorem lookup_insert_placeholder {table : ExtensionTable} {name other : String} {proxy : Nat}
    (h : (table.insert name (some proxy)).lookup other = some none) :
    other ≠ name ∧ table.lookup other = some none := by
  by_cases hother : other = name
  · subst hother
    rw [AList.lookup_insert] at h
    cases h
  · rw [AList.lookup_insert_ne hother] at h
    exact ⟨hother, h⟩

/-- Where an extension is created twice, the request is completed too early: when there is one
proxy for each extension. -/
theorem exists_not_completesProperly {names : List String} {extension : UserVerifierExtension}
    (hcount : 2 ≤ (names.filterMap ofName).count extension) :
    ∃ events, ¬ CompletesProperly (machine.run (start (some names)) events) := by
  have hmem : extension ∈ names.filterMap ofName := List.count_pos_iff.mp (by omega)
  have hagain : extension ∈ (names.filterMap ofName).erase extension := by
    rw [← List.count_pos_iff, List.count_erase_self]
    omega
  obtain ⟨table, hplaceholders, hrun⟩ := run_extensionsEnabled (List.ne_nil_of_mem hmem)
  have hfirst : machine.run (start (some names))
      ([.verifierCreated true, .extensionsEnabled true] ++ [.proxyCreated extension (some 0)]) =
        (enabled names table).step (.proxyCreated extension (some 0)) := by
    rw [machine.run_append, hrun]
    rfl
  rw [step_proxyCreated hmem rfl rfl, maybeCompleteUserVerifierProxyOperation] at hfirst
  split at hfirst
  · -- There is a placeholder for the other extension, whose proxy completes the request.
    next hplaceholder =>
    obtain ⟨name, hname⟩ := exists_placeholder_of_hasPlaceholder rfl hplaceholder
    obtain ⟨hne, hname⟩ := lookup_insert_placeholder hname
    obtain ⟨-, other, hother, rfl⟩ := (hplaceholders name none).mp hname
    have hother' : other ≠ extension := fun heq => hne (heq ▸ rfl)
    have hleft : other ∈ (names.filterMap ofName).erase extension :=
      (List.mem_erase_of_ne hother').mpr hother
    have hsecond := machine.run_concat (start (some names))
      ([.verifierCreated true, .extensionsEnabled true] ++ [.proxyCreated extension (some 0)])
      (.proxyCreated other (some 0))
    rw [hfirst, machine_step,
      @step_proxyCreated _ other 0 (table.insert extension.interfaceName (some 0)) hleft rfl rfl,
      maybeCompleteUserVerifierProxyOperation, if_neg] at hsecond
    · have hstill : extension ∈ ((names.filterMap ofName).erase extension).erase other :=
        (List.mem_erase_of_ne hother'.symm).mpr hagain
      exact ⟨_, hsecond ▸ not_completesProperly_of_complete hstill⟩
    · intro hplaceholder'
      obtain ⟨name, hname⟩ := exists_placeholder_of_hasPlaceholder rfl hplaceholder'
      obtain ⟨hne₁, hname⟩ := lookup_insert_placeholder hname
      obtain ⟨hne₂, hname⟩ := lookup_insert_placeholder hname
      obtain ⟨-, third, -, rfl⟩ := (hplaceholders name none).mp hname
      have hthird : third ≠ other ∧ third ≠ extension :=
        ⟨fun heq => hne₁ (heq ▸ rfl), fun heq => hne₂ (heq ▸ rfl)⟩
      cases extension <;> cases other <;> cases third <;> simp at hother' hthird
  · exact ⟨_, hfirst ▸ not_completesProperly_of_complete hagain⟩

/-- The task is completed once, with the last proxy, and with exactly the proxies that could be
created in the table, whatever the answers are, exactly if no supported extension is enabled
twice. -/
theorem run_completesProperly_iff (enabledExtensions : Option (List String)) :
    (∀ events, CompletesProperly (machine.run (start enabledExtensions) events)) ↔
      (supportedExtensions enabledExtensions).Nodup := by
  constructor
  · intro h
    by_contra hnodup
    obtain ⟨extension, hduplicate⟩ := List.exists_duplicate_iff_not_nodup.mpr hnodup
    have hcount := List.duplicate_iff_two_le_count.mp hduplicate
    cases enabledExtensions with
    | none => simp [supportedExtensions] at hcount
    | some names =>
      obtain ⟨events, hevents⟩ := exists_not_completesProperly hcount
      exact hevents (h events)
  · intro hnodup events
    have hsound : Sound (machine.run (start enabledExtensions) events) :=
      machine.run_invariant Sound (fun _ event hs => hs.of_step event) events (sound_start hnodup)
    exact hsound.completesProperly

/-- With the choice list enabled twice, its first proxy completes the request and frees the
record. -/
theorem run_choiceList_twice :
    ¬ CompletesProperly (machine.run
      (start (some [choiceList.interfaceName, choiceList.interfaceName]))
      [.verifierCreated true, .extensionsEnabled true, .proxyCreated .choiceList (some 0)]) := by
  intro h
  have hcreations : (machine.run (start (some [choiceList.interfaceName, choiceList.interfaceName]))
      [.verifierCreated true, .extensionsEnabled true,
        .proxyCreated .choiceList (some 0)]).creations = [.choiceList] := by decide
  have hpending : (machine.run (start (some [choiceList.interfaceName, choiceList.interfaceName]))
      [.verifierCreated true, .extensionsEnabled true,
        .proxyCreated .choiceList (some 0)]).Pending :=
    Or.inr (Or.inr (by rw [hcreations]; exact List.cons_ne_nil _ _))
  have hzero := h.once.1 hpending
  revert hzero
  decide

end VerifierRequest

end Gdm
