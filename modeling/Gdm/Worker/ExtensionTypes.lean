import Gdm.Worker.PamExtensions

/-!
# Names and types of PAM extensions

A name is looked up as the first token of the variable that it begins with.  So it is found in
the right place only where no other name that it begins with is advertised before it.  The type
of a message is compared with the number of tokens, whoever has put them in the variable.
-/

namespace Gdm

open Tokens

/-! ## The loops -/

theorem strncmpEq_token (p name : List Char) :
    strncmpEq p name (p.takeWhile (!blank ·)).length =
      (p.takeWhile (!blank ·)).isPrefixOf name := by
  have htoken : p.take (p.takeWhile (!blank ·)).length = p.takeWhile (!blank ·) :=
    (List.prefix_iff_eq_take.mp (List.takeWhile_prefix _)).symm
  rw [strncmpEq, htoken, Bool.eq_iff_iff, decide_eq_true_iff, List.isPrefixOf_iff_prefix,
    List.prefix_iff_eq_take]

/-- The first of the tokens that are left, and the others. -/
theorem findIdx?_tokens_cons (name : List Char) (left : Nat) (c : Char) (p : List Char) :
    ((tokens blank (c :: p)).take (left + 1)).findIdx? (·.isPrefixOf name) =
      if ((c :: p).takeWhile (!blank ·)).isPrefixOf name then some 0
      else ((((tokens blank (behindToken blank (c :: p))).take left).findIdx?
        (·.isPrefixOf name)).map (· + 1)) := by
  rw [tokens_of_ne_nil (by simp), List.take_succ_cons, List.findIdx?_cons]

/-- The loop finds the first token that the name begins with, if it comes so far. -/
theorem lookUpTypeFrom_eq (name : List Char) {t : Nat} (ht : t ≤ ucharMax) (p : List Char) :
    lookUpTypeFrom name t p =
      (((tokens blank p).take (ucharMax + 1 - t)).findIdx? (·.isPrefixOf name)).map (t + ·) := by
  induction t, p using lookUpTypeFrom.induct name with
  | case1 t => simp [lookUpTypeFrom]
  | case2 t c p length hfound =>
    have hprefix : ((c :: p).takeWhile (!blank ·)).isPrefixOf name = true := by
      rw [← strncmpEq_token]
      exact hfound
    have hleft : ucharMax + 1 - t = (ucharMax - t) + 1 := by omega
    rw [lookUpTypeFrom, hleft, findIdx?_tokens_cons, if_pos hprefix]
    simp [strncmpEq_token, hprefix]
  | case3 t c p length hfound hlast =>
    have hprefix : ((c :: p).takeWhile (!blank ·)).isPrefixOf name = false := by
      rw [← strncmpEq_token]
      exact Bool.eq_false_iff.mpr hfound
    have hleft : ucharMax + 1 - t = 0 + 1 := by omega
    rw [lookUpTypeFrom, hleft, findIdx?_tokens_cons, List.take_zero]
    simp [strncmpEq_token, hprefix, hlast]
  | case4 t c p length hfound hlast ih =>
    have hprefix : ((c :: p).takeWhile (!blank ·)).isPrefixOf name = false := by
      rw [← strncmpEq_token]
      exact Bool.eq_false_iff.mpr hfound
    have hleft : ucharMax + 1 - t = (ucharMax + 1 - (t + 1)) + 1 := by omega
    rw [lookUpTypeFrom, hleft, findIdx?_tokens_cons]
    simp only [strncmpEq_token, hprefix, Bool.false_eq_true, if_false, hlast]
    rw [ih (by omega), Option.map_map]
    congr 1
    funext i
    simp only [Function.comp_apply]
    omega

/-- The last type is that of the last token which is not empty. -/
theorem lastTypeFrom_eq {n : Int} (hn : n ≤ ucharMax) (p : List Char) :
    lastTypeFrom n p =
      min (ucharMax : Int) (n + ((tokens blank p).filter (· ≠ [])).length) := by
  induction n, p using lastTypeFrom.induct with
  | case1 n =>
    simp only [lastTypeFrom, tokens_nil, List.filter_nil, List.length_nil]
    omega
  | case2 n c p hlt length ih =>
    rw [lastTypeFrom, if_pos hlt, tokens_of_ne_nil (by simp)]
    by_cases htoken : (c :: p).takeWhile (!blank ·) = []
    · have hzero : ¬ 0 < ((c :: p).takeWhile (!blank ·)).length := by simp [htoken]
      rw [dif_neg hzero] at ih
      simp only [if_neg hzero]
      rw [ih hn, List.filter_cons_of_neg (by simp [htoken])]
    · have hpos : 0 < ((c :: p).takeWhile (!blank ·)).length := List.length_pos_iff.mpr htoken
      rw [dif_pos hpos] at ih
      simp only [if_pos hpos]
      rw [ih (by omega), List.filter_cons_of_pos (by simpa using htoken), List.length_cons]
      omega
  | case3 n c p hge =>
    rw [lastTypeFrom, if_neg hge]
    omega

theorem tokens_joined {names : List (List Char)} (h : ∀ name ∈ names, IsExtensionName name) :
    tokens blank (joined names) = names := by
  apply tokens_intercalate
  · intro name hmem
    obtain ⟨hne, hspace, -⟩ := h name hmem
    refine ⟨hne, ?_⟩
    intro c hc
    have hne' : c ≠ ' ' := fun heq => hspace (heq ▸ hc)
    simpa [blank] using hne'
  · rfl

variable {size : Nat}

/-! ## Looking a name up -/

/-- All names fit in the block. -/
def FitsBlock (size : Nat) (names : List (List Char)) : Prop :=
  supportedPamExtensions.length + chunksSize names < size ∧ names.length ≤ ucharMax

/-- The names that a module finds: those that are advertised, or the first of those in a
variable that was there before. -/
def offeredNames (entry : PamVariable) (names : List (List Char)) : List (List Char) :=
  if names = [] then
    match entry.inheritedValue with
    | none => []
    | some value => (tokens blank value).take (ucharMax + 1)
  else names

/-- The name is found exactly if it is among the names, and then in its place, where no other
name is. -/
structure LooksUp (env : PamEnvironment size) (names : List (List Char)) (name : List Char) :
    Prop where
  supported : pamExtensionSupported env name = true ↔ name ∈ names
  type : ∀ t, lookUpType env name = some t → names[t]? = some name
  isMatch : ∀ t, lookUpType env name = some t → ∀ other,
    messageMatch t names other = some (decide (name = other))

theorem advertisedCount_of_fits {names : List (List Char)} (h : FitsBlock size names) :
    advertisedCount size names = names.length := by
  rw [advertisedCount, numChunks_of_fits h.1 (by simpa using h.2), Nat.zero_add]

/-- Once a list that fits is advertised, a name is looked for among the offered names. -/
theorem lookUpType_eq (env : PamEnvironment size) {names : List (List Char)}
    (hnames : ∀ name ∈ names, IsExtensionName name) (hfits : FitsBlock size names) :
    ∃ env', advertiseSupportedExtensions env names = some env' ∧
      ∀ name, lookUpType env' name =
        (offeredNames env.entry names).findIdx? (·.isPrefixOf name) := by
  have hsize : supportedPamExtensions.length < size := by
    have := hfits.1
    omega
  obtain ⟨env', hadvertise, hnone, hsome⟩ := advertiseSupportedExtensions_eq env hnames hsize
  refine ⟨env', hadvertise, ?_⟩
  intro name
  rw [advertisedCount_of_fits hfits, List.length_eq_zero_iff] at hnone
  rw [advertisedCount_of_fits hfits, List.take_length, ne_eq, List.length_eq_zero_iff] at hsome
  have hloop : ∀ p, lookUpTypeFrom name 0 p =
      ((tokens blank p).take (ucharMax + 1)).findIdx? (·.isPrefixOf name) := by
    intro p
    rw [lookUpTypeFrom_eq name (Nat.zero_le _), Nat.sub_zero]
    simp
  by_cases hempty : names = []
  · obtain ⟨hholds, hentry⟩ := hnone hempty
    rw [lookUpType, getenv_of_not_advertised hholds, hentry, offeredNames, if_pos hempty]
    cases env.entry.inheritedValue with
    | none => rfl
    | some value => exact hloop value
  · obtain ⟨hholds, hentry⟩ := hsome hempty
    have hcount : names.take (ucharMax + 1) = names :=
      List.take_of_length_le (by have := hfits.2; omega)
    rw [lookUpType, getenv_of_advertised hholds hentry, Option.bind_some, hloop,
      tokens_joined hnames, hcount, offeredNames, if_neg hempty]

theorem offeredNames_of_ne_nil {entry : PamVariable} {names : List (List Char)} (h : names ≠ []) :
    offeredNames entry names = names := by
  rw [offeredNames, if_neg h]

/-- Looking up agrees with advertising exactly if the first offered name that the name begins
with, if there is one, is advertised and is the name itself. -/
theorem looksUp_advertised_iff (env : PamEnvironment size) {names : List (List Char)}
    (hnames : ∀ name ∈ names, IsExtensionName name) (hfits : FitsBlock size names)
    (name : List Char) :
    (∃ env', advertiseSupportedExtensions env names = some env' ∧ LooksUp env' names name) ↔
      ∀ token, (offeredNames env.entry names).find? (·.isPrefixOf name) = some token →
        names ≠ [] ∧ token = name := by
  obtain ⟨env', hadvertise, hlookUp⟩ := lookUpType_eq env hnames hfits
  have hfind : (offeredNames env.entry names).find? (·.isPrefixOf name) =
      (lookUpType env' name).bind fun t => (offeredNames env.entry names)[t]? := by
    rw [hlookUp, List.find?_eq_bind_findIdx?_getElem?]
  constructor
  · rintro ⟨env'', hadvertise', hlooks⟩ token htoken
    obtain rfl : env' = env'' := by simpa [hadvertise] using hadvertise'
    rw [hfind] at htoken
    obtain ⟨t, ht, hat⟩ := Option.bind_eq_some_iff.mp htoken
    have hmem : name ∈ names := hlooks.supported.mp (by rw [pamExtensionSupported, ht]; rfl)
    have hne : names ≠ [] := List.ne_nil_of_mem hmem
    refine ⟨hne, ?_⟩
    rw [offeredNames_of_ne_nil hne, hlooks.type t ht] at hat
    exact (Option.some.inj hat).symm
  · intro h
    have htype : ∀ t, lookUpType env' name = some t → names[t]? = some name := by
      intro t ht
      have hidx := ht
      rw [hlookUp] at hidx
      obtain ⟨hin, -⟩ := List.findIdx?_eq_some_iff_getElem.mp hidx
      have hat := List.getElem?_eq_getElem hin
      obtain ⟨hne, htoken⟩ := h _ (by rw [hfind, ht, Option.bind_some, hat])
      rw [htoken, offeredNames_of_ne_nil hne] at hat
      exact hat
    refine ⟨env', hadvertise, ?_, htype, ?_⟩
    · rw [pamExtensionSupported, Option.isSome_iff_exists]
      constructor
      · rintro ⟨t, ht⟩
        exact List.mem_of_getElem? (htype t ht)
      · intro hmem
        have hself : name.isPrefixOf name = true := by simp
        rw [hlookUp, offeredNames_of_ne_nil (List.ne_nil_of_mem hmem)]
        exact ⟨_, List.findIdx?_eq_some_of_exists ⟨name, hmem, hself⟩⟩
    · intro t ht other
      rw [messageMatch, htype t ht, Option.map_some]

theorem isExtensionName_sample {names : List (List Char)} (hsub : names ⊆ [['a'], ['a', 'b']]) :
    ∀ name ∈ names, IsExtensionName name := by
  intro name hmem
  rcases List.mem_pair.mp (hsub hmem) with rfl | rfl
  · exact ⟨by decide, by decide, by decide⟩
  · exact ⟨by decide, by decide, by decide⟩

/-- A block with room for two short names, before anything is advertised. -/
def smallEnvironment (entry : PamVariable) : PamEnvironment 40 where
  block := ⟨List.replicate 40 '\x00', List.length_replicate⟩
  entry := entry

theorem looksUp_advertised_iff_second :
    (∃ env', advertiseSupportedExtensions (smallEnvironment .unset) [['a', 'b'], ['a']] =
        some env' ∧ LooksUp env' [['a', 'b'], ['a']] ['a']) ↔
      ∀ token, (offeredNames .unset [['a', 'b'], ['a']]).find? (·.isPrefixOf ['a']) = some token →
        [['a', 'b'], ['a']] ≠ [] ∧ token = ['a'] :=
  looksUp_advertised_iff (smallEnvironment .unset)
    (isExtensionName_sample (by simp)) ⟨by decide, by decide⟩ ['a']

/-- In the other order the longer name is looked up as the shorter one. -/
theorem lookUp_longer_name :
    ¬ ∃ env', advertiseSupportedExtensions (smallEnvironment .unset) [['a'], ['a', 'b']] =
        some env' ∧ LooksUp env' [['a'], ['a', 'b']] ['a', 'b'] := by
  have hnames := isExtensionName_sample (List.Subset.refl [['a'], ['a', 'b']])
  obtain ⟨env', hadvertise, hlookUp⟩ :=
    lookUpType_eq (smallEnvironment .unset) hnames ⟨by decide, by decide⟩
  rintro ⟨env'', hadvertise', hlooks⟩
  obtain rfl : env' = env'' := by simpa [hadvertise] using hadvertise'
  have hfirst : lookUpType env' ['a', 'b'] = some 0 := by
    rw [hlookUp]
    decide
  have hat := hlooks.type 0 hfirst
  revert hat
  decide

/-! ## The types of messages -/

/-- What is advertised is the start of the list, the block is ended by a NUL, and a type that is
not refused is that of a name which is advertised. -/
structure AdvertisesSafely (env : PamEnvironment size) (names : List (List Char)) : Prop where
  terminated : env.block.Terminated
  types : ∃ count ≤ names.length,
    (count ≠ 0 → env.entry = .block ∧ env.getenv = some (joined (names.take count))) ∧
    ∀ type : UInt8, messageInvalidType env type = false →
      type.toNat < count ∧ ∀ name, (messageMatch type.toNat names name).isSome

theorem messageInvalidType_eq_false_iff {env : PamEnvironment size} {value : List Char}
    (h : env.getenv = some value) (type : UInt8) :
    messageInvalidType env type = false ↔
      type.toNat < ((tokens blank value).filter (· ≠ [])).length := by
  have htype : type.toNat ≤ ucharMax := by
    have := type.toNat_lt
    simp only [ucharMax]
    omega
  rw [messageInvalidType, h]
  simp only [lastTypeFrom_eq (show (-1 : Int) ≤ ucharMax by decide), Bool.not_eq_false',
    decide_eq_true_iff]
  omega

theorem messageInvalidType_of_none {env : PamEnvironment size} (h : env.getenv = none)
    (type : UInt8) : messageInvalidType env type = true := by
  rw [messageInvalidType, h]

/-- The first name fits in the block. -/
def FirstFits (size : Nat) (names : List (List Char)) : Prop :=
  ∃ name ∈ names.head?, supportedPamExtensions.length + (name.length + 1) < size

/-- The variable was there before with at least one name in it. -/
def InheritedNames (entry : PamVariable) : Prop :=
  ∃ value token, entry = .inherited value ∧ token ∈ tokens blank value ∧ token ≠ []

theorem firstFits_iff {names : List (List Char)} :
    FirstFits size names ↔ advertisedCount size names ≠ 0 := by
  rw [advertisedCount, ne_eq, numChunks_eq_zero_iff, FirstFits]
  push Not
  rfl

theorem messageMatch_isSome_iff {type : Nat} {names : List (List Char)} {name : List Char} :
    (messageMatch type names name).isSome ↔ type < names.length := by
  simp [messageMatch]

/-- Nothing is written behind the end of the block, and the variable and the check of the types
are as they should be, exactly if something is advertised or no names were there before. -/
theorem advertisesSafely_iff (env : PamEnvironment size) {names : List (List Char)}
    (hnames : ∀ name ∈ names, IsExtensionName name) (hsize : supportedPamExtensions.length < size) :
    (∃ env', advertiseSupportedExtensions env names = some env' ∧ AdvertisesSafely env' names) ↔
      FirstFits size names ∨ ¬ InheritedNames env.entry := by
  obtain ⟨env', hadvertise, hnone, hsome⟩ := advertiseSupportedExtensions_eq env hnames hsize
  have hle : advertisedCount size names ≤ names.length := by
    simpa [advertisedCount] using numChunks_le size names supportedPamExtensions.length 0
  rw [firstFits_iff]
  constructor
  · rintro ⟨env'', hadvertise', hsafe⟩
    obtain rfl : env' = env'' := by simpa [hadvertise] using hadvertise'
    by_contra hnot
    obtain ⟨hzero, value, token, hentry, htoken, hne⟩ := by simpa [not_or] using hnot
    obtain ⟨hholds, hsame⟩ := hnone hzero
    have hgetenv : env'.getenv = some value := by
      rw [getenv_of_not_advertised hholds, hsame, hentry]
      rfl
    -- The first type is accepted, so something would have to be advertised.
    have hvalid : messageInvalidType env' 0 = false := by
      rw [messageInvalidType_eq_false_iff hgetenv]
      exact List.length_pos_of_mem (List.mem_filter.mpr ⟨htoken, by simpa using hne⟩)
    obtain ⟨count, -, hcount, htypes⟩ := hsafe.types
    have hpos := (htypes 0 hvalid).1
    obtain ⟨hblock, -⟩ := hcount (by omega)
    rw [hsame, hentry] at hblock
    cases hblock
  · intro h
    refine ⟨env', hadvertise, ?_⟩
    by_cases hzero : advertisedCount size names = 0
    · obtain ⟨hholds, hsame⟩ := hnone hzero
      have hinherited := h.resolve_left (fun hne => hne hzero)
      refine ⟨hholds.terminated, 0, Nat.zero_le _, fun hne => absurd rfl hne, ?_⟩
      intro type htype
      exfalso
      have hgetenv := getenv_of_not_advertised hholds
      rw [hsame] at hgetenv
      cases hentry : env.entry with
      | unset =>
        rw [hentry] at hgetenv
        rw [messageInvalidType_of_none hgetenv] at htype
        cases htype
      | block =>
        rw [hentry] at hgetenv
        rw [messageInvalidType_of_none hgetenv] at htype
        cases htype
      | inherited value =>
        rw [hentry] at hgetenv
        rw [messageInvalidType_eq_false_iff hgetenv] at htype
        obtain ⟨token, htoken⟩ := List.exists_mem_of_length_pos (Nat.zero_lt_of_lt htype)
        obtain ⟨hmem, hne⟩ := List.mem_filter.mp htoken
        exact hinherited ⟨value, token, hentry, hmem, by simpa using hne⟩
    · obtain ⟨hholds, hentry⟩ := hsome hzero
      have hgetenv := getenv_of_advertised hholds hentry
      refine ⟨hholds.terminated, advertisedCount size names, hle, fun _ => ⟨hentry, hgetenv⟩, ?_⟩
      intro type htype
      have htaken : ∀ name ∈ names.take (advertisedCount size names), IsExtensionName name :=
        fun name hmem => hnames name (List.mem_of_mem_take hmem)
      have hall : ∀ name ∈ names.take (advertisedCount size names),
          (decide (name ≠ [])) = true := fun name hmem => by simpa using (htaken name hmem).1
      rw [messageInvalidType_eq_false_iff hgetenv, tokens_joined htaken,
        List.filter_eq_self.mpr hall, List.length_take, Nat.min_eq_left hle] at htype
      exact ⟨htype, fun name => messageMatch_isSome_iff.mpr (by omega)⟩

theorem advertisesSafely_iff_one :
    (∃ env', advertiseSupportedExtensions (smallEnvironment .unset) [['a']] = some env' ∧
        AdvertisesSafely env' [['a']]) ↔
      FirstFits 40 [['a']] ∨ ¬ InheritedNames .unset :=
  advertisesSafely_iff (smallEnvironment .unset) (isExtensionName_sample (by simp)) (by decide)

/-- Where nothing is advertised, a message of the first type is not refused when the variable
was there before. -/
theorem type_of_inherited_name :
    ¬ ∃ env', advertiseSupportedExtensions (smallEnvironment (.inherited ['a'])) [] = some env' ∧
        AdvertisesSafely env' [] := by
  have hnames : ∀ name ∈ ([] : List (List Char)), IsExtensionName name := by simp
  obtain ⟨env', hadvertise, hnone, -⟩ :=
    advertiseSupportedExtensions_eq (smallEnvironment (.inherited ['a'])) hnames (by decide)
  obtain ⟨hholds, hsame⟩ := hnone rfl
  rintro ⟨env'', hadvertise', hsafe⟩
  obtain rfl : env' = env'' := by simpa [hadvertise] using hadvertise'
  have hgetenv : env'.getenv = some ['a'] := by
    rw [getenv_of_not_advertised hholds, hsame]
    rfl
  have htokens : tokens blank ['a'] = [['a']] :=
    tokens_eq_singleton (by decide) (by simp [blank])
  have hvalid : messageInvalidType env' 0 = false := by
    rw [messageInvalidType_eq_false_iff hgetenv, htokens]
    decide
  obtain ⟨count, hcount, -, htypes⟩ := hsafe.types
  have hpos := (htypes 0 hvalid).1
  rw [List.length_nil] at hcount
  omega

end Gdm
