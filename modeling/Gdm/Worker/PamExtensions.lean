import Gdm.Library.CharBuffer
import Gdm.Library.Tokens
import Mathlib.Algebra.Order.Ring.Nat

/-!
# The variable with the PAM extensions

The worker tells PAM modules which extensions of the conversation it supports in a variable of
the environment, which is kept in a block of a fixed size.  A module looks a name up in the
variable, and sends messages whose type is the place of the name in it.  The worker then checks
the type against the variable too, before it looks for the name in its own array.
-/

namespace Gdm

open Tokens

/-- `UCHAR_MAX` -/
def ucharMax : Nat := 255

def supportedPamExtensions : List Char := "GDM_SUPPORTED_PAM_EXTENSIONS".toList

/-- What `environ` has for the name of the variable: no entry, an entry of the process that has
started this one, or the block. -/
inductive PamVariable
  | unset
  | inherited (value : List Char)
  | block
  deriving DecidableEq, Repr

/-- The block, with the entry of `environ`. -/
structure PamEnvironment (size : Nat) where
  block : CharBuffer size
  entry : PamVariable

namespace PamEnvironment

variable {size : Nat}

/-- `getenv` of the variable.  An entry without `=` has no value. -/
def getenv (self : PamEnvironment size) : Option (List Char) :=
  match self.entry with
  | .unset => none
  | .inherited value => some value
  | .block =>
    if (supportedPamExtensions ++ ['=']).isPrefixOf self.block.text then
      some (self.block.text.drop (supportedPamExtensions.length + 1))
    else none

end PamEnvironment

/-! ## Advertising -/

/-- The first loop of `GDM_PAM_EXTENSION_ADVERTISE_SUPPORTED_EXTENSIONS`, with `_size` and `_t`. -/
def numChunks (sizeofBlock : Nat) : Nat → Nat → List (List Char) → Nat
  | _, t, [] => t
  | size, t, extension :: supported =>
    if t < ucharMax then
      let nextChunk := extension.length + 1
      if sizeofBlock ≤ size + nextChunk then t
      else numChunks sizeofBlock (size + nextChunk) (t + 1) supported
    else t

/-- The second loop, with `_p` and `_t`. -/
def putChunks {size : Nat} (block : CharBuffer size) :
    Nat → Nat → List (List Char) → Option (CharBuffer size × Nat)
  | p, _, [] => some (block, p)
  | p, t, extension :: supported => do
    let (block, p) ← if t ≠ 0 then block.stpcpy p [' '] else some (block, p)
    let (block, p) ← block.stpcpy p extension
    putChunks block p (t + 1) supported

/-- `GDM_PAM_EXTENSION_ADVERTISE_SUPPORTED_EXTENSIONS`.  There is no result where it writes
behind the end of the block. -/
def advertiseSupportedExtensions {size : Nat} (env : PamEnvironment size)
    (supported : List (List Char)) : Option (PamEnvironment size) := do
  let (block, p) ← env.block.stpncpy 0 supportedPamExtensions size
  let block ← block.put p '\x00'
  let chunks := numChunks size block.text.length 0 supported
  if chunks ≠ 0 then
    let (block, p) ← block.stpcpy p ['=']
    let (block, p) ← putChunks block p 0 (supported.take chunks)
    let block ← block.put p '\x00'
    some { block := block, entry := .block }
  else some { env with block := block }

/-! ## Looking up -/

def blank (c : Char) : Bool :=
  c = ' '

/-- `strncmp` finds no difference. -/
def strncmpEq (s t : List Char) (n : Nat) : Bool :=
  s.take n = t.take n

/-- The loop of `GDM_PAM_EXTENSION_LOOK_UP_TYPE`, with `_t` and `_p`. -/
def lookUpTypeFrom (name : List Char) : Nat → List Char → Option Nat
  | _, [] => none
  | t, c :: p =>
    let length := ((c :: p).takeWhile (!blank ·)).length
    if strncmpEq (c :: p) name length then some t
    else if ucharMax ≤ t then none
    else lookUpTypeFrom name (t + 1) (behindToken blank (c :: p))
termination_by _ p => p.length
decreasing_by exact length_behindToken_lt c p

/-- `GDM_PAM_EXTENSION_LOOK_UP_TYPE` -/
def lookUpType {size : Nat} (env : PamEnvironment size) (name : List Char) : Option Nat :=
  env.getenv.bind (lookUpTypeFrom name 0)

/-- `GDM_PAM_EXTENSION_SUPPORTED` -/
def pamExtensionSupported {size : Nat} (env : PamEnvironment size) (name : List Char) : Bool :=
  (lookUpType env name).isSome

/-! ## The type of a message -/

/-- The loop of `GDM_PAM_EXTENSION_MESSAGE_INVALID_TYPE`, with `_n` and `_p`. -/
def lastTypeFrom : Int → List Char → Int
  | n, [] => n
  | n, c :: p =>
    if n < ucharMax then
      let length := ((c :: p).takeWhile (!blank ·)).length
      lastTypeFrom (if 0 < length then n + 1 else n) (behindToken blank (c :: p))
    else n
termination_by _ p => p.length
decreasing_by exact length_behindToken_lt c p

/-- `GDM_PAM_EXTENSION_MESSAGE_INVALID_TYPE` -/
def messageInvalidType {size : Nat} (env : PamEnvironment size) (type : UInt8) : Bool :=
  match env.getenv with
  | none => true
  | some value => !((type.toNat : Int) ≤ lastTypeFrom (-1) value)

/-- `GDM_PAM_EXTENSION_MESSAGE_MATCH`.  There is no result where the array has no name of this
type. -/
def messageMatch (type : Nat) (supported : List (List Char)) (name : List Char) : Option Bool :=
  supported[type]?.map fun extension => extension = name

/-! ## What the block holds -/

/-- A name without spaces which is not empty.  A text has no NUL. -/
def IsExtensionName (name : List Char) : Prop :=
  name ≠ [] ∧ ' ' ∉ name ∧ '\x00' ∉ name

/-- The names, with spaces between them. -/
def joined (names : List (List Char)) : List Char :=
  [' '].intercalate names

/-- What the second loop appends. -/
def chunkText : Nat → List (List Char) → List Char
  | _, [] => []
  | t, extension :: supported =>
    (if t ≠ 0 then [' '] else []) ++ extension ++ chunkText (t + 1) supported

/-- What the names are counted with: each has a character before it. -/
def chunksSize (names : List (List Char)) : Nat :=
  (names.map fun name => name.length + 1).sum

@[simp] theorem chunksSize_nil : chunksSize [] = 0 := rfl

@[simp] theorem chunksSize_cons (name : List Char) (names : List (List Char)) :
    chunksSize (name :: names) = name.length + 1 + chunksSize names := rfl

theorem chunkText_succ (t : Nat) (names : List (List Char)) :
    chunkText (t + 1) names = names.flatMap fun name => ' ' :: name := by
  induction names generalizing t with
  | nil => rfl
  | cons name names ih => simp [chunkText, ih]

theorem chunkText_zero (names : List (List Char)) : chunkText 0 names = joined names := by
  cases names with
  | nil => rfl
  | cons name names =>
    induction names generalizing name with
    | nil => simp [chunkText, joined]
    | cons next names ih =>
      have hnext := ih next
      simp only [chunkText, chunkText_succ, joined, ne_eq, not_true_eq_false, if_false,
        List.nil_append, Nat.zero_add] at hnext ⊢
      rw [List.intercalate_cons_cons, ← hnext]
      simp

theorem length_joined {names : List (List Char)} (h : names ≠ []) :
    (joined names).length + 1 = chunksSize names := by
  obtain ⟨name, names, rfl⟩ := List.exists_cons_of_ne_nil h
  rw [← chunkText_zero]
  have hrest : ∀ names : List (List Char),
      (names.flatMap fun name => ' ' :: name).length = chunksSize names := by
    intro names
    induction names with
    | nil => rfl
    | cons name names ih =>
      simp [ih]
      omega
  simp only [chunkText, chunkText_succ, List.length_append, hrest, chunksSize_cons, ne_eq,
    not_true_eq_false, if_false, List.length_nil]
  omega

variable {size : Nat}

theorem putChunks_holds {block : CharBuffer size} {s : List Char} (hblock : block.Holds s)
    {names : List (List Char)} (hnul : ∀ name ∈ names, '\x00' ∉ name) (t : Nat)
    (hroom : s.length + (chunkText t names).length < size) :
    ∃ block', putChunks block s.length t names =
        some (block', (s ++ chunkText t names).length) ∧
      block'.Holds (s ++ chunkText t names) := by
  induction names generalizing block s t with
  | nil => exact ⟨block, by simp [putChunks, chunkText], by simpa [chunkText] using hblock⟩
  | cons name names ih =>
    have hname := hnul name (by simp)
    have hnames : ∀ name ∈ names, '\x00' ∉ name := fun name hmem =>
      hnul name (List.mem_cons_of_mem _ hmem)
    simp only [chunkText, List.length_append] at hroom
    by_cases ht : t = 0
    · subst ht
      rw [Nat.zero_add] at hroom
      obtain ⟨block', hcopy, hholds⟩ := hblock.stpcpy hname (by omega)
      obtain ⟨block'', hput, hholds'⟩ := ih hholds hnames 1 (by
        simp only [List.length_append]
        omega)
      refine ⟨block'', ?_, by simpa [chunkText] using hholds'⟩
      simp only [putChunks, ne_eq, not_true_eq_false, if_false, Option.bind_eq_bind,
        Option.bind_some, hcopy, chunkText, List.nil_append, Nat.zero_add]
      rw [hput, List.append_assoc]
    · simp only [ne_eq, ht, not_false_eq_true, if_true, List.length_singleton] at hroom
      obtain ⟨block₁, hspace, hholds₁⟩ := hblock.stpcpy (t := [' ']) (by decide) (by
        simp only [List.length_singleton]
        omega)
      obtain ⟨block', hcopy, hholds⟩ := hholds₁.stpcpy hname (by
        simp only [List.length_append, List.length_singleton]
        omega)
      obtain ⟨block'', hput, hholds'⟩ := ih hholds hnames (t + 1) (by
        simp only [List.length_append, List.length_singleton]
        omega)
      refine ⟨block'', ?_, by simpa [chunkText, ht] using hholds'⟩
      simp only [putChunks, ne_eq, ht, not_false_eq_true, if_true, Option.bind_eq_bind,
        Option.bind_some, hspace, hcopy, chunkText]
      rw [hput]
      simp only [List.append_assoc]

/-! ## How many names there is room for -/

theorem numChunks_le (sizeofBlock : Nat) (names : List (List Char)) (used t : Nat) :
    numChunks sizeofBlock used t names ≤ t + names.length := by
  induction names generalizing used t with
  | nil => simp [numChunks]
  | cons name names ih =>
    have hrest := ih (used + (name.length + 1)) (t + 1)
    simp only [numChunks, List.length_cons]
    split
    · split <;> omega
    · omega

theorem le_numChunks (sizeofBlock : Nat) (names : List (List Char)) (used t : Nat) :
    t ≤ numChunks sizeofBlock used t names := by
  induction names generalizing used t with
  | nil => simp [numChunks]
  | cons name names ih =>
    have hrest := ih (used + (name.length + 1)) (t + 1)
    simp only [numChunks]
    split
    · split <;> omega
    · exact le_refl t

/-- What has been counted fits in the block, with a NUL behind it. -/
theorem chunksSize_take_numChunks (sizeofBlock : Nat) (names : List (List Char)) {used t : Nat}
    (hused : used < sizeofBlock) :
    used + chunksSize (names.take (numChunks sizeofBlock used t names - t)) < sizeofBlock := by
  induction names generalizing used t with
  | nil => simpa [numChunks] using hused
  | cons name names ih =>
    simp only [numChunks]
    split
    · split
      · simpa using hused
      · next hfits =>
        have hle := le_numChunks sizeofBlock names (used + (name.length + 1)) (t + 1)
        have hnext := @ih (used + (name.length + 1)) (t + 1) (by omega)
        have hpos : numChunks sizeofBlock (used + (name.length + 1)) (t + 1) names - t =
            (numChunks sizeofBlock (used + (name.length + 1)) (t + 1) names - (t + 1)) + 1 := by
          omega
        rw [hpos, List.take_succ_cons, chunksSize_cons]
        omega
    · simpa using hused

/-- Where all names fit they are all counted. -/
theorem numChunks_of_fits {sizeofBlock used t : Nat} {names : List (List Char)}
    (hfits : used + chunksSize names < sizeofBlock) (hcount : t + names.length ≤ ucharMax) :
    numChunks sizeofBlock used t names = t + names.length := by
  induction names generalizing used t with
  | nil => simp [numChunks]
  | cons name names ih =>
    simp only [chunksSize_cons, List.length_cons] at hfits hcount ⊢
    rw [numChunks, if_pos (by omega)]
    simp only
    rw [if_neg (by omega), ih (by omega) (by omega)]
    omega

/-- Nothing is counted exactly if the first name does not fit. -/
theorem numChunks_eq_zero_iff {sizeofBlock used : Nat} {names : List (List Char)} :
    numChunks sizeofBlock used 0 names = 0 ↔
      ∀ name ∈ names.head?, sizeofBlock ≤ used + (name.length + 1) := by
  cases names with
  | nil => simp [numChunks]
  | cons name names =>
    have hle := le_numChunks sizeofBlock names (used + (name.length + 1)) 1
    have hchars : 0 < ucharMax := by decide
    simp only [numChunks, if_pos hchars, Nat.zero_add, List.head?_cons, Option.mem_some_iff,
      forall_eq']
    split
    · next hlarge => simpa using hlarge
    · next hfits =>
      constructor
      · intro hzero
        omega
      · intro hlarge
        exact absurd hlarge hfits

/-! ## The variable after advertising -/

/-- The number of the names that are advertised. -/
def advertisedCount (size : Nat) (names : List (List Char)) : Nat :=
  numChunks size supportedPamExtensions.length 0 names

/-- All writes are within the block, and then the block holds the names that there is room for. -/
theorem advertiseSupportedExtensions_eq (env : PamEnvironment size) {names : List (List Char)}
    (hnames : ∀ name ∈ names, IsExtensionName name) (hsize : supportedPamExtensions.length < size) :
    ∃ env', advertiseSupportedExtensions env names = some env' ∧
      (advertisedCount size names = 0 →
        env'.block.Holds supportedPamExtensions ∧ env'.entry = env.entry) ∧
      (advertisedCount size names ≠ 0 →
        env'.block.Holds (supportedPamExtensions ++ ['='] ++
            joined (names.take (advertisedCount size names))) ∧
          env'.entry = .block) := by
  have hnul : '\x00' ∉ supportedPamExtensions := by decide
  obtain ⟨block₁, hcopy, hholds₁⟩ := CharBuffer.stpncpy_holds (b := env.block) hnul hsize
  have hcount : numChunks size block₁.text.length 0 names = advertisedCount size names := by
    rw [hholds₁.text_eq]
    rfl
  unfold advertiseSupportedExtensions
  simp only [hcopy, Option.bind_eq_bind, Option.bind_some, hholds₁.put_nul, hcount]
  by_cases hzero : advertisedCount size names = 0
  · refine ⟨{ env with block := block₁ }, by simp [hzero], fun _ => ⟨hholds₁, rfl⟩, ?_⟩
    intro hne
    exact absurd hzero hne
  · have htaken : names.take (advertisedCount size names) ≠ [] := by
      have hle := numChunks_le size names supportedPamExtensions.length 0
      intro hempty
      have hlength := congrArg List.length hempty
      rw [List.length_take, List.length_nil] at hlength
      change advertisedCount size names ≤ _ at hle
      omega
    have hroom : supportedPamExtensions.length +
        chunksSize (names.take (advertisedCount size names)) < size := by
      simpa [advertisedCount] using
        chunksSize_take_numChunks size names (t := 0) hsize
    have hjoined := length_joined htaken
    obtain ⟨block₂, hequals, hholds₂⟩ := hholds₁.stpcpy (t := ['=']) (by decide) (by
      simp only [List.length_singleton]
      omega)
    have hnul' : ∀ name ∈ names.take (advertisedCount size names), '\x00' ∉ name :=
      fun name hmem => (hnames name (List.mem_of_mem_take hmem)).2.2
    obtain ⟨block₃, hchunks, hholds₃⟩ := putChunks_holds hholds₂ hnul' 0 (by
      rw [chunkText_zero, List.length_append, List.length_singleton]
      omega)
    rw [chunkText_zero] at hchunks hholds₃
    refine ⟨{ block := block₃, entry := .block }, ?_, ?_, fun _ => ⟨hholds₃, rfl⟩⟩
    · simp only [hzero, ne_eq, not_false_eq_true, if_true, hequals, Option.bind_some, hchunks,
        hholds₃.put_nul]
    · intro heq
      exact absurd heq hzero

/-- What the variable still has where nothing is advertised. -/
def PamVariable.inheritedValue : PamVariable → Option (List Char)
  | .inherited value => some value
  | _ => none

theorem getenv_of_not_advertised {env : PamEnvironment size}
    (h : env.block.Holds supportedPamExtensions) : env.getenv = env.entry.inheritedValue := by
  unfold PamEnvironment.getenv
  cases env.entry with
  | unset => rfl
  | inherited value => rfl
  | block =>
    rw [h.text_eq]
    rfl

theorem getenv_of_advertised {env : PamEnvironment size} {value : List Char}
    (h : env.block.Holds (supportedPamExtensions ++ ['='] ++ value)) (hentry : env.entry = .block) :
    env.getenv = some value := by
  unfold PamEnvironment.getenv
  simp only [hentry, h.text_eq]
  rw [if_pos (by simp)]
  congr 1

end Gdm
