import Mathlib.Data.List.Basic
import Mathlib.Data.List.TakeWhile

/-!
# Blocks of memory

A memory that only grows: its blocks are strings, and records that begin with some bytes and point
to a string.  A block is cleared as far as its first NUL, the way a string is.
-/

namespace Blocks

/-- A block of memory: a string with its NUL, or the fixed part of a record, with the address of
the string that it points to. -/
inductive Block
  | string (bytes : List UInt8)
  | record (bytes : List UInt8) (pointer : Option Nat)
  deriving DecidableEq, Repr

/-- The blocks, by their addresses. -/
abbrev Memory := List Block

/-- The block of a string. -/
def Block.ofString (s : List UInt8) : Block :=
  .string (s ++ [0])

/-- `strlen` -/
def strlen (bytes : List UInt8) : Nat :=
  (bytes.takeWhile (· ≠ 0)).length

/-- `memset` to zero of as many bytes as `strlen` says. -/
def clearBytes (bytes : List UInt8) : List UInt8 :=
  List.replicate (strlen bytes) 0 ++ bytes.drop (strlen bytes)

def Block.clear : Block → Block
  | .string bytes => .string (clearBytes bytes)
  | .record bytes pointer => .record (clearBytes bytes) pointer

namespace Memory

/-- The block at an address is cleared. -/
def clear (memory : Memory) (address : Nat) : Memory :=
  memory.modify address Block.clear

/-- The strings of the memory have nothing but zeros. -/
def Wiped (memory : Memory) : Prop :=
  ∀ bytes, .string bytes ∈ memory → ∀ b ∈ bytes, b = 0

end Memory

/-! ## Strings -/

theorem strlen_string {s : List UInt8} (hs : 0 ∉ s) : strlen (s ++ [0]) = s.length := by
  have hall : ∀ b ∈ s, decide (b ≠ 0) = true := by
    intro b hb
    rw [decide_eq_true_iff]
    rintro rfl
    exact hs hb
  rw [strlen, List.takeWhile_append_of_pos hall]
  simp

/-- Of a string nothing is left. -/
theorem clear_ofString {s : List UInt8} (hs : 0 ∉ s) :
    (Block.ofString s).clear = .string (List.replicate (s.length + 1) 0) := by
  rw [Block.ofString, Block.clear, clearBytes, strlen_string hs, List.drop_left,
    List.replicate_succ']

/-- A record that begins with a NUL is left as it is. -/
theorem clear_record_zero (bytes : List UInt8) (pointer : Option Nat) :
    (Block.record (0 :: bytes) pointer).clear = .record (0 :: bytes) pointer := by
  simp [Block.clear, clearBytes, strlen]

/-! ## Memories -/

namespace Memory

theorem clear_append_cons (before after : Memory) (block : Block) :
    clear (before ++ block :: after) before.length = before ++ block.clear :: after := by
  induction before with
  | nil => rfl
  | cons first before ih => exact congrArg (first :: ·) ih

theorem wiped_append {before after : Memory} :
    (before ++ after).Wiped ↔ before.Wiped ∧ after.Wiped := by
  constructor
  · intro h
    exact ⟨fun bytes hmem => h bytes (List.mem_append_left _ hmem),
      fun bytes hmem => h bytes (List.mem_append_right _ hmem)⟩
  · rintro ⟨hbefore, hafter⟩ bytes hmem
    rcases List.mem_append.mp hmem with hmem | hmem
    · exact hbefore bytes hmem
    · exact hafter bytes hmem

@[simp] theorem wiped_nil : Wiped [] := by
  intro bytes hmem
  cases hmem

@[simp] theorem wiped_record_cons (bytes : List UInt8) (pointer : Option Nat) (memory : Memory) :
    Wiped (.record bytes pointer :: memory) ↔ memory.Wiped := by
  simp [Wiped]

@[simp] theorem wiped_string_cons (bytes : List UInt8) (memory : Memory) :
    Wiped (.string bytes :: memory) ↔ (∀ b ∈ bytes, b = 0) ∧ memory.Wiped := by
  simp only [Wiped, List.mem_cons, Block.string.injEq]
  constructor
  · intro h
    exact ⟨h bytes (.inl rfl), fun bytes' hmem => h bytes' (.inr hmem)⟩
  · rintro ⟨hfirst, hrest⟩ bytes' (rfl | hmem)
    · exact hfirst
    · exact hrest bytes' hmem

end Memory

end Blocks
