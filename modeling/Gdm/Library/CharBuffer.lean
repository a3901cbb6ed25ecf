import Mathlib.Data.List.Basic

/-!
# Buffers of a fixed size

A text is kept in a buffer of a fixed size and ended by a NUL.  The copying functions take no
notice of the size, so a write behind the end of the buffer is a failure here.
-/

/-- So many characters, whatever they are. -/
structure CharBuffer (size : Nat) where
  cells : List Char
  length_cells : cells.length = size

namespace CharBuffer

variable {size : Nat} (b : CharBuffer size)

/-- One character is written, if it is written within the buffer. -/
def put (i : Nat) (c : Char) : Option (CharBuffer size) :=
  if i < size then some ⟨b.cells.set i c, by simp [b.length_cells]⟩ else none

/-- Characters are written one after the other. -/
def write (b : CharBuffer size) (i : Nat) : List Char → Option (CharBuffer size)
  | [] => some b
  | c :: s => (b.put i c).bind fun b => b.write (i + 1) s

/-- Copies a text and the NUL behind it.  The result is where the NUL is. -/
def stpcpy (p : Nat) (s : List Char) : Option (CharBuffer size × Nat) :=
  (b.write p (s ++ ['\x00'])).map fun b => (b, p + s.length)

/-- Copies as much of a text as there is room for, and fills up the rest with NULs.  The result
is where the first of them is, or the end. -/
def stpncpy (p : Nat) (s : List Char) (n : Nat) : Option (CharBuffer size × Nat) :=
  (b.write p (s.take n ++ List.replicate (n - s.length) '\x00')).map
    fun b => (b, p + (s.take n).length)

/-- The text before the first NUL. -/
def text : List Char :=
  b.cells.takeWhile (· ≠ '\x00')

/-- The text that begins at some place, before the first NUL behind it. -/
def textAt (i : Nat) : List Char :=
  (b.cells.drop i).takeWhile (· ≠ '\x00')

/-- There is a NUL in the buffer. -/
def Terminated : Prop :=
  '\x00' ∈ b.cells

/-- The buffer has this text, and a NUL behind it. -/
def Holds (s : List Char) : Prop :=
  '\x00' ∉ s ∧ ∃ rest, b.cells = s ++ '\x00' :: rest

variable {b}

theorem textAt_eq {front s rest : List Char} (hcells : b.cells = front ++ (s ++ '\x00' :: rest))
    (hs : '\x00' ∉ s) : b.textAt front.length = s := by
  have hall : ∀ c ∈ s, (c ≠ '\x00' : Bool) = true := by
    intro c hc
    have hne : c ≠ '\x00' := fun heq => hs (heq ▸ hc)
    simpa using hne
  rw [textAt, hcells, List.drop_left, List.takeWhile_append_of_pos hall]
  simp

theorem Holds.terminated {s : List Char} (h : b.Holds s) : b.Terminated := by
  obtain ⟨-, rest, hcells⟩ := h
  simp [Terminated, hcells]

theorem Holds.text_eq {s : List Char} (h : b.Holds s) : b.text = s := by
  obtain ⟨hnul, rest, hcells⟩ := h
  have hall : ∀ c ∈ s, (c ≠ '\x00' : Bool) = true := by
    intro c hc
    have hne : c ≠ '\x00' := fun heq => hnul (heq ▸ hc)
    simpa using hne
  rw [text, hcells, List.takeWhile_append_of_pos hall]
  simp

theorem Holds.length_lt {s : List Char} (h : b.Holds s) : s.length < size := by
  obtain ⟨-, rest, hcells⟩ := h
  rw [← b.length_cells, hcells]
  simp

/-- What is written takes the place of as many characters. -/
theorem write_eq {front old rest : List Char} (s : List Char)
    (hcells : b.cells = front ++ old ++ rest) (hlength : s.length = old.length) :
    ∃ b', b.write front.length s = some b' ∧ b'.cells = front ++ s ++ rest := by
  induction s generalizing b front old with
  | nil =>
    obtain rfl := List.length_eq_zero_iff.mp hlength.symm
    exact ⟨b, rfl, hcells⟩
  | cons c s ih =>
    obtain ⟨d, old, rfl⟩ := List.exists_cons_of_length_eq_add_one hlength.symm
    have hin : front.length < size := by
      rw [← b.length_cells, hcells]
      simp
    have hset : b.cells.set front.length c = (front ++ [c]) ++ old ++ rest := by
      rw [hcells]
      simp
    obtain ⟨b', hwrite, hcells'⟩ :=
      @ih ⟨b.cells.set front.length c, by simp [b.length_cells]⟩ _ _ hset (by simpa using hlength)
    refine ⟨b', ?_, by simpa using hcells'⟩
    rw [write, put, if_pos hin, Option.bind_some, ← hwrite, List.length_append,
      List.length_singleton]

/-- A text is copied behind the text that the buffer has. -/
theorem Holds.stpcpy {s t : List Char} (h : b.Holds s) (ht : '\x00' ∉ t)
    (hroom : s.length + t.length < size) :
    ∃ b', b.stpcpy s.length t = some (b', (s ++ t).length) ∧ b'.Holds (s ++ t) := by
  obtain ⟨hs, rest, hcells⟩ := h
  have hlength := b.length_cells
  have hsplit : b.cells = s ++ ('\x00' :: rest).take (t.length + 1) ++
      ('\x00' :: rest).drop (t.length + 1) := by
    rw [hcells, List.append_assoc, List.take_append_drop]
  rw [hcells] at hlength
  simp only [List.length_append, List.length_cons] at hlength
  obtain ⟨b', hwrite, hcells'⟩ := write_eq (t ++ ['\x00']) hsplit (by
    simp only [List.length_append, List.length_take, List.length_cons, List.length_nil]
    omega)
  refine ⟨b', ?_, by simp [hs, ht], ('\x00' :: rest).drop (t.length + 1), by simp [hcells']⟩
  rw [CharBuffer.stpcpy, hwrite, Option.map_some, List.length_append]

/-- A text that is shorter than the buffer is copied to its start. -/
theorem stpncpy_holds {s : List Char} (hs : '\x00' ∉ s) (hroom : s.length < size) :
    ∃ b', b.stpncpy 0 s size = some (b', s.length) ∧ b'.Holds s := by
  have htake : s.take size = s := List.take_of_length_le (by omega)
  have hfill : size - s.length = (size - s.length - 1) + 1 := by omega
  obtain ⟨b', hwrite, hcells⟩ := @write_eq _ b [] b.cells []
    (s ++ List.replicate (size - s.length) '\x00') (by simp) (by
      simp only [List.length_append, List.length_replicate, b.length_cells]
      omega)
  refine ⟨b', ?_, hs, List.replicate (size - s.length - 1) '\x00', ?_⟩
  · rw [stpncpy, htake, Nat.zero_add]
    rw [List.length_nil] at hwrite
    rw [hwrite, Option.map_some]
  · rw [hcells, hfill, List.replicate_succ]
    simp

/-- To write the NUL once more behind the text changes nothing. -/
theorem Holds.put_nul {s : List Char} (h : b.Holds s) : b.put s.length '\x00' = some b := by
  have hin := h.length_lt
  obtain ⟨-, rest, hcells⟩ := h
  have hset : b.cells.set s.length '\x00' = b.cells := by
    rw [hcells]
    simp
  simp only [put, if_pos hin, hset]

end CharBuffer
