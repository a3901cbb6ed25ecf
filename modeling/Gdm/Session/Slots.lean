import Gdm.Session.Images

/-!
# The slots of conversations

A conversation keeps the invocation it was started for and the query it has to
answer in one slot each.  This module says what the moves do to such a slot,
whichever it is.
-/

namespace Gdm

namespace GdmSession

variable {self self' : GdmSession} {slot : Conversation → Option Nat}

/-- The conversation `id` keeps the ticket `t` in the slot. -/
def Held (slot : Conversation → Option Nat) (s : GdmSession) (id t : Nat) : Prop :=
  ∃ c ∈ s.conversations, c.id = id ∧ slot c = some t

theorem held_iff_mem {id t : Nat} :
    Held slot self id t ↔ (id, some t) ∈ self.conversations.map fun c => (c.id, slot c) := by
  simp only [Held, List.mem_map, Prod.mk.injEq]

/-- Nothing has happened to the slots. -/
theorem held_of_map (h : (self'.conversations.map fun c => (c.id, slot c)) =
    self.conversations.map fun c => (c.id, slot c)) (id t : Nat) :
    Held slot self' id t ↔ Held slot self id t := by
  rw [held_iff_mem, held_iff_mem, h]

theorem held_of_same (h : self'.conversations = self.conversations) (id t : Nat) :
    Held slot self' id t ↔ Held slot self id t :=
  held_of_map (by rw [h]) id t

/-- Conversations with nothing in the slot have left the table. -/
theorem held_of_filter {q : Conversation → Bool}
    (h : self'.conversations = self.conversations.filter q)
    (hgone : ∀ c ∈ self.conversations, q c = false → slot c = none) (id t : Nat) :
    Held slot self' id t ↔ Held slot self id t := by
  unfold Held
  rw [h]
  constructor
  · rintro ⟨c, hc, hid, hslot⟩
    exact ⟨c, (List.mem_filter.mp hc).1, hid, hslot⟩
  · rintro ⟨c, hc, hid, hslot⟩
    refine ⟨c, List.mem_filter.mpr ⟨hc, ?_⟩, hid, hslot⟩
    cases hkeep : q c with
    | true => rfl
    | false =>
      rw [hgone c hc hkeep] at hslot
      cases hslot

theorem held_inserted {serviceName : String} {pid : Int}
    (hgone : ∀ c ∈ self.conversations, c.serviceName = serviceName → slot c = none)
    (hfresh : slot { id := self.nextConversation, serviceName := serviceName, workerPid := pid } =
      none) (id t : Nat) :
    Held slot (self.inserted serviceName pid) id t ↔ Held slot self id t := by
  constructor
  · rintro ⟨c, hc, hid, hslot⟩
    rcases mem_inserted.mp hc with ⟨hc, _⟩ | rfl
    · exact ⟨c, hc, hid, hslot⟩
    · rw [hfresh] at hslot
      cases hslot
  · rintro ⟨c, hc, hid, hslot⟩
    refine ⟨c, mem_inserted.mpr (.inl ⟨hc, ?_⟩), hid, hslot⟩
    intro hname
    rw [hgone c hc hname] at hslot
    cases hslot

/-- The conversation keeps something in the slot from now on. -/
theorem held_set (hw : WellFormed self) {c : Conversation} (hc : c ∈ self.conversations)
    {f : Conversation → Conversation} {t : Nat}
    (h : self'.conversations = self.conversations.map fun d => if d.id = c.id then f d else d)
    (hid : ∀ d, (f d).id = d.id) (hfree : slot c = none) (hset : slot (f c) = some t)
    (j u : Nat) : Held slot self' j u ↔ Held slot self j u ∨ j = c.id ∧ u = t := by
  unfold Held
  rw [h]
  constructor
  · rintro ⟨d', hd', hj, hslot⟩
    obtain ⟨d, hd, rfl⟩ := List.mem_map.mp hd'
    by_cases hdc : d.id = c.id
    · have heq : d = c := hw.eq_of_id hd hc hdc
      subst heq
      simp only [if_true] at hj hslot
      rw [hset] at hslot
      exact .inr ⟨hj.symm.trans (hid d), (Option.some.inj hslot).symm⟩
    · rw [if_neg hdc] at hj hslot
      exact .inl ⟨d, hd, hj, hslot⟩
  · rintro (⟨d, hd, hj, hslot⟩ | ⟨rfl, rfl⟩)
    · refine ⟨d, List.mem_map.mpr ⟨d, hd, ?_⟩, hj, hslot⟩
      rw [if_neg]
      intro hdc
      rw [hw.eq_of_id hd hc hdc, hfree] at hslot
      cases hslot
    · exact ⟨f c, List.mem_map.mpr ⟨c, hc, by simp⟩, hid c, hset⟩

/-- The conversation keeps nothing in the slot any more. -/
theorem held_clear {id : Nat} {f : Conversation → Conversation}
    (h : self'.conversations = self.conversations.map fun d => if d.id = id then f d else d)
    (hclear : ∀ d, slot (f d) = none) (j u : Nat) :
    Held slot self' j u ↔ Held slot self j u ∧ j ≠ id := by
  unfold Held
  rw [h]
  constructor
  · rintro ⟨d', hd', hj, hslot⟩
    obtain ⟨d, hd, rfl⟩ := List.mem_map.mp hd'
    by_cases hdc : d.id = id
    · rw [if_pos hdc, hclear] at hslot
      cases hslot
    · rw [if_neg hdc] at hj hslot
      exact ⟨⟨d, hd, hj, hslot⟩, fun hjid => hdc (hj.trans hjid)⟩
  · rintro ⟨⟨d, hd, hj, hslot⟩, hne⟩
    refine ⟨d, List.mem_map.mpr ⟨d, hd, ?_⟩, hj, hslot⟩
    rw [if_neg]
    exact fun hdc => hne (hj.symm.trans hdc)

end GdmSession

end Gdm
