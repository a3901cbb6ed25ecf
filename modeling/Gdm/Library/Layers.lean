import Mathlib.Data.List.Basic

/-!
# Layers of values

A layer has values for some of the keys.  In the merged map a key has the value of the
uppermost layer that has one.
-/

universe u v

namespace Layers

variable {κ : Type u} {ν : Type v}

/-- The layer without values. -/
def empty : κ → Option ν := fun _ => none

/-- One layer over another one. -/
def overlay (upper lower : κ → Option ν) : κ → Option ν :=
  fun key => (upper key).or (lower key)

/-- All layers, the uppermost one first. -/
def merge (layers : List (κ → Option ν)) : κ → Option ν :=
  layers.foldr overlay empty

variable {upper lower : κ → Option ν} {layers rest : List (κ → Option ν)} {key : κ}

@[simp] theorem merge_nil : merge [] key = (none : Option ν) := rfl

@[simp] theorem merge_cons : merge (upper :: layers) key = (upper key).or (merge layers key) := rfl

theorem merge_append : merge (layers ++ rest) key = (merge layers key).or (merge rest key) := by
  induction layers with
  | nil => rfl
  | cons upper layers ih => rw [List.cons_append, merge_cons, merge_cons, ih, Option.or_assoc]

end Layers
