import Mathlib.Order.MinMax
import Rollout.Proofs.Deploy.Resolution
import Rollout.Proofs.Template.Pieces

/-!
# How deep values go

To write a value, the lists and maps in it are entered inside one another, so this goes as deep as
they are nested, unless an integer with too many digits ends it before.  Where a template or a
parameter goes deep, it is for a property, or for a value that the parameter is made of.
-/

namespace Rollout

/-! ### Values -/

namespace Value

mutual

/-- How many lists and maps there are inside one another in a value. -/
def depth : Value → Nat
  | .list items => depth.items items + 1
  | .map entries => depth.entries entries + 1
  | _ => 0

/-- How many lists and maps there are inside one another in a list of values. -/
def depth.items : List Value → Nat
  | [] => 0
  | v :: rest => max (depth v) (depth.items rest)

/-- How many lists and maps there are inside one another in the entries of a map. -/
def depth.entries : List (String × Value) → Nat
  | [] => 0
  | (_, v) :: rest => max (depth v) (depth.entries rest)

end

mutual

/-- No more is entered than there is. -/
theorem lt_depth_of_exceeds :
    ∀ (levels : Nat) (v : Value), v.exceeds levels = true → levels < v.depth
  | _, .null, h | _, .bool _, h | _, .int _, h | _, .float _, h | _, .text _, h
  | _, .fragment _, h => by
      rw [exceeds.eq_def] at h
      cases h
  | 0, .list _, _ | 0, .map _, _ => Nat.succ_pos _
  | levels + 1, .list items, h => by
      rw [exceeds] at h
      rw [depth]
      apply Nat.succ_lt_succ (lt_depth_of_exceeds_items levels items h)
  | levels + 1, .map entries, h => by
      rw [exceeds] at h
      rw [depth]
      apply Nat.succ_lt_succ (lt_depth_of_exceeds_entries levels entries h)

theorem lt_depth_of_exceeds_items :
    ∀ (levels : Nat) (items : List Value), exceeds.items levels items = true →
      levels < depth.items items
  | _, [], h => by
      rw [exceeds.items] at h
      cases h
  | levels, v :: rest, h => by
      rw [exceeds.items, Bool.or_eq_true, Bool.and_eq_true] at h
      rw [depth.items, lt_max_iff]
      exact h.imp (lt_depth_of_exceeds levels v)
        (fun h => lt_depth_of_exceeds_items levels rest h.2)

theorem lt_depth_of_exceeds_entries :
    ∀ (levels : Nat) (entries : List (String × Value)), exceeds.entries levels entries = true →
      levels < depth.entries entries
  | _, [], h => by
      rw [exceeds.entries] at h
      cases h
  | levels, (_, v) :: rest, h => by
      rw [exceeds.entries, Bool.or_eq_true, Bool.and_eq_true] at h
      rw [depth.entries, lt_max_iff]
      exact h.imp (lt_depth_of_exceeds levels v)
        (fun h => lt_depth_of_exceeds_entries levels rest h.2)

end

mutual

/-- Everything is entered, unless an integer has too many digits. -/
theorem exceeds_of_lt_depth :
    ∀ (v : Value) (levels : Nat), v.hasLongInteger = false → levels < v.depth →
      v.exceeds levels = true
  | .null | .bool _ | .int _ | .float _ | .text _ | .fragment _ => by
      intro levels _ h
      rw [depth.eq_def] at h
      cases h
  | .list items => by
      intro levels hshort h
      rw [hasLongInteger, toJson, Json.hasLongInteger] at hshort
      rw [depth] at h
      cases levels with
      | zero => rw [exceeds]
      | succ levels =>
        rw [exceeds]
        apply exceeds_items_of_lt_depth items levels hshort (Nat.lt_of_succ_lt_succ h)
  | .map entries => by
      intro levels hshort h
      rw [hasLongInteger, toJson, Json.hasLongInteger] at hshort
      rw [depth] at h
      cases levels with
      | zero => rw [exceeds]
      | succ levels =>
        rw [exceeds]
        apply exceeds_entries_of_lt_depth entries levels hshort (Nat.lt_of_succ_lt_succ h)

theorem exceeds_items_of_lt_depth :
    ∀ (items : List Value) (levels : Nat), Json.hasLongInteger.items (toJson.items items) = false →
      levels < depth.items items → exceeds.items levels items = true
  | [] => by
      intro levels _ h
      rw [depth.items] at h
      cases h
  | v :: rest => by
      intro levels hshort h
      rw [toJson.items, Json.hasLongInteger.items, Bool.or_eq_false_iff] at hshort
      rw [depth.items, lt_max_iff] at h
      rw [exceeds.items, hasLongInteger, hshort.1, Bool.not_false, Bool.true_and, Bool.or_eq_true]
      exact h.imp (exceeds_of_lt_depth v levels hshort.1)
        (exceeds_items_of_lt_depth rest levels hshort.2)

theorem exceeds_entries_of_lt_depth :
    ∀ (entries : List (String × Value)) (levels : Nat),
      Json.hasLongInteger.members (toJson.entries entries) = false →
      levels < depth.entries entries → exceeds.entries levels entries = true
  | [] => by
      intro levels _ h
      rw [depth.entries] at h
      cases h
  | (_, v) :: rest => by
      intro levels hshort h
      rw [toJson.entries, Json.hasLongInteger.members, Bool.or_eq_false_iff] at hshort
      rw [depth.entries, lt_max_iff] at h
      rw [exceeds.entries, hasLongInteger, hshort.1, Bool.not_false, Bool.true_and,
        Bool.or_eq_true]
      exact h.imp (exceeds_of_lt_depth v levels hshort.1)
        (exceeds_entries_of_lt_depth rest levels hshort.2)

end

/-- A value without long integers is too deep exactly if its lists and maps are nested deeper than
there is room for. -/
theorem exceeds_iff
    {v : Value} (hshort : v.hasLongInteger = false) {levels : Nat} :
  v.exceeds levels = true ↔ levels < v.depth
  := ⟨lt_depth_of_exceeds levels v, exceeds_of_lt_depth v levels hshort⟩

theorem text?_of_exceeds
    {v : Value} {levels : Nat} (h : v.exceeds levels = true) :
  v.text? = none
  := by
  cases v with
  | text | fragment =>
    rw [exceeds.eq_def] at h
    cases h
  | null | bool | int | float | list | map => rfl

end Value

/-! ### Templates -/

namespace Template

variable {levels : Nat} {vars : Variables} {properties : Properties}

end Template

/-! ### Parameters -/

namespace Parameter

variable {levels : Nat} {vars : Variables} {registry : Registry} {site : Site}

mutual

/-- A parameter goes deep for a value that it is made of. -/
theorem exists_source_of_exceeds :
    ∀ p : Parameter, p.exceeds levels vars registry site = true →
      ∃ v ∈ p.sources registry, v.exceeds levels = true
  | .value _, h | .fromVariable _ _, h | .reference _, h | .failing _, h => by
      rw [exceeds.eq_def] at h
      cases h
  | .list items, h => by
      rw [exceeds] at h
      rw [sources]
      apply exists_source_of_exceeds_items items h

theorem exists_source_of_exceeds_items :
    ∀ items : List Parameter, exceeds.items levels vars registry site items = true →
      ∃ v ∈ sources.items registry items, v.exceeds levels = true
  | [], h => by
      rw [exceeds.items] at h
      cases h
  | p :: rest, h => by
      rw [sources.items]
      simp only [List.mem_append, or_and_right, exists_or]
      rw [exceeds.items, Bool.or_eq_true] at h
      rcases h with hown | hmore
      · exact .inl (exists_source_of_exceeds p hown)
      · split at hmore
        · cases hmore
        · rename_i v hresolve
          rw [Bool.or_eq_true, Bool.and_eq_true] at hmore
          rcases hmore with hdeep | ⟨-, hrest⟩
          · left
            exact ⟨v, mem_sources_of_resolve hresolve (Value.text?_of_exceeds hdeep), hdeep⟩
          · exact .inr (exists_source_of_exceeds_items rest hrest)

end

end Parameter

end Rollout
