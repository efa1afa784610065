import Rollout.Proofs.Json.Legible
import Rollout.Proofs.Template.Pieces

/-!
# Structured values in templates

A property need not be a text.  Nothing, truth values, integers that are short enough, lists and
maps, with texts inside, are never escaped, and what stands for them in a payload is read back as
they are, wherever the template has a place for a value.
-/

namespace Rollout

namespace Value

mutual

/-- Whether a value is read back from what is written for it: it holds no number with a point, no
long integer and no fragment, and no key of its maps is repeated. -/
def isLegible : Value → Bool
  | .null => true
  | .bool _ => true
  | .int n => !Json.isLong n
  | .float _ => false
  | .text _ => true
  | .fragment _ => false
  | .list items => isLegible.items items
  | .map entries => decide (entries.map Prod.fst).Nodup && isLegible.entries entries

/-- Whether the items of a list are read back. -/
def isLegible.items : List Value → Bool
  | [] => true
  | v :: rest => isLegible v && isLegible.items rest

/-- Whether the entries of a map are read back. -/
def isLegible.entries : List (String × Value) → Bool
  | [] => true
  | (_, v) :: rest => isLegible v && isLegible.entries rest

end

mutual

/-- The value that a JSON value is read as, with a text for each of its strings. -/
def ofJson : Json → Value
  | .null => .null
  | .bool b => .bool b
  | .int n => .int n
  | .float x => .float x
  | .text points => .text (String.ofList (points.map Char.ofNat))
  | .array items => .list (ofJson.items items)
  | .object members => .map (ofJson.members members)

/-- The values that the items of an array are read as. -/
def ofJson.items : List Json → List Value
  | [] => []
  | x :: rest => ofJson x :: ofJson.items rest

/-- The entries that the members of an object are read as. -/
def ofJson.members : List (List Nat × Json) → List (String × Value)
  | [] => []
  | (k, x) :: rest => (String.ofList (k.map Char.ofNat), ofJson x) :: ofJson.members rest

end

/-! ### There and back -/

/-- A text is read off its code points. -/
theorem ofList_points
    (s : String) :
  String.ofList ((Json.points s).map Char.ofNat) = s
  := by
  rw [Json.points, List.map_map]
  have hid : Char.ofNat ∘ Char.toNat = id := funext Char.ofNat_toNat
  rw [hid, List.map_id, String.ofList_toList]

theorem nodup_map_points
    {keys : List String} (h : keys.Nodup) :
  (keys.map Json.points).Nodup
  := by
  rw [List.Nodup, List.pairwise_map]
  apply h.imp
  intro k l hne heq
  apply hne
  rw [← ofList_points k, heq, ofList_points]

mutual

/-- A value without floats and fragments is what its JSON value is read as. -/
theorem ofJson_toJson :
    ∀ v : Value, v.isLegible = true → ofJson v.toJson = v
  | .null => fun _ => rfl
  | .bool _ => fun _ => rfl
  | .int _ => fun _ => rfl
  | .float _ => fun h => by simp [isLegible] at h
  | .text s => fun _ => congrArg text (ofList_points s)
  | .fragment _ => fun h => by simp [isLegible] at h
  | .list items => by
      intro h
      rw [isLegible] at h
      rw [toJson, ofJson, ofJson_items items h]
  | .map entries => by
      intro h
      rw [isLegible, Bool.and_eq_true] at h
      rw [toJson, ofJson, ofJson_entries entries h.2]

theorem ofJson_items :
    ∀ items : List Value, isLegible.items items = true →
      ofJson.items (toJson.items items) = items
  | [] => fun _ => rfl
  | v :: items => by
      intro h
      rw [isLegible.items, Bool.and_eq_true] at h
      rw [toJson.items, ofJson.items, ofJson_toJson v h.1, ofJson_items items h.2]

theorem ofJson_entries :
    ∀ entries : List (String × Value), isLegible.entries entries = true →
      ofJson.members (toJson.entries entries) = entries
  | [] => fun _ => rfl
  | (k, v) :: entries => by
      intro h
      rw [isLegible.entries, Bool.and_eq_true] at h
      rw [toJson.entries, ofJson.members, ofList_points, ofJson_toJson v h.1,
        ofJson_entries entries h.2]

end

theorem map_fst_toJson_entries
    (entries : List (String × Value)) :
  (toJson.entries entries).map Prod.fst = (entries.map Prod.fst).map Json.points
  := by
  induction entries with
  | nil => rfl
  | cons entry entries ih =>
    rw [toJson.entries, List.map_cons, ih]
    rfl

mutual

/-- What is written for a legible value is legible. -/
theorem isLegible_toJson :
    ∀ v : Value, v.isLegible = true → v.toJson.isLegible = true
  | .null => fun _ => rfl
  | .bool _ => fun _ => rfl
  | .int _ => by
      intro h
      rw [toJson, Json.isLegible]
      rwa [isLegible] at h
  | .float _ => fun h => by simp [isLegible] at h
  | .text s => fun _ => Json.all_isCharacter_points s
  | .fragment _ => fun h => by simp [isLegible] at h
  | .list items => by
      intro h
      rw [isLegible] at h
      rw [toJson, Json.isLegible]
      exact isLegible_items items h
  | .map entries => by
      intro h
      rw [isLegible, Bool.and_eq_true, decide_eq_true_eq] at h
      rw [toJson, Json.isLegible, Bool.and_eq_true, decide_eq_true_eq, map_fst_toJson_entries]
      exact ⟨nodup_map_points h.1, isLegible_entries entries h.2⟩

theorem isLegible_items :
    ∀ items : List Value, isLegible.items items = true →
      Json.isLegible.items (toJson.items items) = true
  | [] => fun _ => rfl
  | v :: items => by
      intro h
      rw [isLegible.items, Bool.and_eq_true] at h
      rw [toJson.items, Json.isLegible.items, isLegible_toJson v h.1, isLegible_items items h.2]
      rfl

theorem isLegible_entries :
    ∀ entries : List (String × Value), isLegible.entries entries = true →
      Json.isLegible.members (toJson.entries entries) = true
  | [] => fun _ => rfl
  | (k, v) :: entries => by
      intro h
      rw [isLegible.entries, Bool.and_eq_true] at h
      rw [toJson.entries, Json.isLegible.members, Json.all_isCharacter_points,
        isLegible_toJson v h.1, isLegible_entries entries h.2]
      rfl

end

/-! ### What stands for a structured value -/

/-- A legible value that is no text is written as its JSON value. -/
theorem format_of_isLegible
    {v : Value} (h : v.isLegible = true) (hnone : v.text? = none) :
  v.format = .ok (String.ofList v.toJson.render)
  := by
  have hshort : v.hasLongInteger = false :=
    Json.hasLongInteger_of_isLegible _ (isLegible_toJson v h)
  cases v with
  | text | fragment => cases hnone
  | float => simp [isLegible] at h
  | null | bool | int | list | map => simp only [format, hshort, Bool.false_eq_true, if_false]

/-- A value that is no text is not escaped. -/
theorem escape_of_text?_eq_none
    {v : Value} (h : v.text? = none) :
  v.escape = v
  := by
  cases v with
  | text => cases h
  | null | bool | int | float | fragment | list | map => rfl

/-- A legible value that is no text is never escaped.  What stands for it is read back as it is,
on its own and in front of anything that does not go on a number, and this is what each
placeholder for it is replaced by. -/
theorem structured_read_back
    {v : Value} (hv : v.isLegible = true) (hnone : v.text? = none) :
  v.escape = v
    ∧ ∃ text, v.format = .ok text
      ∧ (Json.parse text.toList).map ofJson = .ok v
      ∧ (∀ fuel rest, Json.EndsNumber rest → text.toList.length ≤ fuel →
        (Json.readValue fuel (text.toList ++ rest)).map (fun (x, rest) => (ofJson x, rest))
          = .ok (v, rest))
      ∧ ∀ (vars : Variables) (properties : Properties) (key : String),
        properties.find? key = some v →
          properties.escape.find? key = some v
            ∧ Template.fill vars properties.escape (.property key) = .ok text
            ∧ ∀ (t : Template) (payload : String), t.render vars properties.escape = .ok payload →
              t.Shows vars properties.escape payload key v
  := by
  have hescape := escape_of_text?_eq_none hnone
  have hformat := format_of_isLegible hv hnone
  have hjson := isLegible_toJson v hv
  have hread := ofJson_toJson v hv
  refine ⟨hescape, String.ofList v.toJson.render, hformat, ?_, ?_, ?_⟩
  · rw [String.toList_ofList, Json.parse_render hjson, Except.map, hread]
  · intro fuel rest hrest hfuel
    rw [String.toList_ofList] at hfuel ⊢
    rw [Json.isRead_of_isLegible _ hjson fuel rest hrest hfuel, Except.map]
    dsimp only
    rw [hread]
  · intro vars properties key hkey
    have hbound : properties.escape.find? key = some v := by
      rw [Properties.find?_escape, hkey, Option.map_some, hescape]
    refine ⟨hbound, ?_, ?_⟩
    · rw [Template.fill, hbound]
      simp only [hformat]
      rfl
    · intro t payload hrender
      apply Template.shows_of_render hrender hbound

end Value

/-! ### Some limits -/

namespace Sample

/-- Limits, some of which have not been set, with a text that would have to be escaped. -/
def limits : Value :=
  .map [("per user", .list [.int (-7), .bool true, .null]), ("\"note\"", .text "\n\\"),
    ("inner", .map [])]

end Sample

/-- The limits are read back where a template names them. -/
theorem structured_read_back_limits :
  Sample.limits.isLegible = true ∧ Sample.limits.text? = none
    ∧ ∃ text, Sample.limits.format = .ok text
      ∧ (Json.parse text.toList).map Value.ofJson = .ok Sample.limits
      ∧ Template.fill .empty (Properties.escape (.ofList [("limits", Sample.limits)]))
        (.property "limits") = .ok text
  := by
  have hlegible : Sample.limits.isLegible = true := by decide +kernel
  obtain ⟨-, text, hformat, hparse, -, hplaces⟩ := Value.structured_read_back hlegible rfl
  refine ⟨hlegible, rfl, text, hformat, hparse, ?_⟩
  exact (hplaces .empty (.ofList [("limits", Sample.limits)]) "limits" rfl).2.1

end Rollout
