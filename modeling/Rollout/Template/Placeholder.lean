import Rollout.Text.Blank

/-!
# Placeholders

A template is a sequence of characters and of blocks between double braces.  A block
runs up to the first pair of closing braces; opening braces that are never closed are
plain characters.  A block names a variable, or a property, or it is not supported.
-/

namespace Rollout.Template

open Rollout.Text

/-- A piece of a template. -/
inductive Piece where
  /-- A character that is kept. -/
  | char (c : Char)
  /-- A block, by the text between its braces. -/
  | block (inner : List Char)
deriving DecidableEq, Repr

/-- The pieces of a template.  While a block is open, `inner` holds the characters read
since its opening braces, last one first. -/
def scan : (inner : Option (List Char)) → List Char → List Piece
  | none, [] => []
  | none, '{' :: '{' :: rest => scan (some []) rest
  | none, c :: rest => .char c :: scan none rest
  | some inner, [] => .char '{' :: .char '{' :: inner.reverse.map .char
  | some inner, '}' :: '}' :: rest => .block inner.reverse :: scan none rest
  | some inner, c :: rest => scan (some (c :: inner)) rest

/-- A character that does not begin two opening braces is kept. -/
theorem scan_cons
    {c : Char} {rest : List Char} (h : c = '{' → rest.head? ≠ some '{') :
  scan none (c :: rest) = .char c :: scan none rest
  := by
  rw [scan]
  rintro rest' rfl rfl
  exact h rfl rfl

theorem scan_cons_of_ne
    {c : Char} (hc : c ≠ '{') (rest : List Char) :
  scan none (c :: rest) = .char c :: scan none rest
  := scan_cons (fun h => absurd h hc)

/-- A character that does not begin two closing braces stays in an open block. -/
theorem scan_open_cons
    {c : Char} {rest : List Char} (h : c = '}' → rest.head? ≠ some '}') (before : List Char) :
  scan (some before) (c :: rest) = scan (some (c :: before)) rest
  := by
  rw [scan]
  rintro rest' rfl rfl
  exact h rfl rfl

/-- The pieces of a whole template. -/
def pieces (s : List Char) : List Piece :=
  scan none s

/-- Whether a character may begin a key. -/
def isKeyStart (c : Char) : Bool :=
  let n := c.toNat
  (65 ≤ n && n ≤ 90) || (97 ≤ n && n ≤ 122) || c == '_'

/-- Whether a character may stand in a key after its first one. -/
def isKeyRest (c : Char) : Bool :=
  isKeyStart c || (48 ≤ c.toNat && c.toNat ≤ 57) || c == '-'

/-- Whether a text is a key. -/
def isKey : List Char → Bool
  | [] => false
  | c :: rest => isKeyStart c && rest.all isKeyRest

/-- What a block stands for. -/
inductive Placeholder where
  /-- The variable of that name. -/
  | variable (key : String)
  /-- The property of that name, or else the variable. -/
  | property (key : String)
  /-- Nothing that is supported. -/
  | unsupported (inner : String)
deriving DecidableEq, Repr

/-- The text after a leading dot, if there is one. -/
def dropDot : List Char → List Char
  | '.' :: rest => rest
  | s => s

/-- The key of a variable that is marked as one. -/
def variableKey? : List Char → Option (List Char)
  | 'E' :: 'n' :: 'v' :: '.' :: key => if isKey key then some key else none
  | _ => none

/-- What the block with a given inner text stands for. -/
def Placeholder.ofInner (inner : List Char) : Placeholder :=
  let body := dropDot (trimChars inner)
  match variableKey? body with
  | some key => .variable (String.ofList key)
  | none =>
    if isKey body then .property (String.ofList body)
    else .unsupported (String.ofList inner)

/-- The name under which a placeholder is listed. -/
def Placeholder.name : Placeholder → String
  | .variable key => "Env." ++ key
  | .property key => key
  | .unsupported inner => trim inner

/-- The placeholders of a template, in order and with repetitions. -/
def placeholders (s : List Char) : List Placeholder :=
  (pieces s).filterMap fun
    | .char _ => none
    | .block inner => some (.ofInner inner)

/-- A list without the later copies of each item. -/
def distinct {α : Type} [DecidableEq α] (items : List α) : List α :=
  items.foldl (fun seen x => if x ∈ seen then seen else seen ++ [x]) []

theorem mem_foldl_distinct
    {α : Type} [DecidableEq α] {x : α} (items seen : List α) :
  x ∈ items.foldl (fun seen y => if y ∈ seen then seen else seen ++ [y]) seen
    ↔ x ∈ seen ∨ x ∈ items
  := by
  induction items generalizing seen with
  | nil => simp
  | cons y rest ih =>
    rw [List.foldl_cons, ih, List.mem_cons]
    by_cases hy : y ∈ seen
    · rw [if_pos hy]
      grind
    · rw [if_neg hy, List.mem_append, List.mem_singleton, or_assoc]

/-- The items of a list are those that it has without the later copies. -/
@[simp]
theorem mem_distinct
    {α : Type} [DecidableEq α] {x : α} {items : List α} :
  x ∈ distinct items ↔ x ∈ items
  := by
  rw [distinct, mem_foldl_distinct]
  simp

theorem foldl_distinct_append
    {α : Type} [DecidableEq α] (items seen : List α) :
  ∃ rest, items.foldl (fun seen y => if y ∈ seen then seen else seen ++ [y]) seen = seen ++ rest
    ∧ rest.Sublist items
  := by
  induction items generalizing seen with
  | nil =>
    refine ⟨[], ?_, .slnil⟩
    rw [List.foldl_nil, List.append_nil]
  | cons y items ih =>
    rw [List.foldl_cons]
    by_cases hy : y ∈ seen
    · obtain ⟨rest, hrest, hsub⟩ := ih seen
      rw [if_pos hy]
      exact ⟨rest, hrest, .cons y hsub⟩
    · obtain ⟨rest, hrest, hsub⟩ := ih (seen ++ [y])
      rw [if_neg hy, hrest, List.append_assoc]
      exact ⟨y :: rest, rfl, .cons_cons y hsub⟩

/-- The items that are kept stay in order. -/
theorem distinct_sublist
    {α : Type} [DecidableEq α] (items : List α) :
  (distinct items).Sublist items
  := by
  obtain ⟨rest, hrest, hsub⟩ := foldl_distinct_append items []
  rw [distinct, hrest, List.nil_append]
  exact hsub

theorem nodup_foldl_distinct
    {α : Type} [DecidableEq α] (items : List α) {seen : List α} (h : seen.Nodup) :
  (items.foldl (fun seen y => if y ∈ seen then seen else seen ++ [y]) seen).Nodup
  := by
  induction items generalizing seen with
  | nil => exact h
  | cons y items ih =>
    rw [List.foldl_cons]
    apply ih
    split
    · exact h
    · rename_i hy
      rw [List.nodup_append]
      refine ⟨h, List.pairwise_singleton _ _, ?_⟩
      intro x hx z hz
      rw [List.mem_singleton.mp hz]
      intro hxy
      exact hy (hxy ▸ hx)

/-- No item is kept twice. -/
theorem nodup_distinct
    {α : Type} [DecidableEq α] (items : List α) :
  (distinct items).Nodup
  := nodup_foldl_distinct items List.nodup_nil

/-- The names of a template's placeholders, in the order in which they first appear. -/
def placeholderNames (s : String) : List String :=
  distinct ((placeholders s.toList).map Placeholder.name)

end Rollout.Template
