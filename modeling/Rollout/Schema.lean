import Rollout.Decimal.Shortest
import Rollout.Document
import Rollout.Json.Basic
import Rollout.Table

/-!
# Schemas

What is expected of a piece of data, and where it is not met.  A field that should be a
truth value also accepts the numbers zero and one and some words in any letter case.
-/

namespace Rollout.Schema

/-- How an expectation is not met. -/
inductive Mismatch where
  /-- A field is not there. -/
  | missing
  | noText
  | noMap
  /-- It is a number or a word that stands for no truth value. -/
  | badTruth
  /-- It is of a type that has no truth values. -/
  | noTruth
  /-- A map names a kind that does not exist. -/
  | badKind
  /-- A map names no kind. -/
  | noKind
  /-- It is no map of fields. -/
  | noRecord
  /-- It is no map of fields of which one names its kind. -/
  | noVariant
  | noParameter
deriving DecidableEq, Repr

/-- The word for a mismatch. -/
def Mismatch.word : Mismatch → String
  | .missing => "missing"
  | .noText => "string_type"
  | .noMap => "dict_type"
  | .badTruth => "bool_parsing"
  | .noTruth => "bool_type"
  | .badKind => "union_tag_invalid"
  | .noKind => "union_tag_not_found"
  | .noRecord => "model_type"
  | .noVariant => "model_attributes_type"
  | .noParameter => "is_instance_of"

/-- A mismatch and the names that lead to it. -/
structure Issue where
  /-- The names, outermost first. -/
  place : List String
  mismatch : Mismatch
deriving DecidableEq, Repr

/-- The issue seen from the outside of something that is called `name`. -/
def Issue.under (name : String) (i : Issue) : Issue :=
  { i with place := name :: i.place }

/-- The truth value that a word stands for. -/
def truthWord? (s : String) : Option Bool :=
  let word := String.ofList (s.toList.map Char.toLower)
  if word ∈ ["0", "off", "f", "false", "n", "no"] then some false
  else if word ∈ ["1", "on", "t", "true", "y", "yes"] then some true
  else none

/-- The least whole number that is too large to be tried as a truth value. -/
def numberLimit : Nat :=
  Nat.pow 2 63

/-- A piece of data read as a truth value.  Of the numbers other than zero and one, those
that are not whole or too large are taken for no truth values at all. -/
def truth : Document → Except Mismatch Bool
  | .bool b => .ok b
  | .int n =>
    if n = 0 then .ok false
    else if n = 1 then .ok true
    else if -(numberLimit : Int) ≤ n && n < numberLimit then .error .badTruth
    else .error .noTruth
  | .float x =>
    if x.isZero then .ok false
    else if x.isOne then .ok true
    else if x.isWhole && x.isBelow numberLimit then .error .badTruth
    else .error .noTruth
  | .text s =>
    match truthWord? s with
    | some b => .ok b
    | none => .error .badTruth
  | _ => .error .noTruth

/-- A piece of data read as a text. -/
def text : Document → Except Mismatch String
  | .text s => .ok s
  | _ => .error .noText

/-- A piece of data read as a text or as nothing. -/
def optionalText : Document → Except Mismatch (Option String)
  | .null => .ok none
  | .text s => .ok (some s)
  | _ => .error .noText

/-- The entries of a map. -/
def entries? : Document → Option (List (Document × Document))
  | .map entries => some entries
  | _ => none

/-- Something that was read, or the issues with it. -/
abbrev Reading (α : Type) := Except (List Issue) α

/-- A field with a value of its own where it is not there. -/
def fieldOr {α : Type} (default : α) (read : Document → Except Mismatch α) (name : String)
    (entries : List (Document × Document)) : Reading α :=
  match Document.entry? name entries with
  | none => .ok default
  | some v => (read v).mapError (fun m => [⟨[name], m⟩])

/-- A field that has to be there. -/
def field {α : Type} (read : Document → Except Mismatch α) (name : String)
    (entries : List (Document × Document)) : Reading α :=
  match Document.entry? name entries with
  | none => .error [⟨[name], .missing⟩]
  | some v => (read v).mapError (fun m => [⟨[name], m⟩])

/-- The issues with a field seen from the outside. -/
def under {α : Type} (name : String) (r : Reading α) : Reading α :=
  r.mapError (fun issues => issues.map (Issue.under name))

/-- The issues with something that was read. -/
def issues {α : Type} : Reading α → List Issue
  | .ok _ => []
  | .error is => is

/-- A function that was read, applied to something that was read.  The issues with both
are kept in order. -/
def both {α β : Type} (f : Reading (α → β)) (x : Reading α) : Reading β :=
  match f, x with
  | .ok f, .ok a => .ok (f a)
  | f, x => .error (issues f ++ issues x)

/-- The text by which a key of a map is called.  An integer with too many digits has none of
its own. -/
def keyText : Document → String
  | .text s => s
  | .bool b => if b then "1" else "0"
  | .int n => if Json.isLong n then "<unprintable int object>" else toString n
  | .float x => String.ofList (x.render .plain)
  | .date year month day => s!"datetime.date({year}, {month}, {day})"
  | .moment t => t.text
  | _ => "None"

/-- The entries of a map from texts to what is read, with the issues of each. -/
def readEntries {α : Type} (read : Document → Except Mismatch α) :
    List (Document × Document) → Reading (List (String × α))
  | [] => .ok []
  | (k, v) :: rest =>
    let name := keyText k
    let key : Reading String := (text k).mapError (fun m => [⟨[name, "[key]"], m⟩])
    let value : Reading α := (read v).mapError (fun m => [⟨[name], m⟩])
    both (both (both (.ok (fun k v more => (k, v) :: more)) key) value) (readEntries read rest)

/-- A field that is a map from texts to what is read; where it is not there, the map is
empty. -/
def mapField {α : Type} (read : Document → Except Mismatch α) (name : String)
    (entries : List (Document × Document)) : Reading (Table String α) :=
  match Document.entry? name entries with
  | none => .ok .empty
  | some v =>
    match entries? v with
    | none => .error [⟨[name], .noMap⟩]
    | some es => under name ((readEntries read es).map Table.ofList)

end Rollout.Schema
