import Rollout.Yaml.Token

/-!
# From tokens to nodes

The scalars of a text nested in its lists and maps.  What is left out, for instance the
value of a key, is an empty plain scalar.
-/

namespace Rollout.Yaml

/-- A scalar, a list or a map. -/
inductive Node where
  /-- A scalar, quoted or plain. -/
  | scalar (text : String) (plain : Bool)
  /-- A list. -/
  | sequence (items : List Node)
  /-- A map, as its entries in order. -/
  | mapping (entries : List (Node × Node))
deriving Inhabited

namespace Node

/-- What stands for something that is left out. -/
def empty : Node :=
  .scalar "" true

/-- The surroundings of a node. -/
inductive Place where
  /-- Inside brackets or braces. -/
  | flow
  /-- An item of a list by indentation, or a whole document. -/
  | block
  /-- A key or a value of a map by indentation, where a list need not be indented. -/
  | entry
deriving DecidableEq, Repr

/-- What is wrong with a token that does not belong where it is. -/
def unexpected : List Token → Failure
  | .broken why :: _ => why
  | _ => .malformed

/-- Whether one of the given tokens follows. -/
def follows (expected : List Token) : List Token → Bool
  | [] => false
  | t :: _ => expected.contains t

mutual

/-- A node; `fuel` bounds the nesting and the number of entries. -/
def read (place : Place) : (fuel : Nat) → List Token → Except Failure (Node × List Token)
  | 0, _ => .error .malformed
  | fuel + 1, ts =>
    match place, ts with
    | .entry, .blockEntry :: _ => do
      let (items, rest) ← readUnindented fuel ts
      return (.sequence items, rest)
    | _, .scalar s plain :: rest => .ok (.scalar s plain, rest)
    | _, .flowSequenceStart :: rest => do
      let (items, rest) ← readFlowItems true fuel rest
      return (.sequence items, rest)
    | _, .flowMappingStart :: rest => do
      let (entries, rest) ← readFlowEntries true fuel rest
      return (.mapping entries, rest)
    | .flow, _ => .error (unexpected ts)
    | _, .blockSequenceStart :: rest => do
      let (items, rest) ← readItems fuel rest
      return (.sequence items, rest)
    | _, .blockMappingStart :: rest => do
      let (entries, rest) ← readEntries fuel rest
      return (.mapping entries, rest)
    | _, _ => .error (unexpected ts)

/-- A node, or an empty one if one of the tokens follows that cannot begin it. -/
def readUnless (stops : List Token) (place : Place) : (fuel : Nat) → List Token →
    Except Failure (Node × List Token)
  | 0, _ => .error .malformed
  | fuel + 1, ts => if follows stops ts then .ok (empty, ts) else read place fuel ts

/-- The items of a list that is not indented. -/
def readUnindented : (fuel : Nat) → List Token → Except Failure (List Node × List Token)
  | 0, _ => .error .malformed
  | fuel + 1, ts =>
    match ts with
    | .blockEntry :: rest => do
      let (item, rest) ← readUnless [.blockEntry, .key, .value, .blockEnd] .block fuel rest
      let (items, rest) ← readUnindented fuel rest
      return (item :: items, rest)
    | _ => .ok ([], ts)

/-- The items of a list up to its end. -/
def readItems : (fuel : Nat) → List Token → Except Failure (List Node × List Token)
  | 0, _ => .error .malformed
  | fuel + 1, ts =>
    match ts with
    | .blockEntry :: rest => do
      let (item, rest) ← readUnless [.blockEntry, .blockEnd] .block fuel rest
      let (items, rest) ← readItems fuel rest
      return (item :: items, rest)
    | .blockEnd :: rest => .ok ([], rest)
    | _ => .error (unexpected ts)

/-- The value of an entry, if one follows. -/
def readValue (stops : List Token) (place : Place) : (fuel : Nat) → List Token →
    Except Failure (Node × List Token)
  | 0, _ => .error .malformed
  | fuel + 1, ts =>
    match ts with
    | .value :: rest => readUnless stops place fuel rest
    | _ => .ok (empty, ts)

/-- The entries of a map up to its end. -/
def readEntries : (fuel : Nat) → List Token → Except Failure (List (Node × Node) × List Token)
  | 0, _ => .error .malformed
  | fuel + 1, ts =>
    match ts with
    | .key :: rest => do
      let (k, rest) ← readUnless [.key, .value, .blockEnd] .entry fuel rest
      let (v, rest) ← readValue [.key, .value, .blockEnd] .entry fuel rest
      let (entries, rest) ← readEntries fuel rest
      return ((k, v) :: entries, rest)
    | .blockEnd :: rest => .ok ([], rest)
    | _ => .error (unexpected ts)

/-- The items of a list in brackets up to its end.  An item that is a key with a value is
a map of its own. -/
def readFlowItems (first : Bool) : (fuel : Nat) → List Token →
    Except Failure (List Node × List Token)
  | 0, _ => .error .malformed
  | fuel + 1, ts => do
    match ts with
    | .flowSequenceEnd :: rest => return ([], rest)
    | _ =>
      let ts ← match first, ts with
        | true, ts => pure ts
        | false, .flowEntry :: rest => pure rest
        | false, ts => .error (unexpected ts)
      match ts with
      | .flowSequenceEnd :: rest => return ([], rest)
      | .key :: rest =>
        let (k, rest) ← readUnless [.value, .flowEntry, .flowSequenceEnd] .flow fuel rest
        let (v, rest) ← readValue [.flowEntry, .flowSequenceEnd] .flow fuel rest
        let (items, rest) ← readFlowItems false fuel rest
        return (.mapping [(k, v)] :: items, rest)
      | _ =>
        let (item, rest) ← read .flow fuel ts
        let (items, rest) ← readFlowItems false fuel rest
        return (item :: items, rest)

/-- The entries of a map in braces up to its end. -/
def readFlowEntries (first : Bool) : (fuel : Nat) → List Token →
    Except Failure (List (Node × Node) × List Token)
  | 0, _ => .error .malformed
  | fuel + 1, ts => do
    match ts with
    | .flowMappingEnd :: rest => return ([], rest)
    | _ =>
      let ts ← match first, ts with
        | true, ts => pure ts
        | false, .flowEntry :: rest => pure rest
        | false, ts => .error (unexpected ts)
      match ts with
      | .flowMappingEnd :: rest => return ([], rest)
      | .key :: rest =>
        let (k, rest) ← readUnless [.value, .flowEntry, .flowMappingEnd] .flow fuel rest
        let (v, rest) ← readValue [.flowEntry, .flowMappingEnd] .flow fuel rest
        let (entries, rest) ← readFlowEntries false fuel rest
        return ((k, v) :: entries, rest)
      | _ =>
        let (k, rest) ← read .flow fuel ts
        let (entries, rest) ← readFlowEntries false fuel rest
        return ((k, empty) :: entries, rest)

end

/-- The tokens after the marks behind a document. -/
def dropEnds : List Token → List Token
  | .documentEnd :: rest => dropEnds rest
  | ts => ts

/-- The node of the only document of a text, from its first token on. -/
def readDocument (ts : List Token) : Except Failure (Option Node) := do
  let (n, rest) ← read .block (4 * ts.length + 4) ts
  if (dropEnds rest).isEmpty then return some n else .error (unexpected (dropEnds rest))

/-- The node of the only document of a text, if there is one. -/
def ofTokens : List Token → Except Failure (Option Node)
  | [] => .ok none
  | .documentStart :: rest =>
    if rest.isEmpty || follows [.documentStart, .documentEnd] rest then
      if (dropEnds rest).isEmpty then .ok (some empty) else .error (unexpected (dropEnds rest))
    else readDocument rest
  | ts => readDocument ts

end Node

end Rollout.Yaml
