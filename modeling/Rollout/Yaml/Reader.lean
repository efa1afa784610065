import Rollout.Yaml.Lexer
import Rollout.Yaml.Node
import Rollout.Yaml.Plain

/-!
# Reading YAML

The data of a YAML text.  Of several nodes that have no data, the one counts that has the
fewest lists and maps around it, and of these the first.
-/

namespace Rollout.Yaml

/-- The number that a key of a map counts as, in units of the smallest positive
double-precision number.  The truth values count as one and zero. -/
def keyUnits? : Document → Option Int
  | .bool b => some (if b then Binary64.oneUnits else 0)
  | .int n => some (n * Binary64.oneUnits)
  | .float (.finite negative units) => some (if negative then -(units : Int) else units)
  | _ => none

/-- Whether two keys of a map are one.  Numbers are one if they are equal, and not-a-number
is one key. -/
def sameKey (a b : Document) : Bool :=
  match keyUnits? a, keyUnits? b with
  | some m, some n => m == n
  | none, none =>
    match a, b with
    | .null, .null => true
    | .float .nan, .float .nan => true
    | .float (.infinite m), .float (.infinite n) => m == n
    | .text s, .text t => s == t
    | .date y m d, .date y' m' d' => y == y' && m == m' && d == d'
    | .moment s, .moment t => s.same t
    | _, _ => false
  | _, _ => false

/-- The entries of a map with one more: a key that is there keeps its place and takes the
new value. -/
def store (k v : Document) : List (Document × Document) → List (Document × Document)
  | [] => [(k, v)]
  | (k', v') :: rest => if sameKey k' k then (k', v) :: rest else (k', v') :: store k v rest

/-- The map of some entries, of which later ones replace earlier ones. -/
def ofEntries (entries : List (Document × Document)) : Document :=
  .map (entries.foldl (fun known e => store e.1 e.2 known) [])

/-- Why a node has no data. -/
structure Flaw where
  /-- The number of lists and maps around what is at fault. -/
  depth : Nat
  /-- What is wrong with it. -/
  failure : Failure
deriving DecidableEq, Repr

/-- Something that was read from a node, or why it was not. -/
abbrev Reading (α : Type) := Except Flaw α

/-- Of two flaws the one that counts. -/
def Flaw.first (d e : Flaw) : Flaw :=
  if e.depth < d.depth then e else d

namespace Reading

variable {α β : Type}

/-- A function that was read, applied to something that was read after it. -/
def both (f : Reading (α → β)) (x : Reading α) : Reading β :=
  match f, x with
  | .ok f, .ok a => .ok (f a)
  | .ok _, .error e => .error e
  | .error d, .ok _ => .error d
  | .error d, .error e => .error (d.first e)

/-- All of several things that were read one after the other. -/
def all : List (Reading α) → Reading (List α)
  | [] => .ok []
  | x :: rest => both (both (.ok List.cons) x) (all rest)

/-- A scalar with some lists and maps around it. -/
def ofScalar (depth : Nat) (r : Except Failure α) : Reading α :=
  r.mapError (fun failure => ⟨depth, failure⟩)

end Reading

namespace Node

/-- Whether a node is the key under which a map takes in other maps. -/
def isMerge : Node → Bool
  | .scalar s true => s == mergeMark
  | _ => false

mutual

/-- Whether all that the entries of a map take in are maps or lists of maps. -/
def canMerge : List (Node × Node) → Bool
  | [] => true
  | (k, v) :: rest => (!k.isMerge || v.isSource) && canMerge rest

/-- Whether a node is a map or a list of maps that a map can take in. -/
def isSource : Node → Bool
  | .mapping entries => canMerge entries
  | .sequence items => areMaps items
  | .scalar _ _ => false

/-- Whether nodes are maps that a map can take in. -/
def areMaps : List Node → Bool
  | [] => true
  | .mapping entries :: rest => canMerge entries && areMaps rest
  | _ :: _ => false

end

/-- The data of a node as the key of a map, with some lists and maps around it. -/
def toKey (depth : Nat) : Node → Reading Document
  | .scalar s true => .ofScalar depth (ofPlainKey s)
  | .scalar s false => .ok (.text s)
  | _ => .error ⟨depth, .malformed⟩

/-- An entry of a map. -/
def entry (k v : Reading Document) : Reading (Document × Document) :=
  .both (.both (.ok Prod.mk) k) v

mutual

/-- The data of a node with some lists and maps around it. -/
def toDocument (depth : Nat) : Node → Reading Document
  | .scalar s true => .ofScalar depth (ofPlain s)
  | .scalar s false => .ok (.text s)
  | .sequence items => (Reading.all (toDocuments (depth + 1) items)).map .list
  | .mapping entries =>
    if canMerge entries then
      let (taken, own) := toEntries (depth + 1) entries
      (Reading.all (taken ++ own)).map ofEntries
    else .error ⟨depth + 1, .malformed⟩

/-- The data of nodes. -/
def toDocuments (depth : Nat) : List Node → List (Reading Document)
  | [] => []
  | n :: rest => toDocument depth n :: toDocuments depth rest

/-- The entries that a map takes in from other maps, and those of its own. -/
def toEntries (depth : Nat) : List (Node × Node) →
    List (Reading (Document × Document)) × List (Reading (Document × Document))
  | [] => ([], [])
  | (k, v) :: rest =>
    let (taken, own) := toEntries depth rest
    if k.isMerge then (sourceEntries depth v ++ taken, own)
    else (taken, entry (toKey depth k) (toDocument depth v) :: own)

/-- The entries of a map, or those of a list of maps, the last map first. -/
def sourceEntries (depth : Nat) : Node → List (Reading (Document × Document))
  | .mapping entries =>
    let (taken, own) := toEntries depth entries
    taken ++ own
  | .sequence items => listedEntries depth items
  | .scalar _ _ => []

/-- The entries of the maps of a list, the last map first. -/
def listedEntries (depth : Nat) : List Node → List (Reading (Document × Document))
  | [] => []
  | .mapping entries :: rest =>
    let (taken, own) := toEntries depth entries
    listedEntries depth rest ++ (taken ++ own)
  | _ :: rest => listedEntries depth rest

end

end Node

/-- The data of a text, if it holds any. -/
def parse (text : List Char) : Except Failure Document :=
  match Node.ofTokens (tokens text) with
  | .error e => .error e
  | .ok none => .ok .null
  | .ok (some n) => (n.toDocument 0).mapError Flaw.failure

end Rollout.Yaml
