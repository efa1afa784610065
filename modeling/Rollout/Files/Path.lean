/-!
# Paths

A path is a sequence of names after an optional root.  Empty names and single dots are
left out of it and double dots are kept, so that its text form is settled.
-/

namespace Rollout

/-- A path. -/
structure Path where
  /-- What it begins with: nothing, one slash or two. -/
  root : String
  /-- Its names, outermost first. -/
  parts : List String
deriving DecidableEq, Repr, Inhabited

namespace Path

/-- The pieces of a text between slashes. -/
def splitSlashes : List Char → List (List Char)
  | [] => [[]]
  | c :: rest =>
    if c = '/' then [] :: splitSlashes rest
    else match splitSlashes rest with
      | [] => [[c]]
      | piece :: more => (c :: piece) :: more

/-- The slashes that a text begins with, as the root of its path: exactly two stay two,
more become one. -/
def rootOf (s : List Char) : String :=
  match (s.takeWhile (· = '/')).length with
  | 0 => ""
  | 2 => "//"
  | _ => "/"

/-- The path that a text names. -/
def ofText (s : String) : Path :=
  { root := rootOf s.toList
    parts := ((splitSlashes s.toList).map String.ofList).filter (fun p => p ≠ "" && p ≠ ".") }

/-- Whether a text can only name a folder, because its last name is empty or a dot. -/
def endsAsFolder (s : String) : Bool :=
  match (splitSlashes s.toList).getLast? with
  | some [] => true
  | some ['.'] => true
  | _ => false

/-- The text form of a path. -/
def toText (p : Path) : String :=
  if p.root = "" && p.parts.isEmpty then "." else p.root ++ String.intercalate "/" p.parts

/-- Whether a path begins at the root. -/
def isAbsolute (p : Path) : Bool :=
  p.root ≠ ""

/-- The second path seen from the first one; one that begins at the root stays. -/
def join (p q : Path) : Path :=
  if q.isAbsolute then q else { p with parts := p.parts ++ q.parts }

/-- The path to what holds a path. -/
def parent (p : Path) : Path :=
  { p with parts := p.parts.dropLast }

/-- The places that a path leads through, seen from a place. -/
def trail (start : List String) (p : Path) : List (List String) :=
  let step := fun (places : List (List String)) name =>
    let place := places.headD []
    (if name = ".." then place.dropLast else place ++ [name]) :: places
  (p.parts.foldl step [if p.isAbsolute then [] else start]).reverse

/-- Whether a path holds the character that none may hold. -/
def hasNul (p : Path) : Bool :=
  p.parts.any (fun part => part.toList.contains '\x00')

end Path

end Rollout
