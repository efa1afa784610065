import Rollout.Files.Path
import Rollout.Table

/-!
# Disks

A tree of folders and files, with the working folder that relative paths start from,
and the operations on it that may fail.
-/

namespace Rollout

/-- What a file holds. -/
inductive Content where
  | text (s : String)
  /-- Bytes that are no text. -/
  | binary (bytes : List UInt8)
deriving DecidableEq, Repr, Inhabited

/-- The content that bytes are: a text, if they are one in UTF-8. -/
def Content.ofBytes (bytes : List UInt8) : Content :=
  match String.fromUTF8? ⟨bytes.toArray⟩ with
  | some s => .text s
  | none => .binary bytes

/-- The content with a text added at its end. -/
def Content.append : Content → String → Content
  | .text s, t => .text (s ++ t)
  | .binary bytes, t => .binary (bytes ++ t.toUTF8.data.toList)

/-- Something in a folder. -/
inductive Node where
  | folder
  | file (content : Content)
deriving DecidableEq, Repr, Inhabited

/-- A tree of folders and files by the names that lead to them. -/
structure Disk where
  /-- Everything but the root, by the names that lead to it. -/
  nodes : Table (List String) Node
  /-- The names that lead to the working folder. -/
  workingFolder : List String
deriving Inhabited

namespace Disk

/-- Why an operation on a disk fails.  A disk here never refuses access and is never full; whoever
runs into that would have to treat it like any of these faults but the last one. -/
inductive Fault where
  /-- A folder on the way is not there, or the thing itself. -/
  | missing
  /-- Something on the way is no folder. -/
  | notFolder
  /-- A name or a path is too long. -/
  | tooLong
  /-- Something is there already. -/
  | exists
  /-- A folder is where a file should be. -/
  | isFolder
  /-- A path holds a character that none may hold. -/
  | nul
deriving DecidableEq, Repr

/-- The most bytes of a name. -/
def nameLimit : Nat := 255

/-- The most bytes of a path. -/
def pathLimit : Nat := 4095

/-- What is at a place. -/
def node? (d : Disk) (place : List String) : Option Node :=
  if place = [] then some .folder else d.nodes.find? place

/-- The place that names lead to from a place, each step but the last one being through
a folder that is there. -/
def walk (d : Disk) : List String → (names : List String) → Except Fault (List String)
  | place, [] => .ok place
  | place, name :: rest =>
    match d.node? place with
    | none => .error .missing
    | some (.file _) => .error .notFolder
    | some .folder =>
      if nameLimit < name.utf8ByteSize then .error .tooLong
      else if name = ".." then walk d place.dropLast rest
      else walk d (place ++ [name]) rest

/-- The place that a path leads to. -/
def locate (d : Disk) (p : Path) : Except Fault (List String) :=
  if p.hasNul then .error .nul
  else if pathLimit < p.toText.utf8ByteSize then .error .tooLong
  else walk d (if p.isAbsolute then [] else d.workingFolder) p.parts

/-- What a path leads to. -/
def stat (d : Disk) (p : Path) : Except Fault Node :=
  match d.locate p with
  | .error fault => .error fault
  | .ok place =>
    match d.node? place with
    | none => .error .missing
    | some node => .ok node

/-- Whether a path leads to a folder. -/
def isFolder (d : Disk) (p : Path) : Bool :=
  match d.stat p with
  | .ok .folder => true
  | _ => false

/-- Whether a path leads to a file.  Only a path that is too long has no answer. -/
def isFile (d : Disk) (p : Path) : Except Fault Bool :=
  match d.stat p with
  | .ok (.file _) => .ok true
  | .error .tooLong => .error .tooLong
  | _ => .ok false

/-- Makes a folder inside one that is there. -/
def makeFolder (d : Disk) (p : Path) : Except Fault Disk :=
  match d.locate p with
  | .error fault => .error fault
  | .ok place =>
    match d.node? place with
    | some _ => .error .exists
    | none => .ok { d with nodes := d.nodes.insert place .folder }

/-- Makes a folder and the folders on the way to it, unless they are there.  What has
been made before a failure stays. -/
def makeFolders (root : String) : (outer : List String) → Disk → Disk × Option Fault
  | parts, d =>
    let p : Path := ⟨root, parts.reverse⟩
    let settle := fun (d : Disk) (fault : Fault) =>
      if d.isFolder p then (d, none) else (d, some fault)
    match d.makeFolder p with
    | .ok d => (d, none)
    | .error .missing =>
      match parts with
      | [] => (d, some .missing)
      | _ :: outer =>
        match makeFolders root outer d with
        | (d, some fault) => (d, some fault)
        | (d, none) =>
          match d.makeFolder p with
          | .ok d => (d, none)
          | .error fault => settle d fault
    | .error fault => settle d fault

/-- Makes the folder of a path and the folders on the way to it, unless they are
there. -/
def ensureFolder (d : Disk) (p : Path) : Disk × Option Fault :=
  makeFolders p.root p.parts.reverse d

/-- Writes a file, in the place of the old one if it is there. -/
def write (d : Disk) (p : Path) (content : Content) : Except Fault Disk :=
  match d.locate p with
  | .error fault => .error fault
  | .ok place =>
    match d.node? place with
    | some .folder => .error .isFolder
    | _ =>
      match d.node? place.dropLast with
      | some .folder => .ok { d with nodes := d.nodes.insert place (.file content) }
      | _ => .error .missing

/-- Reads a file. -/
def read (d : Disk) (p : Path) : Except Fault Content :=
  match d.stat p with
  | .error fault => .error fault
  | .ok .folder => .error .isFolder
  | .ok (.file content) => .ok content

/-- Adds a text to the end of a file, which is made if it is not there. -/
def append (d : Disk) (p : Path) (s : String) : Except Fault Disk :=
  match d.read p with
  | .ok content => d.write p (content.append s)
  | .error .missing => d.write p (.text s)
  | .error fault => .error fault

/-- The folder that a path leads to, without double dots. -/
def resolve (d : Disk) (p : Path) : Path :=
  let start := if p.isAbsolute then [] else d.workingFolder
  let step := fun (place : List String) name =>
    if name = ".." then place.dropLast else place ++ [name]
  ⟨"/", p.parts.foldl step start⟩

/-- The files below a place with their contents, each with the names that lead to it from
there. -/
def filesBelow (d : Disk) (place : List String) : List (List String × Content) :=
  d.nodes.entries.filterMap fun
    | (p, .file content) =>
      if place.isPrefixOf p && place.length < p.length then some (p.drop place.length, content)
      else none
    | (_, .folder) => none

end Disk

/-- The text with every line ended by a line feed alone. -/
def Text.unifyLines : List Char → List Char
  | [] => []
  | '\r' :: '\n' :: rest => '\n' :: unifyLines rest
  | '\r' :: rest => '\n' :: unifyLines rest
  | c :: rest => c :: unifyLines rest

end Rollout
