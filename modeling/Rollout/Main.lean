import Rollout.Cli.Output
import Rollout.Cli.Reach

/-!
# The program

Reads the variables and as much of the disk as the command line reaches, runs the command
line on them, and carries its result out.
-/

namespace Rollout

/-- The pieces of a block of bytes, each of which ends with a zero. -/
def pieces (block : List UInt8) : List (List UInt8) :=
  (block.foldr (fun byte pieces =>
    if byte = 0 then [] :: pieces
    else match pieces with
      | [] => [[byte]]
      | piece :: more => (byte :: piece) :: more) [])

/-- The variables in a block of bytes, in which a name and its value are joined by an equals
sign. -/
def Variables.ofBlock (block : List UInt8) : Variables :=
  Table.ofList ((pieces block).filterMap fun piece =>
    match Content.ofBytes piece with
    | .binary _ => none
    | .text s =>
      match Cli.cutAtEquals s.toList with
      | (_, none) => none
      | (name, some value) => some (name, value))

/-- The variables of the process. -/
def readVariables : IO Variables := do
  let block ← try IO.FS.readBinFile "/proc/self/environ" catch _ => pure .empty
  return .ofBlock block.toList

/-- The text that names a place. -/
def placeText (place : List String) : String :=
  (⟨"/", place⟩ : Path).toText

/-- The disk as far as paths reach into it, seen from a working folder. -/
def readDisk (folder : List String) (paths : List Path) : IO Disk := do
  let mut disk : Disk := ⟨.empty, folder⟩
  let places := (Path.mk "/" folder :: paths).flatMap (Path.trail folder)
  for place in places.filter (fun place => place ≠ []) do
    let path := (← IO.currentDir) / placeText place
    if ← path.isDir then
      disk := { disk with nodes := disk.nodes.insert place .folder }
    else if ← path.pathExists then
      let bytes ← IO.FS.readBinFile path
      disk := { disk with nodes := disk.nodes.insert place (.file (.ofBytes bytes.toList)) }
  return disk

/-- Makes the disk what it has become. -/
def writeDisk (before after : Disk) : IO Unit := do
  for (place, node) in after.nodes.entries do
    if before.node? place ≠ some node then
      match node with
      | .folder => IO.FS.createDirAll (placeText place)
      | .file (.text s) => IO.FS.writeFile (placeText place) s
      | .file (.binary bytes) => IO.FS.writeBinFile (placeText place) ⟨bytes.toArray⟩

/-- Runs a command line in this process, and tells the status with which to end. -/
def program (words : List String) : IO UInt32 := do
  let vars ← readVariables
  let folder := (Path.ofText (← IO.FS.realPath ".").toString).parts
  let disk ← readDisk folder (Cli.reach vars folder words)
  let result := Cli.run .yaml .words vars disk words
  writeDisk disk result.disk
  IO.print result.out
  IO.eprint result.err
  if let some crash := result.crash? then
    IO.eprintln ("Error: " ++ crash.message)
  return result.exitCode.toUInt32

end Rollout

/-- Runs the command line of this process. -/
def main (words : List String) : IO UInt32 :=
  Rollout.program words
