import Rollout.Files.Disk
import Rollout.Json.Printer
import Rollout.Log.Line
import Rollout.Text.Blank
import Rollout.Variables

/-!
# Stubs

A recorder keeps a stub of every deployed object, grouped by the types of the configs,
and writes them into a folder: one file for each payload, and one file for each type.
A file that cannot be written is logged and left out.
-/

namespace Rollout

/-- A deployed object. -/
structure Stub where
  /-- Its remote identifier. -/
  id : String
  name : String
  /-- The generated identity that was sent along, if there was one. -/
  entityId : Option String
deriving DecidableEq, Repr

namespace Stub

/-- A stub as a JSON object, without an absent identity. -/
def toJson (s : Stub) : Json :=
  .object ([(Json.points "id", .ofText s.id), (Json.points "name", .ofText s.name)]
    ++ match s.entityId with
      | none => []
      | some id => [(Json.points "entity_id", .ofText id)])

/-- The text of the file for a list of stubs. -/
def fileText (stubs : List Stub) : String :=
  String.ofList (Json.array (stubs.map toJson)).render

end Stub

/-- What a recorder has recorded. -/
structure Recorder where
  /-- The folder that is written to; without one the recorder is disabled. -/
  folder : Option Path
  /-- The stubs by the types of their configs. -/
  stubs : Table String (List Stub)
deriving Inhabited

namespace Recorder

/-- The variable that names the folder. -/
def folderVariable : String := "CONFDEPLOY_STUBS_FOLDER"

/-- The recorder for a folder, with nothing recorded. -/
def ofFolder (folder : Option Path) : Recorder :=
  ⟨folder, .empty⟩

/-- The recorder for the folder that the variable names, with nothing recorded. -/
def ofVariables (vars : Variables) : Recorder :=
  ofFolder (match Text.trim ((vars.find? folderVariable).getD "") with
    | "" => none
    | folder => some (Path.ofText folder))

/-- Whether anything is written. -/
def enabled (r : Recorder) : Bool :=
  r.folder.isSome

/-- The stubs of a type, oldest first. -/
def stubsOf (r : Recorder) (type : String) : List Stub :=
  (r.stubs.find? type).getD []

/-- The recorder with one more stub of a type. -/
def record (r : Recorder) (type : String) (stub : Stub) : Recorder :=
  { r with stubs := r.stubs.insert type (r.stubsOf type ++ [stub]) }

/-- What a writing step leaves behind. -/
structure Written (α : Type) where
  /-- What was written.  A path that no file can have ends the step. -/
  result : Except Disk.Fault α
  disk : Disk
  /-- The lines that were logged. -/
  log : Log

/-- A failure to write is logged with a message, unless the path is one that no file can
have. -/
def failed {α : Type} (fault : Disk.Fault) (disk : Disk) (message : String) (a : α) : Written α :=
  match fault with
  | .nul => ⟨.error .nul, disk, []⟩
  | _ => ⟨.ok a, disk, [⟨.error, message⟩]⟩

/-- The path of the file for a type. -/
def typePath (folder : Path) (type : String) : Path :=
  folder.join (Path.ofText (type ++ ".json"))

/-- The path of the file for a payload. -/
def payloadPath (folder : Path) (type id : String) : Path :=
  folder.join (Path.ofText (type ++ "_" ++ id ++ ".json"))

/-- Writes the files for the types one after another. -/
def writeTypes (folder : Path) (disk : Disk) : List (String × List Stub) → Written (List Path)
  | [] => ⟨.ok [], disk, []⟩
  | (type, stubs) :: rest =>
    let path := typePath folder type
    match disk.write path (.text (Stub.fileText stubs)) with
    | .ok disk =>
      let w := writeTypes folder disk rest
      ⟨w.result.map (path :: ·), w.disk, w.log⟩
    | .error fault =>
      let f := failed fault disk s!"Failed to write stubs file {path.toText}" ()
      match f.result with
      | .error fault => ⟨.error fault, disk, f.log⟩
      | .ok () =>
        let w := writeTypes folder disk rest
        ⟨w.result, w.disk, f.log ++ w.log⟩

/-- Writes one file for each type, and gives the paths that were written. -/
def writeAll (r : Recorder) (disk : Disk) : Written (List Path) :=
  match r.folder with
  | none => ⟨.ok [], disk, []⟩
  | some folder =>
    match disk.ensureFolder folder with
    | (disk, some fault) =>
      failed fault disk s!"Failed to create stubs folder {folder.toText}" []
    | (disk, none) => writeTypes folder disk r.stubs.entries

/-- Writes one payload, and gives its path if it was written. -/
def writePayload (r : Recorder) (disk : Disk) (type id payload : String) : Written (Option Path) :=
  match r.folder with
  | none => ⟨.ok none, disk, []⟩
  | some folder =>
    let path := payloadPath folder type id
    let message := s!"Failed to write stubs value file {path.toText}"
    match disk.ensureFolder folder with
    | (disk, some fault) => failed fault disk message none
    | (disk, none) =>
      match disk.write path (.text payload) with
      | .ok disk => ⟨.ok (some path), disk, []⟩
      | .error fault => failed fault disk message none

end Recorder

end Rollout
