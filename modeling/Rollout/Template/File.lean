import Rollout.Files.Disk
import Rollout.Template.Render

/-!
# Template files

A template may be the content of a file.  Its identifier is the path of the file.
-/

namespace Rollout.Template

/-- Why a file is no template. -/
inductive Unreadable where
  /-- The file cannot be read. -/
  | disk (fault : Disk.Fault)
  /-- The file is no text. -/
  | notText
deriving DecidableEq, Repr

/-- The template that a file holds. -/
def ofFile (disk : Disk) (path : Path) : Except Unreadable Template :=
  match disk.read path with
  | .error fault => .error (.disk fault)
  | .ok (.binary _) => .error .notText
  | .ok (.text s) => .ok ⟨path.toText, String.ofList (Text.unifyLines s.toList)⟩

end Rollout.Template
