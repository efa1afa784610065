import Rollout.Settings.Dialect

/-!
# Loading settings

The settings file is looked for in the working folder and in the folders around it.  A
file that is broken is an error and never passed over.
-/

namespace Rollout.Settings

/-- The name of the settings file. -/
def fileName : String := "confdeploy.yml"

/-- The most folders that are looked into. -/
def searchLimit : Nat := 20

/-- What is wrong with the settings. -/
inductive Problem (ε : Type) where
  /-- The file is not there. -/
  | notFound (path : Path)
  /-- The disk does not give the file away. -/
  | unreadable (path : Path) (fault : Disk.Fault)
  /-- The file is not of the language. -/
  | malformed (path : Path)
  /-- The file holds something other than a map. -/
  | notMap (path : Path) (typeName : String)
  /-- A variable that should be a switch is none. -/
  | badSwitch (variableName value : String)
  /-- The data does not fit. -/
  | invalid (issues : ε)
deriving DecidableEq, Repr

/-- The wording of a problem. -/
def Problem.message {ε : Type} : Problem ε → String
  | .notFound path => s!"Settings file not found: {path.toText}"
  | .unreadable path _ => s!"Cannot read {path.toText}"
  | .malformed path => s!"Invalid YAML in {path.toText}"
  | .notMap path typeName => s!"Expected a YAML mapping in {path.toText}, got {typeName}"
  | .badSwitch name value => s!"{name} must be a boolean (true/false), got {Text.quote value}"
  | .invalid _ => "Invalid settings"

/-- Why there are no settings. -/
inductive Failure (φ ε : Type) where
  /-- Because of a problem with them. -/
  | problem (p : Problem ε)
  /-- Because the file is no text. -/
  | notText
  /-- Because the disk cannot tell about the file. -/
  | disk (fault : Disk.Fault)
  /-- Because the text is rejected for another reason than that it is not of the language. -/
  | rejected (reason : φ)
deriving DecidableEq, Repr

/-- Where a settings file may be, seen from a folder: in the folder and in those around it,
innermost first, as far as `more` of them. -/
def candidates : (more : Nat) → (folder : List String) → List Path
  | 0, _ => []
  | more + 1, folder =>
    ⟨"/", folder ++ [fileName]⟩
      :: if folder = [] then [] else candidates more folder.dropLast

/-- The first of some paths that leads to a file. -/
def firstFile (disk : Disk) : (paths : List Path) → Except Disk.Fault (Option Path)
  | [] => .ok none
  | path :: rest =>
    match disk.isFile path with
    | .error fault => .error fault
    | .ok true => .ok (some path)
    | .ok false => firstFile disk rest

/-- The nearest settings file, seen from a folder or else from the working folder. -/
def find? (disk : Disk) (start : Option Path) : Except Disk.Fault (Option Path) :=
  let folder := start.getD ⟨"", []⟩
  if folder.hasNul then .error .nul
  else firstFile disk (candidates searchLimit (disk.resolve folder).parts)

/-- The settings file that is named, or else the nearest one. -/
def locate? (disk : Disk) : (path : Option Path) → Except Disk.Fault (Option Path)
  | some path => .ok (some path)
  | none => find? disk none

section

variable {V φ ε : Type} (d : Dialect V φ ε)

/-- The entries of a settings file. -/
def readFile (disk : Disk) (path : Path) : Except (Failure φ ε) (List (V × V)) :=
  match disk.isFile path with
  | .error fault => .error (.disk fault)
  | .ok false => .error (.problem (.notFound path))
  | .ok true =>
    match disk.read path with
    | .error fault => .error (.problem (.unreadable path fault))
    | .ok (.binary _) => .error .notText
    | .ok (.text s) =>
      match d.parse (Text.unifyLines s.toList) with
      | .error reason =>
        if d.isMalformed reason then .error (.problem (.malformed path))
        else .error (.rejected reason)
      | .ok v =>
        match d.view v with
        | .nothing => .ok []
        | .map entries => .ok entries
        | .other typeName => .error (.problem (.notMap path typeName))

end

/-- The fields that are switches, with the variables that take precedence over them. -/
def switches : List (String × String) :=
  [("dry_run", "CONFDEPLOY_DRY_RUN"), ("continue_on_error", "CONFDEPLOY_CONTINUE_ON_ERROR")]

/-- The fields that are texts, with the variables that take precedence over them unless
they are empty. -/
def textFields : List (String × String) :=
  [("log_level", "CONFDEPLOY_LOG_LEVEL"), ("stubs_folder", "CONFDEPLOY_STUBS_FOLDER")]

section

variable {V φ ε : Type} (d : Dialect V φ ε)

/-- The entries with the variables for switches put in. -/
def overrideSwitches (vars : Variables) : List (String × String) → List (V × V) →
    Except (Problem ε) (List (V × V))
  | [], entries => .ok entries
  | (field, name) :: rest, entries =>
    match vars.find? name with
    | none => overrideSwitches vars rest entries
    | some value =>
      match Text.switch? value with
      | none => .error (.badSwitch name value)
      | some b => overrideSwitches vars rest (d.setEntry field (d.ofBool b) entries)

/-- The entries with the variables for texts put in. -/
def overrideTexts (vars : Variables) (entries : List (V × V)) : List (V × V) :=
  textFields.foldl (fun entries (field, name) =>
    match (vars.find? name).bind nonempty? with
    | none => entries
    | some value => d.setEntry field (d.ofText value) entries) entries

/-- The settings that the entries of a file and the variables amount to. -/
def settle (vars : Variables) (entries : List (V × V)) : Except (Problem ε) Settings :=
  match overrideSwitches d vars switches entries with
  | .error p => .error p
  | .ok entries => (d.validate (overrideTexts d vars entries)).mapError .invalid

/-- The settings, from a file or else from the nearest settings file, and from the
variables. -/
def load (vars : Variables) (disk : Disk) (path : Option Path) :
    Except (Failure φ ε) Settings :=
  match locate? disk path with
  | .error fault => .error (.disk fault)
  | .ok none => (settle d vars []).mapError .problem
  | .ok (some path) =>
    match readFile d disk path with
    | .error e => .error e
    | .ok entries => (settle d vars entries).mapError .problem

end

end Rollout.Settings
