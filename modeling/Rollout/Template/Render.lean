import Rollout.Template.Placeholder
import Rollout.Text.Quoted
import Rollout.Value
import Rollout.Variables

/-!
# Rendering templates

Every block of a template is replaced by the text of its value, once and as it is.  A
property wins over the variable of the same name, and a block without a value ends the
rendering.
-/

namespace Rollout

/-- The payload text of a config, with an identifier for messages. -/
structure Template where
  /-- The identifier. -/
  id : String
  /-- The text, with its placeholders. -/
  content : String
deriving DecidableEq, Repr, Inhabited

namespace Template

/-- A block that has no value. -/
inductive Gap where
  /-- There is no such variable. -/
  | noVariable (key : String)
  /-- There is neither a property nor a variable of that name. -/
  | noEntry (key : String)
  /-- The block names nothing that is supported. -/
  | unsupported (inner : String)
deriving DecidableEq, Repr

/-- The key of a block that has no value. -/
def Gap.key : Gap → String
  | .noVariable key => key
  | .noEntry key => key
  | .unsupported inner => Text.trim inner

/-- The wording for a block that has no value. -/
def Gap.message (templateId : String) : Gap → String
  | .noVariable key =>
    s!"template {Text.quote templateId}: environment has no entry for key \"{key}\""
  | .noEntry key => s!"template {Text.quote templateId}: map has no entry for key \"{key}\""
  | .unsupported inner =>
    let block := Text.quote ("\x7b\x7b" ++ inner ++ "\x7d\x7d")
    s!"template {Text.quote templateId}: unsupported placeholder {block}"

/-- Why a template cannot be rendered. -/
inductive Failure where
  /-- A block has no value. -/
  | unresolved (gap : Gap)
  /-- A property has no text. -/
  | unwritable (reason : Unwritable)
deriving DecidableEq, Repr

/-- The text that a placeholder is replaced by. -/
def fill (vars : Variables) (properties : Properties) : Placeholder → Except Failure String
  | .variable key =>
    match vars.find? key with
    | some s => .ok s
    | none => .error (.unresolved (.noVariable key))
  | .property key =>
    match properties.find? key with
    | some v => v.format.mapError .unwritable
    | none =>
      match vars.find? key with
      | some s => .ok s
      | none => .error (.unresolved (.noEntry key))
  | .unsupported inner => .error (.unresolved (.unsupported inner))

/-- The characters that a piece is replaced by. -/
def fillPiece (vars : Variables) (properties : Properties) :
    Piece → Except Failure (List Char)
  | .char c => .ok [c]
  | .block inner => (fill vars properties (.ofInner inner)).map String.toList

/-- The pieces replaced one after another, up to the first that cannot be. -/
def fillPieces (vars : Variables) (properties : Properties) :
    List Piece → Except Failure (List Char)
  | [] => .ok []
  | p :: rest =>
    match fillPiece vars properties p with
    | .error e => .error e
    | .ok s =>
      match fillPieces vars properties rest with
      | .error e => .error e
      | .ok t => .ok (s ++ t)

theorem fillPieces_cons
    (vars : Variables) (properties : Properties) (p : Piece) (rest : List Piece) :
  fillPieces vars properties (p :: rest) = (fillPiece vars properties p).bind
    (fun s => (fillPieces vars properties rest).map (s ++ ·))
  := by
  rw [fillPieces]
  cases fillPiece vars properties p with
  | error e => rfl
  | ok s => cases fillPieces vars properties rest <;> rfl

/-- Whether more than so many lists and maps inside one another are entered to replace a piece. -/
def pieceExceeds (levels : Nat) (properties : Properties) : Piece → Bool
  | .char _ => false
  | .block inner =>
    match Placeholder.ofInner inner with
    | .property key => (properties.find? key).any (Value.exceeds levels)
    | _ => false

/-- Whether more than so many levels are entered to replace pieces, up to the first that cannot
be. -/
def piecesExceed (levels : Nat) (vars : Variables) (properties : Properties) : List Piece → Bool
  | [] => false
  | p :: rest =>
    pieceExceeds levels properties p
      || ((fillPiece vars properties p).isOk && piecesExceed levels vars properties rest)

/-- Whether more than so many levels are entered to render a template. -/
def exceeds (levels : Nat) (vars : Variables) (properties : Properties) (t : Template) : Bool :=
  piecesExceed levels vars properties (pieces t.content.toList)

/-- The text of a template with all its blocks replaced. -/
def render (vars : Variables) (properties : Properties) (t : Template) :
    Except Failure String :=
  (fillPieces vars properties (pieces t.content.toList)).map String.ofList

end Template

end Rollout
