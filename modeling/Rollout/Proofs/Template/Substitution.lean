import Rollout.Proofs.Json.StringBody
import Rollout.Proofs.Template.Keys
import Rollout.Proofs.Template.Pieces

/-!
# Texts in quoted templates

A template may be a JSON string with placeholders inside its quotes.  Where the properties
that it names are plain texts, it is always filled, and what comes out is read as one string:
the literal parts with the texts between them, each text exactly as it was given.
-/

namespace Rollout

/-- What is written for a text inside a string spells the text. -/
theorem Value.spells_escapeText
    (s : String) :
  Json.Spells (escapeText s).toList (Json.points s)
  := by
  rw [escapeText, String.toList_ofList]
  apply Json.spells_stringBody

namespace Template

open Rollout.Text

/-! ### Quoted templates -/

/-- A part of a quoted template. -/
inductive Part where
  /-- A text that is kept, with what it spells. -/
  | literal (text : List Char) (meaning : String)
  /-- A placeholder, by the text between its braces, for the property of a name, with the text
  that this property is. -/
  | slot (inner : List Char) (key value : String)

namespace Part

/-- The part as it stands in the template. -/
def source : Part → List Char
  | .literal text _ => text
  | .slot inner _ _ => '{' :: '{' :: (inner ++ ['}', '}'])

/-- The part as it stands in the payload. -/
def target : Part → List Char
  | .literal text _ => text
  | .slot _ _ value => (Value.escapeText value).toList

/-- The text that the part stands for. -/
def meaning : Part → String
  | .literal _ meaning => meaning
  | .slot _ _ value => value

/-- A literal part holds no opening brace and is by itself the inside of a JSON string with its
meaning, and a placeholder names a property that is a plain text. -/
inductive Fits (properties : Properties) : Part → Prop where
  | literal {text : List Char} {meaning : String} (no_brace : '{' ∉ text)
      (reads : Json.parse (doubleQuote :: (text ++ [doubleQuote])) = .ok (.ofText meaning)) :
      Fits properties (.literal text meaning)
  | slot {inner : List Char} {key value : String}
      (names : Placeholder.ofInner inner = .property key)
      (bound : properties.find? key = some (.text value)) :
      Fits properties (.slot inner key value)

end Part

/-- The template with the parts between quotes. -/
def quoted (id : String) (parts : List Part) : Template :=
  ⟨id, String.ofList (doubleQuote :: (parts.flatMap Part.source ++ [doubleQuote]))⟩

variable {vars : Variables} {properties : Properties}

/-- A part is filled as it stands in the payload. -/
theorem Part.Fits.fill
    {part : Part} (h : part.Fits properties) (rest : List Char) :
  fillPieces vars properties.escape (scan none (part.source ++ rest))
    = (fillPieces vars properties.escape (scan none rest)).map (part.target ++ ·)
  := by
  cases h with
  | literal no_brace _ =>
    rw [source, scan_append no_brace, fillPieces_chars]
    rfl
  | @slot inner key value names bound =>
    have hfill : Template.fill vars properties.escape (.ofInner inner)
        = .ok (Value.escapeText value) := by
      rw [names, Template.fill, Properties.find?_escape, bound]
      rfl
    rw [source, List.cons_append, List.cons_append, List.append_assoc,
      List.cons_append, List.singleton_append, scan_block (notMem_of_ofInner names),
      fillPieces_block hfill]
    rfl

/-- A part spells its meaning in the payload. -/
theorem Part.Fits.spells
    {part : Part} (h : part.Fits properties) :
  Json.Spells part.target (Json.points part.meaning)
  := by
  cases h with
  | literal _ reads =>
    apply (Json.parse_quoted_iff Json.isSurrogate_of_mem_points).mp reads
  | slot => apply Value.spells_escapeText

theorem fillPieces_parts
    {parts : List Part} (h : ∀ part ∈ parts, part.Fits properties) (rest : List Char) :
  fillPieces vars properties.escape (scan none (parts.flatMap Part.source ++ rest))
    = (fillPieces vars properties.escape (scan none rest)).map (parts.flatMap Part.target ++ ·)
  := by
  induction parts with
  | nil => cases hrest : fillPieces vars properties.escape (scan none rest) <;>
      simp [hrest, Except.map]
  | cons part parts ih =>
    obtain ⟨hpart, hparts⟩ := List.forall_mem_cons.mp h
    rw [List.flatMap_cons, List.append_assoc, hpart.fill, ih hparts]
    cases fillPieces vars properties.escape (scan none rest) <;> simp [Except.map]

theorem spells_parts
    {parts : List Part} (h : ∀ part ∈ parts, part.Fits properties) :
  Json.Spells (parts.flatMap Part.target) (Json.points (String.join (parts.map Part.meaning)))
  := by
  induction parts with
  | nil => exact .nil
  | cons part parts ih =>
    obtain ⟨hpart, hparts⟩ := List.forall_mem_cons.mp h
    rw [List.flatMap_cons, List.map_cons, String.join_cons, Json.points, String.toList_append,
      List.map_append]
    apply hpart.spells.append (ih hparts)

/-- A quoted template whose placeholders name plain texts is always filled, and the payload is
read as the one text that its parts stand for. -/
theorem parse_render_quoted
    {parts : List Part} (h : ∀ part ∈ parts, part.Fits properties) (vars : Variables)
    (id : String) :
  ∃ payload, (quoted id parts).render vars properties.escape = .ok payload
    ∧ Json.parse payload.toList = .ok (.ofText (String.join (parts.map Part.meaning)))
  := by
  use String.ofList (doubleQuote :: (parts.flatMap Part.target ++ [doubleQuote]))
  constructor
  · rw [render, quoted, String.toList_ofList, pieces, scan_cons_of_ne (by decide), fillPieces,
      fillPieces_parts h]
    rfl
  · rw [String.toList_ofList]
    apply (Json.parse_quoted_iff Json.isSurrogate_of_mem_points).mpr (spells_parts h)

end Template

/-! ### A heading -/

namespace Sample

/-- A heading between brackets, with a remark behind it. -/
def heading : List Template.Part :=
  [.literal "\\u00a7 [".toList "§ [", .slot " .title ".toList "title" "\"\x7b\x7btitle\x7d\x7d\"\n",
    .literal "]\x7d\x7d: ".toList "]\x7d\x7d: ", .slot "remark".toList "remark" "\\n"]

/-- The title looks like a placeholder, and the remark like an escape. -/
def headingProperties : Properties :=
  .ofList [("title", .text "\"\x7b\x7btitle\x7d\x7d\"\n"), ("remark", .text "\\n")]

end Sample

/-- The title and the remark of the heading come out as they were given. -/
theorem parse_render_quoted_heading :
  (∀ part ∈ Sample.heading, part.Fits Sample.headingProperties)
    ∧ ∃ payload, (Template.quoted "heading.json" Sample.heading).render .empty
        Sample.headingProperties.escape = .ok payload
      ∧ Json.parse payload.toList = .ok (.ofText "§ [\"\x7b\x7btitle\x7d\x7d\"\n]\x7d\x7d: \\n")
  := by
  have hfits : ∀ part ∈ Sample.heading, part.Fits Sample.headingProperties := by
    simp only [Sample.heading, List.forall_mem_cons]
    refine ⟨.literal ?_ rfl, .slot ?_ rfl, .literal ?_ rfl, .slot ?_ rfl, ?_⟩
    · decide +kernel
    · decide +kernel
    · decide +kernel
    · decide +kernel
    · apply List.forall_mem_nil
  use hfits
  apply Template.parse_render_quoted hfits

end Rollout
