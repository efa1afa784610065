import Mathlib.Tactic.Use
import Rollout.Proofs.Template.Pieces

/-!
# Texts stand as they are given

A template is filled once, and nothing that is put into it is looked at again.  For a property
that is a text, the payload is therefore made of fixed parts with this text between them, as
often as a block names the property, whatever the text holds.
-/

namespace Rollout.Template

variable {vars : Variables} {others : Properties} {k : String}

/-- A piece that is a block for a property of a name. -/
def Piece.names (k : String) : Piece → Bool
  | .char _ => false
  | .block inner => Placeholder.ofInner inner = .property k

/-- A placeholder for anything else is filled without regard to a property. -/
theorem fill_insert_of_ne
    {p : Placeholder} (h : p ≠ .property k) (value : Value) :
  fill vars (others.insert k value) p = fill vars others p
  := by
  cases p with
  | «variable» | unsupported => rfl
  | property key =>
    have hkey : k ≠ key := fun hkey => h (hkey ▸ rfl)
    rw [fill, fill, Table.find?_insert, if_neg hkey]

/-- A piece that does not name a property is filled without regard to it. -/
theorem fillPiece_insert_of_not_names
    {p : Piece} (h : p.names k = false) (value : Value) :
  fillPiece vars (others.insert k value) p = fillPiece vars others p
  := by
  cases p with
  | char => rfl
  | block inner => rw [fillPiece, fillPiece, fill_insert_of_ne (of_decide_eq_false h)]

/-- A block that names a property is filled with the text of it. -/
theorem fillPiece_insert_of_names
    {p : Piece} (h : p.names k = true) {value : Value} {text : String}
    (hvalue : value.text? = some text) :
  fillPiece vars (others.insert k value) p = .ok text.toList
  := by
  have hformat : value.format = .ok text := by
    cases value with
    | text | fragment =>
      cases hvalue
      rfl
    | null | bool | int | float | list | map => cases hvalue
  cases p with
  | char => cases h
  | block inner =>
    rw [fillPiece, of_decide_eq_true h, fill, Table.find?_insert, if_pos rfl]
    simp only [hformat]
    rfl

/-- Pieces fail alike for all texts of a property, or they are filled with fixed parts that have
the text between them. -/
theorem fillPieces_insert
    (vars : Variables) (others : Properties) (k : String) (ps : List Piece) :
  (∃ failure, ∀ value text, value.text? = some text →
      fillPieces vars (others.insert k value) ps = .error failure)
    ∨ ∃ parts : List (List Char), parts.length = ps.countP (Piece.names k) + 1
      ∧ ∀ value text, value.text? = some text →
        fillPieces vars (others.insert k value) ps = .ok (text.toList.intercalate parts)
  := by
  induction ps with
  | nil =>
    right
    refine ⟨[[]], rfl, ?_⟩
    intro value text _
    rfl
  | cons p ps ih =>
    cases hnames : p.names k with
    | true =>
      rcases ih with ⟨failure, hfails⟩ | ⟨parts, hlength, hfills⟩
      · left
        use failure
        intro value text hvalue
        rw [fillPieces_cons, fillPiece_insert_of_names hnames hvalue, hfails value text hvalue]
        rfl
      · right
        use [] :: parts
        constructor
        · rw [List.length_cons, hlength, List.countP_cons_of_pos hnames]
        · intro value text hvalue
          rw [fillPieces_cons, fillPiece_insert_of_names hnames hvalue, hfills value text hvalue]
          cases parts with
          | nil => cases hlength
          | cons part parts =>
            rw [List.intercalate_cons_cons]
            rfl
    | false =>
      have hcount : (p :: ps).countP (Piece.names k) = ps.countP (Piece.names k) :=
        List.countP_cons_of_neg (by simp [hnames])
      simp only [fillPieces_cons, fillPiece_insert_of_not_names hnames, hcount]
      cases fillPiece vars others p with
      | error failure =>
        left
        use failure
        intro value text _
        rfl
      | ok chars =>
        rcases ih with ⟨failure, hfails⟩ | ⟨parts, hlength, hfills⟩
        · left
          use failure
          intro value text hvalue
          rw [hfails value text hvalue]
          rfl
        · cases parts with
          | nil => cases hlength
          | cons part parts =>
            right
            use (chars ++ part) :: parts, hlength
            intro value text hvalue
            rw [hfills value text hvalue]
            cases parts with
            | nil => simp [Except.bind, Except.map]
            | cons => simp [Except.bind, Except.map, List.intercalate_cons_cons]

/-- The blocks for a property are the pieces that name it. -/
theorem count_placeholders
    (k : String) (s : List Char) :
  (placeholders s).count (.property k) = (pieces s).countP (Piece.names k)
  := by
  rw [placeholders, List.count_filterMap]
  apply List.countP_congr
  intro p _
  cases p with
  | char => simp [Piece.names]
  | block inner => simp [Piece.names]

/-- To render a template fails alike for all texts of a property, or each of them stands as it is
between fixed parts, once for each block that names the property. -/
theorem render_verbatim
    (vars : Variables) (others : Properties) (k : String) (t : Template) :
  (∃ failure, ∀ value text, value.text? = some text →
      t.render vars (others.insert k value) = .error failure)
    ∨ ∃ parts : List String,
      parts.length = (placeholders t.content.toList).count (.property k) + 1
      ∧ ∀ value text, value.text? = some text →
        t.render vars (others.insert k value) = .ok (text.intercalate parts)
  := by
  simp only [render, count_placeholders]
  rcases fillPieces_insert vars others k (pieces t.content.toList)
    with ⟨failure, hfails⟩ | ⟨parts, hlength, hfills⟩
  · left
    use failure
    intro value text hvalue
    rw [hfails value text hvalue]
    rfl
  · right
    use parts.map String.ofList
    constructor
    · rw [List.length_map, hlength]
    · intro value text hvalue
      rw [hfills value text hvalue, Except.map]
      apply congrArg
      rw [String.ext_iff, String.toList_ofList, String.toList_intercalate, List.map_map]
      simp [Function.comp_def]

end Rollout.Template

namespace Rollout

/-! ### A ticket -/

namespace Sample

/-- A ticket with a code in two places, and with a variable of the same name. -/
def ticket : Template :=
  ⟨"ticket.txt", "<\x7b\x7bcode\x7d\x7d|\x7b\x7b.Env.code\x7d\x7d|\x7b\x7b .code \x7d\x7d>"⟩

def ticketVariables : Variables :=
  .ofList [("code", "E")]

end Sample

/-- Whatever the code is, it stands in the two places of the ticket as it is. -/
theorem render_verbatim_ticket :
  ∃ parts : List String, parts.length = 3
    ∧ ∀ value text, value.text? = some text →
      Sample.ticket.render Sample.ticketVariables (Table.empty.insert "code" value)
        = .ok (text.intercalate parts)
  := by
  have hcount : (Template.placeholders Sample.ticket.content.toList).count (.property "code") = 2
    := by decide +kernel
  have hfill : Sample.ticket.render Sample.ticketVariables
      (Table.empty.insert "code" (.text "")) = .ok "<|E|>" := rfl
  rcases Template.render_verbatim Sample.ticketVariables .empty "code" Sample.ticket
    with ⟨failure, hfails⟩ | ⟨parts, hlength, hfills⟩
  · rw [hfails (.text "") "" rfl] at hfill
    cases hfill
  · rw [hcount] at hlength
    exact ⟨parts, hlength, hfills⟩

end Rollout
