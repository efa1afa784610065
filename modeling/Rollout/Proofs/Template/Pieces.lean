import Rollout.Template.Render

/-!
# The pieces of a template

A template is taken apart from its front: a text without an opening brace is its characters,
and two opening braces with all up to the next two closing braces are a block.  The pieces are
filled one by one, so a template that is put together is filled part by part.
-/

namespace Rollout.Template

variable {vars : Variables} {properties : Properties}

/-! ### Taking a template apart -/

/-- A text without an opening brace is its characters. -/
theorem scan_append
    {text : List Char} (h : '{' ∉ text) (rest : List Char) :
  scan none (text ++ rest) = text.map .char ++ scan none rest
  := by
  induction text with
  | nil => rfl
  | cons c text ih =>
    rw [List.mem_cons, not_or] at h
    rw [List.cons_append, scan_cons_of_ne (Ne.symm h.1), ih h.2]
    rfl

/-- Two closing braces stand in a text. -/
def Closes (s : List Char) : Prop :=
  ['}', '}'] <:+: s

theorem closes_cons_iff
    {c : Char} {s : List Char} :
  Closes (c :: s) ↔ (c = '}' ∧ s.head? = some '}') ∨ Closes s
  := by
  rw [Closes, List.infix_cons_iff, List.cons_prefix_cons, eq_comm]
  cases s with
  | nil => simp [Closes]
  | cons d s => simp [Closes, eq_comm]

theorem not_closes_of_notMem
    {inner : List Char} (h : '}' ∉ inner) :
  ¬ Closes (inner ++ ['}'])
  := by
  intro hcloses
  have hcount := hcloses.sublist.count_le '}'
  simp [List.count_eq_zero.mpr h] at hcount

/-- An open block goes on to the next two closing braces. -/
theorem scan_open_until
    {inner : List Char} (h : ¬ Closes (inner ++ ['}'])) (before rest : List Char) :
  scan (some before) (inner ++ '}' :: '}' :: rest)
    = .block (before.reverse ++ inner) :: scan none rest
  := by
  induction inner generalizing before with
  | nil =>
    rw [List.append_nil]
    rfl
  | cons c inner ih =>
    rw [List.cons_append, closes_cons_iff, not_or] at h
    have hhead : c = '}' → (inner ++ '}' :: '}' :: rest).head? ≠ some '}' := by
      cases inner with
      | nil => exact not_and.mp h.1
      | cons d inner => exact not_and.mp h.1
    rw [List.cons_append, scan_open_cons hhead, ih h.2, List.reverse_cons, List.append_assoc,
      List.singleton_append]

/-- Braces around a text without a closing brace are a block. -/
theorem scan_block
    {inner : List Char} (h : '}' ∉ inner) (rest : List Char) :
  scan none ('{' :: '{' :: (inner ++ '}' :: '}' :: rest)) = .block inner :: scan none rest
  := scan_open_until (not_closes_of_notMem h) [] rest

/-! ### Filling a template -/

/-- What is kept is filled as it is. -/
theorem fillPieces_chars
    (text : List Char) (rest : List Piece) :
  fillPieces vars properties (text.map .char ++ rest)
    = (fillPieces vars properties rest).map (text ++ ·)
  := by
  induction text with
  | nil => cases h : fillPieces vars properties rest <;> simp [h, Except.map]
  | cons c text ih =>
    rw [List.map_cons, List.cons_append, fillPieces_cons, ih]
    cases fillPieces vars properties rest <;> rfl

/-- Characters are filled as they are. -/
theorem fillPieces_map_char
    (text : List Char) :
  fillPieces vars properties (text.map .char) = .ok text
  := by
  have hchars : fillPieces vars properties (text.map .char ++ [])
    = (fillPieces vars properties []).map (text ++ ·) := fillPieces_chars text []
  have hnil : fillPieces vars properties [] = .ok [] := rfl
  rw [List.append_nil, hnil] at hchars
  rw [hchars, Except.map, List.append_nil]

/-- A block with a text is filled with it. -/
theorem fillPieces_block
    {inner : List Char} {text : String}
    (h : fill vars properties (.ofInner inner) = .ok text) (rest : List Piece) :
  fillPieces vars properties (.block inner :: rest)
    = (fillPieces vars properties rest).map (text.toList ++ ·)
  := by
  have hpiece : fillPiece vars properties (.block inner) = .ok text.toList :=
    congrArg (Except.map String.toList) h
  rw [fillPieces_cons, hpiece]
  rfl

/-- A template is filled if its first piece has a text and the rest is filled. -/
theorem fillPieces_cons_eq_ok_iff
    {p : Piece} {rest : List Piece} {out : List Char} :
  fillPieces vars properties (p :: rest) = .ok out
    ↔ ∃ text out', fillPiece vars properties p = .ok text
      ∧ fillPieces vars properties rest = .ok out' ∧ out = text ++ out'
  := by
  rw [fillPieces_cons]
  cases fillPiece vars properties p with
  | error e => simp [Except.bind]
  | ok text =>
    cases fillPieces vars properties rest with
    | error e => simp [Except.bind, Except.map]
    | ok out' => simp [Except.bind, Except.map, eq_comm]

/-- Pieces are filled if those in front are filled and those behind. -/
theorem fillPieces_append_eq_ok_iff
    {before after : List Piece} {out : List Char} :
  fillPieces vars properties (before ++ after) = .ok out
    ↔ ∃ front back, fillPieces vars properties before = .ok front
      ∧ fillPieces vars properties after = .ok back ∧ out = front ++ back
  := by
  induction before generalizing out with
  | nil => simp [fillPieces]
  | cons p before ih =>
    rw [List.cons_append, fillPieces_cons_eq_ok_iff]
    constructor
    · rintro ⟨text, rest, htext, hrest, rfl⟩
      obtain ⟨front, back, hfront, hback, rfl⟩ := ih.mp hrest
      refine ⟨text ++ front, back, ?_, hback, ?_⟩
      · exact fillPieces_cons_eq_ok_iff.mpr ⟨text, front, htext, hfront, rfl⟩
      · rw [List.append_assoc]
    · rintro ⟨front, back, hfront, hback, rfl⟩
      obtain ⟨text, rest, htext, hrest, rfl⟩ := fillPieces_cons_eq_ok_iff.mp hfront
      refine ⟨text, rest ++ back, htext, ih.mpr ⟨rest, back, hrest, hback, rfl⟩, ?_⟩
      rw [List.append_assoc]

/-- A payload has the text of a value wherever a block of the template names a property: behind
what stands for the pieces in front of the block and before what stands for those behind it. -/
def Shows (t : Template) (vars : Variables) (properties : Properties) (payload key : String)
    (value : Value) : Prop :=
  ∀ before inner after, pieces t.content.toList = before ++ .block inner :: after →
    Placeholder.ofInner inner = .property key →
      ∃ front text back, fillPieces vars properties before = .ok front
        ∧ value.format = .ok text
        ∧ fillPieces vars properties after = .ok back
        ∧ payload.toList = front ++ (text.toList ++ back)

/-- A payload has the text of each property where the template names it. -/
theorem shows_of_render
    {t : Template} {payload : String} (h : t.render vars properties = .ok payload)
    {key : String} {value : Value} (hkey : properties.find? key = some value) :
  t.Shows vars properties payload key value
  := by
  intro before inner after hpieces hinner
  have hfilled : fillPieces vars properties (before ++ .block inner :: after)
      = .ok payload.toList := by
    rw [render, hpieces] at h
    cases hfill : fillPieces vars properties (before ++ .block inner :: after) with
    | error e =>
      rw [hfill] at h
      cases h
    | ok out =>
      rw [hfill] at h
      cases h
      rw [String.toList_ofList]
  obtain ⟨front, rest, hfront, hrest, hpayload⟩ := fillPieces_append_eq_ok_iff.mp hfilled
  obtain ⟨text, back, htext, hback, rfl⟩ := fillPieces_cons_eq_ok_iff.mp hrest
  have hfill : fillPiece vars properties (.block inner)
      = (value.format.mapError Failure.unwritable).map String.toList := by
    rw [fillPiece, hinner, fill, hkey]
  rw [hfill] at htext
  cases hformat : value.format with
  | error e =>
    rw [hformat] at htext
    cases htext
  | ok s =>
    rw [hformat] at htext
    cases htext
    exact ⟨front, s, back, hfront, rfl, hback, hpayload⟩

end Rollout.Template
