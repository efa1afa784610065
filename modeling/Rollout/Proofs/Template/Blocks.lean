import Mathlib.Tactic.Use
import Rollout.Proofs.Template.Pieces

/-!
# Blocks

Every text falls into pieces in exactly one way.  A block begins at the first two opening
braces that are closed at all, it ends at the next two closing braces, and the search for
blocks goes on behind it.  Hence what is left between the blocks cannot close up to new ones:
a template that has been rendered without new opening braces has no blocks any more.
-/

namespace Rollout.Template

/-- The pieces that a text falls into. -/
inductive Scans : List Char → List Piece → Prop where
  | nil : Scans [] []
  /-- A character is kept unless it is the first of two opening braces. -/
  | char {c : Char} {rest : List Char} {ps : List Piece}
      (single : c = '{' → rest.head? ≠ some '{') (scans : Scans rest ps) :
      Scans (c :: rest) (.char c :: ps)
  /-- Two opening braces begin a block, and the next two closing braces end it. -/
  | block {inner rest : List Char} {ps : List Piece} (shortest : ¬ Closes (inner ++ ['}']))
      (scans : Scans rest ps) :
      Scans ('{' :: '{' :: (inner ++ '}' :: '}' :: rest)) (.block inner :: ps)
  /-- Two opening braces that are not closed are kept with all that follows. -/
  | unclosed {rest : List Char} (not_closes : ¬ Closes rest) :
      Scans ('{' :: '{' :: rest) (('{' :: '{' :: rest).map .char)

/-! ### Closing braces -/

/-- The first two closing braces of a text are found, if there are any. -/
theorem exists_closes
    (s : List Char) :
  (∃ inner rest, s = inner ++ '}' :: '}' :: rest ∧ ¬ Closes (inner ++ ['}'])) ∨ ¬ Closes s
  := by
  induction s with
  | nil => exact .inr (by simp [Closes])
  | cons c s ih =>
    by_cases hhere : c = '}' ∧ s.head? = some '}'
    · obtain ⟨rfl, hhead⟩ := hhere
      cases s with
      | nil => cases hhead
      | cons d rest =>
        obtain rfl := Option.some.inj hhead
        left
        use [], rest, rfl
        rw [List.nil_append, closes_cons_iff]
        simp [Closes]
    · rcases ih with ⟨inner, rest, rfl, hshortest⟩ | hnot
      · left
        use c :: inner, rest, rfl
        rw [List.cons_append, closes_cons_iff, not_or]
        refine ⟨?_, hshortest⟩
        rintro ⟨rfl, hhead⟩
        apply hhere
        cases inner with
        | nil => exact ⟨rfl, rfl⟩
        | cons d inner => exact ⟨rfl, hhead⟩
      · right
        rw [closes_cons_iff, not_or]
        exact ⟨hhere, hnot⟩

/-! ### Taking a text apart -/

/-- An open block that is not closed is its characters. -/
theorem scan_open_of_not_closes
    {s : List Char} (h : ¬ Closes s) (before : List Char) :
  scan (some before) s = ('{' :: '{' :: (before.reverse ++ s)).map .char
  := by
  induction s generalizing before with
  | nil =>
    rw [List.append_nil]
    rfl
  | cons c s ih =>
    rw [closes_cons_iff, not_or] at h
    rw [scan_open_cons (not_and.mp h.1), ih h.2, List.reverse_cons, List.append_assoc,
      List.singleton_append]

/-- A text falls into no other pieces than those that it is taken apart into. -/
theorem Scans.pieces_eq
    {s : List Char} {ps : List Piece} (h : Scans s ps) :
  pieces s = ps
  := by
  induction h with
  | nil => rfl
  | char single _ ih =>
    rw [pieces, scan_cons single]
    apply congrArg _ ih
  | block shortest _ ih =>
    have hopen := scan_open_until shortest []
    rw [pieces, scan, hopen]
    apply congrArg _ ih
  | unclosed not_closes =>
    rw [pieces, scan]
    apply scan_open_of_not_closes not_closes []

theorem exists_scans
    (s : List Char) :
  ∃ ps, Scans s ps
  := by
  induction hn : s.length using Nat.strongRecOn generalizing s with
  | ind n ih =>
    cases s with
    | nil => exact ⟨[], .nil⟩
    | cons c rest =>
      by_cases hdouble : c = '{' ∧ rest.head? = some '{'
      · obtain ⟨rfl, hhead⟩ := hdouble
        cases rest with
        | nil => cases hhead
        | cons d rest =>
          obtain rfl := Option.some.inj hhead
          rcases exists_closes rest with ⟨inner, rest, rfl, hshortest⟩ | hnot
          · obtain ⟨ps, hps⟩ := ih rest.length (by simp at hn; omega) rest rfl
            exact ⟨_, .block hshortest hps⟩
          · exact ⟨_, .unclosed hnot⟩
      · obtain ⟨ps, hps⟩ := ih rest.length (by simp at hn; omega) rest rfl
        exact ⟨_, .char (not_and.mp hdouble) hps⟩

/-- A text is taken apart into the pieces that it falls into. -/
theorem scans_pieces
    (s : List Char) :
  Scans s (pieces s)
  := by
  obtain ⟨ps, h⟩ := exists_scans s
  rw [h.pieces_eq]
  apply h

/-! ### What is left of the blocks -/

/-- A text without an opening brace is kept in front of any other one. -/
theorem Scans.append
    {text s : List Char} {ps : List Piece} (htext : '{' ∉ text) (h : Scans s ps) :
  Scans (text ++ s) (text.map .char ++ ps)
  := by
  induction text with
  | nil => apply h
  | cons c text ih =>
    rw [List.mem_cons, not_or] at htext
    apply Scans.char
    · intro hc
      exact absurd hc.symm htext.1
    · apply ih htext.2

variable {vars : Variables} {properties : Properties}

/-- A template that begins with no two opening braces is filled with no opening brace at its
front, unless it has one there. -/
theorem Scans.head?_filled
    {s : List Char} {ps : List Piece} (h : Scans s ps) {out : List Char}
    (hout : fillPieces vars properties ps = .ok out) (hhead : s.head? ≠ some '{') :
  out.head? ≠ some '{'
  := by
  cases h with
  | nil =>
    cases hout
    simp
  | char =>
    obtain ⟨text, rest, htext, -, rfl⟩ := fillPieces_cons_eq_ok_iff.mp hout
    cases htext
    apply hhead
  | block | unclosed => exact absurd rfl hhead

/-- What a template is filled to holds no block, if no text that stands for a block holds an
opening brace. -/
theorem Scans.filled
    {s : List Char} {ps : List Piece} (h : Scans s ps)
    (htexts : ∀ inner, .block inner ∈ ps → ∀ text,
      fill vars properties (.ofInner inner) = .ok text → '{' ∉ text.toList)
    {out : List Char} (hout : fillPieces vars properties ps = .ok out) :
  Scans out (out.map .char)
  := by
  induction h generalizing out with
  | nil =>
    cases hout
    exact .nil
  | char single scans ih =>
    obtain ⟨text, rest, htext, hrest, rfl⟩ := fillPieces_cons_eq_ok_iff.mp hout
    cases htext
    apply Scans.char
    · intro hc
      apply scans.head?_filled hrest (single hc)
    · apply ih _ hrest
      intro inner hinner
      apply htexts inner (List.mem_cons_of_mem _ hinner)
  | block shortest scans ih =>
    obtain ⟨text, rest, htext, hrest, rfl⟩ := fillPieces_cons_eq_ok_iff.mp hout
    rw [fillPiece] at htext
    cases hfill : fill vars properties (.ofInner _) with
    | error e =>
      rw [hfill] at htext
      cases htext
    | ok value =>
      rw [hfill] at htext
      cases htext
      rw [List.map_append]
      apply Scans.append
      · apply htexts _ List.mem_cons_self value hfill
      · apply ih _ hrest
        intro inner hinner
        apply htexts inner (List.mem_cons_of_mem _ hinner)
  | unclosed not_closes =>
    rw [fillPieces_map_char] at hout
    cases hout
    apply Scans.unclosed not_closes

/-- A text that holds no block is rendered as it is, whatever the properties and the variables
are. -/
theorem render_of_scans
    {out : String} (h : Scans out.toList (out.toList.map .char)) (id : String) :
  render vars properties ⟨id, out⟩ = .ok out
  := by
  rw [render, h.pieces_eq, fillPieces_map_char, Except.map, String.ofList_toList]

theorem placeholders_of_scans
    {s : List Char} (h : Scans s (s.map .char)) :
  placeholders s = []
  := by
  rw [placeholders, h.pieces_eq, List.filterMap_map, List.filterMap_eq_nil_iff]
  intro c hc
  rfl

/-- If no text that is put in the place of a block holds an opening brace, then what a template
is rendered to holds no placeholder, and to render it again leaves it as it is. -/
theorem render_leaves_none
    {t : Template} {out : String} (h : t.render vars properties = .ok out)
    (htexts : ∀ p ∈ placeholders t.content.toList, ∀ text,
      fill vars properties p = .ok text → '{' ∉ text.toList) :
  placeholderNames out = []
    ∧ ∀ vars' properties' id, render vars' properties' ⟨id, out⟩ = .ok out
  := by
  rw [render] at h
  cases hfilled : fillPieces vars properties (pieces t.content.toList) with
  | error e =>
    rw [hfilled] at h
    cases h
  | ok chars =>
    rw [hfilled] at h
    cases h
    have hscans : Scans chars (chars.map .char) := by
      apply (scans_pieces t.content.toList).filled _ hfilled
      intro inner hinner
      apply htexts
      exact List.mem_filterMap.mpr ⟨_, hinner, rfl⟩
    rw [← String.toList_ofList (l := chars)] at hscans
    constructor
    · rw [placeholderNames, placeholders_of_scans hscans]
      rfl
    · intro vars' properties' id
      apply render_of_scans hscans

end Rollout.Template

namespace Rollout

/-! ### A note -/

namespace Sample

/-- A note with braces left over around its placeholders. -/
def note : Template :=
  ⟨"note.txt", "\x7b \x7d\x7b\x7bhead\x7d\x7d\x7b\x7b.Env.BODY\x7d\x7d\x7d\x7b\x7b"⟩

def noteVariables : Variables :=
  .ofList [("BODY", "")]

def noteProperties : Properties :=
  .ofList [("head", .text "")]

end Sample

/-- The braces that are left over of the note do not close up to a placeholder. -/
theorem render_leaves_none_note :
  Sample.note.render Sample.noteVariables Sample.noteProperties = .ok "\x7b \x7d\x7d\x7b\x7b"
    ∧ (∀ p ∈ Template.placeholders Sample.note.content.toList, ∀ text,
      Template.fill Sample.noteVariables Sample.noteProperties p = .ok text → '{' ∉ text.toList)
    ∧ Template.placeholderNames "\x7b \x7d\x7d\x7b\x7b" = []
    ∧ ∀ vars properties id,
      Template.render vars properties ⟨id, "\x7b \x7d\x7d\x7b\x7b"⟩ = .ok "\x7b \x7d\x7d\x7b\x7b"
  := by
  have hrender : Sample.note.render Sample.noteVariables Sample.noteProperties
      = .ok "\x7b \x7d\x7d\x7b\x7b" := rfl
  have hlisted : Template.placeholders Sample.note.content.toList
      = [.property "head", .variable "BODY"] := by decide +kernel
  have htexts : ∀ p ∈ Template.placeholders Sample.note.content.toList, ∀ text,
      Template.fill Sample.noteVariables Sample.noteProperties p = .ok text
        → '{' ∉ text.toList := by
    rw [hlisted, List.forall_mem_cons, List.forall_mem_singleton]
    constructor
    · rintro text ⟨⟩
      decide
    · rintro text ⟨⟩
      decide
  use hrender, htexts
  apply Template.render_leaves_none hrender htexts

end Rollout
