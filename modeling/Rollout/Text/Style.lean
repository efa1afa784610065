/-!
# Terminal sequences

A terminal obeys a control sequence that it is sent: an escape character, an opening
bracket, digits and marks as parameters, marks in between, and a last character that says
what to do.  Text that goes elsewhere is freed of these sequences.
-/

namespace Rollout.Text

/-- Whether a character lies between two others, or is one of them. -/
def isBetween (first last c : Char) : Bool :=
  first.toNat ≤ c.toNat && c.toNat ≤ last.toNat

/-- Whether a character may be a parameter of a control sequence, or a part of one. -/
def isParameter (c : Char) : Bool :=
  isBetween '0' '?' c

/-- Whether a character may stand between the parameters and the end of a control
sequence. -/
def isIntermediate (c : Char) : Bool :=
  isBetween ' ' '/' c

/-- Whether a character may end a control sequence. -/
def isFinal (c : Char) : Bool :=
  isBetween '@' '~' c

/-- What follows the control sequence at the beginning of a text, if there is one. -/
def afterSequence? : List Char → Option (List Char)
  | '\x1b' :: '[' :: rest =>
    match (rest.dropWhile isParameter).dropWhile isIntermediate with
    | c :: rest => if isFinal c then some rest else none
    | [] => none
  | _ => none

theorem length_dropWhile_le
    {α : Type} (p : α → Bool) (s : List α) :
  (s.dropWhile p).length ≤ s.length
  := (List.dropWhile_sublist p).length_le

theorem afterSequence?_length
    {s rest : List Char} (h : afterSequence? s = some rest) :
  rest.length < s.length
  := by
  unfold afterSequence? at h
  split at h
  · next body =>
    split at h
    · next c more hc =>
      have hp := length_dropWhile_le isParameter body
      have hi := length_dropWhile_le isIntermediate (body.dropWhile isParameter)
      rw [hc] at hi
      split at h
      · obtain rfl := Option.some.inj h
        simp only [List.length_cons] at hi ⊢
        omega
      · cases h
    · cases h
  · cases h

/-- A text without terminal sequences. -/
def stripStyles (s : List Char) : List Char :=
  match _h : afterSequence? s with
  | some rest => stripStyles rest
  | none =>
    match s with
    | [] => []
    | c :: rest => c :: stripStyles rest
termination_by s.length
decreasing_by
  · exact afterSequence?_length ‹_›
  · simp

end Rollout.Text
