/-!
# Cursors

A place in a text: what follows it, and its line and column.  The end of the text reads
as the character U+0000, which the text itself does not hold.
-/

namespace Rollout.Yaml

/-- A place in a text. -/
structure Cursor where
  /-- The characters that follow. -/
  rest : List Char
  /-- The number of characters before it. -/
  index : Nat
  /-- The number of line breaks before it. -/
  line : Nat
  /-- The number of characters before it on its line. -/
  column : Nat
deriving Repr

/-- Whether a character ends a line. -/
def isBreak (c : Char) : Bool :=
  c == '\n' || c == '\r' || c == '\u0085' || c == '\u2028' || c == '\u2029'

/-- Whether a character ends a line or the text. -/
def isLineEnd (c : Char) : Bool :=
  c == '\x00' || isBreak c

/-- Whether a character is a blank or ends a line or the text. -/
def isGap (c : Char) : Bool :=
  c == ' ' || c == '\t' || isLineEnd c

namespace Cursor

/-- The beginning of a text. -/
def start (text : List Char) : Cursor :=
  ⟨text, 0, 0, 0⟩

/-- The character that comes after `n` others. -/
def peek (c : Cursor) (n : Nat) : Char :=
  c.rest.getD n '\x00'

/-- The character that follows. -/
def head (c : Cursor) : Char :=
  c.peek 0

/-- The place after the next character. -/
def next (c : Cursor) : Cursor :=
  match c.rest with
  | [] => c
  | ch :: rest =>
    if isBreak ch && !(ch == '\r' && rest.head? == some '\n') then
      ⟨rest, c.index + 1, c.line + 1, 0⟩
    else ⟨rest, c.index + 1, c.line, if ch == '\uFEFF' then c.column else c.column + 1⟩

/-- The place after `n` characters. -/
def advance (c : Cursor) : Nat → Cursor
  | 0 => c
  | n + 1 => c.next.advance n

/-- The place after a line break, with the character that it counts as. -/
def lineBreak (c : Cursor) : List Char × Cursor :=
  if c.head == '\r' && c.peek 1 == '\n' then (['\n'], c.advance 2)
  else if c.head == '\u2028' || c.head == '\u2029' then ([c.head], c.next)
  else if isBreak c.head then (['\n'], c.next)
  else ([], c)

/-- The characters that satisfy a condition up to the first that does not, and the place
after them. -/
def takeWhile (c : Cursor) (p : Char → Bool) : List Char × Cursor :=
  let taken := c.rest.takeWhile p
  (taken, c.advance taken.length)

/-- Whether a line of three given characters follows. -/
def isMark (c : Cursor) (mark : Char) : Bool :=
  c.peek 0 == mark && c.peek 1 == mark && c.peek 2 == mark && isGap (c.peek 3)

/-- Whether a line follows that separates documents. -/
def isSeparator (c : Cursor) : Bool :=
  c.isMark '-' || c.isMark '.'

end Cursor

end Rollout.Yaml
