import Rollout.Json.Basic
import Rollout.Text.Digits
import Rollout.Yaml.Cursor
import Rollout.Yaml.Token

/-!
# Scalars in a text

The text of a quoted scalar and of a plain one.  Line breaks inside either are folded:
a single one counts as a space, and of several the first is left out.
-/

namespace Rollout.Yaml

open Rollout.Text

/-- Line breaks with the blanks around them, and the place after them.  A line that
separates documents is refused. -/
def quotedBreaks : (fuel : Nat) → Cursor → Except Failure (List Char × Cursor)
  | 0, _ => .error .malformed
  | fuel + 1, c =>
    if c.isSeparator then .error .malformed
    else
      let (_, c) := c.takeWhile (fun ch => ch == ' ' || ch == '\t')
      if isBreak c.head then
        let (first, c) := c.lineBreak
        match quotedBreaks fuel c with
        | .error e => .error e
        | .ok (more, c) => .ok (first ++ more, c)
      else .ok ([], c)

/-- The blanks between two words of a quoted scalar, with the line breaks among them
folded. -/
def quotedSpaces (fuel : Nat) (c : Cursor) : Except Failure (List Char × Cursor) :=
  let (blanks, c) := c.takeWhile (fun ch => ch == ' ' || ch == '\t')
  if c.head == '\x00' then .error .malformed
  else if isBreak c.head then
    let (first, c) := c.lineBreak
    match quotedBreaks fuel c with
    | .error e => .error e
    | .ok (more, c) =>
      .ok ((if first != ['\n'] then first else if more.isEmpty then [' '] else []) ++ more, c)
  else .ok (blanks, c)

/-- The character that a one-letter escape stands for. -/
def letterEscape? (ch : Char) : Option Char :=
  [('0', '\x00'), ('a', '\x07'), ('b', '\x08'), ('t', '\t'), ('\t', '\t'), ('n', '\n'),
    ('v', '\x0b'), ('f', '\x0c'), ('r', '\r'), ('e', '\x1b'), (' ', ' '), ('\x22', '\x22'),
    ('\x5c', '\x5c'), ('/', '/'), ('N', '\u0085'), ('_', '\u00a0'), ('L', '\u2028'),
    ('P', '\u2029')].lookup ch

/-- The number of digits of an escape by number. -/
def escapeWidth? (ch : Char) : Option Nat :=
  [('x', 2), ('u', 4), ('U', 8)].lookup ch

/-- The number that an escape by number names, after its backslash, and the place after
it. -/
def escapeNumber? (c : Cursor) : Option (Nat × Cursor) := do
  let width ← escapeWidth? c.head
  let digits := c.next.rest.take width
  if digits.length = width && digits.all (fun d => (hexDigit? d).isSome) then
    some (digits.foldl (fun n d => 16 * n + (hexDigit? d).getD 0) 0, c.advance (width + 1))
  else none

/-- The character of which a number and an escape at the place are the surrogates, and the
place after it. -/
def surrogatePair? (high : Nat) (c : Cursor) : Option (Char × Cursor) := do
  let (low, c) ← if c.head == '\x5c' then escapeNumber? c.next else none
  if Json.isHighSurrogate high && Json.isLowSurrogate low then
    some (.ofNat (Json.joinSurrogates high low), c)
  else none

/-- The character with a number.  A surrogate that stands alone counts as a character that
could not be read. -/
def characterOf (n : Nat) : Char :=
  if Json.isSurrogate n then '\uFFFD' else .ofNat n

/-- The least number that is too large to be tried as the number of a character. -/
def characterLimit : Nat := 0x80000000

/-- An escape after its backslash: the characters that it stands for. -/
def quotedEscape (fuel : Nat) (c : Cursor) : Except Failure (List Char × Cursor) :=
  match letterEscape? c.head, escapeNumber? c with
  | some ch, _ => .ok ([ch], c.next)
  | none, some (n, after) =>
    match surrogatePair? n after with
    | some (ch, after) => .ok ([ch], after)
    | none =>
      if n < 0x110000 then .ok ([characterOf n], after)
      else if n < characterLimit then .error (.badValue "chr() arg not in range(0x110000)")
      else .error (.overflow .character)
  | none, none =>
    if isBreak c.head then quotedBreaks fuel c.lineBreak.2 else .error .malformed

/-- The rest of a quoted scalar after its opening mark; `fuel` bounds the characters
read. -/
def quotedRest (mark : Char) : (fuel : Nat) → Cursor → Except Failure (List Char × Cursor)
  | 0, _ => .error .malformed
  | fuel + 1, c =>
    let double := mark == '\x22'
    let ch := c.head
    let go := fun (found : List Char) (c : Cursor) =>
      match quotedRest mark fuel c with
      | .error e => .error e
      | .ok (more, c) => .ok (found ++ more, c)
    if ch == mark then
      if !double && c.peek 1 == mark then go [mark] (c.advance 2) else .ok ([], c.next)
    else if double && ch == '\x5c' then
      match quotedEscape fuel c.next with
      | .error e => .error e
      | .ok (found, c) => go found c
    else if isGap ch then
      match quotedSpaces fuel c with
      | .error e => .error e
      | .ok (found, c) => go found c
    else go [ch] c.next

/-- A quoted scalar from its opening mark on. -/
def quoted (c : Cursor) : Except Failure (String × Cursor) :=
  (quotedRest c.head (c.rest.length + 1) c.next).map (fun (s, c) => (String.ofList s, c))

/-- Line breaks with the spaces around them behind a word of a plain scalar, and the place
after them; nothing if a line follows that separates documents. -/
def plainBreaks : (fuel : Nat) → Cursor → Option (List Char) × Cursor
  | 0, c => (none, c)
  | fuel + 1, c =>
    if c.head == ' ' then plainBreaks fuel c.next
    else if isBreak c.head then
      let (first, c) := c.lineBreak
      if c.isSeparator then (none, c)
      else match plainBreaks fuel c with
        | (none, c) => (none, c)
        | (some more, c) => (some (first ++ more), c)
    else (some [], c)

/-- The gap behind a word of a plain scalar. -/
structure PlainGap where
  /-- The characters that it counts as; none if the scalar ends. -/
  text : List Char
  /-- The place after it. -/
  cursor : Cursor
  /-- Whether it holds a line break. -/
  broken : Bool

/-- The gap behind a word of a plain scalar, with the line breaks in it folded. -/
def plainGap (c : Cursor) : PlainGap :=
  let (spaces, c) := c.takeWhile (· == ' ')
  if isBreak c.head then
    let (first, c) := c.lineBreak
    if c.isSeparator then ⟨[], c, true⟩
    else match plainBreaks (c.rest.length + 1) c with
      | (none, c) => ⟨[], c, true⟩
      | (some more, c) =>
        ⟨(if first != ['\n'] then first else if more.isEmpty then [' '] else []) ++ more, c, true⟩
  else ⟨spaces, c, false⟩

/-- Whether a character is a comma, a bracket or a brace. -/
def isFlowMark (c : Char) : Bool :=
  c == ',' || c == '[' || c == ']' || c == '{' || c == '}'

/-- Whether a plain scalar ends in front of a character; `after` is the character behind
it. -/
def endsPlain (inFlow : Bool) (ch after : Char) : Bool :=
  isGap ch
    || (ch == ':' && (isGap after || (inFlow && isFlowMark after)))
    || (inFlow && (ch == '?' || isFlowMark ch))

/-- The characters of a word of a plain scalar. -/
def plainWord (inFlow : Bool) : List Char → List Char
  | [] => []
  | ch :: rest =>
    if endsPlain inFlow ch (rest.headD '\x00') then [] else ch :: plainWord inFlow rest

/-- A plain scalar. -/
structure Plain where
  text : List Char
  /-- The place after it and the gap behind it. -/
  cursor : Cursor
  /-- Whether a line break follows it. -/
  broken : Bool

/-- A plain scalar from a place on.  Outside of brackets it ends in front of a line that is
indented less than `indent`; `gap` is what stands before it and `fuel` bounds its
words. -/
def plainFrom (inFlow : Bool) (indent : Int) : (fuel : Nat) → (gap : PlainGap) → Plain
  | 0, gap => ⟨[], gap.cursor, gap.broken⟩
  | fuel + 1, gap =>
    let c := gap.cursor
    let word := if c.head == '#' then [] else plainWord inFlow c.rest
    if word.isEmpty then ⟨[], c, gap.broken⟩
    else
      let after := plainGap (c.advance word.length)
      if after.text.isEmpty || after.cursor.head == '#'
          || (!inFlow && (after.cursor.column : Int) < indent) then
        ⟨gap.text ++ word, after.cursor, after.broken⟩
      else
        let more := plainFrom inFlow indent fuel after
        ⟨gap.text ++ word ++ more.text, more.cursor, more.broken⟩

/-- A plain scalar. -/
def plain (inFlow : Bool) (indent : Int) (c : Cursor) : Plain :=
  plainFrom inFlow indent (c.rest.length + 1) ⟨[], c, false⟩

/-- Whether a plain scalar may begin at a place. -/
def mayBeginPlain (inFlow : Bool) (c : Cursor) : Bool :=
  let ch := c.head
  !(isGap ch || "-?:,[]\x7b\x7d#&*!|>'\"%@`".toList.contains ch)
    || (!isGap (c.peek 1) && (ch == '-' || (!inFlow && (ch == '?' || ch == ':'))))

end Rollout.Yaml
