import Rollout.Yaml.Scalar

/-!
# From text to tokens

A text is read from left to right.  The columns at which lists and maps began tell where
they end, and a scalar or a bracketed value becomes a key when a colon follows it on the
same line.  Where the text cannot be read any further, the tokens end with a mark that says
why; what may still become a key is not among the tokens in front of it.
-/

namespace Rollout.Yaml

/-- A place at which a key may have begun. -/
structure KeyPlace where
  /-- The number of tokens before it. -/
  tokens : Nat
  /-- Whether something must become a key there. -/
  required : Bool
  /-- The place. -/
  cursor : Cursor

/-- A text that has been read up to a place. -/
structure Lexer where
  /-- The place. -/
  cursor : Cursor
  /-- The tokens before it. -/
  tokens : List Token
  /-- The number of open brackets and braces. -/
  depth : Nat
  /-- The column of the innermost list or map by indentation. -/
  indent : Int
  /-- The columns of those around it, innermost first. -/
  outer : List Int
  /-- Whether a key may begin at the place. -/
  keyAllowed : Bool
  /-- The places at which keys may have begun, by the number of open brackets there. -/
  keys : List (Nat × KeyPlace)

namespace Lexer

/-- A text of which nothing has been read. -/
def start (text : List Char) : Lexer :=
  ⟨.start text, [], 0, -1, [], true, []⟩

/-- Whether the place is inside brackets or braces. -/
def inFlow (l : Lexer) : Bool :=
  0 < l.depth

/-- The text with one more token. -/
def emit (l : Lexer) (t : Token) : Lexer :=
  { l with tokens := l.tokens ++ [t] }

/-- The text with `n` more characters read. -/
def advance (l : Lexer) (n : Nat) : Lexer :=
  { l with cursor := l.cursor.advance n }

/-- The text without the place at which a key may have begun.  One that must become a key
is not given up. -/
def dropKey (l : Lexer) : Except Failure Lexer :=
  match l.keys.lookup l.depth with
  | some k => if k.required then .error .malformed
      else .ok { l with keys := l.keys.filter (·.1 != l.depth) }
  | none => .ok l

/-- The text with the place as one at which a key may begin, if it may. -/
def markKey (l : Lexer) : Except Failure Lexer :=
  if l.keyAllowed then
    match l.dropKey with
    | .error e => .error e
    | .ok l =>
      let required := !l.inFlow && l.indent == l.cursor.column
      .ok { l with keys := (l.depth, ⟨l.tokens.length, required, l.cursor⟩) :: l.keys }
  else .ok l

/-- Whether what began at a place can no longer become a key: the place is on another line
or too far back. -/
def isStale (l : Lexer) (k : KeyPlace) : Bool :=
  k.cursor.line != l.cursor.line || 1024 < l.cursor.index - k.cursor.index

/-- The text without the places at which no key can have begun any more. -/
def dropStaleKeys (l : Lexer) : Except Failure Lexer :=
  if l.keys.any (fun e => l.isStale e.2 && e.2.required) then .error .malformed
  else .ok { l with keys := l.keys.filter (fun e => !l.isStale e.2) }

/-- The tokens in front of all places at which a key may have begun. -/
def settled (l : Lexer) : List Token :=
  let places := (l.keys.map Prod.snd).filter (fun k => !l.isStale k)
  l.tokens.take (places.foldl (fun n k => min n k.tokens) l.tokens.length)

/-- The text with the lists and maps closed that began to the right of a column. -/
def unwind (l : Lexer) (column : Int) : Lexer :=
  let closed := (l.indent :: l.outer).takeWhile (fun i => column < i)
  match (l.indent :: l.outer).drop closed.length with
  | [] => l
  | indent :: outer =>
    { l with
      indent, outer
      tokens := l.tokens ++ List.replicate closed.length Token.blockEnd }

/-- The text with a list or a map opened at a column, if it is to the right of the
innermost one.  The token goes in front of the last tokens, up to the first `count`. -/
def openBlock (l : Lexer) (column : Nat) (count : Nat) (t : Token) : Lexer :=
  if l.indent < column then
    { l with
      indent := column
      outer := l.indent :: l.outer
      tokens := l.tokens.take count ++ t :: l.tokens.drop count }
  else l

/-- The place after spaces, comments and line breaks.  Outside of brackets a key may begin
after a line break. -/
def skipBlank : (fuel : Nat) → Lexer → Lexer
  | 0, l => l
  | fuel + 1, l =>
    let (_, c) := l.cursor.takeWhile (· == ' ')
    let c := if c.head == '#' then (c.takeWhile (fun ch => !isLineEnd ch)).2 else c
    if isBreak c.head then
      skipBlank fuel { l with cursor := c.lineBreak.2, keyAllowed := l.keyAllowed || !l.inFlow }
    else { l with cursor := c }

/-- A mark around a document. -/
def document (l : Lexer) (t : Token) : Except Failure Lexer :=
  match (l.unwind (-1)).dropKey with
  | .error e => .error e
  | .ok l => .ok ({ l with keyAllowed := false }.emit t |>.advance 3)

/-- An opening bracket or brace. -/
def openFlow (l : Lexer) (t : Token) : Except Failure Lexer :=
  match l.markKey with
  | .error e => .error e
  | .ok l => .ok ({ l with depth := l.depth + 1, keyAllowed := true }.emit t |>.advance 1)

/-- A closing bracket or brace. -/
def closeFlow (l : Lexer) (t : Token) : Except Failure Lexer :=
  match l.dropKey with
  | .error e => .error e
  | .ok l =>
    if l.depth = 0 then .error .malformed
    else .ok ({ l with depth := l.depth - 1, keyAllowed := false }.emit t |>.advance 1)

/-- A comma. -/
def flowEntry (l : Lexer) : Except Failure Lexer :=
  match l.dropKey with
  | .error e => .error e
  | .ok l => .ok ({ l with keyAllowed := true }.emit .flowEntry |>.advance 1)

/-- A list or a map that begins with a mark at the place, outside of brackets. -/
def beginBlock (l : Lexer) (t : Token) : Except Failure Lexer :=
  if l.inFlow then .ok l
  else if l.keyAllowed then .ok (l.openBlock l.cursor.column l.tokens.length t)
  else .error .malformed

/-- The hyphen in front of an item. -/
def blockEntry (l : Lexer) : Except Failure Lexer :=
  match l.beginBlock .blockSequenceStart with
  | .error e => .error e
  | .ok l =>
    match { l with keyAllowed := true }.dropKey with
    | .error e => .error e
    | .ok l => .ok (l.emit .blockEntry |>.advance 1)

/-- The question mark in front of a key. -/
def explicitKey (l : Lexer) : Except Failure Lexer :=
  match l.beginBlock .blockMappingStart with
  | .error e => .error e
  | .ok l =>
    match { l with keyAllowed := !l.inFlow }.dropKey with
    | .error e => .error e
    | .ok l => .ok (l.emit .key |>.advance 1)

/-- The colon in front of a value.  What began on the same line becomes the key. -/
def value (l : Lexer) : Except Failure Lexer :=
  match l.keys.lookup l.depth with
  | some k =>
    let l := { l with
      keys := l.keys.filter (·.1 != l.depth)
      tokens := l.tokens.take k.tokens ++ Token.key :: l.tokens.drop k.tokens
      keyAllowed := false }
    let l := if l.inFlow then l else l.openBlock k.cursor.column k.tokens .blockMappingStart
    .ok (l.emit .value |>.advance 1)
  | none =>
    match l.beginBlock .blockMappingStart with
    | .error e => .error e
    | .ok l => .ok ({ l with keyAllowed := !l.inFlow }.emit .value |>.advance 1)

/-- A quoted scalar. -/
def quotedScalar (l : Lexer) : Except Failure Lexer :=
  match l.markKey with
  | .error e => .error e
  | .ok l =>
    match quoted l.cursor with
    | .error e => .error e
    | .ok (s, c) => .ok ({ l with cursor := c, keyAllowed := false }.emit (.scalar s false))

/-- A plain scalar. -/
def plainScalar (l : Lexer) : Except Failure Lexer :=
  match l.markKey with
  | .error e => .error e
  | .ok l =>
    let p := plain l.inFlow (l.indent + 1) l.cursor
    .ok ({ l with cursor := p.cursor, keyAllowed := p.broken }.emit
      (.scalar (String.ofList p.text) true))

/-- The text with one more token or mark read. -/
def step (l : Lexer) : Except Failure Lexer :=
  let ch := l.cursor.head
  let atMark := isGap (l.cursor.peek 1)
  if l.cursor.column = 0 && l.cursor.isMark '-' then l.document .documentStart
  else if l.cursor.column = 0 && l.cursor.isMark '.' then l.document .documentEnd
  else if ch == '[' then l.openFlow .flowSequenceStart
  else if ch == '{' then l.openFlow .flowMappingStart
  else if ch == ']' then l.closeFlow .flowSequenceEnd
  else if ch == '}' then l.closeFlow .flowMappingEnd
  else if ch == ',' then l.flowEntry
  else if ch == '-' && atMark then l.blockEntry
  else if ch == '?' && (l.inFlow || atMark) then l.explicitKey
  else if ch == ':' && (l.inFlow || atMark) then l.value
  else if ch == '\x27' || ch == '\x22' then l.quotedScalar
  else if mayBeginPlain l.inFlow l.cursor then l.plainScalar
  else .error .malformed

/-- The text with its next token or mark read, or with its end, and whether that is the
end. -/
def advanceToken (l : Lexer) : Except Failure (Bool × Lexer) :=
  match (skipBlank (l.cursor.rest.length + 1) l).dropStaleKeys with
  | .error e => .error e
  | .ok l =>
    let l := if l.inFlow then l else l.unwind l.cursor.column
    if l.cursor.rest.isEmpty then (l.unwind (-1)).dropKey.map (true, ·)
    else l.step.map (false, ·)

/-- The tokens of a text; `fuel` bounds the number of those that are still to be read. -/
def run : (fuel : Nat) → Lexer → List Token
  | 0, l => l.settled ++ [.broken .malformed]
  | fuel + 1, l =>
    match l.advanceToken with
    | .error e => l.settled ++ [.broken e]
    | .ok (true, l) => l.tokens
    | .ok (false, l) => run fuel l

end Lexer

/-- Whether a text may hold a character. -/
def isAllowed (c : Char) : Bool :=
  let n := c.toNat
  n == 0x09 || n == 0x0A || n == 0x0D || (0x20 ≤ n && n ≤ 0x7E) || n == 0x85
    || (0xA0 ≤ n && n ≤ 0xD7FF) || (0xE000 ≤ n && n ≤ 0xFFFD) || 0x10000 ≤ n

/-- The tokens of a text.  A byte order mark in front of it is left out. -/
def tokens (text : List Char) : List Token :=
  if text.all isAllowed then
    let start := Lexer.start text
    let start := if start.cursor.head == '\uFEFF' then start.advance 1 else start
    start.run (text.length + 2)
  else [.broken .malformed]

end Rollout.Yaml
