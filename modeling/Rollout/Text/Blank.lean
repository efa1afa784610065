/-!
# Blank characters

The characters that count as white space, and the trimming of them from the two
ends of a text.
-/

namespace Rollout

/-- A name, unless it is empty. -/
def nonempty? (name : String) : Option String :=
  if name = "" then none else some name

namespace Text

/-- The white space of Unicode together with the separators U+001C to U+001F. -/
def isBlank (c : Char) : Bool :=
  let n := c.toNat
  (0x09 ≤ n && n ≤ 0x0D) || (0x1C ≤ n && n ≤ 0x20) || n == 0x85 || n == 0xA0
    || n == 0x1680 || (0x2000 ≤ n && n ≤ 0x200A) || n == 0x2028 || n == 0x2029
    || n == 0x202F || n == 0x205F || n == 0x3000

/-- The characters of a text from the first to the last that is not blank. -/
def trimChars (s : List Char) : List Char :=
  ((s.dropWhile isBlank).reverse.dropWhile isBlank).reverse

/-- A text without the blanks at its two ends. -/
def trim (s : String) : String :=
  String.ofList (trimChars s.toList)

end Text

end Rollout
