/-!
# Tokens

The marks and scalars that a YAML text is made of.
-/

namespace Rollout.Yaml

/-- What is too large. -/
inductive Overflow where
  /-- A place of a number in base sixty, which double precision does not reach. -/
  | place
  /-- The number of a character, which has more than 31 bits. -/
  | character
deriving DecidableEq, Repr

/-- Why a text has no data. -/
inductive Failure where
  /-- It is no YAML text, or one that goes beyond lists, maps and scalars on lines. -/
  | malformed
  /-- A scalar has the form of a value that does not exist. -/
  | badValue (message : String)
  /-- An integer has too many digits. -/
  | longInteger
  /-- Something is too large. -/
  | overflow (what : Overflow)
deriving DecidableEq, Repr

/-- A mark, a scalar, or the place where reading ends too early. -/
inductive Token where
  /-- The mark in front of a document. -/
  | documentStart
  /-- The mark behind a document. -/
  | documentEnd
  /-- The beginning of a list by indentation. -/
  | blockSequenceStart
  /-- The beginning of a map by indentation. -/
  | blockMappingStart
  /-- The end of a list or a map by indentation. -/
  | blockEnd
  /-- An opening bracket. -/
  | flowSequenceStart
  /-- A closing bracket. -/
  | flowSequenceEnd
  /-- An opening brace. -/
  | flowMappingStart
  /-- A closing brace. -/
  | flowMappingEnd
  /-- A comma. -/
  | flowEntry
  /-- The hyphen in front of an item. -/
  | blockEntry
  /-- The place in front of a key. -/
  | key
  /-- The place in front of a value. -/
  | value
  /-- A scalar, quoted or plain. -/
  | scalar (text : String) (plain : Bool)
  /-- The place from which on the text cannot be read, and why. -/
  | broken (why : Failure)
deriving DecidableEq, Repr

end Rollout.Yaml
