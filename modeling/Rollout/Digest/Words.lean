/-!
# Words of a digest

Messages as blocks of 32-bit words: a message is followed by a one bit, zeros and its
length in bits, and is cut into blocks of sixteen words.
-/

namespace Rollout.Digest

/-- The 32-bit word of four bytes, most significant first. -/
def wordOf (a b c d : UInt8) : UInt32 :=
  (a.toUInt32 <<< 24) ||| (b.toUInt32 <<< 16) ||| (c.toUInt32 <<< 8) ||| d.toUInt32

/-- The words of a list of bytes; fewer than four bytes at the end are left out. -/
def words : List UInt8 → List UInt32
  | a :: b :: c :: d :: rest => wordOf a b c d :: words rest
  | _ => []

/-- The four bytes of a word, most significant first. -/
def bytesOf (w : UInt32) : List UInt8 :=
  [(w >>> 24).toUInt8, (w >>> 16).toUInt8, (w >>> 8).toUInt8, w.toUInt8]

/-- The last `width` bytes of a number, most significant first. -/
def bigEndian : (width n : Nat) → List UInt8
  | 0, _ => []
  | width + 1, n => bigEndian width (n / 256) ++ [UInt8.ofNat n]

/-- A message with its padding, whose length is a multiple of 64. -/
def padded (message : List UInt8) : List UInt8 :=
  let zeros := (119 - message.length % 64) % 64
  message ++ 0x80 :: (List.replicate zeros 0 ++ bigEndian 8 (8 * message.length))

/-- The blocks of sixteen words in a list of words. -/
def blocks : List UInt32 → List (List UInt32)
  | a :: b :: c :: d :: e :: f :: g :: h :: i :: j :: k :: l :: m :: n :: o :: p :: rest =>
    [a, b, c, d, e, f, g, h, i, j, k, l, m, n, o, p] :: blocks rest
  | _ => []

/-- The blocks of a padded message. -/
def messageBlocks (message : List UInt8) : List (List UInt32) :=
  blocks (words (padded message))

/-- A word with its bits turned to the left by `n` places. -/
def rotateLeft (w : UInt32) (n : UInt32) : UInt32 :=
  (w <<< n) ||| (w >>> (32 - n))

/-- A word with its bits turned to the right by `n` places. -/
def rotateRight (w : UInt32) (n : UInt32) : UInt32 :=
  rotateLeft w (32 - n)

/-- The schedule of a block, extended to `more` further words.  The words are held last
one first, and each new word is a function of the ones before it. -/
def extend (next : List UInt32 → UInt32) : (more : Nat) → List UInt32 → List UInt32
  | 0, ws => ws
  | more + 1, ws => extend next more (next ws :: ws)

/-- The bytes of a text in UTF-8. -/
def utf8 (s : String) : List UInt8 :=
  s.toUTF8.data.toList

end Rollout.Digest
