import Rollout.Digest.Words

/-!
# SHA-1

The 160-bit secure hash of a message.
-/

namespace Rollout.Digest.Sha1

/-- The five words that the hash is computed on. -/
structure State where
  a : UInt32
  b : UInt32
  c : UInt32
  d : UInt32
  e : UInt32

/-- The state before the first block. -/
def State.initial : State :=
  ⟨0x67452301, 0xEFCDAB89, 0x98BADCFE, 0x10325476, 0xC3D2E1F0⟩

/-- The word after the words of a schedule, which are held last one first. -/
def nextWord (ws : List UInt32) : UInt32 :=
  rotateLeft (ws.getD 2 0 ^^^ ws.getD 7 0 ^^^ ws.getD 13 0 ^^^ ws.getD 15 0) 1

/-- The mixing function and the constant of a round. -/
def mixing (round : Nat) (b c d : UInt32) : UInt32 × UInt32 :=
  if round < 20 then ((b &&& c) ||| (~~~b &&& d), 0x5A827999)
  else if round < 40 then (b ^^^ c ^^^ d, 0x6ED9EBA1)
  else if round < 60 then ((b &&& c) ||| (b &&& d) ||| (c &&& d), 0x8F1BBCDC)
  else (b ^^^ c ^^^ d, 0xCA62C1D6)

/-- One round. -/
def step (s : State) (round : Nat) (w : UInt32) : State :=
  let (f, k) := mixing round s.b s.c s.d
  ⟨rotateLeft s.a 5 + f + s.e + k + w, s.a, rotateLeft s.b 30, s.c, s.d⟩

/-- The state after a block. -/
def absorb (s : State) (block : List UInt32) : State :=
  let schedule := (extend nextWord 64 block.reverse).reverse
  let t := (schedule.zipIdx).foldl (fun s (w, round) => step s round w) s
  ⟨s.a + t.a, s.b + t.b, s.c + t.c, s.d + t.d, s.e + t.e⟩

/-- The twenty bytes of the hash of a message. -/
def hash (message : List UInt8) : List UInt8 :=
  let s := (messageBlocks message).foldl absorb .initial
  [s.a, s.b, s.c, s.d, s.e].flatMap bytesOf

end Rollout.Digest.Sha1
