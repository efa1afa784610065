import Rollout.Coordinate
import Rollout.Digest.Base64
import Rollout.Digest.Sha1
import Rollout.Digest.Sha256
import Rollout.Text.Digits

/-!
# Remote identities

The identifiers under which a config is known to the platform.  They depend on its
coordinate alone, so that deploying it again updates the object it already has.
-/

namespace Rollout.Identity

open Rollout.Digest

/-- The hexadecimal text of a list of bytes. -/
def hexText (bytes : List UInt8) : List Char :=
  bytes.flatMap (fun b => Text.hex 2 b.toNat)

/-- The bytes of the name-based UUID of version 5 of a name within a namespace. -/
def nameBased (scope name : List UInt8) : List UInt8 :=
  let bytes := (Sha1.hash (scope ++ name)).take 16
  let version := bytes.modify 6 (fun b => (b &&& 0x0F) ||| 0x50)
  version.modify 8 (fun b => (b &&& 0x3F) ||| 0x80)

/-- The text of the sixteen bytes of a UUID: five groups of digits joined by hyphens. -/
def uuidText (bytes : List UInt8) : String :=
  let digits := hexText bytes
  let group := fun (start width : Nat) => (digits.drop start).take width
  String.ofList (group 0 8 ++ '-' :: group 8 4 ++ '-' :: group 12 4 ++ '-' :: group 16 4
    ++ '-' :: group 20 12)

/-- The namespace of URLs. -/
def urlNamespace : List UInt8 :=
  [0x6b, 0xa7, 0xb8, 0x11, 0x9d, 0xad, 0x11, 0xd1, 0x80, 0xb4, 0x00, 0xc0, 0x4f, 0xd4, 0x30, 0xc8]

/-- The namespace of coordinates. -/
def coordinateNamespace : List UInt8 :=
  nameBased urlNamespace (utf8 "https://confdeploy.invalid/coordinates")

/-- The UUID of a text within the namespace of coordinates. -/
def uuidOfText (s : String) : String :=
  uuidText (nameBased coordinateNamespace (utf8 s))

/-- The UUID of a coordinate. -/
def uuid (c : Coordinate) : String :=
  uuidOfText c.toText

/-- The parts of a coordinate joined by dollar signs. -/
def joined (c : Coordinate) : String :=
  c.project ++ "$" ++ c.type ++ "$" ++ c.id

/-- What every external id begins with. -/
def externalIdStart : String :=
  "confdeploy:"

/-- The most characters that an external id may have. -/
def externalIdLimit : Nat :=
  500

/-- The external id of a settings object: the joined parts of its coordinate in base 64,
or their digest if that is too long. -/
def externalId (c : Coordinate) : String :=
  let encoded := externalIdStart ++ String.ofList (Base64.encode (utf8 (joined c)))
  if encoded.length ≤ externalIdLimit then encoded
  else externalIdStart ++ String.ofList (hexText (Sha256.hash (utf8 (joined c))))

end Rollout.Identity
