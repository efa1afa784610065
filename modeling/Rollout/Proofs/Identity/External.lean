import Rollout.Proofs.Identity.Distinct

/-!
# External ids

An external id is the joined parts of a coordinate in base 64 as long as these are at most
366 bytes, and their digest otherwise.  Either way it is within the limit, and unless the
digest collides it is told by the joined parts.
-/

namespace Rollout

open Rollout.Digest

/-! ### Lengths -/

/-- Each three bytes take four characters, and so do the one or two at the end. -/
theorem Digest.Base64.length_encode
    (bytes : List UInt8) :
  (encode bytes).length = 4 * ((bytes.length + 2) / 3)
  := by
  fun_induction encode bytes with
  | case1 => rfl
  | case2 a n => simp
  | case3 a b n => simp
  | case4 a b c rest n ih =>
    simp only [List.length_cons, ih]
    omega

theorem Digest.Sha256.length_hash
    (message : List UInt8) :
  (hash message).length = 32
  := by
  simp [hash, bytesOf]

namespace Identity

/-- The joined parts of a coordinate are too long to be its external id in base 64. -/
def FallsBack (c : Coordinate) : Prop :=
  externalIdLimit < (externalIdStart ++ String.ofList (Base64.encode (utf8 (joined c)))).length

theorem fallsBack_iff
    {c : Coordinate} :
  FallsBack c ↔ 366 < (utf8 (joined c)).length
  := by
  have hstart : externalIdStart.length = 11 := by decide
  rw [FallsBack, String.length_append, String.length_ofList, Base64.length_encode, hstart,
    externalIdLimit]
  omega

theorem externalId_of_fallsBack
    {c : Coordinate} (h : FallsBack c) :
  externalId c = externalIdStart ++ String.ofList (hexText (Sha256.hash (utf8 (joined c))))
  := by
  rw [externalId, if_neg (Nat.not_le_of_lt h)]

theorem externalId_of_not_fallsBack
    {c : Coordinate} (h : ¬ FallsBack c) :
  externalId c = externalIdStart ++ String.ofList (Base64.encode (utf8 (joined c)))
  := by
  rw [externalId, if_pos (Nat.le_of_not_lt h)]

/-- No external id is too long. -/
theorem length_externalId_le
    (c : Coordinate) :
  (externalId c).length ≤ externalIdLimit
  := by
  by_cases h : FallsBack c
  · rw [externalId_of_fallsBack h, String.length_append, String.length_ofList, length_hexText,
      Sha256.length_hash]
    decide
  · rw [externalId_of_not_fallsBack h]
    exact Nat.le_of_not_lt h

/-! ### Distinct external ids -/

/-- An external id in base 64 is never the digest of other joined parts. -/
theorem externalId_ne_of_fallsBack
    {c d : Coordinate} (hc : ¬ FallsBack c) (hd : FallsBack d) :
  externalId c ≠ externalId d
  := by
  rw [externalId_of_not_fallsBack hc, externalId_of_fallsBack hd, Ne, ← String.toList_inj,
    String.toList_append, String.toList_append, List.append_cancel_left_eq, String.toList_ofList,
    String.toList_ofList]
  apply encode_ne_hexText

/-- The project is told by the joined parts and the two other parts. -/
theorem project_eq_of_joined
    {c d : Coordinate} (h : joined c = joined d) (htype : c.type = d.type) (hid : c.id = d.id) :
  c.project = d.project
  := by
  rw [Coordinate.joined_inj, Coordinate.joinedBy, Coordinate.joinedBy, htype, hid] at h
  exact String.toList_inj.mp (List.append_cancel_right h)

/-- Unless the digest collides on them, the joined parts of two coordinates tell whether they
have one external id.  So one id of one type has two external ids in two projects; if only one
of these is a digest, they differ whatever the digest.  No external id is too long. -/
theorem externalIds_told
    {c d : Coordinate} (h : Separates Sha256.hash (utf8 (joined c)) (utf8 (joined d))) :
  (externalId c = externalId d ↔ joined c = joined d)
    ∧ (c.type = d.type → c.id = d.id → c.project ≠ d.project → externalId c ≠ externalId d)
    ∧ (¬ FallsBack c → FallsBack d → externalId c ≠ externalId d)
    ∧ ∀ e, (externalId e).length ≤ externalIdLimit
  := by
  use externalId_inj h
  refine ⟨?_, externalId_ne_of_fallsBack, length_externalId_le⟩
  intro htype hid hproject heq
  apply hproject
  apply project_eq_of_joined ((externalId_inj h).mp heq) htype hid

/-- A rule with a long id, the joined parts of which have just the length that is written in
base 64 in one project, and one more in another. -/
def longRule (project : String) : Coordinate :=
  ⟨project, "tags", String.ofList (List.replicate 356 'r')⟩

/-- The rule with the long id has two external ids in two projects, of which one is a
digest. -/
theorem externalIds_told_longRule :
  ¬ FallsBack (longRule "shop") ∧ FallsBack (longRule "store")
    ∧ externalId (longRule "shop") ≠ externalId (longRule "store")
    ∧ (externalId (longRule "shop")).length ≤ externalIdLimit
  := by
  have hshop : (utf8 (joined (longRule "shop"))).length = 366 := by decide +kernel
  have hstore : (utf8 (joined (longRule "store"))).length = 367 := by decide +kernel
  have hencoded : ¬ FallsBack (longRule "shop") := by
    rw [fallsBack_iff]
    omega
  have hdigest : FallsBack (longRule "store") := by
    rw [fallsBack_iff]
    omega
  have hseparates : Separates Sha256.hash (utf8 (joined (longRule "shop")))
      (utf8 (joined (longRule "store"))) := by
    rw [Separates]
    decide +kernel
  obtain ⟨-, hprojects, -, hlength⟩ := externalIds_told hseparates
  exact ⟨hencoded, hdigest, hprojects rfl rfl (by decide), hlength _⟩

end Identity

end Rollout
