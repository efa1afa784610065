import Mathlib.Logic.Basic
import Rollout.Proofs.Identity.Encoding

/-!
# Distinct identities

The identities of a coordinate are made of its parts joined by a mark, and they are as
distinct as the joined texts are.  These differ for different coordinates in whose projects
and types the mark does not occur; a project or a type that holds the mark may be joined to
the same text as another one.
-/

namespace Rollout

/-- A digest does not collide on two messages. -/
def Digest.Separates (digest : List UInt8 → List UInt8) (message message' : List UInt8) : Prop :=
  digest message = digest message' → message = message'

/-! ### Texts joined by a mark -/

namespace Coordinate

/-- A mark occurs in the project or in the type. -/
def IsMarked (mark : Char) (c : Coordinate) : Prop :=
  mark ∈ c.project.toList ∨ mark ∈ c.type.toList

/-- The parts joined by a mark, as characters. -/
def joinedBy (mark : Char) (c : Coordinate) : List Char :=
  c.project.toList ++ mark :: (c.type.toList ++ mark :: c.id.toList)

theorem splitAt?_append
    {mark : Char} {before : List Char} (h : mark ∉ before) (after : List Char) :
  splitAt? mark (before ++ mark :: after) = some (before, after)
  := by
  induction before with
  | nil => simp [splitAt?]
  | cons c before ih =>
    rw [List.mem_cons, not_or] at h
    rw [List.cons_append, splitAt?, if_neg (Ne.symm h.1), ih h.2]
    rfl

theorem ext_toList
    {c d : Coordinate} (hproject : c.project.toList = d.project.toList)
    (htype : c.type.toList = d.type.toList) (hid : c.id.toList = d.id.toList) :
  c = d
  := by
  cases c
  cases d
  rw [Coordinate.mk.injEq]
  exact ⟨String.toList_inj.mp hproject, String.toList_inj.mp htype, String.toList_inj.mp hid⟩

/-- The parts are told by the joined text if the mark occurs in the last one alone. -/
theorem eq_of_joinedBy
    {mark : Char} {c d : Coordinate} (hc : ¬ c.IsMarked mark) (hd : ¬ d.IsMarked mark)
    (h : c.joinedBy mark = d.joinedBy mark) :
  c = d
  := by
  rw [IsMarked, not_or] at hc hd
  have hsplit := congrArg (splitAt? mark) h
  rw [joinedBy, joinedBy, splitAt?_append hc.1, splitAt?_append hd.1, Option.some_inj] at hsplit
  obtain ⟨hproject, hrest⟩ := Prod.mk.inj hsplit
  have hsplit := congrArg (splitAt? mark) hrest
  rw [splitAt?_append hc.2, splitAt?_append hd.2, Option.some_inj] at hsplit
  obtain ⟨htype, hid⟩ := Prod.mk.inj hsplit
  apply ext_toList hproject htype hid

/-- Two texts that are cut alike by two different marks are cut at the same place. -/
theorem eq_of_append_cons
    {mark mark' : Char} (hne : mark ≠ mark') {before before' after after' rest rest' : List Char}
    (h : before ++ mark :: after = before' ++ mark :: after')
    (h' : before ++ mark' :: rest = before' ++ mark' :: rest') :
  before = before' ∧ after = after'
  := by
  induction before generalizing before' with
  | nil =>
    cases before' with
    | nil => exact ⟨rfl, (List.cons.inj h).2⟩
    | cons c before' => exact absurd ((List.cons.inj h).1.trans (List.cons.inj h').1.symm) hne
  | cons c before ih =>
    cases before' with
    | nil => exact absurd ((List.cons.inj h).1.symm.trans (List.cons.inj h').1) hne
    | cons c' before' =>
      obtain ⟨hhead, htail⟩ := List.cons.inj h
      obtain ⟨hbefore, hafter⟩ := ih htail (List.cons.inj h').2
      exact ⟨by rw [hhead, hbefore], hafter⟩

/-- The parts are told by the texts joined by two different marks. -/
theorem eq_of_joinedBy_of_joinedBy
    {mark mark' : Char} (hne : mark ≠ mark') {c d : Coordinate}
    (h : c.joinedBy mark = d.joinedBy mark) (h' : c.joinedBy mark' = d.joinedBy mark') :
  c = d
  := by
  obtain ⟨hproject, hrest⟩ := eq_of_append_cons hne h h'
  obtain ⟨-, hrest'⟩ := eq_of_append_cons hne.symm h' h
  obtain ⟨htype, hid⟩ := eq_of_append_cons hne hrest hrest'
  apply ext_toList hproject htype hid

theorem toList_toText
    (c : Coordinate) :
  c.toText.toList = c.joinedBy ':'
  := by
  simp [toText, joinedBy]

theorem toList_joined
    (c : Coordinate) :
  (Identity.joined c).toList = c.joinedBy '$'
  := by
  simp [Identity.joined, joinedBy]

theorem toText_inj
    {c d : Coordinate} :
  c.toText = d.toText ↔ c.joinedBy ':' = d.joinedBy ':'
  := by
  rw [← toList_toText, ← toList_toText, String.toList_inj]

theorem joined_inj
    {c d : Coordinate} :
  Identity.joined c = Identity.joined d ↔ c.joinedBy '$' = d.joinedBy '$'
  := by
  rw [← toList_joined, ← toList_joined, String.toList_inj]

end Coordinate

namespace Identity

open Rollout.Digest

/-! ### UUIDs -/

/-- Without its hyphens, the text of a UUID is made of the digits of its bytes. -/
theorem filter_uuidText
    {bytes : List UInt8} (h : bytes.length ≤ 16) :
  (uuidText bytes).toList.filter (fun c => c ≠ '-') = hexText bytes
  := by
  have hdigit : ∀ c ∈ hexText bytes, decide (c ≠ '-') = true := by
    intro c hc
    have hhyphen : '-' ∉ hexDigits := by decide
    apply decide_eq_true
    rintro rfl
    apply hhyphen (mem_hexDigits_of_hexText hc)
  have hgroup : ∀ start width, (((hexText bytes).drop start).take width).filter (fun c => c ≠ '-')
      = ((hexText bytes).drop start).take width := by
    intro start width
    apply List.filter_eq_self.mpr
    intro c hc
    apply hdigit c (List.mem_of_mem_drop (List.mem_of_mem_take hc))
  have hlast : ((hexText bytes).drop 20).take 12 = (hexText bytes).drop 20 := by
    apply List.take_of_length_le
    rw [List.length_drop, length_hexText]
    omega
  have hjoin : ∀ start width stop, start + width = stop →
      ((hexText bytes).drop start).take width ++ (hexText bytes).drop stop
        = (hexText bytes).drop start := by
    rintro start width _ rfl
    rw [← List.drop_drop, List.take_append_drop]
  rw [uuidText, String.toList_ofList]
  simp only [List.filter_append, List.filter_cons_of_neg, hgroup, ne_eq, not_true,
    decide_false, Bool.false_eq_true, not_false_eq_true, List.append_assoc]
  rw [hlast, hjoin 16 4 20 rfl, hjoin 12 4 16 rfl, hjoin 8 4 12 rfl, hjoin 0 8 8 rfl,
    List.drop_zero]

theorem uuidText_injective
    {bytes bytes' : List UInt8} (h : bytes.length ≤ 16) (h' : bytes'.length ≤ 16)
    (heq : uuidText bytes = uuidText bytes') :
  bytes = bytes'
  := by
  apply hexText_injective
  rw [← filter_uuidText h, ← filter_uuidText h', heq]

theorem length_nameBased
    (scope name : List UInt8) :
  (nameBased scope name).length ≤ 16
  := by
  rw [nameBased, List.length_modify, List.length_modify]
  apply List.length_take_le

/-- Two coordinates have one UUID exactly if they have one text, unless the digest collides. -/
theorem uuid_inj
    {c d : Coordinate}
    (h : Separates (nameBased coordinateNamespace) (utf8 c.toText) (utf8 d.toText)) :
  uuid c = uuid d ↔ c.toText = d.toText
  := by
  constructor
  · intro huuid
    apply utf8_injective
    apply h
    apply uuidText_injective (length_nameBased _ _) (length_nameBased _ _) huuid
  · intro htext
    rw [uuid, uuid, htext]

/-! ### External ids -/

/-- The part of an external id after the start. -/
def externalCode (c : Coordinate) : List Char :=
  if (externalIdStart ++ String.ofList (Base64.encode (utf8 (joined c)))).length ≤ externalIdLimit
  then Base64.encode (utf8 (joined c))
  else hexText (Sha256.hash (utf8 (joined c)))

theorem externalId_eq
    (c : Coordinate) :
  externalId c = externalIdStart ++ String.ofList (externalCode c)
  := by
  rw [externalId, externalCode]
  split
  · rfl
  · rfl

/-- The text in base 64 of a coordinate is never mistaken for a digest. -/
theorem encode_ne_hexText
    (c : Coordinate) (bytes : List UInt8) :
  Base64.encode (utf8 (joined c)) ≠ hexText bytes
  := by
  intro h
  have hdollar : 36 ∈ utf8 (joined c) := by
    have hmark : utf8 "$" = [36] := by decide
    simp only [joined, utf8_append, hmark]
    simp
  obtain ⟨x, hx, hmark⟩ := exists_notMem_hexDigits hdollar
  rw [h] at hx
  apply hmark (mem_hexDigits_of_hexText hx)

/-- Two coordinates have one external id exactly if they are joined to one text, unless the
digest collides. -/
theorem externalId_inj
    {c d : Coordinate} (h : Separates Sha256.hash (utf8 (joined c)) (utf8 (joined d))) :
  externalId c = externalId d ↔ joined c = joined d
  := by
  constructor
  · intro hid
    rw [externalId_eq, externalId_eq, ← String.toList_inj, String.toList_append,
      String.toList_append, List.append_cancel_left_eq, String.toList_ofList,
      String.toList_ofList, externalCode, externalCode] at hid
    apply utf8_injective
    split at hid
    · split at hid
      · apply Base64.encode_injective hid
      · exact absurd hid (encode_ne_hexText c _)
    · split at hid
      · exact absurd hid.symm (encode_ne_hexText d _)
      · apply h (hexText_injective hid)
  · intro htext
    rw [externalId, externalId, htext]

/-! ### Both -/

/-- Different coordinates have different identities, unless a mark that joins their parts
occurs in a project or a type: as long as the digests do not collide on the joined texts, two
coordinates have one UUID exactly if they have one text, and one external id exactly if they
are joined to one text by dollar signs.  They never have both in common. -/
theorem distinct_unless_isMarked
    {c d : Coordinate} (hne : c ≠ d)
    (huuid : Separates (nameBased coordinateNamespace) (utf8 c.toText) (utf8 d.toText))
    (hdigest : Separates Sha256.hash (utf8 (joined c)) (utf8 (joined d))) :
  (uuid c = uuid d ↔ c.toText = d.toText)
    ∧ (externalId c = externalId d ↔ joined c = joined d)
    ∧ (¬ c.IsMarked ':' → ¬ d.IsMarked ':' → uuid c ≠ uuid d)
    ∧ (¬ c.IsMarked '$' → ¬ d.IsMarked '$' → externalId c ≠ externalId d)
    ∧ (uuid c ≠ uuid d ∨ externalId c ≠ externalId d)
  := by
  use uuid_inj huuid, externalId_inj hdigest
  simp only [ne_eq, uuid_inj huuid, externalId_inj hdigest, Coordinate.toText_inj,
    Coordinate.joined_inj]
  constructor
  · intro hc hd h
    apply hne (Coordinate.eq_of_joinedBy hc hd h)
  · constructor
    · intro hc hd h
      apply hne (Coordinate.eq_of_joinedBy hc hd h)
    · rw [← not_and_or]
      rintro ⟨h, h'⟩
      apply hne (Coordinate.eq_of_joinedBy_of_joinedBy (by decide) h h')

/-- One rule in two projects has two UUIDs and two external ids. -/
theorem distinct_unless_isMarked_rule :
  uuid ⟨"shop", "tags", "rule"⟩ ≠ uuid ⟨"store", "tags", "rule"⟩
    ∧ externalId ⟨"shop", "tags", "rule"⟩ ≠ externalId ⟨"store", "tags", "rule"⟩
  := by
  have huuid : Separates (nameBased coordinateNamespace)
      (utf8 (Coordinate.toText ⟨"shop", "tags", "rule"⟩))
      (utf8 (Coordinate.toText ⟨"store", "tags", "rule"⟩)) := by
    rw [Separates]
    decide +kernel
  have hdigest : Separates Sha256.hash (utf8 (joined ⟨"shop", "tags", "rule"⟩))
      (utf8 (joined ⟨"store", "tags", "rule"⟩)) := by
    rw [Separates]
    decide +kernel
  obtain ⟨-, -, hcolon, hdollar, -⟩ := distinct_unless_isMarked (by decide) huuid hdigest
  constructor
  · apply hcolon
    all_goals
      rw [Coordinate.IsMarked]
      decide
  · apply hdollar
    all_goals
      rw [Coordinate.IsMarked]
      decide

/-- A rule with a colon in its type. -/
def colonRule : Coordinate :=
  ⟨"shop", "builtin:tags", "rule"⟩

/-- A rule with a colon in its project. -/
def colonProjectRule : Coordinate :=
  ⟨"shop:builtin", "tags", "rule"⟩

/-- A rule with a dollar sign in its type. -/
def dollarRule : Coordinate :=
  ⟨"shop", "builtin$tags", "rule"⟩

/-- A rule with a dollar sign in its project. -/
def dollarProjectRule : Coordinate :=
  ⟨"shop$builtin", "tags", "rule"⟩

/-- Different rules that hold a mark share a UUID or an external id, although no digest
collides. -/
theorem identities_shared :
  (colonRule ≠ colonProjectRule
      ∧ Separates (nameBased coordinateNamespace) (utf8 colonRule.toText)
        (utf8 colonProjectRule.toText)
      ∧ uuid colonRule = uuid colonProjectRule)
    ∧ dollarRule ≠ dollarProjectRule
    ∧ Separates Sha256.hash (utf8 (joined dollarRule)) (utf8 (joined dollarProjectRule))
    ∧ externalId dollarRule = externalId dollarProjectRule
  := by
  have htext : colonRule.toText = colonProjectRule.toText := by decide
  have hjoined : joined dollarRule = joined dollarProjectRule := by decide
  have huuid : Separates (nameBased coordinateNamespace) (utf8 colonRule.toText)
      (utf8 colonProjectRule.toText) := fun _ => congrArg utf8 htext
  have hdigest : Separates Sha256.hash (utf8 (joined dollarRule))
      (utf8 (joined dollarProjectRule)) := fun _ => congrArg utf8 hjoined
  exact ⟨⟨by decide, huuid, (uuid_inj huuid).mpr htext⟩, by decide, hdigest,
    (externalId_inj hdigest).mpr hjoined⟩

end Identity

end Rollout
