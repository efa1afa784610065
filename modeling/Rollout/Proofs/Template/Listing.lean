import Mathlib.Tactic.Use
import Rollout.Proofs.Template.Keys
import Rollout.Proofs.Template.Pieces

/-!
# What a listing says about rendering

The names of a template's placeholders say whether it can be rendered: exactly if there is a
value for each of them.  The first name without one is what a failure is about, and only the
properties and variables of these names are looked at.
-/

namespace Rollout

/-- Every property has a text. -/
def Properties.IsWritable (properties : Properties) : Prop :=
  ∀ key v, properties.find? key = some v → ∃ text, v.format = .ok text

namespace Template

variable {vars : Variables} {properties : Properties}

/-! ### The first placeholder without a value -/

/-- What a piece is a placeholder for, if it is one. -/
def Piece.placeholder? : Piece → Option Placeholder
  | .char _ => none
  | .block inner => some (.ofInner inner)

theorem placeholders_eq
    (s : List Char) :
  placeholders s = (pieces s).filterMap Piece.placeholder?
  := rfl

/-- What filling some pieces leads to. -/
inductive Filled (vars : Variables) (properties : Properties) (ps : List Piece) :
    Except Failure (List Char) → Prop where
  /-- Every placeholder has a text. -/
  | complete {out : List Char}
      (texts : ∀ p ∈ ps.filterMap Piece.placeholder?, ∃ text, fill vars properties p = .ok text) :
      Filled vars properties ps (.ok out)
  /-- A placeholder has none, and it is the first of these. -/
  | stopped {before after : List Placeholder} {p : Placeholder} {failure : Failure}
      (listed : ps.filterMap Piece.placeholder? = before ++ p :: after)
      (texts : ∀ q ∈ before, ∃ text, fill vars properties q = .ok text)
      (fails : fill vars properties p = .error failure) :
      Filled vars properties ps (.error failure)

theorem filled_fillPieces
    (vars : Variables) (properties : Properties) (ps : List Piece) :
  Filled vars properties ps (fillPieces vars properties ps)
  := by
  induction ps with
  | nil => exact .complete (List.forall_mem_nil _)
  | cons p ps ih =>
    cases p with
    | char c =>
      have hlisted : (Piece.char c :: ps).filterMap Piece.placeholder?
        = ps.filterMap Piece.placeholder? := rfl
      have hstep : fillPieces vars properties (.char c :: ps)
        = (fillPieces vars properties ps).map (c :: ·) := fillPieces_chars [c] ps
      rw [hstep]
      generalize fillPieces vars properties ps = result at ih ⊢
      cases ih with
      | complete texts => exact .complete (hlisted ▸ texts)
      | stopped listed texts fails => exact .stopped (hlisted ▸ listed) texts fails
    | block inner =>
      have hlisted : (Piece.block inner :: ps).filterMap Piece.placeholder?
        = .ofInner inner :: ps.filterMap Piece.placeholder? := rfl
      cases hfill : fill vars properties (.ofInner inner) with
      | error failure =>
        have hstep : fillPieces vars properties (.block inner :: ps) = .error failure := by
          rw [fillPieces_cons, fillPiece, hfill]
          rfl
        have hfirst : (Piece.block inner :: ps).filterMap Piece.placeholder?
          = [] ++ .ofInner inner :: ps.filterMap Piece.placeholder? := hlisted
        rw [hstep]
        exact .stopped hfirst (List.forall_mem_nil _) hfill
      | ok text =>
        rw [fillPieces_block hfill]
        generalize fillPieces vars properties ps = result at ih ⊢
        cases ih with
        | complete texts =>
          apply Filled.complete
          rw [hlisted]
          exact List.forall_mem_cons.mpr ⟨⟨text, hfill⟩, texts⟩
        | @stopped before after p _ listed texts fails =>
          have hall : (Piece.block inner :: ps).filterMap Piece.placeholder?
              = (.ofInner inner :: before) ++ p :: after := by
            rw [hlisted, listed]
            rfl
          apply Filled.stopped hall _ fails
          exact List.forall_mem_cons.mpr ⟨⟨text, hfill⟩, texts⟩

/-- Pieces are filled alike by properties and variables that fill their placeholders alike. -/
theorem fillPieces_congr
    {vars' : Variables} {properties' : Properties} {ps : List Piece}
    (h : ∀ p ∈ ps.filterMap Piece.placeholder?,
      fill vars properties p = fill vars' properties' p) :
  fillPieces vars properties ps = fillPieces vars' properties' ps
  := by
  induction ps with
  | nil => rfl
  | cons p ps ih =>
    rw [fillPieces_cons, fillPieces_cons]
    cases p with
    | char c =>
      rw [ih h]
      rfl
    | block inner =>
      obtain ⟨hinner, hrest⟩ := List.forall_mem_cons.mp h
      rw [fillPiece, fillPiece, hinner, ih hrest]

/-! ### Listed names -/

/-- The key that a listed name stands for: what follows the mark of a variable, if this is a key,
and otherwise the whole name. -/
def listedKey (name : String) : String :=
  match variableKey? name.toList with
  | some key => String.ofList key
  | none => name

/-- There is a value for a listed name. -/
inductive HasValue (vars : Variables) (properties : Properties) (name : String) : Prop where
  /-- The name is marked as one of a variable, and there is this variable. -/
  | marked {key : String} (name_eq : name = "Env." ++ key) (is_key : isKey key.toList = true)
      (found : vars.contains key = true) : HasValue vars properties name
  /-- The name is a key, and there is a property or a variable of this name. -/
  | plain (is_key : isKey name.toList = true)
      (found : properties.contains name = true ∨ vars.contains name = true) :
      HasValue vars properties name

/-- Two sets of variables and properties hold the same for a listed name. -/
structure AgreeAt (vars : Variables) (properties : Properties) (vars' : Variables)
    (properties' : Properties) (name : String) : Prop where
  vars : vars.find? (listedKey name) = vars'.find? (listedKey name)
  properties : isKey name.toList = true → properties.find? name = properties'.find? name

theorem toList_marked
    (key : String) :
  ("Env." ++ key).toList = 'E' :: 'n' :: 'v' :: '.' :: key.toList
  := by
  rw [String.toList_append]
  rfl

/-- A key is not marked as one of a variable. -/
theorem variableKey?_of_isKey
    {s : List Char} (h : isKey s = true) :
  variableKey? s = none
  := by
  cases hmarked : variableKey? s with
  | none => rfl
  | some key =>
    obtain ⟨rfl, -⟩ := variableKey?_eq_some_iff.mp hmarked
    exact absurd (by simp) (notMem_of_isKey h (c := '.') (by decide))

theorem variableKey?_marked
    {key : String} (h : isKey key.toList = true) :
  variableKey? ("Env." ++ key).toList = some key.toList
  := variableKey?_eq_some_iff.mpr ⟨toList_marked key, h⟩

theorem listedKey_marked
    {key : String} (h : isKey key.toList = true) :
  listedKey ("Env." ++ key) = key
  := by
  simp only [listedKey, variableKey?_marked h, String.ofList_toList]

theorem listedKey_of_not_marked
    {name : String} (h : variableKey? name.toList = none) :
  listedKey name = name
  := by
  simp only [listedKey, h]

theorem hasValue_marked_iff
    {key : String} (h : isKey key.toList = true) :
  HasValue vars properties ("Env." ++ key) ↔ vars.contains key = true
  := by
  constructor
  · rintro (⟨heq, -, hfound⟩ | ⟨hkey, -⟩)
    · rw [String.ext_iff, toList_marked, toList_marked] at heq
      simp only [List.cons.injEq, true_and, String.toList_inj] at heq
      rw [heq]
      apply hfound
    · have hmarked := variableKey?_of_isKey hkey
      rw [variableKey?_marked h] at hmarked
      cases hmarked
  · apply HasValue.marked rfl h

theorem hasValue_key_iff
    {name : String} (h : isKey name.toList = true) :
  HasValue vars properties name ↔ properties.contains name = true ∨ vars.contains name = true
  := by
  constructor
  · rintro (⟨rfl, hkey, -⟩ | ⟨-, hfound⟩)
    · have hmarked := variableKey?_of_isKey h
      rw [variableKey?_marked hkey] at hmarked
      cases hmarked
    · apply hfound
  · apply HasValue.plain h

/-- There is no value for a name that is neither a key nor a marked one. -/
theorem not_hasValue
    {name : String} (hkey : isKey name.toList = false) (hmarked : variableKey? name.toList = none) :
  ¬ HasValue vars properties name
  := by
  rintro (⟨rfl, h, -⟩ | ⟨h, -⟩)
  · rw [variableKey?_marked h] at hmarked
    cases hmarked
  · rw [hkey] at h
    cases h

/-! ### Placeholders by their names -/

namespace Placeholder

/-- A placeholder with a text is listed under a name that there is a value for. -/
theorem IsProper.hasValue_of_fill
    {p : Placeholder} (hp : p.IsProper) {text : String} (h : fill vars properties p = .ok text) :
  HasValue vars properties p.name
  := by
  cases hp with
  | @«variable» key is_key =>
    rw [name, hasValue_marked_iff is_key, Table.contains]
    rw [fill] at h
    cases hfind : vars.find? key with
    | none =>
      rw [hfind] at h
      cases h
    | some s => rfl
  | @property key is_key =>
    rw [name, hasValue_key_iff is_key, Table.contains, Table.contains]
    rw [fill] at h
    cases hproperty : properties.find? key with
    | some v => exact .inl rfl
    | none =>
      right
      cases hvariable : vars.find? key with
      | none =>
        rw [hproperty, hvariable] at h
        cases h
      | some s => rfl
  | unsupported => cases h

/-- A placeholder without a text is listed under a name that there is no value for, and the key
of the failure is that of the name. -/
theorem IsProper.gap_of_fill
    {p : Placeholder} (hp : p.IsProper) (hwritable : properties.IsWritable) {failure : Failure}
    (h : fill vars properties p = .error failure) :
  ¬ HasValue vars properties p.name
    ∧ ∃ gap, failure = .unresolved gap ∧ gap.key = listedKey p.name
  := by
  cases hp with
  | @«variable» key is_key =>
    rw [name, hasValue_marked_iff is_key, Table.contains, listedKey_marked is_key]
    rw [fill] at h
    cases hfind : vars.find? key with
    | some s =>
      rw [hfind] at h
      cases h
    | none =>
      rw [hfind] at h
      cases h
      exact ⟨Bool.false_ne_true, _, rfl, rfl⟩
  | @property key is_key =>
    rw [name, hasValue_key_iff is_key, Table.contains, Table.contains,
      listedKey_of_not_marked (variableKey?_of_isKey is_key)]
    rw [fill] at h
    cases hproperty : properties.find? key with
    | some v =>
      obtain ⟨text, htext⟩ := hwritable key v hproperty
      simp only [hproperty, htext] at h
      cases h
    | none =>
      cases hvariable : vars.find? key with
      | some s =>
        rw [hproperty, hvariable] at h
        cases h
      | none =>
        rw [hproperty, hvariable] at h
        cases h
        exact ⟨by simp, _, rfl, rfl⟩
  | unsupported not_key not_marked =>
    cases h
    rw [name, listedKey_of_not_marked not_marked]
    exact ⟨not_hasValue not_key not_marked, _, rfl, rfl⟩

/-- A placeholder is filled alike by variables and properties that agree at its name. -/
theorem IsProper.fill_congr
    {p : Placeholder} (hp : p.IsProper) {vars' : Variables} {properties' : Properties}
    (h : AgreeAt vars properties vars' properties' p.name) :
  fill vars properties p = fill vars' properties' p
  := by
  cases hp with
  | @«variable» key is_key =>
    have hvars := h.vars
    rw [name, listedKey_marked is_key] at hvars
    rw [fill, fill, hvars]
  | @property key is_key =>
    have hvars := h.vars
    rw [name, listedKey_of_not_marked (variableKey?_of_isKey is_key)] at hvars
    have hproperties := h.properties is_key
    rw [name] at hproperties
    rw [fill, fill, hvars, hproperties]
  | unsupported => rfl

end Placeholder

/-! ### Rendering by the listing -/

/-- The first item of its kind keeps its place among the distinct items. -/
theorem distinct_append_cons
    {α : Type} [DecidableEq α] {before : List α} {x : α} (h : x ∉ before) (after : List α) :
  ∃ rest, distinct (before ++ x :: after) = distinct before ++ x :: rest
  := by
  obtain ⟨rest, hrest, -⟩ := foldl_distinct_append after (distinct before ++ [x])
  use rest
  have hx : x ∉ before.foldl (fun seen y => if y ∈ seen then seen else seen ++ [y]) [] := by
    rw [← distinct, mem_distinct]
    apply h
  rw [distinct, List.foldl_append, List.foldl_cons, if_neg hx, ← distinct, hrest,
    List.append_assoc, List.singleton_append]

/-- A failure is about the first of some names that there is no value for. -/
def Gap.IsFirst (vars : Variables) (properties : Properties) (names : List String) (gap : Gap) :
    Prop :=
  ∃ before name after, names = before ++ name :: after
    ∧ (∀ n ∈ before, HasValue vars properties n) ∧ ¬ HasValue vars properties name
    ∧ gap.key = listedKey name

theorem isProper_of_mem
    {s : List Char} {p : Placeholder} (hp : p ∈ placeholders s) :
  p.IsProper
  := by
  obtain ⟨piece, -, hpiece⟩ := List.mem_filterMap.mp hp
  cases piece with
  | char => cases hpiece
  | block inner =>
    cases hpiece
    apply isProper_ofInner

theorem mem_placeholderNames
    {s name : String} :
  name ∈ placeholderNames s ↔ ∃ p ∈ placeholders s.toList, p.name = name
  := by
  rw [placeholderNames, mem_distinct, List.mem_map]

/-- What rendering a template leads to is what filling its pieces leads to. -/
theorem filled_render
    (vars : Variables) (properties : Properties) (t : Template) :
  ∃ result, Filled vars properties (pieces t.content.toList) result
    ∧ t.render vars properties = result.map String.ofList
  := ⟨_, filled_fillPieces vars properties _, rfl⟩

/-- There is a value for each listed name of a template that is rendered. -/
theorem hasValue_of_render
    {t : Template} {out : String} (h : t.render vars properties = .ok out) :
  ∀ name ∈ placeholderNames t.content, HasValue vars properties name
  := by
  intro name hname
  obtain ⟨p, hp, rfl⟩ := mem_placeholderNames.mp hname
  obtain ⟨result, hfilled, hrender⟩ := filled_render vars properties t
  rw [hrender] at h
  cases hfilled with
  | complete texts =>
    obtain ⟨text, htext⟩ := texts p hp
    apply (isProper_of_mem hp).hasValue_of_fill htext
  | stopped => cases h

/-- A template that is not rendered has a listed name that there is no value for, and its failure
is about the first of them. -/
theorem gap_of_render
    (hwritable : properties.IsWritable) {t : Template} {failure : Failure}
    (h : t.render vars properties = .error failure) :
  ∃ gap, failure = .unresolved gap ∧ gap.IsFirst vars properties (placeholderNames t.content)
  := by
  obtain ⟨result, hfilled, hrender⟩ := filled_render vars properties t
  rw [hrender] at h
  cases hfilled with
  | complete => cases h
  | @stopped before after p _ listed texts fails =>
    cases h
    have hproper : ∀ q ∈ before ++ p :: after, q.IsProper := by
      intro q hq
      rw [← listed] at hq
      apply isProper_of_mem hq
    have hp := hproper p (List.mem_append_right _ List.mem_cons_self)
    obtain ⟨hnone, gap, hgap, hkey⟩ := hp.gap_of_fill hwritable fails
    have hbefore : ∀ n ∈ before.map Placeholder.name, HasValue vars properties n := by
      intro n hn
      obtain ⟨q, hq, rfl⟩ := List.mem_map.mp hn
      obtain ⟨text, htext⟩ := texts q hq
      apply (hproper q (List.mem_append_left _ hq)).hasValue_of_fill htext
    have hfirst : p.name ∉ before.map Placeholder.name := fun hmem => hnone (hbefore _ hmem)
    obtain ⟨rest, hrest⟩ := distinct_append_cons hfirst (after.map Placeholder.name)
    use gap, hgap, distinct (before.map Placeholder.name), p.name, rest
    constructor
    · rw [placeholderNames, placeholders_eq, listed, List.map_append, List.map_cons, hrest]
    · refine ⟨?_, hnone, hkey⟩
      intro n hn
      apply hbefore n (mem_distinct.mp hn)

/-- Variables and properties that agree at the listed names of a template render it alike. -/
theorem render_congr
    {vars' : Variables} {properties' : Properties} {t : Template}
    (h : ∀ name ∈ placeholderNames t.content, AgreeAt vars properties vars' properties' name) :
  t.render vars properties = t.render vars' properties'
  := by
  rw [render, render, fillPieces_congr]
  intro p hp
  rw [← placeholders_eq] at hp
  apply (isProper_of_mem hp).fill_congr
  apply h
  exact mem_placeholderNames.mpr ⟨p, hp, rfl⟩

/-- A template is rendered exactly if there is a value for each of its listed names.  Otherwise
the failure is about the first of them that there is none for, and variables and properties that
agree at the listed names lead to the same text or the same failure. -/
theorem render_isOk_iff_names
    (vars : Variables) (hwritable : properties.IsWritable) (t : Template) :
  ((∃ out, t.render vars properties = .ok out)
      ↔ ∀ name ∈ placeholderNames t.content, HasValue vars properties name)
    ∧ (∀ failure, t.render vars properties = .error failure →
      ∃ gap, failure = .unresolved gap
        ∧ gap.IsFirst vars properties (placeholderNames t.content))
    ∧ ∀ vars' properties',
      (∀ name ∈ placeholderNames t.content, AgreeAt vars properties vars' properties' name) →
        t.render vars properties = t.render vars' properties'
  := by
  refine ⟨⟨?_, ?_⟩, ?_, ?_⟩
  · rintro ⟨out, hout⟩
    apply hasValue_of_render hout
  · intro hvalues
    cases hrender : t.render vars properties with
    | ok out => exact ⟨out, rfl⟩
    | error failure =>
      obtain ⟨gap, -, before, name, after, hnames, -, hnone, -⟩ := gap_of_render hwritable hrender
      have hmem : name ∈ placeholderNames t.content := by
        rw [hnames]
        exact List.mem_append_right _ List.mem_cons_self
      exact absurd (hvalues name hmem) hnone
  · intro failure hfailure
    apply gap_of_render hwritable hfailure
  · intro vars' properties' hagree
    apply render_congr hagree

/-- The key of a failure is without a mark only where a key follows the mark: a block for nothing
is listed by its text, and this is the key, even if it begins like a marked one. -/
theorem key_keeps_mark :
  ∃ gap, render .empty .empty ⟨"t", "\x7b\x7b Env.1x \x7d\x7d"⟩ = .error (.unresolved gap)
    ∧ placeholderNames "\x7b\x7b Env.1x \x7d\x7d" = ["Env." ++ "1x"] ∧ gap.key ≠ "1x"
  := by
  refine ⟨.unsupported " Env.1x ", rfl, ?_, ?_⟩
  · decide +kernel
  · decide +kernel

end Template

/-! ### A slogan -/

namespace Sample

/-- A slogan with a property, a variable, and a place that is not known. -/
def slogan : Template :=
  ⟨"slogan.txt", "Follow the \x7b\x7b.color\x7d\x7d \x7b\x7b .Env.ANIMAL \x7d\x7d to "
    ++ "\x7b\x7b place \x7d\x7d, the \x7b\x7bcolor\x7d\x7d one"⟩

def sloganVariables : Variables :=
  .ofList [("ANIMAL", "cow")]

def sloganProperties : Properties :=
  .ofList [("color", .text "white")]

end Sample

/-- The slogan cannot be rendered, for the third of its names. -/
theorem render_isOk_iff_names_slogan :
  Sample.sloganProperties.IsWritable
    ∧ ∃ gap, Sample.slogan.render Sample.sloganVariables Sample.sloganProperties
        = .error (.unresolved gap)
      ∧ gap.IsFirst Sample.sloganVariables Sample.sloganProperties ["color", "Env.ANIMAL", "place"]
  := by
  have hwritable : Sample.sloganProperties.IsWritable := by
    intro key v hfind
    obtain ⟨rfl, rfl⟩ := Prod.mk.inj (List.mem_singleton.mp (Table.find?_eq_some_iff.mp hfind))
    exact ⟨"white", rfl⟩
  have hnames : Template.placeholderNames Sample.slogan.content = ["color", "Env.ANIMAL", "place"]
    := by decide +kernel
  have hrender : Sample.slogan.render Sample.sloganVariables Sample.sloganProperties
      = .error (.unresolved (.noEntry "place")) := rfl
  obtain ⟨-, hgap, -⟩ :=
    Template.render_isOk_iff_names Sample.sloganVariables hwritable Sample.slogan
  obtain ⟨gap, heq, hfirst⟩ := hgap _ hrender
  use hwritable, gap
  rw [hrender, heq, ← hnames]
  exact ⟨rfl, hfirst⟩

end Rollout
