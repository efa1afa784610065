import Mathlib.Data.List.Forall2
import Rollout.Proofs.Deploy.Footprint
import Rollout.Proofs.Deploy.Totality

/-!
# Checking and resolving

What is wrong with the references of a parameter is found out twice: all of them are checked
beforehand, and each is followed when the parameter is resolved.  The two agree.  If the check
finds nothing, then no reference fails for its config, and if it finds a config that is not
deployed or is skipped, then the parameter has no value.
-/

namespace Rollout

namespace Site

variable {site : Site} {registry : Registry} {r : Reference}

/-! ### One report for each bad reference -/

/-- Whether a reference leads to its own config, or to none that others may refer to. -/
def isBad (site : Site) (registry : Registry) (r : Reference) : Bool :=
  r.target = site.coordinate || (registry.find? r.target).all Entity.skip

theorem isBad_eq_false_iff :
  site.isBad registry r = false ↔ r.target ≠ site.coordinate ∧ registry.Offers r.target
  := by
  rw [isBad, Bool.or_eq_false_iff, decide_eq_false_iff_not, Registry.Offers]
  cases registry.find? r.target <;> simp

/-- The check of a parameter reports its bad references one by one. -/
theorem reports_checkReferences
    (site : Site) (registry : Registry) (p : Parameter) :
  List.Forall₂ (site.Reports registry) (p.references.filter (site.isBad registry))
    (site.checkReferences registry p)
  := by
  rw [checkReferences]
  induction p.references with
  | nil => exact .nil
  | cons r rest ih =>
    cases hcheck : site.check registry r with
    | none =>
      have hgood := isBad_eq_false_iff.mpr (check_eq_none_iff.mp hcheck)
      rw [List.filter_cons_of_neg (by simp [hgood]), List.filterMap_cons_none hcheck]
      apply ih
    | some e =>
      have hbad : site.isBad registry r = true := by
        rw [← Bool.not_eq_false, isBad_eq_false_iff, ← check_eq_none_iff, hcheck]
        apply Option.some_ne_none
      rw [List.filter_cons_of_pos hbad, List.filterMap_cons_some hcheck]
      exact .cons (reports_of_check hcheck) ih

end Site

namespace Parameter

variable {vars : Variables} {registry : Registry} {site : Site}

/-! ### What a value depends on -/

theorem offers_of_follow
    {r : Reference} {v : Value} (h : follow registry site r = .ok v) :
  registry.Offers r.target
  := by
  have hfollowed := followed_follow registry site r
  rw [h] at hfollowed
  cases hfollowed with
  | value found skip => exact ⟨_, found, skip⟩

mutual

/-- A parameter that has a value refers to configs that have left something behind. -/
theorem offers_of_resolve
    {v : Value} :
    ∀ p : Parameter, p.resolve vars registry site = .ok v →
      ∀ r ∈ p.references, registry.Offers r.target
  | .value _, _ | .fromVariable _ _, _ | .failing _, _ => List.forall_mem_nil _
  | .reference r, h => by
      rw [references, List.forall_mem_singleton]
      rw [resolve] at h
      cases hfollow : follow registry site r with
      | error e =>
        rw [hfollow] at h
        cases h
      | ok v => apply offers_of_follow hfollow
  | .list items, h => by
      rw [references]
      rw [resolve] at h
      split at h
      · cases h
      · rename_i hitems
        apply offers_of_resolve_items items hitems

theorem offers_of_resolve_items
    {texts : List String} :
    ∀ items : List Parameter, resolve.items vars registry site items = .ok texts →
      ∀ r ∈ references.items items, registry.Offers r.target
  | [], _ => by
      rw [references.items]
      apply List.forall_mem_nil
  | p :: rest, h => by
      rw [references.items, List.forall_mem_append]
      rw [resolve.items] at h
      split at h
      · cases h
      · rename_i hp
        split at h
        · cases h
        · split at h
          · cases h
          · rename_i hrest
            exact ⟨offers_of_resolve p hp, offers_of_resolve_items rest hrest⟩

end

end Parameter

namespace Site

/-! ### Agreement -/

/-- The check of a parameter and its resolution agree. -/
structure Agrees (site : Site) (vars : Variables) (registry : Registry) (p : Parameter) :
    Prop where
  /-- The check reports the bad references and no others, in their order. -/
  reports : List.Forall₂ (site.Reports registry) (p.references.filter (site.isBad registry))
    (site.checkReferences registry p)
  /-- If the check reports nothing, a failure to resolve is about a value or about a property
  that the referenced config lacks, or an integer has too many digits to be written. -/
  failure : site.checkReferences registry p = [] →
    ∀ failure, p.resolve vars registry site = .error failure →
      (∃ e, failure = .deploy e ∧ e.IsOfValue)
        ∨ failure = .unwritable .longInteger
          ∧ ∃ v ∈ p.sources registry, v.hasLongInteger = true
  /-- If the check reports a config that is not deployed or is skipped, there is no value. -/
  raises : ∀ e ∈ site.checkReferences registry p, ∀ referenced property,
    e.kind = .reference .undeployed referenced property
        ∨ e.kind = .reference .skipped referenced property →
      ∃ failure, p.resolve vars registry site = .error failure

variable {site : Site} {vars : Variables} {registry : Registry} {p : Parameter}

/-- If the check reports nothing and no integer is too long, then resolving a parameter fails
for a value or for a missing property alone. -/
theorem Agrees.failure_of_short
    (hagrees : site.Agrees vars registry p) (hcheck : site.checkReferences registry p = [])
    (hshort : ∀ v ∈ p.sources registry, v.hasLongInteger = false) {failure : ResolveFailure}
    (h : p.resolve vars registry site = .error failure) :
  ∃ e, failure = .deploy e ∧ e.IsOfValue
  := by
  rcases hagrees.failure hcheck failure h with hvalue | ⟨-, v, hv, hlong⟩
  · apply hvalue
  · rw [hshort v hv] at hlong
    cases hlong

/-- For a parameter that is made of ways to a value, the check and the resolution agree. -/
theorem agrees_of_isRegular
    (hp : p.isRegular = true) (site : Site) (vars : Variables) (registry : Registry) :
  site.Agrees vars registry p
  := by
  constructor
  · apply reports_checkReferences
  · intro hcheck failure h
    have hoffers := fun r hr => (checkReferences_eq_nil_iff.mp hcheck r hr).2
    cases Parameter.origin_of_resolve p h with
    | own mem =>
      rw [Parameter.failures_eq_nil p hp] at mem
      cases mem
    | unset name => exact .inl ⟨_, rfl, .inl rfl⟩
    | lost mem followed =>
      rename_i r e
      rcases Parameter.cause_of_follow followed with hvalue | ⟨hlost, -⟩
      · exact .inl ⟨e, rfl, hvalue⟩
      · exact absurd (hoffers r mem) hlost
    | unwritten mem format =>
      rename_i v reason
      right
      constructor
      · cases reason
        rfl
      · exact ⟨_, mem, Value.hasLongInteger_of_format format⟩
  · intro e he referenced property hkind
    obtain ⟨r, hr, hreports⟩ := reports_of_mem he
    obtain ⟨problem, htroubles, hproblem⟩ := hreports.kind
    cases hresolve : p.resolve vars registry site with
    | error failure => exact ⟨failure, rfl⟩
    | ok v =>
      rcases htroubles.own_or_not_offers with ⟨rfl, -⟩ | ⟨-, hnot⟩
      · rw [hproblem] at hkind
        rcases hkind with h | h <;> cases h
      · exact absurd (Parameter.offers_of_resolve p hresolve r hr) hnot

end Site

/-! ### A tangle -/

namespace Sample

/-- The site of what the page shows. -/
def shown : Site :=
  page.site "shown"

/-- A list with references to the page itself, to the draft, to the board and to nothing. -/
def tangle : Parameter :=
  .list [.reference ⟨page.coordinate, nameParameter⟩,
    .list [.reference ⟨draft.coordinate, idProperty⟩, .reference ⟨board.coordinate, idProperty⟩,
      .list [.reference ⟨⟨"shop", "dashboard", "lost"⟩, idProperty⟩]],
    .reference ⟨page.coordinate, nameParameter⟩]

end Sample

/-- All references of the tangle are reported but the one to the board. -/
theorem agrees_tangle :
  Sample.tangle.isRegular = true
    ∧ (Sample.shown.checkReferences Sample.fullBooks.registry Sample.tangle).map DeployError.kind
      = [.reference .own (some Sample.page.coordinate) nameParameter,
        .reference .skipped (some Sample.draft.coordinate) idProperty,
        .reference .undeployed (some ⟨"shop", "dashboard", "lost"⟩) idProperty,
        .reference .own (some Sample.page.coordinate) nameParameter]
    ∧ Sample.shown.Agrees .empty Sample.fullBooks.registry Sample.tangle
  := by
  have hregular : Sample.tangle.isRegular = true := by decide
  use hregular
  constructor
  · decide +kernel
  · apply Site.agrees_of_isRegular hregular

end Rollout
