import Mathlib.Data.List.Infix
import Mathlib.Tactic.Use
import Rollout.Proofs.Files.Folders

/-!
# Ways through a disk

A path leads through places that its names tell, whatever is there.  A folder can be had exactly
if there is no file on the way to it, since the folders on the way can be made if they are not
there.
-/

namespace Rollout

/-- A path that can be followed as far as there are folders. -/
structure Path.Fits (p : Path) : Prop where
  nul : p.hasNul = false
  size : p.toText.utf8ByteSize ≤ Disk.pathLimit
  names : ∀ name ∈ p.parts, name.utf8ByteSize ≤ Disk.nameLimit

/-- A path to what holds something fits if the path to it does. -/
theorem Path.Fits.outer
    {root : String} {names : List String} {name : String}
    (h : (Path.mk root (names ++ [name])).Fits) :
  (Path.mk root names).Fits
  := by
  constructor
  · have hnul := h.nul
    simp only [hasNul, List.any_append, Bool.or_eq_false_iff] at hnul ⊢
    apply hnul.1
  · apply Disk.size_toText_le h.size
  · intro inner hinner
    apply h.names inner (List.mem_append_left _ hinner)

namespace Disk

variable {d d' : Disk} {p : Path} {place : List String}

/-! ### Places on the way -/

/-- The place that a name leads to from a place. -/
def enter (place : List String) (name : String) : List String :=
  if name = ".." then place.dropLast else place ++ [name]

/-- The place that names lead to from where a path starts. -/
def reach (d : Disk) (p : Path) (names : List String) : List String :=
  names.foldl enter (if p.isAbsolute then [] else d.workingFolder)

theorem Keeps.reach
    (h : d.Keeps d') (p : Path) (names : List String) :
  d'.reach p names = d.reach p names
  := by
  rw [Disk.reach, Disk.reach, h.workingFolder]

/-- What comes before the end of a way is on the way to what holds its end. -/
theorem prefix_dropLast
    {init names : List String} (hinit : init <+: names) (hne : init ≠ names) :
  init <+: names.dropLast
  := by
  apply List.prefix_of_prefix_length_le hinit (List.dropLast_prefix names)
  have hlt := Nat.lt_of_le_of_ne hinit.length_le (fun hsame => hne (hinit.eq_of_length hsame))
  rw [List.length_dropLast]
  omega

/-- A way is open if its names are short and it leads through folders. -/
theorem walk_eq_ok_iff
    {final names : List String} :
  d.walk place names = .ok final
    ↔ names.foldl enter place = final ∧ (∀ name ∈ names, name.utf8ByteSize ≤ nameLimit)
      ∧ ∀ init, init <+: names → init ≠ names → d.node? (init.foldl enter place) = some .folder
  := by
  induction names generalizing place with
  | nil => simp [walk]
  | cons name names ih =>
    have hstep : d.walk place (name :: names) = .ok final
        ↔ d.node? place = some .folder ∧ name.utf8ByteSize ≤ nameLimit
          ∧ d.walk (enter place name) names = .ok final := walk_cons_iff
    rw [hstep, ih, List.foldl_cons, List.forall_mem_cons]
    constructor
    · rintro ⟨hfolder, hshort, hfinal, hnames, hway⟩
      refine ⟨hfinal, ⟨hshort, hnames⟩, ?_⟩
      intro init hinit hne
      cases init with
      | nil => apply hfolder
      | cons first init =>
        obtain ⟨rfl, hrest⟩ := List.cons_prefix_cons.mp hinit
        apply hway init hrest
        rintro rfl
        exact hne rfl
    · rintro ⟨hfinal, ⟨hshort, hnames⟩, hway⟩
      refine ⟨hway [] List.nil_prefix (List.cons_ne_nil name names).symm, hshort, hfinal, hnames,
        ?_⟩
      intro init hinit hne
      apply hway (name :: init) (List.cons_prefix_cons.mpr ⟨rfl, hinit⟩)
      intro hsame
      exact hne (List.cons.inj hsame).2

/-- A path leads to a place if all before it are folders. -/
theorem locate_eq_ok_iff_reach :
  d.locate p = .ok place
    ↔ d.reach p p.parts = place ∧ p.Fits
      ∧ ∀ init, init <+: p.parts → init ≠ p.parts → d.node? (d.reach p init) = some .folder
  := by
  rw [locate_eq_ok_iff, walk_eq_ok_iff]
  constructor
  · rintro ⟨hnul, hsize, hreach, hnames, hway⟩
    exact ⟨hreach, ⟨hnul, hsize, hnames⟩, hway⟩
  · rintro ⟨hreach, ⟨hnul, hsize, hnames⟩, hway⟩
    exact ⟨hnul, hsize, hreach, hnames, hway⟩

/-- A path leads to a folder if it leads through folders all the way. -/
theorem isFolder_iff_reach :
  d.isFolder p = true
    ↔ p.Fits ∧ ∀ init, init <+: p.parts → d.node? (d.reach p init) = some .folder
  := by
  rw [isFolder_iff]
  constructor
  · rintro ⟨place, hlocate, hfolder⟩
    obtain ⟨rfl, hfits, hway⟩ := locate_eq_ok_iff_reach.mp hlocate
    use hfits
    intro init hinit
    by_cases hall : init = p.parts
    · rw [hall]
      apply hfolder
    · apply hway init hinit hall
  · rintro ⟨hfits, hway⟩
    use d.reach p p.parts
    constructor
    · apply locate_eq_ok_iff_reach.mpr
      exact ⟨rfl, hfits, fun init hinit _ => hway init hinit⟩
    · apply hway p.parts List.prefix_rfl

/-! ### Making folders on the way -/

/-- There is no file on the way to a folder, and none in its place. -/
def IsClear (d : Disk) (p : Path) : Prop :=
  ∀ init, init <+: p.parts → ∀ content, d.node? (d.reach p init) ≠ some (.file content)

theorem isClear_of_isFolder
    (h : d.isFolder p = true) :
  d.IsClear p
  := by
  intro init hinit content hfile
  rw [(isFolder_iff_reach.mp h).2 init hinit] at hfile
  cases hfile

/-- Where no file is on a way, it can only be that something on it is missing. -/
theorem walk_of_clear
    {names : List String} (hnames : ∀ name ∈ names, name.utf8ByteSize ≤ nameLimit)
    (hclear : ∀ init, init <+: names → ∀ content,
      d.node? (init.foldl enter place) ≠ some (.file content)) :
  d.walk place names = .error .missing ∨ d.walk place names = .ok (names.foldl enter place)
  := by
  induction names generalizing place with
  | nil =>
    right
    rfl
  | cons name names ih =>
    obtain ⟨hshort, hnames⟩ := List.forall_mem_cons.mp hnames
    have hrest : d.walk (enter place name) names = .error .missing
        ∨ d.walk (enter place name) names = .ok (names.foldl enter (enter place name)) := by
      apply ih hnames
      intro init hinit
      exact hclear (name :: init) (List.cons_prefix_cons.mpr ⟨rfl, hinit⟩)
    cases hnode : d.node? place with
    | none =>
      left
      rw [walk, hnode]
    | some node =>
      cases node with
      | file content => exact absurd hnode (hclear [] List.nil_prefix content)
      | folder =>
        rw [List.foldl_cons]
        have hstep : d.walk place (name :: names) = d.walk (enter place name) names := by
          rw [walk, hnode]
          dsimp only
          rw [if_neg (Nat.not_lt_of_le hshort), enter, ← apply_ite (fun next => d.walk next names)]
        rw [hstep]
        apply hrest

/-- Where no file is in the way, a folder that is not there cannot be made only for want of what
it should be in. -/
theorem makeFolder_of_isClear
    {fault : Fault} (hfits : p.Fits) (hclear : d.IsClear p) (h : d.makeFolder p = .error fault) :
  fault = .missing ∨ d.isFolder p = true
  := by
  have hlocate : d.locate p = d.walk (if p.isAbsolute then [] else d.workingFolder) p.parts := by
    rw [locate, if_neg (by simp [hfits.nul]), if_neg (Nat.not_lt_of_le hfits.size)]
  rw [makeFolder] at h
  obtain hwalk | hwalk := walk_of_clear hfits.names hclear
  · rw [hlocate, hwalk] at h
    cases h
    left
    rfl
  · right
    rw [hlocate, hwalk] at h
    dsimp only at h
    apply isFolder_iff.mpr
    refine ⟨_, hlocate.trans hwalk, ?_⟩
    cases hnode : d.node? (p.parts.foldl enter (if p.isAbsolute then [] else d.workingFolder)) with
    | none =>
      rw [hnode] at h
      cases h
    | some node =>
      cases node with
      | folder => rfl
      | file content => exact absurd hnode (hclear p.parts List.prefix_rfl content)

/-- Nothing is missing where a path leads through folders. -/
theorem makeFolder_ne_missing
    (hfits : p.Fits)
    (hway : ∀ init, init <+: p.parts → init ≠ p.parts → d.node? (d.reach p init) = some .folder) :
  d.makeFolder p ≠ .error .missing
  := by
  have hlocate := locate_eq_ok_iff_reach.mpr ⟨rfl, hfits, hway⟩
  rw [makeFolder, hlocate]
  dsimp only
  split
  · simp
  · simp

/-- All that an attempt to make a folder may add is this folder. -/
theorem Attempt.node?_cases
    {result : Disk × Option Fault} (h : d.Attempt p result) {node : Node}
    (hnode : result.1.node? place = some node) :
  d.node? place = some node ∨ node = .folder ∧ d.reach p p.parts = place
  := by
  cases h with
  | present =>
    left
    apply hnode
  | barred =>
    left
    apply hnode
  | made made =>
    obtain ⟨other, hlocate, hfree, rfl⟩ := makeFolder_eq_ok_iff.mp made
    rw [node?_insert (by simp [hfree])] at hnode
    split at hnode
    · rename_i hsame
      right
      cases hnode
      exact ⟨rfl, (locate_eq_ok_iff_reach.mp hlocate).1.trans hsame⟩
    · left
      apply hnode

/-- All that is added when folders are made are folders on the way. -/
theorem node?_makeFolders
    {root : String} {names : List String} {node : Node}
    (h : (makeFolders root names d).1.node? place = some node) :
  d.node? place = some node
    ∨ node = .folder ∧ ∃ init, init <+: names.reverse ∧ d.reach ⟨root, names.reverse⟩ init = place
  := by
  induction names generalizing place node with
  | nil =>
    have hmaking := making_makeFolders root [] d
    generalize makeFolders root [] d = result at h hmaking
    cases hmaking with
    | direct attempt => exact (attempt.node?_cases h).imp_right fun ⟨hnode, hplace⟩ =>
        ⟨hnode, _, List.prefix_rfl, hplace⟩
  | cons name names ih =>
    have hmaking := making_makeFolders root (name :: names) d
    have hkeeps := (within_makeFolders root names d).keeps
    generalize makeFolders root (name :: names) d = result at h hmaking
    have hinner : ∀ {place node}, (makeFolders root names d).1.node? place = some node →
        d.node? place = some node ∨ node = .folder ∧ ∃ init, init <+: (name :: names).reverse
          ∧ d.reach ⟨root, (name :: names).reverse⟩ init = place := by
      intro place node hnode
      apply (ih hnode).imp_right
      rintro ⟨hnode, init, hinit, hplace⟩
      use hnode, init
      rw [List.reverse_cons]
      exact ⟨hinit.trans (List.prefix_append _ _), hplace⟩
    cases hmaking with
    | direct attempt => exact (attempt.node?_cases h).imp_right fun ⟨hnode, hplace⟩ =>
        ⟨hnode, _, List.prefix_rfl, hplace⟩
    | cut missing outer =>
      rw [outer] at hinner
      apply hinner h
    | after missing outer attempt =>
      rw [outer] at hinner hkeeps
      obtain hnode | ⟨hnode, hplace⟩ := attempt.node?_cases h
      · apply hinner hnode
      · right
        exact ⟨hnode, _, List.prefix_rfl, (hkeeps.reach _ _).symm.trans hplace⟩

/-- All that is added when a folder is had are folders on the way. -/
theorem node?_ensureFolder
    {node : Node} (h : (d.ensureFolder p).1.node? place = some node) :
  d.node? place = some node
    ∨ node = .folder ∧ ∃ init, init <+: p.parts ∧ d.reach p init = place
  := by
  have hcases := node?_makeFolders h
  rw [List.reverse_reverse] at hcases
  apply hcases

theorem IsClear.makeFolders
    (h : d.IsClear p) (root : String) (names : List String) :
  (Disk.makeFolders root names d).1.IsClear p
  := by
  intro init hinit content hfile
  rw [(within_makeFolders root names d).keeps.reach] at hfile
  obtain hfile | ⟨hnode, -⟩ := node?_makeFolders hfile
  · exact h init hinit content hfile
  · cases hnode

/-- Where no file is in the way, a folder can be had. -/
theorem makeFolders_of_isClear
    {root : String} {names : List String} (hfits : (Path.mk root names.reverse).Fits)
    (hclear : d.IsClear ⟨root, names.reverse⟩) :
  (makeFolders root names d).2 = none
  := by
  induction names with
  | nil =>
    rw [makeFolders.eq_def]
    dsimp only
    split
    · rfl
    · rename_i hmissing
      refine absurd hmissing (makeFolder_ne_missing hfits ?_)
      intro init hinit hne
      exact absurd (List.prefix_nil.mp hinit) hne
    · rename_i hother hfault
      rw [if_pos ((makeFolder_of_isClear hfits hclear hfault).resolve_left hother)]
  | cons name names ih =>
    have houter : (makeFolders root names d).2 = none := by
      rw [List.reverse_cons] at hfits hclear
      apply ih hfits.outer
      intro init hinit
      exact hclear init (hinit.trans (List.prefix_append _ _))
    rw [makeFolders.eq_def]
    dsimp only
    split
    · rfl
    · split
      · rename_i hfault
        rw [hfault] at houter
        cases houter
      · rename_i after hafter
        -- The folders on the way are there now, and nothing but folders has been added.
        have hfolder := isFolder_makeFolders houter
        have hclear' := hclear.makeFolders root names
        rw [hafter] at hfolder hclear'
        split
        · rfl
        · rename_i hfault
          rw [if_pos ((makeFolder_of_isClear hfits hclear' hfault).resolve_left ?_)]
          rintro rfl
          refine makeFolder_ne_missing hfits ?_ hfault
          intro init hinit hne
          rw [List.reverse_cons] at hinit hne
          apply (isFolder_iff_reach.mp hfolder).2
          apply (List.prefix_concat_iff.mp hinit).resolve_left hne
    · rename_i hother hfault
      rw [if_pos ((makeFolder_of_isClear hfits hclear hfault).resolve_left hother)]

/-- A folder can be had exactly if there is no file on the way to it. -/
theorem offers_iff_isClear :
  d.Offers p ↔ p.Fits ∧ d.IsClear p
  := by
  constructor
  · intro h
    have hfolder := isFolder_ensureFolder h
    have hwithin := within_ensureFolder d p
    use (isFolder_iff_reach.mp hfolder).1
    intro init hinit content hfile
    apply isClear_of_isFolder hfolder init hinit content
    rw [hwithin.keeps.reach]
    apply hwithin.node _ _ hfile
  · rintro ⟨hfits, hclear⟩
    have hnames : p = ⟨p.root, p.parts.reverse.reverse⟩ := by rw [List.reverse_reverse]
    rw [hnames] at hfits hclear
    apply makeFolders_of_isClear hfits hclear

end Disk

end Rollout
