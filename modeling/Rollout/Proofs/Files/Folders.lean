import Mathlib.Tactic.Use
import Rollout.Files.Disk

/-!
# Folders that stay

Nothing that is made or written on a disk takes a folder away.  So a folder that has been
made once can be made again, and to try to make a folder that cannot be made changes nothing
about that.
-/

namespace Rollout.Disk

variable {d d' d'' : Disk} {p : Path}

/-- All folders of a disk are folders of another one. -/
structure Keeps (d d' : Disk) : Prop where
  workingFolder : d'.workingFolder = d.workingFolder
  folder : ∀ place, d.node? place = some .folder → d'.node? place = some .folder

theorem Keeps.refl
    (d : Disk) :
  d.Keeps d
  := ⟨rfl, fun _ h => h⟩

theorem Keeps.trans
    (h : d.Keeps d') (h' : d'.Keeps d'') :
  d.Keeps d''
  := ⟨h'.workingFolder.trans h.workingFolder,
    fun place hplace => h'.folder place (h.folder place hplace)⟩

/-- Everything on a disk is on another one, too. -/
structure Within (d d' : Disk) : Prop where
  workingFolder : d'.workingFolder = d.workingFolder
  node : ∀ place node, d.node? place = some node → d'.node? place = some node

theorem Within.refl
    (d : Disk) :
  d.Within d
  := ⟨rfl, fun _ _ h => h⟩

theorem Within.trans
    (h : d.Within d') (h' : d'.Within d'') :
  d.Within d''
  := ⟨h'.workingFolder.trans h.workingFolder,
    fun place node hplace => h'.node place node (h.node place node hplace)⟩

theorem Within.keeps
    (h : d.Within d') :
  d.Keeps d'
  := ⟨h.workingFolder, fun place hplace => h.node place .folder hplace⟩

/-- What is at a place once something has been put where no folder is, and so not at the
root. -/
theorem node?_insert
    {place other : List String} (h : d.node? place ≠ some .folder) (node : Node) :
  node? { d with nodes := d.nodes.insert place node } other
    = if place = other then some node else d.node? other
  := by
  have hroot : place ≠ [] := by
    rintro rfl
    exact h rfl
  rw [node?, node?, Table.find?_insert]
  by_cases hother : other = []
  · rw [if_pos hother, if_pos hother, if_neg (hother ▸ hroot)]
  · rw [if_neg hother, if_neg hother]

/-- To put something where no folder is takes no folder away. -/
theorem keeps_insert
    {place : List String} (h : d.node? place ≠ some .folder) (node : Node) :
  d.Keeps { d with nodes := d.nodes.insert place node }
  := by
  constructor
  · rfl
  · intro other hother
    rw [node?_insert h]
    split
    · rename_i hsame
      subst hsame
      exact absurd hother h
    · apply hother

/-! ### Ways -/

/-- A name leads on from a folder alone. -/
theorem walk_cons_iff
    {place final names : List String} {name : String} :
  d.walk place (name :: names) = .ok final
    ↔ d.node? place = some .folder ∧ name.utf8ByteSize ≤ nameLimit
      ∧ d.walk (if name = ".." then place.dropLast else place ++ [name]) names = .ok final
  := by
  rw [walk]
  cases d.node? place with
  | none => simp
  | some node =>
    cases node with
    | file content => simp
    | folder =>
      dsimp only
      split
      · rename_i hlong
        simp [Nat.not_le_of_lt hlong]
      · rename_i hshort
        rw [← apply_ite (fun next => d.walk next names)]
        simp [Nat.le_of_not_lt hshort]

theorem locate_eq_ok_iff
    {place : List String} :
  d.locate p = .ok place
    ↔ p.hasNul = false ∧ p.toText.utf8ByteSize ≤ pathLimit
      ∧ d.walk (if p.isAbsolute then [] else d.workingFolder) p.parts = .ok place
  := by
  rw [locate]
  split
  · rename_i hnul
    simp [hnul]
  · rename_i hnul
    split
    · rename_i hlong
      simp [Nat.not_le_of_lt hlong]
    · rename_i hshort
      simp [hnul, Nat.le_of_not_lt hshort]

/-- A way that is open stays open. -/
theorem Keeps.walk
    (h : d.Keeps d') {place final names : List String} (hwalk : d.walk place names = .ok final) :
  d'.walk place names = .ok final
  := by
  induction names generalizing place with
  | nil => apply hwalk
  | cons name names ih =>
    obtain ⟨hfolder, hshort, hrest⟩ := walk_cons_iff.mp hwalk
    apply walk_cons_iff.mpr
    exact ⟨h.folder place hfolder, hshort, ih hrest⟩

theorem Keeps.locate
    (h : d.Keeps d') {place : List String} (hlocate : d.locate p = .ok place) :
  d'.locate p = .ok place
  := by
  obtain ⟨hnul, hshort, hwalk⟩ := locate_eq_ok_iff.mp hlocate
  apply locate_eq_ok_iff.mpr
  rw [h.workingFolder]
  exact ⟨hnul, hshort, h.walk hwalk⟩

/-- A way leads through folders, the last step apart. -/
theorem walk_concat
    {place final names : List String} {name : String}
    (h : d.walk place (names ++ [name]) = .ok final) :
  ∃ outer, d.walk place names = .ok outer ∧ d.node? outer = some .folder
  := by
  induction names generalizing place with
  | nil => exact ⟨place, rfl, (walk_cons_iff.mp h).1⟩
  | cons first names ih =>
    obtain ⟨hfolder, hshort, hrest⟩ := walk_cons_iff.mp h
    obtain ⟨outer, hwalk, houter⟩ := ih hrest
    exact ⟨outer, walk_cons_iff.mpr ⟨hfolder, hshort, hwalk⟩, houter⟩

/-- No way is closed for a character of its path. -/
theorem walk_ne_nul
    (d : Disk) (place names : List String) :
  d.walk place names ≠ .error .nul
  := by
  induction names generalizing place with
  | nil => simp [walk]
  | cons name names ih =>
    rw [walk]
    split
    · simp
    · simp
    · split
      · simp
      · split
        · apply ih
        · apply ih

theorem locate_eq_nul_iff :
  d.locate p = .error .nul ↔ p.hasNul = true
  := by
  rw [locate]
  split
  · rename_i h
    simp [h]
  · rename_i h
    split
    · simp [h]
    · simp [h, walk_ne_nul]

/-! ### Folders -/

theorem isFolder_iff :
  d.isFolder p = true ↔ ∃ place, d.locate p = .ok place ∧ d.node? place = some .folder
  := by
  rw [isFolder, stat]
  cases d.locate p with
  | error fault => simp
  | ok place =>
    cases hnode : d.node? place with
    | none => simp [hnode]
    | some node => cases node <;> simp [hnode]

theorem Keeps.isFolder
    (h : d.Keeps d') (hfolder : d.isFolder p = true) :
  d'.isFolder p = true
  := by
  obtain ⟨place, hlocate, hnode⟩ := isFolder_iff.mp hfolder
  apply isFolder_iff.mpr
  exact ⟨place, h.locate hlocate, h.folder place hnode⟩

/-- A path to a folder is not too long if a path to something in it is not. -/
theorem size_toText_le
    {root : String} {names : List String} {name : String}
    (h : (Path.mk root (names ++ [name])).toText.utf8ByteSize ≤ pathLimit) :
  (Path.mk root names).toText.utf8ByteSize ≤ pathLimit
  := by
  have htext : (Path.mk root (names ++ [name])).toText
      = root ++ String.intercalate "/" (names ++ [name]) := by
    simp [Path.toText]
  rw [htext, String.utf8ByteSize_append] at h
  rw [Path.toText]
  dsimp only
  split
  · decide
  · rw [String.utf8ByteSize_append]
    by_cases hnames : names = []
    · subst hnames
      rw [String.intercalate_nil, String.utf8ByteSize_empty]
      omega
    · rw [String.intercalate_append_of_ne_nil hnames (List.cons_ne_nil name []),
        String.utf8ByteSize_append, String.utf8ByteSize_append] at h
      omega

/-- Whatever has a place is in a folder. -/
theorem isFolder_of_locate
    {root : String} {names : List String} {name : String} {place : List String}
    (h : d.locate ⟨root, names ++ [name]⟩ = .ok place) :
  d.isFolder ⟨root, names⟩ = true
  := by
  obtain ⟨hnul, hshort, hwalk⟩ := locate_eq_ok_iff.mp h
  obtain ⟨outer, houter, hfolder⟩ := walk_concat hwalk
  apply isFolder_iff.mpr
  use outer
  constructor
  · apply locate_eq_ok_iff.mpr
    constructor
    · simp only [Path.hasNul, List.any_append, Bool.or_eq_false_iff] at hnul ⊢
      apply hnul.1
    · exact ⟨size_toText_le hshort, houter⟩
  · apply hfolder

/-! ### Making folders -/

/-- A folder is made where nothing is. -/
theorem makeFolder_eq_ok_iff :
  d.makeFolder p = .ok d'
    ↔ ∃ place, d.locate p = .ok place ∧ d.node? place = none
      ∧ d' = { d with nodes := d.nodes.insert place .folder }
  := by
  rw [makeFolder]
  cases d.locate p with
  | error fault => simp
  | ok place =>
    cases hnode : d.node? place with
    | none => simp [hnode, eq_comm]
    | some node => simp [hnode]

/-- To make a folder takes nothing away. -/
theorem within_makeFolder
    (h : d.makeFolder p = .ok d') :
  d.Within d'
  := by
  obtain ⟨place, -, hnode, rfl⟩ := makeFolder_eq_ok_iff.mp h
  constructor
  · rfl
  · intro other node hother
    have hfree : d.node? place ≠ some .folder := by simp [hnode]
    rw [node?_insert hfree]
    split
    · rename_i hsame
      subst hsame
      rw [hnode] at hother
      cases hother
    · apply hother

theorem isFolder_makeFolder
    (h : d.makeFolder p = .ok d') :
  d'.isFolder p = true
  := by
  have hkeeps := (within_makeFolder h).keeps
  obtain ⟨place, hlocate, hnode, rfl⟩ := makeFolder_eq_ok_iff.mp h
  apply isFolder_iff.mpr
  have hfree : d.node? place ≠ some .folder := by simp [hnode]
  use place, hkeeps.locate hlocate
  rw [node?_insert hfree, if_pos rfl]

theorem makeFolder_of_isFolder
    (h : d.isFolder p = true) :
  d.makeFolder p = .error .exists
  := by
  obtain ⟨place, hlocate, hnode⟩ := isFolder_iff.mp h
  simp only [makeFolder, hlocate, hnode]

theorem makeFolder_eq_nul_iff :
  d.makeFolder p = .error .nul ↔ p.hasNul = true
  := by
  rw [← @locate_eq_nul_iff d, makeFolder]
  cases d.locate p with
  | error fault => simp
  | ok place =>
    cases hnode : d.node? place with
    | none => simp [hnode]
    | some node => simp [hnode]

/-- What comes of trying to make a folder inside one that should be there. -/
inductive Attempt (d : Disk) (p : Path) : Disk × Option Fault → Prop where
  /-- The folder is made. -/
  | made {d' : Disk} (made : d.makeFolder p = .ok d') : Attempt d p (d', none)
  /-- The folder is there already. -/
  | present (present : d.isFolder p = true) : Attempt d p (d, none)
  /-- The folder cannot be made. -/
  | barred {fault : Fault} (barred : d.makeFolder p = .error fault)
      (absent : d.isFolder p = false) : Attempt d p (d, some fault)

/-- What comes of making a folder and the folders on the way to it, whose names are given
innermost first. -/
inductive Making (root : String) (d : Disk) : List String → Disk × Option Fault → Prop where
  /-- Nothing is made on the way. -/
  | direct {names : List String} {result : Disk × Option Fault}
      (attempt : d.Attempt ⟨root, names.reverse⟩ result) :
      Making root d names result
  /-- A folder on the way cannot be made. -/
  | cut {name : String} {names : List String} {d' : Disk} {fault : Fault}
      (missing : d.makeFolder ⟨root, (name :: names).reverse⟩ = .error .missing)
      (outer : makeFolders root names d = (d', some fault)) :
      Making root d (name :: names) (d', some fault)
  /-- The folders on the way are made first. -/
  | after {name : String} {names : List String} {d' : Disk} {result : Disk × Option Fault}
      (missing : d.makeFolder ⟨root, (name :: names).reverse⟩ = .error .missing)
      (outer : makeFolders root names d = (d', none))
      (attempt : d'.Attempt ⟨root, (name :: names).reverse⟩ result) :
      Making root d (name :: names) result

theorem attempt_of_error
    {fault : Fault} (h : d.makeFolder p = .error fault) :
  d.Attempt p (if d.isFolder p then (d, none) else (d, some fault))
  := by
  split
  · rename_i hfolder
    apply Attempt.present hfolder
  · rename_i hfolder
    apply Attempt.barred h (Bool.eq_false_iff.mpr hfolder)

theorem making_makeFolders
    (root : String) (names : List String) (d : Disk) :
  d.Making root names (makeFolders root names d)
  := by
  rw [makeFolders.eq_def]
  dsimp only
  split
  · rename_i hmade
    exact .direct (.made hmade)
  · rename_i hmissing
    split
    · apply Making.direct
      apply Attempt.barred hmissing
      rw [Bool.eq_false_iff]
      intro hfolder
      rw [makeFolder_of_isFolder hfolder] at hmissing
      cases hmissing
    · split
      · rename_i houter
        exact .cut hmissing houter
      · rename_i houter
        apply Making.after hmissing houter
        split
        · rename_i hmade
          exact .made hmade
        · rename_i hfault
          apply attempt_of_error hfault
  · rename_i hfault
    apply Making.direct
    apply attempt_of_error hfault

/-! ### One attempt -/

variable {result : Disk × Option Fault}

theorem Attempt.within
    (h : d.Attempt p result) :
  d.Within result.1
  := by
  cases h with
  | made made => apply within_makeFolder made
  | present => apply Within.refl
  | barred => apply Within.refl

/-- After an attempt without a fault the folder is there. -/
theorem Attempt.isFolder
    (h : d.Attempt p result) (hnone : result.2 = none) :
  result.1.isFolder p = true
  := by
  cases h with
  | made made => apply isFolder_makeFolder made
  | present present => apply present
  | barred => cases hnone

/-- An attempt with a fault changes nothing. -/
theorem Attempt.unchanged
    (h : d.Attempt p result) (hfault : result.2 ≠ none) :
  result.1 = d
  := by
  cases h with
  | made => exact absurd rfl hfault
  | present => exact absurd rfl hfault
  | barred => rfl

/-- An attempt with a fault has one again when it is repeated. -/
theorem Attempt.again
    (h : d.Attempt p result) (hfault : result.2 ≠ none) {result' : Disk × Option Fault}
    (h' : d.Attempt p result') :
  result'.2 ≠ none
  := by
  cases h with
  | made => exact absurd rfl hfault
  | present => exact absurd rfl hfault
  | barred barred absent =>
    cases h' with
    | made made =>
      rw [barred] at made
      cases made
    | present present =>
      rw [absent] at present
      cases present
    | barred => exact Option.some_ne_none _

/-- An attempt without a fault is made inside a folder. -/
theorem Attempt.isFolder_outer
    {root name : String} {names : List String}
    (h : d.Attempt ⟨root, (name :: names).reverse⟩ result) (hnone : result.2 = none) :
  d.isFolder ⟨root, names.reverse⟩ = true
  := by
  rw [List.reverse_cons] at h
  cases h with
  | made made =>
    obtain ⟨place, hlocate, -⟩ := makeFolder_eq_ok_iff.mp made
    apply isFolder_of_locate hlocate
  | present present =>
    obtain ⟨place, hlocate, -⟩ := isFolder_iff.mp present
    apply isFolder_of_locate hlocate
  | barred => cases hnone

theorem Attempt.eq_nul_iff
    (h : d.Attempt p result) :
  result.2 = some .nul ↔ p.hasNul = true
  := by
  rw [← @makeFolder_eq_nul_iff d]
  cases h with
  | made made => simp [made]
  | present present => simp [makeFolder_of_isFolder present]
  | barred barred => simp [barred]

/-! ### All folders on the way -/

theorem makeFolders_of_isFolder
    {root : String} {names : List String} (h : d.isFolder ⟨root, names.reverse⟩ = true) :
  makeFolders root names d = (d, none)
  := by
  rw [makeFolders.eq_def]
  simp only [makeFolder_of_isFolder h, h, if_true]

theorem within_makeFolders
    (root : String) (names : List String) (d : Disk) :
  d.Within (makeFolders root names d).1
  := by
  induction names generalizing d with
  | nil =>
    have hmaking := making_makeFolders root [] d
    generalize makeFolders root [] d = result at hmaking ⊢
    cases hmaking with
    | direct attempt => apply attempt.within
  | cons name names ih =>
    have hmaking := making_makeFolders root (name :: names) d
    have houter := ih d
    generalize makeFolders root (name :: names) d = result at hmaking ⊢
    cases hmaking with
    | direct attempt => apply attempt.within
    | cut missing outer =>
      rw [outer] at houter
      apply houter
    | after missing outer attempt =>
      rw [outer] at houter
      apply houter.trans attempt.within

theorem isFolder_makeFolders
    {root : String} {names : List String} (h : (makeFolders root names d).2 = none) :
  (makeFolders root names d).1.isFolder ⟨root, names.reverse⟩ = true
  := by
  have hmaking := making_makeFolders root names d
  generalize makeFolders root names d = result at h hmaking ⊢
  cases hmaking with
  | direct attempt => apply attempt.isFolder h
  | cut => cases h
  | after missing outer attempt => apply attempt.isFolder h

/-- A folder cannot be made as long as the folders on the way to it cannot. -/
theorem makeFolders_of_outer
    {root name : String} {names : List String} (h : (makeFolders root names d).2 ≠ none) :
  (makeFolders root (name :: names) d).2 ≠ none
  := by
  have hmaking := making_makeFolders root (name :: names) d
  generalize makeFolders root (name :: names) d = result at hmaking ⊢
  intro hnone
  cases hmaking with
  | direct attempt =>
    rw [makeFolders_of_isFolder (attempt.isFolder_outer hnone)] at h
    exact h rfl
  | cut => cases hnone
  | after missing outer =>
    rw [outer] at h
    exact h rfl

/-- Where the folders on the way are there, it takes one attempt to make a folder. -/
theorem attempt_of_outer
    {root name : String} {names : List String} (h : d.isFolder ⟨root, names.reverse⟩ = true) :
  d.Attempt ⟨root, (name :: names).reverse⟩ (makeFolders root (name :: names) d)
  := by
  have hmaking := making_makeFolders root (name :: names) d
  generalize makeFolders root (name :: names) d = result at hmaking ⊢
  cases hmaking with
  | direct attempt => apply attempt
  | cut missing outer =>
    rw [makeFolders_of_isFolder h] at outer
    cases outer
  | after missing outer attempt =>
    rw [makeFolders_of_isFolder h] at outer
    cases outer
    apply attempt

/-- Once it is found impossible to make a folder, it stays so. -/
theorem makeFolders_again
    {root : String} {names : List String} (h : (makeFolders root names d).2 ≠ none) :
  (makeFolders root names (makeFolders root names d).1).2 ≠ none
  := by
  induction names generalizing d with
  | nil =>
    have hmaking := making_makeFolders root [] d
    generalize hresult : makeFolders root [] d = result at h hmaking ⊢
    cases hmaking with
    | direct attempt =>
      rw [attempt.unchanged h, hresult]
      apply h
  | cons name names ih =>
    have hmaking := making_makeFolders root (name :: names) d
    generalize hresult : makeFolders root (name :: names) d = result at h hmaking ⊢
    cases hmaking with
    | direct attempt =>
      rw [attempt.unchanged h, hresult]
      apply h
    | cut missing outer =>
      apply makeFolders_of_outer
      have hagain := @ih d
      rw [outer] at hagain
      apply hagain (Option.some_ne_none _)
    | after missing outer attempt =>
      rw [attempt.unchanged h]
      apply attempt.again h
      apply attempt_of_outer
      have hfolder := @isFolder_makeFolders d root names
      rw [outer] at hfolder
      apply hfolder rfl

/-- No name on the way holds the character that none may hold unless the path does. -/
theorem makeFolders_eq_nul_iff
    {root : String} {names : List String} :
  (makeFolders root names d).2 = some .nul ↔ (Path.mk root names.reverse).hasNul = true
  := by
  induction names generalizing d with
  | nil =>
    have hmaking := making_makeFolders root [] d
    generalize makeFolders root [] d = result at hmaking ⊢
    cases hmaking with
    | direct attempt => apply attempt.eq_nul_iff
  | cons name names ih =>
    have hmaking := making_makeFolders root (name :: names) d
    generalize makeFolders root (name :: names) d = result at hmaking ⊢
    cases hmaking with
    | direct attempt => apply attempt.eq_nul_iff
    | cut missing outer =>
      have houter := @ih d
      rw [outer] at houter
      apply houter.trans
      constructor
      · intro hnul
        simp only [Path.hasNul, List.reverse_cons, List.any_append, Bool.or_eq_true] at hnul ⊢
        exact .inl hnul
      · intro hnul
        rw [makeFolder_eq_nul_iff.mpr hnul] at missing
        cases missing
    | after missing outer attempt => apply attempt.eq_nul_iff

/-! ### Folders that can be had -/

/-- A folder is there or can be made. -/
def Offers (d : Disk) (p : Path) : Prop :=
  (d.ensureFolder p).2 = none

/-- To make sure of a folder takes nothing away. -/
theorem within_ensureFolder
    (d : Disk) (p : Path) :
  d.Within (d.ensureFolder p).1
  := within_makeFolders p.root p.parts.reverse d

theorem isFolder_ensureFolder
    (h : d.Offers p) :
  (d.ensureFolder p).1.isFolder p = true
  := by
  have hfolder := isFolder_makeFolders h
  rw [List.reverse_reverse] at hfolder
  apply hfolder

theorem offers_of_isFolder
    (h : d.isFolder p = true) :
  d.Offers p
  := by
  have hnames : p = ⟨p.root, p.parts.reverse.reverse⟩ := by rw [List.reverse_reverse]
  rw [hnames] at h
  rw [Offers, ensureFolder, makeFolders_of_isFolder h]

/-- To see to it that a folder is there does not change whether it can be had. -/
theorem offers_ensureFolder_iff :
  (d.ensureFolder p).1.Offers p ↔ d.Offers p
  := by
  constructor
  · intro h
    by_cases hoffers : d.Offers p
    · apply hoffers
    · exact absurd h (makeFolders_again hoffers)
  · intro h
    apply offers_of_isFolder
    apply isFolder_ensureFolder h

theorem ensureFolder_eq_nul_iff :
  (d.ensureFolder p).2 = some .nul ↔ p.hasNul = true
  := by
  have hiff := @makeFolders_eq_nul_iff d p.root p.parts.reverse
  rw [List.reverse_reverse] at hiff
  apply hiff

/-- A folder that is there or can be made has a path. -/
theorem Offers.hasNul
    (h : d.Offers p) :
  p.hasNul = false
  := by
  rw [Bool.eq_false_iff]
  intro hnul
  rw [Offers, ensureFolder_eq_nul_iff.mpr hnul] at h
  cases h

/-! ### Writing -/

/-- A file is written into a folder, and not in the place of one. -/
theorem write_eq_ok_iff
    {content : Content} :
  d.write p content = .ok d'
    ↔ ∃ place, d.locate p = .ok place ∧ d.node? place ≠ some .folder
      ∧ d.node? place.dropLast = some .folder
      ∧ d' = { d with nodes := d.nodes.insert place (.file content) }
  := by
  constructor
  · intro h
    rw [write] at h
    split at h
    · cases h
    · rename_i place hlocate
      split at h
      · cases h
      · rename_i hnode
        split at h
        · rename_i hfolder
          cases h
          exact ⟨place, hlocate, hnode, hfolder, rfl⟩
        · cases h
  · rintro ⟨place, hlocate, hnode, hfolder, rfl⟩
    rw [write, hlocate]
    dsimp only
    split
    · rename_i hthere
      exact absurd hthere hnode
    · rw [hfolder]

theorem keeps_write
    {content : Content} (h : d.write p content = .ok d') :
  d.Keeps d'
  := by
  obtain ⟨place, -, hnode, -, rfl⟩ := write_eq_ok_iff.mp h
  apply keeps_insert hnode

theorem write_eq_nul_iff
    {content : Content} :
  d.write p content = .error .nul ↔ p.hasNul = true
  := by
  rw [← @locate_eq_nul_iff d, write]
  split
  · rename_i hlocate
    simp [hlocate]
  · rename_i hlocate
    split
    · simp [hlocate]
    · split
      · simp [hlocate]
      · simp [hlocate]

end Rollout.Disk
