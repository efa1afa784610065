import Mathlib.Tactic.Use
import Rollout.Proofs.Files.Ways

/-!
# Disks that grow

What is made or written on a disk takes no folder and no file away, and a tree stays a tree.  A
folder that can be had on a disk that has grown could be had before, and texts can be added to a
file as long as it is there.
-/

namespace Rollout.Disk

variable {d d' : Disk} {p : Path} {place : List String}

/-! ### Disks that have grown -/

/-- What is a folder on a disk is one on another disk, too, and what is a file there is a file,
but may hold something else. -/
structure Grows (d d' : Disk) : Prop extends Keeps d d' where
  file : ∀ place content, d.node? place = some (.file content) →
    ∃ content', d'.node? place = some (.file content')

theorem Grows.refl
    (d : Disk) :
  d.Grows d
  := ⟨Keeps.refl d, fun _ content h => ⟨content, h⟩⟩

theorem Grows.trans
    {d'' : Disk} (h : d.Grows d') (h' : d'.Grows d'') :
  d.Grows d''
  := by
  use h.toKeeps.trans h'.toKeeps
  intro place content hfile
  obtain ⟨content', hfile'⟩ := h.file place content hfile
  apply h'.file place content' hfile'

theorem Within.grows
    (h : d.Within d') :
  d.Grows d'
  := ⟨h.keeps, fun place content hfile => ⟨content, h.node place (.file content) hfile⟩⟩

/-- To write a file takes no folder and no file away. -/
theorem grows_insert
    (h : d.node? place ≠ some .folder) (content : Content) :
  d.Grows { d with nodes := d.nodes.insert place (.file content) }
  := by
  use keeps_insert h (.file content)
  intro other content' hfile
  rw [node?_insert h]
  split
  · exact ⟨content, rfl⟩
  · exact ⟨content', hfile⟩

/-- A folder that can be had on a disk that has grown could be had before. -/
theorem Grows.offers
    (h : d.Grows d') (hoffers : d'.Offers p) :
  d.Offers p
  := by
  obtain ⟨hfits, hclear⟩ := offers_iff_isClear.mp hoffers
  apply offers_iff_isClear.mpr
  use hfits
  intro init hinit content hfile
  obtain ⟨content', hfile'⟩ := h.file _ content hfile
  rw [← h.reach] at hfile'
  apply hclear init hinit content' hfile'

/-! ### Trees -/

/-- Whatever is on a disk is in a folder, and so is the working folder, whose place is told
without double dots. -/
structure IsTree (d : Disk) : Prop where
  workingFolder : d.node? d.workingFolder = some .folder
  settled : ".." ∉ d.workingFolder
  outer : ∀ place node, d.node? place = some node → d.node? place.dropLast = some .folder

namespace IsTree

/-- What holds something that is there is a folder. -/
theorem node?_of_prefix
    (h : d.IsTree) {init : List String} (hinit : init <+: place)
    (hfolder : d.node? place = some .folder) :
  d.node? init = some .folder
  := by
  induction place using List.reverseRecOn with
  | nil =>
    rw [List.prefix_nil.mp hinit]
    apply hfolder
  | append_singleton place name ih =>
    obtain rfl | hinit := List.prefix_concat_iff.mp hinit
    · apply hfolder
    · apply ih hinit
      have houter := h.outer _ _ hfolder
      rw [List.dropLast_concat] at houter
      apply houter

/-- A tree stays one when something is put into a folder, where no folder is. -/
theorem insert
    (h : d.IsTree) (hfree : d.node? place ≠ some .folder)
    (houter : d.node? place.dropLast = some .folder) (node : Node) :
  IsTree { d with nodes := d.nodes.insert place node }
  := by
  have hkeeps := keeps_insert hfree node
  constructor
  · apply hkeeps.folder _ h.workingFolder
  · apply h.settled
  · intro other node' hnode
    apply hkeeps.folder
    rw [node?_insert hfree] at hnode
    split at hnode
    · rename_i hsame
      rw [← hsame]
      apply houter
    · apply h.outer other node' hnode

/-- What a path leads to is in a folder if the path leads through folders. -/
theorem node?_outer
    (h : d.IsTree)
    (hway : ∀ init, init <+: p.parts → init ≠ p.parts → d.node? (d.reach p init) = some .folder) :
  d.node? (d.reach p p.parts).dropLast = some .folder
  := by
  obtain hnames | ⟨init, name, hnames⟩ := List.eq_nil_or_concat p.parts
  · rw [hnames, reach, List.foldl_nil]
    split
    · rfl
    · apply h.outer _ _ h.workingFolder
  · have hfolder : d.node? (d.reach p init) = some .folder := by
      apply hway init
      · simp [hnames]
      · simp [hnames]
    have hreach : d.reach p p.parts = enter (d.reach p init) name := by
      rw [hnames, reach, List.concat_eq_append, List.foldl_concat]
      rfl
    rw [hreach, enter]
    split
    · apply h.outer _ _ (h.outer _ _ hfolder)
    · rw [List.dropLast_concat]
      apply hfolder

theorem makeFolder
    (h : d.IsTree) (hmade : d.makeFolder p = .ok d') :
  d'.IsTree
  := by
  obtain ⟨place, hlocate, hfree, rfl⟩ := makeFolder_eq_ok_iff.mp hmade
  obtain ⟨rfl, -, hway⟩ := locate_eq_ok_iff_reach.mp hlocate
  apply h.insert (by simp [hfree]) (h.node?_outer hway)

theorem attempt
    {result : Disk × Option Fault} (h : d.IsTree) (hattempt : d.Attempt p result) :
  result.1.IsTree
  := by
  cases hattempt with
  | made made => apply h.makeFolder made
  | present => apply h
  | barred => apply h

theorem makeFolders
    (h : d.IsTree) (root : String) (names : List String) :
  (Disk.makeFolders root names d).1.IsTree
  := by
  induction names with
  | nil =>
    have hmaking := making_makeFolders root [] d
    generalize Disk.makeFolders root [] d = result at hmaking ⊢
    cases hmaking with
    | direct attempt => apply h.attempt attempt
  | cons name names ih =>
    have hmaking := making_makeFolders root (name :: names) d
    generalize Disk.makeFolders root (name :: names) d = result at hmaking ⊢
    cases hmaking with
    | direct attempt => apply h.attempt attempt
    | cut missing outer =>
      rw [outer] at ih
      apply ih
    | after missing outer attempt =>
      rw [outer] at ih
      apply ih.attempt attempt

theorem ensureFolder
    (h : d.IsTree) (p : Path) :
  (d.ensureFolder p).1.IsTree
  := h.makeFolders p.root p.parts.reverse

end IsTree

/-! ### Files -/

variable {content : Content} {text : String}

/-- What a file holds, which is nothing if it is not there. -/
def held (d : Disk) (place : List String) : Content :=
  match d.node? place with
  | some (.file content) => content
  | _ => .text ""

/-- A text is added to a file in a folder, and where no folder is. -/
theorem append_eq_ok_iff :
  d.append p text = .ok d'
    ↔ ∃ place, d.locate p = .ok place ∧ d.node? place ≠ some .folder
      ∧ d.node? place.dropLast = some .folder
      ∧ d' = { d with nodes := d.nodes.insert place (.file ((d.held place).append text)) }
  := by
  rw [append, read, stat]
  cases hlocate : d.locate p with
  | error fault =>
    have hwrite : d.write p (.text text) ≠ .ok d' := by
      intro h
      obtain ⟨place, hplace, -⟩ := write_eq_ok_iff.mp h
      rw [hlocate] at hplace
      cases hplace
    cases fault <;> simp [hwrite]
  | ok place =>
    dsimp only
    have hwrite : ∀ content, d.write p content = .ok d' ↔ d.node? place ≠ some .folder
        ∧ d.node? place.dropLast = some .folder
        ∧ d' = { d with nodes := d.nodes.insert place (.file content) } := by
      intro content
      rw [write_eq_ok_iff]
      simp [hlocate]
    cases hnode : d.node? place with
    | none => simp [hwrite, hnode, held, Content.append]
    | some node =>
      cases node with
      | file content => simp [hwrite, hnode, held]
      | folder => simp [hnode]

theorem exists_append
    (hlocate : d.locate p = .ok place) (hfree : d.node? place ≠ some .folder)
    (houter : d.node? place.dropLast = some .folder) (text : String) :
  ∃ d', d.append p text = .ok d'
  := ⟨_, append_eq_ok_iff.mpr ⟨place, hlocate, hfree, houter, rfl⟩⟩

/-- A disk has grown into another one, which is a tree if it has been one itself. -/
structure Evolves (d d' : Disk) : Prop extends Grows d d' where
  tree : d.IsTree → d'.IsTree

theorem Evolves.refl
    (d : Disk) :
  d.Evolves d
  := ⟨Grows.refl d, id⟩

theorem Evolves.trans
    {d'' : Disk} (h : d.Evolves d') (h' : d'.Evolves d'') :
  d.Evolves d''
  := ⟨h.toGrows.trans h'.toGrows, fun htree => h'.tree (h.tree htree)⟩

theorem evolves_ensureFolder
    (d : Disk) (p : Path) :
  d.Evolves (d.ensureFolder p).1
  := ⟨(within_ensureFolder d p).grows, fun h => h.ensureFolder p⟩

theorem evolves_append
    (h : d.append p text = .ok d') :
  d.Evolves d'
  := by
  obtain ⟨place, -, hfree, houter, rfl⟩ := append_eq_ok_iff.mp h
  exact ⟨grows_insert hfree _, fun htree => htree.insert hfree houter _⟩

/-- A file is there that texts can be added to. -/
def Takes (d : Disk) (p : Path) (content : Content) : Prop :=
  ∃ place, d.locate p = .ok place ∧ d.node? place = some (.file content)
    ∧ d.node? place.dropLast = some .folder

theorem Takes.read
    (h : d.Takes p content) :
  d.read p = .ok content
  := by
  obtain ⟨place, hlocate, hfile, -⟩ := h
  rw [Disk.read, stat, hlocate]
  dsimp only
  rw [hfile]

theorem Takes.within
    (h : d.Takes p content) (hwithin : d.Within d') :
  d'.Takes p content
  := by
  obtain ⟨place, hlocate, hfile, hfolder⟩ := h
  exact ⟨place, hwithin.keeps.locate hlocate, hwithin.node _ _ hfile, hwithin.node _ _ hfolder⟩

/-- Once a text has been added to a file, more can be. -/
theorem exists_takes_of_append
    (h : d.append p text = .ok d') :
  ∃ place, d.locate p = .ok place ∧ d'.Takes p ((d.held place).append text)
  := by
  obtain ⟨place, hlocate, hfree, houter, rfl⟩ := append_eq_ok_iff.mp h
  have hkeeps := keeps_insert hfree (.file ((d.held place).append text))
  use place, hlocate, place, hkeeps.locate hlocate
  constructor
  · rw [node?_insert hfree, if_pos rfl]
  · apply hkeeps.folder _ houter

theorem Takes.append
    (h : d.Takes p content) (text : String) :
  ∃ d', d.append p text = .ok d' ∧ d'.Takes p (content.append text)
  := by
  obtain ⟨place, hlocate, hfile, houter⟩ := h
  have hfree : d.node? place ≠ some .folder := by simp [hfile]
  obtain ⟨d', hadded⟩ := exists_append hlocate hfree houter text
  use d', hadded
  obtain ⟨place', hlocate', htakes⟩ := exists_takes_of_append hadded
  rw [hlocate] at hlocate'
  cases hlocate'
  have hheld : d.held place = content := by rw [held, hfile]
  rw [← hheld]
  apply htakes

/-! ### Paths without double dots -/

theorem resolve_eq
    (d : Disk) (p : Path) :
  d.resolve p = ⟨"/", d.reach p p.parts⟩
  := rfl

theorem Keeps.resolve
    (h : d.Keeps d') (p : Path) :
  d'.resolve p = d.resolve p
  := by rw [resolve_eq, resolve_eq, h.reach]

theorem foldl_enter
    {names : List String} (h : ".." ∉ names) (place : List String) :
  names.foldl enter place = place ++ names
  := by
  induction names generalizing place with
  | nil => rw [List.append_nil, List.foldl_nil]
  | cons name names ih =>
    rw [List.mem_cons, not_or] at h
    rw [List.foldl_cons, enter, if_neg (Ne.symm h.1), ih h.2, List.append_assoc,
      List.singleton_append]

theorem notMem_reach
    (h : ".." ∉ d.workingFolder) (p : Path) (names : List String) :
  ".." ∉ d.reach p names
  := by
  induction names using List.reverseRecOn with
  | nil =>
    rw [reach, List.foldl_nil]
    split
    · apply List.not_mem_nil
    · apply h
  | append_singleton names name ih =>
    rw [reach, List.foldl_concat, enter]
    split
    · intro hmem
      apply ih (List.mem_of_mem_dropLast hmem)
    · rename_i hname
      rw [List.mem_append, List.mem_singleton, not_or]
      exact ⟨ih, Ne.symm hname⟩

/-- In a tree the path without double dots leads to the same place. -/
theorem IsTree.locate_resolve
    (h : d.IsTree) (hfits : (d.resolve p).Fits)
    (houter : d.node? (d.reach p p.parts).dropLast = some .folder) :
  d.locate (d.resolve p) = .ok (d.reach p p.parts)
  := by
  have hsettled := notMem_reach h.settled p p.parts
  have hreach : ∀ init, init <+: d.reach p p.parts → d.reach (d.resolve p) init = init := by
    intro init hinit
    apply foldl_enter
    intro hmem
    apply hsettled (hinit.subset hmem)
  apply locate_eq_ok_iff_reach.mpr
  use hreach _ List.prefix_rfl, hfits
  intro init hinit hne
  rw [hreach init hinit]
  apply h.node?_of_prefix _ houter
  apply prefix_dropLast hinit hne

end Rollout.Disk
