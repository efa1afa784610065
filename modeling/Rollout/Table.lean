/-!
# Tables

A table is a list of entries with pairwise distinct keys, in the order in which the
keys were first inserted.
-/

namespace Rollout

/-- A finite map that remembers the order in which its keys came. -/
structure Table (κ ν : Type) where
  /-- The entries, oldest key first. -/
  entries : List (κ × ν)
  /-- No key occurs twice. -/
  keys_nodup : (entries.map Prod.fst).Nodup

namespace Table

variable {κ ν : Type}

/-- Tables with the same entries are the same. -/
@[ext]
theorem ext
    {t t' : Table κ ν} (h : t.entries = t'.entries) :
  t = t'
  := by
  cases t
  cases t'
  cases h
  rfl

/-- The table without entries. -/
def empty : Table κ ν :=
  ⟨[], List.nodup_nil⟩

instance : Inhabited (Table κ ν) := ⟨empty⟩
instance : EmptyCollection (Table κ ν) := ⟨empty⟩

/-- The keys in the order of their first insertion. -/
def keys (t : Table κ ν) : List κ :=
  t.entries.map Prod.fst

/-- The values in the order of their keys. -/
def values (t : Table κ ν) : List ν :=
  t.entries.map Prod.snd

/-- The number of keys. -/
def size (t : Table κ ν) : Nat :=
  t.entries.length

theorem keys_filterMap_sublist
    {μ : Type} (f : κ → ν → Option μ) (es : List (κ × ν)) :
  ((es.filterMap (fun e => (f e.1 e.2).map (fun v => (e.1, v)))).map Prod.fst).Sublist
    (es.map Prod.fst)
  := by
  induction es with
  | nil => exact .slnil
  | cons e rest ih =>
    rw [List.filterMap_cons, List.map_cons]
    cases f e.1 e.2 with
    | none => exact .cons _ ih
    | some v => exact .cons_cons _ ih

theorem nodup_filterMap
    {μ : Type} (f : κ → ν → Option μ) {es : List (κ × ν)} (h : (es.map Prod.fst).Nodup) :
  ((es.filterMap (fun e => (f e.1 e.2).map (fun v => (e.1, v)))).map Prod.fst).Nodup
  := h.sublist (keys_filterMap_sublist f es)

/-- The same keys, with the values changed one by one. -/
def map {μ : Type} (f : ν → μ) (t : Table κ ν) : Table κ μ :=
  ⟨t.entries.map (fun e => (e.1, f e.2)), by simpa [Function.comp_def] using t.keys_nodup⟩

/-- The entries whose value `f` keeps, with what it makes of them. -/
def filterMap {μ : Type} (f : κ → ν → Option μ) (t : Table κ ν) : Table κ μ :=
  ⟨t.entries.filterMap (fun e => (f e.1 e.2).map (fun v => (e.1, v))),
    nodup_filterMap f t.keys_nodup⟩

variable [DecidableEq κ]

/-- The first value stored under `k` in a list of entries. -/
def lookup (k : κ) : List (κ × ν) → Option ν
  | [] => none
  | (k', v) :: rest => if k' = k then some v else lookup k rest

/-- The value stored under a key. -/
def find? (t : Table κ ν) (k : κ) : Option ν :=
  lookup k t.entries

/-- Whether a key has a value. -/
def contains (t : Table κ ν) (k : κ) : Bool :=
  (t.find? k).isSome

/-- Stores `v` under `k`: in the place of the old value, or at the end. -/
def store (k : κ) (v : ν) : List (κ × ν) → List (κ × ν)
  | [] => [(k, v)]
  | (k', v') :: rest => if k' = k then (k, v) :: rest else (k', v') :: store k v rest

theorem mem_keys_store
    (k x : κ) (v : ν) (es : List (κ × ν)) :
  x ∈ (store k v es).map Prod.fst ↔ x = k ∨ x ∈ es.map Prod.fst
  := by
  induction es with
  | nil => simp [store]
  | cons e rest ih =>
    by_cases h : e.1 = k <;> grind [store]

theorem nodup_store
    (k : κ) (v : ν) {es : List (κ × ν)} (h : (es.map Prod.fst).Nodup) :
  ((store k v es).map Prod.fst).Nodup
  := by
  induction es with
  | nil => simp [store]
  | cons e rest ih =>
    rw [List.map_cons, List.nodup_cons] at h
    by_cases hk : e.1 = k
    · rw [store, if_pos hk, List.map_cons, List.nodup_cons]
      exact ⟨hk ▸ h.1, h.2⟩
    · rw [store, if_neg hk, List.map_cons, List.nodup_cons, mem_keys_store]
      exact ⟨by simp [hk, h.1], ih h.2⟩

/-- The table with `v` stored under `k`. -/
def insert (t : Table κ ν) (k : κ) (v : ν) : Table κ ν :=
  ⟨store k v t.entries, nodup_store k v t.keys_nodup⟩

/-- The table with the entries of a list inserted one after another. -/
def ofList (es : List (κ × ν)) : Table κ ν :=
  es.foldl (fun t e => t.insert e.1 e.2) empty

/-- The table without an entry for `k`. -/
def erase (t : Table κ ν) (k : κ) : Table κ ν :=
  ⟨t.entries.filter (fun e => e.1 ≠ k),
    (List.filter_sublist.map Prod.fst).nodup t.keys_nodup⟩

/-- The table with the value under `k` changed, or `v` stored if there is none. -/
def alter (t : Table κ ν) (k : κ) (v : ν) (f : ν → ν) : Table κ ν :=
  t.insert k (((t.find? k).map f).getD v)

theorem lookup_store
    (k x : κ) (v : ν) (es : List (κ × ν)) :
  lookup x (store k v es) = if k = x then some v else lookup x es
  := by
  induction es with
  | nil => simp [store, lookup]
  | cons e rest ih => by_cases h : e.1 = k <;> grind [store, lookup]

/-- A key finds the value that was stored under it last. -/
@[simp]
theorem find?_insert
    (t : Table κ ν) (k x : κ) (v : ν) :
  (t.insert k v).find? x = if k = x then some v else t.find? x
  := lookup_store k x v t.entries

theorem mem_of_lookup
    {k : κ} {v : ν} {es : List (κ × ν)} (h : lookup k es = some v) :
  (k, v) ∈ es
  := by
  induction es with
  | nil => simp [lookup] at h
  | cons e rest ih => by_cases hk : e.1 = k <;> grind [lookup]

theorem lookup_of_mem
    {k : κ} {v : ν} {es : List (κ × ν)} (hes : (es.map Prod.fst).Nodup) (h : (k, v) ∈ es) :
  lookup k es = some v
  := by
  induction es with
  | nil => simp at h
  | cons e rest ih =>
    rw [List.map_cons, List.nodup_cons] at hes
    rcases List.mem_cons.mp h with rfl | h
    · simp [lookup]
    · have hk : e.1 ≠ k := fun hk => hes.1 (hk ▸ List.mem_map_of_mem h)
      rw [lookup, if_neg hk]
      exact ih hes.2 h

/-- A key finds a value exactly if the two are an entry. -/
theorem find?_eq_some_iff
    {t : Table κ ν} {k : κ} {v : ν} :
  t.find? k = some v ↔ (k, v) ∈ t.entries
  := ⟨mem_of_lookup, lookup_of_mem t.keys_nodup⟩

/-- What has a value is a key. -/
theorem mem_keys_iff
    {t : Table κ ν} {k : κ} :
  k ∈ t.keys ↔ ∃ v, t.find? k = some v
  := by
  rw [keys, List.mem_map]
  constructor
  · rintro ⟨⟨k, v⟩, hmem, rfl⟩
    exact ⟨v, find?_eq_some_iff.mpr hmem⟩
  · rintro ⟨v, hv⟩
    exact ⟨(k, v), find?_eq_some_iff.mp hv, rfl⟩

theorem contains_iff_mem_keys
    {t : Table κ ν} {k : κ} :
  t.contains k = true ↔ k ∈ t.keys
  := by
  rw [contains, Option.isSome_iff_exists, mem_keys_iff]

/-- A key finds what `f` makes of the value under it. -/
@[simp]
theorem find?_filterMap
    {μ : Type} (f : κ → ν → Option μ) (t : Table κ ν) (k : κ) :
  (t.filterMap f).find? k = (t.find? k).bind (f k)
  := by
  ext v
  simp only [find?_eq_some_iff, filterMap, List.mem_filterMap, Option.map_eq_some_iff,
    Option.bind_eq_some_iff]
  constructor
  · rintro ⟨⟨k, w⟩, hw, v, hv, heq⟩
    cases heq
    exact ⟨w, hw, hv⟩
  · rintro ⟨w, hw, hv⟩
    exact ⟨(k, w), hw, v, hv, rfl⟩

@[simp]
theorem find?_empty
    (k : κ) :
  (empty : Table κ ν).find? k = none
  := rfl

@[simp]
theorem find?_map
    {μ : Type} (f : ν → μ) (t : Table κ ν) (k : κ) :
  (t.map f).find? k = (t.find? k).map f
  := by
  obtain ⟨es, hes⟩ := t
  rw [find?, map, find?]
  induction es with
  | nil => rfl
  | cons e rest ih =>
    rw [List.map_cons, List.nodup_cons] at hes
    by_cases h : e.1 = k <;> simp [lookup, h, ih hes.2]

theorem lookup_filter
    {p : κ → Bool} (k : κ) (es : List (κ × ν)) :
  lookup k (es.filter (fun e => p e.1)) = if p k then lookup k es else none
  := by
  induction es with
  | nil => simp [lookup]
  | cons e rest ih => by_cases h : e.1 = k <;> grind [lookup]

/-- Every key but the one that is left out finds what it found before. -/
@[simp]
theorem find?_erase
    (t : Table κ ν) (k x : κ) :
  (t.erase k).find? x = if x = k then none else t.find? x
  := by
  have hfilter := lookup_filter (p := fun x => decide (x ≠ k)) x t.entries
  simpa [find?, erase] using hfilter

@[simp]
theorem map_insert
    {μ : Type} (f : ν → μ) (t : Table κ ν) (k : κ) (v : ν) :
  (t.insert k v).map f = (t.map f).insert k (f v)
  := by
  ext1
  simp only [insert, map]
  induction t.entries with
  | nil => rfl
  | cons e rest ih => by_cases h : e.1 = k <;> simp [store, h, ih]

@[simp]
theorem erase_insert
    (t : Table κ ν) (k : κ) (v : ν) :
  (t.insert k v).erase k = t.erase k
  := by
  ext1
  simp only [insert, erase]
  induction t.entries with
  | nil => simp [store]
  | cons e rest ih => by_cases h : e.1 = k <;> simp_all [store]

theorem erase_comm
    (t : Table κ ν) (j k : κ) :
  (t.erase j).erase k = (t.erase k).erase j
  := by
  ext1
  simp only [erase, List.filter_filter, Bool.and_comm]

end Table

end Rollout
