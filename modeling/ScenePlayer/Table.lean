/-!
Finite tables: association lists in insertion order whose keys are distinct.
The stores of the library are tables, and their laws reduce to the look-up
laws below: `find?_insert`, `find?_erase` and `find?_filter`.
-/

namespace ScenePlayer

/-- A finite map from keys to values. -/
structure Table (κ : Type) (ν : Type) where
  entries : List (κ × ν)
  distinct : (entries.map Prod.fst).Nodup

namespace Table

variable {κ ν : Type}

/-- The table without entries. -/
def empty : Table κ ν := ⟨[], List.nodup_nil⟩

instance : EmptyCollection (Table κ ν) := ⟨empty⟩

instance : Inhabited (Table κ ν) := ⟨empty⟩

/-- The keys in insertion order. -/
def keys (table : Table κ ν) : List κ := table.entries.map Prod.fst

/-- How many entries the table holds. -/
def size (table : Table κ ν) : Nat := table.entries.length

def isEmpty (table : Table κ ν) : Bool := table.entries.isEmpty

/-- Keep the entries that satisfy `keep`. -/
def filter (keep : κ → ν → Bool) (table : Table κ ν) : Table κ ν where
  entries := table.entries.filter fun entry => keep entry.1 entry.2
  distinct := table.distinct.sublist (List.filter_sublist.map Prod.fst)

/-- The keys of a table stay distinct under an injective map, and in front of a list that has
none of their images. -/
theorem nodup_map_append {μ : Type} (table : Table κ ν) {image : κ → μ}
    (injective : ∀ key other, image key = image other → key = other) {rest : List μ}
    (distinct : rest.Nodup) (apart : ∀ key, image key ∉ rest) :
    (table.keys.map image ++ rest).Nodup := by
  have images : (table.keys.map image).Nodup :=
    List.Pairwise.map image (fun key other differ same => differ (injective key other same))
      table.distinct
  refine List.nodup_append.2 ⟨images, distinct, ?_⟩
  rintro _ here _ there rfl
  obtain ⟨key, -, rfl⟩ := List.mem_map.1 here
  exact apart key there

variable [DecidableEq κ]

/-- The value of the first entry under `key`. -/
def lookup (key : κ) : List (κ × ν) → Option ν
  | [] => none
  | entry :: rest => if entry.1 = key then some entry.2 else lookup key rest

/-- Replace the entry under `key`, or append one. -/
def place (key : κ) (value : ν) : List (κ × ν) → List (κ × ν)
  | [] => [(key, value)]
  | entry :: rest =>
      if entry.1 = key then (key, value) :: rest else entry :: place key value rest

/-- The value stored under `key`. -/
def find? (table : Table κ ν) (key : κ) : Option ν := lookup key table.entries

def contains (table : Table κ ν) (key : κ) : Bool := (table.find? key).isSome

theorem keys_place (key : κ) (value : ν) (entries : List (κ × ν)) :
    (place key value entries).map Prod.fst =
      if key ∈ entries.map Prod.fst then entries.map Prod.fst
      else entries.map Prod.fst ++ [key] := by
  induction entries with
  | nil => simp [place]
  | cons entry rest ih =>
      by_cases same : entry.1 = key
      · simp [place, same]
      · simp only [place, same, if_false, List.map_cons, ih, List.mem_cons, Ne.symm same,
          false_or]
        split <;> simp_all

theorem nodup_place (key : κ) (value : ν) {entries : List (κ × ν)}
    (distinct : (entries.map Prod.fst).Nodup) :
    ((place key value entries).map Prod.fst).Nodup := by
  rw [keys_place]
  split
  · exact distinct
  · rename_i absent
    refine List.nodup_append.2 ⟨distinct, by simp, ?_⟩
    rintro other present _ (_ | ⟨_, ⟨⟩⟩) rfl
    exact absent present

/-- Store `value` under `key`, replacing what was there. -/
def insert (table : Table κ ν) (key : κ) (value : ν) : Table κ ν :=
  ⟨place key value table.entries, nodup_place key value table.distinct⟩

/-- Drop the entry under `key`, if any. -/
def erase (table : Table κ ν) (key : κ) : Table κ ν :=
  table.filter fun other _ => decide (other ≠ key)

/-! ### Look-up laws -/

theorem lookup_place (key other : κ) (value : ν) (entries : List (κ × ν)) :
    lookup other (place key value entries) =
      if key = other then some value else lookup other entries := by
  induction entries with
  | nil => simp [place, lookup]
  | cons entry rest ih =>
      by_cases same : entry.1 = key
      · by_cases hit : key = other <;> simp [place, lookup, same, hit]
      · by_cases hit : entry.1 = other
        · have differ : ¬ other = key := fun eq => same (hit.trans eq)
          simp [place, lookup, hit, differ, Ne.symm differ]
        · simp [place, lookup, same, hit, ih]

theorem lookup_isSome_iff (key : κ) (entries : List (κ × ν)) :
    (lookup key entries).isSome = true ↔ key ∈ entries.map Prod.fst := by
  induction entries with
  | nil => simp [lookup]
  | cons entry rest ih =>
      by_cases hit : entry.1 = key
      · simp [lookup, hit]
      · simp only [lookup, hit, if_false, List.map_cons, List.mem_cons, ih]
        exact ⟨Or.inr, fun found => found.resolve_left (Ne.symm hit)⟩

theorem lookup_filter (keep : κ → ν → Bool) (key : κ) {entries : List (κ × ν)}
    (distinct : (entries.map Prod.fst).Nodup) :
    lookup key (entries.filter fun entry => keep entry.1 entry.2) =
      (lookup key entries).filter (keep key) := by
  induction entries with
  | nil => rfl
  | cons entry rest ih =>
      have tail := ih (List.nodup_cons.1 distinct).2
      by_cases hit : entry.1 = key
      · subst hit
        have absent : (lookup entry.1 rest).isSome ≠ true := fun found =>
          (List.nodup_cons.1 distinct).1 ((lookup_isSome_iff _ _).1 found)
        have missing : lookup entry.1 rest = none := by simpa using absent
        by_cases kept : keep entry.1 entry.2 = true
        · simp [lookup, kept, Option.filter]
        · simp [lookup, kept, tail, missing, Option.filter]
      · by_cases kept : keep entry.1 entry.2 = true <;> simp [lookup, kept, hit, tail]

theorem find?_insert (table : Table κ ν) (key other : κ) (value : ν) :
    (table.insert key value).find? other =
      if key = other then some value else table.find? other :=
  lookup_place key other value table.entries

theorem find?_filter (table : Table κ ν) (keep : κ → ν → Bool) (key : κ) :
    (table.filter keep).find? key = (table.find? key).filter (keep key) :=
  lookup_filter keep key table.distinct

theorem find?_erase (table : Table κ ν) (key other : κ) :
    (table.erase key).find? other = if key = other then none else table.find? other := by
  rw [erase, find?_filter]
  by_cases same : key = other
  · subst same
    cases table.find? key <;> simp
  · cases table.find? other <;> simp [same, Ne.symm same]

theorem contains_iff (table : Table κ ν) (key : κ) :
    table.contains key = true ↔ key ∈ table.keys :=
  lookup_isSome_iff key table.entries

theorem contains_insert (table : Table κ ν) (key other : κ) (value : ν) :
    (table.insert key value).contains other = (decide (key = other) || table.contains other) := by
  rw [contains, find?_insert]
  by_cases same : key = other <;> simp [same, contains]

theorem contains_erase (table : Table κ ν) (key other : κ) :
    (table.erase key).contains other = (decide (key ≠ other) && table.contains other) := by
  rw [contains, find?_erase]
  by_cases same : key = other <;> simp [same, contains]

/-- Erasing a key that is not there changes nothing, not even the order. -/
theorem erase_of_absent {table : Table κ ν} {key : κ} (absent : table.contains key = false) :
    table.erase key = table := by
  have kept : ∀ entry ∈ table.entries, decide (entry.1 ≠ key) = true := by
    intro entry member
    refine decide_eq_true fun same => ?_
    have present := (contains_iff table key).2 (same ▸ List.mem_map_of_mem member)
    rw [absent] at present
    cases present
  cases table
  simp only [erase, filter, mk.injEq]
  exact List.filter_eq_self.2 kept

/-- Distinct keys of a table are at most as many as its entries. -/
theorem length_le_size {table : Table κ ν} {keys : List κ} (distinct : keys.Nodup)
    (present : ∀ key ∈ keys, table.contains key = true) : keys.length ≤ table.size := by
  have within : keys ⊆ table.keys := fun key member =>
    (contains_iff table key).1 (present key member)
  have bound := distinct.length_le_of_subset within
  rwa [Table.keys, List.length_map] at bound

end Table

end ScenePlayer
