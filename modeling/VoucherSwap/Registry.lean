/-!
Finite maps as lists of entries, in the order in which their keys first came. No key has two
entries.
-/

namespace VoucherSwap

structure Registry (κ ν : Type) where
  entries : List (κ × ν)
  unique : (entries.map Prod.fst).Nodup

namespace Registry

variable {κ ν : Type} [DecidableEq κ]

instance [DecidableEq ν] : DecidableEq (Registry κ ν) := fun a b =>
  match decEq a.entries b.entries with
  | isTrue same => isTrue (by cases a; cases b; simp_all)
  | isFalse different => isFalse (by rintro rfl; exact different rfl)

def empty : Registry κ ν := ⟨[], List.nodup_nil⟩

def lookup (key : κ) : List (κ × ν) → Option ν
  | [] => none
  | entry :: rest => if entry.1 = key then some entry.2 else lookup key rest

def put (key : κ) (value : ν) : List (κ × ν) → List (κ × ν)
  | [] => [(key, value)]
  | entry :: rest =>
    if entry.1 = key then (key, value) :: rest else entry :: put key value rest

theorem mem_keys_put {key other : κ} {value : ν} {entries : List (κ × ν)} :
    other ∈ (put key value entries).map Prod.fst ↔
      other = key ∨ other ∈ entries.map Prod.fst := by
  induction entries with
  | nil => simp [put]
  | cons entry rest ih =>
    simp only [put]
    split
    · rename_i same
      simp [same]
    · simp only [List.map_cons, List.mem_cons, ih]
      constructor <;> rintro (h | h | h) <;> simp [h]

theorem nodup_put {key : κ} {value : ν} {entries : List (κ × ν)}
    (unique : (entries.map Prod.fst).Nodup) : ((put key value entries).map Prod.fst).Nodup := by
  induction entries with
  | nil => simp [put]
  | cons entry rest ih =>
    obtain ⟨absent, uniqueRest⟩ := List.nodup_cons.mp unique
    simp only [put]
    split
    · rename_i same
      exact List.nodup_cons.mpr ⟨same ▸ absent, uniqueRest⟩
    · rename_i different
      refine List.nodup_cons.mpr ⟨fun member => ?_, ih uniqueRest⟩
      rcases mem_keys_put.mp member with same | later
      · exact different same
      · exact absent later

theorem lookup_put_self (key : κ) (value : ν) (entries : List (κ × ν)) :
    lookup key (put key value entries) = some value := by
  induction entries with
  | nil => simp [put, lookup]
  | cons entry rest ih =>
    simp only [put]
    split
    · simp [lookup]
    · rename_i different
      simp [lookup, different, ih]

theorem lookup_put_of_ne {key other : κ} (different : other ≠ key) (value : ν)
    (entries : List (κ × ν)) : lookup other (put key value entries) = lookup other entries := by
  induction entries with
  | nil => simp [put, lookup, Ne.symm different]
  | cons entry rest ih =>
    simp only [put]
    split
    · rename_i same
      simp [lookup, same, Ne.symm different]
    · simp [lookup, ih]

def find? (registry : Registry κ ν) (key : κ) : Option ν := lookup key registry.entries

def insert (registry : Registry κ ν) (key : κ) (value : ν) : Registry κ ν :=
  ⟨put key value registry.entries, nodup_put registry.unique⟩

def erase (registry : Registry κ ν) (key : κ) : Registry κ ν :=
  ⟨registry.entries.filter fun entry => entry.1 ≠ key,
    (List.filter_sublist.map Prod.fst).nodup registry.unique⟩

@[simp] theorem find?_empty (key : κ) : (empty : Registry κ ν).find? key = none := rfl

@[simp] theorem find?_insert_self (registry : Registry κ ν) (key : κ) (value : ν) :
    (registry.insert key value).find? key = some value :=
  lookup_put_self key value registry.entries

theorem find?_insert_of_ne (registry : Registry κ ν) {key other : κ} (different : other ≠ key)
    (value : ν) : (registry.insert key value).find? other = registry.find? other :=
  lookup_put_of_ne different value registry.entries

end Registry

end VoucherSwap
