/-!
Sets of addresses, held in increasing order of their characters. As each set has one list, sets with
the same members are equal.
-/

namespace VoucherSwap

namespace AddressSet

def insertSorted (address : String) : List String → List String
  | [] => [address]
  | first :: rest =>
    if address < first then address :: first :: rest
    else if address = first then first :: rest
    else first :: insertSorted address rest

theorem mem_insertSorted {address other : String} {addresses : List String} :
    other ∈ insertSorted address addresses ↔ other = address ∨ other ∈ addresses := by
  induction addresses with
  | nil => simp [insertSorted]
  | cons first rest ih =>
    simp only [insertSorted]
    split
    · simp
    · split
      · rename_i same
        simp [same]
      · simp only [List.mem_cons, ih]
        constructor <;> rintro (h | h | h) <;> simp [h]

theorem sorted_insertSorted {address : String} {addresses : List String}
    (sorted : addresses.Pairwise (· < ·)) : (insertSorted address addresses).Pairwise (· < ·) := by
  induction addresses with
  | nil => simp [insertSorted]
  | cons first rest ih =>
    obtain ⟨below, sortedRest⟩ := List.pairwise_cons.mp sorted
    simp only [insertSorted]
    split
    · rename_i before
      refine List.pairwise_cons.mpr ⟨fun other member => ?_, sorted⟩
      rcases List.mem_cons.mp member with rfl | later
      · exact before
      · exact String.lt_trans before (below other later)
    · split
      · exact sorted
      · rename_i notBefore different
        refine List.pairwise_cons.mpr ⟨fun other member => ?_, ih sortedRest⟩
        rcases mem_insertSorted.mp member with rfl | later
        · exact Std.lt_of_le_of_ne (Std.not_lt.mp notBefore) (Ne.symm different)
        · exact below other later

end AddressSet

structure AddressSet where
  toList : List String
  sorted : toList.Pairwise (· < ·)
  deriving DecidableEq

namespace AddressSet

def empty : AddressSet := ⟨[], .nil⟩

def insert (addresses : AddressSet) (address : String) : AddressSet :=
  ⟨insertSorted address addresses.toList, sorted_insertSorted addresses.sorted⟩

def ofList (addresses : List String) : AddressSet := addresses.foldl insert empty

instance : Membership String AddressSet := ⟨fun addresses address => address ∈ addresses.toList⟩

instance (address : String) (addresses : AddressSet) : Decidable (address ∈ addresses) :=
  inferInstanceAs (Decidable (address ∈ addresses.toList))

theorem mem_insert {address other : String} {addresses : AddressSet} :
    other ∈ addresses.insert address ↔ other = address ∨ other ∈ addresses :=
  mem_insertSorted

end AddressSet

end VoucherSwap
