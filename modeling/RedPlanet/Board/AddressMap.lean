import Mathlib.Algebra.Order.Ring.Nat

/-!
# Address maps

`address_range.rs` and `address_map.rs`: a map of the 32-bit address space
into disjoint ranges with values.  That a range is not empty and that the
ranges are in order is part of the types, so that no map of another kind can
be built.

`search` is the binary search of the source with its result, and
`search_of_mem` and `search_error` say what it finds: the range that contains
the address, or the place where one would be.  The start and the end of the
gap at that place do enclose the address (`vacantStart_le`, `le_vacantLast`).
-/

namespace RedPlanet.Board

/-- Inclusive bounds. -/
structure AddressRange where
  start : BitVec 32
  last : BitVec 32
  start_le : start ≤ last
deriving DecidableEq, Repr

namespace AddressRange

/-- The address lies in the range. -/
def contains (address : BitVec 32) (range : AddressRange) : Prop :=
  range.start ≤ address ∧ address ≤ range.last

/-- `AddressRange::size`. -/
def size (range : AddressRange) : ℕ :=
  (range.last - range.start).toNat + 1

end AddressRange

/-- Ranges with values, one behind the other. -/
structure AddressMap (α : Type) where
  orderedRanges : List (AddressRange × α)
  ordered : orderedRanges.Pairwise fun a b => a.1.last < b.1.start

namespace AddressMap

variable {α : Type}

/-- The position of the first entry that does not lie before the address. -/
def firstNotBefore (address : BitVec 32) (map : AddressMap α) : ℕ :=
  map.orderedRanges.findIdx fun entry => decide (address ≤ entry.1.last)

/-- The binary search of `range_value`: the entry that contains the address,
or the position of the first entry past it. -/
def search (address : BitVec 32) (map : AddressMap α) :
    Except ℕ (AddressRange × α) :=
  let index := map.firstNotBefore address
  match map.orderedRanges[index]? with
  | some entry =>
      if entry.1.start ≤ address then .ok entry else .error index
  | none => .error index

/-- The first address after the entry before `index`. -/
def vacantStart (index : ℕ) (map : AddressMap α) : BitVec 32 :=
  match index with
  | 0 => 0
  | i + 1 => (map.orderedRanges[i]?).elim 0 fun entry => entry.1.last + 1

/-- The last address before the entry at `index`. -/
def vacantLast (index : ℕ) (map : AddressMap α) : BitVec 32 :=
  (map.orderedRanges[index]?).elim 0xFFFFFFFF fun entry => entry.1.start - 1

/-- The entries before the position found end before the address. -/
theorem last_lt_of_lt {address : BitVec 32} {map : AddressMap α} {i : ℕ}
    {entry : AddressRange × α} (hi : i < map.firstNotBefore address)
    (hentry : map.orderedRanges[i]? = some entry) : entry.1.last < address := by
  obtain ⟨hlt, hget⟩ := List.getElem?_eq_some_iff.1 hentry
  have hbefore := List.not_of_lt_findIdx hi
  rw [hget, decide_eq_false_iff_not] at hbefore
  exact BitVec.not_le.1 hbefore

/-- What is not found belongs before the first range that does not lie before
it. -/
theorem search_error {address : BitVec 32} {map : AddressMap α} {index : ℕ}
    (h : map.search address = .error index) :
    index = map.firstNotBefore address ∧
      ∀ entry, map.orderedRanges[index]? = some entry →
        address < entry.1.start := by
  unfold search at h
  dsimp only at h
  split at h
  · rename_i found hfound
    by_cases hstart : found.1.start ≤ address
    · rw [if_pos hstart] at h
      exact nomatch h
    · rw [if_neg hstart] at h
      cases h
      refine ⟨rfl, ?_⟩
      intro entry hentry
      rw [hfound] at hentry
      cases hentry
      exact BitVec.not_le.1 hstart
  · rename_i hnone
    cases h
    refine ⟨rfl, ?_⟩
    intro entry hentry
    rw [hnone] at hentry
    exact nomatch hentry

/-- What is found is in the map, and contains the address. -/
theorem search_ok {address : BitVec 32} {map : AddressMap α}
    {entry : AddressRange × α} (h : map.search address = .ok entry) :
    entry ∈ map.orderedRanges ∧ entry.1.contains address := by
  unfold search at h
  dsimp only at h
  split at h
  · rename_i found hfound
    by_cases hstart : found.1.start ≤ address
    · rw [if_pos hstart] at h
      cases h
      have hlast := List.findIdx_of_getElem?_eq_some hfound
      rw [decide_eq_true_eq] at hlast
      exact ⟨List.mem_of_getElem? hfound, hstart, hlast⟩
    · rw [if_neg hstart] at h
      exact nomatch h
  · exact nomatch h

/-- The gap starts at the address or before. -/
theorem vacantStart_le {address : BitVec 32} {map : AddressMap α} {index : ℕ}
    (h : map.search address = .error index) :
    map.vacantStart index ≤ address := by
  have hindex := (search_error h).1
  cases index with
  | zero => exact Nat.zero_le address.toNat
  | succ i =>
      show ((map.orderedRanges[i]?).elim 0 fun entry => entry.1.last + 1)
        ≤ address
      cases hentry : map.orderedRanges[i]? with
      | none => exact Nat.zero_le address.toNat
      | some entry =>
          have hi : i < map.firstNotBefore address := by omega
          have hlt := last_lt_of_lt hi hentry
          rw [BitVec.lt_def] at hlt
          have hmax := address.isLt
          rw [Option.elim_some, BitVec.le_def, BitVec.toNat_add]
          show (entry.1.last.toNat + 1) % 4294967296 ≤ address.toNat
          omega

/-- The gap ends at the address or behind. -/
theorem le_vacantLast {address : BitVec 32} {map : AddressMap α} {index : ℕ}
    (h : map.search address = .error index) :
    address ≤ map.vacantLast index := by
  have hstart := (search_error h).2
  unfold vacantLast
  cases hentry : map.orderedRanges[index]? with
  | none =>
      rw [Option.elim_none, BitVec.le_def]
      show address.toNat ≤ 4294967295
      have hmax := address.isLt
      omega
  | some entry =>
      have hlt := hstart entry hentry
      rw [BitVec.lt_def] at hlt
      have hmax := entry.1.start.isLt
      rw [Option.elim_some, BitVec.le_def, BitVec.toNat_sub_of_le]
      · show address.toNat ≤ entry.1.start.toNat - 1
        omega
      · rw [BitVec.le_def]
        show 1 ≤ entry.1.start.toNat
        omega

/-- `AddressMap::range_value`: the range around an address, vacant or not. -/
def rangeValue (address : BitVec 32) (map : AddressMap α) :
    AddressRange × Option α :=
  match h : map.search address with
  | .ok entry => (entry.1, some entry.2)
  | .error index =>
      ({ start := map.vacantStart index
         last := map.vacantLast index
         start_le := BitVec.le_trans (vacantStart_le h) (le_vacantLast h) },
        none)

/-- The entry around an address is found. -/
theorem search_of_mem {address : BitVec 32} {map : AddressMap α}
    {entry : AddressRange × α} (hmem : entry ∈ map.orderedRanges)
    (hcontains : entry.1.contains address) :
    map.search address = .ok entry := by
  obtain ⟨i, hi, hget⟩ := List.getElem_of_mem hmem
  have hindex : map.firstNotBefore address = i := by
    unfold firstNotBefore
    rw [List.findIdx_eq hi]
    constructor
    · rw [hget, decide_eq_true_eq]
      exact hcontains.2
    · intro j hj
      have horder := List.pairwise_iff_getElem.1 map.ordered j i
        (Nat.lt_trans hj hi) hi hj
      rw [hget] at horder
      rw [decide_eq_false_iff_not]
      exact BitVec.not_le.2 (Nat.lt_of_lt_of_le horder hcontains.1)
  unfold search
  dsimp only
  rw [hindex, List.getElem?_eq_getElem hi, hget]
  exact if_pos hcontains.1

/-- An address has a value iff an entry contains it. -/
theorem rangeValue_eq_some_iff {address : BitVec 32} {map : AddressMap α}
    {range : AddressRange} {value : α} :
    map.rangeValue address = (range, some value) ↔
      (range, value) ∈ map.orderedRanges ∧ range.contains address := by
  constructor
  · intro h
    unfold rangeValue at h
    split at h
    · rename_i entry hentry
      have hfound := search_ok hentry
      cases h
      exact hfound
    · cases h
  · intro h
    have hsearch := search_of_mem h.1 h.2
    unfold rangeValue
    split
    · rename_i entry hentry
      rw [hsearch] at hentry
      cases hentry
      rfl
    · rename_i index hindex
      rw [hsearch] at hindex
      exact nomatch hindex

end AddressMap

end RedPlanet.Board
