import Mathlib.Data.List.Sort
import Mathlib.Logic.Function.Basic
import RedPlanet.Board.AddressMap
import RedPlanet.SpaceTime.Table
import RedPlanet.Verified.BinarySearch

/-!
# Building and searching address maps

`AddressMap::try_from` sorts what it is given and looks for overlaps between
neighbours; `range_value` is a binary search, and arithmetic at the borders of
the gap where nothing is found.  `rangeValueBy` follows it step by step, with
`none` for a panic, and is shown to be `rangeValue`.

The map is built iff no two of the ranges overlap, and then a lookup gives the
value of the range that contains the address, or the whole gap around it if
there is none (`Vacant`).  A `TwoWayAddressMap` is such a map with its
inverse, which needs the values to be different as well.
-/

namespace RedPlanet.Board

open RedPlanet.Core RedPlanet.Verified RedPlanet.SpaceTime

variable {α : Type}

/-- `AddressRange::new`. -/
def AddressRange.new (start last : BitVec 32) : Option AddressRange :=
  if h : start ≤ last then some { start, last, start_le := h } else none

namespace AddressMap

/-! ## The binary search -/

/-- The comparator of `range_value`. -/
def compareTo (address : BitVec 32) (entry : AddressRange × α) : Ordering :=
  if address < entry.1.start then .gt
  else if address ≤ entry.1.last then .eq
  else .lt

/-- `start` of the gap before position `index`. -/
def gapStart [Build] (index : ℕ) (map : AddressMap α) : Option (BitVec 32) :=
  match if index = 0 then none else map.orderedRanges[index - 1]? with
  | some entry => addU32 entry.1.last 1
  | none => some 0

/-- `end` of that gap. -/
def gapLast [Build] (index : ℕ) (map : AddressMap α) : Option (BitVec 32) :=
  match map.orderedRanges[index]? with
  | some entry => subU32 entry.1.start 1
  | none => some 0xFFFFFFFF

/-- `AddressMap::range_value`, with the arithmetic of the gap. -/
def rangeValueBy [Build] (address : BitVec 32) (map : AddressMap α) :
    Option (AddressRange × Option α) :=
  match binarySearchBy (compareTo address) map.orderedRanges with
  | .ok index => (map.orderedRanges[index]?).map fun entry =>
      (entry.1, some entry.2)
  | .error index => do
      let start ← map.gapStart index
      let last ← map.gapLast index
      let gap ← AddressRange.new start last
      return (gap, none)

variable {address : BitVec 32} {map : AddressMap α}

/-- The range lies before the address. -/
theorem compareTo_eq_lt {entry : AddressRange × α} :
    compareTo address entry = .lt ↔ entry.1.last < address := by
  have hle : entry.1.start.toNat ≤ entry.1.last.toNat := entry.1.start_le
  unfold compareTo
  by_cases hstart : address < entry.1.start
  · rw [if_pos hstart]
    rw [BitVec.lt_def] at hstart ⊢
    simp only [reduceCtorEq, false_iff]
    omega
  · rw [if_neg hstart]
    by_cases hlast : address ≤ entry.1.last
    · rw [if_pos hlast]
      simp only [reduceCtorEq, false_iff]
      exact BitVec.not_lt.2 hlast
    · rw [if_neg hlast]
      simp only [true_iff]
      exact BitVec.not_le.1 hlast

/-- The range lies behind the address. -/
theorem compareTo_eq_gt {entry : AddressRange × α} :
    compareTo address entry = .gt ↔ address < entry.1.start := by
  unfold compareTo
  by_cases hstart : address < entry.1.start
  · simp [hstart]
  · rw [if_neg hstart]
    by_cases hlast : address ≤ entry.1.last
    · simp [hlast, hstart]
    · simp [hlast, hstart]

/-- The range contains the address. -/
theorem compareTo_eq_eq {entry : AddressRange × α} :
    compareTo address entry = .eq ↔ entry.1.contains address := by
  unfold compareTo AddressRange.contains
  by_cases hstart : address < entry.1.start
  · rw [if_pos hstart]
    simp only [reduceCtorEq, false_iff]
    intro hcontains
    exact absurd hcontains.1 (BitVec.not_le.2 hstart)
  · rw [if_neg hstart]
    by_cases hlast : address ≤ entry.1.last
    · simp [hlast, BitVec.not_lt.1 hstart]
    · simp [hlast]

/-- The entries are in order, so the comparator partitions them. -/
theorem partitioned (address : BitVec 32) (map : AddressMap α) :
    Partitioned (compareTo address) map.orderedRanges := by
  have hbefore : ∀ (i j : ℕ) (x y : AddressRange × α), i ≤ j →
      map.orderedRanges[i]? = some x → map.orderedRanges[j]? = some y →
        x = y ∨ x.1.last < y.1.start := by
    intro i j x y hij hx hy
    obtain ⟨hi, rfl⟩ := List.getElem?_eq_some_iff.1 hx
    obtain ⟨hj, rfl⟩ := List.getElem?_eq_some_iff.1 hy
    rcases Nat.eq_or_lt_of_le hij with rfl | hlt
    · exact Or.inl rfl
    · exact Or.inr (List.pairwise_iff_getElem.1 map.ordered i j hi hj hlt)
  constructor
  · intro i j x y hij hx hy hless
    rcases hbefore i j x y hij hx hy with rfl | hlt
    · exact hless
    · rw [compareTo_eq_lt] at hless ⊢
      have hrange : y.1.start.toNat ≤ y.1.last.toNat := y.1.start_le
      rw [BitVec.lt_def] at hlt hless ⊢
      omega
  · intro i j x y hij hx hy hgreater
    rcases hbefore i j x y hij hx hy with rfl | hlt
    · exact hgreater
    · rw [compareTo_eq_gt] at hgreater ⊢
      have hrange : x.1.start.toNat ≤ x.1.last.toNat := x.1.start_le
      rw [BitVec.lt_def] at hlt hgreater ⊢
      omega

/-- Where nothing is found, the search of `rangeValue` ends at the same
position. -/
theorem search_of_error {index : ℕ}
    (h : Finds (compareTo address) map.orderedRanges (.error index)) :
    map.search address = .error index := by
  obtain ⟨hle, hless, hgreater⟩ := h
  have hindex : map.firstNotBefore address = index := by
    unfold firstNotBefore
    rcases Nat.lt_or_ge index map.orderedRanges.length with hlt | hge
    · rw [List.findIdx_eq hlt]
      have hget := List.getElem?_eq_getElem hlt
      have hafter := hgreater index _ (Nat.le_refl _) hget
      rw [compareTo_eq_gt] at hafter
      constructor
      · rw [decide_eq_true_eq]
        exact BitVec.le_trans (BitVec.le_of_lt hafter)
          map.orderedRanges[index].1.start_le
      · intro j hj
        have hbefore := hless j _ hj
          (List.getElem?_eq_getElem (Nat.lt_trans hj hlt))
        rw [compareTo_eq_lt] at hbefore
        rw [decide_eq_false_iff_not]
        exact BitVec.not_le.2 hbefore
    · have hend : index = map.orderedRanges.length := Nat.le_antisymm hle hge
      rw [hend, List.findIdx_eq_length]
      intro entry hentry
      obtain ⟨j, hj, hget⟩ := List.getElem_of_mem hentry
      have hbefore := hless j _ (by omega) (List.getElem?_eq_getElem hj)
      rw [hget, compareTo_eq_lt] at hbefore
      rw [decide_eq_false_iff_not]
      exact BitVec.not_le.2 hbefore
  unfold search
  dsimp only
  rw [hindex]
  cases hentry : map.orderedRanges[index]? with
  | none => rfl
  | some entry =>
      have hafter := hgreater index entry (Nat.le_refl _) hentry
      rw [compareTo_eq_gt] at hafter
      dsimp only
      rw [if_neg (BitVec.not_le.2 hafter)]

/-- Where the search fails, the result is the gap at its index. -/
theorem rangeValue_of_error {index : ℕ}
    (h : map.search address = .error index) :
    (map.rangeValue address).1.start = map.vacantStart index ∧
      (map.rangeValue address).1.last = map.vacantLast index ∧
      (map.rangeValue address).2 = none := by
  unfold rangeValue
  split
  · rename_i entry hentry
    rw [h] at hentry
    exact nomatch hentry
  · rename_i index' hindex
    rw [h] at hindex
    cases hindex
    exact ⟨rfl, rfl, rfl⟩

section Build

variable [Build]

/-- The end of an entry before the address is not the last address. -/
theorem addU32_one {last : BitVec 32} (h : last < address) :
    addU32 last 1 = some (last + 1) := by
  have hmax := address.isLt
  have hone : (1 : BitVec 32).toNat = 1 := by decide
  rw [BitVec.lt_def] at h
  unfold addU32
  rw [if_neg]
  omega

/-- The start of an entry after the address is not the first address. -/
theorem subU32_one {start : BitVec 32} (h : address < start) :
    subU32 start 1 = some (start - 1) := by
  have hone : (1 : BitVec 32).toNat = 1 := by decide
  rw [BitVec.lt_def] at h
  unfold subU32
  rw [if_neg]
  rw [BitVec.lt_def]
  omega

/-- The start of the gap is computed without overflow. -/
theorem gapStart_eq {index : ℕ}
    (h : Finds (compareTo address) map.orderedRanges (.error index)) :
    map.gapStart index = some (map.vacantStart index) := by
  obtain ⟨hle, hless, _⟩ := h
  unfold gapStart vacantStart
  cases index with
  | zero => rfl
  | succ i =>
      have hlt : i < map.orderedRanges.length := hle
      have hget := List.getElem?_eq_getElem hlt
      have hbefore := hless i _ (Nat.lt_succ_self i) hget
      rw [compareTo_eq_lt] at hbefore
      rw [if_neg (Nat.succ_ne_zero i), Nat.succ_sub_one]
      dsimp only
      rw [hget]
      exact addU32_one hbefore

theorem gapLast_eq {index : ℕ}
    (h : Finds (compareTo address) map.orderedRanges (.error index)) :
    map.gapLast index = some (map.vacantLast index) := by
  obtain ⟨_, _, hgreater⟩ := h
  unfold gapLast vacantLast
  cases hget : map.orderedRanges[index]? with
  | none => rfl
  | some entry =>
      have hafter := hgreater index entry (Nat.le_refl _) hget
      rw [compareTo_eq_gt] at hafter
      exact subU32_one hafter

omit [Build] in
/-- The entry that was found is the one of the address. -/
theorem rangeValue_of_ok {index : ℕ}
    (h : binarySearchBy (compareTo address) map.orderedRanges = .ok index) :
    ∃ entry, map.orderedRanges[index]? = some entry ∧
      map.rangeValue address = (entry.1, some entry.2) := by
  have hfinds := binarySearchBy_finds (map.partitioned address)
  rw [h] at hfinds
  obtain ⟨entry, hentry, heq⟩ := hfinds
  rw [compareTo_eq_eq] at heq
  exact ⟨entry, hentry,
    rangeValue_eq_some_iff.2 ⟨List.mem_of_getElem? hentry, heq⟩⟩

/-- No overflow, no empty gap: the steps of `range_value` all succeed. -/
theorem rangeValueBy_eq (address : BitVec 32) (map : AddressMap α) :
    map.rangeValueBy address = some (map.rangeValue address) := by
  have hfinds := binarySearchBy_finds (map.partitioned address)
  unfold rangeValueBy
  cases hsearch : binarySearchBy (compareTo address) map.orderedRanges with
  | ok index =>
      obtain ⟨entry, hentry, hvalue⟩ := rangeValue_of_ok hsearch
      dsimp only
      rw [hentry, hvalue]
      rfl
  | error index =>
      rw [hsearch] at hfinds
      obtain ⟨hstart, hlast, hnone⟩ :=
        rangeValue_of_error (search_of_error hfinds)
      have hgap : AddressRange.new (map.vacantStart index)
          (map.vacantLast index) = some (map.rangeValue address).1 := by
        rw [← hstart, ← hlast]
        unfold AddressRange.new
        rw [dif_pos (map.rangeValue address).1.start_le]
      dsimp only
      rw [gapStart_eq hfinds, gapLast_eq hfinds]
      show (AddressRange.new _ _).bind _ = _
      rw [hgap, ← hnone]
      rfl

end Build

/-! ## The gap is as large as it can be -/

/-- No address of the range is in an entry, and the ones next to it are. -/
structure Vacant (ranges : List (AddressRange × α)) (gap : AddressRange) :
    Prop where
  vacant : ∀ a, gap.contains a → ∀ entry ∈ ranges, ¬ entry.1.contains a
  start : gap.start = 0 ∨ ∃ entry ∈ ranges, entry.1.contains (gap.start - 1)
  last : gap.last = 0xFFFFFFFF ∨
    ∃ entry ∈ ranges, entry.1.contains (gap.last + 1)

/-- Entries at positions in order are in order. -/
theorem entry_le {map : AddressMap α} {i j : ℕ} {x y : AddressRange × α}
    (hij : i ≤ j) (hx : map.orderedRanges[i]? = some x)
    (hy : map.orderedRanges[j]? = some y) :
    x.1.start ≤ y.1.start ∧ x.1.last ≤ y.1.last := by
  obtain ⟨hi, rfl⟩ := List.getElem?_eq_some_iff.1 hx
  obtain ⟨hj, rfl⟩ := List.getElem?_eq_some_iff.1 hy
  rcases Nat.eq_or_lt_of_le hij with rfl | hlt
  · exact ⟨BitVec.le_refl _, BitVec.le_refl _⟩
  · have hbefore := BitVec.le_of_lt
      (List.pairwise_iff_getElem.1 map.ordered i j hi hj hlt)
    exact ⟨BitVec.le_trans map.orderedRanges[i].1.start_le hbefore,
      BitVec.le_trans hbefore map.orderedRanges[j].1.start_le⟩

section Gap

variable {index : ℕ}

/-- The ranges before the index end before the gap. -/
theorem last_lt_vacantStart
    (h : Finds (compareTo address) map.orderedRanges (.error index)) {j : ℕ}
    {entry : AddressRange × α} (hj : j < index)
    (hentry : map.orderedRanges[j]? = some entry) :
    entry.1.last < map.vacantStart index := by
  obtain ⟨hle, hless, _⟩ := h
  cases index with
  | zero => exact absurd hj (Nat.not_lt_zero j)
  | succ i =>
      have hlt : i < map.orderedRanges.length := hle
      have hget := List.getElem?_eq_getElem hlt
      have hbefore := hless i _ (Nat.lt_succ_self i) hget
      rw [compareTo_eq_lt] at hbefore
      have horder := (entry_le (Nat.le_of_lt_succ hj) hentry hget).2
      have hmax := address.isLt
      have hone : (1 : BitVec 32).toNat = 1 := by decide
      unfold vacantStart
      dsimp only
      rw [hget, Option.elim_some]
      rw [BitVec.lt_def] at hbefore ⊢
      rw [BitVec.le_def] at horder
      rw [BitVec.toNat_add, hone]
      omega

/-- The ranges from the index on start behind the gap. -/
theorem vacantLast_lt_start
    (h : Finds (compareTo address) map.orderedRanges (.error index)) {j : ℕ}
    {entry : AddressRange × α} (hj : index ≤ j)
    (hentry : map.orderedRanges[j]? = some entry) :
    map.vacantLast index < entry.1.start := by
  obtain ⟨_, _, hgreater⟩ := h
  obtain ⟨hlt, _⟩ := List.getElem?_eq_some_iff.1 hentry
  have hget := List.getElem?_eq_getElem (Nat.lt_of_le_of_lt hj hlt)
  have hafter := hgreater index _ (Nat.le_refl _) hget
  rw [compareTo_eq_gt] at hafter
  have horder := (entry_le hj hget hentry).1
  have hone : (1 : BitVec 32).toNat = 1 := by decide
  unfold vacantLast
  rw [hget, Option.elim_some]
  rw [BitVec.lt_def] at hafter ⊢
  rw [BitVec.le_def] at horder
  rw [BitVec.toNat_sub_of_le, hone]
  · omega
  · rw [BitVec.le_def, hone]
    omega

/-- The gap before the position where nothing is found. -/
theorem vacant_gap
    (h : Finds (compareTo address) map.orderedRanges (.error index))
    {gap : AddressRange} (hstart : gap.start = map.vacantStart index)
    (hlast : gap.last = map.vacantLast index) :
    Vacant map.orderedRanges gap where
  vacant := by
    intro a hgap entry hmem hcontains
    obtain ⟨j, hj, hget⟩ := List.getElem_of_mem hmem
    have hentry : map.orderedRanges[j]? = some entry := by
      rw [List.getElem?_eq_getElem hj, hget]
    obtain ⟨hfrom, hto⟩ := hgap
    rw [hstart] at hfrom
    rw [hlast] at hto
    rcases Nat.lt_or_ge j index with hbefore | hafter
    · have hlt := last_lt_vacantStart h hbefore hentry
      exact BitVec.not_le.2 (Nat.lt_of_lt_of_le hlt hfrom) hcontains.2
    · have hlt := vacantLast_lt_start h hafter hentry
      exact BitVec.not_le.2 (Nat.lt_of_le_of_lt hto hlt) hcontains.1
  start := by
    cases index with
    | zero => exact Or.inl hstart
    | succ i =>
        have hlt : i < map.orderedRanges.length := h.1
        refine Or.inr ⟨map.orderedRanges[i], List.getElem_mem hlt, ?_⟩
        have hprev : gap.start - 1 = map.orderedRanges[i].1.last := by
          rw [hstart]
          unfold vacantStart
          dsimp only
          rw [List.getElem?_eq_getElem hlt, Option.elim_some,
            BitVec.add_sub_cancel]
        rw [hprev]
        exact ⟨map.orderedRanges[i].1.start_le, BitVec.le_refl _⟩
  last := by
    cases hget : map.orderedRanges[index]? with
    | none =>
        rw [hlast]
        unfold vacantLast
        rw [hget]
        exact Or.inl rfl
    | some entry =>
        refine Or.inr ⟨entry, List.mem_of_getElem? hget, ?_⟩
        have hnext : gap.last + 1 = entry.1.start := by
          rw [hlast]
          unfold vacantLast
          rw [hget, Option.elim_some, BitVec.sub_add_cancel]
        rw [hnext]
        exact ⟨BitVec.le_refl _, entry.1.start_le⟩

end Gap

/-- Where nothing is found, the range is the whole gap around the address. -/
theorem vacant_of_none (h : (map.rangeValue address).2 = none) :
    (map.rangeValue address).1.contains address ∧
      Vacant map.orderedRanges (map.rangeValue address).1 := by
  have hfinds := binarySearchBy_finds (map.partitioned address)
  cases hsearch : binarySearchBy (compareTo address) map.orderedRanges with
  | ok index =>
      obtain ⟨entry, _, hvalue⟩ := rangeValue_of_ok hsearch
      rw [hvalue] at h
      exact nomatch h
  | error index =>
      rw [hsearch] at hfinds
      have herror := search_of_error hfinds
      obtain ⟨hstart, hlast, _⟩ := rangeValue_of_error herror
      refine ⟨⟨?_, ?_⟩, vacant_gap hfinds hstart hlast⟩
      · rw [hstart]
        exact vacantStart_le herror
      · rw [hlast]
        exact le_vacantLast herror

/-- A gap does not depend on the order of the ranges. -/
theorem Vacant.perm {ranges ranges' : List (AddressRange × α)}
    {gap : AddressRange} (h : Vacant ranges gap) (hperm : ranges.Perm ranges') :
    Vacant ranges' gap where
  vacant := fun a ha entry hmem => h.vacant a ha entry (hperm.mem_iff.2 hmem)
  start := h.start.imp_right fun hnext => by
    obtain ⟨entry, hmem, hcontains⟩ := hnext
    exact ⟨entry, hperm.mem_iff.1 hmem, hcontains⟩
  last := h.last.imp_right fun hnext => by
    obtain ⟨entry, hmem, hcontains⟩ := hnext
    exact ⟨entry, hperm.mem_iff.1 hmem, hcontains⟩

/-- Every address is in a range that was given, or in a gap between them. -/
theorem rangeValueBy_cases [Build] {ranges : List (AddressRange × α)}
    (hperm : map.orderedRanges.Perm ranges) (address : BitVec 32) :
    (∃ entry ∈ ranges, entry.1.contains address ∧
        map.rangeValueBy address = some (entry.1, some entry.2)) ∨
      ∃ gap : AddressRange, gap.contains address ∧ Vacant ranges gap ∧
        map.rangeValueBy address = some (gap, none) := by
  rw [rangeValueBy_eq]
  cases hvalue : (map.rangeValue address).2 with
  | some v =>
      have hpair : map.rangeValue address
          = ((map.rangeValue address).1, some v) := by rw [← hvalue]
      obtain ⟨hmem, hcontains⟩ := rangeValue_eq_some_iff.1 hpair
      exact Or.inl ⟨_, hperm.mem_iff.1 hmem, hcontains, by rw [hpair]⟩
  | none =>
      obtain ⟨hcontains, hvacant⟩ := vacant_of_none hvalue
      exact Or.inr ⟨_, hcontains, hvacant.perm hperm, by rw [← hvalue]⟩

/-! ## Construction -/

/-- `address_map::Error`. -/
inductive Error where
  | overlappingAddressRanges
deriving DecidableEq, Repr

/-- `sort_by_key` by the start of the range. -/
def sortRanges (value : List (AddressRange × α)) : List (AddressRange × α) :=
  value.mergeSort fun a b => decide (a.1.start ≤ b.1.start)

/-- The loop of `try_from`: some range starts before the one in front of it
has ended. -/
def overlapsPrev : AddressRange → List (AddressRange × α) → Bool
  | _, [] => false
  | prev, (range, _) :: rest =>
      if range.start ≤ prev.last then true else overlapsPrev range rest

/-- The test of neighbours, on ranges that are sorted. -/
def hasOverlap : List (AddressRange × α) → Bool
  | [] => false
  | (first, _) :: rest => overlapsPrev first rest

/-- What follows a range lies behind it, if the neighbours do not overlap. -/
theorem ordered_of_overlapsPrev {prev : AddressRange}
    {rest : List (AddressRange × α)} (h : overlapsPrev prev rest = false) :
    (∀ entry ∈ rest, prev.last < entry.1.start) ∧
      rest.Pairwise fun a b => a.1.last < b.1.start := by
  induction rest generalizing prev with
  | nil => exact ⟨fun _ hmem => absurd hmem List.not_mem_nil, .nil⟩
  | cons entry rest ih =>
      unfold overlapsPrev at h
      by_cases hle : entry.1.start ≤ prev.last
      · rw [if_pos hle] at h
        exact nomatch h
      · rw [if_neg hle] at h
        obtain ⟨hfirst, hrest⟩ := ih h
        have hlt : prev.last < entry.1.start := BitVec.not_le.1 hle
        refine ⟨?_, List.pairwise_cons.2 ⟨hfirst, hrest⟩⟩
        intro other hmem
        rcases List.mem_cons.1 hmem with rfl | hmem
        · exact hlt
        · have hnext := hfirst other hmem
          have hrange : entry.1.start.toNat ≤ entry.1.last.toNat :=
            entry.1.start_le
          rw [BitVec.lt_def] at hlt hnext ⊢
          omega

/-- Sorted ranges without overlapping neighbours are in order. -/
theorem ordered_of_hasOverlap {ranges : List (AddressRange × α)}
    (h : hasOverlap ranges = false) :
    ranges.Pairwise fun a b => a.1.last < b.1.start := by
  cases ranges with
  | nil => exact .nil
  | cons first rest =>
      exact List.pairwise_cons.2 (ordered_of_overlapsPrev h)

/-- And in such an order no neighbours overlap. -/
theorem hasOverlap_of_ordered {ranges : List (AddressRange × α)}
    (h : ranges.Pairwise fun a b => a.1.last < b.1.start) :
    hasOverlap ranges = false := by
  cases ranges with
  | nil => rfl
  | cons first rest =>
      show overlapsPrev first.1 rest = false
      induction rest generalizing first with
      | nil => rfl
      | cons entry rest ih =>
          rw [List.pairwise_cons] at h
          have hlt := h.1 entry List.mem_cons_self
          unfold overlapsPrev
          rw [if_neg (BitVec.not_le.2 hlt)]
          exact ih entry h.2

/-- `AddressMap::try_from`. -/
def tryFrom (value : List (AddressRange × α)) :
    Except Error (AddressMap α) :=
  if h : hasOverlap (sortRanges value) = false then
    .ok
      { orderedRanges := sortRanges value
        ordered := ordered_of_hasOverlap h }
  else .error .overlappingAddressRanges

/-- Two entries of the list share an address. -/
def Overlapping (value : List (AddressRange × α)) : Prop :=
  ∃ (i j : ℕ) (a b : AddressRange × α), i < j ∧ value[i]? = some a ∧
    value[j]? = some b ∧ ∃ address, a.1.contains address ∧ b.1.contains address

/-- The two share no address. -/
def Apart (a b : AddressRange × α) : Prop :=
  ∀ address, ¬ (a.1.contains address ∧ b.1.contains address)

/-- Two ranges overlap iff they are not pairwise apart. -/
theorem overlapping_iff {value : List (AddressRange × α)} :
    Overlapping value ↔ ¬ value.Pairwise Apart := by
  rw [List.pairwise_iff_getElem]
  constructor
  · rintro ⟨i, j, a, b, hij, ha, hb, address, hcontains⟩ hapart
    obtain ⟨hi, rfl⟩ := List.getElem?_eq_some_iff.1 ha
    obtain ⟨hj, rfl⟩ := List.getElem?_eq_some_iff.1 hb
    exact hapart i j hi hj hij address hcontains
  · intro hnot
    by_contra hno
    apply hnot
    intro i j hi hj hij address hcontains
    exact hno ⟨i, j, value[i], value[j], hij, List.getElem?_eq_getElem hi,
      List.getElem?_eq_getElem hj, address, hcontains⟩

/-- Sorting keeps the ranges. -/
theorem sortRanges_perm (value : List (AddressRange × α)) :
    (sortRanges value).Perm value := List.mergeSort_perm _ _

/-- Sorting is by the start. -/
theorem sortRanges_sorted (value : List (AddressRange × α)) :
    (sortRanges value).Pairwise fun a b => a.1.start ≤ b.1.start := by
  have htrans : ∀ a b c : AddressRange × α,
      decide (a.1.start ≤ b.1.start) = true →
        decide (b.1.start ≤ c.1.start) = true →
          decide (a.1.start ≤ c.1.start) = true := by
    intro a b c hab hbc
    rw [decide_eq_true_eq] at hab hbc ⊢
    exact BitVec.le_trans hab hbc
  have htotal : ∀ a b : AddressRange × α,
      (decide (a.1.start ≤ b.1.start) || decide (b.1.start ≤ a.1.start))
        = true := by
    intro a b
    rw [Bool.or_eq_true, decide_eq_true_eq, decide_eq_true_eq]
    exact BitVec.le_total _ _
  have hsorted := List.pairwise_mergeSort htrans htotal value
  exact hsorted.imp fun h => of_decide_eq_true h

/-- After sorting, ranges are apart iff each ends before the next starts. -/
theorem ordered_iff_apart {ranges : List (AddressRange × α)}
    (h : ranges.Pairwise fun a b => a.1.start ≤ b.1.start) :
    (ranges.Pairwise fun a b => a.1.last < b.1.start) ↔
      ranges.Pairwise Apart := by
  constructor
  · intro hordered
    apply hordered.imp
    intro a b hlt address hcontains
    have hle := BitVec.le_trans hcontains.2.1 hcontains.1.2
    exact BitVec.not_le.2 hlt hle
  · intro hapart
    apply (h.and hapart).imp
    rintro a b ⟨hle, hapart⟩
    by_contra hnot
    exact hapart b.1.start
      ⟨⟨hle, BitVec.not_lt.1 hnot⟩, BitVec.le_refl _, b.1.start_le⟩

/-- The test finds an overlap iff there is one. -/
theorem hasOverlap_sortRanges (value : List (AddressRange × α)) :
    hasOverlap (sortRanges value) = false ↔ ¬ Overlapping value := by
  have hsym : ∀ {a b : AddressRange × α}, Apart a b → Apart b a :=
    fun hapart address hcontains => hapart address hcontains.symm
  have hordered := ordered_iff_apart (sortRanges_sorted value)
  rw [overlapping_iff, not_not, ← (sortRanges_perm value).pairwise_iff hsym,
    ← hordered]
  exact ⟨ordered_of_hasOverlap, hasOverlap_of_ordered⟩

/-- Construction fails iff two ranges share an address, and otherwise sorts
what it is given. -/
theorem tryFrom_cases (value : List (AddressRange × α)) :
    (Overlapping value ∧ tryFrom value = .error .overlappingAddressRanges) ∨
      (¬ Overlapping value ∧ ∃ map, tryFrom value = .ok map ∧
        map.orderedRanges.Perm value) := by
  unfold tryFrom
  by_cases hoverlap : hasOverlap (sortRanges value) = false
  · rw [dif_pos hoverlap]
    exact Or.inr ⟨(hasOverlap_sortRanges value).1 hoverlap, _, rfl,
      sortRanges_perm value⟩
  · rw [dif_neg hoverlap]
    rw [hasOverlap_sortRanges, not_not] at hoverlap
    exact Or.inl ⟨hoverlap, rfl⟩

/-- `AddressMap::value`. -/
def value (address : BitVec 32) (map : AddressMap α) : Option α :=
  (map.rangeValue address).2

/-- A value is found iff a range with it contains the address. -/
theorem value_eq_some_iff {v : α} : map.value address = some v ↔
    ∃ range, (range, v) ∈ map.orderedRanges ∧ range.contains address := by
  unfold value
  constructor
  · intro h
    have hvalue : map.rangeValue address
        = ((map.rangeValue address).1, some v) := by rw [← h]
    exact ⟨_, rangeValue_eq_some_iff.1 hvalue⟩
  · rintro ⟨range, hmem, hcontains⟩
    rw [rangeValue_eq_some_iff.2 ⟨hmem, hcontains⟩]

end AddressMap

/-! ## Maps with an inverse -/

/-- The hash map is a function; `insert` updates it and returns what was
there. -/
structure TwoWayAddressMap (α : Type) where
  addressMap : AddressMap α
  inverseMap : α → Option AddressRange

namespace TwoWayAddressMap

inductive Error where
  | overlappingAddressRanges
  | duplicateValues
deriving DecidableEq, Repr

variable [DecidableEq α]

/-- The loop of `try_from`, with the inverse map so far. -/
def invert : List (AddressRange × α) → (α → Option AddressRange) →
    Except Error (α → Option AddressRange)
  | [], inverse => .ok inverse
  | (range, value) :: rest, inverse =>
      match inverse value with
      | some _ => .error .duplicateValues
      | none => invert rest (Function.update inverse value (some range))

/-- `TwoWayAddressMap::try_from`. -/
def tryFrom (value : List (AddressRange × α)) :
    Except Error (TwoWayAddressMap α) :=
  match AddressMap.tryFrom value with
  | .error .overlappingAddressRanges => .error .overlappingAddressRanges
  | .ok addressMap =>
      match invert addressMap.orderedRanges fun _ => none with
      | .error error => .error error
      | .ok inverseMap => .ok { addressMap, inverseMap }

omit [DecidableEq α] in
/-- `TwoWayAddressMap::range_for`. -/
def rangeFor (value : α) (map : TwoWayAddressMap α) : Option AddressRange :=
  map.inverseMap value

omit [DecidableEq α] in
/-- `TwoWayAddressMap::value`. -/
def value (address : BitVec 32) (map : TwoWayAddressMap α) : Option α :=
  map.addressMap.value address

/-- The values are different, and none is in the map. -/
def Fresh (ranges : List (AddressRange × α))
    (inverse : α → Option AddressRange) : Prop :=
  (ranges.map Prod.snd).Nodup ∧ ∀ entry ∈ ranges, inverse entry.2 = none

/-- The first value is new, and the others are new after it. -/
theorem fresh_cons {range : AddressRange} {w : α}
    {rest : List (AddressRange × α)} {inverse : α → Option AddressRange} :
    Fresh ((range, w) :: rest) inverse ↔ inverse w = none ∧
      Fresh rest (Function.update inverse w (some range)) := by
  unfold Fresh
  rw [List.map_cons, List.nodup_cons, List.forall_mem_cons]
  constructor
  · rintro ⟨⟨hnew, hnodup⟩, hw, hrest⟩
    refine ⟨hw, hnodup, ?_⟩
    intro entry hmem
    have hne : entry.2 ≠ w := by
      intro heq
      have hvalue := List.mem_map_of_mem (f := Prod.snd) hmem
      rw [heq] at hvalue
      exact hnew hvalue
    rw [Function.update_of_ne hne]
    exact hrest entry hmem
  · rintro ⟨hw, hnodup, hrest⟩
    have hne : ∀ entry ∈ rest, entry.2 ≠ w := by
      intro entry hmem heq
      have hnone := hrest entry hmem
      rw [heq, Function.update_self] at hnone
      exact nomatch hnone
    refine ⟨⟨?_, hnodup⟩, hw, ?_⟩
    · intro hmem
      obtain ⟨entry, hentry, heq⟩ := List.mem_map.1 hmem
      exact hne entry hentry heq
    · intro entry hmem
      have hnone := hrest entry hmem
      rw [Function.update_of_ne (hne entry hmem)] at hnone
      exact hnone

/-- The loop fails iff a value is in the map already, or comes twice. -/
theorem invert_cases (ranges : List (AddressRange × α))
    (inverse : α → Option AddressRange) :
    (¬ Fresh ranges inverse ∧
      invert ranges inverse = .error .duplicateValues) ∨
      (Fresh ranges inverse ∧ ∃ inverse',
        invert ranges inverse = .ok inverse' ∧
        ∀ v r, inverse' v = some r ↔ inverse v = some r ∨ (r, v) ∈ ranges) := by
  induction ranges generalizing inverse with
  | nil =>
      refine Or.inr ⟨⟨List.nodup_nil, ?_⟩, inverse, rfl, ?_⟩
      · exact fun _ hmem => absurd hmem List.not_mem_nil
      · intro v r
        rw [or_iff_left List.not_mem_nil]
  | cons entry rest ih =>
      obtain ⟨range, w⟩ := entry
      rw [fresh_cons]
      unfold invert
      cases hold : inverse w with
      | some old =>
          refine Or.inl ⟨?_, rfl⟩
          intro hfresh
          exact nomatch hfresh.1
      | none =>
          dsimp only
          rcases ih (Function.update inverse w (some range)) with
            ⟨hnot, herror⟩ | ⟨hfresh, inverse', hok, hall⟩
          · exact Or.inl ⟨fun hfresh => hnot hfresh.2, herror⟩
          · refine Or.inr ⟨⟨rfl, hfresh⟩, inverse', hok, ?_⟩
            intro v r
            rw [hall, List.mem_cons, Prod.mk.injEq]
            by_cases hv : v = w
            · subst hv
              rw [Function.update_self, hold, Option.some.injEq]
              simp [eq_comm]
            · rw [Function.update_of_ne hv]
              simp [hv]

/-- Construction fails iff ranges overlap or values repeat, and otherwise the
inverse map has the entries of the map. -/
theorem tryFrom_cases (value : List (AddressRange × α)) :
    ((AddressMap.Overlapping value ∨ ¬ (value.map Prod.snd).Nodup) ∧
      ∃ error, tryFrom value = .error error) ∨
      (¬ AddressMap.Overlapping value ∧ (value.map Prod.snd).Nodup ∧
        ∃ map, tryFrom value = .ok map ∧
          map.addressMap.orderedRanges.Perm value ∧
          ∀ v r, map.rangeFor v = some r ↔
            (r, v) ∈ map.addressMap.orderedRanges) := by
  unfold tryFrom
  rcases AddressMap.tryFrom_cases value with
    ⟨hoverlap, herror⟩ | ⟨hapart, addressMap, hok, hperm⟩
  · rw [herror]
    exact Or.inl ⟨Or.inl hoverlap, _, rfl⟩
  · have hfresh : Fresh addressMap.orderedRanges (fun _ => none) ↔
        (value.map Prod.snd).Nodup := by
      rw [← (hperm.map Prod.snd).nodup_iff]
      exact and_iff_left fun _ _ => rfl
    rw [hok]
    dsimp only
    rcases invert_cases addressMap.orderedRanges (fun _ => none) with
      ⟨hnot, herror⟩ | ⟨hnew, inverse, hinvert, hall⟩
    · rw [herror]
      rw [hfresh] at hnot
      exact Or.inl ⟨Or.inr hnot, _, rfl⟩
    · rw [hinvert]
      rw [hfresh] at hnew
      refine Or.inr ⟨hapart, hnew, _, rfl, hperm, ?_⟩
      intro v r
      have hentry := hall v r
      simp only [reduceCtorEq, false_or] at hentry
      exact hentry

omit [DecidableEq α] in
/-- Two ranges with the same addresses are the same. -/
theorem range_ext {r r' : AddressRange}
    (h : ∀ address, r.contains address ↔ r'.contains address) : r = r' := by
  have hstart := (h r.start).1 ⟨BitVec.le_refl _, r.start_le⟩
  have hlast := (h r.last).1 ⟨r.start_le, BitVec.le_refl _⟩
  have hstart' := (h r'.start).2 ⟨BitVec.le_refl _, r'.start_le⟩
  have hlast' := (h r'.last).2 ⟨r'.start_le, BitVec.le_refl _⟩
  have hs : r.start = r'.start := BitVec.le_antisymm hstart'.1 hstart.1
  have hl : r.last = r'.last := BitVec.le_antisymm hlast.2 hlast'.2
  cases r
  cases r'
  cases hs
  cases hl
  rfl

omit [DecidableEq α] in
/-- In a map where every value has one range, the inverse is about the
addresses of the value. -/
theorem rangeFor_eq_some_iff {map : TwoWayAddressMap α}
    (hnodup : (map.addressMap.orderedRanges.map Prod.snd).Nodup)
    (hinverse : ∀ v r, map.rangeFor v = some r ↔
      (r, v) ∈ map.addressMap.orderedRanges) (v : α) (r : AddressRange) :
    map.rangeFor v = some r ↔
      ∀ address, map.value address = some v ↔ r.contains address := by
  have hvalue : ∀ address, map.value address = some v ↔
      ∃ range, (range, v) ∈ map.addressMap.orderedRanges ∧
        range.contains address := fun _ => AddressMap.value_eq_some_iff
  rw [hinverse]
  constructor
  · intro hmem address
    rw [hvalue]
    constructor
    · rintro ⟨range, hrange, hcontains⟩
      have hsame := List.inj_on_of_nodup_map hnodup hrange hmem rfl
      cases hsame
      exact hcontains
    · intro hcontains
      exact ⟨r, hmem, hcontains⟩
  · intro hall
    obtain ⟨range, hmem, _⟩ := (hvalue r.start).1
      ((hall r.start).2 ⟨BitVec.le_refl _, r.start_le⟩)
    have hsame : r = range := by
      apply range_ext
      intro address
      rw [← hall, hvalue]
      constructor
      · rintro ⟨range', hmem', hcontains⟩
        have hsame := List.inj_on_of_nodup_map hnodup hmem' hmem rfl
        cases hsame
        exact hcontains
      · intro hcontains
        exact ⟨range, hmem, hcontains⟩
    rw [hsame]
    exact hmem

/-- Lookup in address maps, with and without an inverse, for any list of
ranges with values. -/
theorem lookup_total [Build] (value : List (AddressRange × α)) :
    ((∃ error, AddressMap.tryFrom value = .error error) ↔
        AddressMap.Overlapping value) ∧
      (∀ map, AddressMap.tryFrom value = .ok map → ∀ address,
        (∃ entry ∈ value, entry.1.contains address ∧
          map.rangeValueBy address = some (entry.1, some entry.2)) ∨
        (∃ gap : AddressRange, gap.contains address ∧
          AddressMap.Vacant value gap ∧
          map.rangeValueBy address = some (gap, none))) ∧
      ((∃ error, tryFrom value = .error error) ↔
        AddressMap.Overlapping value ∨ ¬ (value.map Prod.snd).Nodup) ∧
      ∀ map, tryFrom value = .ok map → ∀ v r, map.rangeFor v = some r ↔
        ∀ address, map.value address = some v ↔ r.contains address := by
  refine ⟨?_, ?_, ?_, ?_⟩
  · rcases AddressMap.tryFrom_cases value with
      ⟨hoverlap, herror⟩ | ⟨hapart, map, hok, _⟩
    · exact iff_of_true ⟨_, herror⟩ hoverlap
    · refine iff_of_false ?_ hapart
      rintro ⟨error, herror⟩
      rw [hok] at herror
      exact nomatch herror
  · intro map hmap address
    rcases AddressMap.tryFrom_cases value with
      ⟨_, herror⟩ | ⟨_, map', hok, hperm⟩
    · rw [herror] at hmap
      exact nomatch hmap
    · rw [hok] at hmap
      cases hmap
      exact AddressMap.rangeValueBy_cases hperm address
  · rcases tryFrom_cases value with
      ⟨hwrong, herror⟩ | ⟨hapart, hnodup, map, hok, _⟩
    · exact iff_of_true herror hwrong
    · refine iff_of_false ?_ ?_
      · rintro ⟨error, herror⟩
        rw [hok] at herror
        exact nomatch herror
      · rintro (hoverlap | hrepeat)
        · exact hapart hoverlap
        · exact hrepeat hnodup
  · intro map hmap
    rcases tryFrom_cases value with
      ⟨_, error, herror⟩ | ⟨_, hnodup, map', hok, hperm, hinverse⟩
    · rw [herror] at hmap
      exact nomatch hmap
    · rw [hok] at hmap
      cases hmap
      rw [← (hperm.map Prod.snd).nodup_iff] at hnodup
      exact rangeFor_eq_some_iff hnodup hinverse

end TwoWayAddressMap

end RedPlanet.Board
