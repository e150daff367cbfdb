import RedPlanet.Verified.Bytes
import RedPlanet.Verified.Widening

/-!
# Words in two halves

A word of `w + w` bits and its two halves: the halves determine the word, they
can be put together again, and the bytes of the word in memory are those of
its lower half, followed by those of its upper half.

Registers of 64 bits that a 32-bit core reads and writes by halves are such
words.  `eq_iff_halves` reduces a claim about the word to one about each half,
`ofHalves_swapped_iff` says what becomes of a word whose halves are exchanged,
and `toLeBytes_halves` relates the halves to the addresses they are found at.
-/

namespace RedPlanet.Verified

variable {w : Nat}

/-- The word with these two halves. -/
def ofHalves (upper lower : BitVec w) : BitVec (w + w) :=
  upper.setWidth (w + w) <<< w ||| lower.setWidth (w + w)

/-! ## Bits -/

/-- The lower half has the bits below `w`. -/
theorem getLsbD_lowerHalf (x : BitVec (w + w)) (i : Nat) :
    (lowerHalf x).getLsbD i = (decide (i < w) && x.getLsbD i) :=
  BitVec.getLsbD_setWidth ..

/-- The upper half has the bits from `w` on. -/
theorem getLsbD_upperHalf (x : BitVec (w + w)) (i : Nat) :
    (upperHalf x).getLsbD i = (decide (i < w) && x.getLsbD (w + i)) := by
  unfold upperHalf
  rw [BitVec.getLsbD_setWidth, BitVec.getLsbD_ushiftRight]

/-- Below `w` the bits are those of the lower half. -/
theorem getLsbD_ofHalves_lower (upper lower : BitVec w) {i : Nat}
    (h : i < w) : (ofHalves upper lower).getLsbD i = lower.getLsbD i := by
  have hwide : i < w + w := by omega
  unfold ofHalves
  rw [BitVec.getLsbD_or, BitVec.getLsbD_shiftLeft, BitVec.getLsbD_setWidth,
    BitVec.getLsbD_setWidth]
  simp [h, hwide]

/-- From `w` on the bits are those of the upper half. -/
theorem getLsbD_ofHalves_upper (upper lower : BitVec w) {i : Nat}
    (h : i < w) :
    (ofHalves upper lower).getLsbD (w + i) = upper.getLsbD i := by
  have hwide : w + i < w + w := by omega
  have hself : i < w + w := by omega
  have hlower : lower.getLsbD (w + i) = false :=
    BitVec.getLsbD_of_ge lower (w + i) (by omega)
  unfold ofHalves
  rw [BitVec.getLsbD_or, BitVec.getLsbD_shiftLeft, BitVec.getLsbD_setWidth,
    BitVec.getLsbD_setWidth, hlower, Nat.add_sub_cancel_left]
  simp [hwide, hself]

/-! ## Taking apart and putting together -/

/-- What was put together is taken apart again. -/
@[simp] theorem lowerHalf_ofHalves (upper lower : BitVec w) :
    lowerHalf (ofHalves upper lower) = lower := by
  apply BitVec.eq_of_getLsbD_eq
  intro i hi
  rw [getLsbD_lowerHalf, getLsbD_ofHalves_lower _ _ hi]
  simp [hi]

@[simp] theorem upperHalf_ofHalves (upper lower : BitVec w) :
    upperHalf (ofHalves upper lower) = upper := by
  apply BitVec.eq_of_getLsbD_eq
  intro i hi
  rw [getLsbD_upperHalf, getLsbD_ofHalves_upper _ _ hi]
  simp [hi]

@[simp] theorem lowerHalf_zero : lowerHalf (0 : BitVec (w + w)) = 0 :=
  BitVec.setWidth_zero ..

@[simp] theorem upperHalf_zero : upperHalf (0 : BitVec (w + w)) = 0 := by
  unfold upperHalf
  simp

/-- A word is determined by its halves. -/
theorem eq_iff_halves {x y : BitVec (w + w)} :
    x = y ↔ upperHalf x = upperHalf y ∧ lowerHalf x = lowerHalf y := by
  constructor
  · intro h
    rw [h]
    exact ⟨rfl, rfl⟩
  · intro ⟨hupper, hlower⟩
    apply BitVec.eq_of_toNat_eq
    rw [toNat_halves, toNat_halves y, hupper, hlower]

/-- With the halves swapped a word is another one, unless they are equal. -/
theorem ofHalves_swapped_iff {x : BitVec (w + w)} :
    ofHalves (lowerHalf x) (upperHalf x) = x ↔
      upperHalf x = lowerHalf x := by
  rw [eq_iff_halves, upperHalf_ofHalves, lowerHalf_ofHalves]
  exact ⟨fun h => h.2, fun h => ⟨h.symm, h⟩⟩

/-! ## Bytes -/

/-- A field within the lower half is where it is in the word. -/
theorem extractLsb'_lowerHalf (x : BitVec (w + w)) {start length : Nat}
    (h : start + length ≤ w) :
    (lowerHalf x).extractLsb' start length = x.extractLsb' start length := by
  apply BitVec.eq_of_getLsbD_eq
  intro k hk
  have hlt : start + k < w := by omega
  rw [BitVec.getLsbD_extractLsb', BitVec.getLsbD_extractLsb',
    getLsbD_lowerHalf]
  simp [hlt]

/-- A field within the upper half starts `w` bits further on in the word. -/
theorem extractLsb'_upperHalf (x : BitVec (w + w)) {start length : Nat}
    (h : start + length ≤ w) :
    (upperHalf x).extractLsb' start length =
      x.extractLsb' (w + start) length := by
  apply BitVec.eq_of_getLsbD_eq
  intro k hk
  have hlt : start + k < w := by omega
  rw [BitVec.getLsbD_extractLsb', BitVec.getLsbD_extractLsb',
    getLsbD_upperHalf, Nat.add_assoc]
  simp [hlt]

/-- A word in memory is its lower half, followed by its upper half. -/
theorem toLeBytes_halves (n : Nat) (x : BitVec (8 * n + 8 * n)) :
    toLeBytes (n + n) x =
      toLeBytes n (lowerHalf x) ++ toLeBytes n (upperHalf x) := by
  unfold toLeBytes
  rw [List.range_add, List.map_append, List.map_map]
  congr 1
  · apply List.map_congr_left
    intro i hi
    have hlt := List.mem_range.1 hi
    exact (extractLsb'_lowerHalf x (by omega)).symm
  · apply List.map_congr_left
    intro i hi
    have hlt := List.mem_range.1 hi
    have hstart : 8 * (n + i) = 8 * n + 8 * i := by omega
    show x.extractLsb' (8 * (n + i)) 8 = _
    rw [hstart]
    exact (extractLsb'_upperHalf x (by omega)).symm

end RedPlanet.Verified
