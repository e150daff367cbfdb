import Mathlib.Algebra.Order.Ring.Nat

/-!
# Bit fields of machine words

Reading and writing one bit or one two-bit field of a word, masked writes,
and little-endian byte strings.  Every operation comes with its bit-level
specification, after which a fact about a field of a word is a fact about
single bits.

`setBit`, `loadU2` and `storeU2` are the accesses to fields; a field that is
written reads back (`loadU2_storeU2`), and the others are as they were.
`merge` is a write under a mask, `Within` says that a word keeps to one, and
`merge_eq_self_iff` when such a write changes nothing.  `toLeBytes` and
`ofLeBytes` take a word to its bytes and back.
-/

namespace RedPlanet.Verified

variable {w : Nat}

/-! ## Single bits -/

/-- Bit `i` of `x` set to `value`. -/
def setBit (x : BitVec w) (i : Nat) (value : Bool) : BitVec w :=
  x &&& ~~~(1#w <<< i) ||| (BitVec.ofBool value).setWidth w <<< i

/-- The mask that the code shifts into place has the one bit. -/
theorem getLsbD_one_shiftLeft (i j : Nat) :
    (1#w <<< i).getLsbD j = (decide (j < w) && decide (j = i)) := by
  by_cases hj : j < w
  · by_cases hij : j < i
    · simp [hj, hij, Nat.ne_of_lt hij]
    · have hsub : (j - i = 0) ↔ j = i := by omega
      simp [hj, hij, hsub]
  · simp [hj]

theorem getLsbD_ofBool_shiftLeft (value : Bool) (i j : Nat) :
    ((BitVec.ofBool value).setWidth w <<< i).getLsbD j
      = (decide (j < w) && decide (j = i) && value) := by
  by_cases hj : j < w
  · by_cases hij : j < i
    · simp [hj, hij, Nat.ne_of_lt hij]
    · have hsub : (j - i = 0) ↔ j = i := by omega
      cases value <;> simp [hj, hij, hsub]
  · simp [hj]

/-- The one bit has the value, every other bit is as it was. -/
theorem getLsbD_setBit (x : BitVec w) (i j : Nat) (value : Bool) :
    (setBit x i value).getLsbD j
      = if j = i ∧ j < w then value else x.getLsbD j := by
  unfold setBit
  rw [BitVec.getLsbD_or, BitVec.getLsbD_and, BitVec.getLsbD_not,
    getLsbD_one_shiftLeft, getLsbD_ofBool_shiftLeft]
  by_cases hj : j < w
  · by_cases hij : j = i
    · have hi : i < w := by omega
      simp [hij, hi]
    · simp [hj, hij]
  · have hx : x.getLsbD j = false := BitVec.getLsbD_of_ge x j (by omega)
    simp [hj, hx]

theorem getLsbD_setBit_self (x : BitVec w) {i : Nat} (value : Bool)
    (hi : i < w) : (setBit x i value).getLsbD i = value := by
  rw [getLsbD_setBit, if_pos ⟨rfl, hi⟩]

/-- The other bits do not notice the write. -/
theorem getLsbD_setBit_ne (x : BitVec w) {i j : Nat} (value : Bool)
    (hij : j ≠ i) : (setBit x i value).getLsbD j = x.getLsbD j := by
  rw [getLsbD_setBit, if_neg fun h => hij h.1]

/-! ## Two-bit fields -/

/-- The two bits of `x` that start at bit `i`. -/
def loadU2 (x : BitVec w) (i : Nat) : BitVec 2 := x.extractLsb' i 2

/-- The two bits of `x` that start at bit `i` set to `value`. -/
def storeU2 (x : BitVec w) (i : Nat) (value : BitVec 2) : BitVec w :=
  setBit (setBit x i (value.getLsbD 0)) (i + 1) (value.getLsbD 1)

theorem getLsbD_loadU2_zero (x : BitVec w) (i : Nat) :
    (loadU2 x i).getLsbD 0 = x.getLsbD i := by
  unfold loadU2
  rw [BitVec.getLsbD_extractLsb', Nat.add_zero]
  rfl

theorem getLsbD_loadU2_one (x : BitVec w) (i : Nat) :
    (loadU2 x i).getLsbD 1 = x.getLsbD (i + 1) := by
  unfold loadU2
  rw [BitVec.getLsbD_extractLsb']
  rfl

/-- Only the two bits of the field change. -/
theorem getLsbD_storeU2_ne (x : BitVec w) {i j : Nat} (value : BitVec 2)
    (h0 : j ≠ i) (h1 : j ≠ i + 1) :
    (storeU2 x i value).getLsbD j = x.getLsbD j := by
  unfold storeU2
  rw [getLsbD_setBit_ne _ _ h1, getLsbD_setBit_ne _ _ h0]

/-- A field is a matter of its two bits. -/
theorem loadU2_congr {x y : BitVec w} {i : Nat}
    (h0 : x.getLsbD i = y.getLsbD i)
    (h1 : x.getLsbD (i + 1) = y.getLsbD (i + 1)) :
    loadU2 x i = loadU2 y i := by
  apply BitVec.eq_of_getLsbD_eq
  intro k hk
  have hcases : k = 0 ∨ k = 1 := by omega
  cases hcases with
  | inl h => rw [h, getLsbD_loadU2_zero, getLsbD_loadU2_zero, h0]
  | inr h => rw [h, getLsbD_loadU2_one, getLsbD_loadU2_one, h1]

theorem loadU2_setBit_ne (x : BitVec w) {i j : Nat} (value : Bool)
    (h0 : i ≠ j) (h1 : i + 1 ≠ j) :
    loadU2 (setBit x j value) i = loadU2 x i :=
  loadU2_congr (getLsbD_setBit_ne x value h0) (getLsbD_setBit_ne x value h1)

/-- A field that is written reads back, if it lies in the word. -/
theorem loadU2_storeU2 (x : BitVec w) {i : Nat} (value : BitVec 2)
    (hi : i + 1 < w) : loadU2 (storeU2 x i value) i = value := by
  apply BitVec.eq_of_getLsbD_eq
  intro k hk
  have hcases : k = 0 ∨ k = 1 := by omega
  unfold loadU2 storeU2
  rw [BitVec.getLsbD_extractLsb']
  cases hcases with
  | inl h =>
      subst h
      rw [getLsbD_setBit_ne _ _ (by omega), Nat.add_zero,
        getLsbD_setBit_self _ _ (by omega)]
      rfl
  | inr h =>
      subst h
      rw [getLsbD_setBit_self _ _ hi]
      rfl

/-! ## Masked writes -/

/-- The bits of `value` where `mask` is set, those of `old` elsewhere. -/
def merge (old value mask : BitVec w) : BitVec w :=
  old &&& ~~~mask ||| value &&& mask

/-- Under the mask the new bits, elsewhere the old ones. -/
theorem getLsbD_merge (old value mask : BitVec w) (i : Nat) :
    (merge old value mask).getLsbD i
      = if mask.getLsbD i then value.getLsbD i else old.getLsbD i := by
  unfold merge
  rw [BitVec.getLsbD_or, BitVec.getLsbD_and, BitVec.getLsbD_and,
    BitVec.getLsbD_not]
  by_cases hi : i < w
  · cases mask.getLsbD i <;> simp [hi]
  · have hold : old.getLsbD i = false := BitVec.getLsbD_of_ge old i (by omega)
    have hval : value.getLsbD i = false :=
      BitVec.getLsbD_of_ge value i (by omega)
    simp [hold, hval]

theorem getLsbD_merge_of_unmasked (old value : BitVec w) {mask : BitVec w}
    {i : Nat} (h : mask.getLsbD i = false) :
    (merge old value mask).getLsbD i = old.getLsbD i := by
  simp [getLsbD_merge, h]

@[simp] theorem merge_zero_mask (old value : BitVec w) :
    merge old value 0#w = old := by
  apply BitVec.eq_of_getLsbD_eq
  intro i _
  simp [getLsbD_merge]

/-- A masked write changes nothing iff every bit under the mask has its new
value already. -/
theorem merge_eq_self_iff (old value mask : BitVec w) :
    merge old value mask = old ↔ (value ^^^ old) &&& mask = 0#w := by
  constructor
  · intro h
    apply BitVec.eq_of_getLsbD_eq
    intro i _
    have hbit := getLsbD_merge old value mask i
    rw [h] at hbit
    rw [BitVec.getLsbD_and, BitVec.getLsbD_xor, BitVec.getLsbD_zero, hbit]
    cases mask.getLsbD i <;> simp
  · intro h
    apply BitVec.eq_of_getLsbD_eq
    intro i _
    have hbit : ((value ^^^ old) &&& mask).getLsbD i = false := by
      rw [h, BitVec.getLsbD_zero]
    rw [BitVec.getLsbD_and, BitVec.getLsbD_xor] at hbit
    rw [getLsbD_merge]
    revert hbit
    cases mask.getLsbD i <;> cases value.getLsbD i <;>
      cases old.getLsbD i <;> decide

/-! ## Words confined to a mask -/

/-- Only bits of `mask` are set in `x`. -/
def Within (x mask : BitVec w) : Prop :=
  ∀ i, x.getLsbD i = true → mask.getLsbD i = true

namespace Within

variable {x mask bits : BitVec w}

theorem zero (mask : BitVec w) : Within 0#w mask := by
  intro i hi
  simp at hi

/-- A word that keeps to a mask keeps to every wider one. -/
theorem trans (h : Within x mask) (hmask : Within mask bits) :
    Within x bits := fun i hi => hmask i (h i hi)

theorem and_right (x mask : BitVec w) : Within (x &&& mask) mask := by
  intro i hi
  rw [BitVec.getLsbD_and, Bool.and_eq_true] at hi
  exact hi.2

/-- Setting a bit that the mask allows. -/
theorem setBit (h : Within x mask) {i : Nat} (hi : mask.getLsbD i = true)
    (value : Bool) : Within (setBit x i value) mask := by
  intro j hj
  by_cases hij : j = i
  · rw [hij]
    exact hi
  · rw [getLsbD_setBit_ne x value hij] at hj
    exact h j hj

/-- A masked write through a mask that is itself confined. -/
theorem merge (h : Within x bits) (value : BitVec w)
    (hmask : Within mask bits) : Within (merge x value mask) bits := by
  intro i hi
  rw [getLsbD_merge] at hi
  by_cases hbit : mask.getLsbD i = true
  · exact hmask i hbit
  · rw [if_neg hbit] at hi
    exact h i hi

end Within

/-! ## Little-endian byte strings -/

/-- The low `n` bytes of `x`, lowest first. -/
def toLeBytes (n : Nat) (x : BitVec w) : List (BitVec 8) :=
  (List.range n).map fun k => x.extractLsb' (8 * k) 8

/-- The word whose bytes, lowest first, are `bytes`. -/
def ofLeBytes (w : Nat) (bytes : List (BitVec 8)) : BitVec w :=
  bytes.foldr (fun byte acc => acc <<< 8 ||| byte.setWidth w) 0

@[simp] theorem length_toLeBytes (n : Nat) (x : BitVec w) :
    (toLeBytes n x).length = n := by
  simp [toLeBytes]

/-- Bit `i` of the word is bit `i % 8` of byte `i / 8`, and zero behind the
bytes. -/
theorem getLsbD_ofLeBytes (w : Nat) (bytes : List (BitVec 8)) (i : Nat) :
    (ofLeBytes w bytes).getLsbD i
      = (decide (i < w) && (bytes.getD (i / 8) 0).getLsbD (i % 8)) := by
  induction bytes generalizing i with
  | nil => simp [ofLeBytes]
  | cons byte rest ih =>
      show (ofLeBytes w rest <<< 8 ||| byte.setWidth w).getLsbD i = _
      rw [BitVec.getLsbD_or, BitVec.getLsbD_shiftLeft, BitVec.getLsbD_setWidth,
        ih]
      by_cases hlow : i < 8
      · have hdiv : i / 8 = 0 := by omega
        have hmod : i % 8 = i := by omega
        simp [hlow, hdiv, hmod]
      · have hdiv : i / 8 = (i - 8) / 8 + 1 := by omega
        have hmod : i % 8 = (i - 8) % 8 := by omega
        have hhigh : byte.getLsbD i = false :=
          BitVec.getLsbD_of_ge byte i (by omega)
        rw [hdiv, hmod, List.getD_cons_succ, hhigh]
        by_cases hi : i < w
        · have hsub : i - 8 < w := by omega
          simp [hi, hsub, hlow]
        · simp [hi]

/-- The bytes of a word make up the word. -/
theorem ofLeBytes_toLeBytes {n : Nat} (x : BitVec w) (h : w = 8 * n) :
    ofLeBytes w (toLeBytes n x) = x := by
  apply BitVec.eq_of_getLsbD_eq
  intro i hi
  have hdiv : i / 8 < n := by omega
  have hsplit : 8 * (i / 8) + i % 8 = i := by omega
  have hmod : i % 8 < 8 := by omega
  rw [getLsbD_ofLeBytes]
  unfold toLeBytes
  rw [List.getD_eq_getElem?_getD, List.getElem?_map, List.getElem?_range hdiv,
    Option.map_some, Option.getD_some, BitVec.getLsbD_extractLsb', hsplit]
  simp [hi, hmod]

end RedPlanet.Verified
