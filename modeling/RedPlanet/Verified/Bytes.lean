import RedPlanet.Verified.Bits

/-!
# Numbers laid out in bytes

A number of `n` bytes laid out in memory, in either order: `place` is the
significance of the byte at an offset, and `Spells` says that bytes are those
of a number.  Every sequence of bytes spells exactly one number
(`spells_iff`).

What a load returns is `spelled` of the bytes it reads, and a store puts the
bytes of its number in the same order (`arranged`), so that a load after a
store is a fact about the bytes only.  Taking a word apart and putting it
together again are inverse to each other (`toLeBytes_ofLeBytes`,
`toLeBytes_inj`).
-/

namespace RedPlanet.Verified

variable {n : Nat}

/-- The significance of the byte at offset `i` of `n` bytes. -/
def place (bigEndian : Bool) (n i : Nat) : Nat :=
  if bigEndian then n - 1 - i else i

/-- Bytes in memory order, lowest significance first. -/
def arranged (bigEndian : Bool) (bytes : List (BitVec 8)) :
    List (BitVec 8) :=
  if bigEndian then bytes.reverse else bytes

/-- The bytes at the offsets below `n` are those of the number. -/
def Spells (bigEndian : Bool) (byte : Nat → BitVec 8) (x : BitVec (8 * n)) :
    Prop :=
  ∀ i < n, byte i = x.extractLsb' (8 * place bigEndian n i) 8

/-- The number that the bytes at the offsets below `n` spell. -/
def spelled (bigEndian : Bool) (n : Nat) (byte : Nat → BitVec 8) :
    BitVec (8 * n) :=
  ofLeBytes (8 * n) (arranged bigEndian ((List.range n).map byte))

@[simp] theorem length_arranged (bigEndian : Bool)
    (bytes : List (BitVec 8)) :
    (arranged bigEndian bytes).length = bytes.length := by
  unfold arranged
  cases bigEndian <;> simp

/-- Reversing twice is doing nothing, in either byte order. -/
theorem arranged_arranged (bigEndian : Bool) (bytes : List (BitVec 8)) :
    arranged bigEndian (arranged bigEndian bytes) = bytes := by
  unfold arranged
  cases bigEndian <;> simp

/-- A byte of a word is the part of it with this significance. -/
theorem getElem?_toLeBytes {w i : Nat} (x : BitVec w) (h : i < n) :
    (toLeBytes n x)[i]? = some (x.extractLsb' (8 * i) 8) := by
  unfold toLeBytes
  rw [List.getElem?_map, List.getElem?_range h]
  rfl

/-- A byte of a number that is laid out. -/
theorem getElem?_arranged_toLeBytes {i : Nat} (bigEndian : Bool)
    (x : BitVec (8 * n)) (h : i < n) :
    (arranged bigEndian (toLeBytes n x))[i]? =
      some (x.extractLsb' (8 * place bigEndian n i) 8) := by
  unfold arranged place
  cases bigEndian with
  | false => exact getElem?_toLeBytes x h
  | true =>
      have hlength : i < (toLeBytes n x).length := by
        rw [length_toLeBytes]
        exact h
      rw [if_pos rfl, if_pos rfl, List.getElem?_reverse hlength,
        length_toLeBytes]
      exact getElem?_toLeBytes x (by omega)

/-- The word made up of some bytes has these bytes. -/
theorem toLeBytes_ofLeBytes {bytes : List (BitVec 8)} (h : bytes.length = n) :
    toLeBytes n (ofLeBytes (8 * n) bytes) = bytes := by
  apply List.ext_getElem?
  intro i
  by_cases hi : i < n
  · rw [getElem?_toLeBytes _ hi, List.getElem?_eq_getElem (by omega)]
    congr 1
    apply BitVec.eq_of_getLsbD_eq
    intro k hk
    have hdiv : (8 * i + k) / 8 = i := by omega
    have hmod : (8 * i + k) % 8 = k := by omega
    have hlt : 8 * i + k < 8 * n := by omega
    rw [BitVec.getLsbD_extractLsb', getLsbD_ofLeBytes, hdiv, hmod,
      List.getD_eq_getElem?_getD, List.getElem?_eq_getElem (by omega)]
    simp [hk, hlt]
  · rw [List.getElem?_eq_none (by simp; omega),
      List.getElem?_eq_none (by omega)]

/-- Words with the same bytes are equal. -/
theorem toLeBytes_inj {w : Nat} {x y : BitVec w} (hw : w = 8 * n) :
    toLeBytes n x = toLeBytes n y ↔ x = y := by
  constructor
  · intro h
    rw [← ofLeBytes_toLeBytes x hw, h, ofLeBytes_toLeBytes y hw]
  · intro h
    rw [h]

/-- The bytes are those of a number just if they spell it, so that they are
those of one number only. -/
theorem spells_iff {bigEndian : Bool} {byte : Nat → BitVec 8}
    {x : BitVec (8 * n)} :
    Spells bigEndian byte x ↔ spelled bigEndian n byte = x := by
  have hbytes : Spells bigEndian byte x ↔
      (List.range n).map byte = arranged bigEndian (toLeBytes n x) := by
    constructor
    · intro h
      apply List.ext_getElem?
      intro i
      by_cases hi : i < n
      · rw [getElem?_arranged_toLeBytes _ _ hi, List.getElem?_map,
          List.getElem?_range hi, Option.map_some, h i hi]
      · rw [List.getElem?_eq_none (by simp; omega),
          List.getElem?_eq_none (by simp; omega)]
    · intro h i hi
      have hget := congrArg (·[i]?) h
      rw [getElem?_arranged_toLeBytes _ _ hi, List.getElem?_map,
        List.getElem?_range hi] at hget
      exact Option.some.inj hget
  rw [hbytes]
  unfold spelled
  constructor
  · intro h
    rw [h, arranged_arranged]
    exact ofLeBytes_toLeBytes x rfl
  · rintro rfl
    rw [toLeBytes_ofLeBytes (by simp), arranged_arranged]

/-- One byte is the number that it spells. -/
theorem spelled_one (bigEndian : Bool) (byte : Nat → BitVec 8) :
    spelled bigEndian 1 byte = byte 0 := by
  apply spells_iff.1
  intro i hi
  have hzero : i = 0 := by omega
  subst hzero
  unfold place
  cases bigEndian <;> exact BitVec.extractLsb'_eq_self.symm

/-- The number that the bytes spell has these bytes. -/
theorem spells_spelled (bigEndian : Bool) (byte : Nat → BitVec 8) :
    Spells bigEndian byte (spelled bigEndian n byte) :=
  spells_iff.2 rfl

end RedPlanet.Verified
