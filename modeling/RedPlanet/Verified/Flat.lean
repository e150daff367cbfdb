import Mathlib.Algebra.Order.Ring.Nat

/-!
# Flat arrays

What an array is to its users: a length and an element at every index below
it.  Reads and writes of a range succeed iff the range lies within the array,
and they transfer exactly its elements.

This is the abstract side of every memory in the development: of a RAM, whose
pages and layers are not to be seen, and of an array of the store.
`read_eq_none_iff` says when a range does not fit, `elem_write` what an array
holds after a write, and `Agree` when two arrays cannot be told apart by
reading them.
-/

namespace RedPlanet.Verified

/-- Elements past the end are never read. -/
structure Flat (α : Type) where
  size : ℕ
  elem : ℕ → α

namespace Flat

variable {α : Type}

/-- An array of `size` copies of `value`. -/
def replicate (size : ℕ) (value : α) : Flat α where
  size := size
  elem := fun _ => value

def get (array : Flat α) (index : ℕ) : Option α :=
  if index < array.size then some (array.elem index) else none

def set (array : Flat α) (index : ℕ) (value : α) : Option (Flat α) :=
  if index < array.size then
    some { array with elem := fun i => if i = index then value else array.elem i }
  else none

/-- The `count` elements from `index` on. -/
def read (array : Flat α) (index count : ℕ) : Option (List α) :=
  if index + count ≤ array.size then
    some ((List.range count).map fun k => array.elem (index + k))
  else none

/-- Store `buf` from `index` on. -/
def write (array : Flat α) (index : ℕ) (buf : List α) : Option (Flat α) :=
  if index + buf.length ≤ array.size then
    some { array with
      elem := fun i =>
        if index ≤ i then (buf[i - index]?).getD (array.elem i)
        else array.elem i }
  else none

/-- A read within the array succeeds. -/
theorem read_ne_none (array : Flat α) (index count : ℕ)
    (h : index + count ≤ array.size) : array.read index count ≠ none := by
  unfold read
  rw [if_pos h]
  exact Option.some_ne_none _

/-- As many elements are returned as were asked for. -/
theorem length_read {array : Flat α} {index count : ℕ} {items : List α}
    (h : array.read index count = some items) : items.length = count := by
  unfold read at h
  by_cases hfits : index + count ≤ array.size
  · rw [if_pos hfits] at h
    rw [← Option.some.inj h, List.length_map, List.length_range]
  · rw [if_neg hfits] at h
    exact nomatch h

/-- What a read returns, element by element. -/
theorem getElem?_read {array : Flat α} {index count : ℕ} {items : List α}
    (h : array.read index count = some items) {k : ℕ} (hk : k < count) :
    items[k]? = some (array.elem (index + k)) := by
  unfold read at h
  by_cases hfits : index + count ≤ array.size
  · rw [if_pos hfits] at h
    rw [← Option.some.inj h, List.getElem?_map, List.getElem?_range hk]
    rfl
  · rw [if_neg hfits] at h
    exact nomatch h

/-- A range that reaches past the end is refused, and no other. -/
theorem read_eq_none_iff {array : Flat α} {index count : ℕ} :
    array.read index count = none ↔ array.size < index + count := by
  unfold read
  by_cases hfits : index + count ≤ array.size
  · rw [if_pos hfits]
    simp only [reduceCtorEq, false_iff]
    omega
  · rw [if_neg hfits]
    simp only [true_iff]
    omega

/-- Reads from one index agree when they are equally long, or both too long. -/
theorem read_eq_read_iff {array : Flat α} {index count count' : ℕ} :
    array.read index count = array.read index count' ↔
      count = count' ∨
        (array.size < index + count ∧ array.size < index + count') := by
  constructor
  · intro h
    cases hread : array.read index count with
    | none =>
        have hread' : array.read index count' = none := h ▸ hread
        exact Or.inr ⟨read_eq_none_iff.1 hread, read_eq_none_iff.1 hread'⟩
    | some items =>
        have hread' : array.read index count' = some items := h ▸ hread
        exact Or.inl ((length_read hread).symm.trans (length_read hread'))
  · rintro (rfl | ⟨hlong, hlong'⟩)
    · rfl
    · rw [read_eq_none_iff.2 hlong, read_eq_none_iff.2 hlong']

/-- A write within the array succeeds. -/
theorem write_ne_none (array : Flat α) (index : ℕ) (buf : List α)
    (h : index + buf.length ≤ array.size) : array.write index buf ≠ none := by
  unfold write
  rw [if_pos h]
  exact Option.some_ne_none _

/-- An assignment does not change the size. -/
theorem size_set {array array' : Flat α} {index : ℕ} {value : α}
    (h : array.set index value = some array') : array'.size = array.size := by
  unfold set at h
  by_cases hlt : index < array.size
  · rw [if_pos hlt] at h
    rw [← Option.some.inj h]
  · rw [if_neg hlt] at h
    cases h

/-- A write does not change the size. -/
theorem size_write {array array' : Flat α} {index : ℕ} {buf : List α}
    (h : array.write index buf = some array') : array'.size = array.size := by
  unfold write at h
  by_cases hfits : index + buf.length ≤ array.size
  · rw [if_pos hfits] at h
    rw [← Option.some.inj h]
  · rw [if_neg hfits] at h
    exact nomatch h

/-- The elements of an array after a write. -/
theorem elem_write {array array' : Flat α} {index : ℕ} {buf : List α}
    (h : array.write index buf = some array') (i : ℕ) :
    array'.elem i
      = if index ≤ i then (buf[i - index]?).getD (array.elem i)
        else array.elem i := by
  unfold write at h
  by_cases hfits : index + buf.length ≤ array.size
  · rw [if_pos hfits] at h
    rw [← Option.some.inj h]
  · rw [if_neg hfits] at h
    cases h

/-- What is written behind what was read is read behind it. -/
theorem read_write_append {array array' : Flat α} {count : ℕ}
    {items buf : List α} (hread : array.read 0 count = some items)
    (hwrite : array.write count buf = some array') :
    array'.read 0 (count + buf.length) = some (items ++ buf) := by
  have hlength := length_read hread
  have hsize := size_write hwrite
  have hfits : count + buf.length ≤ array.size := by
    unfold write at hwrite
    split at hwrite
    · assumption
    · cases hwrite
  obtain ⟨items', hread'⟩ := Option.ne_none_iff_exists'.1
    (array'.read_ne_none 0 (count + buf.length) (by omega))
  have hlength' := length_read hread'
  rw [hread']
  refine congrArg some (List.ext_getElem? fun k => ?_)
  by_cases hk : k < count + buf.length
  · rw [getElem?_read hread' hk, Nat.zero_add, elem_write hwrite]
    by_cases hbefore : k < count
    · have hold := getElem?_read hread hbefore
      rw [Nat.zero_add] at hold
      rw [if_neg (Nat.not_le.2 hbefore),
        List.getElem?_append_left (by omega), hold]
    · have hlt : k - count < buf.length := by omega
      rw [if_pos (Nat.not_lt.1 hbefore),
        List.getElem?_append_right (by omega), hlength,
        List.getElem?_eq_getElem hlt, Option.getD_some]
  · rw [List.getElem?_eq_none (by omega), List.getElem?_eq_none]
    rw [List.length_append]
    omega

/-! ## Arrays that agree -/

/-- The arrays have the same elements as far as they can be read. -/
structure Agree (array array' : Flat α) : Prop where
  size : array.size = array'.size
  elem : ∀ i, i < array.size → array.elem i = array'.elem i

variable {array array' : Flat α}

theorem Agree.refl : Agree array array where
  size := rfl
  elem := fun _ _ => rfl

/-- They agree after the same change of one element. -/
theorem Agree.set (h : Agree array array') (index : ℕ) (value : α) :
    Option.Rel Agree (array.set index value) (array'.set index value) := by
  unfold Flat.set
  by_cases hlt : index < array.size
  · have hlt' : index < array'.size := h.size ▸ hlt
    rw [if_pos hlt, if_pos hlt']
    refine .some ⟨h.size, fun i hi => ?_⟩
    dsimp only
    split
    · rfl
    · exact h.elem i hi
  · have hlt' : ¬ index < array'.size := h.size ▸ hlt
    rw [if_neg hlt, if_neg hlt']
    exact .none

/-- They agree after the same write, or refuse it both. -/
theorem Agree.write (h : Agree array array') (index : ℕ) (buf : List α) :
    Option.Rel Agree (array.write index buf) (array'.write index buf) := by
  unfold Flat.write
  by_cases hfits : index + buf.length ≤ array.size
  · have hfits' : index + buf.length ≤ array'.size := h.size ▸ hfits
    rw [if_pos hfits, if_pos hfits']
    refine .some ⟨h.size, fun i hi => ?_⟩
    dsimp only
    rw [h.elem i hi]
  · have hfits' : ¬ index + buf.length ≤ array'.size := h.size ▸ hfits
    rw [if_neg hfits, if_neg hfits']
    exact .none

end Flat

end RedPlanet.Verified
