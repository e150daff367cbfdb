import RedPlanet.Verified.Flat

/-!
# ROM and RAM

`resources/rom.rs` and `resources/ram.rs`.  Their bytes live in an array of
the allocator, here a flat array; that its size fits the highest address is
part of the type.

In a read or a write `none` is a panic, and there is none
(`Rom.read_ne_none`, `Ram.read_ne_none`, `Ram.write_ne_none`): the part of an
access that lies within the memory is carried out (`extent_le`), the rest is
ignored.  `Resources.PagedRam` has the same over the pages of the allocator.
-/

namespace RedPlanet.Resources

open RedPlanet.Verified

/-- A buffer with its first bytes replaced. -/
def overwrite (buf bytes : List (BitVec 8)) : List (BitVec 8) :=
  bytes ++ buf.drop bytes.length

/-- The sizes that `Rom::new` and `Ram::new` accept. -/
def SizeOk (size : ℕ) : Prop := size ≠ 0 ∧ size ≤ 2 ^ 32

instance (size : ℕ) : Decidable (SizeOk size) :=
  inferInstanceAs (Decidable (_ ∧ _))

/-- The size is one more than the highest address. -/
theorem SizeOk.toNat_maxAddress {size : ℕ} (h : SizeOk size) :
    size = (BitVec.ofNat 32 (size - 1)).toNat + 1 := by
  obtain ⟨hpos, hle⟩ := h
  rw [BitVec.toNat_ofNat]
  omega

/-! ## ROM -/

/-- Bytes that are never written. -/
structure Rom where
  data : Flat (BitVec 8)
  /-- The number of bytes that were initialized. -/
  dataLen : ℕ
  maxAddress : BitVec 32
  fits : data.size = maxAddress.toNat + 1

namespace Rom

/-- `Rom::new`. -/
def new (size : ℕ) (buf : List (BitVec 8)) : Option Rom :=
  if h : SizeOk size then
    some
      { data :=
          { size := size
            elem := fun i => ((buf.take size)[i]?).getD 0 }
        dataLen := min buf.length size
        maxAddress := BitVec.ofNat 32 (size - 1)
        fits := h.toNat_maxAddress }
  else none

/-- `Rom::read`: the part of the access within the ROM is filled, its bytes
past the first `dataLen` with zeros. -/
def read (address : BitVec 32) (buf : List (BitVec 8)) (rom : Rom) :
    Option (List (BitVec 8)) :=
  if rom.maxAddress < address ∨ buf = [] then some buf
  else
    let size := min buf.length ((rom.maxAddress - address).toNat + 1)
    (rom.data.read address.toNat (min size rom.dataLen)).map fun bytes =>
      overwrite buf (bytes ++ List.replicate (size - rom.dataLen) 0)

end Rom

/-! ## RAM -/

/-- Bytes that may be written. -/
structure Ram where
  data : Flat (BitVec 8)
  maxAddress : BitVec 32
  fits : data.size = maxAddress.toNat + 1

namespace Ram

/-- `Ram::new`. -/
def new (size : ℕ) : Option Ram :=
  if h : SizeOk size then
    some
      { data := Flat.replicate size 0
        maxAddress := BitVec.ofNat 32 (size - 1)
        fits := h.toNat_maxAddress }
  else none

/-- The number of bytes of an access that lie within the RAM. -/
def extent (address : BitVec 32) (length : ℕ) (ram : Ram) : ℕ :=
  min (ram.maxAddress - address).toNat (length - 1) + 1

/-- `Ram::read`. -/
def read (address : BitVec 32) (buf : List (BitVec 8)) (ram : Ram) :
    Option (List (BitVec 8)) :=
  if ram.maxAddress < address ∨ buf = [] then some buf
  else
    (ram.data.read address.toNat (ram.extent address buf.length)).map
      (overwrite buf)

/-- `Ram::write`. -/
def write (address : BitVec 32) (buf : List (BitVec 8)) (ram : Ram) :
    Option Ram :=
  if ram.maxAddress < address ∨ buf = [] then some ram
  else
    match h : ram.data.write address.toNat
        (buf.take (ram.extent address buf.length)) with
    | none => none
    | some data =>
        some { ram with
          data := data
          fits := (Flat.size_write h).trans ram.fits }

end Ram

/-! ## No access panics -/

/-- Subtraction without a borrow. -/
theorem toNat_sub_of_not_lt {a b : BitVec 32} (h : ¬ a < b) :
    b.toNat + (a - b).toNat = a.toNat := by
  have hle : b.toNat ≤ a.toNat := Nat.le_of_not_lt h
  rw [BitVec.toNat_sub_of_le hle]
  omega

/-- A read does not panic, inside the ROM or outside. -/
theorem Rom.read_ne_none (address : BitVec 32) (buf : List (BitVec 8))
    (rom : Rom) : rom.read address buf ≠ none := by
  unfold read
  by_cases houtside : rom.maxAddress < address ∨ buf = []
  · rw [if_pos houtside]
    exact Option.some_ne_none buf
  · rw [if_neg houtside]
    rw [not_or] at houtside
    have hsub := toNat_sub_of_not_lt houtside.1
    have hfits := rom.fits
    rw [ne_eq, Option.map_eq_none_iff]
    apply Flat.read_ne_none
    omega

/-- The part of an access that lies within the memory. -/
theorem Ram.extent_le {address : BitVec 32} {ram : Ram}
    (h : ¬ ram.maxAddress < address) (length : ℕ) :
    address.toNat + ram.extent address length ≤ ram.data.size := by
  have hsub := toNat_sub_of_not_lt h
  have hfits := ram.fits
  unfold extent
  omega

/-- A read does not panic, inside the RAM or outside. -/
theorem Ram.read_ne_none (address : BitVec 32) (buf : List (BitVec 8))
    (ram : Ram) : ram.read address buf ≠ none := by
  unfold read
  by_cases houtside : ram.maxAddress < address ∨ buf = []
  · rw [if_pos houtside]
    exact Option.some_ne_none buf
  · rw [if_neg houtside]
    rw [not_or] at houtside
    rw [ne_eq, Option.map_eq_none_iff]
    apply Flat.read_ne_none
    exact Ram.extent_le houtside.1 buf.length

theorem Ram.write_ne_none (address : BitVec 32) (buf : List (BitVec 8))
    (ram : Ram) : ram.write address buf ≠ none := by
  unfold write
  by_cases houtside : ram.maxAddress < address ∨ buf = []
  · rw [if_pos houtside]
    exact Option.some_ne_none ram
  · rw [if_neg houtside]
    rw [not_or] at houtside
    have hextent := Ram.extent_le houtside.1 buf.length
    have hlength : (buf.take (ram.extent address buf.length)).length
        ≤ ram.extent address buf.length := by
      rw [List.length_take]
      exact Nat.min_le_left _ _
    have hwrite := Flat.write_ne_none ram.data address.toNat
      (buf.take (ram.extent address buf.length)) (by omega)
    split
    · exact absurd ‹_› hwrite
    · exact Option.some_ne_none _

/-! ## What accesses to RAM read and write -/

namespace Ram

variable {address : BitVec 32} {buf : List (BitVec 8)} {ram ram' : Ram}

/-- All of an access lies within the memory if its last byte does. -/
theorem extent_eq (hpos : buf ≠ [])
    (hfits : address.toNat + buf.length ≤ ram.data.size) :
    ¬ (ram.maxAddress < address ∨ buf = []) ∧
      ram.extent address buf.length = buf.length := by
  have hlength := List.length_pos_iff.2 hpos
  have hmax := ram.fits
  have hinside : ¬ ram.maxAddress < address := by
    show ¬ ram.maxAddress.toNat < address.toNat
    omega
  have hsub := toNat_sub_of_not_lt hinside
  refine ⟨not_or.2 ⟨hinside, hpos⟩, ?_⟩
  unfold extent
  omega

/-- A read within the RAM fills the buffer with its bytes. -/
theorem read_eq (hpos : buf ≠ [])
    (hfits : address.toNat + buf.length ≤ ram.data.size) :
    ram.read address buf
      = some ((List.range buf.length).map fun i =>
          ram.data.elem (address.toNat + i)) := by
  obtain ⟨hinside, hextent⟩ := extent_eq hpos hfits
  unfold read Flat.read
  rw [if_neg hinside, hextent, if_pos hfits, Option.map_some]
  unfold overwrite
  rw [List.length_map, List.length_range, List.drop_length, List.append_nil]

/-- Every byte after a write: one of the buffer where the access reaches,
else what it was. -/
theorem elem_write (h : ram.write address buf = some ram') (i : ℕ) :
    ram'.data.elem i
      = if address.toNat ≤ i ∧ i < ram.data.size then
          (buf[i - address.toNat]?).getD (ram.data.elem i)
        else ram.data.elem i := by
  have hfits := ram.fits
  unfold write at h
  by_cases houtside : ram.maxAddress < address ∨ buf = []
  · rw [if_pos houtside] at h
    cases h
    cases houtside with
    | inl hpast =>
        rw [BitVec.lt_def] at hpast
        rw [if_neg (by omega)]
    | inr hnil =>
        subst hnil
        rw [List.getElem?_nil, Option.getD_none, ite_self]
  · rw [if_neg houtside] at h
    rw [not_or] at houtside
    have hsub := toNat_sub_of_not_lt houtside.1
    have hlength := List.length_pos_iff.2 houtside.2
    have hextent : ram.extent address buf.length
        = min (ram.maxAddress - address).toNat (buf.length - 1) + 1 := rfl
    split at h
    · cases h
    · rename_i data hdata
      cases h
      rw [Flat.elem_write hdata]
      by_cases hle : address.toNat ≤ i
      · rw [if_pos hle]
        by_cases hin : i - address.toNat < ram.extent address buf.length
        · rw [if_pos ⟨hle, by omega⟩, List.getElem?_take_of_lt hin]
        · have htake : (buf.take (ram.extent address buf.length)).length
              ≤ i - address.toNat := by
            rw [List.length_take]
            omega
          rw [List.getElem?_eq_none htake, Option.getD_none]
          by_cases hsize : i < ram.data.size
          · rw [if_pos ⟨hle, hsize⟩, List.getElem?_eq_none (by omega),
              Option.getD_none]
          · rw [if_neg (fun hboth => hsize hboth.2)]
      · rw [if_neg hle, if_neg (fun hboth => hle hboth.1)]

/-- Bytes outside of the access stay, and the size does. -/
theorem write_keeps (h : ram.write address buf = some ram') :
    (∀ i, (∀ k < buf.length, i ≠ address.toNat + k) →
      ram'.data.elem i = ram.data.elem i) ∧
    ram'.data.size = ram.data.size := by
  unfold write at h
  by_cases houtside : ram.maxAddress < address ∨ buf = []
  · rw [if_pos houtside] at h
    cases h
    exact ⟨fun _ _ => rfl, rfl⟩
  · rw [if_neg houtside] at h
    split at h
    · cases h
    · rename_i data hdata
      cases h
      refine ⟨?_, Flat.size_write hdata⟩
      intro i hi
      rw [Flat.elem_write hdata]
      by_cases hle : address.toNat ≤ i
      · have hpast : buf.length ≤ i - address.toNat := by
          by_contra hin
          exact hi (i - address.toNat) (by omega) (by omega)
        have htake : (buf.take (ram.extent address buf.length)).length
            ≤ i - address.toNat := by
          rw [List.length_take]
          omega
        rw [if_pos hle, List.getElem?_eq_none htake, Option.getD_none]
      · rw [if_neg hle]

/-- A write within the RAM stores the whole buffer. -/
theorem write_eq (hpos : buf ≠ [])
    (hfits : address.toNat + buf.length ≤ ram.data.size)
    (h : ram.write address buf = some ram') {i : ℕ} (hi : i < buf.length) :
    ram'.data.elem (address.toNat + i) = buf[i] := by
  obtain ⟨hinside, hextent⟩ := extent_eq hpos hfits
  unfold write at h
  rw [if_neg hinside] at h
  split at h
  · cases h
  · rename_i data hdata
    cases h
    rw [hextent, List.take_length] at hdata
    rw [Flat.elem_write hdata, if_pos (Nat.le_add_right _ _),
      Nat.add_sub_cancel_left, List.getElem?_eq_getElem hi, Option.getD_some]

end Ram

end RedPlanet.Resources
