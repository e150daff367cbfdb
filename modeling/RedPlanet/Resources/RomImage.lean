import RedPlanet.Resources.PagedRam

/-!
# The image in a ROM

`Rom::new` stores the first bytes of an image, and `Rom::read` clamps an
access twice: to the mapped bytes, and to those that were initialized.
Together they show the image padded with zeros (`ReadsImage`).  The same holds
over the pages of the allocator, as long as others leave the pages of the ROM
alone.

The flat case is arithmetic about the two clamps.  For the pages it is the
array of `SpaceTime.PageAccess` that stands behind the ROM: what was written
to it when it was made is read back.
-/

namespace RedPlanet.Resources

open RedPlanet.Core RedPlanet.Verified RedPlanet.SpaceTime Limited

namespace Rom

/-! ## What a read leaves in the buffer -/

/-- Byte by byte: the image, then zeros up to `size`, then what was in the
buffer. -/
structure ReadsImage (size : ℕ) (image : List (BitVec 8))
    (address : BitVec 32) (buf out : List (BitVec 8)) : Prop where
  length : out.length = buf.length
  shown : ∀ i, i < buf.length →
    address.toNat + i < min image.length size →
      out[i]? = image[address.toNat + i]?
  padded : ∀ i, i < buf.length →
    min image.length size ≤ address.toNat + i → address.toNat + i < size →
      out[i]? = some 0
  untouched : ∀ i, i < buf.length → size ≤ address.toNat + i → out[i]? = buf[i]?

/-- A buffer whose first bytes are replaced. -/
theorem getElem?_overwrite {buf bytes : List (BitVec 8)} (i : ℕ) :
    (overwrite buf bytes)[i]?
      = if i < bytes.length then bytes[i]? else buf[i]? := by
  unfold overwrite
  by_cases hi : i < bytes.length
  · rw [if_pos hi, List.getElem?_append_left hi]
  · rw [if_neg hi, List.getElem?_append_right (by omega), List.getElem?_drop]
    congr 1
    omega

variable {size : ℕ} {image buf : List (BitVec 8)} {address : BitVec 32}

/-- The bytes of a ROM that was made from an image. -/
def ofImage (hsize : SizeOk size) (image : List (BitVec 8)) : Rom where
  data :=
    { size := size
      elem := fun i => ((image.take size)[i]?).getD 0 }
  dataLen := min image.length size
  maxAddress := BitVec.ofNat 32 (size - 1)
  fits := hsize.toNat_maxAddress

/-- The bytes of a new ROM, for any image, however long. -/
theorem new_eq (hsize : SizeOk size) (image : List (BitVec 8)) :
    Rom.new size image = some (ofImage hsize image) := by
  unfold Rom.new
  rw [dif_pos hsize]
  rfl

/-- An element of the array: a byte of the image, or zero. -/
theorem elem_ofImage (hsize : SizeOk size) {i : ℕ} :
    some ((ofImage hsize image).data.elem i)
      = if i < min image.length size then image[i]? else some 0 := by
  have htake : (ofImage hsize image).data.elem i
      = ((image.take size)[i]?).getD 0 := rfl
  rw [htake]
  by_cases hi : i < min image.length size
  · have hlt : i < image.length := by omega
    rw [if_pos hi, List.getElem?_take_of_lt (by omega),
      List.getElem?_eq_getElem hlt, Option.getD_some]
  · rw [if_neg hi, List.getElem?_eq_none, Option.getD_none]
    rw [List.length_take]
    omega

/-- The two parts that a read puts into the buffer. -/
theorem readsImage_overwrite (hsize : SizeOk size)
    (hinside : ¬ ((ofImage hsize image).maxAddress < address ∨ buf = []))
    {count : ℕ} (hcount : count = min buf.length
      (((ofImage hsize image).maxAddress - address).toNat + 1))
    {bytes : List (BitVec 8)}
    (hread : (ofImage hsize image).data.read address.toNat
      (min count (ofImage hsize image).dataLen) = some bytes) :
    ReadsImage size image address buf
      (overwrite buf (bytes ++
        List.replicate (count - (ofImage hsize image).dataLen) 0)) := by
  have hmax := (ofImage hsize image).fits
  have hsub := toNat_sub_of_not_lt (not_or.1 hinside).1
  have hdata : (ofImage hsize image).data.size = size := rfl
  have hlen : (ofImage hsize image).dataLen = min image.length size := rfl
  generalize hfill : List.replicate (count - (ofImage hsize image).dataLen)
    (0 : BitVec 8) = zeros
  have hbytes := Flat.length_read hread
  have hzeros : zeros.length = count - (ofImage hsize image).dataLen := by
    rw [← hfill, List.length_replicate]
  have htotal : (bytes ++ zeros).length = count := by
    rw [List.length_append]
    omega
  -- the bytes below `count` are those of the array
  have hinner : ∀ i, i < count →
      (overwrite buf (bytes ++ zeros))[i]?
        = if address.toNat + i < min image.length size
          then image[address.toNat + i]? else some 0 := by
    intro i hi
    rw [getElem?_overwrite, if_pos (by omega)]
    by_cases hread' : i < bytes.length
    · rw [List.getElem?_append_left hread',
        Flat.getElem?_read hread (by omega), elem_ofImage]
    · rw [List.getElem?_append_right (by omega), if_neg (by omega), ← hfill,
        List.getElem?_replicate_of_lt (by omega)]
  refine ⟨?_, ?_, ?_, ?_⟩
  · unfold overwrite
    rw [List.length_append, List.length_drop]
    omega
  · intro i hi hlt
    rw [hinner i (by omega), if_pos hlt]
  · intro i hi hge hlt
    rw [hinner i (by omega), if_neg (by omega)]
  · intro i hi hge
    rw [getElem?_overwrite, if_neg (by omega)]

/-- Nothing is read past the end, or into an empty buffer. -/
theorem readsImage_outside (hsize : SizeOk size)
    (hout : (ofImage hsize image).maxAddress < address ∨ buf = []) :
    ReadsImage size image address buf buf := by
  have hmax := (ofImage hsize image).fits
  have hdata : (ofImage hsize image).data.size = size := rfl
  have hpast : ∀ i, i < buf.length → size ≤ address.toNat + i := by
    intro i hi
    cases hout with
    | inl hlt =>
        have hlt : (ofImage hsize image).maxAddress.toNat < address.toNat := hlt
        omega
    | inr hempty =>
        rw [hempty] at hi
        exact absurd hi (Nat.not_lt_zero i)
  refine ⟨rfl, ?_, ?_, fun _ _ _ => rfl⟩
  · intro i hi hlt
    have := hpast i hi
    omega
  · intro i hi _ hlt
    have := hpast i hi
    omega

/-- A read from the ROM shows the image. -/
theorem read_ofImage (hsize : SizeOk size) (image : List (BitVec 8))
    (address : BitVec 32) (buf : List (BitVec 8)) :
    ∃ out, (ofImage hsize image).read address buf = some out ∧
      ReadsImage size image address buf out := by
  obtain ⟨out, hread⟩ := Option.ne_none_iff_exists'.1
    (Rom.read_ne_none address buf (ofImage hsize image))
  refine ⟨out, hread, ?_⟩
  unfold Rom.read at hread
  by_cases hout : (ofImage hsize image).maxAddress < address ∨ buf = []
  · rw [if_pos hout] at hread
    rw [← Option.some.inj hread]
    exact readsImage_outside hsize hout
  · rw [if_neg hout] at hread
    obtain ⟨bytes, hbytes, hoverwrite⟩ := Option.map_eq_some_iff.1 hread
    rw [← hoverwrite]
    exact readsImage_overwrite hsize hout rfl hbytes

/-! ## Over the pages -/

/-- The fields of a ROM whose bytes are in an array of the allocator. -/
structure Paged where
  array : Instance
  dataLen : ℕ
  maxAddress : BitVec 32

section Build

variable [Build]

/-- `Rom::new` over the pages. -/
def newPaged (size : ℕ) (image : List (BitVec 8))
    (storage : DefaultStorage (BitVec 8)) :
    Limited (Option Paged × DefaultStorage (BitVec 8)) := do
  if SizeOk size then
    let (array, storage) ← storage.newInstance 0 size
    let dataLen := min image.length size
    let maxAddress := BitVec.ofNat 32 (size - 1)
    if 0 < dataLen then
      let (ok, array, storage) ← array.write storage 0 (image.take dataLen)
      -- `false` is unreachable
      assert ok
      return (some { array, dataLen, maxAddress }, storage)
    else
      return (some { array, dataLen, maxAddress }, storage)
  else return (none, storage)

/-- `Rom::read` over the pages. -/
def Paged.read (address : BitVec 32) (buf : List (BitVec 8))
    (storage : DefaultStorage (BitVec 8)) (rom : Paged) :
    Limited (List (BitVec 8)) := do
  if rom.maxAddress < address ∨ buf = [] then return buf
  else
    let size := min buf.length ((rom.maxAddress - address).toNat + 1)
    let count := min size rom.dataLen
    let (ok, bytes) ← rom.array.read storage (buf.take count) address.toNat
    assert ok
    -- `buf[data_len..size].fill(0)`
    return overwrite buf (bytes ++ List.replicate (size - rom.dataLen) 0)

/-- The pages of the ROM that is made from an image. -/
def Paged.ofImage (array : Instance) (size : ℕ) (image : List (BitVec 8)) :
    Paged where
  array := array
  dataLen := min image.length size
  maxAddress := BitVec.ofNat 32 (size - 1)

variable {storage : DefaultStorage (BitVec 8)} {array : Instance}
  {R : TablePtr → ℕ}

omit [Build] in
/-- The array after the image is written into it. -/
theorem write_image (hsize : SizeOk size) {content : Flat (BitVec 8)}
    (h : (Flat.replicate size 0).write 0 (image.take (min image.length size))
      = some content) : content = (ofImage hsize image).data := by
  have htake : image.take (min image.length size) = image.take size := by
    rw [List.take_eq_take_iff]
    omega
  have hlength : content.size = size := Flat.size_write h
  have helem := Flat.elem_write h
  cases content with
  | mk n elem =>
      have hn : n = size := hlength
      have hfun : elem = (ofImage hsize image).data.elem := by
        funext i
        have hi := helem i
        rw [if_pos (Nat.zero_le i), Nat.sub_zero, htake] at hi
        exact hi
      rw [hn, hfun]
      rfl

omit [Build] in
/-- An empty image leaves the zeros. -/
theorem replicate_image (hsize : SizeOk size)
    (h : ¬ 0 < min image.length size) :
    Flat.replicate size 0 = (ofImage hsize image).data := by
  have hpos := hsize.1
  have hempty : image = [] := by
    rw [← List.length_eq_zero_iff]
    omega
  subst hempty
  unfold Flat.replicate ofImage
  congr 1
  funext i
  rw [List.take_nil, List.getElem?_nil, Option.getD_none]

/-- Within the limits of the allocator, a ROM is made of pages that show the
image. -/
theorem newPaged_spec (hsize : SizeOk size) (image : List (BitVec 8))
    (h : Owned storage R) :
    (newPaged size image storage).Ensures fun r =>
      ∃ array, r.1 = some (Paged.ofImage array size image) ∧
        Updates storage r.2 array (ofImage hsize image).data 0 R := by
  unfold newPaged
  rw [if_pos hsize]
  apply Ensures.bind (newInstance_spec 0 size h (by decide))
  rintro ⟨array, storage'⟩ ⟨howned, hkeeps, hshows⟩
  dsimp only at howned hkeeps hshows ⊢
  by_cases hpos : 0 < min image.length size
  · have hfits : 0 + (image.take (min image.length size)).length ≤ size := by
      rw [List.length_take]
      omega
    have hwrite : (array.write storage' 0
        (image.take (min image.length size))).Ensures fun r =>
          r.1 = true ∧
            Updates storage' r.2.2 r.2.1 (ofImage hsize image).data 0 R := by
      apply (Instance.write_spec howned (by decide) hshows 0
        (hshows.room_of_layers _)).imp
      rintro r (⟨content, hcontent, hok, hupdates⟩ | ⟨hnone, _⟩)
      · rw [← write_image hsize hcontent]
        exact ⟨hok, hupdates⟩
      · exact absurd hnone (Flat.write_ne_none _ _ _ hfits)
    rw [if_pos hpos]
    apply Ensures.bind hwrite
    rintro ⟨ok, array', storage''⟩ ⟨hok, hupdates⟩
    dsimp only at hok hupdates ⊢
    rw [hok]
    apply Ensures.bind (Ensures.assert rfl)
    intro _ _
    exact Ensures.pure ⟨array', rfl, hupdates.owned,
      hkeeps.trans hupdates.keeps, hupdates.shows⟩
  · rw [if_neg hpos]
    rw [replicate_image hsize hpos] at hshows
    exact Ensures.pure ⟨array, rfl, howned, hkeeps, hshows⟩

/-- A read over the pages shows the image. -/
theorem readPaged_ofImage (hsize : SizeOk size) (h : Owned storage R)
    (hheld : ∀ ptr ∈ array.ptrs, 0 < R ptr)
    (hshows : Represents storage array (ofImage hsize image).data 0) :
    ((Paged.ofImage array size image).read address buf storage).Ensures
      (ReadsImage size image address buf) := by
  unfold Paged.read
  by_cases hout : (ofImage hsize image).maxAddress < address ∨ buf = []
  · have hpaged :
        (Paged.ofImage array size image).maxAddress < address ∨ buf = [] := hout
    rw [if_pos hpaged]
    exact Ensures.pure (readsImage_outside hsize hout)
  · have hpaged :
        ¬ ((Paged.ofImage array size image).maxAddress < address ∨ buf = []) :=
      hout
    rw [if_neg hpaged]
    have hmax := (ofImage hsize image).fits
    have hsub := toNat_sub_of_not_lt (not_or.1 hout).1
    generalize hcount : min buf.length
      (((ofImage hsize image).maxAddress - address).toNat + 1) = count
    have hlength : (buf.take (min count (ofImage hsize image).dataLen)).length
        = min count (ofImage hsize image).dataLen := by
      rw [List.length_take]
      omega
    have hread : (array.read storage
        (buf.take (min count (ofImage hsize image).dataLen))
          address.toNat).Ensures fun r => r.1 = true ∧
            (ofImage hsize image).data.read address.toNat
              (min count (ofImage hsize image).dataLen) = some r.2 := by
      apply (Instance.read_spec h (by decide) hheld hshows address.toNat
        (hshows.room_of_layers _)).imp
      rw [hlength]
      rintro r (⟨items, hitems, rfl⟩ | ⟨hnone, _⟩)
      · exact ⟨rfl, hitems⟩
      · refine absurd hnone (Flat.read_ne_none _ _ _ ?_)
        omega
    have hsame : min buf.length
        (((Paged.ofImage array size image).maxAddress - address).toNat + 1)
          = count := hcount
    dsimp only
    rw [hsame]
    apply Ensures.bind hread
    rintro ⟨ok, bytes⟩ ⟨hok, hbytes⟩
    dsimp only at hok hbytes ⊢
    rw [hok]
    apply Ensures.bind (Ensures.assert rfl)
    intro _ _
    exact Ensures.pure (readsImage_overwrite hsize hout hcount.symm hbytes)

/-- A ROM shows its image padded with zeros: as an array, and over the pages
it was allocated, in every later state of the allocator that leaves them
alone. -/
theorem read_padded_image (hsize : SizeOk size) (image : List (BitVec 8)) :
    ∃ rom, Rom.new size image = some rom ∧
      (∀ address buf, ∃ out, rom.read address buf = some out ∧
        ReadsImage size image address buf out) ∧
      ∀ (storage : DefaultStorage (BitVec 8)) (R : TablePtr → ℕ),
        Owned storage R → (newPaged size image storage).Ensures fun r =>
          ∃ paged, r.1 = some paged ∧ Owned r.2 (holding paged.array.ptrs R) ∧
            ∀ (later : DefaultStorage (BitVec 8)) (R' : TablePtr → ℕ),
              Owned later R' → (∀ ptr ∈ paged.array.ptrs, 0 < R' ptr) →
              Keeps (holding paged.array.ptrs R) r.2 later →
              ∀ address buf, (paged.read address buf later).Ensures
                (ReadsImage size image address buf) := by
  refine ⟨ofImage hsize image, new_eq hsize image,
    read_ofImage hsize image, ?_⟩
  intro storage R howned
  apply (newPaged_spec hsize image howned).imp
  rintro r ⟨array, hr, hupdates⟩
  refine ⟨Paged.ofImage array size image, hr, hupdates.owned, ?_⟩
  intro later R' hlater hheld hkeeps address buf
  have hown : ∀ ptr ∈ array.ptrs, 0 < holding array.ptrs R ptr := by
    intro ptr hptr
    exact holding_pos_of_mem hptr R
  exact readPaged_ofImage hsize hlater hheld
    (hupdates.shows.keeps hkeeps hown)

end Build

/-- A ROM of five bytes with an image of two, read across both ends. -/
theorem read_padded_image_five : ∃ rom,
    Rom.new 5 [0x13, 0x37] = some rom ∧
      ∃ out, rom.read 1 [9, 9, 9, 9, 9, 9] = some out ∧
        ReadsImage 5 [0x13, 0x37] 1 [9, 9, 9, 9, 9, 9] out := by
  let _ : Build := Build.debug
  obtain ⟨rom, hnew, hread, _⟩ :=
    read_padded_image (show SizeOk 5 by decide) [0x13, 0x37]
  exact ⟨rom, hnew, hread 1 [9, 9, 9, 9, 9, 9]⟩

example : (Rom.new 5 [0x13, 0x37]).bind (Rom.read 1 [9, 9, 9, 9, 9, 9])
    = some [0x37, 0, 0, 0, 9, 9] := by decide

end Rom

end RedPlanet.Resources
