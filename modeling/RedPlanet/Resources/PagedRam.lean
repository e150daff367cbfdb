import RedPlanet.Resources.Memory
import RedPlanet.SpaceTime.Arrays

/-!
# RAM in a paged array

`Ram` has its bytes in a flat array.  In the source they are in an array of
the allocator, made up of pages that are shared and copied when they are
written.  The accesses over the pages do to them what `Ram::read` and
`Ram::write` do to the flat array, at any offset and across any page
boundary.

`Represents` connects the pages with the flat array.  A read returns the same
bytes (`readPaged_spec`), and a write leaves pages that represent the array
after the write (`writePaged_spec`); neither panics where the other does not.
-/

namespace RedPlanet.Resources

open RedPlanet.Core RedPlanet.Verified RedPlanet.SpaceTime Limited

namespace Ram

section Build

variable [Build]

/-- `Ram::read` over the pages. -/
def readPaged (storage : DefaultStorage (BitVec 8)) (array : Instance)
    (maxAddress address : BitVec 32) (buf : List (BitVec 8)) :
    Limited (List (BitVec 8)) := do
  if maxAddress < address ∨ buf = [] then return buf
  else
    let count := min (maxAddress - address).toNat (buf.length - 1) + 1
    let (ok, bytes) ← array.read storage (buf.take count) address.toNat
    -- `false` is unreachable
    assert ok
    return bytes ++ buf.drop count

/-- `Ram::write` over the pages. -/
def writePaged (storage : DefaultStorage (BitVec 8)) (array : Instance)
    (maxAddress address : BitVec 32) (buf : List (BitVec 8)) :
    Limited (Instance × DefaultStorage (BitVec 8)) := do
  if maxAddress < address ∨ buf = [] then return (array, storage)
  else
    let count := min (maxAddress - address).toNat (buf.length - 1) + 1
    let (ok, array, storage) ←
      array.write storage address.toNat (buf.take count)
    assert ok
    return (array, storage)

variable {storage : DefaultStorage (BitVec 8)} {array : Instance} {ram : Ram}
  {value : BitVec 8} {R : TablePtr → ℕ} {address : BitVec 32}
  {buf : List (BitVec 8)}

omit [Build] in
/-- The part of the buffer that is transferred. -/
theorem length_take_extent (hinside : ¬ (ram.maxAddress < address ∨ buf = [])) :
    (buf.take (ram.extent address buf.length)).length =
      ram.extent address buf.length := by
  rw [not_or] at hinside
  have hpos := List.length_pos_iff.2 hinside.2
  rw [List.length_take]
  unfold extent
  omega

/-- A read of the pages is one of the flat array. -/
theorem readPaged_spec (h : Owned storage R)
    (hheld : ∀ ptr ∈ array.ptrs, 0 < R ptr)
    (hshows : Represents storage array ram.data value) :
    (readPaged storage array ram.maxAddress address buf).Ensures fun r =>
      ram.read address buf = some r := by
  unfold readPaged Ram.read
  by_cases hout : ram.maxAddress < address ∨ buf = []
  · rw [if_pos hout, if_pos hout]
    exact Ensures.pure rfl
  · have hlength := length_take_extent hout
    have hfits := extent_le (not_or.1 hout).1 buf.length
    have hread : (array.read storage
        (buf.take (ram.extent address buf.length)) address.toNat).Ensures
        fun r => ∃ items, ram.data.read address.toNat
            (ram.extent address buf.length) = some items ∧
          r = (true, items) := by
      apply (Instance.read_spec h (by decide) hheld hshows address.toNat
        (hshows.room_of_layers _)).imp
      rw [hlength]
      rintro r (hread | ⟨hnone, _⟩)
      · exact hread
      · exact absurd hnone (Flat.read_ne_none ram.data _ _ hfits)
    rw [if_neg hout, if_neg hout]
    apply Ensures.bind hread
    rintro r ⟨items, hitems, rfl⟩
    apply Ensures.bind (Ensures.assert rfl)
    intro _ _
    have hcount := Flat.length_read hitems
    apply Ensures.pure
    rw [hitems, Option.map_some]
    unfold overwrite
    rw [hcount]
    rfl

/-- A write to the pages is one to the flat array. -/
theorem writePaged_spec (h : Owned storage (holding array.ptrs R))
    (hshows : Represents storage array ram.data value) :
    (writePaged storage array ram.maxAddress address buf).Ensures fun r =>
      ∃ ram', ram.write address buf = some ram' ∧
        Updates storage r.2 r.1 ram'.data value R := by
  unfold writePaged
  by_cases hout : ram.maxAddress < address ∨ buf = []
  · rw [if_pos hout]
    refine Ensures.pure ⟨ram, ?_, h, Keeps.refl, hshows⟩
    unfold Ram.write
    rw [if_pos hout]
  · have hlength := length_take_extent hout
    have hfits := extent_le (not_or.1 hout).1 buf.length
    have hwrite : (array.write storage address.toNat
        (buf.take (ram.extent address buf.length))).Ensures
        fun r => ∃ content, ram.data.write address.toNat
            (buf.take (ram.extent address buf.length)) = some content ∧
          r.1 = true ∧ Updates storage r.2.2 r.2.1 content value R := by
      apply (Instance.write_spec h (by decide) hshows address.toNat
        (hshows.room_of_layers _)).imp
      rintro r (hwrite | ⟨hnone, _⟩)
      · exact hwrite
      · refine absurd hnone (Flat.write_ne_none ram.data _ _ ?_)
        rw [hlength]
        exact hfits
    rw [if_neg hout]
    apply Ensures.bind hwrite
    rintro ⟨ok, array', storage'⟩ ⟨content, hcontent, hok, hupdates⟩
    dsimp only at hok hupdates
    rw [hok]
    apply Ensures.bind (Ensures.assert rfl)
    intro _ _
    obtain ⟨ram', hram'⟩ := Option.ne_none_iff_exists'.1
      (Ram.write_ne_none address buf ram)
    have hdata : ram'.data = content := by
      unfold Ram.write at hram'
      rw [if_neg hout] at hram'
      split at hram'
      · cases hram'
      · rename_i data hdata
        cases hram'
        rw [hcontent] at hdata
        exact (Option.some.inj hdata).symm
    apply Ensures.pure
    refine ⟨ram', hram', ?_⟩
    rw [hdata]
    exact hupdates

end Build

end Ram

end RedPlanet.Resources
