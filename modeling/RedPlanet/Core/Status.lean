import RedPlanet.Core.Basic

/-!
# The status registers

`core/status.rs`: the mstatus and mstatush words, their fields, and the CSR
views of them.  Every setter touches one field, which is what the bit-level
lemmas say; `getLsbD_writeMstatus_of_unmasked` is what keeps the
machine-level fields out of reach of sstatus.

`Touches bits set` is the frame of a setter: no bit outside of `bits` is
changed.  It composes, and what reads a field that is not touched is the same
before and after.  A write of mstatus calls one setter after the other, each
behind a test, and `writeMstatus_rule` is the rule for what all of them
preserve.
-/

namespace RedPlanet.Core

open RedPlanet.Verified

/-- Mask to be applied to mstatus to get sstatus. -/
def SSTATUS_MASK : BitVec 32 := 0b11111111100011011110011101110111#32

/-! ## Bit indices into mstatus and mstatush -/

namespace idx

/-- Interrupts enabled, for S-mode. -/
abbrev SIE : Nat := 1

/-- Interrupts enabled, for M-mode. -/
abbrev MIE : Nat := 3

/-- What SIE was before the trap. -/
abbrev SPIE : Nat := 5

/-- U-mode is big-endian. -/
abbrev UBE : Nat := 6

/-- What MIE was before the trap. -/
abbrev MPIE : Nat := 7

/-- The mode before the trap into S-mode, in one bit. -/
abbrev SPP : Nat := 8

/-- The context of the vector extension, in two bits. -/
abbrev VS : Nat := 9

/-- The mode before the trap into M-mode, in two bits. -/
abbrev MPP : Nat := 11

/-- The context of the floating-point extension, in two bits. -/
abbrev FS : Nat := 13

/-- The context of the other extensions, in two bits. -/
abbrev XS : Nat := 15

/-- Loads and stores are made at the mode in MPP. -/
abbrev MPRV : Nat := 17

/-- S-mode may access pages of U-mode. -/
abbrev SUM : Nat := 18

/-- What can be executed can be loaded. -/
abbrev MXR : Nat := 19

/-- S-mode may not manage virtual memory. -/
abbrev TVM : Nat := 20

/-- S-mode may not wait for interrupts. -/
abbrev TW : Nat := 21

/-- S-mode may not return from traps. -/
abbrev TSR : Nat := 22

/-- Some extension context is dirty. -/
abbrev SD : Nat := 31

end idx

namespace hidx

/-- S-mode is big-endian, a bit of mstatush. -/
abbrev SBE : Nat := 4

/-- M-mode is big-endian, a bit of mstatush. -/
abbrev MBE : Nat := 5

end hidx

/-! ## The registers and their fields -/

/-- The two words, of which sstatus is a view. -/
structure Status where
  mstatus : BitVec 32
  mstatush : BitVec 32
deriving DecidableEq, Repr

/-- The extension context status `Dirty`, as its discriminant. -/
def dirty : BitVec 2 := 3#2

namespace Status

/-- Both words are zero. -/
def new : Status where
  mstatus := 0
  mstatush := 0

/-- A one-bit field of mstatus. -/
def bit (status : Status) (i : Nat) : Bool := status.mstatus.getLsbD i

/-- Set a one-bit field of mstatus. -/
def setField (i : Nat) (value : Bool) (status : Status) : Status :=
  { status with mstatus := setBit status.mstatus i value }

def mie (status : Status) : Bool := status.bit idx.MIE
def sie (status : Status) : Bool := status.bit idx.SIE
def mpie (status : Status) : Bool := status.bit idx.MPIE
def spie (status : Status) : Bool := status.bit idx.SPIE
def mprv (status : Status) : Bool := status.bit idx.MPRV
def mxr (status : Status) : Bool := status.bit idx.MXR
def sum (status : Status) : Bool := status.bit idx.SUM
def ube (status : Status) : Bool := status.bit idx.UBE
def tvm (status : Status) : Bool := status.bit idx.TVM
def tw (status : Status) : Bool := status.bit idx.TW
def tsr (status : Status) : Bool := status.bit idx.TSR
def mbe (status : Status) : Bool := status.mstatush.getLsbD hidx.MBE
def sbe (status : Status) : Bool := status.mstatush.getLsbD hidx.SBE

def setMie (value : Bool) : Status → Status := setField idx.MIE value
def setSie (value : Bool) : Status → Status := setField idx.SIE value
def setMpie (value : Bool) : Status → Status := setField idx.MPIE value
def setSpie (value : Bool) : Status → Status := setField idx.SPIE value
def setMprv (value : Bool) : Status → Status := setField idx.MPRV value
def setMxr (value : Bool) : Status → Status := setField idx.MXR value
def setSum (value : Bool) : Status → Status := setField idx.SUM value
def setUbe (value : Bool) : Status → Status := setField idx.UBE value
def setTvm (value : Bool) : Status → Status := setField idx.TVM value
def setTw (value : Bool) : Status → Status := setField idx.TW value
def setTsr (value : Bool) : Status → Status := setField idx.TSR value

/-- The setters of mstatush are the same for the other word. -/
def setMbe (value : Bool) (status : Status) : Status :=
  { status with mstatush := setBit status.mstatush hidx.MBE value }

def setSbe (value : Bool) (status : Status) : Status :=
  { status with mstatush := setBit status.mstatush hidx.SBE value }

/-- The MPP field; `none` when it holds the reserved level, on which the
accessor of the source panics. -/
def mpp (status : Status) : Option PrivilegeLevel :=
  (RawPrivilegeLevel.fromU2 (loadU2 status.mstatus idx.MPP)).toPrivilegeLevel

/-- MPP is a WARL field: the reserved level is ignored. -/
def setMpp (value : RawPrivilegeLevel) (status : Status) : Status :=
  match value.toPrivilegeLevel with
  | none => status
  | some level =>
      { status with
        mstatus := storeU2 status.mstatus idx.MPP (BitVec.ofNat 2 level.toNat) }

/-- SPP names U-mode or S-mode. -/
def spp (status : Status) : PrivilegeLevel :=
  if status.bit idx.SPP then .supervisor else .user

/-- SPP is a WARL field: levels above supervisor are ignored. -/
def setSpp (value : RawPrivilegeLevel) (status : Status) : Status :=
  match value.toPrivilegeLevel with
  | some .user => setField idx.SPP false status
  | some .supervisor => setField idx.SPP true status
  | _ => status

def fs (status : Status) : BitVec 2 := loadU2 status.mstatus idx.FS
def vs (status : Status) : BitVec 2 := loadU2 status.mstatus idx.VS
def xs (status : Status) : BitVec 2 := loadU2 status.mstatus idx.XS

/-- SD is set if one of the three contexts is dirty. -/
def updateSd (status : Status) : Status :=
  setField idx.SD
    (status.fs == dirty || status.vs == dirty || status.xs == dirty) status

def setFs (value : BitVec 2) (status : Status) : Status :=
  updateSd { status with mstatus := storeU2 status.mstatus idx.FS value }

def setVs (value : BitVec 2) (status : Status) : Status :=
  updateSd { status with mstatus := storeU2 status.mstatus idx.VS value }

/-- One `if mask_bits[..] { status.set_..(..) }` of `write_mstatus`. -/
def update (enabled : Bool) (set : Status → Status) (status : Status) :
    Status :=
  if enabled then set status else status

/-- `Core::write_mstatus`.  `mask_bits` is taken from `value`, not from
`mask`: a field is written when its bit is set in `value`, with the bit that
`updated` has there. -/
def writeMstatus (value mask : BitVec 32) (status : Status) : Status :=
  let maskBits := value
  let updated := merge status.mstatus value mask
  status
    |> update (maskBits.getLsbD idx.SIE) (setSie (updated.getLsbD idx.SIE))
    |> update (maskBits.getLsbD idx.MIE) (setMie (updated.getLsbD idx.MIE))
    |> update (maskBits.getLsbD idx.SPIE) (setSpie (updated.getLsbD idx.SPIE))
    |> update (maskBits.getLsbD idx.UBE) (setUbe (updated.getLsbD idx.UBE))
    |> update (maskBits.getLsbD idx.MPIE) (setMpie (updated.getLsbD idx.MPIE))
    |> update (maskBits.getLsbD idx.SPP)
        (setSpp (if updated.getLsbD idx.SPP then .supervisor else .user))
    |> update (maskBits.getLsbD idx.VS || maskBits.getLsbD (idx.VS + 1))
        (setVs (loadU2 updated idx.VS))
    |> update (maskBits.getLsbD idx.MPP || maskBits.getLsbD (idx.MPP + 1))
        (setMpp (RawPrivilegeLevel.fromU2 (loadU2 updated idx.MPP)))
    |> update (maskBits.getLsbD idx.FS || maskBits.getLsbD (idx.FS + 1))
        (setFs (loadU2 updated idx.FS))
    |> update (maskBits.getLsbD idx.MPRV) (setMprv (updated.getLsbD idx.MPRV))
    |> update (maskBits.getLsbD idx.SUM) (setSum (updated.getLsbD idx.SUM))
    |> update (maskBits.getLsbD idx.MXR) (setMxr (updated.getLsbD idx.MXR))
    |> update (maskBits.getLsbD idx.TVM) (setTvm (updated.getLsbD idx.TVM))
    |> update (maskBits.getLsbD idx.TVM) (setTvm (updated.getLsbD idx.TVM))
    |> update (maskBits.getLsbD idx.TW) (setTw (updated.getLsbD idx.TW))
    |> update (maskBits.getLsbD idx.TSR) (setTsr (updated.getLsbD idx.TSR))

/-- `Core::write_mstatush`. -/
def writeMstatush (value mask : BitVec 32) (status : Status) : Status :=
  status
    |> update (mask.getLsbD hidx.MBE) (setMbe (value.getLsbD hidx.MBE))
    |> update (mask.getLsbD hidx.SBE) (setSbe (value.getLsbD hidx.SBE))

/-- `Core::write_sstatus`. -/
def writeSstatus (value mask : BitVec 32) : Status → Status :=
  writeMstatus value (mask &&& SSTATUS_MASK)

/-! ## What a setter leaves alone -/

/-- The setter changes only the mstatus bits listed in `bits`. -/
def Touches (bits : List Nat) (set : Status → Status) : Prop :=
  ∀ status, (set status).mstatush = status.mstatush ∧
    ∀ i, i ∉ bits → (set status).bit i = status.bit i

/-- The setter of a one-bit field. -/
theorem Touches.setField (i : Nat) (value : Bool) :
    Touches [i] (setField i value) := by
  intro status
  constructor
  · rfl
  · intro j hj
    exact getLsbD_setBit_ne status.mstatus value (by simpa using hj)

/-- To leave a field as it is. -/
theorem Touches.id : Touches [] fun status => status := by
  intro status
  exact ⟨rfl, fun _ _ => rfl⟩

/-- One setter after the other. -/
theorem Touches.comp {as bs : List Nat} {f g : Status → Status}
    (hf : Touches as f) (hg : Touches bs g) :
    Touches (as ++ bs) fun status => g (f status) := by
  intro status
  obtain ⟨hfh, hfb⟩ := hf status
  obtain ⟨hgh, hgb⟩ := hg (f status)
  constructor
  · rw [hgh, hfh]
  · intro i hi
    rw [List.mem_append, not_or] at hi
    rw [hgb i hi.2, hfb i hi.1]

/-- More bits may be touched. -/
theorem Touches.mono {as bs : List Nat} {f : Status → Status}
    (hsub : ∀ i, i ∈ as → i ∈ bs) (hf : Touches as f) : Touches bs f := by
  intro status
  obtain ⟨hh, hb⟩ := hf status
  exact ⟨hh, fun i hi => hb i fun hmem => hi (hsub i hmem)⟩

/-- The setter of a two-bit field. -/
theorem Touches.storeU2 (i : Nat) (value : BitVec 2) :
    Touches [i, i + 1] fun status =>
      { status with mstatus := storeU2 status.mstatus i value } := by
  intro status
  constructor
  · rfl
  · intro j hj
    simp only [List.mem_cons, List.not_mem_nil, or_false, not_or] at hj
    exact getLsbD_storeU2_ne status.mstatus value hj.1 hj.2

/-- SD follows from the contexts and changes nothing else. -/
theorem touches_updateSd : Touches [idx.SD] updateSd := by
  intro status
  exact Touches.setField idx.SD _ status

/-- MPP is written or, if the level is reserved, left alone. -/
theorem touches_setMpp (value : RawPrivilegeLevel) :
    Touches [idx.MPP, idx.MPP + 1] (setMpp value) := by
  unfold setMpp
  cases value.toPrivilegeLevel with
  | none => exact Touches.id.mono (by simp)
  | some level => exact Touches.storeU2 idx.MPP _

/-- SPP is written or, if the level is not one of its own, left alone. -/
theorem touches_setSpp (value : RawPrivilegeLevel) :
    Touches [idx.SPP] (setSpp value) := by
  cases value with
  | user => exact Touches.setField idx.SPP false
  | supervisor => exact Touches.setField idx.SPP true
  | reserved => exact Touches.id.mono (by simp)
  | machine => exact Touches.id.mono (by simp)

/-- The setter of FS updates SD as well. -/
theorem touches_setFs (value : BitVec 2) :
    Touches ([idx.FS, idx.FS + 1] ++ [idx.SD]) (setFs value) :=
  (Touches.storeU2 idx.FS value).comp touches_updateSd

theorem touches_setVs (value : BitVec 2) :
    Touches ([idx.VS, idx.VS + 1] ++ [idx.SD]) (setVs value) :=
  (Touches.storeU2 idx.VS value).comp touches_updateSd

/-- What is not touched is the same. -/
theorem bit_of_touches {bits : List Nat} {set : Status → Status} {i : Nat}
    (h : Touches bits set) (hi : i ∉ bits) (status : Status) :
    (set status).bit i = status.bit i := (h status).2 i hi

theorem mpp_of_touches {bits : List Nat} {set : Status → Status}
    (h : Touches bits set) (h0 : idx.MPP ∉ bits) (h1 : idx.MPP + 1 ∉ bits)
    (status : Status) : (set status).mpp = status.mpp := by
  unfold mpp
  rw [loadU2_congr (bit_of_touches h h0 status) (bit_of_touches h h1 status)]

/-! ## The WARL field MPP -/

/-- A level that exists is written as the two bits it was read from. -/
theorem toNat_fromU2 {v : BitVec 2} {level : PrivilegeLevel}
    (h : (RawPrivilegeLevel.fromU2 v).toPrivilegeLevel = some level) :
    BitVec.ofNat 2 level.toNat = v := by
  have hcases : v = 0#2 ∨ v = 1#2 ∨ v = 2#2 ∨ v = 3#2 := by
    decide +revert
  rcases hcases with rfl | rfl | rfl | rfl <;> revert h <;> cases level <;>
    decide

/-- Writing MPP stores the two bits given, or nothing at all. -/
theorem setMpp_fromU2 (v : BitVec 2) (status : Status) :
    setMpp (RawPrivilegeLevel.fromU2 v) status = status ∨
      setMpp (RawPrivilegeLevel.fromU2 v) status =
        { status with mstatus := storeU2 status.mstatus idx.MPP v } := by
  unfold setMpp
  cases h : (RawPrivilegeLevel.fromU2 v).toPrivilegeLevel with
  | none => exact Or.inl rfl
  | some level =>
      right
      show { status with mstatus := storeU2 status.mstatus idx.MPP _ } = _
      rw [toNat_fromU2 h]

/-- What was written to MPP is read back. -/
theorem mpp_setMpp (level : PrivilegeLevel) (status : Status) :
    (setMpp level.toRaw status).mpp = some level := by
  have hraw : level.toRaw.toPrivilegeLevel = some level := by
    cases level <;> rfl
  unfold setMpp mpp
  rw [hraw]
  show (RawPrivilegeLevel.fromU2
    (loadU2 (storeU2 status.mstatus idx.MPP _) idx.MPP)).toPrivilegeLevel = _
  rw [loadU2_storeU2 _ _ (by decide)]
  cases level <;> rfl

/-- MPP never holds the reserved level, so that its accessor does not
panic. -/
def Legal (status : Status) : Prop := status.mpp ≠ none

/-- MPP is U-mode at first. -/
theorem legal_new : Legal new := by
  unfold Legal
  decide

/-- MPP takes no reserved level. -/
theorem legal_setMpp (value : RawPrivilegeLevel) {status : Status}
    (h : Legal status) : Legal (setMpp value status) := by
  cases hraw : value.toPrivilegeLevel with
  | none =>
      unfold setMpp
      rw [hraw]
      exact h
  | some level =>
      have hvalue : value = level.toRaw := by
        revert hraw
        cases value <;> cases level <;> decide
      unfold Legal
      rw [hvalue, mpp_setMpp]
      simp

/-- Other setters leave MPP alone. -/
theorem Legal.of_touches {bits : List Nat} {set : Status → Status}
    {status : Status} (h : Legal status) (hset : Touches bits set)
    (h0 : idx.MPP ∉ bits) (h1 : idx.MPP + 1 ∉ bits) : Legal (set status) := by
  unfold Legal
  rw [mpp_of_touches hset h0 h1]
  exact h

/-! ## Masked writes of mstatus -/

/-- A guarded setter is called or not. -/
theorem update_rule {P : Status → Prop} {set : Status → Status}
    {status : Status} (enabled : Bool)
    (hset : ∀ status, P status → P (set status)) (h : P status) :
    P (update enabled set status) := by
  cases enabled with
  | true => exact hset status h
  | false => exact h

/-- The one-bit fields of mstatus that `write_mstatus` writes. -/
def fieldBits : List Nat :=
  [idx.SIE, idx.MIE, idx.SPIE, idx.UBE, idx.MPIE, idx.MPRV, idx.SUM, idx.MXR,
    idx.TVM, idx.TW, idx.TSR]

/-- What every setter called by `write_mstatus` preserves, with the values
it is called with, the whole write preserves. -/
theorem writeMstatus_rule (P : Status → Prop) {value mask : BitVec 32}
    {status : Status}
    (hfield : ∀ i ∈ fieldBits, ∀ s, P s →
      P (setField i ((merge status.mstatus value mask).getLsbD i) s))
    (hspp : ∀ (level : RawPrivilegeLevel) (s : Status), P s → P (setSpp level s))
    (hvs : ∀ (v : BitVec 2) (s : Status), P s → P (setVs v s))
    (hmpp : ∀ s, P s → P (setMpp (RawPrivilegeLevel.fromU2
      (loadU2 (merge status.mstatus value mask) idx.MPP)) s))
    (hfs : ∀ (v : BitVec 2) (s : Status), P s → P (setFs v s))
    (h : P status) : P (writeMstatus value mask status) := by
  unfold writeMstatus
  apply update_rule _ (hfield idx.TSR (by decide))
  apply update_rule _ (hfield idx.TW (by decide))
  apply update_rule _ (hfield idx.TVM (by decide))
  apply update_rule _ (hfield idx.TVM (by decide))
  apply update_rule _ (hfield idx.MXR (by decide))
  apply update_rule _ (hfield idx.SUM (by decide))
  apply update_rule _ (hfield idx.MPRV (by decide))
  apply update_rule _ (hfs _)
  apply update_rule _ hmpp
  apply update_rule _ (hvs _)
  apply update_rule _ (hspp _)
  apply update_rule _ (hfield idx.MPIE (by decide))
  apply update_rule _ (hfield idx.UBE (by decide))
  apply update_rule _ (hfield idx.SPIE (by decide))
  apply update_rule _ (hfield idx.MIE (by decide))
  apply update_rule _ (hfield idx.SIE (by decide))
  exact h

/-- Once bit `i` has the value it has in `updated`, writing a field from
`updated` leaves it there. -/
theorem bit_setField_updated {updated : BitVec 32} {status : Status}
    {i : Nat} (j : Nat) (h : status.bit i = updated.getLsbD i) :
    (setField j (updated.getLsbD j) status).bit i = updated.getLsbD i := by
  show (setBit status.mstatus j (updated.getLsbD j)).getLsbD i = _
  rw [getLsbD_setBit]
  by_cases hij : i = j ∧ i < 32
  · rw [if_pos hij, hij.1]
  · rw [if_neg hij]
    exact h

/-- The bits of MPP are stored as they are in `updated`, or not at all. -/
theorem bit_setMpp_updated {updated : BitVec 32} {status : Status} {i : Nat}
    (h : status.bit i = updated.getLsbD i) :
    (setMpp (RawPrivilegeLevel.fromU2 (loadU2 updated idx.MPP)) status).bit i
      = updated.getLsbD i := by
  cases setMpp_fromU2 (loadU2 updated idx.MPP) status with
  | inl hsame =>
      rw [hsame]
      exact h
  | inr hstore =>
      rw [hstore]
      show (storeU2 status.mstatus idx.MPP _).getLsbD i = _
      unfold storeU2
      rw [getLsbD_setBit, getLsbD_setBit]
      by_cases hhigh : i = idx.MPP + 1
      · subst hhigh
        rw [if_pos (by decide), getLsbD_loadU2_one]
      · by_cases hlow : i = idx.MPP
        · subst hlow
          rw [if_neg (by decide), if_pos (by decide), getLsbD_loadU2_zero]
        · rw [if_neg fun h => hhigh h.1, if_neg fun h => hlow h.1]
          exact h

/-- A write of mstatus leaves a bit alone that its mask does not select,
outside the fields whose setters touch other bits too. -/
theorem bit_writeMstatus_of_unmasked {value mask : BitVec 32}
    {status : Status} {i : Nat} (hspp : i ∉ [idx.SPP])
    (hvs : i ∉ [idx.VS, idx.VS + 1] ++ [idx.SD])
    (hfs : i ∉ [idx.FS, idx.FS + 1] ++ [idx.SD])
    (hmask : mask.getLsbD i = false) :
    (writeMstatus value mask status).bit i = status.bit i := by
  have hupd : (merge status.mstatus value mask).getLsbD i = status.bit i :=
    getLsbD_merge_of_unmasked _ _ hmask
  rw [← hupd]
  apply writeMstatus_rule fun s =>
    s.bit i = (merge status.mstatus value mask).getLsbD i
  · intro j _ s h
    exact bit_setField_updated j h
  · intro level s h
    rw [bit_of_touches (touches_setSpp level) hspp]
    exact h
  · intro v s h
    rw [bit_of_touches (touches_setVs v) hvs]
    exact h
  · intro s h
    exact bit_setMpp_updated h
  · intro v s h
    rw [bit_of_touches (touches_setFs v) hfs]
    exact h
  · exact hupd.symm

/-- No write of mstatus puts a reserved level into MPP. -/
theorem legal_writeMstatus {value mask : BitVec 32} {status : Status}
    (h : Legal status) : Legal (writeMstatus value mask status) := by
  apply writeMstatus_rule Legal
  · intro i hi s hs
    have hne : idx.MPP ∉ [i] ∧ idx.MPP + 1 ∉ [i] := by
      revert i
      decide
    exact hs.of_touches (Touches.setField i _) hne.1 hne.2
  · intro level s hs
    exact hs.of_touches (touches_setSpp level) (by decide) (by decide)
  · intro v s hs
    exact hs.of_touches (touches_setVs v) (by decide) (by decide)
  · intro s hs
    exact legal_setMpp _ hs
  · intro v s hs
    exact hs.of_touches (touches_setFs v) (by decide) (by decide)
  · exact h

/-- A write of mstatush does not reach MPP. -/
theorem legal_writeMstatush {value mask : BitVec 32} {status : Status}
    (h : Legal status) : Legal (writeMstatush value mask status) := by
  unfold writeMstatush
  apply update_rule (P := Legal)
  · intro status h
    exact h
  · apply update_rule (P := Legal)
    · intro status h
      exact h
    · exact h

theorem mstatush_writeMstatus (value mask : BitVec 32) (status : Status) :
    (writeMstatus value mask status).mstatush = status.mstatush := by
  apply writeMstatus_rule fun s => s.mstatush = status.mstatush
  · intro i _ s hs
    exact hs
  · intro level s hs
    rw [(touches_setSpp level s).1, hs]
  · intro v s hs
    rw [(touches_setVs v s).1, hs]
  · intro s hs
    rw [(touches_setMpp _ s).1, hs]
  · intro v s hs
    rw [(touches_setFs v s).1, hs]
  · rfl

/-- The machine-level fields of mstatus: they are not visible in sstatus. -/
def machineBits : List Nat :=
  [idx.MIE, idx.MPIE, idx.MPP, idx.MPP + 1, idx.MPRV, idx.TVM, idx.TW, idx.TSR]

theorem bit_writeSstatus {value mask : BitVec 32} {status : Status} {i : Nat}
    (hi : i ∈ machineBits) :
    (writeSstatus value mask status).bit i = status.bit i := by
  have hout : SSTATUS_MASK.getLsbD i = false ∧ i ∉ [idx.SPP] ∧
      i ∉ [idx.VS, idx.VS + 1] ++ [idx.SD] ∧
      i ∉ [idx.FS, idx.FS + 1] ++ [idx.SD] := by
    revert i
    decide
  obtain ⟨hmask, hspp, hvs, hfs⟩ := hout
  apply bit_writeMstatus_of_unmasked hspp hvs hfs
  rw [BitVec.getLsbD_and, hmask, Bool.and_false]

end Status

end RedPlanet.Core
