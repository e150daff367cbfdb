import RedPlanet.Core.Levels

/-!
# Writes of mstatus

What `write_mstatus` does to each bit of mstatus, and when that is the masked
write its parameters describe.

`MaskedWrite` is the specification: `mask` selects, a selected field gets its
value from `value`, and a field that cannot hold the value keeps its own.
The code tests `value` where it should test `mask`, so a write that is to
clear a field does nothing to it.  `Clears` says that a write is to do this,
and `mstatus_writes_iff` that the code meets the specification, and with it
every CSR instruction on mstatus its own, exactly for the writes that do not.
-/

namespace RedPlanet.Core

open RedPlanet.Verified

namespace Status

/-! ## What one guarded setter does to a bit -/

theorem bit_update_setField (enabled value : Bool) {j : Nat} (hj : j < 32)
    (status : Status) (i : Nat) :
    (update enabled (setField j value) status).bit i
      = if enabled = true ∧ i = j then value else status.bit i := by
  cases enabled with
  | true =>
      show (setBit status.mstatus j value).getLsbD i = _
      rw [getLsbD_setBit]
      by_cases hij : i = j
      · rw [if_pos ⟨hij, by omega⟩, if_pos ⟨rfl, hij⟩]
      · rw [if_neg fun h => hij h.1, if_neg fun h => hij h.2]
        rfl
  | false =>
      rw [if_neg fun h => Bool.false_ne_true h.1]
      rfl

/-- The setter of SPP, whose levels are its two values. -/
theorem bit_update_setSpp (enabled value : Bool) (status : Status) (i : Nat) :
    (update enabled (setSpp (if value then .supervisor else .user)) status).bit
        i
      = if enabled = true ∧ i = idx.SPP then value else status.bit i := by
  have hset : setSpp (if value then .supervisor else .user)
      = setField idx.SPP value := by
    cases value <;> rfl
  rw [hset]
  exact bit_update_setField enabled value (by decide) status i

/-- A two-bit field is two bits. -/
theorem bit_storeU2 (status : Status) {j : Nat} (hj : j + 1 < 32)
    (value : BitVec 2) (i : Nat) :
    (storeU2 status.mstatus j value).getLsbD i
      = if i = j then value.getLsbD 0
        else if i = j + 1 then value.getLsbD 1 else status.bit i := by
  unfold storeU2
  rw [getLsbD_setBit, getLsbD_setBit]
  by_cases hlow : i = j
  · rw [if_neg (by omega), if_pos (by omega), if_pos hlow]
  · by_cases hhigh : i = j + 1
    · rw [if_pos (by omega), if_neg hlow, if_pos hhigh]
    · rw [if_neg (by omega), if_neg (by omega), if_neg hlow, if_neg hhigh]
      rfl

/-- A setter of an extension context field, which updates SD as well. -/
theorem bit_update_setContext (enabled : Bool) {j : Nat} (hj : j + 1 < 31)
    (value : BitVec 2) (status : Status) {i : Nat} (hi : i ≠ idx.SD) :
    (update enabled (fun status =>
        updateSd { status with mstatus := storeU2 status.mstatus j value })
        status).bit i
      = if enabled = true ∧ i = j then value.getLsbD 0
        else if enabled = true ∧ i = j + 1 then value.getLsbD 1
        else status.bit i := by
  cases enabled with
  | true =>
      have hsd := bit_of_touches touches_updateSd (i := i) (by simpa using hi)
        { status with mstatus := storeU2 status.mstatus j value }
      show (updateSd { status with
        mstatus := storeU2 status.mstatus j value }).bit i = _
      rw [hsd]
      show (storeU2 status.mstatus j value).getLsbD i = _
      rw [bit_storeU2 status (by omega)]
      simp
  | false =>
      rw [if_neg fun h => Bool.false_ne_true h.1,
        if_neg fun h => Bool.false_ne_true h.1]
      rfl

/-- The guarded setter of VS. -/
theorem bit_update_setVs (enabled : Bool) (value : BitVec 2)
    (status : Status) {i : Nat} (hi : i ≠ idx.SD) :
    (update enabled (setVs value) status).bit i
      = if enabled = true ∧ i = idx.VS then value.getLsbD 0
        else if enabled = true ∧ i = idx.VS + 1 then value.getLsbD 1
        else status.bit i :=
  bit_update_setContext enabled (by decide) value status hi

/-- The guarded setter of FS. -/
theorem bit_update_setFs (enabled : Bool) (value : BitVec 2)
    (status : Status) {i : Nat} (hi : i ≠ idx.SD) :
    (update enabled (setFs value) status).bit i
      = if enabled = true ∧ i = idx.FS then value.getLsbD 0
        else if enabled = true ∧ i = idx.FS + 1 then value.getLsbD 1
        else status.bit i :=
  bit_update_setContext enabled (by decide) value status hi

/-- Two is the reserved level. -/
theorem toPrivilegeLevel_fromU2 (value : BitVec 2) (h : value ≠ 2) :
    ∃ level, (RawPrivilegeLevel.fromU2 value).toPrivilegeLevel = some level := by
  have hsome : (RawPrivilegeLevel.fromU2 value).toPrivilegeLevel.isSome := by
    revert h
    revert value
    decide
  exact Option.isSome_iff_exists.1 hsome

/-- The guarded setter of MPP, which ignores the reserved level. -/
theorem bit_update_setMpp (enabled : Bool) (value : BitVec 2)
    (status : Status) (i : Nat) :
    (update enabled (setMpp (RawPrivilegeLevel.fromU2 value)) status).bit i
      = if (enabled = true ∧ value ≠ 2) ∧ i = idx.MPP then value.getLsbD 0
        else if (enabled = true ∧ value ≠ 2) ∧ i = idx.MPP + 1 then
          value.getLsbD 1
        else status.bit i := by
  by_cases hwrite : enabled = true ∧ value ≠ 2
  · obtain ⟨level, hlevel⟩ := toPrivilegeLevel_fromU2 value hwrite.2
    have hset : setMpp (RawPrivilegeLevel.fromU2 value) status
        = { status with mstatus := storeU2 status.mstatus idx.MPP value } := by
      unfold setMpp
      rw [hlevel, ← toNat_fromU2 hlevel]
    rw [hwrite.1]
    show (setMpp (RawPrivilegeLevel.fromU2 value) status).bit i = _
    rw [hset]
    show (storeU2 status.mstatus idx.MPP value).getLsbD i = _
    rw [bit_storeU2 status (by decide)]
    have hne := hwrite.2
    simp only [ne_eq, hne, not_false_eq_true, true_and]
  · have hsame : update enabled (setMpp (RawPrivilegeLevel.fromU2 value)) status
        = status := by
      cases enabled with
      | true =>
          have hreserved : value = 2 := by
            by_contra hne
            exact hwrite ⟨rfl, hne⟩
          rw [hreserved]
          rfl
      | false => rfl
    rw [hsame, if_neg fun h => hwrite h.1, if_neg fun h => hwrite h.1]

/-! ## What the whole write does to a field -/

/-- The one-bit fields of mstatus that can be written. -/
def flagBits : List Nat := idx.SPP :: fieldBits

/-- The first bits of the two-bit fields. -/
def wideBits : List Nat := [idx.VS, idx.MPP, idx.FS]

variable (value mask : BitVec 32) (status : Status)

/-- Every bit of mstatus but SD after a write, one guarded setter at a
time. -/
theorem bit_writeMstatus {i : Nat} (hi : i ≠ idx.SD) :
    (writeMstatus value mask status).bit i
      = if i ∈ flagBits then
          if value.getLsbD i then (merge status.mstatus value mask).getLsbD i
          else status.bit i
        else if i = idx.VS ∨ i = idx.VS + 1 then
          if value.getLsbD idx.VS || value.getLsbD (idx.VS + 1) then
            (merge status.mstatus value mask).getLsbD i
          else status.bit i
        else if i = idx.MPP ∨ i = idx.MPP + 1 then
          if (value.getLsbD idx.MPP || value.getLsbD (idx.MPP + 1)) = true ∧
              loadU2 (merge status.mstatus value mask) idx.MPP ≠ 2 then
            (merge status.mstatus value mask).getLsbD i
          else status.bit i
        else if i = idx.FS ∨ i = idx.FS + 1 then
          if value.getLsbD idx.FS || value.getLsbD (idx.FS + 1) then
            (merge status.mstatus value mask).getLsbD i
          else status.bit i
        else status.bit i := by
  unfold writeMstatus setSie setMie setSpie setUbe setMpie setMprv setSum setMxr
    setTvm setTw setTsr
  dsimp only
  rw [bit_update_setField _ _ (by decide), bit_update_setField _ _ (by decide),
    bit_update_setField _ _ (by decide), bit_update_setField _ _ (by decide),
    bit_update_setField _ _ (by decide), bit_update_setField _ _ (by decide),
    bit_update_setField _ _ (by decide), bit_update_setFs _ _ _ hi,
    bit_update_setMpp, bit_update_setVs _ _ _ hi, bit_update_setSpp,
    bit_update_setField _ _ (by decide), bit_update_setField _ _ (by decide),
    bit_update_setField _ _ (by decide), bit_update_setField _ _ (by decide),
    bit_update_setField _ _ (by decide), getLsbD_loadU2_zero,
    getLsbD_loadU2_zero, getLsbD_loadU2_zero, getLsbD_loadU2_one,
    getLsbD_loadU2_one, getLsbD_loadU2_one]
  by_cases hflag : i ∈ flagBits
  · have hwide : i ≠ idx.VS + 1 ∧ i ≠ idx.MPP + 1 ∧ i ≠ idx.FS + 1 := by
      clear hi
      revert i
      decide
    rw [if_pos hflag]
    simp only [hwide, and_false, if_false]
    simp only [flagBits, fieldBits, List.mem_cons, List.not_mem_nil,
      or_false] at hflag
    rcases hflag with rfl | rfl | rfl | rfl | rfl | rfl | rfl | rfl | rfl | rfl
      | rfl | rfl <;> simp +contextual
  · rw [if_neg hflag]
    simp only [flagBits, fieldBits, List.mem_cons, List.not_mem_nil,
      or_false, not_or] at hflag
    simp only [hflag, and_false, if_false]
    grind

/-! ## The masked write that mstatus is meant to get -/

/-- A value that the two-bit field at `i` can hold: MPP has a reserved
level. -/
def LegalWide (i : Nat) (field : BitVec 2) : Prop := i = idx.MPP → field ≠ 2

instance (i : Nat) (field : BitVec 2) : Decidable (LegalWide i field) :=
  inferInstanceAs (Decidable (_ → _))

/-- `after` is `before` with the fields that `mask` selects taken from
`value`: one-bit fields bit by bit, two-bit fields merged and ignored when
they come out reserved, and nothing else but SD. -/
structure MaskedWrite (value mask : BitVec 32) (before after : Status) :
    Prop where
  flag : ∀ i ∈ flagBits,
    after.bit i = if mask.getLsbD i then value.getLsbD i else before.bit i
  wide : ∀ i ∈ wideBits, LegalWide i (loadU2 (merge before.mstatus value mask) i) →
    loadU2 after.mstatus i = loadU2 (merge before.mstatus value mask) i
  kept : ∀ i ∈ wideBits, ¬ LegalWide i (loadU2 (merge before.mstatus value mask) i) →
    loadU2 after.mstatus i = loadU2 before.mstatus i
  other : ∀ i, i ∉ flagBits → (∀ j ∈ wideBits, i ≠ j ∧ i ≠ j + 1) →
    i ≠ idx.SD → after.bit i = before.bit i

/-- The write is to clear a one-bit field, or to change a two-bit field where
`value` has zeros. -/
def Clears (value mask : BitVec 32) (status : Status) : Prop :=
  (∃ i ∈ flagBits, mask.getLsbD i = true ∧ value.getLsbD i = false ∧
    status.bit i = true) ∨
  ∃ i ∈ wideBits, loadU2 value i = 0 ∧
    LegalWide i (loadU2 (merge status.mstatus value mask) i) ∧
    loadU2 (merge status.mstatus value mask) i ≠ loadU2 status.mstatus i

instance : Decidable (Clears value mask status) :=
  inferInstanceAs (Decidable (_ ∨ _))

/-- A one-bit field is written when its bit is set in `value`. -/
theorem bit_writeMstatus_flag {i : Nat} (hi : i ∈ flagBits) :
    (writeMstatus value mask status).bit i
      = if value.getLsbD i then (merge status.mstatus value mask).getLsbD i
        else status.bit i := by
  have hsd : i ≠ idx.SD := by
    revert i
    decide
  rw [bit_writeMstatus value mask status hsd, if_pos hi]

/-- A two-bit field is zero iff neither of its bits is set. -/
theorem loadU2_eq_zero_iff {w : Nat} (x : BitVec w) (i : Nat) :
    loadU2 x i = 0 ↔ (x.getLsbD i || x.getLsbD (i + 1)) = false := by
  rw [← getLsbD_loadU2_zero, ← getLsbD_loadU2_one]
  generalize loadU2 x i = field
  revert field
  decide

/-- A two-bit field whose two bits were written under the same condition. -/
theorem loadU2_of_bits {w i : Nat} {c : Prop} [Decidable c]
    {after merged before : BitVec w}
    (h0 : after.getLsbD i = if c then merged.getLsbD i else before.getLsbD i)
    (h1 : after.getLsbD (i + 1)
      = if c then merged.getLsbD (i + 1) else before.getLsbD (i + 1)) :
    loadU2 after i = if c then loadU2 merged i else loadU2 before i := by
  by_cases hc : c
  · rw [if_pos hc] at h0 h1 ⊢
    exact loadU2_congr h0 h1
  · rw [if_neg hc] at h0 h1 ⊢
    exact loadU2_congr h0 h1

/-- A two-bit field is written when `value` has a bit of it, with the merged
bits if these are legal. -/
theorem loadU2_writeMstatus {i : Nat} (hi : i ∈ wideBits) :
    loadU2 (writeMstatus value mask status).mstatus i
      = if (value.getLsbD i || value.getLsbD (i + 1)) = true ∧
            LegalWide i (loadU2 (merge status.mstatus value mask) i) then
          loadU2 (merge status.mstatus value mask) i
        else loadU2 status.mstatus i := by
  have hlow : i ≠ idx.SD ∧ i + 1 ≠ idx.SD ∧ i ∉ flagBits ∧
      i + 1 ∉ flagBits := by
    revert i
    decide
  have hbit0 := bit_writeMstatus value mask status hlow.1
  have hbit1 := bit_writeMstatus value mask status hlow.2.1
  rw [if_neg hlow.2.2.1] at hbit0
  rw [if_neg hlow.2.2.2] at hbit1
  apply loadU2_of_bits
  · refine hbit0.trans ?_
    simp only [wideBits, List.mem_cons, List.not_mem_nil, or_false] at hi
    rcases hi with rfl | rfl | rfl <;> grind [LegalWide, bit]
  · refine hbit1.trans ?_
    simp only [wideBits, List.mem_cons, List.not_mem_nil, or_false] at hi
    rcases hi with rfl | rfl | rfl <;> grind [LegalWide, bit]

/-- The bits that are no field, SD apart, are never written. -/
theorem bit_writeMstatus_other {i : Nat} (hflag : i ∉ flagBits)
    (hwide : ∀ j ∈ wideBits, i ≠ j ∧ i ≠ j + 1) (hsd : i ≠ idx.SD) :
    (writeMstatus value mask status).bit i = status.bit i := by
  have hvs := hwide idx.VS (by decide)
  have hmpp := hwide idx.MPP (by decide)
  have hfs := hwide idx.FS (by decide)
  rw [bit_writeMstatus value mask status hsd, if_neg hflag, if_neg (by omega),
    if_neg (by omega), if_neg (by omega)]

/-- A one-bit field comes out right unless it is to be cleared. -/
theorem writeMstatus_flag_iff {i : Nat} (hi : i ∈ flagBits) :
    (writeMstatus value mask status).bit i
        = (if mask.getLsbD i then value.getLsbD i else status.bit i) ↔
      ¬ (mask.getLsbD i = true ∧ value.getLsbD i = false ∧
        status.bit i = true) := by
  rw [bit_writeMstatus_flag value mask status hi, getLsbD_merge]
  cases hv : value.getLsbD i <;> cases hm : mask.getLsbD i <;>
    cases hs : status.bit i <;> simp [bit] at hs ⊢ <;> simp [hs]

/-- A two-bit field comes out right unless `value` has zeros there and the
merge changes it. -/
theorem writeMstatus_wide_iff {i : Nat} (hi : i ∈ wideBits)
    (hlegal : LegalWide i (loadU2 (merge status.mstatus value mask) i)) :
    loadU2 (writeMstatus value mask status).mstatus i
        = loadU2 (merge status.mstatus value mask) i ↔
      ¬ (loadU2 value i = 0 ∧
        loadU2 (merge status.mstatus value mask) i
          ≠ loadU2 status.mstatus i) := by
  rw [loadU2_writeMstatus value mask status hi]
  by_cases hvalue : (value.getLsbD i || value.getLsbD (i + 1)) = true
  · have hne : loadU2 value i ≠ 0 := by
      rw [ne_eq, loadU2_eq_zero_iff, hvalue]
      decide
    rw [if_pos ⟨hvalue, hlegal⟩]
    constructor
    · intro _ h
      exact hne h.1
    · intro _
      rfl
  · have hzero : loadU2 value i = 0 := by
      rw [loadU2_eq_zero_iff, ← Bool.not_eq_true]
      exact hvalue
    rw [if_neg fun h => hvalue h.1]
    constructor
    · intro h hclear
      exact hclear.2 h.symm
    · intro h
      by_contra hne
      exact h ⟨hzero, fun heq => hne heq.symm⟩

/-- `write_mstatus` does the masked write its parameters describe iff this
write clears nothing. -/
theorem maskedWrite_writeMstatus_iff :
    MaskedWrite value mask status (writeMstatus value mask status) ↔
      ¬ Clears value mask status := by
  constructor
  · intro h hclears
    cases hclears with
    | inl hflag =>
        obtain ⟨i, hi, hbad⟩ := hflag
        exact (writeMstatus_flag_iff value mask status hi).1 (h.flag i hi) hbad
    | inr hwide =>
        obtain ⟨i, hi, hzero, hlegal, hne⟩ := hwide
        exact (writeMstatus_wide_iff value mask status hi hlegal).1
          (h.wide i hi hlegal) ⟨hzero, hne⟩
  · intro h
    refine { flag := ?_, wide := ?_, kept := ?_, other := ?_ }
    · intro i hi
      apply (writeMstatus_flag_iff value mask status hi).2
      intro hbad
      exact h (Or.inl ⟨i, hi, hbad⟩)
    · intro i hi hlegal
      apply (writeMstatus_wide_iff value mask status hi hlegal).2
      rintro ⟨hzero, hne⟩
      exact h (Or.inr ⟨i, hi, hzero, hlegal, hne⟩)
    · intro i hi hreserved
      rw [loadU2_writeMstatus value mask status hi,
        if_neg fun hwrite => hreserved hwrite.2]
    · intro i hflag hwide hsd
      exact bit_writeMstatus_other value mask status hflag hwide hsd

/-- A masked write is given by the merged word. -/
theorem MaskedWrite.congr {value' mask' : BitVec 32} {before after : Status}
    (hmerge : merge before.mstatus value mask
      = merge before.mstatus value' mask') :
    MaskedWrite value mask before after ↔
      MaskedWrite value' mask' before after := by
  have hbit : ∀ i, (if mask.getLsbD i then value.getLsbD i else before.bit i)
      = if mask'.getLsbD i then value'.getLsbD i else before.bit i := by
    intro i
    have h := congrArg (BitVec.getLsbD · i) hmerge
    simp only [getLsbD_merge] at h
    exact h
  constructor
  · intro h
    refine ⟨?_, hmerge ▸ h.wide, hmerge ▸ h.kept, h.other⟩
    intro i hi
    rw [← hbit]
    exact h.flag i hi
  · intro h
    refine ⟨?_, hmerge.symm ▸ h.wide, hmerge.symm ▸ h.kept, h.other⟩
    intro i hi
    rw [hbit]
    exact h.flag i hi

/-- With nothing to write, the register keeps what it has. -/
theorem maskedWrite_unmasked : MaskedWrite value 0#32 status status := by
  constructor
  · intro i _
    simp
  · intro i _ _
    rw [merge_zero_mask]
  · intro i _ _
    rfl
  · intro i _ _ _
    rfl

/-- A write that selects nothing clears nothing. -/
theorem not_clears_unmasked : ¬ Clears value 0#32 status := by
  rintro (⟨i, _, hmask, _⟩ | ⟨i, _, _, _, hne⟩)
  · simp at hmask
  · rw [merge_zero_mask] at hne
    exact hne rfl

end Status

/-! ## CSR instructions on mstatus -/

/-- The number of mstatus. -/
def MSTATUS : CsrSpecifier := 0x300

/-- What a CSR instruction is to leave in a register that holds `old`. -/
def csrTarget (op : CsrOp) (src old : BitVec 32) : BitVec 32 :=
  match op with
  | .readWrite => src
  | .readSet => old ||| src
  | .readClear => old &&& ~~~src

/-- The operand of an instruction merges to its target. -/
theorem merge_csrTarget (op : CsrOp) (src old : BitVec 32) :
    merge old (csrTarget op src old) 0xFFFFFFFF
      = merge old (csrOperand op src).1 (csrOperand op src).2 := by
  have hones : (0xFFFFFFFF : BitVec 32) = BitVec.allOnes 32 := by decide
  apply BitVec.eq_of_getLsbD_eq
  intro i hi
  cases op <;> simp only [csrTarget, csrOperand, hones, getLsbD_merge,
    BitVec.getLsbD_allOnes, hi, decide_true, if_true, BitVec.getLsbD_or,
    BitVec.getLsbD_and, BitVec.getLsbD_not, Bool.true_and] <;>
    cases src.getLsbD i <;> simp

variable {β : Type}

/-- The operation of a CSR instruction on mstatus. -/
def mstatusOp : Instruction → Option CsrOp
  | .csr op _ csr _ | .csri op _ csr _ => if csr = MSTATUS then some op else none
  | _ => none

/-- The operand of a CSR instruction: `x0` and the immediate zero read as
zero. -/
def csrSourceValue (s : State β) (instruction : Instruction) : BitVec 32 :=
  (csrSource s instruction).getD 0

/-- Only a set or clear goes without a write. -/
theorem csrOperand_of_csrSource_none {instruction : Instruction} {op : CsrOp}
    {s : State β} (hop : mstatusOp instruction = some op)
    (hsrc : csrSource s instruction = none) (src : BitVec 32) :
    (csrOperand op src).2 = src := by
  cases op with
  | readSet => rfl
  | readClear => rfl
  | readWrite =>
      unfold mstatusOp at hop
      split at hop <;> simp_all [csrSource]

variable [SystemBus β]

/-- In M-mode a CSR instruction on mstatus reads it and makes its write. -/
theorem csrOpAt_MSTATUS (config : Config) (op : CsrOp) (dest : Specifier)
    (srcValue : Option (BitVec 32)) (s : State β) :
    ∃ t, csrOpAt config .machine op dest MSTATUS srcValue s = .ok () t ∧
      t.status = srcValue.elim s.status fun src =>
        Status.writeMstatus (csrOperand op src).1 (csrOperand op src).2
          s.status := by
  unfold csrOpAt
  by_cases hread : op ≠ .readWrite ∨ dest ≠ 0
  · rw [if_pos hread]
    cases srcValue with
    | none => exact ⟨_, rfl, rfl⟩
    | some src => exact ⟨_, rfl, rfl⟩
  · rw [if_neg hread]
    cases srcValue with
    | none => exact ⟨_, rfl, rfl⟩
    | some src => exact ⟨_, rfl, rfl⟩

variable [Build]

/-- The instruction leaves its target in mstatus, as far as the fields can
hold it. -/
def HitsTarget (config : Config) (op : CsrOp) (instruction : Instruction)
    (s : State β) : Prop :=
  ∃ t, executeInstruction config instruction s = .ok () t ∧
    Status.MaskedWrite
      (csrTarget op (csrSourceValue s instruction) s.status.mstatus) 0xFFFFFFFF
      s.status t.status

/-- Both forms of a CSR instruction are one operation. -/
theorem executeInstruction_mstatusOp {instruction : Instruction} {op : CsrOp}
    (hop : mstatusOp instruction = some op) (config : Config) (s : State β) :
    ∃ dest, executeInstruction config instruction s
      = csrOpAt config s.privilegeMode op dest MSTATUS (csrSource s instruction)
          s := by
  unfold mstatusOp at hop
  split at hop
  · split at hop
    · rename_i hcsr
      cases hop
      rw [hcsr]
      exact ⟨_, rfl⟩
    · cases hop
  · split at hop
    · rename_i hcsr
      cases hop
      rw [hcsr]
      exact ⟨_, rfl⟩
    · cases hop
  · cases hop

/-- An instruction hits its target iff the write it makes clears nothing. -/
theorem hitsTarget_iff (config : Config) {op : CsrOp} {instruction : Instruction}
    {s : State β} (hmode : s.privilegeMode = .machine)
    (hop : mstatusOp instruction = some op) :
    HitsTarget config op instruction s ↔
      ¬ Status.Clears (csrOperand op (csrSourceValue s instruction)).1
        (csrOperand op (csrSourceValue s instruction)).2 s.status := by
  obtain ⟨dest, hrun⟩ := executeInstruction_mstatusOp hop config s
  obtain ⟨t, ht, hstatus⟩ :=
    csrOpAt_MSTATUS config op dest (csrSource s instruction) s
  rw [hmode, ht] at hrun
  have hhits : HitsTarget config op instruction s ↔
      Status.MaskedWrite (csrOperand op (csrSourceValue s instruction)).1
        (csrOperand op (csrSourceValue s instruction)).2 s.status t.status := by
    rw [← Status.MaskedWrite.congr _ _ (merge_csrTarget _ _ _)]
    constructor
    · rintro ⟨t', ht', h⟩
      rw [hrun] at ht'
      cases ht'
      exact h
    · intro h
      exact ⟨t, hrun, h⟩
  rw [hhits, hstatus]
  cases hsrc : csrSource s instruction with
  | some src =>
      have hvalue : csrSourceValue s instruction = src := by
        rw [csrSourceValue, hsrc]
        rfl
      rw [hvalue]
      exact Status.maskedWrite_writeMstatus_iff _ _ _
  | none =>
      have hvalue : csrSourceValue s instruction = 0 := by
        rw [csrSourceValue, hsrc]
        rfl
      have hmask := csrOperand_of_csrSource_none hop hsrc 0
      rw [hvalue, hmask]
      exact iff_of_true (Status.maskedWrite_unmasked _ _)
        (Status.not_clears_unmasked _ _)

/-- `write_mstatus` is the masked write its parameters describe, and an M-mode
CSR instruction on mstatus leaves its target there, iff what is written clears
nothing. -/
theorem mstatus_writes_iff (config : Config) (value mask : BitVec 32)
    (s : State β) :
    (Status.MaskedWrite value mask s.status
        (Status.writeMstatus value mask s.status) ↔
      ¬ Status.Clears value mask s.status) ∧
    ∀ instruction op, s.privilegeMode = .machine →
      mstatusOp instruction = some op →
      (HitsTarget config op instruction s ↔
        ¬ Status.Clears (csrOperand op (csrSourceValue s instruction)).1
          (csrOperand op (csrSourceValue s instruction)).2 s.status) :=
  ⟨Status.maskedWrite_writeMstatus_iff value mask s.status,
    fun _ _ hmode hop => hitsTarget_iff config hmode hop⟩

/-- Setting MIE after reset. -/
theorem hitsTarget_set_mie :
    HitsTarget NoDevices.config .readSet (.csri .readSet 0 MSTATUS 8)
      (State.new NoDevices.config NoDevices.unit) :=
  ((@mstatus_writes_iff NoDevices _ Build.debug NoDevices.config 0 0
    (State.new NoDevices.config NoDevices.unit)).2
      (.csri .readSet 0 MSTATUS 8) .readSet rfl rfl).2 (by decide)

omit [Build] in
/-- Clearing MIE is lost: the bit of `value` is zero. -/
theorem not_maskedWrite_clear_mie :
    ¬ Status.MaskedWrite 0 8 { mstatus := 8, mstatush := 0 }
      (Status.writeMstatus 0 8 { mstatus := 8, mstatush := 0 }) := by
  intro h
  have hflag := h.flag idx.MIE (by decide)
  revert hflag
  decide

end RedPlanet.Core
