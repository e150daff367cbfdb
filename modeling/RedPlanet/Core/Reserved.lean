import RedPlanet.Core.Encode

/-!
# Reserved encodings

Which words the decoder of `instruction.rs` gives back: re-encoding what they
decode to yields the word itself.  Three opcodes have fixed fields that the
decoder does not look at, and a word is given back exactly when those fields
have their required value (`givenBack_iff`).

The formats come first: putting the fields of a word together again yields
the word.  Then, for each function that looks a field up, what the field is
if it succeeds.  `givenBack_of_opcode` combines these for the opcodes that
are checked in full, and the three others have a lemma each.
-/

namespace RedPlanet.Core

open RedPlanet.Verified

/-! ## Immediates put back in place -/

/-- A word in the I-format. -/
theorem iType_iImm (raw : BitVec 32) :
    iType (iImm raw) (rs1 raw) (raw.extractLsb' 12 3) (rd raw)
      (raw.extractLsb' 0 7) = raw := by
  apply BitVec.eq_of_getLsbD_eq
  intro i hi
  have himm := fun j (hj : j < 12) => @getLsbD_iImm raw j (by omega)
  unfold iType Specifier.bits rs1 rd specifierAt
  simp only [getLsbD_word, BitVec.getLsbD_extractLsb', BitVec.ofFin_toFin]
  grind

/-- A word in the S-format, whose immediate is in two pieces. -/
theorem sType_sImm (raw : BitVec 32) :
    sType (sImm raw) (rs2 raw) (rs1 raw) (raw.extractLsb' 12 3)
      (raw.extractLsb' 0 7) = raw := by
  apply BitVec.eq_of_getLsbD_eq
  intro i hi
  have himm := fun j (hj : j < 12) => @getLsbD_sImm raw j (by omega)
  unfold sType Specifier.bits rs1 rs2 specifierAt
  simp only [getLsbD_word, BitVec.getLsbD_extractLsb', BitVec.ofFin_toFin]
  grind

/-- A word in the B-format, whose immediate has a bit out of order. -/
theorem bType_bImm (raw : BitVec 32) :
    bType (bImm raw) (rs2 raw) (rs1 raw) (raw.extractLsb' 12 3)
      (raw.extractLsb' 0 7) = raw := by
  apply BitVec.eq_of_getLsbD_eq
  intro i hi
  have himm := fun j (hj : j < 13) => @getLsbD_bImm raw j (by omega)
  unfold bType Specifier.bits rs1 rs2 specifierAt
  simp only [getLsbD_word, BitVec.getLsbD_extractLsb', BitVec.getLsbD_append,
    BitVec.ofFin_toFin]
  grind

/-- A word in the U-format. -/
theorem uType_uImm (raw : BitVec 32) :
    uType (uImm raw) (rd raw) (raw.extractLsb' 0 7) = raw := by
  apply BitVec.eq_of_getLsbD_eq
  intro i hi
  have himm := fun j (hj : j < 32) => @getLsbD_uImm raw j hj
  unfold uType Specifier.bits rd specifierAt
  simp only [getLsbD_word, BitVec.getLsbD_extractLsb', BitVec.ofFin_toFin]
  grind

/-- A word in the J-format, whose immediate is in four pieces. -/
theorem jType_jImm (raw : BitVec 32) :
    jType (jImm raw) (rd raw) (raw.extractLsb' 0 7) = raw := by
  apply BitVec.eq_of_getLsbD_eq
  intro i hi
  have himm := fun j (hj : j < 21) => @getLsbD_jImm raw j (by omega)
  unfold jType Specifier.bits rd specifierAt
  simp only [getLsbD_word, BitVec.getLsbD_extractLsb', BitVec.getLsbD_append,
    BitVec.ofFin_toFin]
  grind

/-- The number of a CSR stands in the place of an I-immediate. -/
theorem csrField_high (raw : BitVec 32) :
    ((csrField raw).setWidth 32).extractLsb' 5 7 = raw.extractLsb' 25 7 := by
  unfold csrField
  apply BitVec.eq_of_getLsbD_eq
  intro i hi
  simp only [BitVec.getLsbD_extractLsb', BitVec.getLsbD_setWidth,
    BitVec.getLsbD_ushiftRight]
  grind

/-- A shift amount stands in the lower bits of that place. -/
theorem csrField_low (raw : BitVec 32) :
    ((csrField raw).setWidth 32).extractLsb' 0 5 = raw.extractLsb' 20 5 := by
  unfold csrField
  apply BitVec.eq_of_getLsbD_eq
  intro i hi
  simp only [BitVec.getLsbD_extractLsb', BitVec.getLsbD_setWidth,
    BitVec.getLsbD_ushiftRight]
  grind

/-- A word in the R-format. -/
theorem rType_fields (raw : BitVec 32) :
    rType (raw.extractLsb' 25 7) (rs2 raw) (rs1 raw) (raw.extractLsb' 12 3)
      (rd raw) (raw.extractLsb' 0 7) = raw :=
  word_extractLsb' raw

/-! ## Function codes of what was decoded -/

/-- The opcode determines the lowest seven bits. -/
theorem bits_of_opcode {raw : BitVec 32} {o : Opcode}
    (h : opcode raw = some o) : raw.extractLsb' 0 7 = o.bits := by
  have hnat : (raw &&& 0x7F).toNat = (raw.extractLsb' 0 7).toNat := by
    rw [opcode_eq]
    exact BitVec.toNat_setWidth_of_le (by decide)
  unfold opcode at h
  rw [hnat] at h
  apply BitVec.eq_of_toNat_eq
  split at h <;> cases h <;> assumption

/-- The operation with an immediate determines funct3. -/
theorem funct3_of_iFunct {raw : BitVec 32} {op : RegImmOp}
    (h : iFunct raw = some op) : raw.extractLsb' 12 3 = op.funct3 := by
  unfold iFunct at h
  rw [funct3_eq] at h
  apply BitVec.eq_of_toNat_eq
  split at h <;> cases h <;> assumption

/-- The operation on two registers determines funct3 and funct7. -/
theorem fields_of_rFunct {raw : BitVec 32} {op : RegRegOp}
    (h : rFunct raw = some op) : raw.extractLsb' 12 3 = op.funct3 ∧
      raw.extractLsb' 25 7 = op.funct7 := by
  unfold rFunct at h
  rw [funct3_eq, funct7_eq] at h
  constructor <;> apply BitVec.eq_of_toNat_eq <;> split at h <;> cases h <;>
    assumption

/-- The shift by an immediate determines funct3, but funct7 in one bit only.
-/
theorem funct3_of_iShfunct {raw : BitVec 32} {op : RegShiftImmOp}
    (h : iShfunct raw = some op) : raw.extractLsb' 12 3 = op.funct3 := by
  unfold iShfunct at h
  rw [funct3_eq] at h
  apply BitVec.eq_of_toNat_eq
  split at h <;> cases h <;> assumption

/-- The AMO determines the width and funct5. -/
theorem fields_of_amoOp {raw : BitVec 32} {op : AmoOp}
    (h : amoOp raw = some op) : raw.extractLsb' 12 3 = 0b010 ∧
      raw.extractLsb' 27 5 = op.funct5 := by
  have hdiv : (raw.extractLsb' 25 7).toNat / 2 ^ 2 =
      (raw.extractLsb' 27 5).toNat := by
    simp only [BitVec.extractLsb'_toNat]
    omega
  unfold amoOp at h
  rw [funct3_eq, funct7_eq, hdiv] at h
  split at h
  · cases h
  · constructor
    · apply BitVec.eq_of_toNat_eq
      exact not_not.mp ‹_›
    · apply BitVec.eq_of_toNat_eq
      split at h <;> cases h <;> assumption

/-- The condition of a branch determines funct3. -/
theorem funct3_of_bFunct {raw : BitVec 32} {condition : BranchCondition}
    (h : bFunct raw = some condition) :
    raw.extractLsb' 12 3 = condition.funct3 := by
  unfold bFunct at h
  rw [funct3_eq] at h
  apply BitVec.eq_of_toNat_eq
  split at h <;> cases h <;> assumption

/-- The width of a load determines funct3. -/
theorem funct3_of_iWidth {raw : BitVec 32} {width : LoadWidth}
    (h : iWidth raw = some width) :
    raw.extractLsb' 12 3 = width.funct3 := by
  unfold iWidth at h
  rw [funct3_eq] at h
  apply BitVec.eq_of_toNat_eq
  split at h <;> cases h <;> assumption

/-- The width of a store determines funct3. -/
theorem funct3_of_sWidth {raw : BitVec 32} {width : StoreWidth}
    (h : sWidth raw = some width) :
    raw.extractLsb' 12 3 = width.funct3 := by
  unfold sWidth at h
  rw [funct3_eq] at h
  apply BitVec.eq_of_toNat_eq
  split at h <;> cases h <;> assumption

/-- The funct3 of a SYSTEM instruction. -/
def SysFunct.funct3 : SysFunct → BitVec 3
  | .priv => 0b000
  | .csrReg op => op.funct3
  | .csrImm op => op.funct3 ||| 0b100

/-- The class of a SYSTEM instruction determines funct3. -/
theorem funct3_of_iSys {raw : BitVec 32} {funct : SysFunct}
    (h : iSys raw = some funct) :
    raw.extractLsb' 12 3 = funct.funct3 := by
  unfold iSys at h
  rw [funct3_eq] at h
  apply BitVec.eq_of_toNat_eq
  split at h <;> cases h <;> assumption

/-- The instruction behind each `SysPriv`. -/
def SysPriv.instruction (raw : BitVec 32) : SysPriv → Instruction
  | .ecall => .ecall
  | .ebreak => .ebreak
  | .sret => .sret
  | .mret => .mret
  | .wfi => .wfi
  | .sfenceVma => .sfenceVma (rs1 raw) (rs2 raw)

/-- The upper twelve bits are funct7 above rs2. -/
theorem funct12_eq (raw : BitVec 32) :
    funct12 raw =
      (raw.extractLsb' 25 7).toNat * 2 ^ 5 + (raw.extractLsb' 20 5).toNat := by
  unfold funct12
  rw [BitVec.toNat_ushiftRight, Nat.shiftRight_eq_div_pow]
  simp only [BitVec.extractLsb'_toNat, Nat.shiftRight_eq_div_pow]
  omega

/-- A privileged instruction has no bit that its encoding does not fix. -/
theorem encode_of_sysPriv {raw : BitVec 32} {priv : SysPriv}
    (h : sysPriv raw = some priv)
    (hopcode : raw.extractLsb' 0 7 = Opcode.system.bits)
    (hfunct3 : raw.extractLsb' 12 3 = 0b000) :
    (priv.instruction raw).encode = raw := by
  have hraw := word_extractLsb' raw
  rw [hopcode, hfunct3] at hraw
  have hrs2 : (rs2 raw).val = (raw.extractLsb' 20 5).toNat := rfl
  unfold sysPriv at h
  rw [funct12_eq, funct7_eq, hrs2] at h
  by_cases hrd : rd raw = 0
  case neg =>
    rw [if_pos hrd] at h
    cases h
  have hrd' : raw.extractLsb' 7 5 = 0 := congrArg Specifier.bits hrd
  rw [hrd'] at hraw
  rw [if_neg (not_not.mpr hrd)] at h
  by_cases hfence : (raw.extractLsb' 25 7).toNat = 0b0001001
  case pos =>
    rw [if_pos hfence] at h
    cases h
    have hfunct7 : raw.extractLsb' 25 7 = 0b0001001 :=
      BitVec.eq_of_toNat_eq hfence
    rw [hfunct7] at hraw
    exact hraw
  rw [if_neg hfence] at h
  by_cases hrs1 : rs1 raw = 0
  case neg =>
    rw [if_pos hrs1] at h
    cases h
  have hrs1' : raw.extractLsb' 15 5 = 0 := congrArg Specifier.bits hrs1
  rw [hrs1'] at hraw
  rw [if_neg (not_not.mpr hrs1)] at h
  -- What is left is funct7 and rs2.
  have hfixed : ∀ a b : Nat, (raw.extractLsb' 25 7).toNat = a →
      (raw.extractLsb' 20 5).toNat = b →
      word (BitVec.ofNat 7 a) (BitVec.ofNat 5 b) 0 0b000 0
        Opcode.system.bits = raw := by
    intro a b ha hb
    subst ha hb
    rw [BitVec.ofNat_toNat, BitVec.ofNat_toNat, BitVec.setWidth_eq,
      BitVec.setWidth_eq]
    exact hraw
  split at h
  · cases h
  · split at h
    · cases h
      exact hfixed 0 0 (by omega) (by omega)
    · cases h
      exact hfixed 0 1 (by omega) (by omega)
    · split at h <;> cases h
      · exact hfixed 8 2 ‹_› ‹_›
      · exact hfixed 24 2 ‹_› ‹_›
      · exact hfixed 8 5 ‹_› ‹_›

/-! ## Words that are given back -/

/-- The operands that the instruction's format has: LR has no second source,
its rs2 field is zero. -/
def Instruction.operands : Instruction → Instruction
  | amo .lr aq rl _ addr dest => amo .lr aq rl 0 addr dest
  | i => i

/-- A word without the fm, rs1 and rd fields of a FENCE, which decoding
ignores. -/
def significant (raw : BitVec 32) : BitVec 32 :=
  if opcode raw = some .miscMem then raw &&& 0x0FF0707F else raw

/-- Re-encoding what a word decodes to gives back the word. -/
def GivenBack (raw : BitVec 32) : Prop :=
  ∀ i, decode raw = .ok i → i.operands.encode = significant raw

/-- The fields that the manual fixes and the decoder does not look at: funct3
of JALR, funct7 of a shift by an immediate but for its bit 5, and rs2 of
LR. -/
structure FixedFields (raw : BitVec 32) : Prop where
  jalr : opcode raw = some .jalr → funct3 raw = 0
  shift : opcode raw = some .opImm →
    ∀ op, iShfunct raw = some op → funct7 raw = op.funct7.toNat
  lr : opcode raw = some .amo → amoOp raw = some .lr → rs2 raw = 0

/-- Every bit is significant but in a FENCE. -/
theorem significant_eq {raw : BitVec 32} {o : Opcode}
    (h : opcode raw = some o) (hne : o ≠ .miscMem) : significant raw = raw := by
  unfold significant
  rw [if_neg]
  rw [h]
  exact fun heq => hne (Option.some.inj heq)

/-- Only three opcodes have fields that go unchecked. -/
theorem FixedFields.of_opcode {raw : BitVec 32} {o : Opcode}
    (h : opcode raw = some o) (hjalr : o ≠ .jalr) (hopImm : o ≠ .opImm)
    (hamo : o ≠ .amo) : FixedFields raw where
  jalr h' := absurd (Option.some.inj (h.symm.trans h')) hjalr
  shift h' := absurd (Option.some.inj (h.symm.trans h')) hopImm
  lr h' := absurd (Option.some.inj (h.symm.trans h')) hamo

/-- A word is given back when everything it can decode to is encoded as it. -/
theorem GivenBack.of_ok {raw : BitVec 32} {i : Instruction}
    (hdecode : decode raw = .ok i) :
    GivenBack raw ↔ i.operands.encode = significant raw := by
  constructor
  · intro h
    exact h i hdecode
  · intro h j hj
    rw [hdecode] at hj
    cases hj
    exact h

/-- A word that cannot be decoded is not re-encoded at all. -/
theorem GivenBack.of_error {raw : BitVec 32} {e : DecodeError}
    (hdecode : decode raw = .error e) : GivenBack raw := by
  intro i hi
  rw [hdecode] at hi
  cases hi

/-- Any funct3 is decoded, and re-encoded as zero. -/
theorem givenBack_jalr {raw : BitVec 32} (h : opcode raw = some .jalr) :
    GivenBack raw ↔ funct3 raw = 0 := by
  have hdecode : decode raw = .ok (.jalr (rd raw) (rs1 raw) (iImm raw)) := by
    unfold decode
    rw [h]
  rw [GivenBack.of_ok hdecode, significant_eq h (by decide), funct3_eq]
  have hraw := iType_iImm raw
  rw [bits_of_opcode h] at hraw
  show iType (iImm raw) (rs1 raw) 0b000 (rd raw) Opcode.jalr.bits = raw ↔ _
  constructor
  · intro heq
    rw [← heq]
    unfold iType
    rw [extractLsb'_word_funct3]
    rfl
  · intro hzero
    have hfunct3 : raw.extractLsb' 12 3 = 0b000 := BitVec.eq_of_toNat_eq hzero
    rw [hfunct3] at hraw
    exact hraw

/-- A shift is re-encoded with the funct7 of its operation. -/
theorem givenBack_opImm {raw : BitVec 32} (h : opcode raw = some .opImm) :
    GivenBack raw ↔
      ∀ op, iShfunct raw = some op → funct7 raw = op.funct7.toNat := by
  have hbits := bits_of_opcode h
  cases hfunct : iFunct raw with
  | some op =>
      have hnot : iShfunct raw = none := by
        have hfunct3 := funct3_of_iFunct hfunct
        unfold iShfunct
        rw [funct3_eq, hfunct3]
        cases op <;> cases raw.getLsbD 30 <;> rfl
      have hdecode : decode raw =
          .ok (.opImm op (rd raw) (rs1 raw) (iImm raw)) := by
        unfold decode
        simp only [h, hfunct]
      have hraw := iType_iImm raw
      rw [hbits, funct3_of_iFunct hfunct] at hraw
      rw [GivenBack.of_ok hdecode, significant_eq h (by decide), hnot]
      exact ⟨fun _ _ hop => (nomatch hop), fun _ => hraw⟩
  | none =>
      cases hshift : iShfunct raw with
      | none =>
          have hdecode : decode raw = .error .illegalInstruction := by
            unfold decode
            simp only [h, hfunct, hshift]
          exact ⟨fun _ _ hop => (nomatch hop),
            fun _ => GivenBack.of_error hdecode⟩
      | some op =>
          have hdecode : decode raw =
              .ok (.opShiftImm op (rd raw) (rs1 raw) (shamt raw)) := by
            unfold decode
            simp only [h, hfunct, hshift]
          have hraw := word_extractLsb' raw
          rw [hbits, funct3_of_iShfunct hshift] at hraw
          have hshamt : (shamt raw).setWidth 5 = raw.extractLsb' 20 5 := by
            rw [shamt_eq]
            apply BitVec.eq_of_toNat_eq
            simp only [BitVec.toNat_setWidth]
            omega
          rw [GivenBack.of_ok hdecode, significant_eq h (by decide), funct7_eq]
          show word op.funct7 ((shamt raw).setWidth 5) (rs1 raw).bits op.funct3
            (rd raw).bits Opcode.opImm.bits = raw ↔ _
          rw [hshamt]
          constructor
          · intro heq op' hop'
            cases hop'
            rw [← heq, extractLsb'_word_funct7]
          · intro hfunct7
            have hfunct7' : raw.extractLsb' 25 7 = op.funct7 :=
              BitVec.eq_of_toNat_eq (hfunct7 op rfl)
            rw [hfunct7'] at hraw
            exact hraw

/-- LR is re-encoded without a second source. -/
theorem givenBack_amo {raw : BitVec 32} (h : opcode raw = some .amo) :
    GivenBack raw ↔ (amoOp raw = some .lr → rs2 raw = 0) := by
  cases hop : amoOp raw with
  | none =>
      have hdecode : decode raw = .error .illegalInstruction := by
        unfold decode
        simp only [h, hop]
      exact ⟨fun _ hlr => (nomatch hlr), fun _ => GivenBack.of_error hdecode⟩
  | some op =>
      have hdecode : decode raw = .ok (.amo op (amoAq raw) (amoRl raw)
          (rs2 raw) (rs1 raw) (rd raw)) := by
        unfold decode
        simp only [h, hop]
      obtain ⟨hfunct3, hfunct5⟩ := fields_of_amoOp hop
      have hfunct7 : raw.extractLsb' 25 7 =
          op.funct5 ++ BitVec.ofBool (amoAq raw) ++
            BitVec.ofBool (amoRl raw) := by
        rw [← hfunct5]
        unfold amoAq amoRl
        apply BitVec.eq_of_getLsbD_eq
        intro i hi
        simp only [BitVec.getLsbD_append, BitVec.getLsbD_extractLsb',
          BitVec.getLsbD_ofBool]
        grind
      have hraw := rType_fields raw
      rw [bits_of_opcode h, hfunct3, hfunct7] at hraw
      rw [GivenBack.of_ok hdecode, significant_eq h (by decide)]
      by_cases hlr : op = .lr
      · subst hlr
        show rType _ 0 (rs1 raw) 0b010 (rd raw) Opcode.amo.bits = raw ↔ _
        constructor
        · intro heq _
          rw [← heq]
          exact rs2_word _ _ _ _ _ 0
        · intro hzero
          rw [hzero rfl] at hraw
          exact hraw
      · have hsame : (Instruction.amo op (amoAq raw) (amoRl raw) (rs2 raw)
            (rs1 raw) (rd raw)).operands =
            .amo op (amoAq raw) (amoRl raw) (rs2 raw) (rs1 raw) (rd raw) := by
          cases op <;> first | rfl | exact absurd rfl hlr
        rw [hsame]
        exact ⟨fun _ heq => absurd (Option.some.inj heq) hlr, fun _ => hraw⟩

/-- The order of a FENCE is four bits of the word. -/
theorem getLsbD_fenceOrder (raw : BitVec 32) (lo : Nat) {i : Nat}
    (hi : i < 4) :
    (fenceOrder raw (lo + 3)).bits.getLsbD i = raw.getLsbD (lo + i) := by
  have hbits : ∀ a b c d : Bool,
      (FenceOrderCombination.bits ⟨a, b, c, d⟩).getLsbD 0 = d ∧
      (FenceOrderCombination.bits ⟨a, b, c, d⟩).getLsbD 1 = c ∧
      (FenceOrderCombination.bits ⟨a, b, c, d⟩).getLsbD 2 = b ∧
      (FenceOrderCombination.bits ⟨a, b, c, d⟩).getLsbD 3 = a := by decide
  obtain ⟨h0, h1, h2, h3⟩ := hbits (raw.getLsbD (lo + 3))
    (raw.getLsbD (lo + 2)) (raw.getLsbD (lo + 1)) (raw.getLsbD lo)
  match i, hi with
  | 0, _ => exact h0
  | 1, _ => exact h1
  | 2, _ => exact h2
  | 3, _ => exact h3

/-- A FENCE is given back but for the fields that the decoder ignores. -/
theorem givenBack_miscMem {raw : BitVec 32} (h : opcode raw = some .miscMem) :
    GivenBack raw := by
  by_cases hmem : iMem raw
  case neg =>
    apply GivenBack.of_error (e := .illegalInstruction)
    unfold decode
    simp only [h, hmem]
    rfl
  have hdecode : decode raw =
      .ok (.fence (fenceOrder raw 27) (fenceOrder raw 23)) := by
    unfold decode
    simp only [h, hmem]
    rfl
  have hopcode := bits_of_opcode h
  have hfunct3 : raw.extractLsb' 12 3 = 0b000 := by
    unfold iMem at hmem
    rw [funct3_eq] at hmem
    exact BitVec.eq_of_toNat_eq (of_decide_eq_true hmem)
  have hopcodeBit : ∀ i < 7, raw.getLsbD i =
      Opcode.miscMem.bits.getLsbD i := by
    intro i hi
    rw [← hopcode, BitVec.getLsbD_extractLsb', Nat.zero_add]
    grind
  have hfunct3Bit : ∀ i < 3, raw.getLsbD (12 + i) = false := by
    intro i hi
    have hbit := congrArg (BitVec.getLsbD · i) hfunct3
    simp only [BitVec.getLsbD_extractLsb', hi, decide_true,
      Bool.true_and] at hbit
    rw [hbit]
    exact BitVec.getLsbD_zero
  have hmask : ∀ i < 32, (0x0FF0707F#32).getLsbD i =
      decide (i < 7 ∨ 12 ≤ i ∧ i < 15 ∨ 20 ≤ i ∧ i < 28) := by decide
  rw [GivenBack.of_ok hdecode]
  unfold significant
  rw [if_pos h]
  apply BitVec.eq_of_getLsbD_eq
  intro i hi
  show (iType (((fenceOrder raw 27).bits ++
    (fenceOrder raw 23).bits).setWidth 32) 0 0b000 0
    Opcode.miscMem.bits).getLsbD i = _
  unfold iType Specifier.bits
  simp only [getLsbD_word, BitVec.getLsbD_extractLsb', BitVec.getLsbD_setWidth,
    BitVec.getLsbD_append, BitVec.getLsbD_and]
  have hpred := fun j (hj : j < 4) => getLsbD_fenceOrder raw 24 hj
  have hsucc := fun j (hj : j < 4) => getLsbD_fenceOrder raw 20 hj
  have hzero : ∀ j, (BitVec.ofFin (0 : Fin 32) : BitVec 5).getLsbD j =
      false := fun j => BitVec.getLsbD_zero
  simp only [hzero]
  grind

/-- Every other opcode has all its fields checked. -/
theorem givenBack_of_opcode {raw : BitVec 32} {o : Opcode}
    (h : opcode raw = some o) (hjalr : o ≠ .jalr) (hopImm : o ≠ .opImm)
    (hamo : o ≠ .amo) : GivenBack raw := by
  have hopcode := bits_of_opcode h
  have herror : decode raw = .error .illegalInstruction → GivenBack raw :=
    GivenBack.of_error
  cases o with
  | jalr => exact absurd rfl hjalr
  | opImm => exact absurd rfl hopImm
  | amo => exact absurd rfl hamo
  | miscMem => exact givenBack_miscMem h
  | auipc =>
      have hdecode : decode raw = .ok (.auipc (rd raw) (uImm raw)) := by
        unfold decode
        simp only [h]
      rw [GivenBack.of_ok hdecode, significant_eq h (by decide)]
      have hraw := uType_uImm raw
      rw [hopcode] at hraw
      exact hraw
  | lui =>
      have hdecode : decode raw = .ok (.lui (rd raw) (uImm raw)) := by
        unfold decode
        simp only [h]
      rw [GivenBack.of_ok hdecode, significant_eq h (by decide)]
      have hraw := uType_uImm raw
      rw [hopcode] at hraw
      exact hraw
  | jal =>
      have hdecode : decode raw = .ok (.jal (rd raw) (jImm raw)) := by
        unfold decode
        simp only [h]
      rw [GivenBack.of_ok hdecode, significant_eq h (by decide)]
      have hraw := jType_jImm raw
      rw [hopcode] at hraw
      exact hraw
  | op =>
      cases hfunct : rFunct raw with
      | none =>
          apply herror
          unfold decode
          simp only [h, hfunct]
      | some op =>
          have hdecode : decode raw =
              .ok (.op op (rd raw) (rs1 raw) (rs2 raw)) := by
            unfold decode
            simp only [h, hfunct]
          rw [GivenBack.of_ok hdecode, significant_eq h (by decide)]
          have hraw := rType_fields raw
          rw [hopcode, (fields_of_rFunct hfunct).1,
            (fields_of_rFunct hfunct).2] at hraw
          exact hraw
  | branch =>
      cases hfunct : bFunct raw with
      | none =>
          apply herror
          unfold decode
          simp only [h, hfunct]
      | some condition =>
          have hdecode : decode raw =
              .ok (.branch condition (rs1 raw) (rs2 raw) (bImm raw)) := by
            unfold decode
            simp only [h, hfunct]
          rw [GivenBack.of_ok hdecode, significant_eq h (by decide)]
          have hraw := bType_bImm raw
          rw [hopcode, funct3_of_bFunct hfunct] at hraw
          exact hraw
  | load =>
      cases hfunct : iWidth raw with
      | none =>
          apply herror
          unfold decode
          simp only [h, hfunct]
      | some width =>
          have hdecode : decode raw =
              .ok (.load width (rd raw) (rs1 raw) (iImm raw)) := by
            unfold decode
            simp only [h, hfunct]
          rw [GivenBack.of_ok hdecode, significant_eq h (by decide)]
          have hraw := iType_iImm raw
          rw [hopcode, funct3_of_iWidth hfunct] at hraw
          exact hraw
  | store =>
      cases hfunct : sWidth raw with
      | none =>
          apply herror
          unfold decode
          simp only [h, hfunct]
      | some width =>
          have hdecode : decode raw =
              .ok (.store width (rs2 raw) (rs1 raw) (sImm raw)) := by
            unfold decode
            simp only [h, hfunct]
          rw [GivenBack.of_ok hdecode, significant_eq h (by decide)]
          have hraw := sType_sImm raw
          rw [hopcode, funct3_of_sWidth hfunct] at hraw
          exact hraw
  | system =>
      cases hsys : iSys raw with
      | none =>
          apply herror
          unfold decode
          simp only [h, hsys]
      | some funct =>
          have hfunct3 := funct3_of_iSys hsys
          cases funct with
          | priv =>
              cases hpriv : sysPriv raw with
              | none =>
                  apply herror
                  unfold decode
                  simp only [h, hsys, hpriv]
              | some priv =>
                  have hdecode : decode raw = .ok (priv.instruction raw) := by
                    unfold decode
                    simp only [h, hsys, hpriv]
                    cases priv <;> rfl
                  have hoperands : (priv.instruction raw).operands =
                      priv.instruction raw := by
                    cases priv <;> rfl
                  rw [GivenBack.of_ok hdecode, hoperands,
                    significant_eq h (by decide)]
                  exact encode_of_sysPriv hpriv hopcode hfunct3
          | csrReg op =>
              have hdecode : decode raw =
                  .ok (.csr op (rd raw) (csrField raw) (rs1 raw)) := by
                unfold decode
                simp only [h, hsys]
              have hraw := word_extractLsb' raw
              rw [hopcode, hfunct3, ← csrField_high, ← csrField_low] at hraw
              rw [GivenBack.of_ok hdecode, significant_eq h (by decide)]
              exact hraw
          | csrImm op =>
              have hdecode : decode raw =
                  .ok (.csri op (rd raw) (csrField raw)
                    (BitVec.ofNat 32 (rs1 raw).val)) := by
                unfold decode
                simp only [h, hsys]
              have hrs1 : (BitVec.ofNat 32 (rs1 raw).val).setWidth 5 =
                  raw.extractLsb' 15 5 := by
                apply BitVec.eq_of_toNat_eq
                have hlt := (rs1 raw).isLt
                rw [BitVec.toNat_setWidth, BitVec.toNat_ofNat]
                show _ = (rs1 raw).val
                omega
              have hraw := word_extractLsb' raw
              rw [hopcode, hfunct3, ← csrField_high, ← csrField_low,
                ← hrs1] at hraw
              rw [GivenBack.of_ok hdecode, significant_eq h (by decide)]
              exact hraw

/-- Re-encoding gives back exactly the words whose unchecked fields have
their required value. -/
theorem givenBack_iff (raw : BitVec 32) :
    GivenBack raw ↔ FixedFields raw := by
  cases h : opcode raw with
  | none =>
      have hdecode : decode raw = .error .unsupportedOpcode := by
        unfold decode
        rw [h]
      refine ⟨fun _ => ?_, fun _ => GivenBack.of_error hdecode⟩
      constructor <;> intro h' <;> rw [h] at h' <;> cases h'
  | some o =>
      have hother : ∀ {o'}, opcode raw = some o' → o' = o := by
        intro o' h'
        rw [h] at h'
        exact (Option.some.inj h').symm
      by_cases hjalr : o = .jalr
      · subst hjalr
        rw [givenBack_jalr h]
        constructor
        · intro hzero
          exact ⟨fun _ => hzero, fun h' => (nomatch hother h'),
            fun h' => (nomatch hother h')⟩
        · intro hfixed
          exact hfixed.jalr h
      by_cases hopImm : o = .opImm
      · subst hopImm
        rw [givenBack_opImm h]
        constructor
        · intro hfunct7
          exact ⟨fun h' => (nomatch hother h'), fun _ => hfunct7,
            fun h' => (nomatch hother h')⟩
        · intro hfixed
          exact hfixed.shift h
      by_cases hamo : o = .amo
      · subst hamo
        rw [givenBack_amo h]
        constructor
        · intro hrs2
          exact ⟨fun h' => (nomatch hother h'), fun h' => (nomatch hother h'),
            fun _ => hrs2⟩
        · intro hfixed
          exact hfixed.lr h
      exact ⟨fun _ => .of_opcode h hjalr hopImm hamo,
        fun _ => givenBack_of_opcode h hjalr hopImm hamo⟩

/-- JALR with funct3 = 1, a shift with a stray bit, LR with a second source. -/
theorem not_givenBack_reserved :
    ¬ GivenBack 0x00001067 ∧ ¬ GivenBack 0x02001013 ∧
      ¬ GivenBack 0x1010202F := by
  refine ⟨?_, ?_, ?_⟩
  · intro h
    exact absurd (h (.jalr 0 0 0) rfl) (by decide)
  · intro h
    exact absurd (h (.opShiftImm .slli 0 0 0) rfl) (by decide)
  · intro h
    exact absurd (h (.amo .lr false false 1 0 0) rfl) (by decide)

end RedPlanet.Core
