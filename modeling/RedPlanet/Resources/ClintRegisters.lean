import RedPlanet.Resources.Clint
import RedPlanet.Verified.Halves
import RedPlanet.Verified.LastWrite

/-!
# The registers of the CLINT as software sees them

mtime and mtimecmp are each visible as two words and as one double word.  The
double word is read with its halves swapped, so it is the register only while
the two halves are equal (`readsCoherently_iff`).

A write of one half clears the whole register, since the halves are combined
with `&` instead of `|`, and a write of the double word is expected at the
address of the upper half, so at the address of the register nothing happens.
`takesEffect_iff` says for which writes the register ends up as it should all
the same, and `readsBack_iff` for which sequences of writes everything that
is read back is what was written last.
-/

namespace RedPlanet.Resources

open RedPlanet.Core RedPlanet.Verified

namespace Clint

/-- The two registers of the timer. -/
inductive Register where
  | mtime
  | mtimecmp
deriving DecidableEq, Repr

/-- The two words of a register. -/
inductive Half where
  | lower
  | upper
deriving DecidableEq, Repr

/-- The word that a write leaves alone. -/
def Half.other : Half → Half
  | .lower => .upper
  | .upper => .lower

namespace Register

/-- Where the words of the registers are. -/
def address : Register → Half → BitVec 32
  | .mtime, .lower => MTIME_ADDR_LO
  | .mtime, .upper => MTIME_ADDR_HI
  | .mtimecmp, .lower => MTIMECMP_ADDR_LO
  | .mtimecmp, .upper => MTIMECMP_ADDR_HI

/-- The register as a whole. -/
def value (register : Register) (clint : Clint) : BitVec 64 :=
  match register with
  | .mtime => clint.mtime
  | .mtimecmp => clint.mtimecmp

/-- Its lower word. -/
def lower (register : Register) (clint : Clint) : BitVec 32 :=
  @lowerHalf 32 (register.value clint)

/-- Its upper word. -/
def upper (register : Register) (clint : Clint) : BitVec 32 :=
  @upperHalf 32 (register.value clint)

/-- Replace the register. -/
def set (register : Register) (value : BitVec 64) (clint : Clint) : Clint :=
  match register with
  | .mtime => { clint with mtime := value }
  | .mtimecmp => { clint with mtimecmp := value }

/-- What is set is there. -/
@[simp] theorem value_set_self (register : Register) (value : BitVec 64)
    (clint : Clint) : register.value (register.set value clint) = value := by
  cases register <;> rfl

/-- The other register stays as it is. -/
@[simp] theorem value_set_ne {register other : Register}
    (h : other ≠ register) (value : BitVec 64) (clint : Clint) :
    other.value (register.set value clint) = other.value clint := by
  cases register <;> cases other <;> first | rfl | exact absurd rfl h

end Register

/-- The words that software sees. -/
def contents (clint : Clint) : Register × Half → BitVec 32
  | (register, .lower) => register.lower clint
  | (register, .upper) => register.upper clint

/-- A register that is cleared has both words zero. -/
theorem contents_set_self (register : Register) (half : Half)
    (clint : Clint) : (register.set 0 clint).contents (register, half) = 0 := by
  cases half with
  | lower =>
      show @lowerHalf 32 (register.value (register.set 0 clint)) = 0
      rw [Register.value_set_self]
      exact lowerHalf_zero
  | upper =>
      show @upperHalf 32 (register.value (register.set 0 clint)) = 0
      rw [Register.value_set_self]
      exact upperHalf_zero

/-- The words depend on their register only. -/
theorem contents_congr {register : Register} {clint clint' : Clint}
    (h : register.value clint = register.value clint') (half : Half) :
    clint.contents (register, half) = clint'.contents (register, half) := by
  cases half with
  | lower => exact congrArg (@lowerHalf 32) h
  | upper => exact congrArg (@upperHalf 32) h

/-- A register is its two words. -/
theorem value_eq_iff {register : Register} {clint : Clint}
    {value : BitVec 64} :
    register.value clint = value ↔
      clint.contents (register, .upper) = @upperHalf 32 value ∧
        clint.contents (register, .lower) = @lowerHalf 32 value :=
  @eq_iff_halves 32 _ _

/-! ## Reads -/

/-- A word is read at its address. -/
theorem readU32_address (register : Register) (half : Half) (clint : Clint) :
    clint.readU32 (register.address half) = clint.contents (register, half) := by
  cases register <;> cases half <;> rfl

/-- The bytes of a word, in little-endian order. -/
theorem read_word [Build] {buf : List (BitVec 8)} (h : buf.length = 4)
    (register : Register) (half : Half) (clint : Clint) :
    clint.read (register.address half) buf =
      some (toLeBytes 4 (clint.contents (register, half))) := by
  have haligned : isAligned WORD (register.address half) = true := by
    cases register <;> cases half <;> rfl
  unfold read
  rw [haligned, if_neg (by decide), if_pos h, readU32_address]

/-- The double word is read with its halves swapped. -/
theorem read_double [Build] {buf : List (BitVec 8)} (h : buf.length = 8)
    (register : Register) (clint : Clint) :
    clint.read (register.address .lower) buf =
      some (toLeBytes 8
        (ofHalves (register.lower clint) (register.upper clint))) := by
  have haligned : isAligned WORD (register.address .lower) = true := by
    cases register <;> rfl
  have hnext : addU32 (register.address .lower) 4 =
      some (register.address .upper) := by
    have hsum : (register.address .lower).toNat + (4 : BitVec 32).toNat <
        2 ^ 32 := by
      cases register <;> decide
    unfold addU32
    rw [if_neg (by omega)]
    cases register <;> rfl
  unfold read
  rw [haligned, if_neg (by decide), if_neg (by omega), if_pos h]
  dsimp only
  rw [hnext, readU32_address, Option.map_some, readU32_address]
  rfl

/-- What the double word at the address of a register should read as. -/
structure ReadsCoherently [Build] (register : Register) (clint : Clint) :
    Prop where
  /-- The bytes of the register. -/
  value : ∀ buf, buf.length = 8 →
    clint.read (register.address .lower) buf =
      some (toLeBytes 8 (register.value clint))
  /-- The two words, one after the other. -/
  halves : ∀ buf lower upper, buf.length = 8 → lower.length = 4 →
    upper.length = 4 →
    ∃ first second,
      clint.read (register.address .lower) lower = some first ∧
        clint.read (register.address .upper) upper = some second ∧
        clint.read (register.address .lower) buf = some (first ++ second)

/-- The bytes that are read are those of the register iff its halves are
equal. -/
theorem toLeBytes_swapped_iff (register : Register) (clint : Clint) :
    toLeBytes 8 (ofHalves (register.lower clint) (register.upper clint)) =
        toLeBytes 8 (register.value clint) ↔
      register.upper clint = register.lower clint :=
  (toLeBytes_inj (n := 8) rfl).trans (@ofHalves_swapped_iff 32 _)

/-- The double word is the register iff its halves are the same. -/
theorem readsCoherently_iff [Build] (register : Register) (clint : Clint) :
    ReadsCoherently register clint ↔
      register.upper clint = register.lower clint := by
  have hbytes : toLeBytes 8 (register.value clint) =
      toLeBytes 4 (register.lower clint) ++
        toLeBytes 4 (register.upper clint) :=
    toLeBytes_halves 4 (register.value clint)
  constructor
  · intro h
    have hread := h.value (List.replicate 8 0) rfl
    rw [read_double rfl, Option.some_inj, toLeBytes_swapped_iff] at hread
    exact hread
  · intro h
    have hread := (toLeBytes_swapped_iff register clint).2 h
    exact
      { value := fun buf hbuf => by rw [read_double hbuf, hread]
        halves := fun buf lower upper hbuf hlower hupper =>
          ⟨_, _, read_word hlower .., read_word hupper .., by
            rw [read_double hbuf, hread, hbytes]
            rfl⟩ }

/-! ## Writes -/

/-- The shifted half and the masked one have no bit in common. -/
theorem and_lower_eq_zero (x y : BitVec 64) :
    (x <<< 32) &&& (y &&& 0xffffffff) = 0 := by
  apply BitVec.eq_of_getLsbD_eq
  intro i hi
  rw [BitVec.getLsbD_and, BitVec.getLsbD_and, BitVec.getLsbD_shiftLeft]
  by_cases hlow : i < 32
  · simp [hlow]
  · have hmask : (0xffffffff : BitVec 64).getLsbD i = false := by
      show ((BitVec.allOnes 32).setWidth 64).getLsbD i = false
      rw [BitVec.getLsbD_setWidth, BitVec.getLsbD_of_ge _ i (by omega),
        Bool.and_false]
    rw [hmask, Bool.and_false, Bool.and_false]
    exact BitVec.getLsbD_zero.symm

/-- Two halves put together with `&` leave nothing. -/
theorem and_halves_eq_zero (x y : BitVec 64) :
    (x &&& 0xffffffff_00000000) &&& (y &&& 0xffffffff) = 0 := by
  have hmask : (0xffffffff_00000000 : BitVec 64) =
      BitVec.allOnes 64 <<< 32 := rfl
  rw [BitVec.and_assoc, hmask, and_lower_eq_zero]
  exact BitVec.and_zero

/-- A write of either half clears the register. -/
theorem write_word {buf : List (BitVec 8)} (h : buf.length = 4)
    (register : Register) (half : Half) (clint : Clint) :
    (clint.write (register.address half) buf).1 = register.set 0 clint := by
  have haligned : isAligned WORD (register.address half) = true := by
    cases register <;> cases half <;> rfl
  unfold write
  rw [haligned, if_neg (by decide), if_pos h]
  cases register with
  | mtime =>
      cases half with
      | lower =>
          show { clint with mtime := _ } = { clint with mtime := 0 }
          rw [and_halves_eq_zero]
      | upper =>
          show { clint with mtime := _ } = { clint with mtime := 0 }
          rw [and_lower_eq_zero]
  | mtimecmp =>
      cases half with
      | lower =>
          show { clint with mtimecmp := _ } = { clint with mtimecmp := 0 }
          rw [and_halves_eq_zero]
      | upper =>
          show { clint with mtimecmp := _ } = { clint with mtimecmp := 0 }
          rw [and_lower_eq_zero]

/-- A write of the double word at the address of the register is lost. -/
theorem write_double {buf : List (BitVec 8)} (h : buf.length = 8)
    (register : Register) (clint : Clint) :
    clint.write (register.address .lower) buf = (clint, []) := by
  have haligned : isAligned WORD (register.address .lower) = true := by
    cases register <;> rfl
  unfold write
  rw [haligned, if_neg (by decide), if_neg (by omega), if_pos h]
  cases register <;> rfl

/-- A write of a register by software. -/
inductive RegisterWrite where
  | word (register : Register) (half : Half) (value : BitVec 32)
  | double (register : Register) (value : BitVec 64)
deriving DecidableEq, Repr

namespace RegisterWrite

/-- What the timer is after a write. -/
def carryOut (write : RegisterWrite) (clint : Clint) : Clint :=
  match write with
  | word register half value =>
      (clint.write (register.address half) (toLeBytes 4 value)).1
  | double register value =>
      (clint.write (register.address .lower) (toLeBytes 8 value)).1

/-- A write of half a register clears all of it. -/
theorem carryOut_word (register : Register) (half : Half) (value : BitVec 32)
    (clint : Clint) :
    (word register half value).carryOut clint = register.set 0 clint :=
  write_word (length_toLeBytes ..) ..

/-- A write of a double word is not recognised. -/
theorem carryOut_double (register : Register) (value : BitVec 64)
    (clint : Clint) : (double register value).carryOut clint = clint :=
  congrArg Prod.fst (write_double (length_toLeBytes ..) ..)

/-- The write does what software expects of it. -/
def TakesEffect (clint : Clint) (write : RegisterWrite) : Prop :=
  match write with
  | word register half value =>
      (write.carryOut clint).contents (register, half) = value ∧
        (write.carryOut clint).contents (register, half.other) =
          clint.contents (register, half.other) ∧
        ∀ other, other ≠ register →
          other.value (write.carryOut clint) = other.value clint
  | double register value =>
      register.value (write.carryOut clint) = value ∧
        ∀ other, other ≠ register →
          other.value (write.carryOut clint) = other.value clint

/-- The states in which it does. -/
def Effective (clint : Clint) : RegisterWrite → Prop
  | word register half value =>
      value = 0 ∧ clint.contents (register, half.other) = 0
  | double register value => value = register.value clint

/-- The condition compares values of the registers. -/
instance (clint : Clint) (write : RegisterWrite) :
    Decidable (write.Effective clint) :=
  match write with
  | word .. => inferInstanceAs (Decidable (_ ∧ _))
  | double .. => inferInstanceAs (Decidable (_ = _))

/-- A write takes effect iff what it leaves happens to be right. -/
theorem takesEffect_iff (clint : Clint) (write : RegisterWrite) :
    write.TakesEffect clint ↔ write.Effective clint := by
  cases write with
  | word register half value =>
      simp only [TakesEffect, Effective, carryOut_word, contents_set_self]
      constructor
      · intro ⟨hvalue, hother, _⟩
        exact ⟨hvalue.symm, hother.symm⟩
      · intro ⟨hvalue, hother⟩
        exact ⟨hvalue.symm, hother.symm, fun _ h => Register.value_set_ne h ..⟩
  | double register value =>
      simp only [TakesEffect, Effective, carryOut_double]
      exact ⟨fun h => h.1.symm, fun h => ⟨h.symm, fun _ _ => trivial⟩⟩

end RegisterWrite

/-! ## Sequences of writes -/

namespace RegisterWrite

/-- What the write is to put into the words. -/
def effect : RegisterWrite → Register × Half → Option (BitVec 32)
  | word register half value, place =>
      if place = (register, half) then some value else none
  | double register value, (other, .lower) =>
      if other = register then some (@lowerHalf 32 value) else none
  | double register value, (other, .upper) =>
      if other = register then some (@upperHalf 32 value) else none

theorem lands_iff (write : RegisterWrite) (clint : Clint) :
    Lands carryOut contents effect write clint ↔ write.Effective clint := by
  constructor
  · intro h
    have hplace : ∀ place, (write.carryOut clint).contents place =
        overwritten clint.contents write.effect place :=
      fun place => congrFun h place
    cases write with
    | word register half value =>
        have hself := hplace (register, half)
        have hother := hplace (register, half.other)
        have hne : half.other ≠ half := by cases half <;> decide
        rw [carryOut_word, contents_set_self] at hself hother
        simp only [overwritten, effect, if_pos, Option.getD_some] at hself
        simp only [overwritten, effect, Prod.mk.injEq, hne, and_false,
          if_false, Option.getD_none] at hother
        exact ⟨hself.symm, hother.symm⟩
    | double register value =>
        have hupper := hplace (register, .upper)
        have hlower := hplace (register, .lower)
        rw [carryOut_double] at hupper hlower
        simp only [overwritten, effect, if_pos, Option.getD_some]
          at hupper hlower
        exact (value_eq_iff.2 ⟨hupper, hlower⟩).symm
  · intro h
    funext ⟨other, place⟩
    cases write with
    | word register half value =>
        obtain ⟨hvalue, hother⟩ := h
        show ((word register half value).carryOut clint).contents _ = _
        rw [carryOut_word]
        unfold overwritten effect
        by_cases hsame : other = register
        · subst hsame
          rw [contents_set_self]
          cases half <;> cases place <;>
            simp [hvalue, Half.other] at hother ⊢ <;> exact hother.symm
        · rw [contents_congr (Register.value_set_ne hsame 0 clint)]
          simp [hsame]
    | double register value =>
        have hvalue : register.value clint = value := h.symm
        have hhalves := value_eq_iff.1 hvalue
        show ((double register value).carryOut clint).contents _ = _
        rw [carryOut_double]
        by_cases hsame : other = register
        · subst hsame
          cases place with
          | lower => simp [overwritten, effect, hhalves.2]
          | upper => simp [overwritten, effect, hhalves.1]
        · cases place <;> simp [overwritten, effect, hsame]

end RegisterWrite

/-- Every word reads back as what was last written to it, after each of the
writes. -/
def ReadsBack [Build] (writes : List RegisterWrite) (clint : Clint) : Prop :=
  ∀ done, done <+: writes → ∀ register half buf, buf.length = 4 →
    (runAll RegisterWrite.carryOut done clint).read
        (register.address half) buf =
      some (toLeBytes 4 (lastWritten clint.contents
        (done.map RegisterWrite.effect) (register, half)))

/-- Reading back finds what each word was last to be. -/
theorem readsBack_iff [Build] (writes : List RegisterWrite) (clint : Clint) :
    ReadsBack writes clint ↔
      KeepsLast RegisterWrite.carryOut contents RegisterWrite.effect writes
        clint := by
  constructor
  · intro h done hprefix
    funext place
    have hread := h done hprefix place.1 place.2 (List.replicate 4 0) rfl
    rw [read_word rfl, Option.some_inj] at hread
    exact (toLeBytes_inj (n := 4) rfl).1 hread
  · intro h done hprefix register half buf hbuf
    rw [read_word hbuf, h done hprefix]

/-- A time set by software, in words or at once, stays what it was. -/
theorem time_not_set :
    ¬ (RegisterWrite.word .mtime .lower 1).TakesEffect Clint.new ∧
      ¬ (RegisterWrite.double .mtime 1).TakesEffect Clint.new ∧
      ¬ @ReadsBack Build.debug [.word .mtime .lower 1] Clint.new := by
  have hword : ¬ (RegisterWrite.word .mtime .lower 1).TakesEffect Clint.new := by
    rw [RegisterWrite.takesEffect_iff]
    exact fun h => absurd h.1 (by decide)
  have hdouble : ¬ (RegisterWrite.double .mtime 1).TakesEffect Clint.new := by
    rw [RegisterWrite.takesEffect_iff]
    exact fun h => absurd h (by decide)
  refine ⟨hword, hdouble, fun h => hword ?_⟩
  rw [RegisterWrite.takesEffect_iff, ← RegisterWrite.lands_iff]
  exact (keepsLast_iff ..).1 ((@readsBack_iff Build.debug _ _).1 h) [] _
    (List.prefix_refl _)

/-- Exactly when the writes of software take effect and read back. -/
theorem writes_take_effect_iff [Build] (clint : Clint) :
    (∀ write : RegisterWrite,
        write.TakesEffect clint ↔ write.Effective clint) ∧
      ∀ writes, ReadsBack writes clint ↔
        ∀ done write, done ++ [write] <+: writes →
          write.Effective (runAll RegisterWrite.carryOut done clint) := by
  constructor
  · exact RegisterWrite.takesEffect_iff clint
  · intro writes
    rw [readsBack_iff, keepsLast_iff]
    constructor
    · intro h done write hprefix
      exact (RegisterWrite.lands_iff ..).1 (h done write hprefix)
    · intro h done write hprefix
      exact (RegisterWrite.lands_iff ..).2 (h done write hprefix)

end Clint

end RedPlanet.Resources
