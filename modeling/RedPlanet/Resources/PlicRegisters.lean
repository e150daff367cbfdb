import RedPlanet.Resources.PlicArbitration
import RedPlanet.Resources.PlicRun
import RedPlanet.Verified.Bytes

/-!
# The registers of the PLIC as software sees them

A source has a priority word, and a bit in the words of enable and pending
bits.  The code looks all three up by byte offset.

The priority word of source `n` is that of source `4 * n - 3`, so it is right
for source 1 only, and from source 14 on the access panics
(`readReturns_iff`, `writeSets_iff`).  The second word of bits panics as well,
and of the first one the mask keeps the bit of source 0 and drops all others:
a write takes effect iff it is of the first word and sets nothing
(`wordTakes_iff`), and writing an enable word lets no source through but those
of the second word that are enabled already (`deliverable_iff`).
-/

namespace RedPlanet.Resources

open RedPlanet.Core RedPlanet.Verified

namespace BitArr

/-- A word of the bits is replaced, the most significant bit first. -/
theorem bit_setWord {i : ℕ} {value : BitVec 32} {array array' : BitArr}
    (h : array.setWord i value = some array') (index : ℕ) :
    array'.bit index =
      if index / 32 = i then value.getLsbD (31 - index % 32)
      else array.bit index := by
  unfold setWord at h
  split at h
  · rename_i hi
    cases h
    unfold bit
    by_cases hword : index / 32 = i
    · rw [if_pos hword, hword]
      simp [hi]
    · rw [if_neg hword]
      simp [Ne.symm hword]
  · exact nomatch h

end BitArr

namespace Plic

/-! ## Word accesses -/

/-- A read of a word goes to the register that its address selects. -/
theorem read_word {address : BitVec 32} {buf : List (BitVec 8)}
    {accessor : AddrAccessor} (haligned : isAligned WORD address = true)
    (hbuf : buf.length = 4)
    (haddress : AddrAccessor.fromAddress address.toNat = some accessor)
    (hplain : accessor ≠ .claimComplete) (plic : Plic) :
    plic.read address buf =
      (plic.peek accessor).map fun value => (toLeBytes 4 value, plic, []) := by
  unfold read readU32
  rw [if_neg (by rw [haligned]; decide), if_pos hbuf, haddress]
  cases accessor with
  | claimComplete => exact absurd rfl hplain
  | _ => exact Option.map_map ..

theorem write_word {address : BitVec 32} {buf : List (BitVec 8)}
    {accessor : AddrAccessor} (haligned : isAligned WORD address = true)
    (hbuf : buf.length = 4)
    (haddress : AddrAccessor.fromAddress address.toNat = some accessor)
    (plic plic' : Plic) :
    (∃ calls, plic.write address buf = some (plic', calls)) ↔
      plic.poke accessor (ofLeBytes 32 buf) = some plic' := by
  have hwrite : plic.write address buf =
      plic.writeU32 address (ofLeBytes 32 buf) := by
    unfold write
    rw [if_neg (by rw [haligned]; decide), if_pos hbuf]
  rw [hwrite]
  constructor
  · intro ⟨calls, h⟩
    rcases writeU32_cases h with ⟨hnone, _⟩ | ⟨_, hsome, hpoke⟩
    · rw [hnone] at haddress
      exact nomatch haddress
    · rw [hsome] at haddress
      cases haddress
      exact hpoke
  · intro h
    unfold writeU32 update
    rw [haddress]
    simp [h]

/-! ## Priority words -/

/-- The address of the priority word of a source. -/
def priorityAddress (n : ℕ) : BitVec 32 := BitVec.ofNat 32 (4 * n)

/-- The priority word of each source. -/
theorem toNat_priorityAddress {n : ℕ} (h : n ≤ 52) :
    (priorityAddress n).toNat = 4 * n := by
  unfold priorityAddress
  rw [BitVec.toNat_ofNat]
  omega

/-- It is a word. -/
theorem isAligned_priorityAddress {n : ℕ} (h : n ≤ 52) :
    isAligned WORD (priorityAddress n) = true := by
  rw [isAligned_WORD, toNat_priorityAddress h]
  omega

/-- The register is looked up by the byte offset. -/
theorem fromAddress_priority {n : ℕ} (hpos : 1 ≤ n) (hle : n ≤ 52) :
    AddrAccessor.fromAddress (priorityAddress n).toNat =
      some (.priorities (4 * n - 3)) := by
  have hindex : 4 * n - PRIORITY_BASE_ADDR + 1 = 4 * n - 3 := by
    show 4 * n - 4 + 1 = 4 * n - 3
    omega
  have hrange : PRIORITY_BASE_ADDR ≤ 4 * n ∧ 4 * n ≤ PRIORITY_LAST_ADDR := by
    show 4 ≤ 4 * n ∧ 4 * n ≤ 208
    omega
  unfold AddrAccessor.fromAddress
  rw [toNat_priorityAddress hle, if_pos hrange, hindex]

/-- A write of the priority word sets the priority, and no other. -/
def WriteSets (n : ℕ) (value : BitVec 32) (plic : Plic) : Prop :=
  ∃ plic' calls,
    plic.write (priorityAddress n) (toLeBytes 4 value) = some (plic', calls) ∧
      (plic'.priority n).toNat = min value.toNat 7 ∧
      ∀ other ≤ 52, other ≠ n → plic'.priority other = plic.priority other

/-- A read of the priority word gives the priority. -/
def ReadReturns (n : ℕ) (plic : Plic) : Prop :=
  ∀ buf, buf.length = 4 →
    plic.read (priorityAddress n) buf =
      some (toLeBytes 4 (plic.priority n), plic, [])

/-- No access to the priority word panics. -/
def Handled (n : ℕ) (plic : Plic) : Prop :=
  ∀ buf : List (BitVec 8), buf.length = 4 →
    plic.read (priorityAddress n) buf ≠ none ∧
      plic.readDebug (priorityAddress n) buf ≠ none ∧
      plic.write (priorityAddress n) buf ≠ none

/-- Priorities above 7 become 7. -/
theorem toNat_clampPriority (value : BitVec 32) :
    (clampPriority value).toNat = min value.toNat 7 := by
  unfold clampPriority
  by_cases h : value ≤ 7
  · rw [if_pos h]
    exact (Nat.min_eq_left h).symm
  · rw [if_neg h]
    exact (Nat.min_eq_right (Nat.le_of_not_le h)).symm

/-- Setting a priority leaves the others alone. -/
theorem priority_setPriority {index : ℕ} {value : BitVec 32}
    {plic plic' : Plic} (h : plic.setPriority index value = some plic')
    (other : ℕ) :
    plic'.priority other =
      if other = index then clampPriority value else plic.priority other := by
  unfold setPriority at h
  split at h
  · rename_i hlt
    cases h
    unfold priority
    by_cases hother : other = index
    · rw [if_pos hother, hother]
      simp [hlt]
    · rw [if_neg hother]
      simp [Ne.symm hother]
  · exact nomatch h

/-- The access to the priority word does not panic up to source 13. -/
theorem handled_iff {n : ℕ} (hpos : 1 ≤ n) (hle : n ≤ 52) (plic : Plic) :
    Handled n plic ↔ n ≤ 13 := by
  have hbad : ∀ buf : List (BitVec 8), buf.length = 4 →
      (BadAccess (priorityAddress n) buf.length ↔ 14 ≤ n) := by
    intro buf hbuf
    unfold BadAccess BadOffset
    rw [toNat_priorityAddress hle]
    constructor
    · intro ⟨_, _, hoffset⟩
      omega
    · intro h
      exact ⟨hbuf, isAligned_priorityAddress hle, by omega⟩
  constructor
  · intro h
    have hread := (h (List.replicate 4 0) rfl).1
    rw [ne_eq, read_eq_none_iff, hbad _ rfl] at hread
    omega
  · intro h buf hbuf
    rw [ne_eq, ne_eq, ne_eq, read_eq_none_iff, readDebug_eq_none_iff,
      write_eq_none_iff, hbad buf hbuf]
    omega

/-- What is read is the priority of another source, but for source 1. -/
theorem readReturns_iff {n : ℕ} (hpos : 1 ≤ n) (hle : n ≤ 52) (plic : Plic) :
    ReadReturns n plic ↔
      n ≤ 13 ∧ plic.priority (4 * n - 3) = plic.priority n := by
  have hread : ∀ buf : List (BitVec 8), buf.length = 4 →
      plic.read (priorityAddress n) buf =
        (plic.priorities[4 * n - 3]?).map fun value =>
          (toLeBytes 4 value, plic, []) :=
    fun buf hbuf => read_word (isAligned_priorityAddress hle) hbuf
      (fromAddress_priority hpos hle) AddrAccessor.noConfusion plic
  by_cases h : n ≤ 13
  · have hget : plic.priorities[4 * n - 3]? =
        some (plic.priority (4 * n - 3)) := by
      have hlt : 4 * n - 3 < 53 := by omega
      unfold priority
      rw [Vector.getElem?_eq_getElem hlt]
      rfl
    constructor
    · intro hreturns
      have hvalue := hreturns (List.replicate 4 0) rfl
      rw [hread _ rfl, hget, Option.map_some, Option.some_inj] at hvalue
      exact ⟨h, (toLeBytes_inj (n := 4) rfl).1 (Prod.mk.inj hvalue).1⟩
    · intro ⟨_, hsame⟩ buf hbuf
      rw [hread buf hbuf, hget, hsame]
      rfl
  · apply iff_of_false _ fun hboth => h hboth.1
    intro hreturns
    have hvalue := hreturns (List.replicate 4 0) rfl
    have hget : plic.priorities[4 * n - 3]? = none :=
      Vector.getElem?_eq_none (by omega)
    rw [hread _ rfl, hget] at hvalue
    exact nomatch hvalue

/-- What is written is the priority of another source, but for source 1. -/
theorem writeSets_iff {n : ℕ} (hpos : 1 ≤ n) (hle : n ≤ 52)
    (value : BitVec 32) (plic : Plic) :
    WriteSets n value plic ↔
      n = 1 ∨ n ≤ 13 ∧ plic.priority n = clampPriority value ∧
        plic.priority (4 * n - 3) = clampPriority value := by
  have hwrite : ∀ plic', (∃ calls, plic.write (priorityAddress n)
        (toLeBytes 4 value) = some (plic', calls)) ↔
      plic.setPriority (4 * n - 3) value = some plic' := by
    intro plic'
    rw [write_word (isAligned_priorityAddress hle) (length_toLeBytes ..)
      (fromAddress_priority hpos hle), ofLeBytes_toLeBytes value rfl]
    rfl
  constructor
  · intro ⟨plic', calls, hdone, hself, hothers⟩
    have hset := (hwrite plic').1 ⟨calls, hdone⟩
    have hpriority := priority_setPriority hset
    have hlt : 4 * n - 3 < 53 := by
      unfold setPriority at hset
      split at hset
      · assumption
      · exact nomatch hset
    by_cases hone : n = 1
    · exact Or.inl hone
    · refine Or.inr ⟨by omega, ?_, ?_⟩
      · rw [← toNat_clampPriority, BitVec.toNat_inj, hpriority,
          if_neg (by omega)] at hself
        exact hself
      · have hother := hothers (4 * n - 3) (by omega) (by omega)
        rw [hpriority, if_pos rfl] at hother
        exact hother.symm
  · intro h
    have hlt : 4 * n - 3 < 53 := by omega
    have hset : plic.setPriority (4 * n - 3) value = some _ := dif_pos hlt
    obtain ⟨calls, hdone⟩ := (hwrite _).2 hset
    have hpriority := priority_setPriority hset
    refine ⟨_, calls, hdone, ?_, ?_⟩
    · rw [hpriority, ← toNat_clampPriority]
      by_cases hone : n = 4 * n - 3
      · rw [if_pos hone]
      · rw [if_neg hone]
        rcases h with hfirst | ⟨_, hself, _⟩
        · omega
        · rw [hself]
    · intro other _ hne
      rw [hpriority]
      by_cases hother : other = 4 * n - 3
      · rw [if_pos hother, hother]
        rcases h with hfirst | ⟨_, _, hsame⟩
        · omega
        · exact hsame.symm
      · rw [if_neg hother]

/-- The priority word of a source is that source's. -/
structure PriorityWord (n : ℕ) (value : BitVec 32) (plic : Plic) : Prop where
  writes : WriteSets n value plic
  reads : ReadReturns n plic
  handled : Handled n plic

/-- Exactly when the priority word of a source is that source's: for source 1,
and where writing changes neither of the two sources that are mixed up. -/
theorem priorityWord_iff {n : ℕ} (hpos : 1 ≤ n) (hle : n ≤ 52)
    (value : BitVec 32) (plic : Plic) :
    PriorityWord n value plic ↔
      n = 1 ∨ n ≤ 13 ∧ plic.priority n = clampPriority value ∧
        plic.priority (4 * n - 3) = clampPriority value := by
  constructor
  · intro h
    exact (writeSets_iff hpos hle value plic).1 h.writes
  · intro h
    refine ⟨(writeSets_iff hpos hle value plic).2 h, ?_, ?_⟩
    · rw [readReturns_iff hpos hle]
      rcases h with hone | ⟨hn, hself, hother⟩
      · subst hone
        exact ⟨by decide, rfl⟩
      · exact ⟨hn, hother.trans hself.symm⟩
    · rw [handled_iff hpos hle]
      omega

/-- The word of source 1 is its own. -/
theorem priorityWord_iff_first : PriorityWord 1 5 new :=
  (priorityWord_iff (Nat.le_refl 1) (by decide) 5 new).2 (Or.inl rfl)

/-- The word of source 2 sets source 5, and that of source 14 is out of
bounds. -/
theorem priority_words_mixed_up :
    ¬ PriorityWord 2 5 new ∧
      (new.write (priorityAddress 2) (toLeBytes 4 (5 : BitVec 32))).any
        (fun after => after.1.priority 2 = 0 ∧ after.1.priority 5 = 5) ∧
      ¬ PriorityWord 14 5 new ∧
      new.write (priorityAddress 14) (toLeBytes 4 (5 : BitVec 32)) = none := by
  refine ⟨fun h => ?_, by decide, fun h => ?_, ?_⟩
  · rcases (writeSets_iff (by decide) (by decide) _ _).1 h.writes with h | h
    · exact absurd h (by decide)
    · exact absurd h.2.1 (by decide)
  · exact absurd ((handled_iff (by decide) (by decide) _).1 h.handled)
      (by decide)
  · rw [write_eq_none_iff]
    decide

/-! ## Words of bits -/

/-- The two rows of words with a bit for each source. -/
inductive Row where
  | enabled
  | pending
deriving DecidableEq, Repr

namespace Row

/-- Where the words of the row are. -/
def address (i : ℕ) : Row → BitVec 32
  | .enabled => BitVec.ofNat 32 (ENABLES_BASE_ADDR + 4 * i)
  | .pending => BitVec.ofNat 32 (PENDING_BASE_ADDR + 4 * i)

/-- What these addresses select. -/
def accessor (i : ℕ) : Row → AddrAccessor
  | .enabled => .enabled i
  | .pending => .pending i

/-- The bits of the row. -/
def bits (plic : Plic) : Row → BitArr
  | .enabled => plic.enabled
  | .pending => plic.pending

end Row

/-- Which bit of its word is that of a source. -/
inductive BitOrder where
  | lsb0
  | msb0
deriving DecidableEq, Repr

/-- Where the bit of a source is in its word. -/
def BitOrder.position (n : ℕ) : BitOrder → ℕ
  | .lsb0 => n % 32
  | .msb0 => 31 - n % 32

/-- A write of word `i` of the row gives each of its sources the bit of the
value, but for source 0, and leaves the other word alone. -/
def WordTakes (row : Row) (order : BitOrder) (i : ℕ) (value : BitVec 32)
    (plic : Plic) : Prop :=
  ∃ plic' calls,
    plic.write (row.address i) (toLeBytes 4 value) = some (plic', calls) ∧
      ∀ n ≤ 52, (row.bits plic').bit n =
        if n / 32 = i then n ≠ 0 && value.getLsbD (order.position n)
        else (row.bits plic).bit n

/-- No source of the first word has its bit set, nor has the top bit. -/
def Harmless (order : BitOrder) (value : BitVec 32) : Prop :=
  value.getLsbD 31 = false ∧
    ∀ n, 1 ≤ n → n ≤ 31 → value.getLsbD (order.position n) = false

/-- The mask has its topmost bit only. -/
theorem getLsbD_topMask (i : ℕ) :
    (0x80000000 : BitVec 32).getLsbD i = decide (i = 31) := by
  have hmask : (0x80000000 : BitVec 32) = 1#32 <<< 31 := rfl
  rw [hmask, getLsbD_one_shiftLeft]
  by_cases h : i = 31
  · subst h
    rfl
  · simp [h]

/-- Of the first word the mask keeps the bit of source 0 only. -/
theorem getLsbD_maskWord_zero (value : BitVec 32) (i : ℕ) :
    (maskWord 0 value).getLsbD i = (decide (i = 31) && value.getLsbD 31) := by
  unfold maskWord
  rw [if_pos rfl, BitVec.getLsbD_and, getLsbD_topMask, Bool.and_comm]
  by_cases h : i = 31
  · rw [h]
  · simp [h]

/-- The first word of a row was written. -/
structure WordWritten (row : Row) (value : BitVec 32) (plic plic' : Plic) :
    Prop where
  bits : ∀ n, (row.bits plic').bit n =
    if n / 32 = 0 then n % 32 = 0 && value.getLsbD 31
    else (row.bits plic).bit n
  others : ∀ other, other ≠ row → other.bits plic' = other.bits plic
  priorities : plic'.priorities = plic.priorities
  threshold : plic'.priorityThreshold = plic.priorityThreshold

/-- So of the first word only the bit of source 0 is kept. -/
theorem bit_maskWord_zero {array array' : BitArr} {value : BitVec 32}
    (h : array.setWord 0 (maskWord 0 value) = some array') (n : ℕ) :
    array'.bit n =
      if n / 32 = 0 then n % 32 = 0 && value.getLsbD 31 else array.bit n := by
  have htop : 31 - n % 32 = 31 ↔ n % 32 = 0 := by omega
  rw [BitArr.bit_setWord h, getLsbD_maskWord_zero, decide_eq_decide.2 htop]

/-- What becomes of a write of such a word. -/
theorem wordWritten_of_poke {row : Row} {value : BitVec 32}
    {plic plic' : Plic} (h : plic.poke (row.accessor 0) value = some plic') :
    WordWritten row value plic plic' := by
  cases row with
  | enabled =>
      have hmap : (plic.enabled.setWord 0 (maskWord 0 value)).map
          (fun enabled => { plic with enabled := enabled }) = some plic' := h
      obtain ⟨array, hset, hplic⟩ := Option.map_eq_some_iff.1 hmap
      subst hplic
      refine ⟨bit_maskWord_zero hset, ?_, rfl, rfl⟩
      intro other hother
      cases other with
      | enabled => exact absurd rfl hother
      | pending => rfl
  | pending =>
      have hmap : (plic.pending.setWord 0 (maskWord 0 value)).map
          (fun pending => { plic with pending := pending }) = some plic' := h
      obtain ⟨array, hset, hplic⟩ := Option.map_eq_some_iff.1 hmap
      subst hplic
      refine ⟨bit_maskWord_zero hset, ?_, rfl, rfl⟩
      intro other hother
      cases other with
      | enabled => rfl
      | pending => exact absurd rfl hother

/-- A write on the bus is one of the register. -/
theorem write_row_iff (row : Row) (value : BitVec 32) (plic plic' : Plic) :
    (∃ calls, plic.write (row.address 0) (toLeBytes 4 value) =
        some (plic', calls)) ↔
      plic.poke (row.accessor 0) value = some plic' := by
  have haligned : isAligned WORD (row.address 0) = true := by
    cases row <;> decide
  have haddress : AddrAccessor.fromAddress (row.address 0).toNat =
      some (row.accessor 0) := by
    cases row <;> decide
  rw [write_word haligned (length_toLeBytes ..) haddress,
    ofLeBytes_toLeBytes value rfl]

/-- The first word of a row can be written. -/
theorem write_row_zero (row : Row) (value : BitVec 32) (plic : Plic) :
    ∃ plic' calls,
      plic.write (row.address 0) (toLeBytes 4 value) = some (plic', calls) ∧
        WordWritten row value plic plic' := by
  have hpoke : plic.poke (row.accessor 0) value ≠ none := by
    rw [ne_eq, poke_eq_none_iff]
    cases row <;> exact Nat.not_le_of_lt (by decide)
  obtain ⟨plic', hsome⟩ := Option.ne_none_iff_exists'.1 hpoke
  obtain ⟨calls, hwrite⟩ := (write_row_iff row value plic plic').2 hsome
  exact ⟨plic', calls, hwrite, wordWritten_of_poke hsome⟩

/-- The second word of a row is out of bounds. -/
theorem write_row_one (row : Row) (value : BitVec 32) (plic : Plic) :
    plic.write (row.address 1) (toLeBytes 4 value) = none := by
  rw [write_eq_none_iff, length_toLeBytes]
  cases row <;> decide

/-- A write takes effect iff it is one of the first word that sets nothing. -/
theorem wordTakes_iff (row : Row) (order : BitOrder) {i : ℕ} (hi : i < 2)
    (value : BitVec 32) (plic : Plic) :
    WordTakes row order i value plic ↔ i = 0 ∧ Harmless order value := by
  by_cases hzero : i = 0
  · subst hzero
    obtain ⟨plic', calls, hwrite, hwritten⟩ := write_row_zero row value plic
    have hbits := hwritten.bits
    constructor
    · intro ⟨after, _, hafter, htakes⟩
      rw [hwrite] at hafter
      cases hafter
      refine ⟨rfl, ?_, ?_⟩
      · have hbit := htakes 0 (by decide)
        rw [hbits] at hbit
        simpa using hbit
      · intro n hpos hle
        have hword : n / 32 = 0 := by omega
        have hmod : n % 32 ≠ 0 := by omega
        have hne : n ≠ 0 := by omega
        have hbit := htakes n (by omega)
        rw [hbits, if_pos hword, if_pos hword] at hbit
        simpa [hmod, hne] using hbit
    · intro ⟨_, htop, hnone⟩
      refine ⟨plic', calls, hwrite, ?_⟩
      intro n hn
      rw [hbits]
      by_cases hword : n / 32 = 0
      · rw [if_pos hword, if_pos hword, htop, Bool.and_false]
        by_cases hpos : n = 0
        · simp [hpos]
        · rw [hnone n (by omega) (by omega), Bool.and_false]
      · rw [if_neg hword, if_neg hword]
  · have hone : i = 1 := by omega
    subst hone
    apply iff_of_false _ fun h => hzero h.1
    intro ⟨_, _, hwrite, _⟩
    rw [write_row_one] at hwrite
    exact nomatch hwrite

/-! ## Delivery -/

/-- No other pending source goes before this one. -/
def NoBetterPending (n : ℕ) (plic : Plic) : Prop :=
  ∀ other ≤ 52, other ≠ n → plic.pending.bit other = true →
    ¬ plic.Before other n

/-- After some write of an enable word, raising the source makes a claim
return it. -/
def Deliverable (n : ℕ) (plic : Plic) : Prop :=
  ∃ i < 2, ∃ value : BitVec 32, ∃ armed raised delivered calls calls',
    plic.write (Row.enabled.address i) (toLeBytes 4 value) =
        some (armed, calls) ∧
      armed.raise n = some (raised, calls') ∧
      raised.claimHighestPriorityPending = some (n, delivered)

/-- A source without a better one is the one that is served. -/
theorem highestPriorityPending_of_noBetter {n : ℕ} {plic : Plic}
    (hle : n ≤ 52) (hasserts : Asserts n plic)
    (hbetter : NoBetterPending n plic) :
    plic.highestPriorityPending = n := by
  have hmem := mem_candidates.2
    ⟨Nat.lt_succ_of_le hle, hasserts.enabled, hasserts.pending, rfl⟩
  unfold highestPriorityPending
  cases hbest : maxByPriority plic.candidates with
  | none =>
      cases hlist : plic.candidates with
      | nil =>
          rw [hlist] at hmem
          exact nomatch hmem
      | cons first rest =>
          rw [hlist] at hbest
          exact nomatch hbest
  | some best =>
      obtain ⟨index, p⟩ := best
      obtain ⟨hlt, _, hpending, hp⟩ :=
        mem_candidates.1 (mem_of_maxByPriority hbest)
      have hhigh : plic.priority n ≤ p := le_maxByPriority hbest _ hmem
      have habove : ¬ p ≤ plic.priorityThreshold :=
        Nat.not_le_of_lt (Nat.lt_of_lt_of_le hasserts.above hhigh)
      dsimp only
      rw [if_neg habove]
      by_contra hne
      apply hbetter index (by omega) hne hpending
      by_cases hsame : plic.priority n = plic.priority index
      · have hfirst : index ≤ n :=
          maxByPriority_le plic.sorted_candidates hbest _ hmem
            (hsame.trans hp.symm)
        exact Or.inr ⟨hsame, by omega⟩
      · rw [hp] at hhigh
        exact Or.inl (BitVec.lt_of_le_ne hhigh hsame)

/-- Raising a source sets its pending bit. -/
theorem raised {n : ℕ} {plic plic' : Plic} {calls : List Callback}
    (h : plic.raise n = some (plic', calls)) :
    plic'.enabled = plic.enabled ∧ plic'.priorities = plic.priorities ∧
      plic'.priorityThreshold = plic.priorityThreshold ∧
      ∀ i, plic'.pending.bit i =
        if i = n then true else plic.pending.bit i := by
  have hset := raise_cases h
  unfold setPending at hset
  obtain ⟨pending, hbit, hplic⟩ := Option.map_eq_some_iff.1 hset
  subst hplic
  exact ⟨rfl, rfl, rfl, BitArr.bit_set hbit⟩

/-- A source that a write of the first enable word leaves enabled. -/
theorem enabled_armed {value : BitVec 32} {plic armed : Plic}
    (h : WordWritten .enabled value plic armed) {n : ℕ} (hpos : 1 ≤ n) :
    armed.enabled.bit n = true ↔ 32 ≤ n ∧ plic.enabled.bit n = true := by
  have hbit : armed.enabled.bit n = _ := h.bits n
  rw [hbit]
  by_cases hword : n / 32 = 0
  · have hmod : n % 32 ≠ 0 := by omega
    rw [if_pos hword, decide_eq_false hmod]
    exact iff_of_false Bool.false_ne_true (by omega)
  · rw [if_neg hword]
    exact ⟨fun hbit => ⟨by omega, hbit⟩, fun hboth => hboth.2⟩

/-- A source above the threshold, without a better one, is delivered after
such a write iff the write could not reach its bit, which was set. -/
theorem deliverable_iff {n : ℕ} (hpos : 1 ≤ n) (hle : n ≤ 52) {plic : Plic}
    (habove : plic.priorityThreshold < plic.priority n)
    (hbetter : NoBetterPending n plic) :
    Deliverable n plic ↔ 32 ≤ n ∧ plic.enabled.bit n = true := by
  constructor
  · intro ⟨i, hi, value, armed, after, delivered, _, _, hwrite, hraise,
      hclaim⟩
    have hzero : i = 0 := by
      by_contra hne
      have hone : i = 1 := by omega
      rw [hone, write_row_one] at hwrite
      exact nomatch hwrite
    rw [hzero] at hwrite
    have hwritten := wordWritten_of_poke
      ((write_row_iff .enabled value plic armed).1 ⟨_, hwrite⟩)
    have hbest := (claimed_of_claim hclaim).best
    have hne : after.highestPriorityPending ≠ 0 := by omega
    have henabled := (asserts_highestPriorityPending hne).2.enabled
    rw [← hbest, (raised hraise).1] at henabled
    exact (enabled_armed hwritten hpos).1 henabled
  · intro h
    obtain ⟨armed, calls, hwrite, hwritten⟩ :=
      write_row_zero .enabled 0 plic
    obtain ⟨⟨after, calls'⟩, hraise⟩ :=
      Option.ne_none_iff_exists'.1 (armed.raise_ne_none (by omega : n < 64))
    obtain ⟨henabled, hpriorities, hthreshold, hpending⟩ := raised hraise
    have hpriority : ∀ index, after.priority index = plic.priority index := by
      intro index
      unfold priority
      rw [hpriorities, hwritten.priorities]
    have hsame : armed.pending = plic.pending :=
      hwritten.others .pending Row.noConfusion
    have hasserts : Asserts n after := by
      refine ⟨?_, ?_, ?_⟩
      · rw [henabled]
        exact (enabled_armed hwritten hpos).2 h
      · rw [hpending, if_pos rfl]
      · rw [hthreshold, hwritten.threshold, hpriority]
        exact habove
    have hbest : after.highestPriorityPending = n := by
      apply highestPriorityPending_of_noBetter hle hasserts
      intro other hother hne hbit
      rw [hpending, if_neg hne, hsame] at hbit
      unfold Before
      rw [hpriority, hpriority]
      exact hbetter other hother hne hbit
    obtain ⟨delivered, hclaim, _⟩ := after.claimed_claim
    rw [hbest] at hclaim
    exact ⟨0, by decide, 0, armed, after, delivered, calls, calls', hwrite,
      hraise, hclaim⟩

/-- Exactly when a write of a word of bits is taken, and which sources can be
enabled and delivered. -/
theorem enable_words_exact (plic : Plic) :
    (∀ row order i value, i < 2 →
      (WordTakes row order i value plic ↔ i = 0 ∧ Harmless order value)) ∧
    ∀ n, 1 ≤ n → n ≤ 52 → plic.priorityThreshold < plic.priority n →
      NoBetterPending n plic →
      (Deliverable n plic ↔ 32 ≤ n ∧ plic.enabled.bit n = true) :=
  ⟨fun row order _ value hi => wordTakes_iff row order hi value plic,
    fun _ hpos hle habove hbetter => deliverable_iff hpos hle habove hbetter⟩

/-- With nothing pending there is no better source. -/
theorem noBetterPending_of_zero {n : ℕ} {plic : Plic}
    (h : plic.pending = BitArr.ZERO) : NoBetterPending n plic := by
  intro other hother _ hbit
  have hclear : ∀ i ≤ 52, BitArr.ZERO.bit i = false := by decide
  rw [h, hclear other hother] at hbit
  exact nomatch hbit

/-- Source 40 is enabled, which no write can have done, and has priority 1. -/
def enabled40 : Plic :=
  { new with
    priorities := new.priorities.set 40 1
    enabled := { words := #v[0, 0x00800000] } }

/-- A write of zero is harmless, and lets the source through. -/
theorem enable_words_exact_enabled40 :
    WordTakes .enabled .msb0 0 0 enabled40 ∧ Deliverable 40 enabled40 :=
  ⟨((enable_words_exact enabled40).1 .enabled .msb0 0 0 (by decide)).2
      ⟨rfl, by unfold Harmless; simp⟩,
    ((enable_words_exact enabled40).2 40 (by decide) (by decide) (by decide)
      (noBetterPending_of_zero rfl)).2 (by decide)⟩

/-- Source 1 has priority 1. -/
def armed1 : Plic := { new with priorities := new.priorities.set 1 1 }

/-- Source 1 cannot be enabled, in either order of bits, and an access to the
second word panics. -/
theorem source_one_not_enabled :
    ¬ WordTakes .enabled .msb0 0 0x40000000 armed1 ∧
      ¬ WordTakes .enabled .lsb0 0 0x00000002 armed1 ∧
      ¬ WordTakes .pending .msb0 0 0x40000000 armed1 ∧
      armed1.write (Row.enabled.address 1) (toLeBytes 4 (0 : BitVec 32)) =
        none ∧
      armed1.priorityThreshold < armed1.priority 1 ∧
      NoBetterPending 1 armed1 ∧ ¬ Deliverable 1 armed1 := by
  have habove : armed1.priorityThreshold < armed1.priority 1 := by decide
  have hbetter : NoBetterPending 1 armed1 := noBetterPending_of_zero rfl
  refine ⟨fun h => ?_, fun h => ?_, fun h => ?_, write_row_one .enabled 0 _,
    habove, hbetter, fun h => ?_⟩
  · have hbit := ((wordTakes_iff _ _ (by decide) _ _).1 h).2.2 1
    exact absurd (hbit (by decide) (by decide)) (by decide)
  · have hbit := ((wordTakes_iff _ _ (by decide) _ _).1 h).2.2 1
    exact absurd (hbit (by decide) (by decide)) (by decide)
  · have hbit := ((wordTakes_iff _ _ (by decide) _ _).1 h).2.2 1
    exact absurd (hbit (by decide) (by decide)) (by decide)
  · have hword :=
      (deliverable_iff (by decide) (by decide) habove hbetter).1 h
    exact absurd hword.1 (by decide)

end Plic

end RedPlanet.Resources
