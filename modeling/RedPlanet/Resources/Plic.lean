import RedPlanet.Core.Basic

/-!
# Platform-level interrupt controller

`resources/plic.rs`.  `none` is a panic: the register an address selects may
lie outside the array behind it.  `read_eq_none_iff` and `write_eq_none_iff`
say which addresses those are.

The registers are looked up by `AddrAccessor.fromAddress`, whose results are
byte offsets, as in the source; `BadOffset` are the addresses for which such
an offset lies outside of its array.  The operations on sources and contexts,
and the callbacks that go with them, are here; what software sees of them is
in the modules that follow.
-/

namespace RedPlanet.Resources

open RedPlanet.Core RedPlanet.Verified

/-! ## Bit arrays -/

/-- `BitArr!(for 53, in u32, Msb0)`: two words, the first bit on top. -/
structure BitArr where
  words : Vector (BitVec 32) 2
deriving DecidableEq, Repr

namespace BitArr

/-- No bit is set. -/
def ZERO : BitArr where
  words := Vector.replicate 2 0

/-- Bit `index`; bits past the end read as zero. -/
def bit (index : ℕ) (array : BitArr) : Bool :=
  ((array.words[index / 32]?).getD 0).getLsbD (31 - index % 32)

/-- `*array.get_mut(index).unwrap() = value`. -/
def set (index : ℕ) (value : Bool) (array : BitArr) : Option BitArr :=
  if h : index / 32 < 2 then
    let word := setBit (array.words.get ⟨index / 32, h⟩) (31 - index % 32) value
    some { words := array.words.set (index / 32) word }
  else none

/-- `array.as_raw_slice()[i]`. -/
def word (i : ℕ) (array : BitArr) : Option (BitVec 32) := array.words[i]?

/-- `array.as_raw_mut_slice()[i] = value`. -/
def setWord (i : ℕ) (value : BitVec 32) (array : BitArr) : Option BitArr :=
  if h : i < 2 then some { words := array.words.set i value } else none

/-- Setting a bit that exists does not panic. -/
theorem set_ne_none {index : ℕ} (h : index < 64) (value : Bool)
    (array : BitArr) : array.set index value ≠ none := by
  unfold set
  rw [dif_pos (by omega)]
  exact Option.some_ne_none _

/-- There are two words. -/
theorem word_eq_none_iff {i : ℕ} {array : BitArr} :
    array.word i = none ↔ 2 ≤ i := by
  unfold word
  exact Vector.getElem?_eq_none_iff

/-- There are two words. -/
theorem setWord_eq_none_iff {i : ℕ} {value : BitVec 32} {array : BitArr} :
    array.setWord i value = none ↔ 2 ≤ i := by
  unfold setWord
  by_cases h : i < 2
  · rw [dif_pos h]
    exact iff_of_false (Option.some_ne_none _) (by omega)
  · rw [dif_neg h]
    exact iff_of_true rfl (by omega)

end BitArr

/-! ## State -/

/-- The priorities of the sources, their two rows of bits, and the threshold.
-/
structure Plic where
  priorities : Vector (BitVec 32) 53
  pending : BitArr
  enabled : BitArr
  priorityThreshold : BitVec 32
deriving DecidableEq, Repr

namespace Plic

/-- No source is pending or enabled, and all priorities are zero. -/
def new : Plic where
  priorities := Vector.replicate 53 0
  pending := BitArr.ZERO
  enabled := BitArr.ZERO
  priorityThreshold := 0

/-- A source asks for an interrupt. -/
def setPending (index : ℕ) (plic : Plic) : Option Plic :=
  (plic.pending.set index true).map fun pending =>
    { plic with pending := pending }

/-- A source was served. -/
def setComplete (index : ℕ) (plic : Plic) : Option Plic :=
  (plic.pending.set index false).map fun pending =>
    { plic with pending := pending }

/-- `value.min(7)`. -/
def clampPriority (value : BitVec 32) : BitVec 32 :=
  if value ≤ 7 then value else 7

/-- A priority is clamped to what is supported. -/
def setPriority (index : ℕ) (value : BitVec 32) (plic : Plic) : Option Plic :=
  if h : index < 53 then
    some { plic with
      priorities := plic.priorities.set index (clampPriority value) }
  else none

/-- The threshold is clamped like the priorities. -/
def setPriorityThreshold (value : BitVec 32) (plic : Plic) : Plic :=
  { plic with priorityThreshold := clampPriority value }

/-- `Iterator::max_by` on the priorities: of equal elements the last one. -/
def maxByPriority : List (ℕ × BitVec 32) → Option (ℕ × BitVec 32)
  | [] => none
  | first :: rest =>
      some (rest.foldl (fun x y => if y.2 < x.2 then x else y) first)

/-- The enabled and pending interrupts with their priorities, as the iterator
of `highest_priority_pending` yields them: the highest index first. -/
def candidates (plic : Plic) : List (ℕ × BitVec 32) :=
  (((List.range 53).filter fun idx =>
      plic.enabled.bit idx && plic.pending.bit idx).map fun idx =>
    (idx, (plic.priorities[idx]?).getD 0)).reverse

/-- Zero if no interrupts are pending. -/
def highestPriorityPending (plic : Plic) : ℕ :=
  match maxByPriority plic.candidates with
  | none => 0
  | some (idx, priority) =>
      if priority ≤ plic.priorityThreshold then 0 else idx

/-- The best source is returned and no longer pending. -/
def claimHighestPriorityPending (plic : Plic) : Option (ℕ × Plic) :=
  let idx := plic.highestPriorityPending
  if idx ≠ 0 then (plic.setComplete idx).map fun plic => (idx, plic)
  else some (0, plic)

/-- Some source is to interrupt the core. -/
def needsInterrupt (plic : Plic) : Bool := plic.highestPriorityPending ≠ 0

/-- `Plic::update`: the operation with its result, and the call it causes. -/
def update {R : Type} (op : Plic → Option (R × Plic)) (plic : Plic) :
    Option (R × Plic × List Callback) :=
  let irqBefore := plic.needsInterrupt
  (op plic).map fun (res, plic) =>
    let irqAfter := plic.needsInterrupt
    (res, plic,
      match irqBefore, irqAfter with
      | true, false => [.lower]
      | false, true => [.raise]
      | _, _ => [])

/-- `Plic::reset`. -/
def reset (plic : Plic) : Option (Plic × List Callback) :=
  (plic.update fun _ => some ((), new)).map fun (_, plic, calls) =>
    (plic, calls)

/-- `Plic::raise`. -/
def raise (index : ℕ) (plic : Plic) : Option (Plic × List Callback) :=
  (plic.update fun plic => (plic.setPending index).map fun plic =>
    ((), plic)).map fun (_, plic, calls) => (plic, calls)

/-- `Plic::lower`: ignored. -/
def lower (_index : ℕ) (plic : Plic) : Option (Plic × List Callback) :=
  some (plic, [])

/-! ## Bus accesses -/

/-- What an address selects, with the offset into its array. -/
inductive AddrAccessor where
  | priorities (i : ℕ)
  | pending (i : ℕ)
  | enabled (i : ℕ)
  | threshold
  | claimComplete
deriving DecidableEq, Repr

/-- The priority of source 1. -/
def PRIORITY_BASE_ADDR : ℕ := 0x4

/-- The priority of the last source. -/
def PRIORITY_LAST_ADDR : ℕ := 0xD0

/-- The first word of pending bits. -/
def PENDING_BASE_ADDR : ℕ := 0x1000

/-- The last word of pending bits. -/
def PENDING_LAST_ADDR : ℕ := 0x1004

/-- The first word of enable bits. -/
def ENABLES_BASE_ADDR : ℕ := 0x2000

/-- The last word of enable bits. -/
def ENABLES_LAST_ADDR : ℕ := 0x2004

/-- The priority threshold. -/
def THRESHOLD_ADDR : ℕ := 0x200000

/-- Claims an interrupt when it is read, and completes one when it is written.
-/
def CLAIMCOMPLETE_ADDR : ℕ := 0x200004

/-- The registers are looked up by byte offset, one entry a byte. -/
def AddrAccessor.fromAddress (address : ℕ) : Option AddrAccessor :=
  if PRIORITY_BASE_ADDR ≤ address ∧ address ≤ PRIORITY_LAST_ADDR then
    -- Plus one to skip the interrupt zero.
    some (.priorities (address - PRIORITY_BASE_ADDR + 1))
  else if PENDING_BASE_ADDR ≤ address ∧ address ≤ PENDING_LAST_ADDR then
    some (.pending (address - PENDING_BASE_ADDR))
  else if ENABLES_BASE_ADDR ≤ address ∧ address ≤ ENABLES_LAST_ADDR then
    some (.enabled (address - ENABLES_BASE_ADDR))
  else if address = THRESHOLD_ADDR then some .threshold
  else if address = CLAIMCOMPLETE_ADDR then some .claimComplete
  else none

/-- A plain register read. -/
def peek (accessor : AddrAccessor) (plic : Plic) : Option (BitVec 32) :=
  match accessor with
  | .priorities i => plic.priorities[i]?
  | .enabled i => plic.enabled.word i
  | .pending i => plic.pending.word i
  | .threshold => some plic.priorityThreshold
  | .claimComplete => some (BitVec.ofNat 32 plic.highestPriorityPending)

/-- `Plic::read_u32`: reading the claim register claims. -/
def readU32 (address : BitVec 32) (plic : Plic) :
    Option (BitVec 32 × Plic × List Callback) :=
  match AddrAccessor.fromAddress address.toNat with
  | none => some (0, plic, [])
  | some .claimComplete =>
      plic.update fun plic => plic.claimHighestPriorityPending.map
        fun (idx, plic) => (BitVec.ofNat 32 idx, plic)
  | some accessor => (plic.peek accessor).map fun value => (value, plic, [])

/-- `Plic::read_u32_debug`. -/
def readU32Debug (address : BitVec 32) (plic : Plic) : Option (BitVec 32) :=
  match AddrAccessor.fromAddress address.toNat with
  | none => some 0
  | some accessor => plic.peek accessor

/-- The value written to a word of enable or pending bits. -/
def maskWord (i : ℕ) (value : BitVec 32) : BitVec 32 :=
  if i = 0 then value &&& 0x80000000 else value

/-- The operation that `Plic::write_u32` makes. -/
def poke (accessor : AddrAccessor) (value : BitVec 32) (plic : Plic) :
    Option Plic :=
  match accessor with
  | .priorities i => plic.setPriority i value
  | .enabled i =>
      (plic.enabled.setWord i (maskWord i value)).map fun enabled =>
        { plic with enabled := enabled }
  | .pending i =>
      (plic.pending.setWord i (maskWord i value)).map fun pending =>
        { plic with pending := pending }
  | .threshold => some (plic.setPriorityThreshold value)
  | .claimComplete =>
      if 1 ≤ value ∧ value ≤ 52 then plic.setComplete value.toNat
      else some plic

/-- `Plic::write_u32`. -/
def writeU32 (address value : BitVec 32) (plic : Plic) :
    Option (Plic × List Callback) :=
  match AddrAccessor.fromAddress address.toNat with
  | none => some (plic, [])
  | some accessor =>
      (plic.update fun plic => (plic.poke accessor value).map
        fun plic => ((), plic)).map fun (_, plic, calls) => (plic, calls)

/-- `Plic::read` of the bus interface. -/
def read (address : BitVec 32) (buf : List (BitVec 8)) (plic : Plic) :
    Option (List (BitVec 8) × Plic × List Callback) :=
  if !isAligned WORD address then some (buf, plic, [])
  else if buf.length = 4 then
    (plic.readU32 address).map fun (value, plic, calls) =>
      (toLeBytes 4 value, plic, calls)
  else some (buf, plic, [])

/-- `Plic::read_debug`. -/
def readDebug (address : BitVec 32) (buf : List (BitVec 8)) (plic : Plic) :
    Option (List (BitVec 8)) :=
  if !isAligned WORD address then some buf
  else if buf.length = 4 then
    (plic.readU32Debug address).map (toLeBytes 4)
  else some buf

/-- `Plic::write` of the bus interface. -/
def write (address : BitVec 32) (buf : List (BitVec 8)) (plic : Plic) :
    Option (Plic × List Callback) :=
  if !isAligned WORD address then some (plic, [])
  else if buf.length = 4 then plic.writeU32 address (ofLeBytes 32 buf)
  else some (plic, [])

/-! ## Panics -/

/-- A register that lies outside the array behind it. -/
def AddrAccessor.OutOfRange : AddrAccessor → Prop
  | .priorities i => 53 ≤ i
  | .pending i | .enabled i => 2 ≤ i
  | .threshold | .claimComplete => False

/-- The word-aligned offsets of the registers outside their arrays: the
priorities from 0x38 on, and the second words of the two bit arrays. -/
def BadOffset (offset : ℕ) : Prop :=
  (0x38 ≤ offset ∧ offset ≤ 0xD0) ∨ offset = 0x1004 ∨ offset = 0x2004

instance (offset : ℕ) : Decidable (BadOffset offset) :=
  inferInstanceAs (Decidable (_ ∨ _ ∨ _))

/-- The addresses that panic, among those of words. -/
theorem outOfRange_fromAddress {address : ℕ} (h : address % 4 = 0) :
    (∃ accessor, AddrAccessor.fromAddress address = some accessor ∧
      accessor.OutOfRange) ↔ BadOffset address := by
  unfold AddrAccessor.fromAddress BadOffset PRIORITY_BASE_ADDR
    PRIORITY_LAST_ADDR PENDING_BASE_ADDR PENDING_LAST_ADDR ENABLES_BASE_ADDR
    ENABLES_LAST_ADDR THRESHOLD_ADDR CLAIMCOMPLETE_ADDR
  split
  · simp only [Option.some.injEq, exists_eq_left', AddrAccessor.OutOfRange]
    omega
  · split
    · simp only [Option.some.injEq, exists_eq_left', AddrAccessor.OutOfRange]
      omega
    · split
      · simp only [Option.some.injEq, exists_eq_left', AddrAccessor.OutOfRange]
        omega
      · split
        · simp only [Option.some.injEq, exists_eq_left',
            AddrAccessor.OutOfRange, false_iff]
          omega
        · split
          · simp only [Option.some.injEq, exists_eq_left',
              AddrAccessor.OutOfRange, false_iff]
            omega
          · simp only [reduceCtorEq, false_and, exists_false, false_iff]
            omega

/-- A register read panics iff the register is out of range. -/
theorem peek_eq_none_iff {accessor : AddrAccessor} {plic : Plic} :
    plic.peek accessor = none ↔ accessor.OutOfRange := by
  cases accessor with
  | priorities i => exact Vector.getElem?_eq_none_iff
  | enabled i => exact BitArr.word_eq_none_iff
  | pending i => exact BitArr.word_eq_none_iff
  | threshold => exact iff_of_false (Option.some_ne_none _) id
  | claimComplete => exact iff_of_false (Option.some_ne_none _) id

/-- Sources below 64 have a bit. -/
theorem setPending_ne_none {index : ℕ} (h : index < 64) (plic : Plic) :
    plic.setPending index ≠ none := by
  unfold setPending
  rw [ne_eq, Option.map_eq_none_iff]
  exact BitArr.set_ne_none h _ _

/-- Sources below 64 have a bit. -/
theorem setComplete_ne_none {index : ℕ} (h : index < 64) (plic : Plic) :
    plic.setComplete index ≠ none := by
  unfold setComplete
  rw [ne_eq, Option.map_eq_none_iff]
  exact BitArr.set_ne_none h _ _

/-- A register write panics iff the register is out of range. -/
theorem poke_eq_none_iff {accessor : AddrAccessor} {value : BitVec 32}
    {plic : Plic} : plic.poke accessor value = none ↔ accessor.OutOfRange := by
  cases accessor with
  | priorities i =>
      unfold poke setPriority
      by_cases h : i < 53
      · simp only [dif_pos h]
        exact iff_of_false (Option.some_ne_none _) (Nat.not_le_of_lt h)
      · simp only [dif_neg h]
        exact iff_of_true trivial (Nat.le_of_not_lt h)
  | enabled i =>
      unfold poke
      simp only [Option.map_eq_none_iff]
      exact BitArr.setWord_eq_none_iff
  | pending i =>
      unfold poke
      simp only [Option.map_eq_none_iff]
      exact BitArr.setWord_eq_none_iff
  | threshold => exact iff_of_false (Option.some_ne_none _) id
  | claimComplete =>
      apply iff_of_false _ id
      show ¬ (if 1 ≤ value ∧ value ≤ 52 then plic.setComplete value.toNat
        else some plic) = none
      by_cases h : 1 ≤ value ∧ value ≤ 52
      · rw [if_pos h]
        have hle : value.toNat ≤ 52 := h.2
        exact setComplete_ne_none (by omega) plic
      · rw [if_neg h]
        exact Option.some_ne_none _

/-- The best source is one of the list. -/
theorem mem_of_maxByPriority {list : List (ℕ × BitVec 32)}
    {best : ℕ × BitVec 32} (h : maxByPriority list = some best) :
    best ∈ list := by
  have hfold : ∀ (rest : List (ℕ × BitVec 32)) (first : ℕ × BitVec 32),
      rest.foldl (fun x y => if y.2 < x.2 then x else y) first
        ∈ first :: rest := by
    intro rest
    induction rest with
    | nil =>
        intro first
        exact List.mem_cons_self
    | cons head rest ih =>
        intro first
        rw [List.foldl_cons]
        by_cases hless : head.2 < first.2
        · rw [if_pos hless]
          cases List.mem_cons.1 (ih first) with
          | inl hfirst => exact List.mem_cons.2 (Or.inl hfirst)
          | inr hrest =>
              exact List.mem_cons_of_mem _ (List.mem_cons_of_mem _ hrest)
        · rw [if_neg hless]
          exact List.mem_cons_of_mem _ (ih head)
  cases list with
  | nil => exact nomatch h
  | cons first rest =>
      rw [← Option.some.inj h]
      exact hfold rest first

/-- What is claimed is a source of the controller. -/
theorem highestPriorityPending_lt (plic : Plic) :
    plic.highestPriorityPending < 53 := by
  unfold highestPriorityPending
  cases h : maxByPriority plic.candidates with
  | none => exact Nat.zero_lt_succ 52
  | some best =>
      have hmem := mem_of_maxByPriority h
      unfold candidates at hmem
      rw [List.mem_reverse, List.mem_map] at hmem
      obtain ⟨idx, hidx, hbest⟩ := hmem
      have hlt := List.mem_range.1 (List.mem_filter.1 hidx).1
      dsimp only
      split
      · decide
      · rw [← hbest]
        exact hlt

/-- The comparison before and after an operation does not panic. -/
theorem update_eq_none_iff {R : Type} {op : Plic → Option (R × Plic)}
    {plic : Plic} : plic.update op = none ↔ op plic = none := by
  unfold update
  exact Option.map_eq_none_iff

/-- A source that exists can be raised. -/
theorem raise_ne_none {index : ℕ} (h : index < 64) (plic : Plic) :
    plic.raise index ≠ none := by
  unfold raise
  rw [ne_eq, Option.map_eq_none_iff, update_eq_none_iff,
    Option.map_eq_none_iff]
  exact setPending_ne_none h plic

/-- A claim does not panic. -/
theorem claim_ne_none (plic : Plic) :
    plic.claimHighestPriorityPending ≠ none := by
  unfold claimHighestPriorityPending
  dsimp only
  split
  · rw [ne_eq, Option.map_eq_none_iff]
    have hlt := plic.highestPriorityPending_lt
    exact setComplete_ne_none (by omega) plic
  · exact Option.some_ne_none _

/-- An access panics iff it is the word access to a register out of range. -/
def BadAccess (address : BitVec 32) (size : ℕ) : Prop :=
  size = 4 ∧ isAligned WORD address = true ∧ BadOffset address.toNat

instance (address : BitVec 32) (size : ℕ) :
    Decidable (BadAccess address size) :=
  inferInstanceAs (Decidable (_ ∧ _ ∧ _))

/-- A read of a word panics iff its offset is outside of its array. -/
theorem readU32_eq_none_iff {address : BitVec 32} {plic : Plic} :
    plic.readU32 address = none ↔
      ∃ accessor, AddrAccessor.fromAddress address.toNat = some accessor ∧
        accessor.OutOfRange := by
  unfold readU32
  cases h : AddrAccessor.fromAddress address.toNat with
  | none => simp
  | some accessor =>
      simp only [Option.some.injEq, exists_eq_left']
      cases accessor with
      | claimComplete =>
          apply iff_of_false _ id
          rw [update_eq_none_iff, Option.map_eq_none_iff]
          exact claim_ne_none plic
      | _ =>
          simp only [Option.map_eq_none_iff]
          exact peek_eq_none_iff

/-- A read panics iff it is a bad access. -/
theorem read_eq_none_iff {address : BitVec 32} {buf : List (BitVec 8)}
    {plic : Plic} :
    plic.read address buf = none ↔ BadAccess address buf.length := by
  unfold read BadAccess
  by_cases haligned : isAligned WORD address = true
  · rw [if_neg (by rw [haligned]; decide)]
    by_cases h4 : buf.length = 4
    · rw [if_pos h4, Option.map_eq_none_iff, readU32_eq_none_iff,
        outOfRange_fromAddress (isAligned_WORD.1 haligned)]
      simp [h4, haligned]
    · rw [if_neg h4]
      exact iff_of_false (Option.some_ne_none _) fun h => h4 h.1
  · rw [if_pos (by simpa using haligned)]
    exact iff_of_false (Option.some_ne_none _) fun h => haligned h.2.1

/-! ## Debug reads -/

/-- What an update computes is what its operation computes. -/
theorem map_update {R : Type} (op : Plic → Option (R × Plic)) (plic : Plic) :
    (plic.update op).map Prod.fst = (op plic).map Prod.fst := by
  unfold update
  rw [Option.map_map]
  rfl

/-- What is claimed is the interrupt that was the highest before. -/
theorem map_claim (plic : Plic) :
    plic.claimHighestPriorityPending.map Prod.fst
      = some plic.highestPriorityPending := by
  obtain ⟨result, hclaim⟩ := Option.ne_none_iff_exists'.1 plic.claim_ne_none
  rw [hclaim, Option.map_some]
  unfold claimHighestPriorityPending at hclaim
  by_cases hne : plic.highestPriorityPending ≠ 0
  · rw [if_pos hne, Option.map_eq_some_iff] at hclaim
    obtain ⟨_, _, hresult⟩ := hclaim
    rw [← hresult]
  · rw [if_neg hne] at hclaim
    cases hclaim
    rw [not_not.1 hne]

/-- A debug read returns what a read does, without the claim. -/
theorem readU32Debug_eq (address : BitVec 32) (plic : Plic) :
    plic.readU32Debug address = (plic.readU32 address).map Prod.fst := by
  unfold readU32Debug readU32
  cases AddrAccessor.fromAddress address.toNat with
  | none => rfl
  | some accessor =>
      cases accessor with
      | claimComplete =>
          have hclaim := congrArg (Option.map (BitVec.ofNat 32)) (map_claim plic)
          show some (BitVec.ofNat 32 plic.highestPriorityPending) = _
          rw [map_update, Option.map_map, ← Option.map_some, ← hclaim,
            Option.map_map]
          rfl
      | _ =>
          dsimp only
          rw [Option.map_map]
          exact (Option.map_id' ..).symm

/-- A debug read fills the buffer like a read. -/
theorem readDebug_eq (address : BitVec 32) (buf : List (BitVec 8))
    (plic : Plic) :
    plic.readDebug address buf = (plic.read address buf).map Prod.fst := by
  unfold readDebug read
  by_cases haligned : (!isAligned WORD address) = true
  · rw [if_pos haligned, if_pos haligned]
    rfl
  · rw [if_neg haligned, if_neg haligned]
    by_cases h4 : buf.length = 4
    · rw [if_pos h4, if_pos h4, readU32Debug_eq, Option.map_map,
        Option.map_map]
      rfl
    · rw [if_neg h4, if_neg h4]
      rfl

/-- A debug read panics iff it is a bad access. -/
theorem readDebug_eq_none_iff {address : BitVec 32} {buf : List (BitVec 8)}
    {plic : Plic} :
    plic.readDebug address buf = none ↔ BadAccess address buf.length := by
  rw [readDebug_eq, Option.map_eq_none_iff, read_eq_none_iff]

/-! ## Writes -/

/-- A write of a word panics iff its offset is outside of its array. -/
theorem writeU32_eq_none_iff {address value : BitVec 32} {plic : Plic} :
    plic.writeU32 address value = none ↔
      ∃ accessor, AddrAccessor.fromAddress address.toNat = some accessor ∧
        accessor.OutOfRange := by
  unfold writeU32
  cases h : AddrAccessor.fromAddress address.toNat with
  | none => simp
  | some accessor =>
      simp only [Option.some.injEq, exists_eq_left', Option.map_eq_none_iff,
        update_eq_none_iff]
      exact poke_eq_none_iff

/-- A write panics iff it is a bad access. -/
theorem write_eq_none_iff {address : BitVec 32} {buf : List (BitVec 8)}
    {plic : Plic} :
    plic.write address buf = none ↔ BadAccess address buf.length := by
  unfold write BadAccess
  by_cases haligned : isAligned WORD address = true
  · rw [if_neg (by rw [haligned]; decide)]
    by_cases h4 : buf.length = 4
    · rw [if_pos h4, writeU32_eq_none_iff,
        outOfRange_fromAddress (isAligned_WORD.1 haligned)]
      simp [h4, haligned]
    · rw [if_neg h4]
      exact iff_of_false (Option.some_ne_none _) fun h => h4 h.1
  · rw [if_pos (by simpa using haligned)]
    exact iff_of_false (Option.some_ne_none _) fun h => haligned h.2.1

end Plic

end RedPlanet.Resources
