import Mathlib.Data.List.Nodup
import RedPlanet.Core.Basic
import RedPlanet.Verified.Limited

/-!
# Tables of counted items

`table.rs`: a growable slab of items with reference counts.  One word a slot
holds the count of a filled slot, or the link to the next empty one, told apart
by the top bit.  A count or a link that runs into that bit is noted as an
exceeded limit; `full` is the `expect("Table full")` of `add_item`.

`WF` says that the links run through the empty slots to the end of the table,
and `Becomes` what an operation does to the counts and the items: it changes
one slot.
-/

namespace RedPlanet.SpaceTime

open RedPlanet.Core RedPlanet.Verified Limited

/-- The index is a `u32`: `add_item` runs out of room before it runs out of
these. -/
structure TablePtr where
  index : ℕ
deriving DecidableEq, Repr

/-- `a - b` of two `u32`; `none` is a panic. -/
def subU32 [Build] (a b : BitVec 32) : Option (BitVec 32) :=
  if Build.overflowChecks ∧ a < b then none else some (a - b)

/-! ## Metadata -/

/-- The top bit, which marks the word of an empty slot. -/
def EMPTY_MASK : BitVec 32 := 0x80000000

/-- A reference count, or a link with the mask bit set. -/
structure ItemMetaData where
  bits : BitVec 32
deriving DecidableEq, Repr

namespace ItemMetaData

/-- The word of a slot that was just filled: one pointer. -/
def filled : ItemMetaData := ⟨1⟩

/-- The top bit is clear. -/
def isFilled (data : ItemMetaData) : Bool := data.bits &&& EMPTY_MASK = 0

/-- The number of pointers to a filled slot. -/
def refCount (data : ItemMetaData) : ℕ := data.bits.toNat

/-- The next slot of the free list behind an empty one. -/
def nextEmpty (data : ItemMetaData) : ℕ :=
  (data.bits &&& ~~~EMPTY_MASK).toNat

section Build

variable [Build]

/-- A link has room for 31 bits; debug builds assert that it fits. -/
def empty (next : ℕ) : Limited ItemMetaData := do
  let data : ItemMetaData := ⟨BitVec.ofNat 32 next ||| EMPTY_MASK⟩
  note (2 ^ 31 ≤ next)
  assert (!Build.overflowChecks || data.nextEmpty = next)
  return data

/-- One pointer more; a count that reaches the mask bit exceeds the limit. -/
def addRef (data : ItemMetaData) : Limited ItemMetaData := do
  note (2 ^ 31 ≤ data.refCount + 1)
  let bits ← unwrap (addU32 data.bits 1)
  return ⟨bits⟩

/-- One pointer less; a word that is zero underflows. -/
def removeRef (data : ItemMetaData) : Limited ItemMetaData := do
  let bits ← unwrap (subU32 data.bits 1)
  return ⟨bits⟩

end Build

theorem EMPTY_MASK_eq : EMPTY_MASK = BitVec.twoPow 32 31 := by decide

/-- A word has its top bit clear iff it is less than `2^31`. -/
theorem and_mask (bits : BitVec 32) :
    bits &&& EMPTY_MASK = 0 ↔ bits.toNat < 2 ^ 31 := by
  have hmsb : bits.getLsbD 31 = false ↔ bits.toNat < 2 ^ 31 := by
    have hlast : bits.msb = bits.getLsbD 31 := BitVec.msb_eq_getLsbD_last bits
    rw [← hlast, BitVec.msb_eq_false_iff_two_mul_lt]
    omega
  rw [← hmsb, EMPTY_MASK_eq, BitVec.and_twoPow]
  cases bits.getLsbD 31 with
  | true => decide
  | false => decide

/-- What is left of a word without its top bit. -/
theorem toNat_and_not_mask (bits : BitVec 32) :
    (bits &&& ~~~EMPTY_MASK).toNat = bits.toNat % 2 ^ 31 := by
  have hmask : (~~~EMPTY_MASK).toNat = 2 ^ 31 - 1 := by decide
  rw [BitVec.toNat_and, hmask, Nat.and_two_pow_sub_one_eq_mod]

/-- Counts of filled slots are less than `2^31`. -/
theorem isFilled_iff (data : ItemMetaData) :
    data.isFilled = true ↔ data.refCount < 2 ^ 31 := by
  unfold isFilled refCount
  rw [decide_eq_true_iff]
  exact and_mask data.bits

/-- A link has room for 31 bits. -/
theorem nextEmpty_link (next : ℕ) :
    nextEmpty ⟨BitVec.ofNat 32 next ||| EMPTY_MASK⟩ = next % 2 ^ 31 := by
  have hdrop : (BitVec.ofNat 32 next ||| EMPTY_MASK) &&& ~~~EMPTY_MASK
      = BitVec.ofNat 32 next &&& ~~~EMPTY_MASK := by
    ext i
    simp only [BitVec.getElem_and, BitVec.getElem_or, BitVec.getElem_not]
    cases (BitVec.ofNat 32 next)[i] <;> cases EMPTY_MASK[i] <;> rfl
  unfold nextEmpty
  rw [hdrop, toNat_and_not_mask, BitVec.toNat_ofNat]
  omega

/-- A link is not taken for a count. -/
theorem isFilled_link (next : ℕ) :
    isFilled ⟨BitVec.ofNat 32 next ||| EMPTY_MASK⟩ = false := by
  rw [Bool.eq_false_iff]
  intro hfilled
  have hzero : (BitVec.ofNat 32 next ||| EMPTY_MASK) &&& EMPTY_MASK = 0 :=
    of_decide_eq_true hfilled
  have hmask : EMPTY_MASK.getLsbD 31 = true := by decide
  have hbit := congrArg (fun bits : BitVec 32 => bits.getLsbD 31) hzero
  simp only [BitVec.getLsbD_and, BitVec.getLsbD_or, hmask] at hbit
  simp at hbit

variable [Build]

/-- Within the limits a link is read as it was written. -/
theorem empty_spec (next : ℕ) :
    (empty next).Ensures fun data =>
      data.isFilled = false ∧ data.nextEmpty = next := by
  unfold empty
  apply Ensures.bind Ensures.note
  intro _ hnote
  have hlt : next < 2 ^ 31 := Nat.lt_of_not_le (of_decide_eq_false hnote)
  have hnext : nextEmpty ⟨BitVec.ofNat 32 next ||| EMPTY_MASK⟩ = next := by
    rw [nextEmpty_link]
    omega
  apply Ensures.bind (Ensures.assert (by simp [hnext]))
  intro _ _
  exact Ensures.pure ⟨isFilled_link next, hnext⟩

/-- Within the limits the slot stays filled. -/
theorem addRef_spec {data : ItemMetaData} :
    data.addRef.Ensures fun data' =>
      data'.isFilled = true ∧ data'.refCount = data.refCount + 1 := by
  unfold addRef
  apply Ensures.bind Ensures.note
  intro _ hnote
  have hlt : data.refCount + 1 < 2 ^ 31 :=
    Nat.lt_of_not_le (of_decide_eq_false hnote)
  have hone : (1 : BitVec 32).toNat = 1 := by decide
  have hadd : addU32 data.bits 1 = some (data.bits + 1) := by
    unfold addU32
    rw [if_neg]
    unfold refCount at hlt
    omega
  apply Ensures.bind (Ensures.unwrap hadd)
  intro bits hbits
  have hcount : refCount ⟨bits⟩ = data.refCount + 1 := by
    unfold refCount at hlt ⊢
    subst hbits
    rw [BitVec.toNat_add, hone]
    omega
  refine Ensures.pure ⟨?_, hcount⟩
  rw [isFilled_iff, hcount]
  exact hlt

/-- The slot stays filled, and its word is one less. -/
theorem removeRef_spec {data : ItemMetaData} (hpos : 0 < data.refCount)
    (hfilled : data.isFilled = true) :
    data.removeRef.Ensures fun data' =>
      data'.isFilled = true ∧ data'.refCount = data.refCount - 1 := by
  rw [isFilled_iff] at hfilled
  have hone : (1 : BitVec 32).toNat = 1 := by decide
  have hsub : subU32 data.bits 1 = some (data.bits - 1) := by
    unfold subU32
    rw [if_neg]
    unfold refCount at hpos
    rw [BitVec.lt_def, hone]
    omega
  unfold removeRef
  apply Ensures.bind (Ensures.unwrap hsub)
  intro bits hbits
  have hcount : refCount ⟨bits⟩ = data.refCount - 1 := by
    unfold refCount at hpos hfilled ⊢
    subst hbits
    rw [BitVec.toNat_sub, hone]
    omega
  refine Ensures.pure ⟨?_, hcount⟩
  rw [isFilled_iff, hcount]
  omega

end ItemMetaData

/-! ## The table -/

/-- Items of empty slots are never read. -/
structure Table (α : Type) where
  metadata : List ItemMetaData
  table : List α
  nextEmpty : ℕ

/-- `each_ref().map(f)` with a closure that has a state. -/
def mapItems {α β σ : Type} (f : α → σ → Limited (β × σ)) :
    List α → σ → Limited (List β × σ)
  | [], state => pure ([], state)
  | item :: items, state => do
      let (item, state) ← f item state
      let (items, state) ← mapItems f items state
      return (item :: items, state)

namespace Table

variable {α σ : Type}

/-- A table without slots. -/
def new : Table α where
  metadata := []
  table := []
  nextEmpty := 0

/-- Fill the first empty slot, or add one. -/
def addItem (item : α) (t : Table α) : Limited (TablePtr × Table α) :=
  let index := t.nextEmpty
  if index = t.table.length then
    if index + 1 < 2 ^ 32 then
      pure (⟨index⟩,
        { metadata := t.metadata ++ [.filled]
          table := t.table ++ [item]
          nextEmpty := index + 1 })
    else full
  else do
    let data ← unwrap t.metadata[index]?
    let _ ← unwrap t.table[index]?
    return (⟨index⟩,
      { metadata := t.metadata.set index .filled
        table := t.table.set index item
        nextEmpty := data.nextEmpty })

/-- The item of a filled slot. -/
def getItem (ptr : TablePtr) (t : Table α) : Limited α := do
  let data ← unwrap t.metadata[ptr.index]?
  if data.isFilled then unwrap t.table[ptr.index]? else panic

/-- There is one pointer to the slot. -/
def isUniqueTablePtr (ptr : TablePtr) (t : Table α) : Limited Bool := do
  let data ← unwrap t.metadata[ptr.index]?
  return data.isFilled && data.refCount = 1

/-- What the reference points to. -/
def getItemMut (ptr : TablePtr) (t : Table α) : Limited (Option α) := do
  if ← t.isUniqueTablePtr ptr then
    let item ← unwrap t.table[ptr.index]?
    return some item
  else return none

/-- An assignment through the reference that `get_item_mut` returned. -/
def setItem (ptr : TablePtr) (item : α) (t : Table α) : Table α :=
  { t with table := t.table.set ptr.index item }

section Counts

variable [Build]

/-- The item, if this was the last pointer to it. -/
def popItem (ptr : TablePtr) (t : Table α) :
    Limited (Option α × Table α) := do
  let data ← unwrap t.metadata[ptr.index]?
  if data.isFilled then
    let data ← data.removeRef
    if data.refCount = 0 then
      let link ← ItemMetaData.empty t.nextEmpty
      let item ← unwrap t.table[ptr.index]?
      return (some item,
        { t with
          metadata := t.metadata.set ptr.index link
          nextEmpty := ptr.index })
    else
      return (none, { t with metadata := t.metadata.set ptr.index data })
  else panic

/-- `pop_item` without the item. -/
def dropTablePtr (ptr : TablePtr) (t : Table α) : Limited (Table α) := do
  let (_, t) ← t.popItem ptr
  return t

/-- The item, or a clone of it while other pointers are left. -/
def popOrGetItem (ptr : TablePtr) (t : Table α) :
    Limited (α × Table α) := do
  let (item, t) ← t.popItem ptr
  match item with
  | some item => return (item, t)
  | none => do
      let item ← unwrap t.table[ptr.index]?
      return (item, t)

/-- Another pointer to the slot. -/
def cloneTablePtr (ptr : TablePtr) (t : Table α) :
    Limited (TablePtr × Table α) := do
  let data ← unwrap t.metadata[ptr.index]?
  let data ← data.addRef
  return (ptr, { t with metadata := t.metadata.set ptr.index data })

/-- An array of `n` pointers in place of the one. -/
def cloneTablePtrArray (n : ℕ) (ptr : TablePtr) (t : Table α) :
    Limited (List TablePtr × Table α) := do
  let (out, t) ← mapItems cloneTablePtr (List.replicate n ptr) t
  let t ← t.dropTablePtr ptr
  return (out, t)

/-- A clone of the item equals the item. -/
def cloneItem (ptr : TablePtr) (t : Table α) :
    Limited (TablePtr × Table α) := do
  let item ← t.getItem ptr
  let (clone, t) ← t.addItem item
  let t ← t.dropTablePtr ptr
  return (clone, t)

/-- `state` is what the closure changes. -/
def cloneArrayItem (ptr : TablePtr) (cloneItem : α → σ → Limited (α × σ))
    (t : Table (List α)) (state : σ) :
    Limited (TablePtr × Table (List α) × σ) := do
  let item ← t.getItem ptr
  let (item, state) ← mapItems cloneItem item state
  let (clone, t) ← t.addItem item
  let t ← t.dropTablePtr ptr
  return (clone, t, state)

end Counts

/-! ## Counts and items -/

/-- The reference count of a slot; zero if it is not filled. -/
def refs (t : Table α) (ptr : TablePtr) : ℕ :=
  match t.metadata[ptr.index]? with
  | some data => if data.isFilled then data.refCount else 0
  | none => 0

/-- What a filled slot holds. -/
def item (t : Table α) (ptr : TablePtr) : Option α :=
  if 0 < t.refs ptr then t.table[ptr.index]? else none

/-- The links from `next` run through these slots to the end. -/
def FreeChain (metadata : List ItemMetaData) : ℕ → List ℕ → Prop
  | next, [] => next = metadata.length
  | next, i :: rest =>
      i = next ∧ ∃ data, metadata[i]? = some data ∧ data.isFilled = false ∧
        FreeChain metadata data.nextEmpty rest

/-- Filled slots are counted, and the links run through all others. -/
structure WF (t : Table α) : Prop where
  length : t.metadata.length = t.table.length
  room : t.table.length < 2 ^ 32
  counted : ∀ (i : ℕ) (data : ItemMetaData), t.metadata[i]? = some data →
    data.isFilled = true → 0 < data.refCount
  free : ∃ free : List ℕ, free.Nodup ∧
    FreeChain t.metadata t.nextEmpty free ∧
    ∀ (i : ℕ) (data : ItemMetaData), t.metadata[i]? = some data →
      data.isFilled = false → i ∈ free

/-- One slot now has this count and this item. -/
structure Becomes (t : Table α) (ptr : TablePtr) (count : ℕ)
    (held : Option α) (t' : Table α) : Prop where
  wf : t'.WF
  refs : ∀ q, t'.refs q = if q = ptr then count else t.refs q
  item : ∀ q, t'.item q = if q = ptr then held else t.item q

/-- Pointers are the same if their indices are. -/
theorem index_ne {p q : TablePtr} (h : q ≠ p) : q.index ≠ p.index := by
  intro hindex
  cases p
  cases q
  exact h (congrArg _ hindex)

/-- What an operation does to the words and items, by counts and items. -/
theorem becomes_of {t t' : Table α} {ptr : TablePtr} (hwf : t'.WF)
    (hmetadata : ∀ i, i ≠ ptr.index → t'.metadata[i]? = t.metadata[i]?)
    (htable : ∀ i, i ≠ ptr.index → t'.table[i]? = t.table[i]?) :
    t.Becomes ptr (t'.refs ptr) (t'.item ptr) t' := by
  have hrefs : ∀ q, q ≠ ptr → t'.refs q = t.refs q := by
    intro q hq
    unfold refs
    rw [hmetadata _ (index_ne hq)]
  refine ⟨hwf, ?_, ?_⟩
  · intro q
    by_cases hq : q = ptr
    · rw [if_pos hq, hq]
    · rw [if_neg hq, hrefs q hq]
  · intro q
    by_cases hq : q = ptr
    · rw [if_pos hq, hq]
    · rw [if_neg hq]
      unfold item
      rw [hrefs q hq, htable _ (index_ne hq)]

/-- The count of a filled slot. -/
theorem refs_of_filled {t : Table α} {ptr : TablePtr} {data : ItemMetaData}
    (h : t.metadata[ptr.index]? = some data) (hfilled : data.isFilled = true) :
    t.refs ptr = data.refCount := by
  simp [refs, h, hfilled]

/-- Nobody counts for an empty slot. -/
theorem refs_of_empty {t : Table α} {ptr : TablePtr} {data : ItemMetaData}
    (h : t.metadata[ptr.index]? = some data)
    (hempty : data.isFilled = false) : t.refs ptr = 0 := by
  simp [refs, h, hempty]

/-- A slot with a count is filled. -/
theorem filled_of_refs {t : Table α} {ptr : TablePtr}
    (h : 0 < t.refs ptr) :
    ∃ data, t.metadata[ptr.index]? = some data ∧ data.isFilled = true ∧
      t.refs ptr = data.refCount := by
  cases hdata : t.metadata[ptr.index]? with
  | none => simp [refs, hdata] at h
  | some data =>
      by_cases hfilled : data.isFilled = true
      · exact ⟨data, rfl, hfilled, refs_of_filled hdata hfilled⟩
      · simp [refs, hdata, hfilled] at h

/-- A filled slot lies in the table and holds an item. -/
theorem WF.item_of_refs {t : Table α} (hwf : t.WF) {ptr : TablePtr}
    (h : 0 < t.refs ptr) :
    ∃ item, t.item ptr = some item ∧ t.table[ptr.index]? = some item := by
  obtain ⟨data, hdata, _⟩ := filled_of_refs h
  have hlt : ptr.index < t.table.length := by
    rw [← hwf.length]
    exact (List.getElem?_eq_some_iff.1 hdata).1
  refine ⟨t.table[ptr.index], ?_, List.getElem?_eq_getElem hlt⟩
  unfold item
  rw [if_pos h, List.getElem?_eq_getElem hlt]

/-- An item is in a filled slot. -/
theorem refs_of_item {t : Table α} {ptr : TablePtr} {x : α}
    (h : t.item ptr = some x) :
    0 < t.refs ptr ∧ t.table[ptr.index]? = some x := by
  unfold item at h
  by_cases hpos : 0 < t.refs ptr
  · rw [if_pos hpos] at h
    exact ⟨hpos, h⟩
  · rw [if_neg hpos] at h
    exact nomatch h

/-- The slot is filled, all others are as before. -/
theorem becomes_filled {t t' : Table α} (ptr : TablePtr)
    {data : ItemMetaData} {x : α} (hwf : t'.WF)
    (hmetadata : ∀ i, i ≠ ptr.index → t'.metadata[i]? = t.metadata[i]?)
    (htable : ∀ i, i ≠ ptr.index → t'.table[i]? = t.table[i]?)
    (hdata : t'.metadata[ptr.index]? = some data)
    (hfilled : data.isFilled = true) (hx : t'.table[ptr.index]? = some x) :
    t.Becomes ptr data.refCount (some x) t' := by
  have hrefs : t'.refs ptr = data.refCount := refs_of_filled hdata hfilled
  have hpos := hwf.counted _ _ hdata hfilled
  have hitem : t'.item ptr = some x := by
    unfold item
    rw [hrefs, if_pos hpos]
    exact hx
  have hbecomes := becomes_of hwf hmetadata htable
  rw [hrefs, hitem] at hbecomes
  exact hbecomes

/-- The slot is empty, all others are as before. -/
theorem becomes_empty {t t' : Table α} (ptr : TablePtr)
    {data : ItemMetaData} (hwf : t'.WF)
    (hmetadata : ∀ i, i ≠ ptr.index → t'.metadata[i]? = t.metadata[i]?)
    (htable : ∀ i, i ≠ ptr.index → t'.table[i]? = t.table[i]?)
    (hdata : t'.metadata[ptr.index]? = some data)
    (hempty : data.isFilled = false) : t.Becomes ptr 0 none t' := by
  have hrefs : t'.refs ptr = 0 := refs_of_empty hdata hempty
  have hitem : t'.item ptr = none := by
    unfold item
    rw [hrefs, if_neg (Nat.lt_irrefl 0)]
  have hbecomes := becomes_of hwf hmetadata htable
  rw [hrefs, hitem] at hbecomes
  exact hbecomes

/-! ## The free list -/

/-- The slots of the free list are empty. -/
theorem FreeChain.empty_of_mem {metadata : List ItemMetaData} {next : ℕ}
    {free : List ℕ} (h : FreeChain metadata next free) {i : ℕ}
    (hi : i ∈ free) :
    ∃ data, metadata[i]? = some data ∧ data.isFilled = false := by
  induction free generalizing next with
  | nil => exact absurd hi List.not_mem_nil
  | cons j rest ih =>
      obtain ⟨_, data, hdata, hempty, hrest⟩ := h
      rcases List.mem_cons.1 hi with hij | hmem
      · rw [hij]
        exact ⟨data, hdata, hempty⟩
      · exact ih hrest hmem

/-- A filled slot is not among them. -/
theorem FreeChain.not_mem_of_filled {metadata : List ItemMetaData}
    {next : ℕ} {free : List ℕ} (h : FreeChain metadata next free) {i : ℕ}
    {data : ItemMetaData} (hdata : metadata[i]? = some data)
    (hfilled : data.isFilled = true) : i ∉ free := by
  intro hmem
  obtain ⟨data', hdata', hempty⟩ := h.empty_of_mem hmem
  rw [hdata] at hdata'
  cases hdata'
  rw [hfilled] at hempty
  cases hempty

/-- The free list does not change when another slot does. -/
theorem FreeChain.set {metadata : List ItemMetaData} {next : ℕ}
    {free : List ℕ} (h : FreeChain metadata next free) {i : ℕ}
    (hi : i ∉ free) (data : ItemMetaData) :
    FreeChain (metadata.set i data) next free := by
  induction free generalizing next with
  | nil =>
      unfold FreeChain at h ⊢
      rw [List.length_set]
      exact h
  | cons j rest ih =>
      obtain ⟨hnext, old, hold, hempty, hrest⟩ := h
      rw [List.mem_cons, not_or] at hi
      refine ⟨hnext, old, ?_, hempty, ih hrest hi.2⟩
      rw [List.getElem?_set_ne hi.1]
      exact hold

/-- A new table has no slots. -/
theorem wf_new : (new : Table α).WF where
  length := rfl
  room := Nat.two_pow_pos 32
  counted := by simp [new]
  free := ⟨[], List.nodup_nil, rfl, by simp [new]⟩

end Table

end RedPlanet.SpaceTime
