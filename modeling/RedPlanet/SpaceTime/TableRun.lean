import Mathlib.Logic.Function.Basic
import RedPlanet.SpaceTime.Ownership

/-!
# Runs of one table

A table over its life: its operations in any order, on pointers that were
handed out and not dropped since.  `Slab` keeps these pointers, and what was
stored for each, beside the table; `Exact` is what holds of the table in every
state of a run with fewer than `2^31` slots and references.

`Consistent` is the invariant, with a lemma for each operation, and
`Run.freeList_exact` draws `Exact` from it: the free list has the empty slots,
each once, the counts are the numbers of pointers, and what is looked up is
what was stored.
-/

namespace RedPlanet.SpaceTime

open RedPlanet.Core RedPlanet.Verified Limited

variable {α σ : Type}

/-! ## Steps -/

namespace Table

/-- `clone_item` with its closure; `state` is what the closure changes. -/
def cloneItemBy [Build] (ptr : TablePtr)
    (cloneItem : α → σ → Limited (α × σ)) (t : Table α) (state : σ) :
    Limited (TablePtr × Table α × σ) := do
  let item ← t.getItem ptr
  let (item, state) ← cloneItem item state
  let (clone, t) ← t.addItem item
  let t ← t.dropTablePtr ptr
  return (clone, t, state)

/-- `clone_array_item` is `clone_item` entry by entry. -/
theorem cloneArrayItem_eq [Build] (ptr : TablePtr)
    (cloneItem : α → σ → Limited (α × σ)) (t : Table (List α)) (state : σ) :
    t.cloneArrayItem ptr cloneItem state
      = t.cloneItemBy ptr (mapItems cloneItem) state := rfl

/-- A filled slot, and its metadata. -/
def FilledAt (t : Table α) (i : ℕ) (data : ItemMetaData) : Prop :=
  t.metadata[i]? = some data ∧ data.isFilled = true

/-- A slot of the table that is not filled. -/
def UnfilledAt (t : Table α) (i : ℕ) : Prop :=
  ∃ data, t.metadata[i]? = some data ∧ data.isFilled = false

end Table

/-- A table with the pointers that are handed out, and the item that was
stored when each was. -/
structure Slab (α : Type) where
  table : Table α
  held : List TablePtr
  stored : TablePtr → Option α

/-- What a closure makes of a stored item. -/
def cloned (cloneItem : α → σ → Limited (α × σ)) (state : σ)
    (stored : Option α) : Option α :=
  stored.bind fun item => (cloneItem item state).result.toOption.map Prod.fst

namespace Slab

def new : Slab α where
  table := .new
  held := []
  stored := fun _ => none

/-- Fewer than `2^31` slots, and fewer than `2^31` references to each. -/
structure Few (slab : Slab α) : Prop where
  slots : slab.table.table.length < 2 ^ 31
  refs : ∀ ptr, slab.held.count ptr < 2 ^ 31

section Build

variable [Build]

/-- One call, on a pointer that is held if it takes one. -/
inductive Step : {α : Type} → Slab α → Slab α → Prop
  | addItem {α : Type} {slab : Slab α} {item : α} {ptr : TablePtr}
      {table : Table α} :
      (slab.table.addItem item).result = .ok (ptr, table) →
      Step slab
        { table, held := ptr :: slab.held
          stored := Function.update slab.stored ptr (some item) }
  | cloneTablePtr {α : Type} {slab : Slab α} {ptr clone : TablePtr}
      {table : Table α} : ptr ∈ slab.held →
      (slab.table.cloneTablePtr ptr).result = .ok (clone, table) →
      Step slab { slab with table, held := clone :: slab.held }
  | cloneItem {α σ : Type} {slab : Slab α} {ptr clone : TablePtr}
      {f : α → σ → Limited (α × σ)} {state state' : σ} {table : Table α} :
      ptr ∈ slab.held →
      (slab.table.cloneItemBy ptr f state).result = .ok (clone, table, state') →
      Step slab
        { table, held := clone :: slab.held.erase ptr
          stored := Function.update slab.stored clone
            (cloned f state (slab.stored ptr)) }
  | cloneArrayItem {α σ : Type} {slab : Slab (List α)} {ptr clone : TablePtr}
      {f : α → σ → Limited (α × σ)} {state state' : σ}
      {table : Table (List α)} : ptr ∈ slab.held →
      (slab.table.cloneArrayItem ptr f state).result
        = .ok (clone, table, state') →
      Step slab
        { table, held := clone :: slab.held.erase ptr
          stored := Function.update slab.stored clone
            (cloned (mapItems f) state (slab.stored ptr)) }
  | popItem {α : Type} {slab : Slab α} {ptr : TablePtr} {item : Option α}
      {table : Table α} : ptr ∈ slab.held →
      (slab.table.popItem ptr).result = .ok (item, table) →
      Step slab { slab with table, held := slab.held.erase ptr }
  | dropTablePtr {α : Type} {slab : Slab α} {ptr : TablePtr}
      {table : Table α} : ptr ∈ slab.held →
      (slab.table.dropTablePtr ptr).result = .ok table →
      Step slab { slab with table, held := slab.held.erase ptr }

/-- Calls one after the other, from a new table, never too many slots or
references. -/
inductive Run : Slab α → Prop
  | new : Run Slab.new
  | step {slab slab' : Slab α} :
      Run slab → Step slab slab' → slab'.Few → Run slab'

end Build

end Slab

/-! ## Within the bounds no limit is exceeded -/

namespace Table

theorem addItem_exceeded (item : α) (t : Table α) :
    (t.addItem item).exceeded = false := by
  unfold addItem
  dsimp only
  by_cases hend : t.nextEmpty = t.table.length
  · rw [if_pos hend]
    by_cases hroom : t.nextEmpty + 1 < 2 ^ 32
    · rw [if_pos hroom]
      rfl
    · rw [if_neg hroom]
      rfl
  · rw [if_neg hend]
    apply exceeded_bind (exceeded_unwrap _)
    intro data _
    apply exceeded_bind (exceeded_unwrap _)
    intro _ _
    rfl

theorem getItem_exceeded (ptr : TablePtr) (t : Table α) :
    (t.getItem ptr).exceeded = false := by
  unfold getItem
  apply exceeded_bind (exceeded_unwrap _)
  intro data _
  by_cases hfilled : data.isFilled = true
  · rw [if_pos hfilled]
    exact exceeded_unwrap _
  · rw [if_neg hfilled]
    rfl

/-- The next empty slot is one of the table, or follows the last one. -/
theorem WF.nextEmpty_le {t : Table α} (h : t.WF) :
    t.nextEmpty ≤ t.table.length := by
  obtain ⟨free, _, hchain, _⟩ := h.free
  rw [← h.length]
  cases free with
  | nil => exact Nat.le_of_eq hchain
  | cons i rest =>
      obtain ⟨hi, data, hdata, _⟩ := hchain
      have hlt := (List.getElem?_eq_some_iff.1 hdata).1
      omega

/-- Up to `2^32 - 1` slots there is room for one more. -/
theorem WF.addItem_ok {t : Table α} (h : t.WF)
    (hroom : t.table.length + 1 < 2 ^ 32) (item : α) :
    ∃ r, (t.addItem item).result = .ok r := by
  unfold addItem
  dsimp only
  by_cases hend : t.nextEmpty = t.table.length
  · rw [if_pos hend, if_pos (by omega)]
    exact ⟨_, rfl⟩
  · rw [if_neg hend]
    obtain ⟨data, hdata, _, hlt, _⟩ := becomes_reuse h item hend
    rw [hdata, List.getElem?_eq_getElem hlt, unwrap_some, unwrap_some,
      pure_bind, pure_bind]
    exact ⟨_, rfl⟩

/-- A list that grows is as before elsewhere. -/
theorem getElem?_push_ne {β : Type} {l : List β} {i : ℕ}
    (hi : i ≠ l.length) (x : β) : (l ++ [x])[i]? = l[i]? := by
  rcases Nat.lt_or_ge i l.length with hlt | hge
  · exact List.getElem?_append_left hlt
  · rw [List.getElem?_eq_none hge]
    apply List.getElem?_eq_none
    rw [List.length_append, List.length_singleton]
    omega

/-- `add_item` writes one slot. -/
theorem addItem_other {t t' : Table α} {item : α} {ptr : TablePtr}
    (h : t.WF) (hok : (t.addItem item).result = .ok (ptr, t')) {i : ℕ}
    (hi : i ≠ ptr.index) :
    t'.metadata[i]? = t.metadata[i]? ∧ t'.table[i]? = t.table[i]? := by
  unfold addItem at hok
  dsimp only at hok
  by_cases hend : t.nextEmpty = t.table.length
  · rw [if_pos hend] at hok
    by_cases hroom : t.nextEmpty + 1 < 2 ^ 32
    · rw [if_pos hroom] at hok
      cases hok
      have hlength := h.length
      have hi : i ≠ t.nextEmpty := hi
      exact ⟨getElem?_push_ne (by omega) _, getElem?_push_ne (by omega) _⟩
    · rw [if_neg hroom] at hok
      exact nomatch hok
  · rw [if_neg hend] at hok
    obtain ⟨data, hdata, _, hlt, _⟩ := becomes_reuse h item hend
    rw [hdata, List.getElem?_eq_getElem hlt, unwrap_some, unwrap_some,
      pure_bind, pure_bind] at hok
    cases hok
    exact ⟨List.getElem?_set_ne (Ne.symm hi),
      List.getElem?_set_ne (Ne.symm hi)⟩

section Build

variable [Build] {t : Table α} {ptr : TablePtr}

theorem removeRef_exceeded (data : ItemMetaData) :
    data.removeRef.exceeded = false := by
  unfold ItemMetaData.removeRef
  apply exceeded_bind (exceeded_unwrap _)
  intro bits _
  rfl

theorem empty_exceeded {next : ℕ} (h : next < 2 ^ 31) :
    (ItemMetaData.empty next).exceeded = false := by
  have hnote : (note (2 ^ 31 ≤ next)).exceeded = false := by
    have hlt : ¬2 ^ 31 ≤ next := Nat.not_le.2 h
    exact decide_eq_false hlt
  have hassert : ∀ b, (assert b).exceeded = false := fun b =>
    (Unlimited.assert b).exceeded
  unfold ItemMetaData.empty
  apply exceeded_bind hnote
  intro _ _
  apply exceeded_bind (hassert _)
  intro _ _
  rfl

theorem popItem_exceeded (h : t.WF) (hslots : t.table.length < 2 ^ 31) :
    (t.popItem ptr).exceeded = false := by
  have hnext : t.nextEmpty < 2 ^ 31 := Nat.lt_of_le_of_lt h.nextEmpty_le hslots
  unfold popItem
  apply exceeded_bind (exceeded_unwrap _)
  intro data _
  by_cases hfilled : data.isFilled = true
  · rw [if_pos hfilled]
    apply exceeded_bind (removeRef_exceeded data)
    intro data' _
    by_cases hlast : data'.refCount = 0
    · rw [if_pos hlast]
      apply exceeded_bind (empty_exceeded hnext)
      intro link _
      apply exceeded_bind (exceeded_unwrap _)
      intro _ _
      rfl
    · rw [if_neg hlast]
      rfl
  · rw [if_neg hfilled]
    rfl

/-- Dropping a pointer needs no room. -/
theorem popItem_roomy (t : Table α) (ptr : TablePtr) :
    (t.popItem ptr).Roomy := by
  have hempty : ∀ next, (ItemMetaData.empty next).Roomy := by
    intro next
    apply (Roomy.note _).bind
    intro _
    exact Roomy.bind (Unlimited.assert _).room fun _ => Roomy.pure _
  unfold popItem
  apply (Roomy.unwrap _).bind
  intro data
  by_cases hfilled : data.isFilled = true
  · rw [if_pos hfilled]
    apply Roomy.bind ((Roomy.unwrap _).bind fun _ => Roomy.pure _)
    intro data'
    by_cases hlast : data'.refCount = 0
    · rw [if_pos hlast]
      apply (hempty _).bind
      intro _
      exact (Roomy.unwrap _).bind fun _ => Roomy.pure _
    · rw [if_neg hlast]
      exact Roomy.pure _
  · rw [if_neg hfilled]
    exact Unlimited.panic.room

/-- One more reference stays below the mask bit. -/
theorem cloneTablePtr_exceeded (h : t.refs ptr + 1 < 2 ^ 31)
    (hpos : 0 < t.refs ptr) : (t.cloneTablePtr ptr).exceeded = false := by
  obtain ⟨data, hdata, _, hrefs⟩ := filled_of_refs hpos
  have hnote : (note (2 ^ 31 ≤ data.refCount + 1)).exceeded = false := by
    have hlt : ¬2 ^ 31 ≤ data.refCount + 1 := by omega
    exact decide_eq_false hlt
  unfold cloneTablePtr ItemMetaData.addRef
  rw [hdata, unwrap_some, pure_bind, bind_assoc]
  apply exceeded_bind hnote
  intro _ _
  rw [bind_assoc]
  apply exceeded_bind (exceeded_unwrap _)
  intro _ _
  rfl

/-- The clone is the same pointer. -/
theorem cloneTablePtr_ptr {clone : TablePtr} {t' : Table α}
    (hok : (t.cloneTablePtr ptr).result = .ok (clone, t')) : clone = ptr := by
  unfold cloneTablePtr at hok
  obtain ⟨_, _, hok⟩ := exists_of_bind_ok hok
  obtain ⟨_, _, hok⟩ := exists_of_bind_ok hok
  cases hok
  rfl

/-- A drop leaves the slots' contents where they are. -/
theorem popItem_table {t' : Table α} {item : Option α}
    (hok : (t.popItem ptr).result = .ok (item, t')) :
    t'.table = t.table := by
  unfold popItem at hok
  obtain ⟨data, _, hok⟩ := exists_of_bind_ok hok
  by_cases hfilled : data.isFilled = true
  · rw [if_pos hfilled] at hok
    obtain ⟨data', _, hok⟩ := exists_of_bind_ok hok
    by_cases hlast : data'.refCount = 0
    · rw [if_pos hlast] at hok
      obtain ⟨link, _, hok⟩ := exists_of_bind_ok hok
      obtain ⟨_, _, hok⟩ := exists_of_bind_ok hok
      cases hok
      rfl
    · rw [if_neg hlast] at hok
      cases hok
      rfl
  · rw [if_neg hfilled] at hok
    exact nomatch hok

theorem dropTablePtr_table {t' : Table α}
    (hok : (t.dropTablePtr ptr).result = .ok t') : t'.table = t.table := by
  unfold dropTablePtr at hok
  obtain ⟨⟨item, t''⟩, hpop, hok⟩ := exists_of_bind_ok hok
  cases hok
  exact popItem_table hpop

end Build

end Table

/-! ## Every step keeps counts and pointers in agreement -/

namespace Slab

variable {slab slab' : Slab α} {ptr : TablePtr}

/-- The counts are the pointers, and the items what was stored for them. -/
structure Consistent (slab : Slab α) : Prop where
  counted : slab.table.Counted fun ptr => slab.held.count ptr
  stored : ∀ ptr ∈ slab.held, slab.table.item ptr = slab.stored ptr

theorem consistent_new : (new : Slab α).Consistent where
  counted :=
    { wf := Table.wf_new
      refs := fun _ => rfl }
  stored := fun _ hptr => absurd hptr List.not_mem_nil

theorem Consistent.refs_pos (h : slab.Consistent) (hptr : ptr ∈ slab.held) :
    0 < slab.table.refs ptr := by
  rw [h.counted.refs]
  exact List.count_pos_iff.2 hptr

/-- One slot changes, and the pointers to it. -/
theorem Consistent.becomes {count : ℕ} {item : Option α} {table : Table α}
    (h : slab.Consistent) (hbecomes : slab.table.Becomes ptr count item table)
    {held : List TablePtr} {stored : TablePtr → Option α}
    (hcount : held.count ptr = count)
    (hheld : ∀ q, q ≠ ptr → held.count q = slab.held.count q)
    (hitem : ptr ∈ held → item = stored ptr)
    (hstored : ∀ q, q ≠ ptr → stored q = slab.stored q) :
    Consistent { table, held, stored } where
  counted := h.counted.becomes hbecomes hcount hheld
  stored := by
    intro q hq
    by_cases hself : q = ptr
    · subst hself
      exact hbecomes.item_self.trans (hitem hq)
    · have hmem : q ∈ slab.held := by
        rw [← List.count_pos_iff, ← hheld q hself]
        exact List.count_pos_iff.2 hq
      show table.item q = stored q
      rw [hbecomes.item_ne hself, hstored q hself]
      exact h.stored q hmem

theorem Consistent.addItem (h : slab.Consistent) {item : α}
    {table : Table α} (hok : (slab.table.addItem item).result = .ok (ptr, table)) :
    slab.table.refs ptr = 0 ∧
      Consistent
        { table, held := ptr :: slab.held
          stored := Function.update slab.stored ptr (some item) } := by
  obtain ⟨hfree, hbecomes⟩ := (Table.addItem_spec h.counted.wf item).of_ok
    (Table.addItem_exceeded item slab.table) hok
  refine ⟨hfree, h.becomes hbecomes ?_ ?_ ?_ ?_⟩
  · have hzero : slab.held.count ptr = 0 := by
      rw [← h.counted.refs]
      exact hfree
    rw [List.count_cons_self, hzero]
  · intro q hq
    exact List.count_cons_of_ne (Ne.symm hq)
  · intro _
    exact (Function.update_self ptr (some item) slab.stored).symm
  · intro q hq
    exact Function.update_of_ne hq _ _

theorem Consistent.free (h : slab.Consistent) :
    ∃ free : List ℕ, free.Nodup ∧
      Table.FreeChain slab.table.metadata slab.table.nextEmpty free ∧
      ∀ i, i ∈ free ↔ slab.table.UnfilledAt i := by
  obtain ⟨free, hnodup, hchain, hcomplete⟩ := h.counted.wf.free
  refine ⟨free, hnodup, hchain, fun i => ?_⟩
  constructor
  · intro hi
    exact hchain.empty_of_mem hi
  · intro hi
    obtain ⟨data, hdata, hempty⟩ := hi
    exact hcomplete i data hdata hempty

theorem Consistent.count (h : slab.Consistent) {data : ItemMetaData}
    (hfilled : slab.table.FilledAt ptr.index data) :
    data.refCount = slab.held.count ptr ∧ ptr ∈ slab.held := by
  have hrefs := Table.refs_of_filled hfilled.1 hfilled.2
  have hpos := h.counted.wf.counted _ _ hfilled.1 hfilled.2
  rw [h.counted.refs] at hrefs
  refine ⟨hrefs.symm, ?_⟩
  rw [← List.count_pos_iff]
  omega

theorem Consistent.held (h : slab.Consistent) (hptr : ptr ∈ slab.held) :
    (∃ data, slab.table.FilledAt ptr.index data) ∧
      slab.stored ptr ≠ none ∧
      slab.table.table[ptr.index]? = slab.stored ptr := by
  have hpos := h.refs_pos hptr
  obtain ⟨data, hdata, hfilled, _⟩ := Table.filled_of_refs hpos
  obtain ⟨item, hitem, htable⟩ := h.counted.wf.item_of_refs hpos
  have hstored := h.stored ptr hptr
  rw [hitem] at hstored
  refine ⟨⟨data, hdata, hfilled⟩, ?_, ?_⟩
  · rw [← hstored]
    exact Option.some_ne_none item
  · rw [htable, hstored]

theorem Consistent.add (h : slab.Consistent) (hfew : slab.Few) (item : α) :
    ∃ ptr table, (slab.table.addItem item).result = .ok (ptr, table) ∧
      (∀ data, ¬ slab.table.FilledAt ptr.index data) ∧
      (∃ data, table.FilledAt ptr.index data) ∧
      table.table[ptr.index]? = some item ∧
      ∀ i, i ≠ ptr.index → table.metadata[i]? = slab.table.metadata[i]? ∧
        table.table[i]? = slab.table.table[i]? := by
  have hslots := hfew.slots
  obtain ⟨⟨ptr, table⟩, hok⟩ := h.counted.wf.addItem_ok (by omega) item
  obtain ⟨hfree, hadded⟩ := h.addItem hok
  obtain ⟨hfilled, _, htable⟩ := hadded.held List.mem_cons_self
  refine ⟨ptr, table, hok, ?_, hfilled, ?_, ?_⟩
  · intro data hdata
    have hpos := h.refs_pos (h.count hdata).2
    omega
  · rw [htable]
    exact Function.update_self ptr (some item) slab.stored
  · intro i hi
    exact Table.addItem_other h.counted.wf hok hi

section Build

variable [Build]

theorem Consistent.cloneTablePtr (h : slab.Consistent)
    (hptr : ptr ∈ slab.held) {clone : TablePtr} {table : Table α}
    (hok : (slab.table.cloneTablePtr ptr).result = .ok (clone, table))
    (hfew : ∀ q, (clone :: slab.held).count q < 2 ^ 31) :
    Consistent { slab with table, held := clone :: slab.held } := by
  have hpos := h.refs_pos hptr
  have hrefs := h.counted.refs ptr
  have hsame : clone = ptr := Table.cloneTablePtr_ptr hok
  subst hsame
  have hcount : (clone :: slab.held).count clone
      = slab.table.refs clone + 1 := by
    rw [List.count_cons_self, hrefs]
  have hlt : slab.table.refs clone + 1 < 2 ^ 31 := by
    rw [← hcount]
    exact hfew clone
  obtain ⟨_, hbecomes⟩ := (Table.cloneTablePtr_spec h.counted.wf hpos).of_ok
    (Table.cloneTablePtr_exceeded hlt hpos) hok
  apply h.becomes hbecomes hcount
  · intro q hq
    exact List.count_cons_of_ne (Ne.symm hq)
  · intro _
    exact h.stored clone hptr
  · intro _ _
    rfl

theorem Consistent.popItem (h : slab.Consistent) (hptr : ptr ∈ slab.held)
    (hslots : slab.table.table.length < 2 ^ 31) {item : Option α}
    {table : Table α}
    (hok : (slab.table.popItem ptr).result = .ok (item, table)) :
    item = (if slab.held.count ptr = 1 then slab.stored ptr else none) ∧
      Consistent { slab with table, held := slab.held.erase ptr } := by
  have hpos := h.refs_pos hptr
  have hrefs := h.counted.refs ptr
  have hspec := (Table.popItem_spec h.counted.wf hpos).of_ok
    (Table.popItem_exceeded h.counted.wf hslots) hok
  have hself : (slab.held.erase ptr).count ptr = slab.table.refs ptr - 1 := by
    rw [List.count_erase_self, hrefs]
  have hother : ∀ q, q ≠ ptr →
      (slab.held.erase ptr).count q = slab.held.count q := by
    intro q hq
    exact List.count_erase_of_ne hq
  rcases hspec with ⟨hone, hitem, hbecomes⟩ | ⟨hmore, hitem, hbecomes⟩
  · rw [← hrefs, if_pos hone]
    refine ⟨hitem.trans (h.stored ptr hptr), ?_⟩
    apply h.becomes hbecomes (by omega) hother
    · intro hmem
      have := List.count_pos_iff.2 hmem
      omega
    · intro _ _
      rfl
  · rw [← hrefs, if_neg (by omega)]
    refine ⟨hitem, ?_⟩
    apply h.becomes hbecomes hself hother
    · intro _
      exact h.stored ptr hptr
    · intro _ _
      rfl

theorem Consistent.dropTablePtr (h : slab.Consistent) (hptr : ptr ∈ slab.held)
    (hslots : slab.table.table.length < 2 ^ 31) {table : Table α}
    (hok : (slab.table.dropTablePtr ptr).result = .ok table) :
    Consistent { slab with table, held := slab.held.erase ptr } := by
  unfold Table.dropTablePtr at hok
  obtain ⟨⟨item, table'⟩, hpop, hok⟩ := exists_of_bind_ok hok
  cases hok
  exact (h.popItem hptr hslots hpop).2

/-- The clone is stored first, then the pointer is dropped. -/
theorem Consistent.cloneItemBy (h : slab.Consistent) (hptr : ptr ∈ slab.held)
    {f : α → σ → Limited (α × σ)} {state state' : σ} {clone : TablePtr}
    {table : Table α}
    (hok : (slab.table.cloneItemBy ptr f state).result
      = .ok (clone, table, state'))
    (hslots : table.table.length < 2 ^ 31) :
    Consistent
      { table, held := clone :: slab.held.erase ptr
        stored := Function.update slab.stored clone
          (cloned f state (slab.stored ptr)) } := by
  have hpos := h.refs_pos hptr
  unfold Table.cloneItemBy at hok
  obtain ⟨x, hget, hok⟩ := exists_of_bind_ok hok
  obtain ⟨⟨y, state''⟩, hclone, hok⟩ := exists_of_bind_ok hok
  obtain ⟨⟨clone', added⟩, hadd, hok⟩ := exists_of_bind_ok hok
  obtain ⟨table', hdrop, hok⟩ := exists_of_bind_ok hok
  cases hok
  obtain ⟨hfree, hadded⟩ := h.addItem hadd
  have hne : clone ≠ ptr := by
    intro heq
    rw [heq] at hfree
    omega
  have hstored : cloned f state (slab.stored ptr) = some y := by
    have hx := (Table.getItem_spec h.counted.wf hpos).of_ok
      (Table.getItem_exceeded ptr slab.table) hget
    rw [← h.stored ptr hptr, hx]
    unfold cloned
    rw [Option.bind_some, hclone]
    rfl
  have hlength : added.table.length < 2 ^ 31 := by
    have htable := Table.dropTablePtr_table hdrop
    rw [← htable]
    exact hslots
  have hdropped := hadded.dropTablePtr (List.mem_cons_of_mem clone hptr)
    hlength hdrop
  have herase : (clone :: slab.held).erase ptr
      = clone :: slab.held.erase ptr := by
    apply List.erase_cons_tail
    simp [hne]
  rw [hstored, ← herase]
  exact hdropped

/-- Every call keeps the agreement. -/
theorem Consistent.step (h : slab.Consistent) (hfew : slab.Few)
    (hstep : Step slab slab') (hfew' : slab'.Few) : slab'.Consistent := by
  cases hstep with
  | addItem hok => exact (h.addItem hok).2
  | cloneTablePtr hptr hok => exact h.cloneTablePtr hptr hok hfew'.refs
  | cloneItem hptr hok => exact h.cloneItemBy hptr hok hfew'.slots
  | cloneArrayItem hptr hok =>
      rw [Table.cloneArrayItem_eq] at hok
      exact h.cloneItemBy hptr hok hfew'.slots
  | popItem hptr hok => exact (h.popItem hptr hfew.slots hok).2
  | dropTablePtr hptr hok => exact h.dropTablePtr hptr hfew.slots hok

theorem Run.few (h : Run slab) : slab.Few := by
  cases h with
  | new =>
      refine ⟨Nat.two_pow_pos 31, fun ptr => ?_⟩
      show List.count ptr [] < 2 ^ 31
      rw [List.count_nil]
      exact Nat.two_pow_pos 31
  | step _ _ hfew => exact hfew

theorem Run.consistent (h : Run slab) : slab.Consistent := by
  induction h with
  | new => exact consistent_new
  | step hrun hstep hfew ih => exact ih.step hrun.few hstep hfew

/-! ## What holds in every state -/

/-- What the links, the counts and the calls of a table do, given the
pointers that are handed out. -/
structure Exact (slab : Slab α) : Prop where
  length : slab.table.metadata.length = slab.table.table.length
  /-- The links go through every unfilled slot once, to the end. -/
  free : ∃ free : List ℕ, free.Nodup ∧
    Table.FreeChain slab.table.metadata slab.table.nextEmpty free ∧
    ∀ i, i ∈ free ↔ slab.table.UnfilledAt i
  /-- The count of a filled slot is the number of pointers to it. -/
  count : ∀ (ptr : TablePtr) (data : ItemMetaData),
    slab.table.FilledAt ptr.index data →
      data.refCount = slab.held.count ptr ∧ ptr ∈ slab.held
  /-- The slot of a pointer is filled, with the item stored for it. -/
  held : ∀ ptr ∈ slab.held,
    (∃ data, slab.table.FilledAt ptr.index data) ∧
      slab.stored ptr ≠ none ∧
      slab.table.table[ptr.index]? = slab.stored ptr
  /-- A new item never goes into a filled slot, and changes no other one. -/
  add : ∀ item : α, ∃ ptr table,
    (slab.table.addItem item).result = .ok (ptr, table) ∧
      (∀ data, ¬ slab.table.FilledAt ptr.index data) ∧
      (∃ data, table.FilledAt ptr.index data) ∧
      table.table[ptr.index]? = some item ∧
      ∀ i, i ≠ ptr.index → table.metadata[i]? = slab.table.metadata[i]? ∧
        table.table[i]? = slab.table.table[i]?
  /-- A clone of a pointer is the pointer. -/
  clone : ∀ ptr ∈ slab.held, slab.held.count ptr + 1 < 2 ^ 31 →
    ∃ table, (slab.table.cloneTablePtr ptr).result = .ok (ptr, table)
  /-- The item is returned exactly with the last pointer. -/
  pop : ∀ ptr ∈ slab.held, ∃ item table,
    (slab.table.popItem ptr).result = .ok (item, table) ∧
      item = if slab.held.count ptr = 1 then slab.stored ptr else none

theorem Consistent.clone (h : slab.Consistent) (hptr : ptr ∈ slab.held)
    (hcount : slab.held.count ptr + 1 < 2 ^ 31) :
    ∃ table, (slab.table.cloneTablePtr ptr).result = .ok (ptr, table) := by
  have hpos := h.refs_pos hptr
  rw [← h.counted.refs] at hcount
  obtain ⟨⟨clone, table⟩, hok, _⟩ :=
    (Table.cloneTablePtr_roomy slab.table ptr).ok_of_ensures
      (Table.cloneTablePtr_spec h.counted.wf hpos)
      (Table.cloneTablePtr_exceeded hcount hpos)
  have hsame : clone = ptr := Table.cloneTablePtr_ptr hok
  subst hsame
  exact ⟨table, hok⟩

theorem Consistent.pop (h : slab.Consistent) (hfew : slab.Few)
    (hptr : ptr ∈ slab.held) :
    ∃ item table, (slab.table.popItem ptr).result = .ok (item, table) ∧
      item = if slab.held.count ptr = 1 then slab.stored ptr else none := by
  have hpos := h.refs_pos hptr
  obtain ⟨⟨item, table⟩, hok, _⟩ :=
    (Table.popItem_roomy slab.table ptr).ok_of_ensures
      (Table.popItem_spec h.counted.wf hpos)
      (Table.popItem_exceeded h.counted.wf hfew.slots)
  exact ⟨item, table, hok, (h.popItem hptr hfew.slots hok).1⟩

/-- In every state of a run with few slots and references, the free list and
the counts are exact. -/
theorem Run.freeList_exact (h : Run slab) : slab.Exact where
  length := h.consistent.counted.wf.length
  free := h.consistent.free
  count := fun _ _ hdata => h.consistent.count hdata
  held := fun _ hptr => h.consistent.held hptr
  add := h.consistent.add h.few
  clone := fun _ hptr => h.consistent.clone hptr
  pop := fun _ hptr => h.consistent.pop h.few hptr

end Build

/-- Three items were added.  The first two slots were freed, in this order, and
one of two pointers to the third item was dropped. -/
def freed : Slab ℕ where
  table :=
    { metadata := [⟨EMPTY_MASK ||| 3⟩, ⟨EMPTY_MASK⟩, .filled]
      table := [7, 8, 9]
      nextEmpty := 1 }
  held := [⟨2⟩]
  stored := Function.update
    (Function.update (Function.update (fun _ => none) ⟨0⟩ (some 7))
      ⟨1⟩ (some 8)) ⟨2⟩ (some 9)

/-- The free list leads from the second slot over the first to the end. -/
theorem Run.freeList_exact_freed : @Exact ℕ Build.release freed := by
  let _ : Build := Build.release
  have hfew : ∀ {slab : Slab ℕ}, slab.table.table.length < 4 →
      slab.held.length < 5 → slab.Few := by
    intro slab hslots hheld
    refine ⟨by omega, fun ptr => ?_⟩
    have hcount := List.count_le_length (a := ptr) (l := slab.held)
    omega
  have hone := Run.step .new (@Step.addItem _ _ _ 7 _ _ rfl)
    (hfew (by decide) (by decide))
  have htwo := Run.step hone (@Step.addItem _ _ _ 8 _ _ rfl)
    (hfew (by decide) (by decide))
  have hthree := Run.step htwo (@Step.addItem _ _ _ 9 _ _ rfl)
    (hfew (by decide) (by decide))
  have hshared := Run.step hthree
    (@Step.cloneTablePtr _ _ _ ⟨2⟩ _ _ (by decide) rfl)
    (hfew (by decide) (by decide))
  have hfirst := Run.step hshared
    (@Step.popItem _ _ _ ⟨0⟩ _ _ (by decide) rfl)
    (hfew (by decide) (by decide))
  have hsecond := Run.step hfirst
    (@Step.popItem _ _ _ ⟨1⟩ _ _ (by decide) rfl)
    (hfew (by decide) (by decide))
  have hfreed : Run freed := .step hsecond
    (@Step.popItem _ _ _ ⟨2⟩ none freed.table (by decide) rfl)
    (hfew (by decide) (by decide))
  exact hfreed.freeList_exact

end Slab

end RedPlanet.SpaceTime
