import Mathlib.Algebra.BigOperators.Group.Finset.Basic
import Mathlib.Algebra.Order.BigOperators.Group.Finset
import Mathlib.Data.List.Perm.Basic
import RedPlanet.SpaceTime.ArrayStorage
import RedPlanet.SpaceTime.TableSpec

/-!
# Who holds the pages

`Owned storage R` is the counting invariant of the paged arrays: the reference
count of every page is the number of its holders.  `R` counts the holders of
the top level pages; the holders of the pages of a table below are the entries
of the filled pages in the table above it.

Every operation is specified by what it does to `R`, and to the elements that
the pointers left in `R` see (`Keeps`).  The lemmas here are about one level:
a page that is added, cloned or dropped, and what this does to the counts of
the level below.
-/

namespace RedPlanet.SpaceTime

open RedPlanet.Core RedPlanet.Verified Limited

variable {T α σ : Type}

/-! ## Sums over a table -/

/-- All indices that a table can have. -/
def slots : Finset ℕ := Finset.range (2 ^ 32)

theorem mem_slots {i : ℕ} : i ∈ slots ↔ i < 2 ^ 32 := Finset.mem_range

namespace Table

/-- The weight of what a slot holds. -/
def weight (w : α → ℕ) (t : Table α) (ptr : TablePtr) : ℕ :=
  ((t.item ptr).map w).getD 0

/-- The weight of all items. -/
def total (w : α → ℕ) (t : Table α) : ℕ :=
  ∑ i ∈ slots, t.weight w ⟨i⟩

/-- The weight of all items but the one of this slot. -/
def totalExcept (w : α → ℕ) (t : Table α) (ptr : TablePtr) : ℕ :=
  ∑ i ∈ slots.erase ptr.index, t.weight w ⟨i⟩

theorem weight_some {w : α → ℕ} {t : Table α} {ptr : TablePtr} {x : α}
    (h : t.item ptr = some x) : t.weight w ptr = w x := by
  simp [weight, h]

theorem weight_none {w : α → ℕ} {t : Table α} {ptr : TablePtr}
    (h : t.item ptr = none) : t.weight w ptr = 0 := by
  simp [weight, h]

/-- Filled slots have an index in the table. -/
theorem WF.index_lt {t : Table α} (h : t.WF) {ptr : TablePtr} {x : α}
    (hitem : t.item ptr = some x) : ptr.index < 2 ^ 32 := by
  have hx := (refs_of_item hitem).2
  have hlt := (List.getElem?_eq_some_iff.1 hx).1
  have hroom := h.room
  omega

theorem WF.total_eq {t : Table α} (h : t.WF) (w : α → ℕ) (ptr : TablePtr) :
    t.total w = t.weight w ptr + t.totalExcept w ptr := by
  by_cases hmem : ptr.index ∈ slots
  · exact (Finset.add_sum_erase slots (fun i => t.weight w ⟨i⟩) hmem).symm
  · have hnone : t.item ptr = none := by
      cases hitem : t.item ptr with
      | none => rfl
      | some x => exact absurd (mem_slots.2 (h.index_lt hitem)) hmem
    unfold total totalExcept
    rw [Finset.erase_eq_of_notMem hmem, weight_none hnone, Nat.zero_add]

/-- What one slot holds is part of the weight of all others. -/
theorem WF.weight_le_totalExcept {t : Table α} (h : t.WF) (w : α → ℕ)
    {p q : TablePtr} (hne : q ≠ p) : t.weight w q ≤ t.totalExcept w p := by
  cases hitem : t.item q with
  | none =>
      rw [weight_none hitem]
      exact Nat.zero_le _
  | some x =>
      have hmem : q.index ∈ slots.erase p.index :=
        Finset.mem_erase.2 ⟨index_ne hne, mem_slots.2 (h.index_lt hitem)⟩
      exact Finset.single_le_sum (f := fun i => t.weight w ⟨i⟩)
        (fun i _ => Nat.zero_le _) hmem

theorem weight_le_total {t : Table α} (h : t.WF) (w : α → ℕ)
    (q : TablePtr) : t.weight w q ≤ t.total w := by
  rw [h.total_eq w q]
  exact Nat.le_add_right _ _

theorem total_congr {t t' : Table α} (w : α → ℕ)
    (h : ∀ q, t'.item q = t.item q) : t'.total w = t.total w := by
  apply Finset.sum_congr rfl
  intro i _
  unfold weight
  rw [h]

namespace Becomes

variable {t t' : Table α} {ptr : TablePtr} {count : ℕ} {held : Option α}

theorem refs_self (h : t.Becomes ptr count held t') : t'.refs ptr = count := by
  rw [h.refs, if_pos rfl]

theorem item_self (h : t.Becomes ptr count held t') : t'.item ptr = held := by
  rw [h.item, if_pos rfl]

theorem refs_ne (h : t.Becomes ptr count held t') {q : TablePtr}
    (hq : q ≠ ptr) : t'.refs q = t.refs q := by
  rw [h.refs, if_neg hq]

theorem item_ne (h : t.Becomes ptr count held t') {q : TablePtr}
    (hq : q ≠ ptr) : t'.item q = t.item q := by
  rw [h.item, if_neg hq]

/-- The items are all as before when the slot holds what it held. -/
theorem item_eq (h : t.Becomes ptr count (t.item ptr) t') (q : TablePtr) :
    t'.item q = t.item q := by
  by_cases hq : q = ptr
  · rw [hq, h.item_self]
  · exact h.item_ne hq

theorem totalExcept_eq (h : t.Becomes ptr count held t') (w : α → ℕ) :
    t'.totalExcept w ptr = t.totalExcept w ptr := by
  apply Finset.sum_congr rfl
  intro i hi
  have hne : (⟨i⟩ : TablePtr) ≠ ptr := by
    intro heq
    exact (Finset.mem_erase.1 hi).1 (congrArg TablePtr.index heq)
  unfold weight
  rw [h.item_ne hne]

/-- One item is exchanged for another. -/
theorem total_eq (h : t.Becomes ptr count held t') (hwf : t.WF)
    (w : α → ℕ) :
    t'.total w + t.weight w ptr = t.total w + (held.map w).getD 0 := by
  have hnew : t'.weight w ptr = (held.map w).getD 0 := by
    unfold weight
    rw [h.item_self]
  rw [hwf.total_eq w ptr, h.wf.total_eq w ptr, h.totalExcept_eq, hnew]
  omega

theorem refl (h : t.WF) (ptr : TablePtr) :
    t.Becomes ptr (t.refs ptr) (t.item ptr) t where
  wf := h
  refs := fun q => by
    by_cases hq : q = ptr
    · rw [if_pos hq, hq]
    · rw [if_neg hq]
  item := fun q => by
    by_cases hq : q = ptr
    · rw [if_pos hq, hq]
    · rw [if_neg hq]

theorem trans {t'' : Table α} {count' : ℕ} {held' : Option α}
    (h : t.Becomes ptr count held t') (h' : t'.Becomes ptr count' held' t'') :
    t.Becomes ptr count' held' t'' where
  wf := h'.wf
  refs := fun q => by
    by_cases hq : q = ptr
    · rw [if_pos hq, hq, h'.refs_self]
    · rw [if_neg hq, h'.refs_ne hq, h.refs_ne hq]
  item := fun q => by
    by_cases hq : q = ptr
    · rw [if_pos hq, hq, h'.item_self]
    · rw [if_neg hq, h'.item_ne hq, h.item_ne hq]

end Becomes

end Table

/-! ## Holders -/

/-- These pointers, on top of the holders that `R` counts. -/
def holding (ptrs : List TablePtr) (R : TablePtr → ℕ) : TablePtr → ℕ :=
  fun q => ptrs.count q + R q

@[simp] theorem holding_nil (R : TablePtr → ℕ) : holding [] R = R := by
  funext q
  simp [holding]

theorem holding_cons (ptr : TablePtr) (ptrs : List TablePtr)
    (R : TablePtr → ℕ) :
    holding (ptr :: ptrs) R = holding [ptr] (holding ptrs R) := by
  funext q
  simp only [holding, List.count_cons, List.count_nil]
  omega

theorem holding_append (ptrs ptrs' : List TablePtr) (R : TablePtr → ℕ) :
    holding (ptrs ++ ptrs') R = holding ptrs (holding ptrs' R) := by
  funext q
  simp only [holding, List.count_append]
  omega

theorem holding_comm (ptrs ptrs' : List TablePtr) (R : TablePtr → ℕ) :
    holding ptrs (holding ptrs' R) = holding ptrs' (holding ptrs R) := by
  funext q
  simp only [holding]
  omega

theorem holding_perm {ptrs ptrs' : List TablePtr} (h : ptrs.Perm ptrs')
    (R : TablePtr → ℕ) : holding ptrs R = holding ptrs' R := by
  funext q
  simp only [holding]
  rw [h.count_eq]

theorem holding_pos_of_mem {ptrs : List TablePtr} {ptr : TablePtr}
    (h : ptr ∈ ptrs) (R : TablePtr → ℕ) : 0 < holding ptrs R ptr := by
  have hcount := List.count_pos_iff.2 h
  unfold holding
  omega

theorem holding_pos {R : TablePtr → ℕ} {ptr : TablePtr} (h : 0 < R ptr)
    (ptrs : List TablePtr) : 0 < holding ptrs R ptr := by
  unfold holding
  omega

/-- The entries of filled pages that point to a page. -/
def holders (t : Table (List TablePtr)) (ptr : TablePtr) : ℕ :=
  t.total (List.count ptr)

/-- Counts are numbers of holders. -/
structure Table.Counted (t : Table α) (R : TablePtr → ℕ) : Prop where
  wf : t.WF
  refs : ∀ ptr, t.refs ptr = R ptr

/-- The same for pages: they have 64 entries. -/
structure Table.Counts (t : Table (List α)) (R : TablePtr → ℕ) : Prop
    extends t.Counted R where
  length : ∀ ptr page, t.item ptr = some page → page.length = PAGE_SIZE

def Owned : {layers : ℕ} → ArrayStorage T layers → (TablePtr → ℕ) → Prop
  | _, .data t, R => t.Counts R
  | _, .pages t next, R => t.Counts R ∧ Owned next (holders t)

/-- The number of elements under a pointer. -/
def capacity (layers : ℕ) : ℕ := PAGE_SIZE ^ (layers + 1)

/-- The element at an index under a pointer. -/
def lookup : {layers : ℕ} → ArrayStorage T layers → TablePtr → ℕ → Option T
  | 0, .data t, ptr, i => (t.item ptr).bind fun page => page[i]?
  | layers + 1, .pages t next, ptr, i =>
      (t.item ptr).bind fun page =>
        (page[i / capacity layers]?).bind fun child =>
          lookup next child (i % capacity layers)

/-- The element at an index of an array with these pages. -/
def flat {layers : ℕ} (storage : ArrayStorage T layers)
    (ptrs : List TablePtr) (i : ℕ) : Option T :=
  (ptrs[i / capacity layers]?).bind fun child =>
    lookup storage child (i % capacity layers)

/-- Those who hold a pointer see the same elements. -/
def Keeps {layers : ℕ} (R : TablePtr → ℕ)
    (storage storage' : ArrayStorage T layers) : Prop :=
  ∀ ptr, 0 < R ptr → ∀ i, lookup storage' ptr i = lookup storage ptr i

theorem capacity_pos (layers : ℕ) : 0 < capacity layers :=
  Nat.pow_pos (by decide)

/-- The entry of a page that an element is under. -/
theorem div_capacity_lt {layers i : ℕ} (hi : i < capacity (layers + 1)) :
    i / capacity layers < PAGE_SIZE := by
  rw [Nat.div_lt_iff_lt_mul (capacity_pos layers), Nat.mul_comm]
  exact hi

theorem capacity_succ (layers : ℕ) :
    capacity (layers + 1) = capacity layers * 64 := rfl

theorem pow_le_capacity (layers : ℕ) : PAGE_SIZE ^ layers ≤ capacity layers :=
  Nat.pow_le_pow_right (by decide) (Nat.le_succ layers)

theorem capacity_div (layers : ℕ) :
    capacity layers / PAGE_SIZE = PAGE_SIZE ^ layers :=
  Nat.mul_div_cancel _ (by decide)

theorem lookup_pages {layers : ℕ} (t : Table (List TablePtr))
    (next : ArrayStorage T layers) (ptr : TablePtr) (i : ℕ) :
    lookup (.pages t next) ptr i
      = (t.item ptr).bind fun page => flat next page i := rfl

namespace Keeps

variable {layers : ℕ} {R R' : TablePtr → ℕ}
  {storage storage' storage'' : ArrayStorage T layers}

theorem refl : Keeps R storage storage := fun _ _ _ => rfl

theorem trans (h : Keeps R storage storage') (h' : Keeps R storage' storage'') :
    Keeps R storage storage'' := by
  intro ptr hpos i
  rw [h' ptr hpos i, h ptr hpos i]

theorem of_eq (h : ∀ ptr i, lookup storage' ptr i = lookup storage ptr i) :
    Keeps R storage storage' := fun ptr _ i => h ptr i

theorem imp (h : Keeps R storage storage') (hR : ∀ q, 0 < R' q → 0 < R q) :
    Keeps R' storage storage' := fun ptr hpos => h ptr (hR ptr hpos)

/-- Arrays whose pages are held keep their elements. -/
theorem flat_eq (h : Keeps R storage storage') {ptrs : List TablePtr}
    (hptrs : ∀ ptr ∈ ptrs, 0 < R ptr) (i : ℕ) :
    flat storage' ptrs i = flat storage ptrs i := by
  unfold flat
  cases hchild : ptrs[i / capacity layers]? with
  | none => rfl
  | some child =>
      have hmem := List.mem_of_getElem? hchild
      exact h child (hptrs child hmem) _

end Keeps

theorem Table.Counted.becomes {t t' : Table α} {R R' : TablePtr → ℕ}
    {ptr : TablePtr} {count : ℕ} {held : Option α} (h : t.Counted R)
    (hbecomes : t.Becomes ptr count held t') (hcount : R' ptr = count)
    (hR : ∀ q, q ≠ ptr → R' q = R q) : t'.Counted R' where
  wf := hbecomes.wf
  refs := fun q => by
    by_cases hq : q = ptr
    · rw [hq, hbecomes.refs_self, hcount]
    · rw [hbecomes.refs_ne hq, h.refs, hR q hq]

/-- Counts stay below the mask bit. -/
theorem Table.Counted.lt_mask {t : Table α} {R : TablePtr → ℕ}
    (h : t.Counted R) (ptr : TablePtr) : R ptr < 2 ^ 31 := by
  rcases Nat.eq_zero_or_pos (R ptr) with hzero | hpos
  · omega
  · rw [← h.refs] at hpos ⊢
    obtain ⟨data, _, hfilled, hrefs⟩ := filled_of_refs hpos
    rw [hrefs]
    exact (ItemMetaData.isFilled_iff data).1 hfilled

theorem Owned.lt_mask {layers : ℕ} {storage : ArrayStorage T layers}
    {R : TablePtr → ℕ} (h : Owned storage R) (ptr : TablePtr) :
    R ptr < 2 ^ 31 := by
  cases storage with
  | data t => exact h.toCounted.lt_mask ptr
  | pages t next => exact h.1.toCounted.lt_mask ptr

namespace Table.Counts

variable {t t' : Table (List α)} {R R' : TablePtr → ℕ} {ptr : TablePtr}

theorem page_of_pos (h : t.Counts R) (hpos : 0 < R ptr) :
    ∃ page, t.item ptr = some page ∧ page.length = PAGE_SIZE := by
  rw [← h.refs] at hpos
  obtain ⟨page, hpage, _⟩ := h.wf.item_of_refs hpos
  exact ⟨page, hpage, h.length ptr page hpage⟩

/-- What `get_item` returns of a page that is held. -/
theorem getItem_page (h : t.Counts R) (hpos : 0 < R ptr) {page : List α}
    (hpage : t.item ptr = some page) :
    (t.getItem ptr).Ensures fun page' => page' = page := by
  rw [← h.refs] at hpos
  apply (Table.getItem_spec h.wf hpos).imp
  intro page' hpage'
  rw [hpage] at hpage'
  exact (Option.some.inj hpage').symm

theorem becomes (h : t.Counts R) {count : ℕ} {held : Option (List α)}
    (hbecomes : t.Becomes ptr count held t') (hcount : R' ptr = count)
    (hheld : ∀ page, held = some page → page.length = PAGE_SIZE)
    (hR : ∀ q, q ≠ ptr → R' q = R q) : t'.Counts R' where
  toCounted := h.toCounted.becomes hbecomes hcount hR
  length := fun q page hpage => by
    by_cases hq : q = ptr
    · rw [hq, hbecomes.item_self] at hpage
      exact hheld page hpage
    · rw [hbecomes.item_ne hq] at hpage
      exact h.length q page hpage

end Table.Counts

/-- The entries of a page that is held are held. -/
theorem holders_pos {t : Table (List TablePtr)} (h : t.WF) {ptr : TablePtr}
    {page : List TablePtr} (hpage : t.item ptr = some page)
    {child : TablePtr} (hmem : child ∈ page) : 0 < holders t child := by
  have hcount := List.count_pos_iff.2 hmem
  have hle := Table.weight_le_total h (List.count child) ptr
  rw [Table.weight_some hpage] at hle
  unfold holders
  omega

/-- A change below that keeps what the pages refer to, and keeps the pages
themselves, keeps the elements. -/
theorem keeps_pages {layers : ℕ} {t t' : Table (List TablePtr)}
    {next next' : ArrayStorage T layers} {R : TablePtr → ℕ}
    (hitem : ∀ ptr, 0 < R ptr → t'.item ptr = t.item ptr)
    (hnext : ∀ ptr page, 0 < R ptr → t.item ptr = some page →
      ∀ i, flat next' page i = flat next page i) :
    Keeps R (.pages t next) (.pages t' next') := by
  intro ptr hpos i
  rw [lookup_pages, lookup_pages, hitem ptr hpos]
  cases hpage : t.item ptr with
  | none => rfl
  | some page => exact hnext ptr page hpos hpage i

end RedPlanet.SpaceTime
