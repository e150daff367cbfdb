import RedPlanet.SpaceTime.Ownership

/-!
# Cloning and dropping pages

What the operations on pointers to top level pages do to the holders, and that
all others go on seeing their elements.

A pointer is cloned by counting once more (`cloneTablePtrArray_spec`), and
dropped by counting once less; with the last holder the page goes, and its
entries are dropped in the level below, down to the elements.  A new top level
page has one holder (`addTopLevelPage_spec`).
-/

namespace RedPlanet.SpaceTime

open RedPlanet.Core RedPlanet.Verified Limited

theorem sum_map_count (pages : List (List TablePtr)) (ptr : TablePtr) :
    (pages.map (List.count ptr)).sum = pages.flatten.count ptr := by
  rw [List.count_flatten]

variable {T α σ : Type} [Build] {layers : ℕ} {R : TablePtr → ℕ}

/-! ## References -/

namespace ArrayStorage

theorem cloneTablePtr_spec {storage : ArrayStorage T layers}
    {ptr : TablePtr} (h : Owned storage R) (hpos : 0 < R ptr) :
    (storage.cloneTablePtr ptr).Ensures fun r =>
      r.1 = ptr ∧ Owned r.2 (holding [ptr] R) ∧
        ∀ q i, lookup r.2 q i = lookup storage q i := by
  have hcount : ∀ q, q ≠ ptr → holding [ptr] R q = R q := by
    intro q hq
    simp [holding, Ne.symm hq]
  have hself : holding [ptr] R ptr = R ptr + 1 := by
    simp [holding, Nat.add_comm]
  cases storage with
  | data t =>
      have hrefs : 0 < t.refs ptr := by rw [h.refs]; exact hpos
      unfold cloneTablePtr
      apply Ensures.bind (Table.cloneTablePtr_spec h.wf hrefs)
      rintro ⟨ptr', t'⟩ ⟨hptr, hbecomes⟩
      have hcounts : t'.Counts (holding [ptr] R) := by
        apply h.becomes hbecomes _ (h.length ptr) hcount
        rw [hself, h.refs]
      refine Ensures.pure ⟨hptr, hcounts, ?_⟩
      intro q i
      simp [lookup, hbecomes.item_eq]
  | pages t next =>
      have hrefs : 0 < t.refs ptr := by rw [h.1.refs]; exact hpos
      unfold cloneTablePtr
      apply Ensures.bind (Table.cloneTablePtr_spec h.1.wf hrefs)
      rintro ⟨ptr', t'⟩ ⟨hptr, hbecomes⟩
      have hcounts : t'.Counts (holding [ptr] R) := by
        apply h.1.becomes hbecomes _ (h.1.length ptr) hcount
        rw [hself, h.1.refs]
      have hholders : holders t' = holders t := by
        funext q
        exact Table.total_congr _ hbecomes.item_eq
      refine Ensures.pure ⟨hptr, ⟨hcounts, ?_⟩, ?_⟩
      · rw [hholders]
        exact h.2
      · intro q i
        rw [lookup_pages, lookup_pages, hbecomes.item_eq]

/-- References to some pages, one after the other. -/
theorem clonePtrs_spec {storage : ArrayStorage T layers}
    {ptrs : List TablePtr} (h : Owned storage R)
    (hpos : ∀ ptr ∈ ptrs, 0 < R ptr) :
    (mapItems cloneTablePtr ptrs storage).Ensures fun r =>
      r.1 = ptrs ∧ Owned r.2 (holding ptrs R) ∧
        ∀ q i, lookup r.2 q i = lookup storage q i := by
  induction ptrs generalizing storage R with
  | nil =>
      refine Ensures.pure ⟨rfl, ?_, fun _ _ => rfl⟩
      rw [holding_nil]
      exact h
  | cons ptr ptrs ih =>
      unfold mapItems
      apply Ensures.bind (cloneTablePtr_spec h (hpos ptr List.mem_cons_self))
      rintro ⟨ptr', storage'⟩ ⟨hptr, howned, hlookup⟩
      apply Ensures.bind (ih howned fun q hq =>
        holding_pos (hpos q (List.mem_cons_of_mem _ hq)) [ptr])
      rintro ⟨ptrs', storage''⟩ ⟨hptrs, howned', hlookup'⟩
      apply Ensures.pure
      refine ⟨congrArg₂ List.cons hptr hptrs, ?_, ?_⟩
      · rw [holding_cons, holding_comm]
        exact howned'
      · intro q i
        exact (hlookup' q i).trans (hlookup q i)

end ArrayStorage

/-! ## Dropping pointers -/

/-- Dropping pointers to pages of one table: the pages that nobody holds any
more are returned, all others stay. -/
theorem popAll_spec {t : Table (List α)} {ptrs : List TablePtr}
    (h : t.Counts (holding ptrs R)) :
    (popAll ptrs t).Ensures fun r =>
      r.2.Counts R ∧ (∀ q, 0 < R q → r.2.item q = t.item q) ∧
        ∀ w, t.total w = (r.1.map w).sum + r.2.total w := by
  induction ptrs generalizing t with
  | nil =>
      rw [holding_nil] at h
      exact Ensures.pure ⟨h, fun _ _ => rfl, fun w => by simp⟩
  | cons ptr ptrs ih =>
      rw [holding_cons] at h
      have hrefs : t.refs ptr = holding ptrs R ptr + 1 := by
        rw [h.refs]
        simp [holding, Nat.add_comm]
      have hcount : ∀ q, q ≠ ptr →
          holding ptrs R q = holding [ptr] (holding ptrs R) q := by
        intro q hq
        simp [holding, Ne.symm hq]
      unfold popAll
      apply Ensures.bind (Table.popItem_spec h.wf (by omega))
      rintro ⟨item, t'⟩ hpop
      have hstep : t'.Counts (holding ptrs R) ∧
          (∀ q, 0 < R q → t'.item q = t.item q) ∧
          ∀ w, t.total w = (item.toList.map w).sum + t'.total w := by
        rcases hpop with ⟨hone, hitem, hbecomes⟩ | ⟨hmore, hnone, hbecomes⟩
        · have hzero : holding ptrs R ptr = 0 := by omega
          refine ⟨?_, ?_, ?_⟩
          · have hnone : ∀ page, (none : Option (List α)) = some page →
                page.length = PAGE_SIZE := by simp
            exact h.becomes hbecomes hzero hnone hcount
          · intro q hq
            apply hbecomes.item_ne
            intro heq
            have hq' := holding_pos hq ptrs
            rw [heq] at hq'
            omega
          · intro w
            have htotal := hbecomes.total_eq h.wf w
            dsimp only at hitem
            rw [hitem]
            unfold Table.weight at htotal
            cases hold : t.item ptr with
            | none => simpa [hold] using htotal.symm
            | some page =>
                simp [hold] at htotal ⊢
                omega
        · refine ⟨?_, ?_, ?_⟩
          · have hless : holding ptrs R ptr = t.refs ptr - 1 := by omega
            exact h.becomes hbecomes hless (h.length ptr) hcount
          · intro q _
            exact hbecomes.item_eq q
          · intro w
            dsimp only at hnone
            rw [hnone, Table.total_congr w hbecomes.item_eq]
            simp
      obtain ⟨hcounts, hkeep, htotal⟩ := hstep
      apply Ensures.bind (ih hcounts)
      rintro ⟨items, t''⟩ ⟨hcounts', hkeep', htotal'⟩
      apply Ensures.pure
      refine ⟨hcounts', ?_, ?_⟩
      · intro q hq
        exact (hkeep' q hq).trans (hkeep q hq)
      · intro w
        have hrest : t'.total w = (items.map w).sum + t''.total w := htotal' w
        show t.total w = ((item.toList ++ items).map w).sum + t''.total w
        rw [htotal w, hrest, List.map_append, List.sum_append]
        omega

namespace ArrayStorage

/-- Dropping pointers, with all pages below that nobody holds any more. -/
theorem dropPtrs_spec {storage : ArrayStorage T layers}
    {ptrs : List TablePtr} (h : Owned storage (holding ptrs R)) :
    (storage.dropPtrs ptrs).Ensures fun storage' =>
      Owned storage' R ∧ Keeps R storage storage' := by
  induction storage generalizing R ptrs with
  | data t =>
      unfold dropPtrs
      apply Ensures.bind (popAll_spec h)
      rintro ⟨_, t'⟩ ⟨hcounts, hkeep, _⟩
      refine Ensures.pure ⟨hcounts, ?_⟩
      intro q hq i
      simp [lookup, hkeep q hq]
  | @pages layers t next ih =>
      unfold dropPtrs
      apply Ensures.bind (popAll_spec h.1)
      rintro ⟨droped, t'⟩ ⟨hcounts, hkeep, htotal⟩
      have hholders : holders t = holding droped.flatten (holders t') := by
        funext q
        unfold holding holders
        rw [htotal, sum_map_count]
      have howned : Owned next (holding droped.flatten (holders t')) := by
        rw [← hholders]
        exact h.2
      -- the pages that stay are held by the entries that stay
      have hchildren : ∀ ptr page, 0 < R ptr → t.item ptr = some page →
          ∀ child ∈ page, 0 < holders t' child := by
        intro ptr page hpos hpage child hmem
        rw [← hkeep ptr hpos] at hpage
        exact holders_pos hcounts.wf hpage hmem
      dsimp only
      by_cases hnone : droped.isEmpty = true
      · rw [if_pos hnone]
        have hnil := List.isEmpty_iff.1 hnone
        rw [hnil, List.flatten_nil, holding_nil] at howned
        exact Ensures.pure ⟨⟨hcounts, howned⟩,
          keeps_pages hkeep fun _ _ _ _ _ => rfl⟩
      · rw [if_neg hnone]
        apply Ensures.bind (ih howned)
        rintro next' ⟨howned', hkeeps⟩
        refine Ensures.pure ⟨⟨hcounts, howned'⟩, keeps_pages hkeep ?_⟩
        intro ptr page hpos hpage i
        exact hkeeps.flat_eq (hchildren ptr page hpos hpage) i

theorem dropTablePtr_spec {storage : ArrayStorage T layers} {ptr : TablePtr}
    (h : Owned storage (holding [ptr] R)) :
    (storage.dropTablePtr ptr).Ensures fun storage' =>
      Owned storage' R ∧ Keeps R storage storage' :=
  dropPtrs_spec h

end ArrayStorage

/-! ## New pages -/

namespace Table

theorem clonePtrs_spec {t : Table α} (h : t.WF) {ptr : TablePtr}
    (hpos : 0 < t.refs ptr) (n : ℕ) :
    (mapItems cloneTablePtr (List.replicate n ptr) t).Ensures fun r =>
      r.1 = List.replicate n ptr ∧
        t.Becomes ptr (t.refs ptr + n) (t.item ptr) r.2 := by
  induction n generalizing t with
  | zero => exact Ensures.pure ⟨rfl, Becomes.refl h ptr⟩
  | succ n ih =>
      rw [List.replicate_succ]
      unfold mapItems
      apply Ensures.bind (cloneTablePtr_spec h hpos)
      rintro ⟨ptr', t'⟩ ⟨hptr, hbecomes⟩
      have hrefs := hbecomes.refs_self
      have hitem := hbecomes.item_self
      have hrest := ih hbecomes.wf (by omega)
      rw [hrefs, hitem] at hrest
      apply Ensures.bind hrest
      rintro ⟨ptrs, t''⟩ ⟨hptrs, hbecomes'⟩
      have hall := hbecomes.trans hbecomes'
      have hcount : t.refs ptr + 1 + n = t.refs ptr + (n + 1) := by omega
      rw [hcount] at hall
      exact Ensures.pure ⟨congrArg₂ List.cons hptr hptrs, hall⟩

theorem cloneTablePtrArray_spec {t : Table α} (h : t.WF) {ptr : TablePtr}
    (hpos : 0 < t.refs ptr) {n : ℕ} (hn : 0 < n) :
    (t.cloneTablePtrArray n ptr).Ensures fun r =>
      r.1 = List.replicate n ptr ∧
        t.Becomes ptr (t.refs ptr + n - 1) (t.item ptr) r.2 := by
  unfold cloneTablePtrArray
  apply Ensures.bind (clonePtrs_spec h hpos n)
  rintro ⟨out, t'⟩ ⟨hout, hbecomes⟩
  have hrefs := hbecomes.refs_self
  have hitem := hbecomes.item_self
  dsimp only at hrefs hitem
  have hpos' : 0 < t'.refs ptr := by omega
  apply Ensures.bind (dropTablePtr_spec hbecomes.wf hpos')
  intro t'' hbecomes'
  dsimp only at hbecomes'
  rw [hrefs, hitem, if_neg (by omega)] at hbecomes'
  exact Ensures.pure ⟨hout, hbecomes.trans hbecomes'⟩

omit [Build] in
/-- A new page, with one holder. -/
theorem addPage_spec {t : Table (List α)} (h : t.Counts R) {page : List α}
    (hpage : page.length = PAGE_SIZE) :
    (t.addItem page).Ensures fun r =>
      (R r.1 = 0 ∧ r.2.Counts (holding [r.1] R)) ∧
        r.2.item r.1 = some page ∧
        (∀ q, 0 < R q → r.2.item q = t.item q) ∧
        ∀ w, r.2.total w = t.total w + w page := by
  apply (addItem_spec h.wf page).imp
  rintro ⟨ptr, t'⟩ ⟨hrefs, hbecomes⟩
  dsimp only at hrefs hbecomes ⊢
  have hnone : t.item ptr = none := by
    unfold item
    rw [hrefs, if_neg (Nat.lt_irrefl 0)]
  rw [h.refs] at hrefs
  refine ⟨⟨hrefs, ?_⟩, hbecomes.item_self, ?_, ?_⟩
  · apply h.becomes hbecomes
    · simp [holding, hrefs]
    · intro page' hpage'
      cases hpage'
      exact hpage
    · intro q hq
      simp [holding, Ne.symm hq]
  · intro q hq
    apply hbecomes.item_ne
    intro heq
    rw [heq] at hq
    omega
  · intro w
    have htotal := hbecomes.total_eq h.wf w
    rw [weight_none hnone, Nat.add_zero] at htotal
    simpa using htotal

end Table

namespace ArrayStorage

theorem cloneTablePtrArray_spec {storage : ArrayStorage T layers}
    {ptr : TablePtr} (h : Owned storage (holding [ptr] R)) :
    (storage.cloneTablePtrArray ptr).Ensures fun r =>
      r.1 = List.replicate PAGE_SIZE ptr ∧ Owned r.2 (holding r.1 R) ∧
        ∀ q i, lookup r.2 q i = lookup storage q i := by
  have hcount : ∀ q, q ≠ ptr →
      holding (List.replicate PAGE_SIZE ptr) R q = holding [ptr] R q := by
    intro q hq
    have hnot : q ∉ List.replicate PAGE_SIZE ptr :=
      fun hmem => hq (List.eq_of_mem_replicate hmem)
    have hnot' : q ∉ [ptr] := fun hmem => hq (List.mem_singleton.1 hmem)
    unfold holding
    rw [List.count_eq_zero.2 hnot, List.count_eq_zero.2 hnot']
  have hself : holding (List.replicate PAGE_SIZE ptr) R ptr
      = holding [ptr] R ptr + PAGE_SIZE - 1 := by
    unfold holding
    rw [List.count_replicate_self, List.count_singleton_self]
    omega
  have hpos : 0 < holding [ptr] R ptr :=
    holding_pos_of_mem List.mem_cons_self R
  cases storage with
  | data t =>
      unfold cloneTablePtrArray
      apply Ensures.bind (Table.cloneTablePtrArray_spec h.wf
        (by rw [h.refs]; exact hpos) (by decide))
      rintro ⟨page, t'⟩ ⟨hpage, hbecomes⟩
      dsimp only at hpage hbecomes ⊢
      subst hpage
      refine Ensures.pure ⟨rfl, ?_, ?_⟩
      · apply h.becomes hbecomes _ (h.length ptr) hcount
        rw [hself, h.refs]
      · intro q i
        simp [lookup, hbecomes.item_eq]
  | pages t next =>
      unfold cloneTablePtrArray
      apply Ensures.bind (Table.cloneTablePtrArray_spec h.1.wf
        (by rw [h.1.refs]; exact hpos) (by decide))
      rintro ⟨page, t'⟩ ⟨hpage, hbecomes⟩
      dsimp only at hpage hbecomes ⊢
      subst hpage
      have hholders : holders t' = holders t := by
        funext q
        exact Table.total_congr _ hbecomes.item_eq
      refine Ensures.pure ⟨rfl, ⟨?_, ?_⟩, ?_⟩
      · apply h.1.becomes hbecomes _ (h.1.length ptr) hcount
        rw [hself, h.1.refs]
      · rw [hholders]
        exact h.2
      · intro q i
        rw [lookup_pages, lookup_pages, hbecomes.item_eq]

/-- A new top level page shows its value everywhere. -/
theorem addTopLevelPage_spec {storage : ArrayStorage T layers} (value : T)
    (h : Owned storage R) :
    (storage.addTopLevelPage value).Ensures fun r =>
      Owned r.2 (holding [r.1] R) ∧ Keeps R storage r.2 ∧
        ∀ i, i < capacity layers → lookup r.2 r.1 i = some value := by
  induction storage generalizing R with
  | data t =>
      unfold addTopLevelPage
      apply Ensures.bind (Table.addPage_spec h List.length_replicate)
      rintro ⟨ptr, t'⟩ ⟨⟨_, hcounts⟩, hitem, hkeep, _⟩
      refine Ensures.pure ⟨hcounts, ?_, ?_⟩
      · intro q hq i
        simp [lookup, hkeep q hq]
      · intro i hi
        have hlt : i < PAGE_SIZE := hi
        simp [lookup, hitem, hlt]
  | @pages layers t next ih =>
      unfold addTopLevelPage
      apply Ensures.bind (ih h.2)
      rintro ⟨prev, next'⟩ ⟨howned, hkeeps, hvalue⟩
      apply Ensures.bind (cloneTablePtrArray_spec howned)
      rintro ⟨page, next''⟩ ⟨hpage, howned', hlookup⟩
      dsimp only at hpage howned' hlookup hvalue
      have hlength : page.length = PAGE_SIZE := by
        rw [hpage]
        exact List.length_replicate
      apply Ensures.bind (Table.addPage_spec h.1 hlength)
      rintro ⟨ptr, t'⟩ ⟨⟨_, hcounts⟩, hitem, hkeep, htotal⟩
      dsimp only at hcounts hitem hkeep htotal
      have hholders : holders t' = holding page (holders t) := by
        funext q
        unfold holding holders
        rw [htotal]
        omega
      refine Ensures.pure ⟨⟨hcounts, ?_⟩, ?_, ?_⟩
      · rw [hholders]
        exact howned'
      · apply keeps_pages hkeep
        intro q page' _ hpage' i
        have hheld : ∀ child ∈ page', 0 < holders t child :=
          fun child hmem => holders_pos h.1.wf hpage' hmem
        exact (hkeeps.trans (Keeps.of_eq hlookup)).flat_eq hheld i
      · intro i hi
        have hlt : i / capacity layers < PAGE_SIZE := div_capacity_lt hi
        have hchild := hvalue (i % capacity layers)
          (Nat.mod_lt i (capacity_pos layers))
        rw [lookup_pages, hitem]
        simp [flat, hpage, hlt, hlookup, hchild]

end ArrayStorage

end RedPlanet.SpaceTime
