import RedPlanet.SpaceTime.PageOps

/-!
# Access to the elements

Reads return the elements that `lookup` sees.  Writes first make the pages on
their way unique: this changes who holds which page, and no elements.  Then
they exchange one entry for another in each page (`Replaced`), and overlay the
elements of one range.

`Writes` is the effect of a write on one level, and it is carried from level
to level (`Writes.inPage`), from the elements (`Writes.inData`) up to the pages
of the array (`Writes.inArray`).
-/

namespace RedPlanet.SpaceTime

open RedPlanet.Core RedPlanet.Verified Limited

variable {T α σ : Type}

/-! ## Overlays -/

/-- `g` with the elements of `buf` from `index` on. -/
def overlay (index : ℕ) (buf : List T) (g : ℕ → Option T) (i : ℕ) : Option T :=
  if index ≤ i then (buf[i - index]?).or (g i) else g i

theorem overlay_nil (index : ℕ) (g : ℕ → Option T) (i : ℕ) :
    overlay index [] g i = g i := by
  simp [overlay]

theorem overlay_append (index : ℕ) (buf buf' : List T) (g : ℕ → Option T)
    (i : ℕ) :
    overlay index (buf ++ buf') g i
      = overlay (index + buf.length) buf' (overlay index buf g) i := by
  unfold overlay
  by_cases hi : index ≤ i
  · rw [if_pos hi, if_pos hi]
    by_cases hbuf : index + buf.length ≤ i
    · have hsub : i - index - buf.length = i - (index + buf.length) := by omega
      rw [if_pos hbuf, List.getElem?_append_right (by omega), hsub,
        List.getElem?_eq_none (l := buf) (by omega), Option.none_or]
    · have hlt : i - index < buf.length := by omega
      rw [if_neg hbuf, List.getElem?_append_left hlt,
        List.getElem?_eq_getElem hlt, Option.some_or]
  · rw [if_neg hi, if_neg (by omega), if_neg hi]

theorem overlay_of_lt {index i : ℕ} (h : i < index) (buf : List T)
    (g : ℕ → Option T) : overlay index buf g i = g i := by
  unfold overlay
  rw [if_neg (by omega)]

theorem overlay_of_ge {index i : ℕ} {buf : List T}
    (h : index + buf.length ≤ i) (g : ℕ → Option T) :
    overlay index buf g i = g i := by
  unfold overlay
  rw [if_pos (by omega), List.getElem?_eq_none (by omega), Option.none_or]

theorem overlay_congr {g g' : ℕ → Option T} {i : ℕ} (h : g i = g' i)
    (index : ℕ) (buf : List T) :
    overlay index buf g i = overlay index buf g' i := by
  unfold overlay
  rw [h]

/-! ## Exchanging one page for another -/

/-- The entries of all pages but this one that point to a page. -/
def otherHolders (t : Table (List TablePtr)) (ptr : TablePtr) :
    TablePtr → ℕ :=
  fun q => t.totalExcept (List.count q) ptr

theorem holders_eq {t : Table (List TablePtr)} (h : t.WF) {ptr : TablePtr}
    {page : List TablePtr} (hpage : t.item ptr = some page) :
    holders t = holding page (otherHolders t ptr) := by
  funext q
  unfold holders holding otherHolders
  rw [h.total_eq (List.count q) ptr, Table.weight_some hpage]

theorem Table.Becomes.holders_eq {t t' : Table (List TablePtr)}
    {ptr : TablePtr} {count : ℕ} {page : List TablePtr}
    (h : t.Becomes ptr count (some page) t') :
    holders t' = holding page (otherHolders t ptr) := by
  rw [SpaceTime.holders_eq h.wf h.item_self]
  funext q
  unfold holding otherHolders
  rw [h.totalExcept_eq]

/-- All holders but the one entry. -/
theorem holding_eraseIdx {ptrs : List TablePtr} {n : ℕ} {child : TablePtr}
    (h : ptrs[n]? = some child) (R : TablePtr → ℕ) :
    holding ptrs R = holding [child] (holding (ptrs.eraseIdx n) R) := by
  obtain ⟨hlt, hchild⟩ := List.getElem?_eq_some_iff.1 h
  have hperm := List.getElem_cons_eraseIdx_perm hlt
  rw [hchild] at hperm
  rw [← holding_perm hperm, holding_cons]

theorem holding_set {ptrs : List TablePtr} {n : ℕ} (h : n < ptrs.length)
    (child : TablePtr) (R : TablePtr → ℕ) :
    holding (ptrs.set n child) R
      = holding [child] (holding (ptrs.eraseIdx n) R) := by
  rw [holding_perm (List.set_perm_cons_eraseIdx h child), holding_cons]

/-- One of the pages was exchanged, the others go on seeing their elements. -/
theorem flat_set {layers : ℕ} {storage storage' : ArrayStorage T layers}
    {ptrs : List TablePtr} {n : ℕ} (hlt : n < ptrs.length)
    {child : TablePtr} {R : TablePtr → ℕ}
    (h : Keeps (holding (ptrs.eraseIdx n) R) storage storage') (j : ℕ) :
    flat storage' (ptrs.set n child) j
      = if j / capacity layers = n then
          lookup storage' child (j % capacity layers)
        else flat storage ptrs j := by
  unfold flat
  by_cases hj : j / capacity layers = n
  · rw [if_pos hj, hj, List.getElem?_set_self hlt]
    rfl
  · rw [if_neg hj, List.getElem?_set_ne (Ne.symm hj)]
    cases hother : ptrs[j / capacity layers]? with
    | none => rfl
    | some other =>
        have hmem : other ∈ ptrs.eraseIdx n :=
          List.mem_eraseIdx_iff_getElem?.2 ⟨_, hj, hother⟩
        exact h other (holding_pos_of_mem hmem R) _

/-- Overlaying elements in one page overlays them in the array. -/
theorem flat_overlay {layers : ℕ} {storage : ArrayStorage T layers}
    {ptrs : List TablePtr} {n : ℕ} {child : TablePtr}
    (hchild : ptrs[n]? = some child) {index : ℕ} {buf : List T}
    (hfits : index + buf.length ≤ capacity layers) (j : ℕ) :
    (if j / capacity layers = n then
        overlay index buf (lookup storage child) (j % capacity layers)
      else flat storage ptrs j)
      = overlay (n * capacity layers + index) buf (flat storage ptrs) j := by
  have hdiv := Nat.div_add_mod' j (capacity layers)
  have hmod := Nat.mod_lt j (capacity_pos layers)
  by_cases hj : j / capacity layers = n
  · have hflat : flat storage ptrs j
        = lookup storage child (j % capacity layers) := by
      unfold flat
      rw [hj, hchild]
      rfl
    rw [if_pos hj]
    rw [hj] at hdiv
    unfold overlay
    rw [hflat]
    by_cases hle : index ≤ j % capacity layers
    · have hsub : j - (n * capacity layers + index)
          = j % capacity layers - index := by omega
      rw [if_pos hle, if_pos (by omega), hsub]
    · rw [if_neg hle, if_neg (by omega)]
  · rw [if_neg hj]
    rcases Nat.lt_or_gt_of_ne hj with hlt | hgt
    · have hle := Nat.mul_le_mul_right (capacity layers) hlt
      rw [Nat.succ_mul] at hle
      rw [overlay_of_lt (by omega)]
    · have hle := Nat.mul_le_mul_right (capacity layers) hgt
      rw [Nat.succ_mul] at hle
      rw [overlay_of_ge (by omega)]

/-! ## Making a page unique -/

variable {layers : ℕ} {R : TablePtr → ℕ}

/-- The page is where the pointer says, and nobody else holds it. -/
structure Unique (t : Table (List α)) (ptr : TablePtr) (R : TablePtr → ℕ)
    (page : List α) : Prop where
  counts : t.Counts (holding [ptr] R)
  unshared : R ptr = 0
  item : t.item ptr = some page

/-- The page that was made unique can be written. -/
theorem Unique.uniquePage_spec {t : Table (List α)} {ptr : TablePtr}
    {page : List α} (h : Unique t ptr R page) :
    (ArrayStorage.uniquePage ptr t).Ensures fun x => x = page := by
  have hone : t.refs ptr = 1 := by
    rw [h.counts.refs]
    simp [holding, h.unshared]
  unfold ArrayStorage.uniquePage
  apply Ensures.bind (Table.getItemMut_spec h.counts.wf hone)
  rintro x ⟨hx, _⟩
  rw [h.item] at hx
  exact Ensures.unwrap hx

namespace Unique

variable {t : Table (List α)} {ptr : TablePtr} {page page' : List α}

theorem ne (h : Unique t ptr R page) {q : TablePtr} (hq : 0 < R q) :
    q ≠ ptr := by
  intro heq
  have hzero := h.unshared
  rw [← heq] at hzero
  omega

theorem setItem (h : Unique t ptr R page) (hlength : page'.length = PAGE_SIZE) :
    (t.setItem ptr page').Counts (holding [ptr] R) ∧
      t.Becomes ptr (t.refs ptr) (some page') (t.setItem ptr page') := by
  have hpos : 0 < t.refs ptr := by
    rw [h.counts.refs]
    exact holding_pos_of_mem List.mem_cons_self R
  have hbecomes := Table.becomes_setItem h.counts.wf hpos page'
  refine ⟨?_, hbecomes⟩
  apply h.counts.becomes hbecomes (h.counts.refs ptr).symm
  · intro page'' hpage''
    cases hpage''
    exact hlength
  · intro q _
    rfl

end Unique

section Build

variable [Build]

/-- A page that is shared is cloned, and its entries are counted again by
`cloner`. -/
theorem makeUnique_spec {t : Table (List α)} {ptr : TablePtr}
    {cloner : α → σ → Limited (α × σ)} {state : σ} {page : List α}
    {Q : σ → Prop} (h : t.Counts (holding [ptr] R))
    (hpage : t.item ptr = some page)
    (hcloner : (mapItems cloner page state).Ensures fun r =>
      r.1 = page ∧ Q r.2) :
    (makeUnique ptr cloner t state).Ensures fun r =>
      Unique r.2.1 r.1 R page ∧ (∀ q, 0 < R q → r.2.1.item q = t.item q) ∧
        (r.2.2 = state ∧ (∀ w, r.2.1.total w = t.total w) ∨
          Q r.2.2 ∧ ∀ w, r.2.1.total w = w page + t.total w) := by
  have hrefs : t.refs ptr = 1 + R ptr := by
    rw [h.refs]
    simp [holding]
  have hpos : 0 < t.refs ptr := by omega
  unfold makeUnique
  apply Ensures.bind (Table.isUniqueTablePtr_spec hpos)
  intro unique hunique
  by_cases hshared : R ptr = 0
  · have htrue : unique = true := by simp [hunique, hrefs, hshared]
    rw [if_pos htrue]
    exact Ensures.pure ⟨⟨h, hshared, hpage⟩, fun _ _ => rfl,
      Or.inl ⟨rfl, fun _ => rfl⟩⟩
  · have hfalse : ¬ unique = true := by simp [hunique, hrefs, hshared]
    rw [if_neg hfalse]
    unfold Table.cloneArrayItem
    have hheld : 0 < holding [ptr] R ptr :=
      holding_pos_of_mem List.mem_cons_self R
    apply Ensures.bind (h.getItem_page hheld hpage)
    intro _ hsame
    rw [hsame]
    apply Ensures.bind hcloner
    rintro ⟨item, state'⟩ ⟨hsame, hstate⟩
    dsimp only at hsame hstate ⊢
    rw [hsame]
    apply Ensures.bind (Table.addPage_spec h (h.length ptr page hpage))
    rintro ⟨clone, t'⟩ ⟨⟨hfresh, hcounts⟩, hclone, hkeep, htotal⟩
    dsimp only at hfresh hcounts hclone hkeep htotal ⊢
    have hne : clone ≠ ptr := by
      intro heq
      rw [heq] at hfresh
      omega
    have hfresh' : R clone = 0 := by
      unfold holding at hfresh
      omega
    have hcounts' : t'.Counts (holding [ptr] (holding [clone] R)) := by
      rw [holding_comm]
      exact hcounts
    have hrefs' : t'.refs ptr = 1 + R ptr := by
      rw [hcounts'.refs]
      simp [holding, hne]
    have hitem' : t'.item ptr = some page := by
      rw [hkeep ptr (holding_pos_of_mem (List.mem_singleton.2 rfl) R), hpage]
    have hpos' : 0 < t'.refs ptr := by omega
    apply Ensures.bind (Table.dropTablePtr_spec hcounts'.wf hpos')
    intro t'' hbecomes
    have hmore : ¬ t'.refs ptr = 1 := by omega
    rw [if_neg hmore] at hbecomes
    have hcounts'' : t''.Counts (holding [clone] R) := by
      apply hcounts'.becomes hbecomes
      · rw [hrefs']
        simp [holding, hne]
      · exact hcounts'.length ptr
      · intro q hq
        simp [holding, Ne.symm hq]
    apply Ensures.pure
    refine ⟨⟨hcounts'', hfresh', ?_⟩, ?_, Or.inr ⟨hstate, ?_⟩⟩
    · rw [hbecomes.item_eq, hclone]
    · intro q hq
      rw [hbecomes.item_eq, hkeep q (holding_pos hq _)]
    · intro w
      rw [Table.total_congr w hbecomes.item_eq, htotal]
      omega

end Build

/-! ## Writes -/

/-- The page under `ptr'` is the one under `ptr` with the elements of `buf`
from `index` on; those who hold other pages see no difference. -/
structure Writes {layers : ℕ} (storage storage' : ArrayStorage T layers)
    (ptr ptr' : TablePtr) (R : TablePtr → ℕ) (index : ℕ) (buf : List T) :
    Prop where
  owned : Owned storage' (holding [ptr'] R)
  keeps : Keeps R storage storage'
  elements : ∀ i,
    lookup storage' ptr' i = overlay index buf (lookup storage ptr) i

/-- The same for an array of pages. -/
structure WritesFlat {layers : ℕ} (storage storage' : ArrayStorage T layers)
    (ptrs ptrs' : List TablePtr) (R : TablePtr → ℕ) (index : ℕ)
    (buf : List T) : Prop where
  owned : Owned storage' (holding ptrs' R)
  keeps : Keeps R storage storage'
  length : ptrs'.length = ptrs.length
  elements : ∀ i,
    flat storage' ptrs' i = overlay index buf (flat storage ptrs) i

namespace WritesFlat

variable {storage storage' storage'' : ArrayStorage T layers}
  {ptrs ptrs' ptrs'' : List TablePtr} {index : ℕ} {buf buf' : List T}

theorem refl (h : Owned storage (holding ptrs R)) (index : ℕ) :
    WritesFlat storage storage ptrs ptrs R index [] where
  owned := h
  keeps := Keeps.refl
  length := rfl
  elements := fun i => (overlay_nil index _ i).symm

theorem trans (h : WritesFlat storage storage' ptrs ptrs' R index buf)
    (h' : WritesFlat storage' storage'' ptrs' ptrs'' R (index + buf.length)
      buf') :
    WritesFlat storage storage'' ptrs ptrs'' R index (buf ++ buf') where
  owned := h'.owned
  keeps := h.keeps.trans h'.keeps
  length := h'.length.trans h.length
  elements := fun i => by
    rw [h'.elements, overlay_append]
    exact overlay_congr (h.elements i) _ _

end WritesFlat

/-- A write to one page of an array. -/
theorem Writes.inArray {storage storage' : ArrayStorage T layers}
    {ptrs : List TablePtr} {n : ℕ} {child child' : TablePtr} {index : ℕ}
    {buf : List T} (hchild : ptrs[n]? = some child)
    (hfits : index + buf.length ≤ capacity layers)
    (h : Writes storage storage' child child' (holding (ptrs.eraseIdx n) R)
      index buf) :
    WritesFlat storage storage' ptrs (ptrs.set n child') R
      (n * capacity layers + index) buf where
  owned := by
    rw [holding_set (List.getElem?_eq_some_iff.1 hchild).1]
    exact h.owned
  keeps := h.keeps.imp fun _ hq => holding_pos hq _
  length := List.length_set
  elements := fun i => by
    have hlt := (List.getElem?_eq_some_iff.1 hchild).1
    rw [flat_set hlt h.keeps, ← flat_overlay hchild hfits, h.elements]

/-- The page that was made unique, after a write to the pages below it. -/
theorem Writes.inPage {t t' : Table (List TablePtr)}
    {next next' next'' : ArrayStorage T layers} {ptr ptr' : TablePtr}
    {page page' : List TablePtr} {index : ℕ} {buf : List T}
    (hunique : Unique t' ptr' R page) (hpage : t.item ptr = some page)
    (hitem : ∀ q, 0 < R q → t'.item q = t.item q)
    (hnext : ∀ q i, lookup next' q i = lookup next q i)
    (h : WritesFlat next' next'' page page' (otherHolders t' ptr') index
      buf) :
    Writes (.pages t next) (.pages (t'.setItem ptr' page') next'') ptr ptr' R
      index buf := by
  have hcounts := hunique.counts
  have hlength : page'.length = PAGE_SIZE := by
    rw [h.length]
    exact hcounts.length ptr' page hunique.item
  obtain ⟨hset, hbecomes⟩ := hunique.setItem hlength
  have hsame : ∀ ptrs i, flat next' ptrs i = flat next ptrs i := by
    intro ptrs i
    unfold flat
    simp only [hnext]
  refine ⟨⟨hset, ?_⟩, ?_, ?_⟩
  · rw [hbecomes.holders_eq]
    exact h.owned
  · -- the other pages lie elsewhere, and their entries are held by them
    apply keeps_pages
    · intro q hq
      rw [hbecomes.item_ne (hunique.ne hq), hitem q hq]
    · intro q page'' hq hpage'' i
      rw [← hsame]
      apply h.keeps.flat_eq
      intro child hmem
      rw [← hitem q hq] at hpage''
      have hle := hcounts.wf.weight_le_totalExcept (List.count child)
        (hunique.ne hq)
      rw [Table.weight_some hpage''] at hle
      have hcount := List.count_pos_iff.2 hmem
      unfold otherHolders
      omega
  · intro i
    rw [lookup_pages, hbecomes.item_self, Option.bind_some, h.elements]
    apply overlay_congr
    rw [hsame, lookup_pages, hpage]
    rfl

theorem Writes.inData {t t' : Table (List T)} {ptr ptr' : TablePtr}
    {page page' : List T} {index : ℕ} {buf : List T}
    (hunique : Unique t' ptr' R page) (hpage : t.item ptr = some page)
    (hitem : ∀ q, 0 < R q → t'.item q = t.item q)
    (hlength : page'.length = page.length)
    (h : ∀ i, page'[i]? = overlay index buf (fun j => page[j]?) i) :
    Writes (.data t) (.data (t'.setItem ptr' page')) ptr ptr' R index buf := by
  have hlength' : page'.length = PAGE_SIZE := by
    rw [hlength]
    exact hunique.counts.length ptr' page hunique.item
  obtain ⟨hset, hbecomes⟩ := hunique.setItem hlength'
  refine ⟨hset, ?_, ?_⟩
  · intro q hq i
    simp only [lookup]
    rw [hbecomes.item_ne (hunique.ne hq), hitem q hq]
  · intro i
    simp only [lookup, hbecomes.item_self, Option.bind_some, h]
    apply overlay_congr
    simp [hpage]

end RedPlanet.SpaceTime
