import RedPlanet.SpaceTime.Table

/-!
# What the operations of a table do

One specification for each operation of `Table`, in terms of counts and items
only: as long as no limit is exceeded, `add_item` fills an empty slot,
`clone_table_ptr` and `pop_item` count up and down, and `pop_item` empties the
slot and returns the item exactly with the last pointer.

The layers above use these specifications by way of `refs` and `item`, so that
most of them never look at the words of the slots.  Runs of the operations are
in `SpaceTime.TableRun`.
-/

namespace RedPlanet.SpaceTime.Table

open RedPlanet.Core RedPlanet.Verified Limited

variable {α σ : Type}

/-! ## Adding an item -/

theorem filled_isFilled : ItemMetaData.filled.isFilled = true := by decide

theorem filled_refCount : ItemMetaData.filled.refCount = 1 := by decide

theorem FreeChain.nil_of_end {metadata : List ItemMetaData} {free : List ℕ}
    (h : FreeChain metadata metadata.length free) : free = [] := by
  cases free with
  | nil => rfl
  | cons i rest =>
      obtain ⟨hi, data, hdata, _⟩ := h
      have hlt := (List.getElem?_eq_some_iff.1 hdata).1
      omega

/-- Adding an item at the end. -/
theorem becomes_push {t : Table α} (h : t.WF) (item : α)
    (hend : t.nextEmpty = t.table.length)
    (hroom : t.table.length + 1 < 2 ^ 32) :
    t.Becomes ⟨t.nextEmpty⟩ 1 (some item)
      { metadata := t.metadata ++ [.filled]
        table := t.table ++ [item]
        nextEmpty := t.nextEmpty + 1 } := by
  have hlength := h.length
  obtain ⟨free, hnodup, hchain, hcomplete⟩ := h.free
  rw [hend, ← hlength] at hchain
  have hfree := hchain.nil_of_end
  subst hfree
  have hfilled : ∀ (i : ℕ) (data : ItemMetaData),
      (t.metadata ++ [.filled])[i]? = some data →
        data = .filled ∨ t.metadata[i]? = some data := by
    intro i data hdata
    rcases Nat.lt_or_ge i t.metadata.length with hlt | hge
    · rw [List.getElem?_append_left hlt] at hdata
      exact Or.inr hdata
    · rw [List.getElem?_append_right hge] at hdata
      have hmem := List.mem_of_getElem? hdata
      exact Or.inl (List.mem_singleton.1 hmem)
  have hwf : WF (α := α)
      { metadata := t.metadata ++ [.filled]
        table := t.table ++ [item]
        nextEmpty := t.nextEmpty + 1 } := by
    refine ⟨by simp [hlength], by simpa using hroom, ?_, [], List.nodup_nil,
      ?_, ?_⟩
    · intro i data hdata hfill
      rcases hfilled i data hdata with rfl | hold
      · rw [filled_refCount]
        exact Nat.one_pos
      · exact h.counted i data hold hfill
    · show t.nextEmpty + 1 = (t.metadata ++ [_]).length
      rw [List.length_append, hend, hlength]
      rfl
    · intro i data hdata hempty
      rcases hfilled i data hdata with rfl | hold
      · rw [filled_isFilled] at hempty
        exact nomatch hempty
      · exact hcomplete i data hold hempty
  have hmetadata : ∀ i, i ≠ t.nextEmpty →
      (t.metadata ++ [ItemMetaData.filled])[i]? = t.metadata[i]? := by
    intro i hi
    rw [hend, ← hlength] at hi
    rcases Nat.lt_or_ge i t.metadata.length with hlt | hge
    · exact List.getElem?_append_left hlt
    · rw [List.getElem?_eq_none (by simp; omega), List.getElem?_eq_none hge]
  have htable : ∀ i, i ≠ t.nextEmpty →
      (t.table ++ [item])[i]? = t.table[i]? := by
    intro i hi
    rw [hend] at hi
    rcases Nat.lt_or_ge i t.table.length with hlt | hge
    · exact List.getElem?_append_left hlt
    · rw [List.getElem?_eq_none (by simp; omega), List.getElem?_eq_none hge]
  have hlast : (t.metadata ++ [ItemMetaData.filled])[t.nextEmpty]?
      = some .filled := by
    rw [hend, ← hlength]
    exact List.getElem?_concat_length
  have hitem : (t.table ++ [item])[t.nextEmpty]? = some item := by
    rw [hend]
    exact List.getElem?_concat_length
  have hbecomes := becomes_filled ⟨t.nextEmpty⟩ hwf hmetadata htable
    hlast filled_isFilled hitem
  rw [filled_refCount] at hbecomes
  exact hbecomes

/-- Adding an item in the first empty slot. -/
theorem becomes_reuse {t : Table α} (h : t.WF) (item : α)
    (hend : t.nextEmpty ≠ t.table.length) :
    ∃ data, t.metadata[t.nextEmpty]? = some data ∧ data.isFilled = false ∧
      t.nextEmpty < t.table.length ∧
      t.Becomes ⟨t.nextEmpty⟩ 1 (some item)
        { metadata := t.metadata.set t.nextEmpty .filled
          table := t.table.set t.nextEmpty item
          nextEmpty := data.nextEmpty } := by
  have hlength := h.length
  obtain ⟨free, hnodup, hchain, hcomplete⟩ := h.free
  cases free with
  | nil =>
      unfold FreeChain at hchain
      omega
  | cons i rest =>
      obtain ⟨hi, data, hdata, hempty, hrest⟩ := hchain
      subst hi
      have hlt : t.nextEmpty < t.metadata.length :=
        (List.getElem?_eq_some_iff.1 hdata).1
      rw [List.nodup_cons] at hnodup
      refine ⟨data, hdata, hempty, by omega, ?_⟩
      have hself : (t.metadata.set t.nextEmpty ItemMetaData.filled)[t.nextEmpty]?
          = some .filled := by
        rw [List.getElem?_set_self hlt]
      have hother : ∀ i, i ≠ t.nextEmpty →
          (t.metadata.set t.nextEmpty ItemMetaData.filled)[i]?
            = t.metadata[i]? := by
        intro i hi
        exact List.getElem?_set_ne (Ne.symm hi)
      have hwf : WF (α := α)
          { metadata := t.metadata.set t.nextEmpty .filled
            table := t.table.set t.nextEmpty item
            nextEmpty := data.nextEmpty } := by
        refine ⟨by simp [hlength], by simpa using h.room, ?_, rest, hnodup.2,
          hrest.set hnodup.1 _, ?_⟩
        · intro i data' hdata' hfilled
          by_cases hi : i = t.nextEmpty
          · subst hi
            rw [hself] at hdata'
            cases hdata'
            rw [filled_refCount]
            exact Nat.one_pos
          · rw [hother i hi] at hdata'
            exact h.counted i data' hdata' hfilled
        · intro i data' hdata' hempty'
          by_cases hi : i = t.nextEmpty
          · subst hi
            rw [hself] at hdata'
            cases hdata'
            rw [filled_isFilled] at hempty'
            cases hempty'
          · rw [hother i hi] at hdata'
            rcases List.mem_cons.1 (hcomplete i data' hdata' hempty')
              with heq | hmem
            · exact absurd heq hi
            · exact hmem
      have htable : ∀ i, i ≠ t.nextEmpty →
          (t.table.set t.nextEmpty item)[i]? = t.table[i]? := by
        intro i hi
        exact List.getElem?_set_ne (Ne.symm hi)
      have hitem : (t.table.set t.nextEmpty item)[t.nextEmpty]? = some item := by
        rw [List.getElem?_set_self (by omega)]
      have hbecomes := becomes_filled ⟨t.nextEmpty⟩ hwf hother htable
        hself filled_isFilled hitem
      rw [filled_refCount] at hbecomes
      exact hbecomes

theorem addItem_spec {t : Table α} (h : t.WF) (item : α) :
    (t.addItem item).Ensures fun r =>
      t.refs r.1 = 0 ∧ t.Becomes r.1 1 (some item) r.2 := by
  unfold addItem
  by_cases hend : t.nextEmpty = t.table.length
  · dsimp only
    rw [if_pos hend]
    by_cases hroom : t.nextEmpty + 1 < 2 ^ 32
    · rw [if_pos hroom]
      have hrefs : t.refs ⟨t.nextEmpty⟩ = 0 := by
        unfold refs
        dsimp only
        rw [hend, ← h.length, List.getElem?_eq_none (Nat.le_refl _)]
      rw [hend] at hroom
      exact Ensures.pure ⟨hrefs, becomes_push h item hend hroom⟩
    · rw [if_neg hroom]
      exact Ensures.full
  · dsimp only
    rw [if_neg hend]
    obtain ⟨data, hdata, hempty, hlt, hbecomes⟩ := becomes_reuse h item hend
    apply Ensures.bind (Ensures.unwrap hdata)
    intro _ hsame
    subst hsame
    apply Ensures.bind (Ensures.unwrap (List.getElem?_eq_getElem hlt))
    intro _ _
    exact Ensures.pure ⟨refs_of_empty hdata hempty, hbecomes⟩

/-! ## Counting -/

/-- Another positive count in a filled slot. -/
theorem becomes_count {t : Table α} (h : t.WF) {ptr : TablePtr}
    {old data : ItemMetaData} (hold : t.metadata[ptr.index]? = some old)
    (hfilled : old.isFilled = true) (hdata : data.isFilled = true)
    (hpos : 0 < data.refCount) :
    t.Becomes ptr data.refCount (t.item ptr)
      { t with metadata := t.metadata.set ptr.index data } := by
  have hlt : ptr.index < t.metadata.length :=
    (List.getElem?_eq_some_iff.1 hold).1
  have hrefs : 0 < t.refs ptr := by
    rw [refs_of_filled hold hfilled]
    exact h.counted _ _ hold hfilled
  obtain ⟨x, hitem, hx⟩ := h.item_of_refs hrefs
  have hself : (t.metadata.set ptr.index data)[ptr.index]? = some data := by
    rw [List.getElem?_set_self hlt]
  have hother : ∀ i, i ≠ ptr.index →
      (t.metadata.set ptr.index data)[i]? = t.metadata[i]? := by
    intro i hi
    exact List.getElem?_set_ne (Ne.symm hi)
  obtain ⟨free, hnodup, hchain, hcomplete⟩ := h.free
  have hnot := hchain.not_mem_of_filled hold hfilled
  have hwf : WF { t with metadata := t.metadata.set ptr.index data } := by
    refine ⟨by simp [h.length], h.room, ?_, free, hnodup, hchain.set hnot _, ?_⟩
    · intro i data' hdata' hfill
      by_cases hi : i = ptr.index
      · subst hi
        rw [hself] at hdata'
        cases hdata'
        exact hpos
      · rw [hother i hi] at hdata'
        exact h.counted i data' hdata' hfill
    · intro i data' hdata' hempty
      by_cases hi : i = ptr.index
      · subst hi
        rw [hself] at hdata'
        cases hdata'
        rw [hdata] at hempty
        exact nomatch hempty
      · rw [hother i hi] at hdata'
        exact hcomplete i data' hdata' hempty
  rw [hitem]
  exact becomes_filled ptr hwf hother (fun _ _ => rfl) hself hdata hx

/-- The slot of the last pointer goes to the front of the free list. -/
theorem becomes_freed {t : Table α} (h : t.WF) {ptr : TablePtr}
    {old link : ItemMetaData} (hold : t.metadata[ptr.index]? = some old)
    (hfilled : old.isFilled = true) (hlink : link.isFilled = false)
    (hnext : link.nextEmpty = t.nextEmpty) :
    t.Becomes ptr 0 none
      { t with
        metadata := t.metadata.set ptr.index link
        nextEmpty := ptr.index } := by
  have hlt : ptr.index < t.metadata.length :=
    (List.getElem?_eq_some_iff.1 hold).1
  have hself : (t.metadata.set ptr.index link)[ptr.index]? = some link := by
    rw [List.getElem?_set_self hlt]
  have hother : ∀ i, i ≠ ptr.index →
      (t.metadata.set ptr.index link)[i]? = t.metadata[i]? := by
    intro i hi
    exact List.getElem?_set_ne (Ne.symm hi)
  obtain ⟨free, hnodup, hchain, hcomplete⟩ := h.free
  have hnot := hchain.not_mem_of_filled hold hfilled
  have hwf : WF
      { t with
        metadata := t.metadata.set ptr.index link
        nextEmpty := ptr.index } := by
    refine ⟨by simp [h.length], h.room, ?_, ptr.index :: free,
      List.nodup_cons.2 ⟨hnot, hnodup⟩, ?_, ?_⟩
    · intro i data' hdata' hfill
      by_cases hi : i = ptr.index
      · subst hi
        rw [hself] at hdata'
        cases hdata'
        rw [hlink] at hfill
        exact nomatch hfill
      · rw [hother i hi] at hdata'
        exact h.counted i data' hdata' hfill
    · refine ⟨rfl, link, hself, hlink, ?_⟩
      rw [hnext]
      exact hchain.set hnot _
    · intro i data' hdata' hempty
      by_cases hi : i = ptr.index
      · rw [hi]
        exact List.mem_cons_self
      · rw [hother i hi] at hdata'
        exact List.mem_cons_of_mem _ (hcomplete i data' hdata' hempty)
  exact becomes_empty ptr hwf hother (fun _ _ => rfl) hself hlink

section Counts

variable [Build] {t : Table α} {ptr : TablePtr}

theorem cloneTablePtr_spec (h : t.WF) (hpos : 0 < t.refs ptr) :
    (t.cloneTablePtr ptr).Ensures fun r =>
      r.1 = ptr ∧ t.Becomes ptr (t.refs ptr + 1) (t.item ptr) r.2 := by
  obtain ⟨data, hdata, hfilled, hrefs⟩ := filled_of_refs hpos
  unfold cloneTablePtr
  apply Ensures.bind (Ensures.unwrap hdata)
  intro _ hsame
  subst hsame
  apply Ensures.bind ItemMetaData.addRef_spec
  rintro data' ⟨hfilled', hcount⟩
  have hbecomes := becomes_count h hdata hfilled hfilled' (by omega)
  rw [hcount, ← hrefs] at hbecomes
  exact Ensures.pure ⟨rfl, hbecomes⟩

/-- The item is returned exactly with the last pointer. -/
theorem popItem_spec (h : t.WF) (hpos : 0 < t.refs ptr) :
    (t.popItem ptr).Ensures fun r =>
      (t.refs ptr = 1 ∧ r.1 = t.item ptr ∧ t.Becomes ptr 0 none r.2) ∨
      (1 < t.refs ptr ∧ r.1 = none ∧
        t.Becomes ptr (t.refs ptr - 1) (t.item ptr) r.2) := by
  obtain ⟨data, hdata, hfilled, hrefs⟩ := filled_of_refs hpos
  obtain ⟨x, hitem, hx⟩ := h.item_of_refs hpos
  unfold popItem
  apply Ensures.bind (Ensures.unwrap hdata)
  intro _ hsame
  subst hsame
  rw [if_pos hfilled]
  apply Ensures.bind (ItemMetaData.removeRef_spec (hrefs ▸ hpos) hfilled)
  rintro data' ⟨hfilled', hcount⟩
  by_cases hlast : data'.refCount = 0
  · rw [if_pos hlast]
    apply Ensures.bind (ItemMetaData.empty_spec t.nextEmpty)
    rintro link ⟨hlink, hnext⟩
    apply Ensures.bind (Ensures.unwrap hx)
    intro _ hsame
    subst hsame
    have hbecomes := becomes_freed h hdata hfilled hlink hnext
    exact Ensures.pure (Or.inl ⟨by omega, hitem.symm, hbecomes⟩)
  · rw [if_neg hlast]
    have hbecomes := becomes_count h hdata hfilled hfilled' (by omega)
    rw [hcount, ← hrefs] at hbecomes
    exact Ensures.pure (Or.inr ⟨by omega, rfl, hbecomes⟩)

theorem cloneTablePtr_roomy (t : Table α) (ptr : TablePtr) :
    (t.cloneTablePtr ptr).Roomy := by
  apply (Roomy.unwrap _).bind
  intro data
  apply Roomy.bind _ fun _ => Roomy.pure _
  apply (Roomy.note _).bind
  intro _
  exact (Roomy.unwrap _).bind fun _ => Roomy.pure _

theorem dropTablePtr_spec (h : t.WF) (hpos : 0 < t.refs ptr) :
    (t.dropTablePtr ptr).Ensures fun t' =>
      t.Becomes ptr (t.refs ptr - 1)
        (if t.refs ptr = 1 then none else t.item ptr) t' := by
  unfold dropTablePtr
  apply Ensures.bind (popItem_spec h hpos)
  intro r hr
  rcases hr with ⟨hone, _, hbecomes⟩ | ⟨hmore, _, hbecomes⟩
  · rw [if_pos hone, hone]
    exact Ensures.pure hbecomes
  · rw [if_neg (by omega)]
    exact Ensures.pure hbecomes

end Counts

/-! ## Access to the items -/

variable {t : Table α} {ptr : TablePtr}

theorem getItem_spec (h : t.WF) (hpos : 0 < t.refs ptr) :
    (t.getItem ptr).Ensures fun x => t.item ptr = some x := by
  obtain ⟨data, hdata, hfilled, hrefs⟩ := filled_of_refs hpos
  obtain ⟨x, hitem, hx⟩ := h.item_of_refs hpos
  unfold getItem
  apply Ensures.bind (Ensures.unwrap hdata)
  intro _ hsame
  subst hsame
  rw [if_pos hfilled]
  apply (Ensures.unwrap hx).imp
  intro _ hsame
  rw [hsame]
  exact hitem

theorem isUniqueTablePtr_spec (hpos : 0 < t.refs ptr) :
    (t.isUniqueTablePtr ptr).Ensures fun unique =>
      unique = decide (t.refs ptr = 1) := by
  obtain ⟨data, hdata, hfilled, hrefs⟩ := filled_of_refs hpos
  unfold isUniqueTablePtr
  apply Ensures.bind (Ensures.unwrap hdata)
  intro _ hsame
  subst hsame
  exact Ensures.pure (by rw [hfilled, hrefs, Bool.true_and])

theorem getItemMut_spec (h : t.WF) (hone : t.refs ptr = 1) :
    (t.getItemMut ptr).Ensures fun x => x = t.item ptr ∧ x ≠ none := by
  have hpos : 0 < t.refs ptr := by omega
  obtain ⟨x, hitem, hx⟩ := h.item_of_refs hpos
  unfold getItemMut
  apply Ensures.bind (isUniqueTablePtr_spec hpos)
  intro unique hunique
  have htrue : unique = true := by simp [hunique, hone]
  rw [if_pos htrue]
  apply Ensures.bind (Ensures.unwrap hx)
  intro _ hsame
  subst hsame
  exact Ensures.pure ⟨hitem.symm, Option.some_ne_none _⟩

theorem becomes_setItem (h : t.WF) (hpos : 0 < t.refs ptr) (x : α) :
    t.Becomes ptr (t.refs ptr) (some x) (t.setItem ptr x) := by
  obtain ⟨data, hdata, hfilled, hrefs⟩ := filled_of_refs hpos
  have hlt : ptr.index < t.table.length := by
    rw [← h.length]
    exact (List.getElem?_eq_some_iff.1 hdata).1
  have hwf : (t.setItem ptr x).WF :=
    ⟨by simp [setItem, h.length], by simpa [setItem] using h.room, h.counted,
      h.free⟩
  have htable : ∀ i, i ≠ ptr.index →
      (t.table.set ptr.index x)[i]? = t.table[i]? := by
    intro i hi
    exact List.getElem?_set_ne (Ne.symm hi)
  have hx : (t.table.set ptr.index x)[ptr.index]? = some x := by
    rw [List.getElem?_set_self hlt]
  rw [hrefs]
  exact becomes_filled ptr hwf (fun _ _ => rfl) htable hdata hfilled hx

end RedPlanet.SpaceTime.Table
