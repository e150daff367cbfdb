import Mathlib.Data.List.Perm.Subperm
import RedPlanet.Verified.Arena

/-!
# Names that last

Collecting an arena anew gives its elements the first names there are.  They
keep their names if the iterator yielded just those, in this order
(`Numbered`).  While an arena is only changed, it never uses a name twice
(`GenerationalArena`).

Which name comes next can be told before the insertion, from the slots of the
arena (`SlotArena`): it fills the slot that was emptied last, or else a new
one, in the generation that counts the removals.  As long as nothing was
removed, every slot there is is filled in generation zero
(`filled_of_built`), and the next name is the first that the arena has not
used.  The arena of slots and generations has both laws; this is what
`Passed` is for, which says of a used name that its slot is there and is still
filled if its generation has not passed.
-/

namespace RedPlanet.Verified

namespace Arena

variable {A : Type → Type} [Arena A] {α : Type} {a : A α}

/-- The names of `n` elements that are collected. -/
def firstIds (n : ℕ) : List Index := (List.range n).map fun k => ⟨k, 0⟩

@[simp] theorem length_firstIds (n : ℕ) : (firstIds n).length = n := by
  simp [firstIds]

/-- These are the names of generation zero below the number of elements. -/
theorem mem_firstIds {n : ℕ} {i : Index} :
    i ∈ firstIds n ↔ i.generation = 0 ∧ i.index < n := by
  unfold firstIds
  rw [List.mem_map]
  constructor
  · rintro ⟨k, hk, rfl⟩
    exact ⟨rfl, List.mem_range.1 hk⟩
  · rintro ⟨hg, hi⟩
    refine ⟨i.index, List.mem_range.2 hi, ?_⟩
    rw [← hg]

/-- The iterator yields the names that collecting gives. -/
def Numbered (a : A α) : Prop :=
  (iter a).map Prod.fst = firstIds (iter a).length

/-- The iterator goes up through the slots. -/
def Ascending (a : A α) : Prop :=
  (iter a).Pairwise fun p q => p.1.index < q.1.index

variable [LawfulArena A]

open LawfulArena

/-- What is collected is numbered. -/
theorem numbered_collect (l : List α) : Numbered (collect l : A α) := by
  unfold Numbered firstIds
  rw [iter_collect]
  apply List.ext_getElem?
  intro k
  simp only [List.getElem?_map, List.getElem?_zipIdx, List.length_map,
    List.length_zipIdx]
  by_cases hk : k < l.length
  · simp [hk]
  · have hnone : l[k]? = none := List.getElem?_eq_none (by omega)
    have hrange : (List.range l.length)[k]? = none :=
      List.getElem?_eq_none (by simp; omega)
    simp [hnone, hrange]

/-- A numbered arena is what it would be if it were collected. -/
theorem Numbered.iter_eq (h : Numbered a) :
    iter (collect (values a) : A α) = iter a := by
  rw [iter_collect]
  apply List.ext_getElem?
  intro k
  have hname := congrArg (fun l => l[k]?) h
  simp only [firstIds, List.getElem?_map] at hname
  simp only [values, List.getElem?_map, List.getElem?_zipIdx]
  cases hk : (iter a)[k]? with
  | none => simp
  | some p =>
      have hlt := (List.getElem?_eq_some_iff.1 hk).1
      rw [hk, List.getElem?_range hlt] at hname
      obtain ⟨i, x⟩ := p
      have hi : i = ⟨k, 0⟩ := by simpa using hname
      simp [hi]

/-- Every name of a numbered arena means the same after collecting. -/
theorem Numbered.get_collect (h : Numbered a) (i : Index) :
    get i (collect (values a) : A α) = get i a := by
  apply Option.ext
  intro x
  rw [← mem_iter, h.iter_eq, mem_iter]

/-- Where no name is lost, the names are the first ones. -/
theorem perm_firstIds_of_get
    (h : ∀ i, get i a ≠ none → get i (collect (values a) : A α) ≠ none) :
    ((iter a).map Prod.fst).Perm (firstIds (iter a).length) := by
  have hsubset : (iter a).map Prod.fst ⊆ firstIds (iter a).length := by
    intro i hi
    obtain ⟨⟨j, x⟩, hmem, rfl⟩ := List.mem_map.1 hi
    rw [mem_iter] at hmem
    have hsome := h j (by rw [hmem]; exact Option.some_ne_none x)
    rw [Arena.get_collect] at hsome
    rw [mem_firstIds]
    by_cases hg : j.generation = 0
    · rw [if_pos hg, Option.ne_none_iff_exists'] at hsome
      obtain ⟨y, hy⟩ := hsome
      have hlt := (List.getElem?_eq_some_iff.1 hy).1
      simp only [values, List.length_map] at hlt
      exact ⟨hg, hlt⟩
    · rw [if_neg hg] at hsome
      exact absurd rfl hsome
  apply (List.subperm_of_subset (nodup_iter a) hsubset).perm_of_length_le
  simp

/-- An arena without a gap is numbered, if its iterator goes up. -/
theorem numbered_of_get (hascending : Ascending a)
    (h : ∀ i, get i a ≠ none → get i (collect (values a) : A α) ≠ none) :
    Numbered a := by
  have hup : ((iter a).map Prod.fst).Pairwise fun i j => i.index < j.index :=
    List.pairwise_map.2 hascending
  have hfirst : (firstIds (iter a).length).Pairwise
      fun i j => i.index < j.index :=
    List.pairwise_map.2 List.pairwise_lt_range
  apply List.Perm.eq_of_pairwise _ hup hfirst (perm_firstIds_of_get h)
  intro i j _ _ hij hji
  exact absurd hij (Nat.lt_asymm hji)

omit [LawfulArena A]

/-! ## Names of one arena -/

/-- What becomes of an arena that is changed. -/
inductive Later (a : A α) : A α → Prop where
  | refl : Later a a
  | insert {a' : A α} (x : α) (h : Later a a') : Later a (insert x a').2
  | set {a' : A α} (i : Index) (x : α) (h : Later a a') : Later a (set i x a')
  | remove {a' : A α} (i : Index) (h : Later a a') : Later a (remove i a').2

/-- The arena was new or collected once. -/
def Built (a : A α) : Prop :=
  Later new a ∨ ∃ l : List α, Later (collect l) a

/-- The arena has named an element so since it was new or collected. -/
def Used (i : Index) (a : A α) : Prop :=
  ∃ a₀, Built a₀ ∧ Later a₀ a ∧ get i a₀ ≠ none

end Arena

/-- A name that was used is not used again. -/
class GenerationalArena (A : Type → Type) [Arena A] : Prop extends
    LawfulArena A where
  insert_ne : ∀ {α : Type} {i : Index} {a : A α} (x : α), Arena.Used i a →
    (Arena.insert x a).1 ≠ i

namespace Arena

variable {A : Type → Type} [Arena A] {α : Type} {a : A α} {i : Index}

theorem Built.insert (h : Built a) (x : α) : Built (insert x a).2 := by
  rcases h with h | ⟨l, h⟩
  · exact Or.inl (h.insert x)
  · exact Or.inr ⟨l, h.insert x⟩

theorem Built.set (h : Built a) (j : Index) (x : α) : Built (set j x a) := by
  rcases h with h | ⟨l, h⟩
  · exact Or.inl (h.set j x)
  · exact Or.inr ⟨l, h.set j x⟩

theorem Built.remove (h : Built a) (j : Index) : Built (remove j a).2 := by
  rcases h with h | ⟨l, h⟩
  · exact Or.inl (h.remove j)
  · exact Or.inr ⟨l, h.remove j⟩

theorem built_new : Built (new : A α) := Or.inl .refl

theorem built_collect (l : List α) : Built (collect l : A α) :=
  Or.inr ⟨l, .refl⟩

/-- A name stays used, whatever is inserted after it. -/
theorem Used.insert (h : Used i a) (x : α) : Used i (insert x a).2 := by
  obtain ⟨a₀, hbuilt, hlater, hget⟩ := h
  exact ⟨a₀, hbuilt, hlater.insert x, hget⟩

theorem Used.set (h : Used i a) (j : Index) (x : α) : Used i (set j x a) := by
  obtain ⟨a₀, hbuilt, hlater, hget⟩ := h
  exact ⟨a₀, hbuilt, hlater.set j x, hget⟩

/-- A name stays used when its element is removed. -/
theorem Used.remove (h : Used i a) (j : Index) : Used i (remove j a).2 := by
  obtain ⟨a₀, hbuilt, hlater, hget⟩ := h
  exact ⟨a₀, hbuilt, hlater.remove j, hget⟩

/-- The name that an insertion returns is used from then on. -/
theorem used_insert [LawfulArena A] (h : Built a) (x : α) :
    Used (insert x a).1 (insert x a).2 := by
  refine ⟨_, h.insert x, .refl, ?_⟩
  rw [LawfulArena.get_insert_self]
  exact Option.some_ne_none x

end Arena

/-! ## The name that comes next -/

/-- What there is to see of the slots of an arena: how many there are, the
empty one that is filled next, and the generation it is filled in. -/
class SlotArena (A : Type → Type) [Arena A] where
  slots : {α : Type} → A α → ℕ
  vacant : {α : Type} → A α → Option ℕ
  generation : {α : Type} → A α → ℕ

open Arena SlotArena in

/-- An insertion fills the empty slot, and adds one only where none is empty.
Only a removal empties a slot, and it begins another generation. -/
class LawfulSlotArena (A : Type → Type) [Arena A] [SlotArena A] : Prop extends
    GenerationalArena A, SteadyArena A where
  insert_fst : ∀ {α : Type} (x : α) (a : A α),
    (insert x a).1 = ⟨(vacant a).getD (slots a), generation a⟩
  slots_new : ∀ {α : Type}, slots (new : A α) = 0
  vacant_new : ∀ {α : Type}, vacant (new : A α) = none
  slots_collect : ∀ {α : Type} (l : List α),
    slots (collect l : A α) = l.length
  vacant_collect : ∀ {α : Type} (l : List α),
    vacant (collect l : A α) = none
  slots_insert : ∀ {α : Type} (x : α) (a : A α),
    vacant a = none → slots (insert x a).2 = slots a + 1
  vacant_insert : ∀ {α : Type} (x : α) (a : A α),
    vacant a = none → vacant (insert x a).2 = none
  generation_insert : ∀ {α : Type} (x : α) (a : A α),
    generation (insert x a).2 = generation a
  slots_set : ∀ {α : Type} (i : Index) (x : α) (a : A α),
    slots (set i x a) = slots a
  vacant_set : ∀ {α : Type} (i : Index) (x : α) (a : A α),
    vacant (set i x a) = vacant a
  generation_set : ∀ {α : Type} (i : Index) (x : α) (a : A α),
    generation (set i x a) = generation a
  generation_remove : ∀ {α : Type} (i : Index) (a : A α),
    get i a ≠ none → generation (remove i a).2 = generation a + 1

namespace Arena

open SlotArena LawfulSlotArena

variable {A : Type → Type} [Arena A] [SlotArena A] {α : Type} {a a' : A α}

/-- As long as nothing was removed, no slot is empty, and every one has its
first name. -/
def Filled (a : A α) : Prop :=
  generation a = 0 → vacant a = none ∧ ∀ k < slots a, get ⟨k, 0⟩ a ≠ none

variable [LawfulSlotArena A]

/-- The name of the next element, where nothing was removed. -/
theorem Filled.insert_fst (h : Filled a) (hgeneration : generation a = 0)
    (x : α) : (insert x a).1 = ⟨slots a, 0⟩ := by
  rw [LawfulSlotArena.insert_fst, (h hgeneration).1, hgeneration]
  rfl

/-- A new arena has no slot. -/
theorem filled_new : Filled (new : A α) := by
  intro _
  refine ⟨vacant_new, ?_⟩
  intro k hk
  rw [slots_new] at hk
  exact absurd hk (Nat.not_lt_zero k)

/-- A collected arena has a slot for each element. -/
theorem filled_collect (l : List α) : Filled (collect l : A α) := by
  intro _
  refine ⟨vacant_collect l, ?_⟩
  intro k hk
  rw [slots_collect] at hk
  rw [get_collect, if_pos rfl, List.getElem?_eq_getElem hk]
  exact Option.some_ne_none _

/-- The slot that is added is filled at once. -/
theorem Filled.insert (h : Filled a) (x : α) : Filled (insert x a).2 := by
  intro hgeneration
  rw [generation_insert] at hgeneration
  obtain ⟨hvacant, hget⟩ := h hgeneration
  have hname := h.insert_fst hgeneration x
  refine ⟨vacant_insert x a hvacant, ?_⟩
  intro k hk
  rw [slots_insert x a hvacant] at hk
  by_cases hself : (⟨k, 0⟩ : Index) = (Arena.insert x a).1
  · rw [hself, LawfulArena.get_insert_self]
    exact Option.some_ne_none x
  · rw [LawfulArena.get_insert_ne _ _ _ hself]
    apply hget
    have hne : k ≠ slots a := by
      intro heq
      rw [hname, heq] at hself
      exact hself rfl
    omega

/-- An assignment leaves every slot as full as it was. -/
theorem Filled.set (h : Filled a) (i : Index) (x : α) :
    Filled (set i x a) := by
  intro hgeneration
  rw [generation_set] at hgeneration
  obtain ⟨hvacant, hget⟩ := h hgeneration
  rw [vacant_set]
  refine ⟨hvacant, ?_⟩
  intro k hk
  rw [slots_set] at hk
  obtain ⟨y, hy⟩ := Option.ne_none_iff_exists'.1 (hget k hk)
  by_cases hself : (⟨k, 0⟩ : Index) = i
  · rw [hself] at hy ⊢
    rw [LawfulArena.get_set_self i y x a hy]
    exact Option.some_ne_none x
  · rw [LawfulArena.get_set_ne _ _ _ _ hself]
    exact hget k hk

/-- A removal either does nothing or ends the first generation. -/
theorem Filled.remove (h : Filled a) (i : Index) :
    Filled (remove i a).2 := by
  by_cases hget : get i a = none
  · rw [SteadyArena.remove_none i a hget]
    exact h
  · intro hgeneration
    rw [generation_remove i a hget] at hgeneration
    exact absurd hgeneration (Nat.succ_ne_zero _)

/-- Every change that an arena goes through keeps this. -/
theorem Filled.later (h : Filled a) (hlater : Later a a') : Filled a' := by
  induction hlater with
  | refl => exact h
  | insert x _ ih => exact ih.insert x
  | set i x _ ih => exact ih.set i x
  | remove i _ ih => exact ih.remove i

/-- So it holds of every arena there is. -/
theorem filled_of_built (h : Built a) : Filled a := by
  rcases h with hlater | ⟨l, hlater⟩
  · exact filled_new.later hlater
  · exact (filled_collect l).later hlater

end Arena

/-! ## The arena of slots and generations -/

namespace GenArena

variable {α : Type} {a a' : GenArena α} {i : Index}

/-- No slot is from a generation to come. -/
def Bounded (a : GenArena α) : Prop :=
  ∀ (k : ℕ) (e : ℕ × α), a.items[k]? = some (some e) → e.1 ≤ a.generation

/-- The slot is there, and filled if its generation has not passed. -/
def Passed (i : Index) (a : GenArena α) : Prop :=
  i.index < a.items.length ∧ i.generation ≤ a.generation ∧
    (i.generation = a.generation → ∃ e, a.items[i.index]? = some (some e))

theorem Bounded.insert (h : a.Bounded) (x : α) : (a.insert x).2.Bounded := by
  intro k e he
  rcases insert_cases x a with heq | ⟨j, rest, hfree, heq⟩
  · rw [heq] at he ⊢
    dsimp only [push] at he ⊢
    rw [List.getElem?_append] at he
    split at he
    · exact h k e he
    · rw [List.getElem?_singleton] at he
      split at he
      · cases he
        exact Nat.le_refl _
      · cases he
  · rw [heq] at he ⊢
    dsimp only [reuse] at he ⊢
    rw [List.getElem?_set] at he
    split at he
    · split at he
      · cases he
        exact Nat.le_refl _
      · cases he
    · exact h k e he

theorem Bounded.set (h : a.Bounded) (j : Index) (y : α) :
    (a.set j y).Bounded := by
  intro k e he
  rcases set_cases j y a with ⟨e', hslot, _, heq⟩ | ⟨_, heq⟩
  · rw [heq] at he ⊢
    dsimp only [put] at he ⊢
    rw [List.getElem?_set] at he
    split at he
    · split at he
      · cases he
        exact h _ e' hslot
      · cases he
    · exact h k e he
  · rw [heq] at he ⊢
    exact h k e he

theorem Bounded.remove (h : a.Bounded) (j : Index) :
    (a.remove j).2.Bounded := by
  intro k e he
  rcases remove_cases j a with ⟨e', hslot, _, heq⟩ | ⟨_, heq⟩
  · rw [heq] at he ⊢
    dsimp only [clear] at he ⊢
    rw [List.getElem?_set] at he
    split at he
    · split at he
      · cases he
      · cases he
    · have hle := h k e he
      omega
  · rw [heq] at he ⊢
    exact h k e he

/-- No change fills a slot in a generation to come. -/
theorem Bounded.later (h : a.Bounded) (hlater : Arena.Later a a') :
    a'.Bounded := by
  induction hlater with
  | refl => exact h
  | insert x _ ih => exact ih.insert x
  | set j y _ ih => exact ih.set j y
  | remove j _ ih => exact ih.remove j

theorem bounded_of_built (h : Arena.Built a) : a.Bounded := by
  rcases h with hlater | ⟨l, hlater⟩
  · apply Bounded.later _ hlater
    intro k e he
    cases he
  · apply Bounded.later _ hlater
    intro k e he
    have hmap : (l.map fun x => some (0, x))[k]? = some (some e) := he
    rw [List.getElem?_map, Option.map_eq_some_iff] at hmap
    obtain ⟨x, _, hx⟩ := hmap
    cases hx
    exact Nat.le_refl _

/-- An insertion fills a free slot, in the current generation, or adds one. -/
theorem Passed.insert (h : Passed i a) (x : α) : Passed i (a.insert x).2 := by
  obtain ⟨hlt, hle, hfilled⟩ := h
  rcases insert_cases x a with heq | ⟨j, rest, hfree, heq⟩
  · rw [heq]
    refine ⟨?_, hle, ?_⟩
    · simp only [push, List.length_append]
      omega
    · intro hg
      dsimp only [push]
      rw [List.getElem?_append_left hlt]
      exact hfilled hg
  · rw [heq]
    refine ⟨?_, hle, ?_⟩
    · simp only [reuse, List.length_set]
      exact hlt
    · intro hg
      dsimp only [reuse]
      by_cases hj : j = i.index
      · rw [hj, List.getElem?_set_self hlt]
        exact ⟨_, rfl⟩
      · rw [List.getElem?_set_ne hj]
        exact hfilled hg

/-- An assignment changes neither slots nor generations. -/
theorem Passed.set (h : Passed i a) (j : Index) (y : α) :
    Passed i (a.set j y) := by
  obtain ⟨hlt, hle, hfilled⟩ := h
  rcases set_cases j y a with ⟨e, hslot, _, heq⟩ | ⟨_, heq⟩
  · rw [heq]
    refine ⟨?_, hle, ?_⟩
    · simp only [put, List.length_set]
      exact hlt
    · intro hg
      dsimp only [put]
      by_cases hj : j.index = i.index
      · rw [hj, List.getElem?_set_self hlt]
        exact ⟨_, rfl⟩
      · rw [List.getElem?_set_ne hj]
        exact hfilled hg
  · rw [heq]
    exact ⟨hlt, hle, hfilled⟩

/-- A slot that is emptied is behind, since the generation goes on. -/
theorem Passed.remove (h : Passed i a) (j : Index) :
    Passed i (a.remove j).2 := by
  obtain ⟨hlt, hle, hfilled⟩ := h
  rcases remove_cases j a with ⟨e, hslot, _, heq⟩ | ⟨_, heq⟩
  · rw [heq]
    refine ⟨?_, ?_, ?_⟩
    · simp only [clear, List.length_set]
      exact hlt
    · dsimp only [clear]
      omega
    · intro hg
      dsimp only [clear] at hg
      omega
  · rw [heq]
    exact ⟨hlt, hle, hfilled⟩

/-- A name that has passed stays so. -/
theorem Passed.later (h : Passed i a) (hlater : Arena.Later a a') :
    Passed i a' := by
  induction hlater with
  | refl => exact h
  | insert x _ ih => exact ih.insert x
  | set j y _ ih => exact ih.set j y
  | remove j _ ih => exact ih.remove j

/-- A name that leads to an element has passed, and so has every name that
once did. -/
theorem passed_of_used (h : Arena.Used i a) : Passed i a := by
  obtain ⟨a₀, hbuilt, hlater, hget⟩ := h
  apply Passed.later _ hlater
  obtain ⟨x, hx⟩ := Option.ne_none_iff_exists'.1 hget
  have hslot := get_eq_some.1 hx
  exact ⟨(List.getElem?_eq_some_iff.1 hslot).1,
    bounded_of_built hbuilt _ _ hslot, fun _ => ⟨_, hslot⟩⟩

/-- A free slot is empty, and a new one is not there. -/
theorem Passed.insert_ne (h : Passed i a) (x : α) : (a.insert x).1 ≠ i := by
  obtain ⟨hlt, _, hfilled⟩ := h
  rcases insert_cases x a with heq | ⟨j, rest, hfree, heq⟩
  · rw [heq]
    rintro rfl
    exact Nat.lt_irrefl _ hlt
  · rw [heq]
    rintro rfl
    obtain ⟨e, he⟩ := hfilled rfl
    exact a.not_free he (by rw [hfree]; exact List.mem_cons_self)

instance : GenerationalArena GenArena where
  insert_ne := fun x h => (passed_of_used h).insert_ne x

/-- The slot that was emptied last is on top of the stack. -/
instance : SlotArena GenArena where
  slots := fun a => a.items.length
  vacant := fun a => a.free.head?
  generation := fun a => a.generation

/-- Where no slot is free, an insertion adds one. -/
theorem insert_of_free_nil (x : α) (h : a.free = []) :
    a.insert x = (⟨a.items.length, a.generation⟩, a.push x) := by
  rcases insert_cases x a with heq | ⟨j, rest, hfree, _⟩
  · exact heq
  · rw [h] at hfree
    cases hfree

instance : LawfulSlotArena GenArena where
  insert_fst := by
    intro α x a
    change (a.insert x).1 = ⟨a.free.head?.getD a.items.length, a.generation⟩
    unfold insert
    split
    case h_1 hfree => simp [hfree]
    case h_2 hfree => simp [hfree]
  slots_new := rfl
  vacant_new := rfl
  slots_collect := fun l => List.length_map _
  vacant_collect := fun _ => rfl
  slots_insert := by
    intro α x a hvacant
    change (a.insert x).2.items.length = a.items.length + 1
    rw [insert_of_free_nil x (List.head?_eq_none_iff.1 hvacant)]
    simp [push]
  vacant_insert := by
    intro α x a hvacant
    change (a.insert x).2.free.head? = none
    rw [insert_of_free_nil x (List.head?_eq_none_iff.1 hvacant)]
    exact hvacant
  generation_insert := by
    intro α x a
    change (a.insert x).2.generation = a.generation
    rcases insert_cases x a with heq | ⟨j, rest, hfree, heq⟩
    · rw [heq]
      rfl
    · rw [heq]
      rfl
  slots_set := by
    intro α i x a
    change (a.set i x).items.length = a.items.length
    rcases set_cases i x a with ⟨e, h, _, heq⟩ | ⟨_, heq⟩
    · rw [heq]
      simp [put]
    · rw [heq]
  vacant_set := by
    intro α i x a
    change (a.set i x).free.head? = a.free.head?
    rcases set_cases i x a with ⟨e, h, _, heq⟩ | ⟨_, heq⟩
    · rw [heq]
      rfl
    · rw [heq]
  generation_set := by
    intro α i x a
    change (a.set i x).generation = a.generation
    rcases set_cases i x a with ⟨e, h, _, heq⟩ | ⟨_, heq⟩
    · rw [heq]
      rfl
    · rw [heq]
  generation_remove := by
    intro α i a hget
    change (a.remove i).2.generation = a.generation + 1
    rcases remove_cases i a with ⟨e, h, _, heq⟩ | ⟨hnone, _⟩
    · rw [heq]
      rfl
    · exact absurd hnone hget

end GenArena

end RedPlanet.Verified
