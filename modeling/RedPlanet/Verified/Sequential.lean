import RedPlanet.Verified.Arena
import RedPlanet.Verified.Related

/-!
# Arenas that only grow

As long as nothing is removed from it, a sequential arena is the list of its
elements: an insertion appends and is named by the length, a name is a
position, and collecting the arena anew gives the same arena.

`Dense` says that an arena is still what its elements are collected to;
insertions and assignments keep it (`Dense.insert`, `Dense.set`).  `Lists`
relates a dense arena to a list whose entries are something else, element by
element, which is how a heap of values stands for an arena of pointers.
-/

namespace RedPlanet.Verified

/-- Where nothing was removed, elements are named in the order in which they
were inserted. -/
class SequentialArena (A : Type → Type) [Arena A] : Prop extends
    LawfulArena A where
  new_eq : ∀ {α : Type}, (Arena.new : A α) = Arena.collect []
  insert_collect : ∀ {α : Type} (x : α) (l : List α),
    Arena.insert x (Arena.collect l : A α)
      = (⟨l.length, 0⟩, Arena.collect (l ++ [x]))
  set_collect : ∀ {α : Type} (i : Index) (y : α) (l : List α),
    Arena.get i (Arena.collect l : A α) ≠ none →
      Arena.set i y (Arena.collect l : A α) = Arena.collect (l.set i.index y)

/-! ## Names as positions -/

/-- The element that a name stands for in a list. -/
def entry {α : Type} (l : List α) (i : Index) : Option α :=
  if i.generation = 0 then l[i.index]? else none

section Entry

variable {α β : Type} {l : List α} {i : Index} {x : α}

/-- A name of generation zero is a position in the list. -/
theorem entry_some (h : entry l i = some x) :
    i.generation = 0 ∧ l[i.index]? = some x := by
  unfold entry at h
  split at h
  · exact ⟨by assumption, h⟩
  · cases h

@[simp] theorem entry_nil : entry ([] : List α) i = none := by
  unfold entry
  split
  · rfl
  · rfl

/-- The last element is named by the length of the rest. -/
@[simp] theorem entry_append_self :
    entry (l ++ [x]) ⟨l.length, 0⟩ = some x := by
  simp [entry]

/-- The other names mean what they meant. -/
theorem entry_append_ne (h : i ≠ ⟨l.length, 0⟩) :
    entry (l ++ [x]) i = entry l i := by
  obtain ⟨index, generation⟩ := i
  unfold entry
  by_cases hg : generation = 0
  · subst hg
    have hne : index ≠ l.length := fun heq => h (by rw [heq])
    rw [if_pos rfl, if_pos rfl, List.getElem?_append]
    split
    · rfl
    · rename_i hge
      rw [List.getElem?_eq_none (Nat.not_lt.1 hge)]
      exact List.getElem?_eq_none (by simp at hge ⊢; omega)
  · rw [if_neg hg, if_neg hg]

/-- The entry that was exchanged. -/
theorem entry_set_self (h : entry l i = some x) (y : α) :
    entry (l.set i.index y) i = some y := by
  obtain ⟨hg, hx⟩ := entry_some h
  unfold entry
  rw [if_pos hg, List.getElem?_set_self (List.getElem?_eq_some_iff.1 hx).1]

/-- The entries that were not exchanged. -/
theorem entry_set_ne {j : Index} (h : entry l i = some x) (hne : j ≠ i)
    (y : α) : entry (l.set i.index y) j = entry l j := by
  have hgi := (entry_some h).1
  unfold entry
  by_cases hg : j.generation = 0
  · have hindex : i.index ≠ j.index := by
      intro heq
      apply hne
      obtain ⟨index, generation⟩ := i
      obtain ⟨index', generation'⟩ := j
      dsimp only at hgi hg heq
      rw [hgi, hg, heq]
    rw [if_pos hg, if_pos hg, List.getElem?_set_ne hindex]
  · rw [if_neg hg, if_neg hg]

/-- Lists that name the same positions have the same length. -/
theorem length_le_of_entry {l' : List β}
    (h : ∀ i, entry l i ≠ none → entry l' i ≠ none) :
    l.length ≤ l'.length := by
  by_contra hlt
  have hself : entry l ⟨l'.length, 0⟩ ≠ none := by
    simp only [entry, if_pos]
    rw [List.getElem?_eq_getElem (by omega)]
    exact Option.some_ne_none _
  apply h _ hself
  simp [entry]

end Entry

namespace Arena

variable {A : Type → Type} [Arena A] {α : Type} {a : A α}

/-- The arena is what its elements are collected to. -/
def Dense (a : A α) : Prop := (collect (values a) : A α) = a

theorem dense_collect [LawfulArena A] (l : List α) :
    Dense (collect l : A α) := by
  unfold Dense
  rw [values_collect]

/-- In a dense arena a name is a position. -/
theorem Dense.get_eq [LawfulArena A] (h : Dense a) (i : Index) :
    get i a = entry (values a) i := by
  conv_lhs => rw [← h]
  exact get_collect i _

variable [SequentialArena A]

theorem dense_new : Dense (new : A α) := by
  rw [SequentialArena.new_eq]
  exact dense_collect []

/-- An insertion appends, and the name is the length. -/
theorem Dense.insert_eq (h : Dense a) (x : α) :
    insert x a = (⟨(values a).length, 0⟩, collect (values a ++ [x])) := by
  conv_lhs => rw [← h]
  exact SequentialArena.insert_collect x _

/-- An insertion keeps an arena dense. -/
theorem Dense.insert (h : Dense a) (x : α) : Dense (insert x a).2 := by
  rw [h.insert_eq]
  exact dense_collect _

/-- So does an assignment through a name in use. -/
theorem Dense.set (h : Dense a) (i : Index) (y : α) (hget : get i a ≠ none) :
    Dense (set i y a) := by
  rw [← h] at hget ⊢
  rw [SequentialArena.set_collect i y _ hget]
  exact dense_collect _

/-! ## An arena and a list -/

/-- Every name stands for related elements in the arena and in the list. -/
def Lists {β : Type} (R : α → β → Prop) (a : A α) (l : List β) : Prop :=
  ∀ i, Option.Rel R (get i a) (entry l i)

variable {β : Type} {R R' : α → β → Prop} {l : List β} {i : Index}

omit [SequentialArena A] in
/-- An element has a relative under the same name. -/
theorem Lists.of_get (h : Lists R a l) {x : α} (hget : get i a = some x) :
    ∃ y, entry l i = some y ∧ R x y := by
  have hi := h i
  rw [hget] at hi
  exact rel_some_left hi

omit [SequentialArena A] in
/-- The same names are in use on both sides. -/
theorem Lists.get_eq_none_iff (h : Lists R a l) :
    get i a = none ↔ entry l i = none := by
  have hi := h i
  constructor
  · intro hget
    rw [hget] at hi
    exact rel_none_left hi
  · intro hentry
    rw [hentry] at hi
    exact rel_none_right hi

omit [SequentialArena A] in
/-- The elements of the arena stay related. -/
theorem Lists.imp (h : Lists R a l)
    (himp : ∀ i x y, get i a = some x → R x y → R' x y) : Lists R' a l :=
  fun i => rel_imp (h i) (himp i)

theorem lists_new : Lists R (new : A α) [] := by
  intro i
  rw [LawfulArena.get_new, entry_nil]
  exact .none

/-- Both sides have as many elements. -/
theorem Lists.length_eq (h : Lists R a l) (hdense : Dense a) :
    (values a).length = l.length := by
  have hsome : ∀ i, entry (values a) i ≠ none ↔ entry l i ≠ none := by
    intro i
    rw [← hdense.get_eq, ne_eq, h.get_eq_none_iff]
  exact Nat.le_antisymm (length_le_of_entry fun i hi => (hsome i).1 hi)
    (length_le_of_entry fun i hi => (hsome i).2 hi)

/-- An insertion appends, and returns the length. -/
theorem Lists.insert (h : Lists R a l) (hdense : Dense a) {x : α} {y : β}
    (himp : ∀ i x y, get i a = some x → R x y → R' x y) (hR : R' x y) :
    (insert x a).1 = ⟨l.length, 0⟩ ∧ Lists R' (insert x a).2 (l ++ [y]) := by
  have hname : (Arena.insert x a).1 = ⟨l.length, 0⟩ := by
    rw [hdense.insert_eq, h.length_eq hdense]
  refine ⟨hname, ?_⟩
  intro i
  by_cases hi : i = ⟨l.length, 0⟩
  · have hself := LawfulArena.get_insert_self x a
    rw [hname] at hself
    rw [hi, hself, entry_append_self]
    exact .some hR
  · have hother : i ≠ (Arena.insert x a).1 := by
      rw [hname]
      exact hi
    rw [LawfulArena.get_insert_ne x a i hother, entry_append_ne hi]
    exact h.imp himp i

/-- One element is exchanged on both sides. -/
theorem Lists.set (h : Lists R a l) {x x' : α} {y' : β}
    (hget : get i a = some x)
    (himp : ∀ j x y, j ≠ i → get j a = some x → R x y → R' x y)
    (hR : R' x' y') : Lists R' (set i x' a) (l.set i.index y') := by
  obtain ⟨y, hy, _⟩ := h.of_get hget
  intro j
  by_cases hj : j = i
  · rw [hj, LawfulArena.get_set_self i x x' a hget, entry_set_self hy]
    exact .some hR
  · rw [LawfulArena.get_set_ne i j x' a hj, entry_set_ne hy hj]
    exact rel_imp (h j) fun z w hgetj => himp j z w hj hgetj

end Arena

/-! ## The arena of slots and generations -/

namespace GenArena

variable {α : Type}

theorem insert_collect (x : α) (l : List α) :
    (collect l).insert x = (⟨l.length, 0⟩, collect (l ++ [x])) := by
  simp [insert, collect, push]

theorem set_collect (i : Index) (y : α) (l : List α)
    (h : (collect l).get i ≠ none) :
    (collect l).set i y = collect (l.set i.index y) := by
  obtain ⟨x, hx⟩ := Option.ne_none_iff_exists'.1 h
  rw [get_eq_some] at hx
  have hslot : (l.map fun x => some (0, x))[i.index]?
      = some (some (i.generation, x)) := hx
  rw [List.getElem?_map, Option.map_eq_some_iff] at hslot
  obtain ⟨x', _, heq⟩ := hslot
  have hg : 0 = i.generation := congrArg Prod.fst (Option.some.inj heq)
  rcases set_cases i y (collect l) with ⟨e, _, he, hset⟩ | ⟨hnone, _⟩
  · rw [hset]
    have he0 : e.1 = 0 := he.trans hg.symm
    simp [put, collect, he0, List.map_set]
  · exact absurd hnone h

instance : SequentialArena GenArena where
  new_eq := rfl
  insert_collect := insert_collect
  set_collect := set_collect

end GenArena

end RedPlanet.Verified
