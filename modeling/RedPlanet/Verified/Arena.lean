import Mathlib.Data.List.Nodup
import Mathlib.Data.List.Sigma
import Mathlib.Data.List.Perm.Basic

/-!
# Generational arenas

A container that names its elements itself.  `Arena` is what a user of one
calls, `LawfulArena` what it can rely on: an insertion uses a name that is not
in use, iterating yields every element once, and collecting a list numbers its
elements from zero on, in generation zero.

From the laws alone follows what each call does to the multiset of elements
(`values_insert`, `values_remove`, `values_set`) and what a collected arena
names (`get_collect`).  This is all that counting references to the elements
needs.

`GenArena` is such an arena: slots that remember in which generation they were
filled, and a stack of free ones.  Each of its changes comes with a lemma that
says once what it can do (`insert_cases`, `set_cases`, `remove_cases`), and the
laws are read off these.
-/

namespace RedPlanet.Verified

/-- The name of an element. -/
structure Index where
  index : ℕ
  generation : ℕ
deriving DecidableEq, Repr

/-- `set` is the assignment through a reference from `get_mut`. -/
class Arena (A : Type → Type) where
  new : {α : Type} → A α
  insert : {α : Type} → α → A α → Index × A α
  get : {α : Type} → Index → A α → Option α
  set : {α : Type} → Index → α → A α → A α
  remove : {α : Type} → Index → A α → Option α × A α
  iter : {α : Type} → A α → List (Index × α)
  collect : {α : Type} → List α → A α

open Arena

/-- What a user of an arena may rely on, whatever it is made of. Iterating
yields each element once, under its name. -/
class LawfulArena (A : Type → Type) [Arena A] : Prop where
  get_new : ∀ {α : Type} (i : Index), get i (new : A α) = none
  insert_fresh : ∀ {α : Type} (x : α) (a : A α),
    get (insert x a).1 a = none
  get_insert_self : ∀ {α : Type} (x : α) (a : A α),
    get (insert x a).1 (insert x a).2 = some x
  get_insert_ne : ∀ {α : Type} (x : α) (a : A α) (i : Index),
    i ≠ (insert x a).1 → get i (insert x a).2 = get i a
  get_set_self : ∀ {α : Type} (i : Index) (x y : α) (a : A α),
    get i a = some x → get i (set i y a) = some y
  get_set_ne : ∀ {α : Type} (i j : Index) (y : α) (a : A α),
    j ≠ i → get j (set i y a) = get j a
  remove_fst : ∀ {α : Type} (i : Index) (a : A α), (remove i a).1 = get i a
  get_remove_self : ∀ {α : Type} (i : Index) (a : A α),
    get i (remove i a).2 = none
  get_remove_ne : ∀ {α : Type} (i j : Index) (a : A α),
    j ≠ i → get j (remove i a).2 = get j a
  nodup_iter : ∀ {α : Type} (a : A α), ((iter a).map Prod.fst).Nodup
  mem_iter : ∀ {α : Type} (a : A α) (i : Index) (x : α),
    (i, x) ∈ iter a ↔ get i a = some x
  iter_collect : ∀ {α : Type} (l : List α),
    iter (collect l : A α) = l.zipIdx.map fun p => (⟨p.2, 0⟩, p.1)

/-- Removing under a name that is not in use does nothing. -/
class SteadyArena (A : Type → Type) [Arena A] : Prop where
  remove_none : ∀ {α : Type} (i : Index) (a : A α),
    get i a = none → remove i a = (none, a)

namespace Arena

variable {A : Type → Type} [Arena A] {α : Type}

/-- The elements, in the order of the iterator. -/
def values (a : A α) : List α := (iter a).map Prod.snd

variable [LawfulArena A]

open LawfulArena

/-- An element is in the list of elements just if some name leads to it. -/
theorem mem_values {a : A α} {x : α} :
    x ∈ values a ↔ ∃ i, get i a = some x := by
  unfold values
  constructor
  · intro h
    obtain ⟨⟨i, y⟩, hmem, rfl⟩ := List.mem_map.1 h
    exact ⟨i, (mem_iter a i y).1 hmem⟩
  · rintro ⟨i, hi⟩
    exact List.mem_map.2 ⟨(i, x), (mem_iter a i x).2 hi, rfl⟩

/-- Arenas with the same elements under the same names, but for one more. -/
theorem iter_perm_cons {a a' : A α} {i : Index} {x : α}
    (hfresh : get i a = none) (hself : get i a' = some x)
    (hother : ∀ j, j ≠ i → get j a' = get j a) :
    (iter a').Perm ((i, x) :: iter a) := by
  have hnodup : (iter a').Nodup := List.Nodup.of_map _ (nodup_iter a')
  have hnot : (i, x) ∉ iter a := by
    intro hmem
    rw [mem_iter, hfresh] at hmem
    exact nomatch hmem
  have hnodup' : ((i, x) :: iter a).Nodup :=
    List.nodup_cons.2 ⟨hnot, List.Nodup.of_map _ (nodup_iter a)⟩
  rw [List.perm_ext_iff_of_nodup hnodup hnodup']
  rintro ⟨j, y⟩
  rw [List.mem_cons, mem_iter, mem_iter, Prod.mk.injEq]
  by_cases hj : j = i
  · subst hj
    rw [hself, hfresh, Option.some_inj]
    exact ⟨fun h => Or.inl ⟨rfl, h.symm⟩, fun h => by
      rcases h with ⟨_, h⟩ | h
      · exact h.symm
      · exact nomatch h⟩
  · rw [hother j hj]
    exact ⟨Or.inr, fun h => by
      rcases h with ⟨h, _⟩ | h
      · exact absurd h hj
      · exact h⟩

theorem values_perm_cons {a a' : A α} {i : Index} {x : α}
    (hfresh : get i a = none) (hself : get i a' = some x)
    (hother : ∀ j, j ≠ i → get j a' = get j a) :
    (values a').Perm (x :: values a) :=
  (iter_perm_cons hfresh hself hother).map Prod.snd

/-- An insertion adds the one element, wherever the iterator then comes across
it. -/
theorem values_insert (x : α) (a : A α) :
    (values (insert x a).2).Perm (x :: values a) :=
  values_perm_cons (insert_fresh x a) (get_insert_self x a)
    (get_insert_ne x a)

/-- A removal under a name in use takes away the one element. -/
theorem values_remove {i : Index} {x : α} {a : A α} (h : get i a = some x) :
    (values a).Perm (x :: values (remove i a).2) :=
  values_perm_cons (get_remove_self i a) h fun j hj =>
    (get_remove_ne i j a hj).symm

/-- One element is exchanged for another. -/
theorem values_set {i : Index} {x : α} (y : α) {a : A α}
    (h : get i a = some x) :
    (values (set i y a)).Perm (y :: values (remove i a).2) :=
  values_perm_cons (get_remove_self i a) (get_set_self i x y a h)
    fun j hj => by rw [get_set_ne i j y a hj, get_remove_ne i j a hj]

/-- Removing what is not there. -/
theorem values_remove_none {i : Index} {a : A α} (h : get i a = none) :
    (values (remove i a).2).Perm (values a) := by
  apply List.Perm.map
  rw [List.perm_ext_iff_of_nodup (List.Nodup.of_map _ (nodup_iter _))
    (List.Nodup.of_map _ (nodup_iter a))]
  rintro ⟨j, y⟩
  rw [mem_iter, mem_iter]
  by_cases hj : j = i
  · rw [hj, get_remove_self, h]
  · rw [get_remove_ne i j a hj]

theorem values_new : values (new : A α) = [] := by
  rw [List.eq_nil_iff_forall_not_mem]
  intro x hx
  obtain ⟨i, hi⟩ := mem_values.1 hx
  rw [get_new] at hi
  exact nomatch hi

theorem not_mem_values_new (x : α) : x ∉ values (new : A α) := by
  rw [values_new]
  exact List.not_mem_nil

/-- Collecting keeps the elements and their order. -/
@[simp] theorem values_collect (l : List α) :
    values (collect l : A α) = l := by
  unfold values
  rw [iter_collect, List.map_map]
  exact List.zipIdx_map_fst 0 l

/-- The names of a collected arena are the positions in the list, in
generation zero; no other name is in use. -/
theorem get_collect (i : Index) (l : List α) :
    get i (collect l : A α)
      = if i.generation = 0 then l[i.index]? else none := by
  have hmem : ∀ x, get i (collect l : A α) = some x ↔
      i.generation = 0 ∧ l[i.index]? = some x := by
    intro x
    rw [← mem_iter, iter_collect, List.mem_map]
    constructor
    · rintro ⟨p, hp, heq⟩
      rw [List.mem_zipIdx_iff_getElem?] at hp
      cases heq
      exact ⟨rfl, hp⟩
    · rintro ⟨hg, hx⟩
      refine ⟨(x, i.index), List.mk_mem_zipIdx_iff_getElem?.2 hx, ?_⟩
      rw [← hg]
  apply Option.ext
  intro x
  rw [hmem]
  by_cases hg : i.generation = 0
  · simp [hg]
  · simp [hg]

end Arena

/-! ## An arena -/

/-- Slots hold the generation they were filled in.  The free ones lie on a
stack, the one that was freed last on top. -/
structure GenArena (α : Type) where
  items : List (Option (ℕ × α))
  free : List ℕ
  generation : ℕ
  nodup : free.Nodup
  empty : ∀ i ∈ free, items[i]? = some none

namespace GenArena

variable {α : Type}

def new : GenArena α where
  items := []
  free := []
  generation := 0
  nodup := List.nodup_nil
  empty := nofun

def get (i : Index) (a : GenArena α) : Option α :=
  match a.items[i.index]? with
  | some (some (generation, x)) =>
      if generation = i.generation then some x else none
  | _ => none

/-- Add a slot behind the others, for which no slot has to be free. -/
def push (x : α) (a : GenArena α) : GenArena α where
  items := a.items ++ [some (a.generation, x)]
  free := a.free
  generation := a.generation
  nodup := a.nodup
  empty := fun i hi => by
    have hlt := (List.getElem?_eq_some_iff.1 (a.empty i hi)).1
    rw [List.getElem?_append_left hlt]
    exact a.empty i hi

/-- Fill the slot on top of the stack. -/
def reuse (x : α) (a : GenArena α) (i : ℕ) (rest : List ℕ)
    (h : a.free = i :: rest) : GenArena α where
  items := a.items.set i (some (a.generation, x))
  free := rest
  generation := a.generation
  nodup := (List.nodup_cons.1 (h ▸ a.nodup)).2
  empty := fun j hj => by
    have hnodup := a.nodup
    rw [h, List.nodup_cons] at hnodup
    have hne : i ≠ j := fun heq => hnodup.1 (heq ▸ hj)
    rw [List.getElem?_set_ne hne]
    exact a.empty j (by rw [h]; exact List.mem_cons_of_mem i hj)

/-- The slot on top of the stack is filled, or a new one where none is free.
-/
def insert (x : α) (a : GenArena α) : Index × GenArena α :=
  match h : a.free with
  | [] => (⟨a.items.length, a.generation⟩, a.push x)
  | i :: rest => (⟨i, a.generation⟩, a.reuse x i rest h)

/-- A filled slot is not on the stack. -/
theorem not_free (a : GenArena α) {i : ℕ} {e : ℕ × α}
    (h : a.items[i]? = some (some e)) : i ∉ a.free := by
  intro hmem
  rw [a.empty i hmem] at h
  exact nomatch h

/-- Another element in a filled slot, which keeps its generation. -/
def put (a : GenArena α) (i : ℕ) (e e' : ℕ × α)
    (h : a.items[i]? = some (some e)) : GenArena α where
  items := a.items.set i (some e')
  free := a.free
  generation := a.generation
  nodup := a.nodup
  empty := fun j hj => by
    have hne : i ≠ j := fun heq => a.not_free h (heq ▸ hj)
    rw [List.getElem?_set_ne hne]
    exact a.empty j hj

def set (i : Index) (y : α) (a : GenArena α) : GenArena α :=
  match h : a.items[i.index]? with
  | some (some e) =>
      if e.1 = i.generation then a.put i.index e (e.1, y) h else a
  | _ => a

/-- The generation counts the removals. -/
def clear (a : GenArena α) (i : ℕ) (e : ℕ × α)
    (h : a.items[i]? = some (some e)) : GenArena α where
  items := a.items.set i none
  free := i :: a.free
  generation := a.generation + 1
  nodup := List.nodup_cons.2 ⟨a.not_free h, a.nodup⟩
  empty := fun j hj => by
    by_cases hij : i = j
    · subst hij
      exact List.getElem?_set_self (List.getElem?_eq_some_iff.1 h).1
    · rw [List.getElem?_set_ne hij]
      rcases List.mem_cons.1 hj with heq | hmem
      · exact absurd heq.symm hij
      · exact a.empty j hmem

/-- A slot that is filled in another generation is left alone. -/
def remove (i : Index) (a : GenArena α) : Option α × GenArena α :=
  match h : a.items[i.index]? with
  | some (some e) =>
      if e.1 = i.generation then (some e.2, a.clear i.index e h)
      else (none, a)
  | _ => (none, a)

/-- The filled slots from the first to the last, each with the generation that
it was filled in. -/
def iter (a : GenArena α) : List (Index × α) :=
  a.items.zipIdx.filterMap fun (entry, i) =>
    entry.map fun (generation, x) => (⟨i, generation⟩, x)

/-- All slots filled in generation zero, and none free. -/
def collect (l : List α) : GenArena α where
  items := l.map fun x => some (0, x)
  free := []
  generation := 0
  nodup := List.nodup_nil
  empty := nofun

instance : Arena GenArena where
  new := new
  insert := insert
  get := get
  set := set
  remove := remove
  iter := iter
  collect := collect

/-! ### The laws -/

/-- A name leads to an element just if its slot was filled in its generation.
-/
theorem get_eq_some {i : Index} {a : GenArena α} {x : α} :
    a.get i = some x ↔ a.items[i.index]? = some (some (i.generation, x)) := by
  unfold get
  rcases a.items[i.index]? with _ | _ | ⟨g, y⟩
  · simp
  · simp
  · by_cases hg : g = i.generation
    · simp [hg]
    · simp [hg]

/-- Elements are the same where the slots are. -/
theorem get_congr {i : Index} {a a' : GenArena α}
    (h : a'.items[i.index]? = a.items[i.index]?) : a'.get i = a.get i := by
  unfold get
  rw [h]

/-- A slot that is filled in one generation has no other name. -/
theorem get_none_of_generation {i : Index} {a : GenArena α} {e : ℕ × α}
    (h : a.items[i.index]? = some (some e)) (hne : e.1 ≠ i.generation) :
    a.get i = none := by
  simp [get, h, hne]

/-- A slot that is not filled has no name. -/
theorem get_none_of_vacant {i : Index} {a : GenArena α}
    (h : ∀ e, a.items[i.index]? = some (some e) → False) :
    a.get i = none := by
  cases hget : a.get i with
  | none => rfl
  | some x => exact absurd (get_eq_some.1 hget) (h _)

/-- An insertion either adds a slot or fills the one on top of the stack; it
returns the name of that slot in the current generation. -/
theorem insert_cases (x : α) (a : GenArena α) :
    (a.insert x = (⟨a.items.length, a.generation⟩, a.push x)) ∨
    ∃ (i : ℕ) (rest : List ℕ) (h : a.free = i :: rest),
      a.insert x = (⟨i, a.generation⟩, a.reuse x i rest h) := by
  unfold insert
  split
  · exact Or.inl rfl
  · exact Or.inr ⟨_, _, ‹_›, rfl⟩

/-- An assignment either changes one filled slot, or nothing because the name
is not in use. -/
theorem set_cases (i : Index) (y : α) (a : GenArena α) :
    (∃ (e : ℕ × α) (h : a.items[i.index]? = some (some e)),
      e.1 = i.generation ∧ a.set i y = a.put i.index e (e.1, y) h) ∨
    (a.get i = none ∧ a.set i y = a) := by
  unfold set
  split
  case h_1 e h =>
    by_cases hg : e.1 = i.generation
    · exact Or.inl ⟨e, h, hg, if_pos hg⟩
    · exact Or.inr ⟨get_none_of_generation h hg, if_neg hg⟩
  case h_2 h => exact Or.inr ⟨get_none_of_vacant h, rfl⟩

/-- A removal either clears one filled slot, or does nothing because the name
is not in use. -/
theorem remove_cases (i : Index) (a : GenArena α) :
    (∃ (e : ℕ × α) (h : a.items[i.index]? = some (some e)),
      e.1 = i.generation ∧ a.remove i = (some e.2, a.clear i.index e h)) ∨
    (a.get i = none ∧ a.remove i = (none, a)) := by
  unfold remove
  split
  case h_1 e h =>
    by_cases hg : e.1 = i.generation
    · exact Or.inl ⟨e, h, hg, if_pos hg⟩
    · exact Or.inr ⟨get_none_of_generation h hg, if_neg hg⟩
  case h_2 h => exact Or.inr ⟨get_none_of_vacant h, rfl⟩

/-- The name that an insertion returns was not in use, leads to the element,
and no other name is touched. -/
theorem insert_spec (x : α) (a : GenArena α) :
    a.get (a.insert x).1 = none ∧ (a.insert x).2.get (a.insert x).1 = some x ∧
      ∀ i, i ≠ (a.insert x).1 → (a.insert x).2.get i = a.get i := by
  rcases insert_cases x a with h | ⟨i, rest, hfree, h⟩
  · rw [h]
    refine ⟨?_, ?_, ?_⟩
    · simp [get]
    · rw [get_eq_some]
      exact List.getElem?_concat_length
    · intro i hi
      unfold get push
      dsimp only
      rcases Nat.lt_trichotomy i.index a.items.length with hlt | heq | hgt
      · rw [List.getElem?_append_left hlt]
      · rw [heq, List.getElem?_concat_length]
        have hne : ¬ a.generation = i.generation := by
          intro hg
          apply hi
          cases i
          simp_all
        simp [hne]
      · rw [List.getElem?_eq_none (by simp; omega),
          List.getElem?_eq_none (by omega)]
  · rw [h]
    have hnone := a.empty i (by rw [hfree]; exact List.mem_cons_self)
    have hlt := (List.getElem?_eq_some_iff.1 hnone).1
    refine ⟨?_, ?_, ?_⟩
    · simp [get, hnone]
    · rw [get_eq_some]
      exact List.getElem?_set_self hlt
    · intro j hj
      by_cases hij : i = j.index
      · have hne : ¬ a.generation = j.generation := by
          intro hg
          apply hj
          cases j
          simp_all
        have hself : (a.reuse x i rest hfree).items[j.index]?
            = some (some (a.generation, x)) := by
          rw [← hij]
          exact List.getElem?_set_self hlt
        rw [get_none_of_generation hself hne]
        simp [get, ← hij, hnone]
      · exact get_congr (List.getElem?_set_ne hij)

/-- Two names of one slot differ in their generation. -/
theorem generation_ne {i j : Index} (hj : j ≠ i) (hindex : j.index = i.index) :
    i.generation ≠ j.generation := by
  intro heq
  apply hj
  cases i
  cases j
  simp_all

/-- An assignment through a name in use is seen under this name only. -/
theorem set_spec (i : Index) (y : α) (a : GenArena α) :
    (∀ x, a.get i = some x → (a.set i y).get i = some y) ∧
      ∀ j, j ≠ i → (a.set i y).get j = a.get j := by
  rcases set_cases i y a with ⟨e, h, hg, heq⟩ | ⟨hnone, heq⟩
  · have hself : (a.put i.index e (e.1, y) h).items[i.index]?
        = some (some (e.1, y)) :=
      List.getElem?_set_self (List.getElem?_eq_some_iff.1 h).1
    rw [heq]
    refine ⟨?_, ?_⟩
    · intro _ _
      rw [get_eq_some, ← hg]
      exact hself
    · intro j hj
      by_cases hindex : j.index = i.index
      · have hne := generation_ne hj hindex
        rw [← hg] at hne
        have hput : (a.put i.index e (e.1, y) h).get j = none := by
          apply get_none_of_generation (e := (e.1, y)) _ hne
          rw [hindex]
          exact hself
        rw [hput, get_none_of_generation (by rw [hindex]; exact h) hne]
      · exact get_congr (List.getElem?_set_ne (Ne.symm hindex))
  · rw [heq]
    exact ⟨fun x hx => (nomatch hnone.symm.trans hx), fun _ _ => rfl⟩

/-- A removal returns what the name led to, and ends the use of this name
only. -/
theorem remove_spec (i : Index) (a : GenArena α) :
    (a.remove i).1 = a.get i ∧ (a.remove i).2.get i = none ∧
      ∀ j, j ≠ i → (a.remove i).2.get j = a.get j := by
  rcases remove_cases i a with ⟨e, h, hg, heq⟩ | ⟨hnone, heq⟩
  · have hself : (a.clear i.index e h).items[i.index]? = some none :=
      List.getElem?_set_self (List.getElem?_eq_some_iff.1 h).1
    rw [heq]
    refine ⟨?_, ?_, ?_⟩
    · symm
      rw [get_eq_some, ← hg]
      exact h
    · unfold get
      rw [hself]
    · intro j hj
      by_cases hindex : j.index = i.index
      · have hne := generation_ne hj hindex
        rw [← hg] at hne
        have hold : a.get j = none := by
          apply get_none_of_generation (e := e) _ hne
          rw [hindex]
          exact h
        rw [hold]
        unfold get
        rw [hindex, hself]
      · exact get_congr (List.getElem?_set_ne (Ne.symm hindex))
  · rw [heq]
    exact ⟨hnone.symm, hnone, fun _ _ => rfl⟩

theorem mem_iter (a : GenArena α) (i : Index) (x : α) :
    (i, x) ∈ a.iter ↔ a.get i = some x := by
  unfold iter
  rw [List.mem_filterMap, get_eq_some]
  constructor
  · rintro ⟨⟨entry, k⟩, hmem, heq⟩
    rw [List.mem_zipIdx_iff_getElem?] at hmem
    rcases entry with _ | ⟨g, y⟩
    · exact nomatch heq
    · cases heq
      exact hmem
  · intro h
    exact ⟨(some (i.generation, x), i.index),
      List.mk_mem_zipIdx_iff_getElem?.2 h, rfl⟩

/-- The filled slots, in order. -/
theorem filled_sublist {β : Type} (items : List (Option β)) (first : ℕ) :
    ((items.zipIdx first).filterMap fun p => p.1.map fun _ => p.2).Sublist
      (List.range' first items.length) := by
  induction items generalizing first with
  | nil => exact List.Sublist.refl _
  | cons entry items ih =>
      rw [List.zipIdx_cons, List.length_cons, List.range'_succ]
      cases entry with
      | none => exact (ih (first + 1)).cons _
      | some x => exact (ih (first + 1)).cons_cons _

/-- The iterator passes each slot once, so it yields no name twice. -/
theorem nodup_iter (a : GenArena α) : (a.iter.map Prod.fst).Nodup := by
  apply List.Nodup.of_map Index.index
  have hindices : (a.iter.map Prod.fst).map Index.index
      = a.items.zipIdx.filterMap fun p => p.1.map fun _ => p.2 := by
    unfold iter
    rw [List.map_map, List.map_filterMap]
    congr 1
    funext p
    rcases p with ⟨_ | e, i⟩ <;> rfl
  rw [hindices]
  exact (filled_sublist a.items 0).nodup List.nodup_range'

theorem iter_collect (l : List α) :
    (collect l).iter = l.zipIdx.map fun p => (⟨p.2, 0⟩, p.1) := by
  unfold iter collect
  dsimp only
  rw [List.zipIdx_map, List.filterMap_map]
  exact congrFun List.filterMap_eq_map l.zipIdx

instance : LawfulArena GenArena where
  get_new := fun _ => rfl
  insert_fresh := fun x a => (insert_spec x a).1
  get_insert_self := fun x a => (insert_spec x a).2.1
  get_insert_ne := fun x a => (insert_spec x a).2.2
  get_set_self := fun i x y a => (set_spec i y a).1 x
  get_set_ne := fun i j y a => (set_spec i y a).2 j
  remove_fst := fun i a => (remove_spec i a).1
  get_remove_self := fun i a => (remove_spec i a).2.1
  get_remove_ne := fun i j a => (remove_spec i a).2.2 j
  nodup_iter := nodup_iter
  mem_iter := mem_iter
  iter_collect := iter_collect

instance : SteadyArena GenArena where
  remove_none := by
    intro α i a hget
    rcases remove_cases i a with ⟨e, h, hg, -⟩ | ⟨-, heq⟩
    · have hsome : a.get i = some e.2 := by
        rw [get_eq_some, h, ← hg]
      exact nomatch hsome.symm.trans hget
    · exact heq

end GenArena

end RedPlanet.Verified
