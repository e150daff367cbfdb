import RedPlanet.SpaceTime.Renumbering

/-!
# What ids were issued for

The history of a run notes what every insertion returned its id for, and
whether HEAD still has the arena that issued it: `make_snapshot` and `checkout`
leave HEAD with another one.  `label` is anything about an object that no
update changes; it says which object it is.

`Names` says that the entries of an arena were issued under the ids that they
have, and `Tracks` adds what HEAD's own arena has issued.  Whether the next id
is new is a matter of HEAD's arena before the insertion (`Apart`,
`Tracks.apart_iff`): ids of generation zero are issued one after the other, so
it is a matter of how many slots the arena has against the ids that were
issued.
-/

set_option linter.dupNamespace false

namespace RedPlanet.SpaceTime

open RedPlanet.Core RedPlanet.Verified Limited

/-- An id, and what was inserted under it. -/
structure Issue {ι : Type} (Ty : ι → Type) where
  id : Index
  typeId : ι
  object : Ty typeId

/-- The ids of one kind: from the arena that HEAD has, and from those that it
had before. -/
structure Log {ι : Type} (Ty : ι → Type) where
  here : List (Issue Ty)
  elsewhere : List (Issue Ty)

structure History {ι : Type} (Ty : ι → Type) where
  objects : Log Ty
  arrays : Log Ty

variable {ι : Type} {A : Type → Type} [Arena A] {Ty : ι → Type}

namespace Log

def all (log : Log Ty) : List (Issue Ty) := log.here ++ log.elsewhere

def ids (log : Log Ty) : List Index := log.all.map Issue.id

def add (issue : Issue Ty) (log : Log Ty) : Log Ty :=
  { log with here := issue :: log.here }

/-- HEAD gets another arena. -/
def leave (log : Log Ty) : Log Ty where
  here := []
  elsewhere := log.all

end Log

namespace History

def empty : History Ty where
  objects := ⟨[], []⟩
  arrays := ⟨[], []⟩

def leave (history : History Ty) : History Ty where
  objects := history.objects.leave
  arrays := history.arrays.leave

/-- What is noted of an operation and its reply. -/
def record (op : Operation Ty) (reply : Reply Ty) (history : History Ty) :
    History Ty :=
  match op, reply with
  | .insert τ object, .id index =>
      { history with objects := history.objects.add ⟨index, τ, object⟩ }
  | .insertArray τ object _, .id index =>
      { history with arrays := history.arrays.add ⟨index, τ, object⟩ }
  | .makeSnapshot, .id _ | .checkout _, .done _ => history.leave
  | _, _ => history

end History

/-- The ids of an operation were issued for its type. -/
def Operation.Issued (op : Operation Ty) (history : History Ty) : Prop :=
  match op with
  | .remove τ id | .pop τ id | .getMut τ id _ =>
      ∃ issue ∈ history.objects.all, issue.id = id ∧ issue.typeId = τ
  | .removeArray τ id | .getArrayMut τ id _ =>
      ∃ issue ∈ history.arrays.all, issue.id = id ∧ issue.typeId = τ
  | .insert _ _ | .insertArray _ _ _ | .makeSnapshot | .dropSnapshot _
  | .checkout _ => True

/-- An update leaves the label of the object as it is. -/
def Operation.Labelled {L : Type} (label : (τ : ι) → Ty τ → L)
    (op : Operation Ty) : Prop :=
  match op with
  | .getMut τ _ f => ∀ x, label τ (f x) = label τ x
  | _ => True

open SlotArena in

/-- An arena of HEAD is apart from those that HEAD had before.  As long as
nothing was removed from it, it has more slots than any of them has named
without a removal; after that, none of them has, after as many removals, named
the slot that was emptied last, or where none is empty the one behind the
last. -/
structure Apart [SlotArena A] {β : Type} (log : Log Ty) (a : A β) : Prop where
  first : generation a = 0 → ∀ issue ∈ log.elsewhere,
    issue.id.generation = 0 → issue.id.index < SlotArena.slots a
  emptied : generation a ≠ 0 → ∀ k ∈ vacant a,
    ∀ issue ∈ log.elsewhere, issue.id.generation = generation a →
      issue.id.index ≠ k
  full : generation a ≠ 0 → vacant a = none →
    ∀ issue ∈ log.elsewhere, issue.id.generation = generation a →
      issue.id.index ≠ SlotArena.slots a

open SlotArena in
instance [SlotArena A] {β : Type} (log : Log Ty) (a : A β) :
    Decidable (Apart log a) :=
  decidable_of_iff
    ((generation a = 0 → ∀ issue ∈ log.elsewhere,
        issue.id.generation = 0 → issue.id.index < SlotArena.slots a) ∧
      (generation a ≠ 0 → ∀ k ∈ vacant a, ∀ issue ∈ log.elsewhere,
        issue.id.generation = generation a → issue.id.index ≠ k) ∧
      (generation a ≠ 0 → vacant a = none → ∀ issue ∈ log.elsewhere,
        issue.id.generation = generation a →
          issue.id.index ≠ SlotArena.slots a))
    ⟨fun h => ⟨h.1, h.2.1, h.2.2⟩, fun h => ⟨h.first, h.emptied, h.full⟩⟩

/-- An arena of HEAD that gets an entry is apart from those before it, and a
HEAD that is cloned is numbered. -/
def Operation.Separate [SlotArena A] (op : Operation Ty)
    (space : SpaceTime A Ty) (history : History Ty) : Prop :=
  match op with
  | .insert _ _ => ∀ snapshot, space.headSnapshot = some snapshot →
      Apart history.objects snapshot.tablePtrs
  | .insertArray _ _ _ => ∀ snapshot, space.headSnapshot = some snapshot →
      Apart history.arrays snapshot.instances
  | .makeSnapshot => space.Numbered
  | _ => True

/-! ## Arenas and logs -/

section Arenas

variable {β : Type} {R R' : β → Issue Ty → Prop} {log log' : Log Ty} {a : A β}

/-- Every entry was issued under the id that it has. -/
def Names (R : β → Issue Ty → Prop) (log : Log Ty) (a : A β) : Prop :=
  ∀ (i : Index) (e : β), Arena.get i a = some e →
    ∃ issue ∈ log.all, issue.id = i ∧ R e issue

/-- The arena that HEAD has. -/
structure Tracks (R : β → Issue Ty → Prop) (log : Log Ty) (a : A β) :
    Prop where
  names : Names R log a
  built : Arena.Built a
  used : ∀ issue ∈ log.here, Arena.Used issue.id a

theorem Log.mem_all_add {issue : Issue Ty} {other : Issue Ty} :
    other ∈ (log.add issue).all ↔ other = issue ∨ other ∈ log.all := by
  simp [Log.add, Log.all]

@[simp] theorem Log.all_leave : log.leave.all = log.all := rfl

theorem Log.eq_of_id (h : log.ids.Nodup) {issue other : Issue Ty}
    (hissue : issue ∈ log.all) (hother : other ∈ log.all)
    (hid : issue.id = other.id) : issue = other :=
  List.inj_on_of_nodup_map h hissue hother hid

theorem Names.mono (h : Names R log a)
    (hsub : ∀ issue ∈ log.all, issue ∈ log'.all) : Names R log' a := by
  intro i e he
  obtain ⟨issue, hmem, hid, hr⟩ := h i e he
  exact ⟨issue, hsub issue hmem, hid, hr⟩

theorem Names.imp (h : Names R log a)
    (himp : ∀ i e, Arena.get i a = some e → ∀ issue, R e issue → R' e issue) :
    Names R' log a := by
  intro i e he
  obtain ⟨issue, hmem, hid, hr⟩ := h i e he
  exact ⟨issue, hmem, hid, himp i e he issue hr⟩

theorem Names.congr (h : Names R log a) {a' : A β}
    (hget : ∀ i, Arena.get i a' = Arena.get i a) : Names R log a' := by
  intro i e he
  rw [hget] at he
  exact h i e he

variable [LawfulArena A]

theorem Names.insert (h : Names R log a) {e : β} {issue : Issue Ty}
    (hid : issue.id = (Arena.insert e a).1) (hr : R e issue) :
    Names R (log.add issue) (Arena.insert e a).2 := by
  intro i e' he'
  by_cases hi : i = (Arena.insert e a).1
  · rw [hi, LawfulArena.get_insert_self] at he'
    cases he'
    exact ⟨issue, Log.mem_all_add.2 (Or.inl rfl), hid.trans hi.symm, hr⟩
  · rw [LawfulArena.get_insert_ne _ _ _ hi] at he'
    obtain ⟨other, hmem, hother⟩ := h i e' he'
    exact ⟨other, Log.mem_all_add.2 (Or.inr hmem), hother⟩

theorem Names.remove (h : Names R log a) (i : Index) :
    Names R log (Arena.remove i a).2 := by
  intro j e he
  by_cases hj : j = i
  · rw [hj, LawfulArena.get_remove_self] at he
    cases he
  · rw [LawfulArena.get_remove_ne _ _ _ hj] at he
    exact h j e he

/-- The entry is exchanged, the others are what they would be without it. -/
theorem Names.set {i : Index} (h : Names R log (Arena.remove i a).2) {e y : β}
    (hget : Arena.get i a = some e) {issue : Issue Ty}
    (hissue : issue ∈ log.all) (hid : issue.id = i) (hr : R y issue) :
    Names R log (Arena.set i y a) := by
  intro j e' he'
  by_cases hj : j = i
  · rw [hj, LawfulArena.get_set_self i e y a hget] at he'
    cases he'
    exact ⟨issue, hissue, hid.trans hj.symm, hr⟩
  · rw [LawfulArena.get_set_ne _ _ _ _ hj,
      ← LawfulArena.get_remove_ne _ _ _ hj] at he'
    exact h j e' he'

omit [LawfulArena A] in
theorem Tracks.remove (h : Tracks R log a) {i : Index}
    (hnames : Names R' log (Arena.remove i a).2) :
    Tracks R' log (Arena.remove i a).2 where
  names := hnames
  built := h.built.remove i
  used := fun issue hissue => (h.used issue hissue).remove i

omit [LawfulArena A] in
theorem Tracks.set (h : Tracks R log a) {i : Index} {y : β}
    (hnames : Names R' log (Arena.set i y a)) :
    Tracks R' log (Arena.set i y a) where
  names := hnames
  built := h.built.set i y
  used := fun issue hissue => (h.used issue hissue).set i y

theorem Tracks.insert (h : Tracks R log a) {e : β} {issue : Issue Ty}
    (hid : issue.id = (Arena.insert e a).1)
    (hnames : Names R' (log.add issue) (Arena.insert e a).2) :
    Tracks R' (log.add issue) (Arena.insert e a).2 where
  names := hnames
  built := h.built.insert e
  used := fun other hother => by
    rcases List.mem_cons.1 hother with heq | hmem
    · rw [heq, hid]
      exact Arena.used_insert h.built e
    · exact (h.used other hmem).insert e

omit [LawfulArena A] in
/-- HEAD is about to be cloned from this arena. -/
theorem Tracks.leave (hnames : Names R log a) (hbuilt : Arena.Built a) :
    Tracks R log.leave a where
  names := hnames
  built := hbuilt
  used := fun _ hmem => absurd hmem List.not_mem_nil

end Arenas

/-! ## Ids that were not issued

The ids of generation zero are issued one after the other, whatever arena of
HEAD issues them: an arena that is collected has an entry for each slot, and
each entry was issued under its id.  So an arena from which nothing was removed
issues a new id just if it has a slot for every id there is. -/

section Fresh

variable {β : Type} {R : β → Issue Ty → Prop} {log : Log Ty} {a : A β}

/-- No id was issued twice, and none of generation zero before those below
it. -/
def Log.Sound (log : Log Ty) : Prop :=
  log.ids.Nodup ∧ ∀ issue ∈ log.all, issue.id.generation = 0 →
    ∀ k < issue.id.index, ⟨k, 0⟩ ∈ log.ids

theorem Log.sound_empty : (⟨[], []⟩ : Log Ty).Sound :=
  ⟨List.nodup_nil, fun _ hmem => absurd hmem List.not_mem_nil⟩

open SlotArena LawfulSlotArena

variable [SlotArena A] [LawfulSlotArena A]

/-- What is in the slots of an arena was issued under its name. -/
theorem Names.mem_ids (h : Names R log a) (hbuilt : Arena.Built a)
    (hgeneration : generation a = 0) {k : ℕ} (hk : k < SlotArena.slots a) :
    (⟨k, 0⟩ : Index) ∈ log.ids := by
  have hget := (Arena.filled_of_built hbuilt hgeneration).2 k hk
  obtain ⟨e, he⟩ := Option.ne_none_iff_exists'.1 hget
  obtain ⟨issue, hissue, hid, _⟩ := h _ e he
  exact List.mem_map.2 ⟨issue, hissue, hid⟩

/-- An arena that is apart from another does not issue its ids. -/
theorem Apart.insert_ne (h : Apart log a) (hbuilt : Arena.Built a) (e : β) :
    ∀ issue ∈ log.elsewhere, (Arena.insert e a).1 ≠ issue.id := by
  intro issue hissue heq
  by_cases hgeneration : generation a = 0
  · have hname := (Arena.filled_of_built hbuilt).insert_fst hgeneration e
    rw [hname] at heq
    have hlt := h.first hgeneration issue hissue (by rw [← heq])
    rw [← heq] at hlt
    exact Nat.lt_irrefl _ hlt
  · rw [insert_fst] at heq
    cases hvacant : vacant a with
    | none =>
        rw [hvacant] at heq
        apply h.full hgeneration hvacant issue hissue
        · rw [← heq]
        · rw [← heq]
          rfl
    | some k =>
        rw [hvacant] at heq
        apply h.emptied hgeneration k hvacant issue hissue
        · rw [← heq]
        · rw [← heq]
          rfl

/-- An arena that is not apart from another issues an id again: where nothing
was removed from it, it has no slot for an id that was issued, and so the first
that it has no slot for was issued too. -/
theorem mem_ids_of_not_apart (hnot : ¬ Apart log a) (hbuilt : Arena.Built a)
    (hsound : log.Sound) (e : β) : (Arena.insert e a).1 ∈ log.ids := by
  have hmem : ∀ issue ∈ log.elsewhere, (Arena.insert e a).1 = issue.id →
      (Arena.insert e a).1 ∈ log.ids := by
    intro issue hissue heq
    rw [heq]
    exact List.mem_map.2 ⟨issue, List.mem_append.2 (Or.inr hissue), rfl⟩
  by_contra hnew
  apply hnot
  refine ⟨?_, ?_, ?_⟩
  · intro hgeneration issue hissue hzero
    have hname := (Arena.filled_of_built hbuilt).insert_fst hgeneration e
    by_contra hle
    apply hnew
    rcases Nat.lt_or_eq_of_le (Nat.le_of_not_lt hle) with hlt | heq
    · rw [hname]
      exact hsound.2 issue (List.mem_append.2 (Or.inr hissue)) hzero _ hlt
    · apply hmem issue hissue
      rw [hname, heq, ← hzero]
  · intro hgeneration k hvacant issue hissue hsame heq
    apply hnew
    apply hmem issue hissue
    rw [insert_fst, hvacant, Option.getD_some, ← heq, ← hsame]
  · intro hgeneration hvacant issue hissue hsame heq
    apply hnew
    apply hmem issue hissue
    rw [insert_fst, hvacant, Option.getD_none, ← heq, ← hsame]

/-- Neither this arena nor another one of HEAD has issued the id. -/
theorem Tracks.insert_not_mem (h : Tracks R log a) (hapart : Apart log a)
    (e : β) : (Arena.insert e a).1 ∉ log.ids := by
  intro hmem
  obtain ⟨other, hother, heq⟩ := List.mem_map.1 hmem
  rcases List.mem_append.1 hother with hhere | helsewhere
  · exact GenerationalArena.insert_ne e (h.used other hhere) heq.symm
  · exact hapart.insert_ne h.built e other helsewhere heq.symm

theorem Tracks.apart_iff (h : Tracks R log a) (hsound : log.Sound) (e : β) :
    Apart log a ↔ (Arena.insert e a).1 ∉ log.ids := by
  constructor
  · exact fun hapart => h.insert_not_mem hapart e
  · intro hnew
    by_contra hnot
    exact hnew (mem_ids_of_not_apart hnot h.built hsound e)

/-- An id that is issued is new, and the ones below it are not. -/
theorem Tracks.sound_add (h : Tracks R log a) (hsound : log.Sound)
    (hapart : Apart log a) {e : β} {issue : Issue Ty}
    (hid : issue.id = (Arena.insert e a).1) : (log.add issue).Sound := by
  have hnew := h.insert_not_mem hapart e
  rw [← hid] at hnew
  refine ⟨List.nodup_cons.2 ⟨hnew, hsound.1⟩, ?_⟩
  intro other hother hzero k hk
  apply List.mem_cons_of_mem
  rcases Log.mem_all_add.1 hother with rfl | hmem
  · rw [hid, insert_fst] at hzero
    have hname := (Arena.filled_of_built h.built).insert_fst hzero e
    rw [hid, hname] at hk
    exact h.names.mem_ids h.built hzero hk
  · exact hsound.2 other hmem hzero k hk

end Fresh

end RedPlanet.SpaceTime
