import Mathlib.Data.List.Basic

/-!
# Ledgers of a queue

A queue that may lose entries, together with the record of what became of them.
Entries come in at the end of `waiting` and are settled from its front, either
delivered or discarded.  Nothing else happens to an entry, so all that entered
is at every moment what was settled, followed by what waits (`entered`), and
without what was discarded it is what was delivered, followed by what waits
(`kept`).

`Records` ties a ledger to a queue whose contents are all that can be seen of
it.  It is kept by what may happen to the queue (`Records.enter`,
`Records.deliver`, `Records.discard`, `Records.flush`), so that whoever feeds
and drains a queue owes one of these for each step.  `append_eq_kept` is then
what the ledger is for: nothing is duplicated, reordered or lost unseen.
-/

namespace RedPlanet.Verified

variable {α : Type}

/-- What became of an entry. -/
inductive Fate where
  | delivered
  | discarded
deriving DecidableEq, Repr

/-- What waits, oldest first, and what became of the entries before. -/
structure Ledger (α : Type) where
  settled : List (α × Fate)
  waiting : List α
deriving Repr

namespace Ledger

def empty : Ledger α where
  settled := []
  waiting := []

/-- The entries that came in, oldest first. -/
def entered (ledger : Ledger α) : List α :=
  ledger.settled.map Prod.fst ++ ledger.waiting

/-- The entries that were delivered, oldest first. -/
def delivered (ledger : Ledger α) : List α :=
  (ledger.settled.filter fun entry => entry.2 = .delivered).map Prod.fst

/-- What came in, without what was discarded. -/
def kept (ledger : Ledger α) : List α := ledger.delivered ++ ledger.waiting

/-- New entries at the end. -/
def enter (entries : List α) (ledger : Ledger α) : Ledger α :=
  { ledger with waiting := ledger.waiting ++ entries }

/-- The oldest entries that wait, so many of them, meet their fate. -/
def settle (n : ℕ) (fate : Fate) (ledger : Ledger α) : Ledger α where
  settled := ledger.settled ++ (ledger.waiting.take n).map (·, fate)
  waiting := ledger.waiting.drop n

/-- All entries that wait are discarded. -/
def flush (ledger : Ledger α) : Ledger α :=
  ledger.settle ledger.waiting.length .discarded

variable (entries : List α) (n : ℕ) (fate : Fate) (ledger : Ledger α)

@[simp] theorem waiting_enter :
    (ledger.enter entries).waiting = ledger.waiting ++ entries := rfl

/-- What came in before is still in its place. -/
@[simp] theorem entered_enter :
    (ledger.enter entries).entered = ledger.entered ++ entries :=
  (List.append_assoc ..).symm

@[simp] theorem delivered_enter :
    (ledger.enter entries).delivered = ledger.delivered := rfl

@[simp] theorem waiting_settle :
    (ledger.settle n fate).waiting = ledger.waiting.drop n := rfl

/-- Settling neither adds nor reorders entries. -/
@[simp] theorem entered_settle :
    (ledger.settle n fate).entered = ledger.entered := by
  unfold entered settle
  rw [List.map_append, List.map_map, List.append_assoc]
  congr 1
  show (ledger.waiting.take n).map id ++ ledger.waiting.drop n = _
  rw [List.map_id, List.take_append_drop]

/-- What is delivered is the front of what waits. -/
@[simp] theorem delivered_settle_delivered :
    (ledger.settle n .delivered).delivered =
      ledger.delivered ++ ledger.waiting.take n := by
  have hnew : ((ledger.waiting.take n).map fun entry =>
      (entry, Fate.delivered)).filter (fun entry => entry.2 = .delivered) =
        (ledger.waiting.take n).map fun entry => (entry, Fate.delivered) := by
    apply List.filter_eq_self.2
    intro entry hentry
    obtain ⟨_, _, hsame⟩ := List.mem_map.1 hentry
    rw [← hsame]
    rfl
  unfold delivered settle
  rw [List.filter_append, List.map_append, hnew, List.map_map]
  congr 1
  exact List.map_id _

/-- What is discarded is not delivered. -/
@[simp] theorem delivered_settle_discarded :
    (ledger.settle n .discarded).delivered = ledger.delivered := by
  have hnew : ((ledger.waiting.take n).map fun entry =>
      (entry, Fate.discarded)).filter (fun entry => entry.2 = .delivered) =
        [] := by
    apply List.filter_eq_nil_iff.2
    intro entry hentry
    obtain ⟨_, _, hsame⟩ := List.mem_map.1 hentry
    rw [← hsame]
    simp
  unfold delivered settle
  rw [List.filter_append, List.map_append, hnew, List.map_nil,
    List.append_nil]

@[simp] theorem waiting_flush : ledger.flush.waiting = [] :=
  List.drop_length ..

@[simp] theorem entered_flush : ledger.flush.entered = ledger.entered :=
  entered_settle ..

@[simp] theorem delivered_flush : ledger.flush.delivered = ledger.delivered :=
  delivered_settle_discarded ..

/-! ## Queues with a ledger -/

/-- The ledger is that of a queue in which all of `entered` came in, of which
`delivered` went out and `contents` is still there. -/
structure Records (ledger : Ledger α) (entered delivered contents : List α) :
    Prop where
  entered : ledger.entered = entered
  delivered : ledger.delivered = delivered
  waiting : ledger.waiting = contents

namespace Records

variable {ledger : Ledger α} {came went contents : List α}

theorem empty : Records (Ledger.empty : Ledger α) [] [] [] := ⟨rfl, rfl, rfl⟩

/-- Entries come in behind the contents. -/
theorem enter (h : Records ledger came went contents) (entries : List α) :
    Records (ledger.enter entries) (came ++ entries) went
      (contents ++ entries) := by
  refine ⟨?_, ?_, ?_⟩
  · rw [entered_enter, h.entered]
  · rw [delivered_enter, h.delivered]
  · rw [waiting_enter, h.waiting]

/-- The front of the contents goes out. -/
theorem deliver (h : Records ledger came went contents) (n : ℕ) :
    Records (ledger.settle n .delivered) came (went ++ contents.take n)
      (contents.drop n) := by
  refine ⟨?_, ?_, ?_⟩
  · rw [entered_settle, h.entered]
  · rw [delivered_settle_delivered, h.delivered, h.waiting]
  · rw [waiting_settle, h.waiting]

/-- The front of the contents is dropped, and nothing goes out. -/
theorem discard (h : Records ledger came went contents) (n : ℕ) :
    Records (ledger.settle n .discarded) came went (contents.drop n) := by
  refine ⟨?_, ?_, ?_⟩
  · rw [entered_settle, h.entered]
  · rw [delivered_settle_discarded, h.delivered]
  · rw [waiting_settle, h.waiting]

theorem flush (h : Records ledger came went contents) :
    Records ledger.flush came went [] := by
  refine ⟨?_, ?_, waiting_flush ledger⟩
  · rw [entered_flush, h.entered]
  · rw [delivered_flush, h.delivered]

/-- What went out and what is still there is what was kept. -/
theorem append_eq_kept (h : Records ledger came went contents) :
    went ++ contents = ledger.kept := by
  unfold kept
  rw [h.delivered, h.waiting]

end Records

end Ledger

end RedPlanet.Verified
