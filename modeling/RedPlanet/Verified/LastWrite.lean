import Mathlib.Data.List.Infix

/-!
# Cells and the last write to each

A write puts new values into some cells and leaves the others.  After a list
of writes every cell holds what was last written to it.  `keepsLast_iff` says
when a machine that is to carry out such writes shows, at every moment, the
values last written: exactly when each single step lands.

The machine is a step function and a view of its state as cells, the intended
effect of a step a partial function from cells to values; nothing else is asked
of either.  So the result reduces a claim about all sequences of operations to
one about a single operation in the states that a sequence reaches.
-/

namespace RedPlanet.Verified

variable {κ ν σ ω : Type}

/-- The cells after a write. -/
def overwritten (contents : κ → ν) (write : κ → Option ν) (cell : κ) : ν :=
  (write cell).getD (contents cell)

/-- The value last written to a cell, or its first value. -/
def lastWritten (contents : κ → ν) (writes : List (κ → Option ν)) (cell : κ) :
    ν :=
  (writes.reverse.findSome? fun write => write cell).getD (contents cell)

@[simp] theorem lastWritten_nil (contents : κ → ν) :
    lastWritten contents [] = contents := rfl

/-- One more write goes over what was there. -/
@[simp] theorem lastWritten_concat (contents : κ → ν)
    (writes : List (κ → Option ν)) (write : κ → Option ν) :
    lastWritten contents (writes ++ [write]) =
      overwritten (lastWritten contents writes) write := by
  funext cell
  unfold lastWritten overwritten
  rw [List.reverse_append, List.reverse_singleton, List.singleton_append,
    List.findSome?_cons]
  cases write cell <;> rfl

/-! ## Machines that carry out writes -/

/-- The state after a list of steps. -/
def runAll (step : ω → σ → σ) (steps : List ω) (s : σ) : σ :=
  steps.foldl (fun s op => step op s) s

@[simp] theorem runAll_nil (step : ω → σ → σ) (s : σ) :
    runAll step [] s = s := rfl

/-- The last step is taken from where the others lead. -/
@[simp] theorem runAll_concat (step : ω → σ → σ) (steps : List ω) (op : ω)
    (s : σ) : runAll step (steps ++ [op]) s = step op (runAll step steps s) :=
  List.foldl_concat ..

variable (step : ω → σ → σ) (view : σ → κ → ν) (effect : ω → κ → Option ν)

/-- A step changes the cells that can be seen as its write says. -/
def Lands (op : ω) (s : σ) : Prop :=
  view (step op s) = overwritten (view s) (effect op)

/-- After every first part of a list of steps the cells hold what was last
written to them. -/
def KeepsLast (steps : List ω) (s : σ) : Prop :=
  ∀ done, done <+: steps →
    view (runAll step done s) = lastWritten (view s) (done.map effect)

/-- At every moment the cells hold what was last written just if every step of
the list lands in the state that it is taken in. -/
theorem keepsLast_iff (steps : List ω) (s : σ) :
    KeepsLast step view effect steps s ↔
      ∀ done op, done ++ [op] <+: steps →
        Lands step view effect op (runAll step done s) := by
  constructor
  · intro h done op hprefix
    have hbefore := h done ((List.prefix_append ..).trans hprefix)
    have hafter := h (done ++ [op]) hprefix
    rw [runAll_concat, List.map_append, List.map_singleton,
      lastWritten_concat, ← hbefore] at hafter
    exact hafter
  · intro h done
    -- the steps done so far, the latest one last
    induction done using List.reverseRecOn with
    | nil =>
        intro _
        rfl
    | append_singleton done op ih =>
        intro hprefix
        have hbefore := ih ((List.prefix_append ..).trans hprefix)
        have hlands := h done op hprefix
        rw [runAll_concat, List.map_append, List.map_singleton,
          lastWritten_concat, ← hbefore]
        exact hlands

end RedPlanet.Verified
