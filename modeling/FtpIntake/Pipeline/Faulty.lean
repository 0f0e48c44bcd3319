import FtpIntake.Pipeline.Memory

/-!
# A pipeline that fails on purpose

The pipeline in memory behind a plan for one failure: the n-th call of one kind fails instead of being carried
out. It shows what an upload does when a call that usually succeeds does not.

It is a pipeline like any other for the upload. That an upload copes with every pipeline is shown without looking at
this one.
-/

namespace FtpIntake

/-- The kinds of call that can be made to fail. -/
inductive FaultPoint where
  | write
  | putAttribute
  | transfer
  | commit
  deriving DecidableEq

/-- Which call fails and how: the n-th of its kind, counted from 1. -/
structure FaultPlan where
  point : FaultPoint
  nth : Nat
  fault : PipelineFault

/-- The pipeline in memory, the plan, and how many calls of the planned kind there have been. -/
structure Faulty where
  memory : Memory := {}
  plan : Option FaultPlan := none
  seen : Nat := 0

namespace Faulty

instance : Inhabited Faulty := ⟨{}⟩

/-- Starts counting calls again. -/
def recount (f : Faulty) : Faulty :=
  { f with seen := 0 }

/-- Carries a call out on the memory, unless the plan has it fail; then `failed` is what becomes of the memory. -/
def guarded (f : Faulty) (point : FaultPoint) (failed : Memory → Memory)
    (call : Memory → Except PipelineFault Unit × Memory) : Except PipelineFault Unit × Faulty :=
  let run (f : Faulty) := let (r, m) := call f.memory; (r, { f with memory := m })
  match f.plan with
  | none => run f
  | some plan =>
    if plan.point ≠ point then run f
    else if f.seen + 1 = plan.nth then
      (.error plan.fault, { f with seen := f.seen + 1, memory := failed f.memory })
    else run { f with seen := f.seen + 1 }

instance : Pipeline Faulty where
  openWork f := let (work, m) := f.memory.openWork; (work, { f with memory := m })
  createUnit work f := let (unit, m) := f.memory.createUnit work; (unit, { f with memory := m })
  write work unit bytes f := f.guarded .write id (Pipeline.write work unit bytes)
  putAttribute work unit key value f := f.guarded .putAttribute id (Pipeline.putAttribute work unit key value)
  transfer work unit relationship f := f.guarded .transfer id (Pipeline.transfer work unit relationship)
  commit work f := f.guarded .commit (·.drop work) (Pipeline.commit work)
  rollback work f := { f with memory := f.memory.rollback work }

end Faulty

end FtpIntake
