import Quadstack.Machine.Semantics

/-!
Runs. A run resets the engine and executes one instruction after another until one halts or
faults. Before each instruction two things are looked at, in this order: whether the last one
transferred control exactly to the end of the program, which ends the run normally, and
whether the step budget is used up. Running into the end without a transfer of control is a fault,
raised by reading the next word.

A program may run forever, so a run is given fuel, which bounds the instructions tried; it has
no result when the fuel is too small, and more fuel never changes a result.
-/

namespace Quadstack.Engine

variable {σ π : Type} [OutputSink σ] [Peripheral π]

/-- Marks the start of the next instruction. -/
def beginInstruction (engine : Engine σ π) : Engine σ π :=
  { engine with landed := false, current := engine.pc }

/-- Counts an instruction whose word was read, and reports it. -/
def countInstruction (engine : Engine σ π) (instruction : Instruction) : Engine σ π :=
  { engine.record (.began engine.current instruction) with steps := engine.steps + 1 }

/-- One instruction, or the halt or fault that takes its place. -/
def step (program : Image) : Exec σ π (Option Halt) := do
  let engine ← get
  if engine.landed ∧ engine.pc = program.size then
    pure (some { offset := engine.pc, reason := .landed })
  else
    match engine.spentLimit? with
    | some limit => throw (.stepLimitExceeded engine.pc limit)
    | none =>
      modify beginInstruction
      let instruction ← Exec.fetchInstruction program
      modify (countInstruction · instruction)
      Acts.execute program instruction

/-- Reports a normal end. -/
def conclude (engine : Engine σ π) (halt : Halt) : Engine σ π :=
  engine.record (.halted halt engine.steps)

/-- The fault that the latch holds once `fault` is raised: the first one stays. -/
def latchedFault (engine : Engine σ π) (fault : Fault) : Fault :=
  engine.fault.getD fault

/-- Latches a fault and reports what the latch holds. -/
def latch (engine : Engine σ π) (fault : Fault) : Engine σ π :=
  { engine with fault := some (engine.latchedFault fault) }.record
    (.faulted (engine.latchedFault fault) engine.steps)

/-- Goes on from the state at hand, for at most `fuel` steps. -/
def continue? (program : Image) : Nat → Engine σ π → Option (Outcome × Engine σ π)
  | 0, _ => none
  | fuel + 1, engine =>
    match step program engine with
    | .ok none after => continue? program fuel after
    | .ok (some halt) after => some (.ok halt, after.conclude halt)
    | .error fault after => some (.error (after.latchedFault fault), after.latch fault)

/-- Runs a program from its first byte. -/
def run? (program : Image) (fuel : Nat) (engine : Engine σ π) :
    Option (Outcome × Engine σ π) :=
  continue? program fuel engine.reset

end Quadstack.Engine
