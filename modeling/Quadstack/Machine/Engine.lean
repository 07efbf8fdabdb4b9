import Quadstack.Image.Assembly
import Quadstack.Machine.DebugOutput
import Quadstack.Machine.Journal
import Quadstack.Machine.Peripheral

/-!
The engine: the whole state of the machine, and the few acts of which every instruction is made. An
engine owns its stacks, flags, counters and fault latch, and holds the sink for debug output and
the peripheral for reserved instructions. It runs one program after another; only a reset,
with which every run begins, brings stacks, flags, counters and latch back to their start.
Output, peripheral, step limit and journal outlive it.

An act is a state transformer that may raise a fault and keeps what was done before it: pops
that succeeded stay popped when a later part of the instruction fails.
-/

namespace Quadstack

/-- The state of the machine, with a sink of type `σ` and a peripheral of type `π`. -/
structure Engine (σ π : Type) where
  bank : StackBank := StackBank.empty
  flags : Flags := {}
  /-- The offset of the next byte to read. -/
  pc : Nat := 0
  /-- The offset of the instruction at hand. -/
  current : Nat := 0
  /-- Whether the last instruction transferred control. -/
  landed : Bool := false
  /-- The fault that ended the last run, if it ended with one. -/
  fault : Option Fault := none
  /-- How many instructions this run has executed. -/
  steps : Nat := 0
  /-- How many instructions a run may execute; any number if there is no limit. -/
  stepLimit : Option Nat := none
  output : σ
  peripheral : π
  journal : Journal := #[]

namespace Engine

variable {σ π : Type}

/-- A new engine without a step limit. -/
def new (output : σ) (peripheral : π) : Engine σ π where
  output := output
  peripheral := peripheral

/-- The engine with another peripheral; everything else is kept. -/
def withPeripheral {ρ : Type} (engine : Engine σ π) (peripheral : ρ) : Engine σ ρ :=
  { engine with peripheral := peripheral }

/-- The engine with another step limit; everything else is kept. -/
def withStepLimit (engine : Engine σ π) (limit : Option Nat) : Engine σ π :=
  { engine with stepLimit := limit }

/-- The engine with one more message in its journal. -/
def record (engine : Engine σ π) (message : Message) : Engine σ π :=
  { engine with journal := engine.journal.push message }

/-- The engine with an empty journal. -/
def clearJournal (engine : Engine σ π) : Engine σ π :=
  { engine with journal := #[] }

/-- Back to the start of a run. The cells of the stacks keep their bytes. -/
def reset (engine : Engine σ π) : Engine σ π :=
  { engine with
    bank := engine.bank.reset
    flags := {}
    pc := 0
    current := 0
    landed := false
    fault := none
    steps := 0
    journal := engine.journal.push .reset }

/-- Takes over a bank that was worked on, and reports the moves made on it. -/
def adopt (engine : Engine σ π) (traced : TracedBank) : Engine σ π :=
  { engine with
    bank := traced.bank
    journal := engine.journal ++ traced.moves.map Message.moved }

/-- The limit that is used up, if there is one. -/
def spentLimit? (engine : Engine σ π) : Option Nat :=
  match engine.stepLimit with
  | some limit => if limit ≤ engine.steps then some limit else none
  | none => none

end Engine

/-- A part of an instruction: it changes the engine and may raise a fault. -/
abbrev Exec (σ π : Type) := EStateM Fault (Engine σ π)

namespace Exec

variable {σ π α : Type}

/-! ### Stacks -/

/-- Works on the stacks. A failed access faults at the instruction at hand. -/
def onBank (work : BankM StackError α) : Exec σ π α :=
  fun engine =>
    match work { bank := engine.bank } with
    | .ok value traced => .ok value (engine.adopt traced)
    | .error error traced => .error (error.toFault engine.current) (engine.adopt traced)

def push (stack : StackId) (width : Width) (value : UInt32) : Exec σ π Unit :=
  onBank (TracedBank.push stack width value)

def pop (stack : StackId) (width : Width) : Exec σ π UInt32 :=
  onBank (TracedBank.pop stack width)

def peekAt (stack : StackId) (width : Width) (depth : Nat) : Exec σ π UInt32 :=
  onBank (TracedBank.peekAt stack width depth)

/-! ### Control -/

/-- Whether the flags satisfy a condition. -/
def satisfies (condition : Condition) : Exec σ π Bool :=
  fun engine => .ok (engine.flags.satisfies condition) engine

/-- Transfers control. -/
def jumpTo (target : Nat) : Exec σ π Unit :=
  modify fun engine => { engine with pc := target, landed := true }

/-- The flags of a result. -/
def setFlags (width : Width) (value : UInt32) : Exec σ π Unit :=
  modify fun engine => { engine with flags := Flags.ofResult width value }

/-! ### The outside -/

/-- Hands an event to the sink. A refusal is reported and changes nothing else. -/
def emit [OutputSink σ] (event : DebugEvent) : Exec σ π Unit :=
  fun engine =>
    match OutputSink.receive event engine.output with
    | .ok () output => .ok () { engine with output := output }
    | .error reason output =>
      .ok () ({ engine with output := output }.record (.outputFailed engine.current reason))

/-- Takes over what a peripheral leaves when it is done with an instruction. A refusal faults at
the instruction at hand. -/
def settle (engine : Engine σ π) (instruction : Instruction) :
    EStateM.Result Refusal (π × TracedBank) Unit → EStateM.Result Fault (Engine σ π) Unit
  | .ok () (peripheral, traced) => .ok () ({ engine with peripheral := peripheral }.adopt traced)
  | .error .denied (peripheral, traced) =>
    .error (.insufficientPermissions engine.current instruction.code)
      ({ engine with peripheral := peripheral }.adopt traced)
  | .error (.stack error) (peripheral, traced) =>
    .error (error.toFault engine.current) ({ engine with peripheral := peripheral }.adopt traced)

/-- Hands an instruction and the stacks to the peripheral. -/
def delegate [Peripheral π] (instruction : Instruction) : Exec σ π Unit :=
  fun engine =>
    settle (engine.record (.delegated engine.current instruction.code)) instruction
      (Peripheral.dispatch instruction (engine.peripheral, { bank := engine.bank }))

end Exec

end Quadstack
