import Quadstack.Machine.Fetch

/-!
What each instruction does. The semantics is one function on operations: it says in which order an
instruction pops, computes and pushes, and so also what is left when one of these fails. Two-operand
instructions find their right operand on top. A conditional transfer takes its operand off
whether the condition holds or not.

The order is the same on every machine, so the function is written over any monad that offers the
acts it is made of. The engine's own acts are the ones that run; a machine that keeps its numbers in
another form offers acts of its own and gets its instructions from here.
-/

namespace Quadstack

/-- The acts of which instructions are made. A stack is named by the selector that stands in the
instruction. An act that fails ends the instruction. -/
class Acts (m : Type → Type) where
  push (selector : UInt8) (width : Width) (value : UInt32) : m Unit
  pop (selector : UInt8) (width : Width) : m UInt32
  peekAt (selector : UInt8) (width : Width) (depth : UInt32) : m UInt32
  /-- How many bytes are live on a stack. -/
  pointer (selector : UInt8) : m UInt32
  fetchLiteral (program : Image) (width : Width) : m UInt32
  fetchText (program : Image) : m (List UInt8)
  /-- A quotient or a remainder fails on a zero divisor. -/
  arith (op : ArithOp) (width : Width) (lhs rhs : UInt32) : m UInt32
  shift (op : ShiftOp) (width : Width) (value count : UInt32) : m UInt32
  /-- Whether the flags satisfy a condition. -/
  satisfies (condition : Condition) : m Bool
  /-- Sets the flags from a result. -/
  setFlags (width : Width) (value : UInt32) : m Unit
  /-- Transfers control to an address. -/
  jumpTo (target : UInt32) : m Unit
  /-- Reads a distance and transfers control that far if the flags satisfy the condition. -/
  branch (program : Image) (condition : Condition) : m Unit
  /-- The program counter as a return address. -/
  returnAddress : m UInt32
  /-- The instruction at hand halts the run. -/
  halt (reason : HaltReason) : m Halt
  emit (event : DebugEvent) : m Unit
  /-- Hands the instruction and the stacks to the peripheral. -/
  delegate (instruction : Instruction) : m Unit

/-! ### The acts of the engine -/

namespace Exec

variable {σ π : Type}

/-- Faults at the instruction at hand. -/
def fail {α : Type} (fault : Nat → Fault) : Exec σ π α :=
  fun engine => .error (fault engine.current) engine

/-- The value that must be there, or a fault at the instruction at hand. -/
def require {α : Type} (value? : Option α) (fault : Nat → Fault) : Exec σ π α :=
  match value? with
  | some value => pure value
  | none => fail fault

/-- The offset `distance` away from the program counter, unless it lies before the program. -/
def branchTarget? (pc : Nat) (distance : Int16) : Option Nat :=
  let target : Int := pc + distance.toInt
  if target < 0 then none else some target.toNat

/-- Reads a distance and goes there if the flags satisfy the condition. -/
def branch (program : Image) (condition : Condition) : Exec σ π Unit := do
  let distance ← fetchDistance program
  let engine ← get
  if engine.flags.satisfies condition then
    let target ← require (branchTarget? engine.pc distance) .targetOutOfBounds
    jumpTo target
  else
    pure ()

/-- The program counter as a return address, unless it is too large for one. -/
def returnAddress? (pc : Nat) : Option UInt32 :=
  if pc < 0x100000000 then some (UInt32.ofNat pc) else none

/-- The return address of the instruction at hand. -/
def returnAddress : Exec σ π UInt32 := do
  let engine ← get
  require (returnAddress? engine.pc) .targetOutOfBounds

/-- How many bytes are live on a stack, as a word. -/
def pointer (stack : StackId) : Exec σ π UInt32 :=
  fun engine => .ok (UInt32.ofNat (engine.bank.pointer stack)) engine

/-- The instruction at hand halts the run for the given reason. -/
def halt (reason : HaltReason) : Exec σ π Halt :=
  fun engine => .ok { offset := engine.current, reason } engine

instance [OutputSink σ] [Peripheral π] : Acts (Exec σ π) where
  push selector := push (.ofSelector selector)
  pop selector := pop (.ofSelector selector)
  peekAt selector width depth := peekAt (.ofSelector selector) width depth.toNat
  pointer selector := pointer (.ofSelector selector)
  fetchLiteral := fetchLiteral
  fetchText := fetchText
  arith op width lhs rhs := require (op.compute? width lhs rhs) .divisionByZero
  shift op width value count := pure (op.compute width value count)
  satisfies := satisfies
  setFlags := setFlags
  jumpTo target := jumpTo target.toNat
  branch := branch
  returnAddress := returnAddress
  halt := halt
  emit := emit
  delegate := delegate

end Exec

/-! ### The instructions -/

namespace Acts

variable {m : Type → Type} [Monad m] [Acts m]

/-- Pushes a result and sets the flags from it. -/
def commit (selector : UInt8) (width : Width) (result : UInt32) : m Unit := do
  push selector width result
  setFlags width result

/-- Pops the right operand, then the left one. -/
def popOperands (selector : UInt8) (width : Width) : m (UInt32 × UInt32) := do
  let rhs ← pop selector width
  let lhs ← pop selector width
  pure (lhs, rhs)

/-- Transfers control if the flags satisfy a condition. -/
def jumpIf (condition : Condition) (target : UInt32) : m Unit := do
  if ← satisfies condition then jumpTo target else pure ()

/-- Halts the run if the flags satisfy a condition. -/
def haltIf (condition : Condition) : m (Option Halt) := do
  if ← satisfies condition then
    let halt ← halt (.ended condition)
    pure (some halt)
  else
    pure none

/-- The run goes on. -/
def proceed : m (Option Halt) := pure none

/-- Executes an instruction whose word was read. -/
@[specialize]
def execute (program : Image) (instruction : Instruction) : m (Option Halt) :=
  let source := instruction.source
  let destination := instruction.destination
  match instruction.operation with
  | .nop => proceed
  | .literal width => do
    let value ← fetchLiteral program width
    push destination width value
    proceed
  | .copy width => do
    let value ← peekAt source width 0
    push destination width value
    proceed
  | .move width => do
    let value ← pop source width
    push destination width value
    proceed
  | .swap width => do
    let first ← pop source width
    let second ← pop destination width
    push destination width first
    push source width second
    proceed
  | .peekDeep width => do
    let depth ← pop source .w32
    let value ← peekAt source width depth
    push destination width value
    proceed
  | .stackPointer => do
    let bytes ← pointer source
    push destination .w32 bytes
    proceed
  | .delete width => do
    let _ ← pop source width
    proceed
  | .arith op width => do
    let (lhs, rhs) ← popOperands source width
    let result ← arith op width lhs rhs
    commit destination width result
    proceed
  | .shift op width => do
    let count ← pop source .w8
    let value ← pop source width
    let result ← shift op width value count
    commit destination width result
    proceed
  | .logic op width => do
    let (lhs, rhs) ← popOperands source width
    commit destination width (op.compute width lhs rhs)
    proceed
  | .unary op width => do
    let value ← pop source width
    commit destination width (op.compute width value)
    proceed
  | .jump condition => do
    let target ← pop source .address
    jumpIf condition target
    proceed
  | .branch condition => do
    branch program condition
    proceed
  | .call => do
    let target ← pop source .address
    let address ← returnAddress
    push destination .address address
    jumpTo target
    proceed
  | .ret => do
    let target ← pop source .address
    jumpTo target
    proceed
  | .halt condition => haltIf condition
  | .debugText => do
    let bytes ← fetchText program
    emit (.text bytes)
    proceed
  | .debugValue width => do
    let value ← pop source width
    emit (.value width value)
    proceed
  | .reserved => do
    delegate instruction
    proceed

end Acts

end Quadstack
