import Mathlib
import Quadstack.Machine.Run
import Quadstack.Proofs.Machine.BankClient
import Quadstack.Proofs.RegisterMachine.Bank

/-!
The machine in registers. Its program counter and its step counter are 64-bit numbers, its bank is
a `WordBank`, and whatever can break down on such a machine is computed in `Checked`. It executes
the same instructions as the engine, from the same semantics, on acts of its own.

A run can therefore end in three ways here: with a halt, with a fault, or with a trap. The engine
knows the first two only. After every instruction that has no business with the flags the machine
looks whether they are as before, and breaks down if they are not.
-/

namespace Quadstack

/-- The state of the machine in registers. -/
structure WordEngine (σ π : Type) where
  bank : WordBank
  flags : Flags
  pc : UInt64
  current : UInt64
  landed : Bool
  fault : Option Fault
  steps : UInt64
  stepLimit : Option UInt64
  output : σ
  peripheral : π

/-- A part of an instruction on this machine: it may fault, and it may break down. -/
abbrev WordExec (σ π : Type) := ExceptT Fault (StateT (WordEngine σ π) Checked)

/-- Carries work on a bank out in registers. -/
def BankProgram.performInWords {α : Type} : BankProgram α → WordBank → Checked (α × WordBank)
  | .done result, bank => pure (result, bank)
  | .push stack width value next, bank => do
    let (answer, after) ← bank.push (UInt64.ofNat stack.val) width value
    performInWords (next answer) after
  | .pop stack width next, bank => do
    let (answer, after) ← bank.pop (UInt64.ofNat stack.val) width
    performInWords (next answer) after
  | .peekAt stack width depth next, bank => do
    let answer ← bank.peekAt (UInt64.ofNat stack.val) width depth
    performInWords (next answer) bank
  | .contents stack next, bank => do
    let bytes ← bank.contents (UInt64.ofNat stack.val)
    performInWords (next bytes) bank
  | .reset next, bank => performInWords next bank.reset

namespace WordExec

variable {σ π α : Type}

/-- A computation that may break down but not fault. -/
def checked (work : WordEngine σ π → Checked α) : WordExec σ π α :=
  fun words => do
    let value ← work words
    pure (.ok value, words)

def fail (fault : WordEngine σ π → Fault) : WordExec σ π α :=
  fun words => pure (.error (fault words), words)

/-- The value that must be there, or a fault at the instruction at hand. -/
def require (value? : Option α) (fault : Nat → Fault) : WordExec σ π α :=
  match value? with
  | some value => pure value
  | none => fail fun words => fault words.current.toNat

/-! ### Stacks -/

/-- Works on the stacks. A failed access faults at the instruction at hand. -/
def onBank (work : WordBank → Checked (Except StackError α × WordBank)) : WordExec σ π α :=
  fun words => do
    match ← work words.bank with
    | (.ok value, bank) => pure (.ok value, { words with bank := bank })
    | (.error error, bank) =>
      pure (.error (error.toFault words.current.toNat), { words with bank := bank })

def peekAt (stack : UInt64) (width : Width) (depth : UInt64) : WordExec σ π UInt32 :=
  onBank fun bank => do
    let answer ← bank.peekAt stack width depth
    pure (answer, bank)

/-! ### Reading the program -/

/-- The bytes of a program from an offset on. -/
def rest? (program : Image) (pc : UInt64) : Option (List UInt8) :=
  if pc.toNat ≤ program.size then some (program.toList.drop pc.toNat) else none

/-- The first `count` bytes, if there are so many. -/
def first? (bytes : List UInt8) (count : UInt64) : Option (List UInt8) :=
  if count.toNat ≤ bytes.length then some (bytes.take count.toNat) else none

/-- Reads `count` bytes and moves past them. -/
def take (program : Image) (count : UInt64) : WordExec σ π (List UInt8) :=
  fun words =>
    match (rest? program words.pc).bind (first? · count) with
    | some bytes => do
      let pc ← Checked.add words.pc count
      pure (.ok bytes, { words with pc := pc })
    | none => pure (.error (.targetOutOfBounds words.pc.toNat), words)

def fetchInstruction (program : Image) : WordExec σ π Instruction := do
  let bytes ← take program (UInt64.ofNat Instruction.wordBytes)
  let low ← checked fun _ => Checked.byteAt bytes 0
  let high ← checked fun _ => Checked.byteAt bytes 1
  pure (Instruction.decode (Instruction.wordOfBytes [low, high]))

def fetchLiteral (program : Image) (width : Width) : WordExec σ π UInt32 := do
  let bytes ← take program width.size
  checked fun _ => Checked.assemble (UInt64.ofNat bytes.length) bytes

def fetchDistance (program : Image) : WordExec σ π Int16 := do
  let raw ← fetchLiteral program .w16
  pure raw.toUInt16.toInt16

/-- Reads a text up to the next zero byte and moves past that byte. -/
def fetchText (program : Image) : WordExec σ π (List UInt8) :=
  fun words =>
    match (rest? program words.pc).bind (·.findIdx? (· == 0)) with
    | some length => do
      let count ← Checked.add (UInt64.ofNat length) 1
      match ← take program count words with
      | (.ok bytes, after) =>
        let text ← Checked.slice bytes.toArray 0 (UInt64.ofNat length)
        pure (.ok text, after)
      | (.error fault, after) => pure (.error fault, after)
    | none => pure (.error (.targetOutOfBounds words.pc.toNat), words)

/-! ### Control -/

def jumpTo (target : UInt64) : WordExec σ π Unit :=
  fun words => pure (.ok (), { words with pc := target, landed := true })

/-- The sum of a register and a signed distance, if a register can hold it. -/
def addSigned? (pc : UInt64) (distance : Int16) : Option UInt64 :=
  let target : Int := pc.toNat + distance.toInt
  if 0 ≤ target ∧ target < 2 ^ 64 then some (UInt64.ofNat target.toNat) else none

/-- Reads a distance and goes there if the flags satisfy the condition. -/
def branch (program : Image) (condition : Condition) : WordExec σ π Unit := do
  let distance ← fetchDistance program
  let words ← checked pure
  if words.flags.satisfies condition then
    let target ← require (addSigned? words.pc distance) .targetOutOfBounds
    jumpTo target
  else
    pure ()

/-- The program counter as a return address, unless it is too large for one. -/
def returnAddress? (pc : UInt64) : Option UInt32 :=
  if pc.toNat < 2 ^ 32 then some pc.toUInt32 else none

/-! ### The outside -/

def emit [OutputSink σ] (event : DebugEvent) : WordExec σ π Unit :=
  fun words =>
    match OutputSink.receive event words.output with
    | .ok () output => pure (.ok (), { words with output := output })
    | .error _ output => pure (.ok (), { words with output := output })

/-- Takes over what a peripheral leaves when it is done with an instruction. -/
def settle (words : WordEngine σ π) (instruction : Instruction) :
    (π × Except Refusal Unit) × WordBank → Except Fault Unit × WordEngine σ π
  | ((peripheral, .ok ()), bank) => (.ok (), { words with bank := bank, peripheral := peripheral })
  | ((peripheral, .error .denied), bank) =>
    (.error (.insufficientPermissions words.current.toNat instruction.code),
      { words with bank := bank, peripheral := peripheral })
  | ((peripheral, .error (.stack error)), bank) =>
    (.error (error.toFault words.current.toNat),
      { words with bank := bank, peripheral := peripheral })

/-- Hands an instruction and the stacks to the peripheral. -/
def delegate [Peripheral π] [BankClient π] (instruction : Instruction) : WordExec σ π Unit :=
  fun words => do
    let worked ← (BankClient.conduct instruction words.peripheral).performInWords words.bank
    pure (settle words instruction worked)

instance [OutputSink σ] [Peripheral π] [BankClient π] : Acts (WordExec σ π) where
  push selector width value := onBank fun bank => bank.push selector.toUInt64 width value
  pop selector width := onBank fun bank => bank.pop selector.toUInt64 width
  peekAt selector width depth := peekAt selector.toUInt64 width depth.toUInt64
  pointer selector := checked fun words => do
    let bytes ← words.bank.pointer selector.toUInt64
    pure bytes.toUInt32
  fetchLiteral := fetchLiteral
  fetchText := fetchText
  arith op width lhs rhs := do
    let result? ← checked fun _ => Checked.arith op width lhs rhs
    require result? .divisionByZero
  shift op width value count := checked fun _ => Checked.shift op width value count
  satisfies condition := checked fun words => pure (words.flags.satisfies condition)
  setFlags width value := fun words => do
    let flags ← Checked.flagsOf width value
    pure (.ok (), { words with flags := flags })
  jumpTo target := jumpTo target.toUInt64
  branch := branch
  returnAddress := do
    let words ← checked pure
    require (returnAddress? words.pc) .targetOutOfBounds
  halt reason := checked fun words => pure { offset := words.current.toNat, reason }
  emit := emit
  delegate := delegate

end WordExec

namespace WordEngine

variable {σ π : Type}

/-- Back to the start of a run. The cells of the stacks keep their bytes. -/
def reset (words : WordEngine σ π) : WordEngine σ π :=
  { words with
    bank := words.bank.reset
    flags := {}
    pc := 0
    current := 0
    landed := false
    fault := none
    steps := 0 }

/-- The limit that is used up, if there is one. -/
def spentLimit? (words : WordEngine σ π) : Option UInt64 :=
  match words.stepLimit with
  | some limit => if limit ≤ words.steps then some limit else none
  | none => none

/-- Marks the start of the next instruction. -/
def beginInstruction (words : WordEngine σ π) : WordEngine σ π :=
  { words with landed := false, current := words.pc }

/-- Latches a fault; the first one stays. -/
def latch (words : WordEngine σ π) (fault : Fault) : WordEngine σ π :=
  { words with fault := some (words.fault.getD fault) }

/-- Counts an instruction whose word was read. -/
def countInstruction : WordExec σ π Unit :=
  fun words => do
    let steps ← Checked.add words.steps 1
    pure (.ok (), { words with steps := steps })

/-- Breaks down if the flags are not as before and the operation has no business with them. A
halting instruction is not looked at. -/
def guardFlags (operation : Operation) (before : Flags) : WordExec σ π Unit :=
  fun words =>
    match operation with
    | .halt _ => pure (.ok (), words)
    | _ =>
      if operation.affectsFlags ∨ words.flags = before then pure (.ok (), words)
      else .error .flags

variable [OutputSink σ] [Peripheral π] [BankClient π]

/-- Reads a word, counts the instruction and executes it. -/
def executeNext (program : Image) : WordExec σ π (Option Halt) := do
  let instruction ← WordExec.fetchInstruction program
  countInstruction
  let before ← WordExec.checked fun words => pure words.flags
  let halt? ← Acts.execute program instruction
  guardFlags instruction.operation before
  pure halt?

/-- One instruction, or the halt or fault that takes its place. -/
def step (program : Image) : WordExec σ π (Option Halt) :=
  fun words =>
    if words.landed ∧ words.pc = UInt64.ofNat program.size then
      pure (.ok (some { offset := words.pc.toNat, reason := .landed }), words)
    else
      match words.spentLimit? with
      | some limit => pure (.error (.stepLimitExceeded words.pc.toNat limit.toNat), words)
      | none => executeNext program words.beginInstruction

/-- Where a run stands after `count` steps, unless it has broken down. -/
def standing (program : Image) :
    Nat → WordEngine σ π → Checked (Option Outcome × WordEngine σ π)
  | 0, words => pure (none, words)
  | count + 1, words => do
    match ← step program words with
    | (.ok none, after) => standing program count after
    | (.ok (some halt), after) => pure (some (.ok halt), after)
    | (.error fault, after) => pure (some (.error (after.fault.getD fault)), after.latch fault)

end WordEngine

end Quadstack
