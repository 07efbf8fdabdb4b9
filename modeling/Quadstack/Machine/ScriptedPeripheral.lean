import Quadstack.Machine.Peripheral

/-!
A peripheral that follows a script. The script is a list of rules; the first one that matches an
instruction's code says what to do on the stack bank. The peripheral also remembers every
instruction that reached it.
-/

namespace Quadstack

/-- A stack named in a script: one of the two that the instruction selects, or a fixed one. -/
inductive StackChoice where
  | source
  | destination
  | fixed (stack : StackId)
deriving DecidableEq

def StackChoice.resolve (instruction : Instruction) : StackChoice → StackId
  | .source => instruction.sourceStack
  | .destination => instruction.destinationStack
  | .fixed stack => stack

/-- One act of a script. The accumulator carries a value from one act to a later one. -/
inductive ScriptAction where
  | deny
  | push (stack : StackChoice) (width : Width) (value : UInt32)
  | pushAccumulator (stack : StackChoice) (width : Width)
  /-- Pop into the accumulator. -/
  | pop (stack : StackChoice) (width : Width)
  /-- Peek into the accumulator. -/
  | peekAt (stack : StackChoice) (width : Width) (depth : Nat)
  /-- Empty the four stacks. -/
  | reset
deriving DecidableEq

/-- What to do for a code, or for any code if none is given. A rule may name a number too large for
a code; it then applies to no instruction. -/
structure ScriptRule where
  code? : Option Nat
  actions : List ScriptAction
deriving DecidableEq

def ScriptRule.applies (rule : ScriptRule) (instruction : Instruction) : Bool :=
  match rule.code? with
  | none => true
  | some code => code == instruction.code.toNat

/-- Performs one act and gives the accumulator after it. -/
def ScriptAction.perform (instruction : Instruction) (accumulator : UInt32) :
    ScriptAction → BankM Refusal UInt32
  | .deny => throw .denied
  | .push stack width value => do
    EStateM.adaptExcept .stack (TracedBank.push (stack.resolve instruction) width value)
    pure accumulator
  | .pushAccumulator stack width => do
    EStateM.adaptExcept .stack (TracedBank.push (stack.resolve instruction) width accumulator)
    pure accumulator
  | .pop stack width =>
    EStateM.adaptExcept .stack (TracedBank.pop (stack.resolve instruction) width)
  | .peekAt stack width depth =>
    EStateM.adaptExcept .stack (TracedBank.peekAt (stack.resolve instruction) width depth)
  | .reset => do
    TracedBank.reset
    pure accumulator

/-- Performs acts in order until one fails; those before it stand. -/
def ScriptAction.performAll (instruction : Instruction) (accumulator : UInt32) :
    List ScriptAction → BankM Refusal Unit
  | [] => pure ()
  | action :: rest => do
    let accumulator ← action.perform instruction accumulator
    performAll instruction accumulator rest

/-- A script and the instructions that reached it, oldest first. -/
structure ScriptedPeripheral where
  rules : List ScriptRule := []
  seen : Array Instruction := #[]
deriving DecidableEq

/-- The acts for an instruction: those of the first rule that applies, none if there is no such
rule. -/
def ScriptedPeripheral.actionsFor (rules : List ScriptRule) (instruction : Instruction) :
    List ScriptAction :=
  match rules.find? (·.applies instruction) with
  | some rule => rule.actions
  | none => []

instance : Peripheral ScriptedPeripheral where
  dispatch instruction := fun (peripheral, traced) =>
    let after := { peripheral with seen := peripheral.seen.push instruction }
    let actions := ScriptedPeripheral.actionsFor peripheral.rules instruction
    match ScriptAction.performAll instruction 0 actions traced with
    | .ok () traced => .ok () (after, traced)
    | .error refusal traced => .error refusal (after, traced)

end Quadstack
