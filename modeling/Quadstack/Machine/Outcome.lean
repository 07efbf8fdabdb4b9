import Quadstack.Stack.Bank

/-!
How a run ends: normally, with a `Halt`, or abnormally, with a `Fault`. Both carry a program
offset. For a fault it is the start of the instruction that failed, or, when bytes were
missing at the end of the program, the offset from which they were to be read.
-/

namespace Quadstack

/-- What ends a run abnormally, and where. -/
inductive Fault where
  /-- A push asked for more room than the stack has. -/
  | stackOverflow (offset stack : Nat)
  /-- A pop or a peek asked for more bytes than the stack holds. -/
  | stackUnderflow (offset stack : Nat)
  /-- A quotient or a remainder by zero. -/
  | divisionByZero (offset : Nat)
  /-- Bytes to be read lie outside the program, or a branch leads before its start. -/
  | targetOutOfBounds (offset : Nat)
  /-- The peripheral refused a reserved instruction. -/
  | insufficientPermissions (offset : Nat) (code : UInt16)
  /-- The step budget is used up. -/
  | stepLimitExceeded (offset limit : Nat)
deriving DecidableEq

namespace Fault

/-- Where the fault was raised. -/
def offset : Fault → Nat
  | .stackOverflow offset _ => offset
  | .stackUnderflow offset _ => offset
  | .divisionByZero offset => offset
  | .targetOutOfBounds offset => offset
  | .insufficientPermissions offset _ => offset
  | .stepLimitExceeded offset _ => offset

private def located (text : String) (offset : Nat) : String :=
  text ++ " at " ++ Numeral.offset offset

def message : Fault → String
  | .stackOverflow offset stack => located (StackError.overflow stack).message offset
  | .stackUnderflow offset stack => located (StackError.underflow stack).message offset
  | .divisionByZero offset => located "division by zero" offset
  | .targetOutOfBounds offset => located "target out of bounds" offset
  | .insufficientPermissions offset code =>
    located ("insufficient permissions for opcode " ++ Numeral.code code) offset
  | .stepLimitExceeded offset limit =>
    located ("step limit of " ++ Numeral.decimal limit ++ " exceeded") offset

/-- The name of the kind of fault. -/
def kind : Fault → String
  | .stackOverflow .. => "StackOverflow"
  | .stackUnderflow .. => "StackUnderflow"
  | .divisionByZero .. => "ArithmeticFault"
  | .targetOutOfBounds .. => "TargetOutOfBounds"
  | .insufficientPermissions .. => "InsufficientPermissions"
  | .stepLimitExceeded .. => "StepLimitExceeded"

/-- The fields of a fault other than its offset, by name. -/
private def details : Fault → String
  | .stackOverflow _ stack => ", stack: " ++ Numeral.decimal stack
  | .stackUnderflow _ stack => ", stack: " ++ Numeral.decimal stack
  | .divisionByZero _ => ""
  | .targetOutOfBounds _ => ""
  | .insufficientPermissions _ code => ", code: " ++ Numeral.decimal code.toNat
  | .stepLimitExceeded _ limit => ", limit: " ++ Numeral.decimal limit

/-- The fault with its fields by name. -/
def inspect (fault : Fault) : String :=
  fault.kind ++ " \x7b at: " ++ Numeral.decimal fault.offset ++ fault.details ++ " \x7d"

end Fault

/-- The fault that a failed stack access raises at an offset. -/
def StackError.toFault (offset : Nat) : StackError → Fault
  | .overflow stack => .stackOverflow offset stack
  | .underflow stack => .stackUnderflow offset stack

/-- Why a run ended normally. -/
inductive HaltReason where
  /-- A halting instruction whose condition held. -/
  | ended (condition : Condition)
  /-- A transfer of control led exactly to the end of the program. -/
  | landed
deriving DecidableEq

def HaltReason.inspect : HaltReason → String
  | .ended condition => "End(" ++ condition.inspect ++ ")"
  | .landed => "Landed"

/-- A normal end: the offset of the halting instruction, or the program's length if the run
landed there. -/
structure Halt where
  offset : Nat
  reason : HaltReason
deriving DecidableEq

/-- How a run ended. -/
abbrev Outcome := Except Fault Halt

end Quadstack
