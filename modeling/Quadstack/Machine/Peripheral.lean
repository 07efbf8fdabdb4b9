import Quadstack.Stack.TracedBank

/-!
The boundary to peripherals. The machine reads every instruction but executes only part of the
table. The rest (displays, casts, floats, constants, devices, and every code the table does
not name) goes to a peripheral together with the stack bank, so that a host can give those
instructions a meaning. The peripheral sees the instruction and the bank and nothing else
of the machine.
-/

namespace Quadstack

/-- Why a peripheral rejects an instruction. -/
inductive Refusal where
  | denied
  /-- A stack access that the peripheral made has failed. -/
  | stack (error : StackError)
deriving DecidableEq

namespace Refusal

def message : Refusal → String
  | .denied => "permission denied"
  | .stack error => error.message

/-- The refusal with what caused it in parentheses. -/
def inspect : Refusal → String
  | .denied => "Denied"
  | .stack error => "Stack(" ++ error.inspect ++ ")"

end Refusal

/-- A handler of reserved instructions with state `π`. -/
class Peripheral (π : Type) where
  dispatch : Instruction → EStateM Refusal (π × TracedBank) Unit

/-- The peripheral that accepts every instruction and does nothing. -/
structure NoPeripheral where
deriving DecidableEq

instance : Peripheral NoPeripheral where
  dispatch _ := pure ()

end Quadstack
