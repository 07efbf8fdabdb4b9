import Quadstack.InstructionSet.Encoding
import Quadstack.Stack.ByteStack

/-!
The stack bank: four byte stacks, each accessed at a width that the caller gives. A value goes onto
a stack least significant byte first, so its most significant byte ends up on top, and what was
pushed at one width may be popped at another. An access that fails leaves the bank as it
was.
-/

namespace Quadstack

/-- Why a stack access fails. The stack is kept by number, as messages show it. -/
inductive StackError where
  /-- A push asked for more room than the stack has. -/
  | overflow (stack : Nat)
  /-- A pop or a peek asked for more bytes than the stack holds. -/
  | underflow (stack : Nat)
deriving DecidableEq

namespace StackError

def message : StackError → String
  | .overflow stack => "stack " ++ Numeral.decimal stack ++ " overflow"
  | .underflow stack => "stack " ++ Numeral.decimal stack ++ " underflow"

/-- The error with its field by name. -/
def inspect : StackError → String
  | .overflow stack => "Overflow \x7b stack: " ++ Numeral.decimal stack ++ " \x7d"
  | .underflow stack => "Underflow \x7b stack: " ++ Numeral.decimal stack ++ " \x7d"

end StackError

/-- The four stacks. -/
structure StackBank where
  byteStacks : Vector ByteStack 4
deriving DecidableEq

namespace StackBank

/-- A bank that never held anything. -/
def empty : StackBank where
  byteStacks := Vector.replicate 4 ByteStack.empty

def stack (bank : StackBank) (id : StackId) : ByteStack :=
  bank.byteStacks[id]

def update (bank : StackBank) (id : StackId) (stack : ByteStack) : StackBank where
  byteStacks := bank.byteStacks.set id stack

/-- Empties the four stacks; their cells keep what they hold. -/
def reset (bank : StackBank) : StackBank where
  byteStacks := bank.byteStacks.map ByteStack.clear

/-- How many bytes are live on a stack. -/
def pointer (bank : StackBank) (id : StackId) : Nat :=
  (bank.stack id).pointer

def isEmpty (bank : StackBank) (id : StackId) : Bool :=
  bank.pointer id == 0

/-- The live bytes of a stack, bottom first. -/
def contents (bank : StackBank) (id : StackId) : List UInt8 :=
  (bank.stack id).live

/-- Pushes the low bytes of `value`. -/
def push (bank : StackBank) (id : StackId) (width : Width) (value : UInt32) :
    Except StackError StackBank :=
  match (bank.stack id).append? (width.toBytes value) with
  | some stack => .ok (bank.update id stack)
  | none => .error (.overflow id)

/-- The value that ends `depth` bytes below the top. -/
def peekAt (bank : StackBank) (id : StackId) (width : Width) (depth : Nat) :
    Except StackError UInt32 :=
  match (bank.stack id).read? width.bytes depth with
  | some bytes => .ok (Width.ofBytes bytes)
  | none => .error (.underflow id)

/-- The value on top. -/
def peek (bank : StackBank) (id : StackId) (width : Width) : Except StackError UInt32 :=
  bank.peekAt id width 0

/-- The value on top, and the bank without it. -/
def pop (bank : StackBank) (id : StackId) (width : Width) :
    Except StackError (UInt32 × StackBank) :=
  match bank.peek id width with
  | .ok value => .ok (value, bank.update id ((bank.stack id).lower width.bytes))
  | .error error => .error error

/-- The four stacks' numbers, in order. -/
def ids : List StackId := List.finRange 4

private def bracketed (items : List String) : String :=
  "[" ++ String.intercalate ", " items ++ "]"

/-- The live bytes of the four stacks, in decimal and in brackets. -/
def inspect (bank : StackBank) : String :=
  bracketed (ids.map fun id =>
    bracketed ((bank.contents id).map fun byte => Numeral.decimal byte.toNat))

end StackBank

end Quadstack
