import Quadstack.Word.Arithmetic
import Quadstack.Word.Flags

/-!
What an instruction does, apart from how it is numbered. The table of codes is wide and sparse;
an `Operation` folds it into a few families, each carrying the width or the condition that
tells its members apart, and the machine is defined on these families only.
-/

namespace Quadstack

/-- The kind of operand that stands in the program right after an instruction's word. -/
inductive InlineOperand where
  /-- An unsigned literal of the given width. -/
  | literal (width : Width)
  /-- A signed 16-bit distance. -/
  | offset
  /-- Bytes up to and including a zero byte. -/
  | text
deriving DecidableEq

/-- What an instruction does. `source` and `destination` below are the two stacks that the
instruction selects. -/
inductive Operation where
  | nop
  /-- Push an inline literal onto the destination. -/
  | literal (width : Width)
  /-- Push a copy of the source's top onto the destination. -/
  | copy (width : Width)
  /-- Pop the source's top and push it onto the destination. -/
  | move (width : Width)
  /-- Exchange the tops of source and destination. -/
  | swap (width : Width)
  /-- Pop a depth from the source and push the value at that depth onto the destination. -/
  | peekDeep (width : Width)
  /-- Push the source's pointer onto the destination. -/
  | stackPointer
  /-- Pop the source's top and drop it. -/
  | delete (width : Width)
  | arith (op : ArithOp) (width : Width)
  | shift (op : ShiftOp) (width : Width)
  | logic (op : LogicOp) (width : Width)
  | unary (op : UnaryOp) (width : Width)
  /-- Pop an address from the source and go there if the condition holds. -/
  | jump (condition : Condition)
  /-- Go an inline distance if the condition holds. -/
  | branch (condition : Condition)
  /-- Pop an address from the source, push the return address onto the destination, go there. -/
  | call
  /-- Pop a return address from the source and go there. -/
  | ret
  /-- Halt if the condition holds. -/
  | halt (condition : Condition)
  /-- Emit an inline text. -/
  | debugText
  /-- Pop a value from the source and emit it. -/
  | debugValue (width : Width)
  /-- Not executed by the machine itself: handed to the peripheral. -/
  | reserved
deriving DecidableEq

namespace Operation

/-- The operand that follows the word of such an instruction, if there is one. -/
def inlineOperand? : Operation → Option InlineOperand
  | .literal width => some (.literal width)
  | .branch _ => some .offset
  | .debugText => some .text
  | _ => none

/-- Whether such an instruction sets the flags when it completes. -/
def affectsFlags : Operation → Bool
  | .arith _ _ | .shift _ _ | .logic _ _ | .unary _ _ => true
  | _ => false

/-- A family's name with what distinguishes its member in parentheses. -/
private def member (family : String) (arguments : List String) : String :=
  family ++ "(" ++ String.intercalate ", " arguments ++ ")"

/-- The operation as a trace line shows it. -/
def inspect : Operation → String
  | .nop => "Nop"
  | .literal width => member "Let" [width.inspect]
  | .copy width => member "Copy" [width.inspect]
  | .move width => member "Move" [width.inspect]
  | .swap width => member "Swap" [width.inspect]
  | .peekDeep width => member "PeekDeep" [width.inspect]
  | .stackPointer => "StackPointer"
  | .delete width => member "Delete" [width.inspect]
  | .arith op width => member "Arith" [op.inspect, width.inspect]
  | .shift op width => member "Shift" [op.inspect, width.inspect]
  | .logic op width => member "Logic" [op.inspect, width.inspect]
  | .unary op width => member "Unary" [op.inspect, width.inspect]
  | .jump condition => member "Jump" [condition.inspect]
  | .branch condition => member "Branch" [condition.inspect]
  | .call => "Call"
  | .ret => "Return"
  | .halt condition => member "End" [condition.inspect]
  | .debugText => "DebugString"
  | .debugValue width => member "DebugValue" [width.inspect]
  | .reserved => "Reserved"

end Operation

/-- The kind of inline operand by name. -/
def InlineOperand.inspect : InlineOperand → String
  | .literal width => "Literal(" ++ width.inspect ++ ")"
  | .offset => "Offset"
  | .text => "String"

end Quadstack
