import Quadstack.Word.Width

/-!
Arithmetic, shifts and bitwise logic on words at a width. Each operation works on whole
32-bit words and truncates its result to the width, so bits of an operand above the width
never show in a result. Signed operations first read their operands in two's complement at
the width; the one quotient that does not fit, the least number divided by minus one,
wraps back to the least number.
-/

namespace Quadstack

/-- Two-operand arithmetic. `div` and `mod` are signed, truncating toward zero, with the
remainder taking the sign of the dividend; `divU` and `modU` are unsigned. -/
inductive ArithOp where
  | add
  | sub
  | mul
  | div
  | divU
  | mod
  | modU
deriving DecidableEq

/-- Direction and fill of a shift: `rightSigned` repeats the sign bit, the others fill with
zeros. -/
inductive ShiftOp where
  | right
  | rightSigned
  | left
deriving DecidableEq

/-- Two-operand bitwise logic. -/
inductive LogicOp where
  | and
  | or
  | nor
  | nand
  | xor
deriving DecidableEq

/-- One-operand operations: bitwise complement and two's complement negation. -/
inductive UnaryOp where
  | not
  | neg
deriving DecidableEq

/-- `lhs op rhs` wrapping at the width, or nothing when the operation divides and the
divisor is zero at the width. -/
def ArithOp.compute? (op : ArithOp) (width : Width) (lhs rhs : UInt32) : Option UInt32 :=
  Option.map width.truncate <|
    match op with
    | .add => some (lhs + rhs)
    | .sub => some (lhs - rhs)
    | .mul => some (lhs * rhs)
    | .div =>
      if width.signExtend rhs = 0 then none
      else some (width.signExtend lhs / width.signExtend rhs).toUInt32
    | .mod =>
      if width.signExtend rhs = 0 then none
      else some (width.signExtend lhs % width.signExtend rhs).toUInt32
    | .divU =>
      if width.truncate rhs = 0 then none
      else some (width.truncate lhs / width.truncate rhs)
    | .modU =>
      if width.truncate rhs = 0 then none
      else some (width.truncate lhs % width.truncate rhs)

/-- `value` shifted by `count` bits at the width. A count at or past the width shifts every
bit out, which leaves zero, or the sign bit everywhere for `rightSigned`. The count is
checked first because a word shift only looks at the low five bits of its count. -/
def ShiftOp.compute (op : ShiftOp) (width : Width) (value count : UInt32) : UInt32 :=
  let operand := width.truncate value
  width.truncate <|
    match op with
    | .right => if UInt32.ofNat width.bits ≤ count then 0 else operand >>> count
    | .left => if UInt32.ofNat width.bits ≤ count then 0 else operand <<< count
    | .rightSigned => (width.signExtend operand >>> (min count 31).toInt32).toUInt32

def LogicOp.compute (op : LogicOp) (width : Width) (lhs rhs : UInt32) : UInt32 :=
  width.truncate <|
    match op with
    | .and => lhs &&& rhs
    | .or => lhs ||| rhs
    | .nor => ~~~(lhs ||| rhs)
    | .nand => ~~~(lhs &&& rhs)
    | .xor => lhs ^^^ rhs

def UnaryOp.compute (op : UnaryOp) (width : Width) (value : UInt32) : UInt32 :=
  width.truncate <|
    match op with
    | .not => ~~~value
    | .neg => -value

/-! ### Texts -/

/-- The operation as it appears in a trace line. -/
def ArithOp.inspect : ArithOp → String
  | .add => "Add"
  | .sub => "Sub"
  | .mul => "Mul"
  | .div => "Div"
  | .divU => "DivU"
  | .mod => "Mod"
  | .modU => "ModU"

/-- The operation as it appears in a trace line. -/
def ShiftOp.inspect : ShiftOp → String
  | .right => "Right"
  | .rightSigned => "RightSigned"
  | .left => "Left"

/-- The operation as it appears in a trace line. -/
def LogicOp.inspect : LogicOp → String
  | .and => "And"
  | .or => "Or"
  | .nor => "Nor"
  | .nand => "Nand"
  | .xor => "Xor"

/-- The operation as it appears in a trace line. -/
def UnaryOp.inspect : UnaryOp → String
  | .not => "Not"
  | .neg => "Neg"

end Quadstack
