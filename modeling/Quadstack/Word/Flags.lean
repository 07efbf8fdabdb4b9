import Quadstack.Word.Width

/-!
The two condition flags and the tests on them. The flags describe one value, the result
of the last arithmetic or logic instruction, and every conditional jump, branch and halt
reads them through a `Condition`.
-/

namespace Quadstack

/-- The test a conditional instruction applies to the flags. -/
inductive Condition where
  | always
  | zero
  | notZero
  | negative
  | notNegative
deriving DecidableEq

namespace Condition

def holds (condition : Condition) (zero negative : Bool) : Bool :=
  match condition with
  | .always => true
  | .zero => zero
  | .notZero => !zero
  | .negative => negative
  | .notNegative => !negative

/-- The condition as it appears inside the text of an operation. -/
def inspect : Condition → String
  | .always => "Always"
  | .zero => "Zero"
  | .notZero => "NotZero"
  | .negative => "Negative"
  | .notNegative => "NotNegative"

end Condition

/-- What is remembered of the last result: whether it was zero, and whether its sign bit was
set. Both are clear before the first result. -/
structure Flags where
  zero : Bool := false
  negative : Bool := false
deriving DecidableEq

namespace Flags

/-- The flags of `value` read at the given width. -/
def ofResult (width : Width) (value : UInt32) : Flags where
  zero := width.truncate value == 0
  negative := width.isNegative value

def satisfies (flags : Flags) (condition : Condition) : Bool :=
  condition.holds flags.zero flags.negative

end Flags

end Quadstack
