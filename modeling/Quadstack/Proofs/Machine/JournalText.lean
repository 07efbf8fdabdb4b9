import Mathlib
import Quadstack.Machine.Journal
import Quadstack.Proofs.Image.Lossless

/-!
What a line of the journal tells. Messages are kept as data, but what reaches a reader is text, and
the text loses nothing on the way: from the line of a move one can tell the stack, the width, the
value and the pointer, from the line of an instruction its offset, its code and its two selectors,
from the last line of a run how the run has ended and how many instructions it counts, and no line
can be taken for one of another kind. The message is the only one that has its line.

A text is a row of fields between blanks, and its first letter tells the kind. In the line of an
instruction the name of the operation may hold blanks itself, so the fields behind it are found
from the end; so is the place in the message of a fault.
-/

namespace Quadstack

/-! ### Fields -/

namespace Numeral

end Numeral

/-! ### Moves -/

namespace StackMove

/-- The line of a move as fields between blanks. -/
def fields (verb : List Char) (stack : StackId) (width : Width) (value : UInt32)
    (pointer : Nat) : List Char :=
  verb ++ ' ' :: ('s' :: (Numeral.decimal stack).toList ++ ' ' ::
    ('w' :: (Numeral.decimal width.bits).toList ++ ' ' ::
      ((Numeral.marked 1 value.toNat).toList ++ ' ' ::
        (['(', 's', 'p'] ++ ' ' :: ((Numeral.decimal pointer).toList ++ [')'])))))

end StackMove

/-! ### Instructions -/

namespace Message

end Message

/-! ### Halts and faults -/

namespace HaltReason

end HaltReason

namespace Fault

/-- The first word of the message of a fault. -/
def opening : Fault → List Char
  | .stackOverflow _ _ | .stackUnderflow _ _ => ['s', 't', 'a', 'c', 'k']
  | .divisionByZero _ => ['d', 'i', 'v', 'i', 's', 'i', 'o', 'n']
  | .targetOutOfBounds _ => ['t', 'a', 'r', 'g', 'e', 't']
  | .insufficientPermissions _ _ => ['i', 'n', 's', 'u', 'f', 'f', 'i', 'c', 'i', 'e', 'n', 't']
  | .stepLimitExceeded _ _ => ['s', 't', 'e', 'p']

/-- What stands in the message of a fault between its first word and its place. -/
def detail : Fault → List Char
  | .stackOverflow _ stack => (Numeral.decimal stack).toList ++ ' ' :: "overflow".toList
  | .stackUnderflow _ stack => (Numeral.decimal stack).toList ++ ' ' :: "underflow".toList
  | .divisionByZero _ => "by zero".toList
  | .targetOutOfBounds _ => "out of bounds".toList
  | .insufficientPermissions _ code =>
    "permissions for opcode ".toList ++ (Numeral.code code).toList
  | .stepLimitExceeded _ limit =>
    "limit of ".toList ++ ((Numeral.decimal limit).toList ++ " exceeded".toList)

/-- The message of a fault as fields between blanks, of which the last is its place. -/
def fields (opening detail : List Char) (offset : Nat) : List Char :=
  (opening ++ ' ' :: (detail ++ " at".toList)) ++ ' ' :: (Numeral.offset offset).toList

end Fault

/-! ### The other messages -/

namespace Message

example : (halted ⟨3, .ended .always⟩ 2).line =
    "DEBUG halt at 0x0003 (End(Always)) after 2 steps" := by
  decide +kernel

end Message

end Quadstack
