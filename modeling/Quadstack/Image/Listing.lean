import Quadstack.Image.Assembly
import Quadstack.Text.Quoted
import Quadstack.Text.Utf8

/-!
Listings: a program image as readable text, one line per instruction. The image is swept from its
first byte to its last without following jumps, and each line shows where it starts, the
instruction's name and stacks, and its inline operand. The sweep stops at an instruction that the
end of the image cuts off.

The sweep and the text are kept apart: `Listing.sweep` reads the image into lines, and
`Listing.Line.render` writes one line.
-/

namespace Quadstack.Listing

/-- An inline operand as it was read. -/
inductive Operand where
  | absent
  | literal (width : Width) (value : UInt32)
  | offset (distance : Int16)
  | text (bytes : List UInt8)
deriving DecidableEq

/-- One line of a listing, with the offset at which it starts. -/
inductive Line where
  /-- A whole instruction. -/
  | whole (start : Nat) (instruction : Instruction) (operand : Operand)
  /-- An instruction whose operand the end of the image cuts off. -/
  | cutOperand (start : Nat) (instruction : Instruction)
  /-- A last byte that is half a word. -/
  | cutWord (start : Nat)
deriving DecidableEq

/-! ### Reading -/

/-- The first `count` bytes, if there are as many. -/
def takeExactly? (count : Nat) (bytes : List UInt8) : Option (List UInt8) :=
  let taken := bytes.take count
  if taken.length = count then some taken else none

/-- Reads the operand that an operation expects at the head of `bytes`, and says how many bytes it
takes there. -/
def readOperand? (kind : Option InlineOperand) (bytes : List UInt8) : Option (Operand × Nat) :=
  match kind with
  | none => some (.absent, 0)
  | some (.literal width) =>
    (takeExactly? width.bytes bytes).map fun taken =>
      (.literal width (Width.ofBytes taken), width.bytes)
  | some .offset =>
    (takeExactly? 2 bytes).map fun taken =>
      (.offset (Instruction.wordOfBytes taken).toInt16, 2)
  | some .text =>
    (bytes.findIdx? (· == 0)).map fun length =>
      (.text (bytes.take length), length + 1)

/-- The lines of `bytes`, which stand at offset `start` of the image. -/
def sweepFrom (start : Nat) (bytes : List UInt8) : List Line :=
  match bytes with
  | [] => []
  | [_] => [.cutWord start]
  | low :: high :: rest =>
    let instruction := Instruction.decode (Instruction.wordOfBytes [low, high])
    match readOperand? instruction.operation.inlineOperand? rest with
    | none => [.cutOperand start instruction]
    | some (operand, size) =>
      .whole start instruction operand ::
        sweepFrom (start + Instruction.wordBytes + size) (rest.drop size)
termination_by bytes.length
decreasing_by
  simp only [List.length_drop, List.length_cons]
  omega

/-- The lines of an image. -/
def sweep (image : Image) : List Line :=
  sweepFrom 0 image.toList

/-! ### Writing -/

/-- The operand after two blanks; nothing if there is none. -/
def Operand.render : Operand → String
  | .absent => ""
  | .literal _ value => "  " ++ Numeral.decimal value.toNat
  | .offset distance => "  " ++ Numeral.signed distance.toInt
  | .text bytes => "  " ++ String.ofList (Text.Quoted.quote (Text.Utf8.decode bytes))

/-- What stands in a line for the part that is cut off. -/
def truncated : String := ".truncated"

/-- The name of an instruction: the mnemonic, or the code where the table has none. -/
def instructionName (instruction : Instruction) : String :=
  match instruction.opcode with
  | .ok opcode => opcode.mnemonic
  | .error _ => ".code " ++ Numeral.code instruction.code

/-- The offset at which a line starts, in four digits or more, and two blanks. -/
def renderStart (start : Nat) : String :=
  Numeral.hex 4 start ++ "  "

/-- The name, in eight columns or more, and the two stacks. -/
def renderInstruction (instruction : Instruction) : String :=
  String.ofList ((instructionName instruction).toList.rightpad 8 ' ') ++
    " s" ++ Numeral.decimal instruction.source.toNat ++
    " d" ++ Numeral.decimal instruction.destination.toNat

/-- The line, with the line break that ends it. -/
def Line.render : Line → String
  | .whole start instruction operand =>
    renderStart start ++ renderInstruction instruction ++ operand.render ++ "\n"
  | .cutOperand start instruction =>
    renderStart start ++ renderInstruction instruction ++ "  " ++ truncated ++ "\n"
  | .cutWord start => renderStart start ++ truncated ++ "\n"

/-- The text of a listing. -/
def render (lines : List Line) : String :=
  String.join (lines.map Line.render)

end Quadstack.Listing

namespace Quadstack

/-- The listing of an image. -/
def Image.listing (image : Image) : String :=
  Listing.render (Listing.sweep image)

end Quadstack
