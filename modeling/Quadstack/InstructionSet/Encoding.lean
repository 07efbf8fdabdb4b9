import Quadstack.InstructionSet.Opcode

/-!
Instruction words. Every instruction starts with a 16-bit word, stored least significant byte
first:

* bits 15 to 4: the operation code,
* bits 3 and 2: the source stack,
* bits 1 and 0: the destination stack.

Reading a word never fails, because the code is kept as a number and only looked up in the table
when someone asks for its opcode.
-/

namespace Quadstack

/-- One of the four stacks. -/
abbrev StackId := Fin 4

/-- The stack that the two low bits of a selector name. -/
def StackId.ofSelector (selector : UInt8) : StackId :=
  Fin.ofNat 4 selector.toNat

/-- The fields of an instruction word. A record may hold more bits than a word has room for;
`encode` drops them, and an instruction read from a word never has them. -/
structure Instruction where
  code : UInt16
  source : UInt8
  destination : UInt8
deriving DecidableEq

namespace Instruction

/-- How many bytes an instruction word takes in a program. -/
def wordBytes : Nat := 2

/-- The instruction of an opcode on the stacks named by the low bits of two selectors. -/
def ofOpcode (opcode : Opcode) (source destination : UInt8) : Instruction where
  code := opcode.code
  source := source &&& 3
  destination := destination &&& 3

/-- Splits a word into its fields. -/
def decode (word : UInt16) : Instruction where
  code := word >>> 4
  source := ((word >>> 2) &&& 3).toUInt8
  destination := (word &&& 3).toUInt8

/-- Packs the fields into a word. -/
def encode (instruction : Instruction) : UInt16 :=
  ((instruction.code &&& 0xfff) <<< 4) |||
    ((instruction.source.toUInt16 &&& 3) <<< 2) |||
    (instruction.destination.toUInt16 &&& 3)

/-- The two bytes of a word in a program. -/
def wordToBytes (word : UInt16) : List UInt8 :=
  LittleEndian.encode wordBytes word.toNat

/-- The word that two bytes of a program spell. -/
def wordOfBytes (bytes : List UInt8) : UInt16 :=
  UInt16.ofNat (LittleEndian.decode bytes)

/-- The bytes of the instruction's word. -/
def toBytes (instruction : Instruction) : List UInt8 :=
  wordToBytes instruction.encode

/-- The opcode that the code names, or why it names none. -/
def opcode (instruction : Instruction) : Except CodeError Opcode :=
  Opcode.resolve instruction.code

/-- What the instruction does. -/
def operation (instruction : Instruction) : Operation :=
  Operation.ofCode instruction.code

/-- The stack that the instruction takes its operands from. -/
def sourceStack (instruction : Instruction) : StackId :=
  StackId.ofSelector instruction.source

/-- The stack that the instruction puts its result on. -/
def destinationStack (instruction : Instruction) : StackId :=
  StackId.ofSelector instruction.destination

end Instruction

end Quadstack
