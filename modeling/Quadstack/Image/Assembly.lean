import Quadstack.InstructionSet.Encoding
import Quadstack.Word.Overwrite

/-!
Program images and how they are put together. An image is a flat string of bytes without a
header: instruction words, each followed by its inline operand if it has one. It is built by
appending emissions; the only way to change a byte that is already there is to patch four
bytes, which is how an address not yet known is filled in later.
-/

namespace Quadstack

/-- A program image. -/
abbrev Image := Array UInt8

/-- One thing to append to an image. Selectors are cut to their two low bits. -/
inductive Emission where
  /-- The word of an opcode on two stacks. -/
  | op (opcode : Opcode) (source destination : UInt8)
  /-- Any word, whether the table knows its code or not. -/
  | word (word : UInt16)
  /-- A literal on its own. -/
  | literal (width : Width) (value : UInt32)
  /-- A branch distance on its own. -/
  | offset (distance : Int16)
  | bytes (bytes : List UInt8)
  /-- A whole instruction that pushes an 8-bit literal. -/
  | let8 (destination : UInt8) (value : UInt8)
  /-- A whole instruction that pushes a 16-bit literal. -/
  | let16 (destination : UInt8) (value : UInt16)
  /-- A whole instruction that pushes a 32-bit literal. -/
  | let32 (destination : UInt8) (value : UInt32)
  /-- A whole instruction that pushes an address. -/
  | letAddress (destination : UInt8) (address : UInt32)
  /-- A branch with its distance. -/
  | branch (opcode : Opcode) (distance : Int16)
  /-- A whole instruction that emits a text. -/
  | debugText (text : String)
deriving DecidableEq

namespace Emission

/-- The bytes of a branch distance. -/
def distanceToBytes (distance : Int16) : List UInt8 :=
  LittleEndian.encode 2 distance.toUInt16.toNat

/-- The word of an opcode on two stacks. -/
def opToBytes (opcode : Opcode) (source destination : UInt8) : List UInt8 :=
  (Instruction.ofOpcode opcode source destination).toBytes

/-- The bytes that an emission appends. -/
def toBytes : Emission → List UInt8
  | .op opcode source destination => opToBytes opcode source destination
  | .word content => Instruction.wordToBytes content
  | .literal width value => width.toBytes value
  | .offset distance => distanceToBytes distance
  | .bytes content => content
  | .let8 destination value =>
    opToBytes .let8 0 destination ++ Width.w8.toBytes value.toUInt32
  | .let16 destination value =>
    opToBytes .let16 0 destination ++ Width.w16.toBytes value.toUInt32
  | .let32 destination value =>
    opToBytes .let32 0 destination ++ Width.w32.toBytes value
  | .letAddress destination address =>
    opToBytes .letA 0 destination ++ Width.address.toBytes address
  | .branch opcode distance => opToBytes opcode 0 0 ++ distanceToBytes distance
  | .debugText text => opToBytes .dbgS 0 0 ++ text.toUTF8.data.toList ++ [0]

end Emission

namespace Image

/-- Appends an emission. -/
def emit (image : Image) (emission : Emission) : Image :=
  image ++ emission.toBytes

/-- Overwrites the four bytes at `start` with `value`. There is no image with a patch that reaches
past the end. -/
def patch? (image : Image) (start : Nat) (value : UInt32) : Option Image :=
  if start + 4 ≤ image.size then some (overwrite image start (Width.w32.toBytes value)) else none

end Image

/-- A step of building an image. -/
inductive BuildStep where
  | emit (emission : Emission)
  | patch (start : Nat) (value : UInt32)
deriving DecidableEq

/-- The image after a step, unless the step is a patch that does not fit. -/
def BuildStep.perform? (image : Image) : BuildStep → Option Image
  | .emit emission => some (image.emit emission)
  | .patch start value => image.patch? start value

end Quadstack
