import Quadstack.Machine.Engine

/-!
Reading the program at the program counter. Every read is checked before a byte is touched: one
that would pass the end of the program faults at the offset where it began and leaves the program
counter there.
-/

namespace Quadstack

/-- The `count` bytes of an image from `start` on, if the image has them all. -/
def Image.slice? (image : Image) (start count : Nat) : Option (List UInt8) :=
  if start + count ≤ image.size then some (image.extract start (start + count)).toList else none

/-- The offset of the first zero byte at `start` or after it. -/
def Image.zeroFrom? (image : Image) (start : Nat) : Option Nat :=
  if inside : start < image.size then
    if image[start] = 0 then some start else zeroFrom? image (start + 1)
  else none
termination_by image.size - start

namespace Exec

variable {σ π : Type}

/-- Reads `count` bytes and moves past them. -/
def take (program : Image) (count : Nat) : Exec σ π (List UInt8) :=
  fun engine =>
    match program.slice? engine.pc count with
    | some bytes => .ok bytes { engine with pc := engine.pc + count }
    | none => .error (.targetOutOfBounds engine.pc) engine

def fetchInstruction (program : Image) : Exec σ π Instruction := do
  let bytes ← take program Instruction.wordBytes
  pure (Instruction.decode (Instruction.wordOfBytes bytes))

def fetchLiteral (program : Image) (width : Width) : Exec σ π UInt32 := do
  let bytes ← take program width.bytes
  pure (Width.ofBytes bytes)

def fetchDistance (program : Image) : Exec σ π Int16 := do
  let bytes ← take program Width.w16.bytes
  pure (Instruction.wordOfBytes bytes).toInt16

/-- Reads a text up to the next zero byte and moves past that byte, which is not part of the
text. -/
def fetchText (program : Image) : Exec σ π (List UInt8) :=
  fun engine =>
    match program.zeroFrom? engine.pc with
    | some stop =>
      .ok (program.extract engine.pc stop).toList { engine with pc := stop + 1 }
    | none => .error (.targetOutOfBounds engine.pc) engine

end Exec

end Quadstack
