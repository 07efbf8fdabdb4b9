import Quadstack.Word.Overwrite

/-!
A stack of bytes in a fixed store. The pointer splits the store: the cells below it are live, and
the cells above it keep whatever was last written there. Taking bytes off only moves the
pointer, so two stacks that hold the same live bytes may still differ in what they have
forgotten. That the pointer stays inside the store is part of the type.
-/

namespace Quadstack

/-- How many bytes a stack holds at most. -/
def ByteStack.capacity : Nat := 1024

/-- A store of bytes and how many of them are live. -/
structure ByteStack where
  cells : Vector UInt8 ByteStack.capacity
  pointer : Nat
  pointer_le : pointer ≤ ByteStack.capacity
deriving DecidableEq

namespace ByteStack

/-- A stack that never held anything. -/
def empty : ByteStack where
  cells := Vector.replicate capacity 0
  pointer := 0
  pointer_le := Nat.zero_le _

/-- The live bytes, bottom first. -/
def live (stack : ByteStack) : List UInt8 :=
  (stack.cells.toArray.extract 0 stack.pointer).toList

/-- Puts bytes on top, unless they do not all fit. -/
def append? (stack : ByteStack) (bytes : List UInt8) : Option ByteStack :=
  if fits : stack.pointer + bytes.length ≤ capacity then
    some {
      cells := ⟨overwrite stack.cells.toArray stack.pointer bytes, by simp⟩
      pointer := stack.pointer + bytes.length
      pointer_le := fits }
  else none

/-- The `count` bytes that end `depth` bytes below the top, unless they reach below the bottom. -/
def read? (stack : ByteStack) (count depth : Nat) : Option (List UInt8) :=
  if depth + count ≤ stack.pointer then
    let base := stack.pointer - (depth + count)
    some (stack.cells.toArray.extract base (base + count)).toList
  else none

/-- Takes `count` bytes off the top; the cells keep them. -/
def lower (stack : ByteStack) (count : Nat) : ByteStack where
  cells := stack.cells
  pointer := stack.pointer - count
  pointer_le := Nat.le_trans (Nat.sub_le _ _) stack.pointer_le

/-- Takes everything off; the cells keep it. -/
def clear (stack : ByteStack) : ByteStack where
  cells := stack.cells
  pointer := 0
  pointer_le := Nat.zero_le _

end ByteStack

end Quadstack
