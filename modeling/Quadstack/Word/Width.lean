import Quadstack.Word.LittleEndian

/-!
Operand widths. A stack holds untyped bytes: how many of them a value takes comes from
the instruction that moves it. Between two stack accesses every value travels as a 32-bit
word, and a width says which of its bits count and how they are read as a signed number.
-/

namespace Quadstack

/-- The size of a stack operand or of an inline literal. -/
inductive Width where
  | w8
  | w16
  | w32
deriving DecidableEq

namespace Width

/-- Jump targets, call targets and return addresses are 32-bit values. -/
def address : Width := .w32

/-- How many bytes a value of this width takes on a stack or in a program. -/
def bytes : Width → Nat
  | .w8 => 1
  | .w16 => 2
  | .w32 => 4

def bits (width : Width) : Nat := 8 * width.bytes

/-- The word whose bits at this width are all set. -/
def mask : Width → UInt32
  | .w8 => 0xff
  | .w16 => 0xffff
  | .w32 => 0xffffffff

/-- The word that has only the highest bit of this width set. -/
def signBit : Width → UInt32
  | .w8 => 0x80
  | .w16 => 0x8000
  | .w32 => 0x80000000

/-- Clears every bit above the width. -/
def truncate (width : Width) (value : UInt32) : UInt32 :=
  value &&& width.mask

/-- The two's complement reading of the low bits of `value`. -/
def signExtend (width : Width) (value : UInt32) : Int32 :=
  match width with
  | .w8 => value.toUInt8.toInt8.toInt32
  | .w16 => value.toUInt16.toInt16.toInt32
  | .w32 => value.toInt32

/-- Whether the highest bit of the width is set in `value`. -/
def isNegative (width : Width) (value : UInt32) : Bool :=
  value &&& width.signBit != 0

/-- The bytes of `value` at this width, least significant first; higher bits are dropped. -/
def toBytes (width : Width) (value : UInt32) : List UInt8 :=
  LittleEndian.encode width.bytes value.toNat

/-- The word spelled by at most four bytes, least significant first. -/
def ofBytes (bytes : List UInt8) : UInt32 :=
  UInt32.ofNat (LittleEndian.decode bytes)

/-- The width as it appears inside the text of an operation. -/
def inspect : Width → String
  | .w8 => "W8"
  | .w16 => "W16"
  | .w32 => "W32"

@[simp]
theorem length_toBytes (width : Width) (value : UInt32) :
    (width.toBytes value).length = width.bytes :=
  LittleEndian.length_encode _ _

end Width

end Quadstack
