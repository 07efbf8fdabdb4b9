/-!
Numbers as text. The machine writes offsets and codes in lower-case hexadecimal with a least
number of digits, values in decimal, and branch offsets with their sign always shown. No
number is ever cut: a least number of digits only adds zeros in front.
-/

namespace Quadstack.Numeral

/-- The decimal digits of `number`, without leading zeros. -/
def decimal (number : Nat) : String :=
  String.ofList (Nat.toDigits 10 number)

/-- The hexadecimal digits of `number`, at least `least` of them. -/
def hex (least number : Nat) : String :=
  String.ofList ((Nat.toDigits 16 number).leftpad least '0')

/-- Hexadecimal with the mark `0x` in front of the digits. -/
def marked (least number : Nat) : String :=
  "0x" ++ hex least number

/-- A program offset in a message: four digits or more. -/
def offset (number : Nat) : String := marked 4 number

/-- A twelve-bit operation code in a message: three digits or more. -/
def code (number : UInt16) : String := marked 3 number.toNat

/-- A decimal number that shows its sign also when it is not negative. -/
def signed (number : Int) : String :=
  (if number < 0 then "-" else "+") ++ decimal number.natAbs

/-- One byte as two hexadecimal digits. -/
def byte (value : UInt8) : String := hex 2 value.toNat

end Quadstack.Numeral
