/-!
Reading bytes as UTF-8 when nothing promises that they are UTF-8. The reader is an automaton
that takes one byte at a time: between characters it holds nothing, and inside a
character it holds the bits read so far and the range that each byte still to come must fall
in. A byte outside its range ends the character at hand, which is replaced, and is then read
afresh; so each longest run of bytes that could still have become a character is replaced
by exactly one replacement character.
-/

namespace Quadstack.Text.Utf8

/-- What stands for bytes that are no character. -/
def replacement : Char := Char.ofNat 0xfffd

/-- The bytes from `low` to `high`, both included. -/
structure ByteRange where
  low : UInt8
  high : UInt8
deriving DecidableEq

def ByteRange.contains (range : ByteRange) (byte : UInt8) : Bool :=
  range.low ≤ byte && byte ≤ range.high

/-- Every byte after the second one of a character lies here, and most second ones. -/
def continuation : ByteRange := ⟨0x80, 0xbf⟩

/-- A character of which the first bytes are read: their bits, and where the next byte and the
ones after it must lie. -/
structure Pending where
  bits : Nat
  next : ByteRange
  later : List ByteRange
deriving DecidableEq

/-- The automaton's state: nothing between two characters. -/
abbrev State := Option Pending

/-- Reads a byte between two characters. The second byte of some characters is confined
further, which leaves out overlong forms, surrogates and numbers past the last
code point. -/
def start (byte : UInt8) : List Char × State :=
  let number := byte.toNat
  if number < 0x80 then ([Char.ofNat number], none)
  else if number < 0xc2 then ([replacement], none)
  else if number < 0xe0 then ([], some ⟨number - 0xc0, continuation, []⟩)
  else if number < 0xf0 then
    let second : ByteRange :=
      if number = 0xe0 then ⟨0xa0, 0xbf⟩ else if number = 0xed then ⟨0x80, 0x9f⟩ else continuation
    ([], some ⟨number - 0xe0, second, [continuation]⟩)
  else if number < 0xf5 then
    let second : ByteRange :=
      if number = 0xf0 then ⟨0x90, 0xbf⟩ else if number = 0xf4 then ⟨0x80, 0x8f⟩ else continuation
    ([], some ⟨number - 0xf0, second, [continuation, continuation]⟩)
  else ([replacement], none)

/-- Reads a byte inside a character. -/
def Pending.accept (pending : Pending) (byte : UInt8) : List Char × State :=
  if pending.next.contains byte then
    let bits := 64 * pending.bits + (byte.toNat - 0x80)
    match pending.later with
    | [] => ([Char.ofNat bits], none)
    | next :: later => ([], some ⟨bits, next, later⟩)
  else
    let (characters, state) := start byte
    (replacement :: characters, state)

/-- Reads `bytes` from the given state on; a character left unfinished is replaced. -/
def decodeFrom : State → List UInt8 → List Char
  | none, [] => []
  | some _, [] => [replacement]
  | none, byte :: rest =>
    let (characters, state) := start byte
    characters ++ decodeFrom state rest
  | some pending, byte :: rest =>
    let (characters, state) := pending.accept byte
    characters ++ decodeFrom state rest

/-- The characters of `bytes`, with every part that is not UTF-8 replaced. -/
def decode (bytes : List UInt8) : List Char :=
  decodeFrom none bytes

end Quadstack.Text.Utf8
