import Quadstack.Text.ExtendingMark
import Quadstack.Text.Unprintable

/-!
Text in double quotes, on one line. The quote, the backslash and the common controls have short
escapes; a character that would not show, or would merge with its neighbour, is written
by its number. All else stands as it is. Since a line break is always escaped, a quoted text
never spreads over two lines, and since quote and backslash are always escaped, its end
can be found again.
-/

namespace Quadstack.Text.Quoted

/-- The letter that follows the backslash in a short escape. -/
def shortEscape? (character : Char) : Option Char :=
  if character = Char.ofNat 0 then some '0'
  else if character = '\t' then some 't'
  else if character = '\n' then some 'n'
  else if character = '\r' then some 'r'
  else if character = '"' then some '"'
  else if character = '\\' then some '\\'
  else none

/-- An escape by number: a backslash, the letter u, and the code point in braces. -/
def numberEscape (character : Char) : List Char :=
  '\\' :: 'u' :: Char.ofNat 0x7b :: (Nat.toDigits 16 character.toNat ++ [Char.ofNat 0x7d])

/-- How one character is written between the quotes. -/
def escape (character : Char) : List Char :=
  match shortEscape? character with
  | some letter => ['\\', letter]
  | none =>
    if isExtendingMark character || isUnprintable character then numberEscape character
    else [character]

/-- The characters, escaped, between two quotes. -/
def quote (characters : List Char) : List Char :=
  '"' :: (characters.flatMap escape ++ ['"'])

end Quadstack.Text.Quoted
