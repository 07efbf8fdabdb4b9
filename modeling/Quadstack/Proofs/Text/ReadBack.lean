import Mathlib
import Quadstack.Text.Numeral
import Quadstack.Text.Quoted

/-!
Reading back what was written. Numbers and quoted texts are only ever written, so there is no reader
of them in the machine. The readers here say that nothing is lost in the writing: a number comes
back from its digits, with or without zeros in front, and a text from between its quotes.
They look at the front of what they are given and leave the rest, since in a line one thing
follows another.
-/

namespace Quadstack

/-! ### Numbers -/

namespace Numeral

/-- The value of a digit. -/
def digitValue (digit : Char) : Nat :=
  if digit.toNat < 'a'.toNat then digit.toNat - '0'.toNat else digit.toNat - 'a'.toNat + 10

/-- The number that digits stand for. -/
def read (base : Nat) (digits : List Char) : Nat :=
  digits.foldl (fun number digit => base * number + digitValue digit) 0

theorem digitValue_digitChar {value : Nat} (small : value < 16) :
    digitValue value.digitChar = value := by
  have everyDigit : ∀ value < 16, digitValue value.digitChar = value := by decide
  exact everyDigit value small

theorem read_toDigits (base number : Nat) (numeral : 1 < base) (small : base ≤ 16) :
    read base (Nat.toDigits base number) = number := by
  induction number using Nat.strongRecOn with
  | ind number inductionHypothesis =>
    rw [Nat.toDigits_eq_if numeral]
    split
    · rename_i single
      rw [read, List.foldl_cons, List.foldl_nil, digitValue_digitChar (single.trans_le small)]
      omega
    · have smaller : number / base < number := Nat.div_lt_self (by omega) numeral
      have digit : number % base < 16 := (Nat.mod_lt _ (by omega)).trans_le small
      have before := inductionHypothesis _ smaller
      rw [read] at before
      rw [read, List.foldl_append, before, List.foldl_cons, List.foldl_nil,
        digitValue_digitChar digit, Nat.div_add_mod]

/-- Zeros in front make no difference. -/
theorem read_leftpad (base least : Nat) (digits : List Char) :
    read base (digits.leftpad least '0') = read base digits := by
  rw [List.leftpad, read, List.foldl_append]
  congr 1
  induction least - digits.length with
  | zero => rfl
  | succ count inductionHypothesis => exact inductionHypothesis

theorem decimal_injective : Function.Injective decimal := by
  intro first second same
  rw [← read_toDigits 10 first (by decide) (by decide), String.ofList_inj.mp same,
    read_toDigits 10 second (by decide) (by decide)]

theorem hex_injective (least : Nat) : Function.Injective (hex least) := by
  intro first second same
  rw [← read_toDigits 16 first (by decide) (by decide), ← read_leftpad 16 least,
    String.ofList_inj.mp same, read_leftpad, read_toDigits 16 second (by decide) (by decide)]

theorem toList_signed (number : Int) :
    (signed number).toList =
      (if number < 0 then '-' else '+') :: Nat.toDigits 10 number.natAbs := by
  rw [signed, String.toList_append, decimal, String.toList_ofList]
  split <;> rfl

theorem signed_injective : Function.Injective signed := by
  intro first second same
  have characters := congrArg String.toList same
  rw [toList_signed, toList_signed] at characters
  obtain ⟨sign, digits⟩ := List.cons.inj characters
  have size : first.natAbs = second.natAbs := decimal_injective (congrArg String.ofList digits)
  split_ifs at sign with below alsoBelow alsoBelow
  · omega
  · cases sign
  · cases sign
  · omega

/-- A numeral holds nothing but digits. -/
theorem notMem_toDigits {character : Char} (other : ∀ value : Nat, value.digitChar ≠ character)
    {base : Nat} (numeral : 1 < base) (number : Nat) : character ∉ Nat.toDigits base number := by
  induction number using Nat.strongRecOn with
  | ind number inductionHypothesis =>
    rw [Nat.toDigits_eq_if numeral]
    split
    · rw [List.mem_singleton]
      exact (other _).symm
    · have smaller : number / base < number := Nat.div_lt_self (by omega) numeral
      rw [List.mem_append, List.mem_singleton]
      exact not_or.mpr ⟨inductionHypothesis _ smaller, (other _).symm⟩

theorem notMem_hex {character : Char} (other : ∀ value : Nat, value.digitChar ≠ character)
    (least number : Nat) : character ∉ (hex least number).toList := by
  rw [hex, String.toList_ofList, List.leftpad, List.mem_append, not_or]
  refine ⟨fun padding => other 0 ?_, notMem_toDigits other (by decide) number⟩
  exact (List.eq_of_mem_replicate padding).symm

end Numeral

/-! ### Quoted text -/

namespace Text.Quoted

/-- The characters that have a short escape. -/
def shortlyEscaped : List Char := [Char.ofNat 0, '\t', '\n', '\r', '"', '\\']

/-- Reads back a character that is written by its number, from the digits on. -/
def unescapeNumber (text : List Char) : Char × List Char :=
  let digits := text.takeWhile (· ≠ Char.ofNat 0x7d)
  (Char.ofNat (Numeral.read 16 digits), text.drop (digits.length + 1))

/-- Reads one character back from the front of what stands between quotes. -/
def unescape? : List Char → Option (Char × List Char)
  | [] => none
  | character :: rest =>
    if character ≠ '\\' then some (character, rest)
    else if rest.head? = some 'u' then some (unescapeNumber (rest.drop 2))
    else
      (shortlyEscaped.find? fun character => shortEscape? character = rest.head?).map
        (·, rest.tail)

theorem mem_shortlyEscaped {character letter : Char}
    (short : shortEscape? character = some letter) : character ∈ shortlyEscaped := by
  by_contra absent
  simp only [shortlyEscaped, List.mem_cons, List.not_mem_nil, or_false, not_or] at absent
  obtain ⟨zero, tab, lineBreak, carriage, mark, slash⟩ := absent
  rw [shortEscape?, if_neg zero, if_neg tab, if_neg lineBreak, if_neg carriage, if_neg mark,
    if_neg slash] at short
  cases short

/-- The letter of a short escape is not the one of an escape by number, and tells the character. -/
theorem shortEscape?_cases {character letter : Char}
    (short : shortEscape? character = some letter) : some letter ≠ some 'u' ∧
      (shortlyEscaped.find? fun other => shortEscape? other = some letter) = some character := by
  have everyShort : ∀ character ∈ shortlyEscaped, shortEscape? character ≠ some 'u' ∧
      (shortlyEscaped.find? fun other => shortEscape? other = shortEscape? character) =
        some character := by simp [shortlyEscaped, shortEscape?]
  have own := everyShort character (mem_shortlyEscaped short)
  rwa [short] at own

theorem unescapeNumber_digits (character : Char) (rest : List Char) :
    unescapeNumber (Nat.toDigits 16 character.toNat ++ Char.ofNat 0x7d :: rest) =
      (character, rest) := by
  have digit (value : Nat) : value.digitChar ≠ Char.ofNat 0x7d := Nat.digitChar_ne _ rfl
  have digits : (Nat.toDigits 16 character.toNat ++ Char.ofNat 0x7d :: rest).takeWhile
      (· ≠ Char.ofNat 0x7d) = Nat.toDigits 16 character.toNat := by
    rw [List.takeWhile_append_of_pos, List.takeWhile_cons_of_neg (by simp), List.append_nil]
    intro other member
    refine decide_eq_true fun closing => ?_
    exact Numeral.notMem_toDigits digit (by decide) _ (closing ▸ member)
  unfold unescapeNumber
  rw [digits]
  dsimp only
  rw [Numeral.read_toDigits _ _ (by decide) (by decide), Char.ofNat_toNat, List.drop_append,
    List.drop_eq_nil_of_le (by omega), Nat.add_sub_cancel_left]
  rfl

theorem unescape?_escape (character : Char) (rest : List Char) :
    unescape? (escape character ++ rest) = some (character, rest) := by
  unfold escape
  split
  · rename_i letter short
    obtain ⟨notNumber, found⟩ := shortEscape?_cases short
    rw [List.cons_append, List.singleton_append, unescape?, List.head?_cons, List.tail_cons,
      if_neg (by decide), if_neg notNumber, found]
    rfl
  · rename_i long
    split
    · have read := unescapeNumber_digits character rest
      rw [numberEscape, List.cons_append, List.cons_append, List.cons_append, List.append_assoc]
      exact congrArg some read
    · have plain : character ≠ '\\' := by
        rintro rfl
        cases long
      exact if_pos plain

/-- No character is written so that it begins with a quote. -/
theorem escape_ne_quote (character : Char) (text rest : List Char) :
    escape character ++ text ≠ '"' :: rest := by
  intro same
  have read := unescape?_escape character text
  rw [same] at read
  obtain ⟨rfl, _⟩ := Prod.mk.inj (Option.some.inj read.symm)
  cases same

theorem quote_injective : Function.Injective quote := by
  intro first second same
  have written := (List.cons.inj same).2
  clear same
  -- Both texts are read from the front, one character at a time. They end together, because the
  -- closing quote cannot be taken for a character.
  induction first generalizing second with
  | nil =>
    cases second with
    | nil => rfl
    | cons character rest =>
      rw [List.flatMap_nil, List.nil_append, List.flatMap_cons, List.append_assoc] at written
      exact absurd written.symm (escape_ne_quote character _ _)
  | cons character rest inductionHypothesis =>
    rw [List.flatMap_cons, List.append_assoc] at written
    have read := unescape?_escape character (rest.flatMap escape ++ ['"'])
    cases second with
    | nil => exact absurd written (escape_ne_quote character _ _)
    | cons other others =>
      rw [written, List.flatMap_cons, List.append_assoc, unescape?_escape] at read
      obtain ⟨rfl, left⟩ := Prod.mk.inj (Option.some.inj read)
      rw [inductionHypothesis left.symm]

end Text.Quoted

end Quadstack
