import Mathlib
import Quadstack.Text.Utf8

/-!
Bytes that are UTF-8 after all. The reader of `Text.Utf8` has a replacement for every part that is
no character, so from what it gives alone nobody can tell which bytes were there. On the encoding of
characters it replaces nothing: it gives these characters back. So two texts in UTF-8 that read the
same are the same bytes.
-/

namespace Quadstack.Text.Utf8

variable {bits six : Nat} {next second : ByteRange} {later : List ByteRange} {rest : List UInt8}

/-! ### One byte of a character -/

/-- All bytes after the first carry six bits above a mark. -/
theorem toNat_follower (few : six < 64) : (UInt8.ofNat (six + 128)).toNat = six + 128 :=
  UInt8.toNat_ofNat_of_lt' (show six + 128 < 256 by omega)

theorem ByteRange.contains_follower {range : ByteRange} (few : six < 64)
    (above : range.low.toNat ≤ six + 128) (below : six + 128 ≤ range.high.toNat) :
    range.contains (UInt8.ofNat (six + 128)) = true := by
  rw [contains, Bool.and_eq_true, decide_eq_true_iff, decide_eq_true_iff, UInt8.le_iff_toNat_le,
    UInt8.le_iff_toNat_le, toNat_follower few]
  exact ⟨above, below⟩

theorem continuation_contains (few : six < 64) :
    continuation.contains (UInt8.ofNat (six + 128)) = true :=
  ByteRange.contains_follower few (show 128 ≤ six + 128 by omega) (show six + 128 ≤ 191 by omega)

/-- A byte in its range adds six bits, and more bytes are to come. -/
theorem decodeFrom_inner (few : six < 64)
    (inside : next.contains (UInt8.ofNat (six + 128)) = true) :
    decodeFrom (some ⟨bits, next, second :: later⟩) (UInt8.ofNat (six + 128) :: rest) =
      decodeFrom (some ⟨64 * bits + six, second, later⟩) rest := by
  simp only [decodeFrom, Pending.accept, inside, toNat_follower few, Nat.add_sub_cancel, if_true,
    List.nil_append]

/-- The last byte of a character completes it. -/
theorem decodeFrom_last (few : six < 64)
    (inside : next.contains (UInt8.ofNat (six + 128)) = true) :
    decodeFrom (some ⟨bits, next, []⟩) (UInt8.ofNat (six + 128) :: rest) =
      Char.ofNat (64 * bits + six) :: decodeFrom none rest := by
  simp only [decodeFrom, Pending.accept, inside, toNat_follower few, Nat.add_sub_cancel, if_true,
    List.singleton_append]

/-- A byte that is a character of its own. -/
theorem decodeFrom_single {number : Nat} (small : number < 128) :
    decodeFrom none (UInt8.ofNat number :: rest) = Char.ofNat number :: decodeFrom none rest := by
  have byte : (UInt8.ofNat number).toNat = number :=
    UInt8.toNat_ofNat_of_lt' (small.trans (by decide))
  rw [decodeFrom, start]
  simp only [byte]
  rw [if_pos small]
  rfl

/-- The first of two bytes. The bits that it cannot have would be an overlong form. -/
theorem decodeFrom_firstOfTwo (long : 2 ≤ bits) (few : bits < 32) :
    decodeFrom none (UInt8.ofNat (bits + 192) :: rest) =
      decodeFrom (some ⟨bits, continuation, []⟩) rest := by
  have byte : (UInt8.ofNat (bits + 192)).toNat = bits + 192 :=
    UInt8.toNat_ofNat_of_lt' (show bits + 192 < 256 by omega)
  rw [decodeFrom, start]
  simp only [byte]
  rw [if_neg (by omega), if_neg (by omega), if_pos (by omega), Nat.add_sub_cancel]
  rfl

/-- The first of three bytes leaves room for every second byte but those of overlong forms and of
surrogates. -/
theorem decodeFrom_firstOfThree (bits six : Nat) (rest : List UInt8) (few : bits < 16)
    (small : six < 64) (long : 32 ≤ 64 * bits + six)
    (scalar : 64 * bits + six < 864 ∨ 896 ≤ 64 * bits + six) :
    ∃ second, second.contains (UInt8.ofNat (six + 128)) = true ∧
      decodeFrom none (UInt8.ofNat (bits + 224) :: rest) =
        decodeFrom (some ⟨bits, second, [continuation]⟩) rest := by
  have byte : (UInt8.ofNat (bits + 224)).toNat = bits + 224 :=
    UInt8.toNat_ofNat_of_lt' (show bits + 224 < 256 by omega)
  refine ⟨if bits = 0 then ⟨0xa0, 0xbf⟩ else if bits = 13 then ⟨0x80, 0x9f⟩ else continuation,
    ?_, ?_⟩
  · split_ifs with lowest beforeSurrogates
    · exact ByteRange.contains_follower small (show 160 ≤ six + 128 by omega)
        (show six + 128 ≤ 191 by omega)
    · exact ByteRange.contains_follower small (show 128 ≤ six + 128 by omega)
        (show six + 128 ≤ 159 by omega)
    · exact continuation_contains small
  · rw [decodeFrom, start]
    simp only [byte, Nat.reduceEqDiff, Nat.add_eq_right, Nat.add_sub_cancel]
    rw [if_neg (by omega), if_neg (by omega), if_neg (by omega), if_pos (by omega)]
    rfl

/-- The first of four bytes leaves room for every second byte but those of overlong forms and of
numbers past the last code point. -/
theorem decodeFrom_firstOfFour (bits six : Nat) (rest : List UInt8) (small : six < 64)
    (long : 16 ≤ 64 * bits + six) (inside : 64 * bits + six < 272) :
    ∃ second, second.contains (UInt8.ofNat (six + 128)) = true ∧
      decodeFrom none (UInt8.ofNat (bits + 240) :: rest) =
        decodeFrom (some ⟨bits, second, [continuation, continuation]⟩) rest := by
  have byte : (UInt8.ofNat (bits + 240)).toNat = bits + 240 :=
    UInt8.toNat_ofNat_of_lt' (show bits + 240 < 256 by omega)
  refine ⟨if bits = 0 then ⟨0x90, 0xbf⟩ else if bits = 4 then ⟨0x80, 0x8f⟩ else continuation,
    ?_, ?_⟩
  · split_ifs with lowest highest
    · exact ByteRange.contains_follower small (show 144 ≤ six + 128 by omega)
        (show six + 128 ≤ 191 by omega)
    · exact ByteRange.contains_follower small (show 128 ≤ six + 128 by omega)
        (show six + 128 ≤ 143 by omega)
    · exact continuation_contains small
  · rw [decodeFrom, start]
    simp only [byte, Nat.reduceEqDiff, Nat.add_eq_right, Nat.add_sub_cancel]
    rw [if_neg (by omega), if_neg (by omega), if_neg (by omega), if_neg (by omega),
      if_pos (by omega)]
    rfl

/-! ### Whole characters -/

/-- The bytes of one character are read as that character, whatever follows. -/
theorem decodeFrom_utf8EncodeChar (character : Char) (rest : List UInt8) :
    decodeFrom none (String.utf8EncodeChar character ++ rest) =
      character :: decodeFrom none rest := by
  have scalar : character.toNat < 0xd800 ∨ 0xdfff < character.toNat ∧ character.toNat < 0x110000 :=
    character.valid
  unfold String.utf8EncodeChar
  rw [Char.toNat_val]
  generalize value : character.toNat = number at scalar
  obtain rfl : character = Char.ofNat number := by rw [← value, Char.ofNat_toNat]
  dsimp only
  -- One case for each length; a surrogate, which `scalar` leaves out, would have three bytes.
  split_ifs with one two three
  · exact decodeFrom_single (Nat.lt_succ_of_le one)
  · have joined : 64 * (number / 64 % 32) + number % 64 = number := by omega
    rw [List.cons_append, List.singleton_append, decodeFrom_firstOfTwo (by omega) (by omega),
      decodeFrom_last (by omega) (continuation_contains (by omega)), joined]
  · have joined : 64 * (64 * (number / 4096 % 16) + number / 64 % 64) + number % 64 = number := by
      omega
    obtain ⟨second, inside, first⟩ := decodeFrom_firstOfThree (number / 4096 % 16)
      (number / 64 % 64)
      (UInt8.ofNat (number / 64 % 64 + 128) :: UInt8.ofNat (number % 64 + 128) :: rest)
      (by omega) (by omega) (by omega) (by omega)
    rw [List.cons_append, List.cons_append, List.singleton_append, first,
      decodeFrom_inner (by omega) inside,
      decodeFrom_last (by omega) (continuation_contains (by omega)), joined]
  · have joined : 64 * (64 * (64 * (number / 262144 % 8) + number / 4096 % 64) +
        number / 64 % 64) + number % 64 = number := by omega
    obtain ⟨second, inside, first⟩ := decodeFrom_firstOfFour (number / 262144 % 8)
      (number / 4096 % 64)
      (UInt8.ofNat (number / 4096 % 64 + 128) :: UInt8.ofNat (number / 64 % 64 + 128) ::
        UInt8.ofNat (number % 64 + 128) :: rest)
      (by omega) (by omega) (by omega)
    rw [List.cons_append, List.cons_append, List.cons_append, List.singleton_append, first,
      decodeFrom_inner (by omega) inside,
      decodeFrom_inner (by omega) (continuation_contains (by omega)),
      decodeFrom_last (by omega) (continuation_contains (by omega)), joined]

/-- What was encoded is read back. -/
theorem decode_flatMap (characters : List Char) :
    decode (characters.flatMap String.utf8EncodeChar) = characters := by
  induction characters with
  | nil => rfl
  | cons character rest inductionHypothesis =>
    rw [List.flatMap_cons, decode, decodeFrom_utf8EncodeChar]
    exact congrArg _ inductionHypothesis

/-- Among texts in UTF-8, those that read the same are the same bytes. -/
theorem eq_of_decode_eq {first second : List UInt8} (valid : first.toByteArray.IsValidUTF8)
    (alsoValid : second.toByteArray.IsValidUTF8) (same : decode first = decode second) :
    first = second := by
  have encoded {bytes : List UInt8} (valid : bytes.toByteArray.IsValidUTF8) :
      (decode bytes).flatMap String.utf8EncodeChar = bytes := by
    obtain ⟨characters, written⟩ := valid
    have bytes_eq : bytes = characters.flatMap String.utf8EncodeChar := by
      have data := congrArg ByteArray.data written
      rw [List.utf8Encode, List.data_toByteArray, List.data_toByteArray] at data
      exact List.toArray_inj data
    rw [bytes_eq, decode_flatMap]
  rw [← encoded valid, same, encoded alsoValid]

theorem toList_toUTF8 (text : String) :
    text.toUTF8.data.toList = text.toList.flatMap String.utf8EncodeChar := by
  rw [String.toUTF8_eq_toByteArray, ← String.utf8Encode_toList, List.utf8Encode,
    List.data_toByteArray, List.toList_toArray]

/-- The text of a string is read back from its bytes. -/
theorem decode_toUTF8 (text : String) : decode text.toUTF8.data.toList = text.toList := by
  rw [toList_toUTF8, decode_flatMap]

/-- Only the zero character has a zero byte. -/
theorem zero_notMem_utf8EncodeChar {character : Char} (nonzero : character ≠ Char.ofNat 0) :
    0 ∉ String.utf8EncodeChar character := by
  have positive : character.toNat ≠ 0 := fun zero => by
    rw [← character.ofNat_toNat, zero] at nonzero
    exact nonzero rfl
  have marked {number : Nat} (small : number < 256) (positive : number ≠ 0) :
      0 ≠ UInt8.ofNat number := fun zero => by
    have none := congrArg UInt8.toNat zero
    rw [UInt8.toNat_ofNat_of_lt' small] at none
    exact positive none.symm
  unfold String.utf8EncodeChar
  rw [Char.toNat_val]
  dsimp only
  split_ifs with one two three <;> simp only [List.mem_cons, List.not_mem_nil, or_false, not_or]
  · exact marked (by omega) positive
  · exact ⟨marked (by omega) (by omega), marked (by omega) (by omega)⟩
  · exact ⟨marked (by omega) (by omega), marked (by omega) (by omega), marked (by omega) (by omega)⟩
  · exact ⟨marked (by omega) (by omega), marked (by omega) (by omega), marked (by omega) (by omega),
      marked (by omega) (by omega)⟩

theorem zero_notMem_toUTF8 {text : String} (nonzero : Char.ofNat 0 ∉ text.toList) :
    0 ∉ text.toUTF8.data.toList := by
  rw [toList_toUTF8]
  intro member
  obtain ⟨character, present, zero⟩ := List.mem_flatMap.mp member
  refine zero_notMem_utf8EncodeChar (fun isZero => nonzero ?_) zero
  rwa [← isZero]

end Quadstack.Text.Utf8
