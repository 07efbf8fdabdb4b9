import Mathlib
import Quadstack.Proofs.Image.Reading
import Quadstack.Proofs.Stack.ByteLists

/-!
Instructions as bytes, there and back. An image is written by one part of the system and read by
another, and neither knows of the other: words are packed and taken apart, literals are cut to their
width and put together, a text is ended by a zero byte that is looked for. Here the two sides are
brought together, first for words, then for operands, then for a whole instruction, and each
time in both directions: what was written is read, and what was read is what stood there.

A wrong length anywhere would let the reader go astray for good, so everything is said with what
follows in the image.
-/

namespace Quadstack

/-! ### Numbers -/

theorem LittleEndian.decode_encode (count value : Nat) :
    decode (encode count value) = value % 256 ^ count := by
  induction count generalizing value with
  | zero => rw [encode, decode, pow_zero, Nat.mod_one]
  | succ count inductionHypothesis =>
    have low : (UInt8.ofNat value).toNat = value % 256 := UInt8.toNat_ofNat'
    rw [encode, decode, inductionHypothesis, low, Nat.pow_succ', Nat.mod_mul]

/-! ### Words -/

namespace Instruction

theorem wordOfBytes_wordToBytes (word : UInt16) : wordOfBytes (wordToBytes word) = word := by
  have small : word.toNat < 256 ^ wordBytes := word.toNat_lt
  rw [wordOfBytes, wordToBytes, LittleEndian.decode_encode, Nat.mod_eq_of_lt small,
    UInt16.ofNat_toNat]

theorem wordToBytes_wordOfBytes {bytes : List UInt8} (two : bytes.length = wordBytes) :
    wordToBytes (wordOfBytes bytes) = bytes := by
  have small : LittleEndian.decode bytes < 256 ^ wordBytes := two ▸ LittleEndian.decode_lt bytes
  rw [wordToBytes, wordOfBytes, UInt16.toNat_ofNat_of_lt' small, ← two,
    LittleEndian.encode_decode]

theorem length_toBytes (instruction : Instruction) : instruction.toBytes.length = wordBytes :=
  LittleEndian.length_encode _ _

/-- The fields of a word as places of a number. -/
theorem toNat_decode (word : UInt16) :
    (decode word).code.toNat = word.toNat / 16 ∧
      (decode word).source.toNat = word.toNat / 4 % 4 ∧
      (decode word).destination.toNat = word.toNat % 4 := by
  have low (number : Nat) : number &&& 3 = number % 4 := Nat.and_two_pow_sub_one_eq_mod number 2
  refine ⟨?_, ?_, ?_⟩
  · simp [decode, Nat.shiftRight_eq_div_pow]
  · simp [decode, Nat.shiftRight_eq_div_pow, low]
  · simp [decode, low]

/-- Packing beside one another is adding. -/
theorem or_places {high low : Nat} (width : Nat) (small : low < 2 ^ width) :
    high <<< width ||| low = 2 ^ width * high + low := by
  rw [← Nat.shiftLeft_add_eq_or_of_lt small, Nat.shiftLeft_eq, Nat.mul_comm]

/-- A word as a number with the fields for places; bits that have no room in it are dropped. -/
theorem toNat_encode (instruction : Instruction) :
    instruction.encode.toNat = 16 * (instruction.code.toNat % 4096) +
      4 * (instruction.source.toNat % 4) + instruction.destination.toNat % 4 := by
  have code : (instruction.code &&& 0xfff).toNat = instruction.code.toNat % 4096 := by
    rw [UInt16.toNat_and]
    exact Nat.and_two_pow_sub_one_eq_mod _ 12
  have low (field : UInt8) : (field.toUInt16 &&& 3).toNat = field.toNat % 4 := by
    rw [UInt16.toNat_and, UInt8.toNat_toUInt16]
    exact Nat.and_two_pow_sub_one_eq_mod _ 2
  have codePlace : ((instruction.code &&& 0xfff) <<< 4).toNat =
      (instruction.code.toNat % 4096) <<< 4 := by
    rw [UInt16.toNat_shiftLeft, code]
    simp only [Nat.shiftLeft_eq]
    exact Nat.mod_eq_of_lt (show instruction.code.toNat % 4096 * 16 < 65536 by omega)
  have sourcePlace : ((instruction.source.toUInt16 &&& 3) <<< 2).toNat =
      (instruction.source.toNat % 4) <<< 2 := by
    rw [UInt16.toNat_shiftLeft, low]
    simp only [Nat.shiftLeft_eq]
    exact Nat.mod_eq_of_lt (show instruction.source.toNat % 4 * 4 < 65536 by omega)
  have destination : instruction.destination.toNat % 4 < 2 ^ 2 := Nat.mod_lt _ (by decide)
  rw [encode, UInt16.toNat_or, UInt16.toNat_or, codePlace, sourcePlace, low, Nat.or_assoc,
    or_places 2 destination, or_places 4 (by omega)]
  omega

/-- Every word is made up of its fields. -/
theorem encode_decode (word : UInt16) : (decode word).encode = word := by
  obtain ⟨code, source, destination⟩ := toNat_decode word
  have small : word.toNat < 65536 := word.toNat_lt
  apply UInt16.toNat_inj.mp
  rw [toNat_encode, code, source, destination]
  omega

/-- Fields that fit are read as they were packed. -/
theorem decode_encode {instruction : Instruction} (code : instruction.code.toNat < 4096)
    (source : instruction.source.toNat < 4) (destination : instruction.destination.toNat < 4) :
    decode instruction.encode = instruction := by
  obtain ⟨readCode, readSource, readDestination⟩ := toNat_decode instruction.encode
  rw [toNat_encode] at readCode readSource readDestination
  show Instruction.mk (decode _).code (decode _).source (decode _).destination = _
  rw [UInt16.toNat_inj.mp (readCode.trans _), UInt8.toNat_inj.mp (readSource.trans _),
    UInt8.toNat_inj.mp (readDestination.trans _)]
  · omega
  · omega
  · omega

theorem toNat_code_lt (opcode : Opcode) : opcode.code.toNat < 4096 := by
  have everyRow : ∀ entry ∈ Opcode.all, entry.code.toNat < 4096 := by decide +kernel
  exact everyRow opcode opcode.mem_all

/-- The stack that a selector names, as a field of a word. -/
theorem toNat_and_three (selector : UInt8) : (selector &&& 3).toNat = selector.toNat % 4 := by
  rw [UInt8.toNat_and]
  exact Nat.and_two_pow_sub_one_eq_mod _ 2

theorem decode_encode_ofOpcode (opcode : Opcode) (source destination : UInt8) :
    decode (ofOpcode opcode source destination).encode = ofOpcode opcode source destination := by
  refine decode_encode (toNat_code_lt opcode) ?_ ?_
  · exact (toNat_and_three source).trans_lt (Nat.mod_lt _ (by decide))
  · exact (toNat_and_three destination).trans_lt (Nat.mod_lt _ (by decide))

end Instruction

/-! ### Operands -/

namespace Width

theorem toBytes_ofBytes {width : Width} {bytes : List UInt8} (length : bytes.length = width.bytes) :
    width.toBytes (ofBytes bytes) = bytes := by
  have short : bytes.length ≤ 4 := length ▸ width.bytes_le_four
  rw [toBytes, toNat_ofBytes bytes short, ← LittleEndian.decode_eq_spelled, ← length,
    LittleEndian.encode_decode]

theorem ofBytes_toBytes {width : Width} {value : UInt32}
    (fits : value.toNat < 256 ^ width.bytes) : ofBytes (width.toBytes value) = value := by
  rw [ofBytes, toBytes, LittleEndian.decode_encode, Nat.mod_eq_of_lt fits, UInt32.ofNat_toNat]

end Width

namespace Listing

namespace Operand

/-- The bytes of an operand in an image. -/
def toBytes : Operand → List UInt8
  | .absent => []
  | .literal width value => width.toBytes value
  | .offset distance => Emission.distanceToBytes distance
  | .text bytes => bytes ++ [0]

/-- An operand that has a form in an image: a literal as wide as it says, and a text that ends only
where its zero byte stands. -/
def Fits : Operand → Prop
  | .literal width value => value.toNat < 256 ^ width.bytes
  | .text bytes => 0 ∉ bytes
  | _ => True

theorem length_toBytes (operand : Operand) : operand.toBytes.length = operand.size := by
  cases operand with
  | absent => rfl
  | literal width value => exact width.length_toBytes value
  | offset distance => exact LittleEndian.length_encode _ _
  | text bytes => exact List.length_append

end Operand

theorem takeExactly?_append {front : List UInt8} {count : Nat} (length : front.length = count)
    (rest : List UInt8) : takeExactly? count (front ++ rest) = some front := by
  unfold takeExactly?
  rw [List.take_left' length]
  exact if_pos length

theorem takeExactly?_eq_some {count : Nat} {bytes taken : List UInt8}
    (read : takeExactly? count bytes = some taken) :
    taken.length = count ∧ bytes = taken ++ bytes.drop count := by
  unfold takeExactly? at read
  dsimp only at read
  split at read
  · rename_i enough
    cases read
    exact ⟨enough, (List.take_append_drop count bytes).symm⟩
  · cases read

/-- An operand is read as it was written, and no further. -/
theorem readOperand?_toBytes {operand : Operand} (fits : operand.Fits) (rest : List UInt8) :
    readOperand? operand.kind (operand.toBytes ++ rest) = some (operand, operand.size) := by
  cases operand with
  | absent => rfl
  | literal width value =>
    show (takeExactly? width.bytes (width.toBytes value ++ rest)).map _ = _
    rw [takeExactly?_append (width.length_toBytes value), Option.map_some,
      Width.ofBytes_toBytes fits]
    rfl
  | offset distance =>
    have word : Instruction.wordOfBytes (Emission.distanceToBytes distance) = distance.toUInt16 :=
      Instruction.wordOfBytes_wordToBytes _
    have length : (Emission.distanceToBytes distance).length = 2 := LittleEndian.length_encode _ _
    rw [Operand.kind, Operand.toBytes, readOperand?, takeExactly?_append length, Option.map_some,
      word]
    rfl
  | text bytes =>
    have place : (bytes ++ [0] ++ rest).findIdx? (· == 0) = some bytes.length := by
      have before : bytes.findIdx? (· == 0) = none := by
        rw [List.findIdx?_eq_none_iff]
        rintro byte member
        exact beq_eq_false_iff_ne.mpr fun zero => fits (zero ▸ member)
      rw [List.append_assoc, List.findIdx?_append, before, Option.none_or, List.singleton_append,
        List.findIdx?_cons, if_pos (beq_self_eq_true 0), Option.map_some, Nat.zero_add]
    rw [Operand.kind, Operand.toBytes, readOperand?, place, Option.map_some, List.append_assoc,
      List.take_left]
    rfl

/-- What was read as an operand is what stood there. -/
theorem readOperand?_eq_some {kind : Option InlineOperand} {bytes : List UInt8} {operand : Operand}
    {size : Nat} (read : readOperand? kind bytes = some (operand, size)) :
    operand.kind = kind ∧ operand.Fits ∧ operand.size = size ∧
      bytes = operand.toBytes ++ bytes.drop size := by
  cases kind with
  | none =>
    cases read
    exact ⟨rfl, trivial, rfl, rfl⟩
  | some kind =>
    cases kind with
    | literal width =>
      obtain ⟨taken, front, same⟩ := Option.map_eq_some_iff.mp read
      obtain ⟨rfl, rfl⟩ := Prod.mk.inj same
      obtain ⟨length, split⟩ := takeExactly?_eq_some front
      refine ⟨rfl, ?_, rfl, ?_⟩
      · show (Width.ofBytes taken).toNat < _
        rw [Width.toNat_ofBytes taken (length ▸ width.bytes_le_four),
          ← LittleEndian.decode_eq_spelled, ← length]
        exact LittleEndian.decode_lt taken
      · rw [Operand.toBytes, Width.toBytes_ofBytes length]
        exact split
    | offset =>
      obtain ⟨taken, front, same⟩ := Option.map_eq_some_iff.mp read
      obtain ⟨rfl, rfl⟩ := Prod.mk.inj same
      obtain ⟨length, split⟩ := takeExactly?_eq_some front
      have written : Emission.distanceToBytes (Instruction.wordOfBytes taken).toInt16 = taken :=
        Instruction.wordToBytes_wordOfBytes length
      refine ⟨rfl, trivial, rfl, ?_⟩
      rw [Operand.toBytes, written]
      exact split
    | text =>
      obtain ⟨length, place, same⟩ := Option.map_eq_some_iff.mp read
      obtain ⟨rfl, rfl⟩ := Prod.mk.inj same
      obtain ⟨before, zero, earlier⟩ := List.findIdx?_eq_some_iff_getElem.mp place
      refine ⟨rfl, ?_, ?_, ?_⟩
      · intro member
        obtain ⟨position, inside, isZero⟩ := List.mem_take_iff_getElem.mp member
        refine earlier position (by omega) ?_
        rw [isZero]
        rfl
      · exact congrArg (· + 1) (List.length_take_of_le before.le)
      · rw [Operand.toBytes, ← beq_iff_eq.mp zero, List.take_append_getElem,
          List.take_append_drop]

/-! ### Whole instructions -/

/-- An instruction with an operand that has a form in an image: its fields fit in a word, and the
operand is of the kind that the instruction calls for. -/
structure WellFormed (instruction : Instruction) (operand : Operand) : Prop where
  word : Instruction.decode instruction.encode = instruction
  kind : operand.kind = instruction.operation.inlineOperand?
  fits : operand.Fits

/-- An instruction that was written is listed in one line, and the lines after it are those of what
follows. -/
theorem WellFormed.sweepFrom {instruction : Instruction} {operand : Operand}
    (wellFormed : WellFormed instruction operand) (start : Nat) (rest : List UInt8) :
    sweepFrom start (instruction.toBytes ++ operand.toBytes ++ rest) =
      .whole start instruction operand ::
        Listing.sweepFrom (start + Instruction.wordBytes + operand.size) rest := by
  obtain ⟨low, high, word⟩ := List.length_eq_two.mp instruction.length_toBytes
  have decoded : Instruction.decode (Instruction.wordOfBytes [low, high]) = instruction := by
    rw [← word, Instruction.toBytes, Instruction.wordOfBytes_wordToBytes, wellFormed.word]
  have read := readOperand?_toBytes wellFormed.fits rest
  rw [wellFormed.kind] at read
  -- The operand takes exactly its own bytes, so that the sweep goes on where the rest begins.
  rw [word, List.append_assoc, List.cons_append, List.singleton_append, Listing.sweepFrom]
  simp only [decoded, read, List.drop_left' operand.length_toBytes]

namespace Line

/-- Whether the line shows a whole instruction. -/
def isWhole : Line → Bool
  | .whole _ _ _ => true
  | _ => false

/-- The bytes that a line shows in full. -/
def toBytes : Line → List UInt8
  | .whole _ instruction operand => instruction.toBytes ++ operand.toBytes
  | _ => []

end Line

/-- If no line is cut off, the bytes that the lines show are all the bytes there are. -/
theorem toBytes_sweepFrom {start : Nat} {bytes : List UInt8}
    (whole : ∀ line ∈ sweepFrom start bytes, line.isWhole = true) :
    (sweepFrom start bytes).flatMap Line.toBytes = bytes := by
  fun_induction sweepFrom start bytes with
  | case1 start => rfl
  | case2 start byte => cases whole _ (List.mem_singleton_self _)
  | case3 start low high rest instruction cut => cases whole _ (List.mem_singleton_self _)
  | case4 start low high rest instruction operand size read inductionHypothesis =>
    obtain ⟨_, _, _, split⟩ := readOperand?_eq_some read
    have word : instruction.toBytes = [low, high] := by
      rw [Instruction.toBytes, Instruction.encode_decode, Instruction.wordToBytes_wordOfBytes rfl]
    rw [List.flatMap_cons, inductionHypothesis fun line later => whole line (.tail _ later)]
    show instruction.toBytes ++ operand.toBytes ++ rest.drop size = _
    rw [word, List.append_assoc, ← split]
    rfl

/-- What a line shows in full can be written. -/
theorem wellFormed_of_mem_sweepFrom {start place : Nat} {bytes : List UInt8}
    {instruction : Instruction} {operand : Operand}
    (member : .whole place instruction operand ∈ sweepFrom start bytes) :
    WellFormed instruction operand := by
  fun_induction sweepFrom start bytes with
  | case1 start => cases member
  | case2 start byte => cases List.mem_singleton.mp member
  | case3 start low high rest found cut => cases List.mem_singleton.mp member
  | case4 start low high rest found foundOperand size read inductionHypothesis =>
    rcases List.mem_cons.mp member with here | later
    · obtain ⟨kind, fits, _, _⟩ := readOperand?_eq_some read
      obtain ⟨_, same, rfl⟩ := Line.whole.inj here
      rw [same]
      exact ⟨congrArg Instruction.decode (Instruction.encode_decode _), kind, fits⟩
    · exact inductionHypothesis later

end Listing

end Quadstack
