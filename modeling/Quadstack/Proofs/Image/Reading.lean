import Mathlib
import Quadstack.Image.Listing
import Quadstack.Machine.Fetch

/-!
Two ways of reading an image. The machine reads at an offset and asks each time whether the bytes it
needs are there; a listing takes the bytes that are left apart from the front. Both read the same
operand at the same place, which is here written down once, by the offset alone, and from this the
lines of a listing get their meaning: each line says what stands in the image where it starts, and
the lines follow on one another without a gap, from the first byte to the last or to the one
instruction that the end cuts off.
-/

namespace Quadstack

/-! ### Bytes at an offset -/

namespace Image

/-- What a successful read of bytes says about them. -/
theorem slice?_cases (image : Image) (start count : Nat) :
    (start + count ≤ image.size ∧ ∃ bytes, image.slice? start count = some bytes ∧
        bytes = (image.toList.drop start).take count ∧ bytes.length = count) ∨
      (image.size < start + count ∧ image.slice? start count = none) := by
  by_cases inside : start + count ≤ image.size
  · refine Or.inl ⟨inside, _, if_pos inside, ?_, ?_⟩
    · rw [Array.toList_extract, List.extract_eq_take_drop, Nat.add_sub_cancel_left]
    · rw [Array.length_toList, Array.size_extract]
      omega
  · exact Or.inr ⟨Nat.lt_of_not_le inside, if_neg inside⟩

theorem le_size_of_slice? {image : Image} {start count : Nat} {bytes : List UInt8}
    (read : image.slice? start count = some bytes) : start + count ≤ image.size := by
  rcases slice?_cases image start count with ⟨inside, _⟩ | ⟨_, missing⟩
  · exact inside
  · rw [missing] at read
    cases read

/-- Where the zero byte lies that ends a text. -/
theorem zeroFrom?_eq (image : Image) (start : Nat) :
    image.zeroFrom? start =
      ((image.toList.drop start).findIdx? (· == 0)).map (start + ·) := by
  induction start using Image.zeroFrom?.induct image with
  | case1 start inside zero =>
    have begins : image.toList.drop start = image[start] :: image.toList.drop (start + 1) :=
      List.drop_eq_getElem_cons (by simpa using inside)
    rw [Image.zeroFrom?, dif_pos inside, if_pos zero, begins, List.findIdx?_cons, zero]
    rfl
  | case2 start inside nonzero inductionHypothesis =>
    have begins : image.toList.drop start = image[start] :: image.toList.drop (start + 1) :=
      List.drop_eq_getElem_cons (by simpa using inside)
    have differs : (image[start] == 0) = false := beq_eq_false_iff_ne.mpr nonzero
    rw [Image.zeroFrom?, dif_pos inside, if_neg nonzero, inductionHypothesis, begins,
      List.findIdx?_cons, differs]
    simp only [Bool.false_eq_true, if_false, Option.map_map]
    congr 1
    funext place
    exact (Nat.add_right_comm start 1 place).trans (Nat.add_assoc start place 1)
  | case3 start outside =>
    rw [Image.zeroFrom?, dif_neg outside,
      List.drop_eq_nil_of_le (by simpa using Nat.le_of_not_lt outside)]
    rfl

end Image

/-! ### Operands at an offset -/

namespace Listing.Operand

/-- The kind of operand that was read. -/
def kind : Operand → Option InlineOperand
  | .absent => none
  | .literal width _ => some (.literal width)
  | .offset _ => some .offset
  | .text _ => some .text

/-- How many bytes the operand takes in an image. -/
def size : Operand → Nat
  | .absent => 0
  | .literal width _ => width.bytes
  | .offset _ => Width.w16.bytes
  | .text bytes => bytes.length + 1

end Listing.Operand

/-- The operand of a kind that stands at an offset of an image, if all of it is there. -/
def Image.operandAt? (image : Image) (start : Nat) : Option InlineOperand → Option Listing.Operand
  | none => some .absent
  | some (.literal width) =>
    (image.slice? start width.bytes).map fun bytes => .literal width (Width.ofBytes bytes)
  | some .offset =>
    (image.slice? start Width.w16.bytes).map fun bytes =>
      .offset (Instruction.wordOfBytes bytes).toInt16
  | some .text =>
    (image.zeroFrom? start).map fun stop => .text (image.extract start stop).toList

namespace Image

theorem takeExactly?_drop (image : Image) (start count : Nat) (needed : 0 < count) :
    Listing.takeExactly? count (image.toList.drop start) = image.slice? start count := by
  unfold Listing.takeExactly?
  have length : ((image.toList.drop start).take count).length = min count (image.size - start) := by
    rw [List.length_take, List.length_drop, Array.length_toList]
  rcases slice?_cases image start count with ⟨inside, bytes, read, rfl, _⟩ | ⟨outside, read⟩
  · rw [read]
    exact if_pos (by omega)
  · rw [read]
    exact if_neg (by omega)

/-- A listing reads from the bytes that are left what stands at their offset. -/
theorem readOperand?_drop (image : Image) (start : Nat) (kind : Option InlineOperand) :
    Listing.readOperand? kind (image.toList.drop start) =
      (image.operandAt? start kind).map fun operand => (operand, operand.size) := by
  cases kind with
  | none => rfl
  | some kind =>
    cases kind with
    | literal width =>
      have needed : 0 < width.bytes := by cases width <;> decide
      rw [Listing.readOperand?, takeExactly?_drop image start _ needed, operandAt?, Option.map_map]
      rfl
    | offset =>
      rw [Listing.readOperand?, takeExactly?_drop image start 2 Nat.two_pos, operandAt?,
        Option.map_map]
      rfl
    | text =>
      rw [Listing.readOperand?, operandAt?, zeroFrom?_eq, Option.map_map, Option.map_map]
      cases found : (image.toList.drop start).findIdx? (· == 0) with
      | none => rfl
      | some length =>
        have before := (List.findIdx?_eq_some_iff_getElem.mp found).1
        have text : (image.extract start (start + length)).toList =
            (image.toList.drop start).take length := by
          rw [Array.toList_extract, List.extract_eq_take_drop, Nat.add_sub_cancel_left]
        have measured : ((image.toList.drop start).take length).length = length :=
          List.length_take_of_le before.le
        simp only [Option.map_some, Function.comp_apply, Listing.Operand.size, text, measured]

theorem kind_of_operandAt? {image : Image} {start : Nat} {kind : Option InlineOperand}
    {operand : Listing.Operand} (found : image.operandAt? start kind = some operand) :
    operand.kind = kind := by
  cases kind with
  | none =>
    cases found
    rfl
  | some kind =>
    cases kind with
    | literal width | offset | text =>
      obtain ⟨_, _, rfl⟩ := Option.map_eq_some_iff.mp found
      rfl

/-- An operand that was read ends inside the image. -/
theorem operandAt?_le_size {image : Image} {start : Nat} {kind : Option InlineOperand}
    {operand : Listing.Operand} (begun : start ≤ image.size)
    (found : image.operandAt? start kind = some operand) :
    start + operand.size ≤ image.size := by
  cases kind with
  | none =>
    cases found
    exact begun
  | some kind =>
    cases kind with
    | literal width | offset =>
      obtain ⟨bytes, read, rfl⟩ := Option.map_eq_some_iff.mp found
      exact le_size_of_slice? read
    | text =>
      obtain ⟨stop, ended, rfl⟩ := Option.map_eq_some_iff.mp found
      rw [zeroFrom?_eq] at ended
      obtain ⟨length, place, rfl⟩ := Option.map_eq_some_iff.mp ended
      have before := (List.findIdx?_eq_some_iff_getElem.mp place).1
      rw [List.length_drop, Array.length_toList] at before
      simp only [Listing.Operand.size, Array.length_toList, Array.size_extract]
      omega

end Image

/-! ### The lines of an image -/

namespace Listing

/-- The offset at which a line starts. -/
def Line.start : Line → Nat
  | .whole start _ _ => start
  | .cutOperand start _ => start
  | .cutWord start => start

/-- Lines that follow on one another from an offset on, without a gap, to the end of an image of the
given size. A whole line takes its word and its operand; a line that the end cuts off is the last
and takes what is left. -/
inductive Contiguous (size : Nat) : Nat → List Line → Prop where
  | finished : Contiguous size size []
  | whole {start : Nat} {instruction : Instruction} {operand : Operand} {rest : List Line}
      (onward : Contiguous size (start + Instruction.wordBytes + operand.size) rest) :
      Contiguous size start (.whole start instruction operand :: rest)
  | cutOperand {start : Nat} {instruction : Instruction}
      (inside : start + Instruction.wordBytes ≤ size) :
      Contiguous size start [.cutOperand start instruction]
  | cutWord {start : Nat} (last : start + 1 = size) : Contiguous size start [.cutWord start]

/-- What a line says is what stands in the image where it starts. -/
inductive Line.StandsIn (image : Image) : Line → Prop where
  | whole {start : Nat} {word : List UInt8} {operand : Operand}
      (read : image.slice? start Instruction.wordBytes = some word)
      (followed : image.operandAt? (start + Instruction.wordBytes)
        (Instruction.decode (Instruction.wordOfBytes word)).operation.inlineOperand? =
          some operand) :
      StandsIn image (.whole start (Instruction.decode (Instruction.wordOfBytes word)) operand)
  | cutOperand {start : Nat} {word : List UInt8}
      (read : image.slice? start Instruction.wordBytes = some word)
      (missing : image.operandAt? (start + Instruction.wordBytes)
        (Instruction.decode (Instruction.wordOfBytes word)).operation.inlineOperand? = none) :
      StandsIn image (.cutOperand start (Instruction.decode (Instruction.wordOfBytes word)))
  | cutWord {start : Nat} (last : start + 1 = image.size) : StandsIn image (.cutWord start)

/-- The word at the front of the bytes that are left. -/
theorem word_of_drop {image : Image} {start : Nat} {low high : UInt8} {rest : List UInt8}
    (left : image.toList.drop start = low :: high :: rest) :
    image.slice? start Instruction.wordBytes = some [low, high] ∧
      image.toList.drop (start + Instruction.wordBytes) = rest := by
  have remaining : rest.length + 2 = image.size - start := by
    rw [← Array.length_toList, ← List.length_drop, left, List.length_cons, List.length_cons]
  constructor
  · rcases Image.slice?_cases image start Instruction.wordBytes with
      ⟨_, bytes, read, rfl, _⟩ | ⟨outside, _⟩
    · rw [read, left]
      rfl
    · rw [Instruction.wordBytes] at outside
      omega
  · rw [← List.drop_drop, left]
    rfl

/-- The lines read from an offset on follow on one another and say what stands there. -/
theorem sweepFrom_drop (image : Image) (start : Nat) (begun : start ≤ image.size) :
    Contiguous image.size start (sweepFrom start (image.toList.drop start)) ∧
      ∀ line ∈ sweepFrom start (image.toList.drop start), line.StandsIn image := by
  generalize left : image.toList.drop start = bytes
  have remaining : bytes.length = image.size - start := by
    rw [← left, List.length_drop, Array.length_toList]
  fun_induction sweepFrom start bytes with
  | case1 start =>
    rw [List.length_nil] at remaining
    have finished : start = image.size := by omega
    subst finished
    exact ⟨.finished, fun line member => by cases member⟩
  | case2 start byte =>
    rw [List.length_singleton] at remaining
    have last : start + 1 = image.size := by omega
    refine ⟨.cutWord last, fun line member => ?_⟩
    obtain rfl := List.mem_singleton.mp member
    exact .cutWord last
  | case3 start low high rest instruction cut =>
    obtain ⟨word, rfl⟩ := word_of_drop left
    rw [Image.readOperand?_drop, Option.map_eq_none_iff] at cut
    refine ⟨.cutOperand (Image.le_size_of_slice? word), fun line member => ?_⟩
    obtain rfl := List.mem_singleton.mp member
    exact .cutOperand word cut
  | case4 start low high rest instruction operand size read inductionHypothesis =>
    obtain ⟨word, rfl⟩ := word_of_drop left
    rw [Image.readOperand?_drop] at read
    obtain ⟨found, followed, same⟩ := Option.map_eq_some_iff.mp read
    obtain ⟨rfl, rfl⟩ := Prod.mk.inj same
    have onward : start + Instruction.wordBytes + found.size ≤ image.size :=
      Image.operandAt?_le_size (Image.le_size_of_slice? word) followed
    rw [List.drop_drop] at inductionHypothesis
    obtain ⟨contiguous, stands⟩ := inductionHypothesis onward rfl (by
      rw [List.length_drop, Array.length_toList])
    refine ⟨.whole ?_, ?_⟩
    · rw [List.drop_drop]
      exact contiguous
    · intro line member
      rw [List.drop_drop] at member
      rcases List.mem_cons.mp member with rfl | later
      · exact .whole word followed
      · exact stands line later

theorem sweep_contiguous (image : Image) : Contiguous image.size 0 (sweep image) :=
  (sweepFrom_drop image 0 (Nat.zero_le _)).1

theorem standsIn_of_mem_sweep {image : Image} {line : Line} (member : line ∈ sweep image) :
    line.StandsIn image :=
  (sweepFrom_drop image 0 (Nat.zero_le _)).2 line member

end Listing

end Quadstack
