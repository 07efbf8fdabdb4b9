import Mathlib
import Quadstack.Proofs.Word.ExactArithmetic

/-!
Bitwise logic, complement and negation, bit by bit. A logical operation at a width is one operation
on bits, done at every place below the width and at no other. The machine works on all 32 bits of
its words instead, and the operations that complement set every bit above the width on the
way; that nothing of this is left is the work of the last truncation. Negation is the odd one out,
since it carries from bit to bit, and is said in numbers.

From the places alone it follows that bits of an operand above the width are never seen.
-/

namespace Quadstack

/-! ### Bits of words -/

namespace Width

/-- What stands only below a width is compared only there. -/
theorem below_congr (width : Width) {bit : Nat} {first second : Bool}
    (same : bit < width.bits → first = second) :
    (decide (bit < width.bits) && first) = (decide (bit < width.bits) && second) := by
  by_cases low : bit < width.bits
  · rw [same low]
  · rw [decide_eq_false low, Bool.false_and, Bool.false_and]

/-- Truncation keeps the bits below the width and clears the others. -/
theorem testBit_truncate (width : Width) (value : UInt32) (bit : Nat) :
    (width.truncate value).toNat.testBit bit =
      (decide (bit < width.bits) && value.toNat.testBit bit) := by
  rw [toNat_truncate, unsigned, Nat.testBit_mod_two_pow]

/-- Two words that have the same bits below a width. -/
def SameBits (width : Width) (first second : UInt32) : Prop :=
  ∀ bit < width.bits, first.toNat.testBit bit = second.toNat.testBit bit

theorem SameBits.unsigned_eq {width : Width} {first second : UInt32}
    (same : width.SameBits first second) : width.unsigned first = width.unsigned second := by
  refine Nat.eq_of_testBit_eq fun bit => ?_
  rw [unsigned, unsigned, Nat.testBit_mod_two_pow, Nat.testBit_mod_two_pow]
  exact width.below_congr (same bit)

end Width

/-- The complement of a word turns each of its 32 bits around. -/
theorem testBit_complement (value : UInt32) (bit : Nat) :
    (~~~value).toNat.testBit bit = (decide (bit < 32) && !value.toNat.testBit bit) := by
  show (~~~value.toBitVec).toNat.testBit bit =
    (decide (bit < 32) && !value.toBitVec.toNat.testBit bit)
  rw [BitVec.testBit_toNat, BitVec.testBit_toNat, BitVec.getLsbD_not]

/-- Below a width a bit is one of the 32, so that there the complement turns every bit around. -/
theorem Width.testBit_truncate_complement (width : Width) (value : UInt32) (bit : Nat) :
    (width.truncate (~~~value)).toNat.testBit bit =
      (decide (bit < width.bits) && !value.toNat.testBit bit) := by
  rw [testBit_truncate, testBit_complement]
  refine width.below_congr fun low => ?_
  have inWord : bit < 32 := low.trans_le width.bits_le_thirtyTwo
  rw [decide_eq_true inWord, Bool.true_and]

/-! ### Logic -/

namespace LogicOp

/-- What the operation makes of two bits. -/
def onBits : LogicOp → Bool → Bool → Bool
  | .and, first, second => first && second
  | .or, first, second => first || second
  | .nor, first, second => !(first || second)
  | .nand, first, second => !(first && second)
  | .xor, first, second => first != second

/-- A result has at each place below the width what the operation makes of the two bits there. -/
theorem testBit_compute (op : LogicOp) (width : Width) (lhs rhs : UInt32) (bit : Nat) :
    (op.compute width lhs rhs).toNat.testBit bit =
      (decide (bit < width.bits) &&
        op.onBits (lhs.toNat.testBit bit) (rhs.toNat.testBit bit)) := by
  cases op with
  | and =>
    show (width.truncate (lhs &&& rhs)).toNat.testBit bit = _
    rw [Width.testBit_truncate, UInt32.toNat_and, Nat.testBit_and]
    rfl
  | or =>
    show (width.truncate (lhs ||| rhs)).toNat.testBit bit = _
    rw [Width.testBit_truncate, UInt32.toNat_or, Nat.testBit_or]
    rfl
  | xor =>
    show (width.truncate (lhs ^^^ rhs)).toNat.testBit bit = _
    rw [Width.testBit_truncate, UInt32.toNat_xor, Nat.testBit_xor]
    rfl
  | nor =>
    show (width.truncate (~~~(lhs ||| rhs))).toNat.testBit bit = _
    rw [Width.testBit_truncate_complement, UInt32.toNat_or, Nat.testBit_or]
    rfl
  | nand =>
    show (width.truncate (~~~(lhs &&& rhs))).toNat.testBit bit = _
    rw [Width.testBit_truncate_complement, UInt32.toNat_and, Nat.testBit_and]
    rfl

variable {width : Width} {lhs rhs otherLhs otherRhs : UInt32}

theorem compute_congr (op : LogicOp) (left : width.SameBits lhs otherLhs)
    (right : width.SameBits rhs otherRhs) :
    op.compute width lhs rhs = op.compute width otherLhs otherRhs := by
  refine UInt32.toNat_inj.mp (Nat.eq_of_testBit_eq fun bit => ?_)
  rw [testBit_compute, testBit_compute]
  exact width.below_congr fun low => by rw [left bit low, right bit low]

end LogicOp

/-! ### Complement and negation -/

namespace UnaryOp

theorem testBit_not (width : Width) (value : UInt32) (bit : Nat) :
    (UnaryOp.not.compute width value).toNat.testBit bit =
      (decide (bit < width.bits) && !value.toNat.testBit bit) :=
  width.testBit_truncate_complement value bit

theorem neg_modEq (value : UInt32) : ((-value).toNat : Int) ≡ -value.toNat [ZMOD 2 ^ 32] := by
  have difference := ArithOp.sub_modEq 0 value
  rwa [UInt32.zero_sub, UInt32.toNat_zero, Nat.cast_zero, zero_sub] at difference

/-- A negated number is reduced modulo the width once. -/
theorem toNat_neg (width : Width) (value : UInt32) :
    ((UnaryOp.neg.compute width value).toNat : Int) = -value.toNat % 2 ^ width.bits :=
  width.toNat_truncate_of_modEq (neg_modEq value)

theorem compute_congr (op : UnaryOp) {width : Width} {value other : UInt32}
    (same : width.SameBits value other) : op.compute width value = op.compute width other := by
  refine UInt32.toNat_inj.mp ?_
  cases op with
  | not =>
    refine Nat.eq_of_testBit_eq fun bit => ?_
    rw [testBit_not, testBit_not]
    exact width.below_congr fun low => by rw [same bit low]
  | neg =>
    have residues : (value.toNat : Int) ≡ other.toNat [ZMOD 2 ^ width.bits] := by
      exact_mod_cast same.unsigned_eq
    have negated : -(value.toNat : Int) % 2 ^ width.bits = -other.toNat % 2 ^ width.bits :=
      residues.neg
    rw [← toNat_neg, ← toNat_neg] at negated
    exact_mod_cast negated

end UnaryOp

/-- Bitwise logic, complement and negation are exact at their width. At each place below the width a
result of logic has the conjunction, the disjunction, their complements or the exclusive disjunction
of the operands' bits there, a complement has the other bit, and at every place above the width
there is nothing. A negated number fits the width and agrees modulo the width with the number below
zero. So operands that have the same bits below the width have the same results. -/
theorem bitwise_results_are_exact (width : Width) (lhs rhs : UInt32) :
    (∀ (op : LogicOp) (bit : Nat), (op.compute width lhs rhs).toNat.testBit bit =
      (decide (bit < width.bits) &&
        op.onBits (lhs.toNat.testBit bit) (rhs.toNat.testBit bit))) ∧
    (∀ bit, (UnaryOp.not.compute width lhs).toNat.testBit bit =
      (decide (bit < width.bits) && !lhs.toNat.testBit bit)) ∧
    (UnaryOp.neg.compute width lhs).toNat < 2 ^ width.bits ∧
    ((UnaryOp.neg.compute width lhs).toNat : Int) ≡ -lhs.toNat [ZMOD 2 ^ width.bits] ∧
    ∀ otherLhs otherRhs, width.SameBits lhs otherLhs → width.SameBits rhs otherRhs →
      (∀ op : LogicOp, op.compute width lhs rhs = op.compute width otherLhs otherRhs) ∧
      ∀ op : UnaryOp, op.compute width lhs = op.compute width otherLhs := by
  refine ⟨fun op => op.testBit_compute width lhs rhs, UnaryOp.testBit_not width lhs, ?_, ?_, ?_⟩
  · exact (width.toNat_truncate _).trans_lt (width.unsigned_lt _)
  · rw [UnaryOp.toNat_neg]
    exact Int.mod_modEq _ _
  · intro otherLhs otherRhs left right
    exact ⟨fun op => op.compute_congr left right, fun op => op.compute_congr left⟩

/-- The complement of a disjunction, of bytes whose words have other bits above them, or none. -/
theorem bitwise_results_are_exact_nor :
    Width.w8.SameBits 0x5a 0xabcdef5a ∧ Width.w8.SameBits 0x0f 0xffffff0f ∧
      LogicOp.nor.compute .w8 0x5a 0x0f = 0xa0 ∧
      LogicOp.nor.compute .w8 0xabcdef5a 0xffffff0f = 0xa0 := by
  have left : Width.w8.SameBits 0x5a 0xabcdef5a := by
    unfold Width.SameBits
    decide
  have right : Width.w8.SameBits 0x0f 0xffffff0f := by
    unfold Width.SameBits
    decide
  have clean : LogicOp.nor.compute .w8 0x5a 0x0f = 0xa0 := by decide
  have unseen := (bitwise_results_are_exact .w8 0x5a 0x0f).2.2.2.2 _ _ left right
  exact ⟨left, right, clean, (unseen.1 .nor).symm.trans clean⟩

end Quadstack
