import Mathlib
import Quadstack.Word.Width

/-!
Words read as numbers. At a width only the low bits of a word count, and there are two ways to read
them: as a number without sign, or in two's complement. Both readings are given here in ordinary
integers, and what the machine does with masks, conversions and its sign bit is held to them.
Arithmetic on words is then a matter of integers up to multiples of a power of two.
-/

namespace Quadstack.Width

/-! ### The two readings -/

/-- The low bits of a word as a number without sign. -/
def unsigned (width : Width) (value : UInt32) : Nat :=
  value.toNat % 2 ^ width.bits

/-- The low bits of a word in two's complement: the upper half of the patterns stands for the
numbers below zero. -/
def signed (width : Width) (value : UInt32) : Int :=
  if 2 * width.unsigned value < 2 ^ width.bits then width.unsigned value
  else width.unsigned value - 2 ^ width.bits

theorem bits_le_thirtyTwo (width : Width) : width.bits ≤ 32 := by
  cases width <;> decide

theorem unsigned_lt (width : Width) (value : UInt32) : width.unsigned value < 2 ^ width.bits :=
  Nat.mod_lt _ (Nat.two_pow_pos _)

theorem signed_range (width : Width) (value : UInt32) :
    -2 ^ (width.bits - 1) ≤ width.signed value ∧ width.signed value < 2 ^ (width.bits - 1) := by
  have below := width.unsigned_lt value
  unfold signed
  cases width with
  | w8 | w16 | w32 =>
    norm_num [bits, bytes] at below ⊢
    split <;> omega

theorem signed_eq_zero_iff (width : Width) (value : UInt32) :
    width.signed value = 0 ↔ width.unsigned value = 0 := by
  have below : (width.unsigned value : Int) < 2 ^ width.bits := by
    exact_mod_cast width.unsigned_lt value
  unfold signed
  split
  · exact Nat.cast_eq_zero
  · rename_i upper
    constructor
    · intro zero
      omega
    · intro zero
      rw [zero] at upper
      exact absurd (Nat.two_pow_pos _) upper

/-! ### Agreement modulo a width -/

/-- What agrees on whole words agrees at every width. -/
theorem modEq_of_word (width : Width) {first second : Int}
    (same : first ≡ second [ZMOD 2 ^ 32]) : first ≡ second [ZMOD 2 ^ width.bits] :=
  same.of_dvd (pow_dvd_pow 2 width.bits_le_thirtyTwo)

/-- A signed word and its bit pattern agree up to a multiple of the number of words. -/
theorem toNat_pattern_modEq (value : Int32) :
    (value.toUInt32.toNat : Int) ≡ value.toInt [ZMOD 2 ^ 32] := by
  have read : value.toInt = (value.toUInt32.toNat : Int).bmod (2 ^ 32) :=
    BitVec.toInt_eq_toNat_bmod value.toBitVec
  rw [read]
  exact (Int.bmod_emod (m := 2 ^ 32)).symm

/-! ### Masks and conversions -/

theorem toNat_truncate (width : Width) (value : UInt32) :
    (width.truncate value).toNat = width.unsigned value := by
  have mask : width.mask.toNat = 2 ^ width.bits - 1 := by cases width <;> rfl
  rw [truncate, UInt32.toNat_and, mask, Nat.and_two_pow_sub_one_eq_mod, unsigned]

@[simp]
theorem unsigned_truncate (width : Width) (value : UInt32) :
    width.unsigned (width.truncate value) = width.unsigned value := by
  rw [unsigned, toNat_truncate]
  exact Nat.mod_eq_of_lt (width.unsigned_lt value)

@[simp]
theorem signed_truncate (width : Width) (value : UInt32) :
    width.signed (width.truncate value) = width.signed value := by
  rw [signed, signed, unsigned_truncate]

theorem signed_eq_toInt (width : Width) (value : UInt32) :
    width.signed value = (BitVec.ofNat width.bits value.toNat).toInt := by
  rw [BitVec.toInt_eq_toNat_cond, BitVec.toNat_ofNat, signed, unsigned]
  push_cast
  rfl

/-- Sign extension reads the low bits in two's complement. -/
theorem toInt_signExtend (width : Width) (value : UInt32) :
    (width.signExtend value).toInt = width.signed value := by
  rw [signed_eq_toInt]
  cases width with
  | w8 =>
    refine (Int8.toInt_toInt32 _).trans ?_
    exact congrArg BitVec.toInt (BitVec.eq_of_toNat_eq (UInt32.toNat_toUInt8 value))
  | w16 =>
    refine (Int16.toInt_toInt32 _).trans ?_
    exact congrArg BitVec.toInt (BitVec.eq_of_toNat_eq (UInt32.toNat_toUInt16 value))
  | w32 =>
    refine congrArg BitVec.toInt (BitVec.eq_of_toNat_eq ?_)
    exact (Nat.mod_eq_of_lt value.toNat_lt).symm

/-- The sign bit is the highest bit of the width. -/
theorem isNegative_eq_testBit (width : Width) (value : UInt32) :
    width.isNegative value = value.toNat.testBit (width.bits - 1) := by
  have bit : width.signBit.toNat = 2 ^ (width.bits - 1) := by cases width <;> rfl
  rw [Bool.eq_iff_iff, isNegative, bne_iff_ne, ne_eq, ← UInt32.toNat_inj, UInt32.toNat_and, bit,
    Nat.and_two_pow]
  simp

/-- Testing the sign bit and reading in two's complement agree on the sign. -/
theorem isNegative_iff (width : Width) (value : UInt32) :
    width.isNegative value = true ↔ width.signExtend value < 0 := by
  have positive : width.bits - 1 < width.bits := by cases width <;> decide
  have sign : (BitVec.ofNat width.bits value.toNat).msb =
      value.toNat.testBit (width.bits - 1) := by
    rw [BitVec.msb_eq_getLsbD_last, BitVec.getLsbD_ofNat, decide_eq_true positive, Bool.true_and]
  rw [isNegative_eq_testBit, ← sign, BitVec.msb_eq_toInt, decide_eq_true_iff,
    Int32.lt_iff_toInt_lt, toInt_signExtend, signed_eq_toInt]
  rfl

/-- A value is zero at a width if its low bits all are. -/
theorem truncate_eq_zero_iff (width : Width) (value : UInt32) :
    width.truncate value = 0 ↔ ∀ bit < width.bits, value.toNat.testBit bit = false := by
  rw [← UInt32.toNat_inj, toNat_truncate, unsigned]
  constructor
  · intro none bit low
    have kept := Nat.testBit_mod_two_pow value.toNat width.bits bit
    rw [none, decide_eq_true low, Bool.true_and] at kept
    exact kept.symm.trans (Nat.zero_testBit bit)
  · intro clear
    refine Nat.eq_of_testBit_eq fun bit => ?_
    rw [Nat.testBit_mod_two_pow]
    by_cases low : bit < width.bits
    · rw [clear bit low, Bool.and_false]
      exact (Nat.zero_testBit bit).symm
    · rw [decide_eq_false low, Bool.false_and]
      exact (Nat.zero_testBit bit).symm

end Quadstack.Width
