import Mathlib
import Quadstack.Proofs.Word.Readings
import Quadstack.Proofs.RegisterMachine.Checked

/-!
Arithmetic and shifts against the integers. The machine computes on 32-bit words, with wrapping,
sign extension, guards and a last truncation, and does so differently at each width. What comes out
is the same as if each operation were done on integers of any size and the result reduced modulo
the width once, at the end: all the steps in between are right modulo the number of words, and the
width divides that number.

The one quotient that does not fit its width and the shifts by more bits than a word has need no
rule of their own then. They follow the same formulas as all the others.
-/

namespace Quadstack

/-! ### Results modulo the width -/

/-- Truncating a word that is right modulo the number of words gives the exact result reduced modulo
the width. -/
theorem Width.toNat_truncate_of_modEq (width : Width) {word : UInt32} {result : Int}
    (right : (word.toNat : Int) ≡ result [ZMOD 2 ^ 32]) :
    ((width.truncate word).toNat : Int) = result % 2 ^ width.bits := by
  have same : (word.toNat : Int) % 2 ^ width.bits = result % 2 ^ width.bits :=
    width.modEq_of_word right
  rw [toNat_truncate, unsigned]
  push_cast
  exact same

/-! ### Arithmetic -/

namespace ArithOp

/-- Whether the operation has no result on a zero divisor. -/
def divides : ArithOp → Bool
  | .div | .divU | .mod | .modU => true
  | .add | .sub | .mul => false

/-- The result of the operation on integers. The signed quotient is cut off toward zero and its
remainder has the sign of the dividend; the unsigned quotient is rounded down. -/
def exactResult (op : ArithOp) (width : Width) (lhs rhs : UInt32) : Int :=
  match op with
  | .add => lhs.toNat + rhs.toNat
  | .sub => lhs.toNat - rhs.toNat
  | .mul => lhs.toNat * rhs.toNat
  | .div => (width.signed lhs).tdiv (width.signed rhs)
  | .mod => (width.signed lhs).tmod (width.signed rhs)
  | .divU => (width.unsigned lhs / width.unsigned rhs : Nat)
  | .modU => (width.unsigned lhs % width.unsigned rhs : Nat)

variable (width : Width) (lhs rhs : UInt32)

theorem add_modEq : ((lhs + rhs).toNat : Int) ≡ lhs.toNat + rhs.toNat [ZMOD 2 ^ 32] := by
  rw [UInt32.toNat_add]
  push_cast
  exact Int.mod_modEq _ _

theorem sub_modEq : ((lhs - rhs).toNat : Int) ≡ lhs.toNat - rhs.toNat [ZMOD 2 ^ 32] := by
  have fits : rhs.toNat < 2 ^ 32 := rhs.toNat_lt
  rw [UInt32.toNat_sub, Int.ModEq]
  omega

theorem mul_modEq : ((lhs * rhs).toNat : Int) ≡ lhs.toNat * rhs.toNat [ZMOD 2 ^ 32] := by
  rw [UInt32.toNat_mul]
  push_cast
  exact Int.mod_modEq _ _

/-- The quotient of the signed readings. It may fail to fit a word, and is then off by one multiple
of the number of words. -/
theorem div_modEq :
    ((width.signExtend lhs / width.signExtend rhs).toUInt32.toNat : Int) ≡
      (width.signed lhs).tdiv (width.signed rhs) [ZMOD 2 ^ 32] := by
  refine (Width.toNat_pattern_modEq _).trans ?_
  rw [Int32.toInt_div, Width.toInt_signExtend, Width.toInt_signExtend]
  exact Int.bmod_emod (m := 2 ^ 32)

theorem mod_modEq :
    ((width.signExtend lhs % width.signExtend rhs).toUInt32.toNat : Int) ≡
      (width.signed lhs).tmod (width.signed rhs) [ZMOD 2 ^ 32] := by
  refine (Width.toNat_pattern_modEq _).trans ?_
  rw [Int32.toInt_mod, Width.toInt_signExtend, Width.toInt_signExtend]

/-- A divisor is zero as a signed word exactly if its low bits are. -/
theorem signExtend_eq_zero_iff : width.signExtend rhs = 0 ↔ width.unsigned rhs = 0 := by
  rw [← Width.signed_eq_zero_iff, ← Width.toInt_signExtend, ← Int32.toInt_inj]
  rfl

theorem truncate_eq_zero_iff : width.truncate rhs = 0 ↔ width.unsigned rhs = 0 := by
  rw [← Width.toNat_truncate, ← UInt32.toNat_inj]
  rfl

/-- The operation has no result if it divides by zero, and otherwise the exact one reduced modulo
the width. -/
def IsExact (op : ArithOp) (width : Width) (lhs rhs : UInt32) : Prop :=
  (op.divides = true ∧ width.unsigned rhs = 0 ∧ op.compute? width lhs rhs = none) ∨
    (¬ (op.divides = true ∧ width.unsigned rhs = 0) ∧
      ∃ result, op.compute? width lhs rhs = some result ∧
        (result.toNat : Int) = op.exactResult width lhs rhs % 2 ^ width.bits)

variable {width lhs rhs} {op : ArithOp} {word : UInt32}

/-- An operation that always has a result needs a word that is right modulo the number of words. -/
theorem IsExact.of_total (total : op.divides = false)
    (computes : op.compute? width lhs rhs = some (width.truncate word))
    (right : (word.toNat : Int) ≡ op.exactResult width lhs rhs [ZMOD 2 ^ 32]) :
    op.IsExact width lhs rhs := by
  refine Or.inr ⟨?_, _, computes, width.toNat_truncate_of_modEq right⟩
  rw [total]
  exact fun both => Bool.false_ne_true both.1

/-- An operation that divides needs one behind a test that finds the zero divisors. -/
theorem IsExact.of_guarded {test : Prop} [Decidable test] (partially : op.divides = true)
    (computes : op.compute? width lhs rhs =
      (if test then none else some word).map width.truncate)
    (finds : test ↔ width.unsigned rhs = 0)
    (right : (word.toNat : Int) ≡ op.exactResult width lhs rhs [ZMOD 2 ^ 32]) :
    op.IsExact width lhs rhs := by
  by_cases zero : width.unsigned rhs = 0
  · rw [if_pos (finds.mpr zero)] at computes
    exact Or.inl ⟨partially, zero, computes⟩
  · rw [if_neg (finds.not.mpr zero)] at computes
    exact Or.inr ⟨fun both => zero both.2, _, computes, width.toNat_truncate_of_modEq right⟩

theorem isExact (op : ArithOp) (width : Width) (lhs rhs : UInt32) :
    op.IsExact width lhs rhs := by
  have signedTest := signExtend_eq_zero_iff width rhs
  have unsignedTest := truncate_eq_zero_iff width rhs
  cases op with
  | add => exact .of_total rfl rfl (add_modEq lhs rhs)
  | sub => exact .of_total rfl rfl (sub_modEq lhs rhs)
  | mul => exact .of_total rfl rfl (mul_modEq lhs rhs)
  | div => exact .of_guarded rfl rfl signedTest (div_modEq width lhs rhs)
  | mod => exact .of_guarded rfl rfl signedTest (mod_modEq width lhs rhs)
  | divU =>
    refine .of_guarded rfl rfl unsignedTest ?_
    rw [UInt32.toNat_div, Width.toNat_truncate, Width.toNat_truncate]
    exact Int.ModEq.refl _
  | modU =>
    refine .of_guarded rfl rfl unsignedTest ?_
    rw [UInt32.toNat_mod, Width.toNat_truncate, Width.toNat_truncate]
    exact Int.ModEq.refl _

theorem compute?_eq_none_iff (op : ArithOp) (width : Width) (lhs rhs : UInt32) :
    op.compute? width lhs rhs = none ↔ op.divides = true ∧ width.unsigned rhs = 0 := by
  rcases op.isExact width lhs rhs with ⟨partially, zero, none⟩ | ⟨defined, result, computed, _⟩
  · exact ⟨fun _ => ⟨partially, zero⟩, fun _ => none⟩
  · rw [computed]
    exact ⟨fun none => (by cases none), fun undefined => absurd undefined defined⟩

theorem toNat_of_compute? {result : UInt32}
    (computed : op.compute? width lhs rhs = some result) :
    (result.toNat : Int) = op.exactResult width lhs rhs % 2 ^ width.bits := by
  rcases op.isExact width lhs rhs with ⟨_, _, none⟩ | ⟨_, found, computedToo, right⟩
  · cases none.symm.trans computed
  · cases computedToo.symm.trans computed
    exact right

/-- The unsigned results fit their width, so nothing is reduced. -/
theorem exactResult_unsigned (op : ArithOp) (width : Width) (lhs rhs : UInt32)
    (unsigned : op = .divU ∨ op = .modU) :
    op.exactResult width lhs rhs % 2 ^ width.bits = op.exactResult width lhs rhs := by
  have below := width.unsigned_lt lhs
  have reduced {number : Nat} (small : number ≤ width.unsigned lhs) :
      (number : Int) % 2 ^ width.bits = number := by
    refine Int.emod_eq_of_lt (Int.natCast_nonneg _) ?_
    exact_mod_cast small.trans_lt below
  rcases unsigned with rfl | rfl
  · exact reduced (Nat.div_le_self _ _)
  · exact reduced (Nat.mod_le _ _)

/-- The least number of a width is the pattern that has only the sign bit set. -/
theorem unsigned_of_least (least : width.signed lhs = -2 ^ (width.bits - 1)) :
    width.unsigned lhs = 2 ^ (width.bits - 1) := by
  unfold Width.signed at least
  cases width with
  | w8 | w16 | w32 =>
    norm_num [Width.bits, Width.bytes] at least ⊢
    split at least <;> omega

/-- The least number divided by minus one does not fit, and comes out as the least number again; the
remainder is zero. -/
theorem compute?_of_least (least : width.signed lhs = -2 ^ (width.bits - 1))
    (minusOne : width.signed rhs = -1) :
    ArithOp.div.compute? width lhs rhs = some (width.truncate lhs) ∧
      ArithOp.mod.compute? width lhs rhs = some 0 := by
  have nonzero : width.unsigned rhs ≠ 0 := by
    rw [ne_eq, ← Width.signed_eq_zero_iff, minusOne]
    decide
  have computes (op : ArithOp) : ∃ result, op.compute? width lhs rhs = some result := by
    refine Option.ne_none_iff_exists'.mp fun none => nonzero ?_
    exact ((compute?_eq_none_iff op width lhs rhs).mp none).2
  obtain ⟨quotient, divided⟩ := computes .div
  obtain ⟨remainder, reduced⟩ := computes .mod
  have quotientIs := toNat_of_compute? divided
  have remainderIs := toNat_of_compute? reduced
  rw [exactResult, least, minusOne, Int.tdiv_neg, Int.tdiv_one, neg_neg] at quotientIs
  rw [exactResult, least, minusOne, Int.tmod_neg, Int.tmod_one, Int.zero_emod] at remainderIs
  have half : (2 : Int) ^ (width.bits - 1) < 2 ^ width.bits := by cases width <;> decide
  rw [Int.emod_eq_of_lt (by positivity) half] at quotientIs
  rw [divided, reduced]
  refine ⟨congrArg some (UInt32.toNat_inj.mp ?_), congrArg some (UInt32.toNat_inj.mp ?_)⟩
  · rw [Width.toNat_truncate, unsigned_of_least least]
    exact_mod_cast quotientIs
  · exact_mod_cast remainderIs

end ArithOp

/-- Arithmetic at a width is exact arithmetic on integers, reduced modulo the width. There is no
result exactly if the operation divides and the low bits of the divisor are all zero. Every result
fits the width and agrees modulo the width with the sum, the difference or the product, with the
quotient of the signed readings cut off toward zero and with the remainder that has the sign of
the dividend; the unsigned quotient and remainder it equals. So the least number divided by minus
one gives itself, with remainder zero. -/
theorem arithmetic_is_exact (op : ArithOp) (width : Width) (lhs rhs : UInt32) :
    (op.compute? width lhs rhs = none ↔
      op.divides = true ∧ rhs.toNat % 2 ^ width.bits = 0) ∧
    (∀ result, op.compute? width lhs rhs = some result →
      result.toNat < 2 ^ width.bits ∧
      (result.toNat : Int) ≡ op.exactResult width lhs rhs [ZMOD 2 ^ width.bits] ∧
      (op = .divU ∨ op = .modU → (result.toNat : Int) = op.exactResult width lhs rhs)) ∧
    (width.signed lhs = -2 ^ (width.bits - 1) → width.signed rhs = -1 →
      ArithOp.div.compute? width lhs rhs = some (width.truncate lhs) ∧
      ArithOp.mod.compute? width lhs rhs = some 0) := by
  refine ⟨ArithOp.compute?_eq_none_iff op width lhs rhs, fun result computed => ?_,
    ArithOp.compute?_of_least⟩
  have right := ArithOp.toNat_of_compute? computed
  refine ⟨?_, ?_, fun unsigned => ?_⟩
  · have small := Int.emod_lt_of_pos (op.exactResult width lhs rhs)
      (by positivity : (0 : Int) < 2 ^ width.bits)
    rw [← right] at small
    exact_mod_cast small
  · rw [right]
    exact Int.mod_modEq _ _
  · rw [right, op.exactResult_unsigned width lhs rhs unsigned]

/-! ### Shifts -/

namespace ShiftOp

variable (width : Width) (value count : UInt32)

/-- The guard of a shift compares the count with the number of bits. -/
theorem bits_le_count_iff : UInt32.ofNat width.bits ≤ count ↔ width.bits ≤ count.toNat := by
  have bits : (UInt32.ofNat width.bits).toNat = width.bits := by cases width <;> rfl
  rw [UInt32.le_iff_toNat_le, bits]

theorem toNat_right :
    (ShiftOp.right.compute width value count).toNat =
      width.unsigned value / 2 ^ count.toNat := by
  have below := width.unsigned_lt value
  have wide := width.bits_le_thirtyTwo
  simp only [compute, bits_le_count_iff, Width.toNat_truncate]
  split
  · rename_i far
    have gone : width.unsigned value < 2 ^ count.toNat :=
      below.trans_le (Nat.pow_le_pow_right (by decide) far)
    rw [Nat.div_eq_of_lt gone]
    exact Nat.zero_mod _
  · rename_i near
    have shifted : (width.truncate value >>> count).toNat =
        width.unsigned value / 2 ^ count.toNat := by
      rw [UInt32.toNat_shiftRight, Nat.mod_eq_of_lt (by omega), Nat.shiftRight_eq_div_pow,
        Width.toNat_truncate]
    rw [Width.unsigned, shifted, Nat.mod_eq_of_lt ((Nat.div_le_self _ _).trans_lt below)]

theorem toNat_left :
    (ShiftOp.left.compute width value count).toNat =
      width.unsigned value * 2 ^ count.toNat % 2 ^ width.bits := by
  have wide := width.bits_le_thirtyTwo
  simp only [compute, bits_le_count_iff, Width.toNat_truncate]
  split
  · rename_i far
    have multiple : 2 ^ width.bits ∣ width.unsigned value * 2 ^ count.toNat :=
      Dvd.dvd.mul_left (pow_dvd_pow 2 far) _
    rw [Nat.mod_eq_zero_of_dvd multiple]
    exact Nat.zero_mod _
  · rename_i near
    have shifted : (width.truncate value <<< count).toNat =
        width.unsigned value * 2 ^ count.toNat % 2 ^ 32 := by
      rw [UInt32.toNat_shiftLeft, Nat.mod_eq_of_lt (by omega : count.toNat < 32),
        Nat.shiftLeft_eq, Width.toNat_truncate]
    rw [Width.unsigned, shifted, Nat.mod_mod_of_dvd _ (pow_dvd_pow 2 wide)]

/-- Past the bits of a number only its sign is left, however far it is shifted. -/
theorem fdiv_two_pow_of_far {number : Int} {bits count : Nat} (low : -2 ^ bits ≤ number)
    (high : number < 2 ^ bits) (far : bits ≤ count) :
    number.fdiv (2 ^ count) = if number < 0 then -1 else 0 := by
  have positive : (0 : Int) < 2 ^ count := by positivity
  have large : (2 : Int) ^ bits ≤ 2 ^ count := pow_le_pow_right₀ (by decide) far
  rw [Int.fdiv_eq_ediv_of_nonneg _ positive.le]
  split
  · rename_i negative
    refine Int.ediv_eq_iff_of_pos positive |>.mpr ⟨?_, ?_⟩
    · linarith
    · linarith
  · rename_i nonnegative
    exact Int.ediv_eq_zero_of_lt (not_lt.mp nonnegative) (high.trans_le large)

/-- A count is cut to at most 31, and the shift then applies as many bits. -/
theorem toNat_shiftAmount :
    ((min count 31).toInt32.toBitVec.smod 32).toNat = min count.toNat 31 := by
  have everyAmount : ∀ amount : Fin 32,
      ((UInt32.ofNat amount).toInt32.toBitVec.smod 32).toNat = amount := by decide
  have cut : (min count 31).toNat = min count.toNat 31 := by
    show (if count ≤ 31 then count else 31).toNat = _
    split
    · rename_i near
      exact (Nat.min_eq_left (UInt32.le_iff_toNat_le.mp near)).symm
    · rename_i far
      exact (Nat.min_eq_right (UInt32.lt_iff_toNat_lt.mp (UInt32.not_le.mp far)).le).symm
  have small : (min count 31).toNat < 32 := by omega
  have applied := everyAmount ⟨_, small⟩
  rw [UInt32.ofNat_toNat] at applied
  exact applied.trans cut

theorem toNat_rightSigned :
    ((ShiftOp.rightSigned.compute width value count).toNat : Int) =
      (width.signed value).fdiv (2 ^ count.toNat) % 2 ^ width.bits := by
  have shifted : (width.signExtend (width.truncate value) >>> (min count 31).toInt32).toInt =
      (width.signed value).fdiv (2 ^ min count.toNat 31) := by
    show (width.signExtend (width.truncate value) >>> (min count 31).toInt32).toBitVec.toInt = _
    rw [Int32.toBitVec_shiftRight, BitVec.sshiftRight_eq', toNat_shiftAmount,
      BitVec.toInt_sshiftRight, Int.shiftRight_eq_div_pow]
    show (width.signExtend (width.truncate value)).toInt / _ = _
    rw [Width.toInt_signExtend, Width.signed_truncate, Int.fdiv_eq_ediv_of_nonneg _ (by positivity)]
    push_cast
    rfl
  have uncut : (width.signed value).fdiv (2 ^ min count.toNat 31) =
      (width.signed value).fdiv (2 ^ count.toNat) := by
    obtain ⟨low, high⟩ := width.signed_range value
    have wide : width.bits - 1 ≤ 31 := Nat.sub_le_sub_right width.bits_le_thirtyTwo 1
    rcases Nat.le_total count.toNat 31 with near | far
    · rw [Nat.min_eq_left near]
    · rw [Nat.min_eq_right far, fdiv_two_pow_of_far low high wide,
        fdiv_two_pow_of_far low high (wide.trans far)]
  refine width.toNat_truncate_of_modEq ?_
  refine (Width.toNat_pattern_modEq _).trans ?_
  rw [shifted, uncut]

end ShiftOp

/-- Shifts at a width are exact for every count: a shift to the right is the quotient by a power of
two, rounded down, of the number without sign or of the signed number, and a shift to the left is a
product with a power of two, reduced modulo the width. There is no exception for counts past the
width or past the size of a word, and no word is ever shifted by 32 bits or more. -/
theorem shifts_are_exact (width : Width) (value count : UInt32) :
    (ShiftOp.right.compute width value count).toNat =
      width.unsigned value / 2 ^ count.toNat ∧
    (ShiftOp.left.compute width value count).toNat =
      width.unsigned value * 2 ^ count.toNat % 2 ^ width.bits ∧
    ((ShiftOp.rightSigned.compute width value count).toNat : Int) =
      (width.signed value).fdiv (2 ^ count.toNat) % 2 ^ width.bits ∧
    ∀ op, Checked.shift op width value count = .ok (op.compute width value count) :=
  ⟨ShiftOp.toNat_right width value count, ShiftOp.toNat_left width value count,
    ShiftOp.toNat_rightSigned width value count, fun op => Checked.shift_eq op width value count⟩

end Quadstack
