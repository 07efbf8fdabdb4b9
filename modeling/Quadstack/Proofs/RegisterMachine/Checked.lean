import Mathlib
import Quadstack.Proofs.Stack.ByteLists

/-!
Arithmetic and access that can go wrong. A machine with 64-bit registers cannot hold every number,
its arrays end somewhere, and its shifts and divisions have operands for which they mean nothing. On
such a machine each of these is a way to break down, which is another thing than a fault: a
fault is a result that a program can have, a breakdown is a mistake of the machine. Here is every
operation that can break down, with a test in front of it and a `Trap` for when the test
fails, and beside it the lemma that says when it does not.
-/

namespace Quadstack

/-- A way in which a machine breaks down. -/
inductive Trap where
  /-- An index that an array does not have. -/
  | index
  /-- A range that reaches outside an array, or that ends before it starts. -/
  | range
  /-- Bytes copied into a range of another length. -/
  | length
  /-- A sum too large for a register. -/
  | overflow
  /-- A difference below zero. -/
  | underflow
  /-- A shift by as many bits as a word has, or more. -/
  | shift
  /-- A division by zero. -/
  | division
  /-- Flags changed by an instruction that has no business with them. -/
  | flags
deriving DecidableEq

/-- A computation that may break down. -/
abbrev Checked := Except Trap

namespace Checked

@[simp]
theorem ok_bind {α β : Type} (value : α) (next : α → Checked β) :
    ((Except.ok value : Checked α) >>= next) = next value := rfl

@[simp]
theorem pure_eq_ok {α : Type} (value : α) : (pure value : Checked α) = .ok value := rfl

/-! ### Registers -/

def add (lhs rhs : UInt64) : Checked UInt64 :=
  if lhs.toNat + rhs.toNat < 2 ^ 64 then .ok (lhs + rhs) else .error .overflow

def sub (lhs rhs : UInt64) : Checked UInt64 :=
  if rhs ≤ lhs then .ok (lhs - rhs) else .error .underflow

/-- The bound is written as a number here, so that arithmetic can establish it. -/
theorem toNat_ofNat {number : Nat} (small : number < 2 ^ 64) :
    (UInt64.ofNat number).toNat = number :=
  UInt64.toNat_ofNat_of_lt' small

/-- A sum of numbers that fit, if it fits. -/
theorem add_ofNat {lhs rhs : Nat} (small : lhs + rhs < 2 ^ 64) :
    add (UInt64.ofNat lhs) (UInt64.ofNat rhs) = .ok (UInt64.ofNat (lhs + rhs)) := by
  have fits : (UInt64.ofNat lhs).toNat + (UInt64.ofNat rhs).toNat < 2 ^ 64 := by
    rw [toNat_ofNat (by omega), toNat_ofNat (by omega)]
    exact small
  rw [add, if_pos fits, UInt64.ofNat_add]

/-- A difference of numbers that fit, if there is one. -/
theorem sub_ofNat {lhs rhs : Nat} (small : lhs < 2 ^ 64) (enough : rhs ≤ lhs) :
    sub (UInt64.ofNat lhs) (UInt64.ofNat rhs) = .ok (UInt64.ofNat (lhs - rhs)) := by
  have below : UInt64.ofNat rhs ≤ UInt64.ofNat lhs := by
    rw [UInt64.le_iff_toNat_le, toNat_ofNat (by omega), toNat_ofNat small]
    exact enough
  rw [sub, if_pos below, UInt64.ofNat_sub enough]

/-! ### Arrays -/

def get {α : Type} {size : Nat} (cells : Vector α size) (index : UInt64) : Checked α :=
  if inside : index.toNat < size then .ok cells[index.toNat] else .error .index

def set {α : Type} {size : Nat} (cells : Vector α size) (index : UInt64) (value : α) :
    Checked (Vector α size) :=
  if inside : index.toNat < size then .ok (cells.set index.toNat value inside)
  else .error .index

/-- The bytes from `start` up to `stop`. -/
def slice (bytes : Array UInt8) (start stop : UInt64) : Checked (List UInt8) :=
  if start ≤ stop ∧ stop.toNat ≤ bytes.size then
    .ok (bytes.extract start.toNat stop.toNat).toList
  else .error .range

/-- Copies bytes over those from `start` up to `stop`. -/
def write {size : Nat} (cells : Vector UInt8 size) (start stop : UInt64) (bytes : List UInt8) :
    Checked (Vector UInt8 size) :=
  if start ≤ stop ∧ stop.toNat ≤ size then
    if start.toNat + bytes.length = stop.toNat then
      .ok ⟨overwrite cells.toArray start.toNat bytes, by simp⟩
    else .error .length
  else .error .range

/-- One of the bytes of a list. -/
def byteAt (bytes : List UInt8) (index : Nat) : Checked UInt8 :=
  match bytes[index]? with
  | some byte => .ok byte
  | none => .error .index

theorem get_of_lt {α : Type} {size : Nat} (cells : Vector α size) (index : UInt64)
    (inside : index.toNat < size) : get cells index = .ok cells[index.toNat] :=
  dif_pos inside

theorem set_of_lt {α : Type} {size : Nat} (cells : Vector α size) (index : UInt64) (value : α)
    (inside : index.toNat < size) :
    set cells index value = .ok (cells.set index.toNat value inside) :=
  dif_pos inside

theorem slice_ofNat (bytes : Array UInt8) {start stop : Nat} (ordered : start ≤ stop)
    (inside : stop ≤ bytes.size) (small : stop < 2 ^ 64) :
    slice bytes (UInt64.ofNat start) (UInt64.ofNat stop) =
      .ok (bytes.extract start stop).toList := by
  have startExact : (UInt64.ofNat start).toNat = start := toNat_ofNat (by omega)
  have stopExact : (UInt64.ofNat stop).toNat = stop := toNat_ofNat small
  have ranged : UInt64.ofNat start ≤ UInt64.ofNat stop ∧
      (UInt64.ofNat stop).toNat ≤ bytes.size := by
    rw [UInt64.le_iff_toNat_le, startExact, stopExact]
    exact ⟨ordered, inside⟩
  rw [slice, if_pos ranged, startExact, stopExact]

theorem write_ofNat {size : Nat} (cells : Vector UInt8 size) {start stop : Nat}
    (bytes : List UInt8) (filled : start + bytes.length = stop) (inside : stop ≤ size)
    (small : stop < 2 ^ 64) :
    write cells (UInt64.ofNat start) (UInt64.ofNat stop) bytes =
      .ok ⟨overwrite cells.toArray start bytes, by simp⟩ := by
  have startExact : (UInt64.ofNat start).toNat = start := toNat_ofNat (by omega)
  have stopExact : (UInt64.ofNat stop).toNat = stop := toNat_ofNat small
  have ranged : UInt64.ofNat start ≤ UInt64.ofNat stop ∧ (UInt64.ofNat stop).toNat ≤ size := by
    rw [UInt64.le_iff_toNat_le, startExact, stopExact]
    exact ⟨by omega, inside⟩
  have measured : (UInt64.ofNat start).toNat + bytes.length = (UInt64.ofNat stop).toNat := by
    rw [startExact, stopExact]
    exact filled
  rw [write, if_pos ranged, if_pos measured]
  simp only [startExact]

/-! ### Words and their bytes -/

/-- The first `count` of a word's four bytes, least significant first. -/
def lowBytes (value : UInt32) (count : UInt64) : Checked (List UInt8) :=
  slice (LittleEndian.encode 4 value.toNat).toArray 0 count

/-- The word whose first `count` bytes are given; the others are zero. -/
def assemble (count : UInt64) (bytes : List UInt8) : Checked UInt32 := do
  let buffer ← write (Vector.replicate 4 (0 : UInt8)) 0 count bytes
  pure (Width.ofBytes buffer.toList)

theorem take_encode (count total value : Nat) (few : count ≤ total) :
    (LittleEndian.encode total value).take count = LittleEndian.encode count value := by
  induction count generalizing total value with
  | zero => rfl
  | succ count inductionHypothesis =>
    obtain ⟨rest, rfl⟩ : ∃ rest, total = rest + 1 := ⟨total - 1, by omega⟩
    rw [LittleEndian.encode, LittleEndian.encode, List.take_succ_cons,
      inductionHypothesis rest _ (by omega)]

theorem lowBytes_width (value : UInt32) (width : Width) :
    lowBytes value (UInt64.ofNat width.bytes) = .ok (width.toBytes value) := by
  have four : width.bytes ≤ 4 := width.bytes_le_four
  have size : (LittleEndian.encode 4 value.toNat).toArray.size = 4 := by simp
  have cut := slice_ofNat (LittleEndian.encode 4 value.toNat).toArray (Nat.zero_le width.bytes)
    (by rw [size]; exact four) (by omega)
  rw [lowBytes, show (0 : UInt64) = UInt64.ofNat 0 from rfl, cut, Array.toList_extract]
  simp only [List.extract_eq_take_drop, List.drop_zero, Nat.sub_zero]
  rw [take_encode _ _ _ four]
  rfl

/-- High bytes that are zero add nothing to a number. -/
theorem decode_append_zeros (bytes : List UInt8) (count : Nat) :
    LittleEndian.decode (bytes ++ List.replicate count 0) = LittleEndian.decode bytes := by
  induction bytes with
  | nil =>
    induction count with
    | zero => rfl
    | succ count inductionHypothesis =>
      rw [List.nil_append] at inductionHypothesis ⊢
      rw [List.replicate_succ]
      show (0 : UInt8).toNat + 256 * LittleEndian.decode (List.replicate count 0) = 0
      rw [inductionHypothesis]
      rfl
  | cons byte rest inductionHypothesis =>
    rw [List.cons_append, LittleEndian.decode, inductionHypothesis, LittleEndian.decode]

theorem assemble_bytes {count : Nat} (bytes : List UInt8) (measured : bytes.length = count)
    (few : count ≤ 4) : assemble (UInt64.ofNat count) bytes = .ok (Width.ofBytes bytes) := by
  have filled : 0 + bytes.length = count := by omega
  have written := write_ofNat (Vector.replicate 4 (0 : UInt8)) bytes filled few (by omega)
  have spelled : (overwrite (Vector.replicate 4 (0 : UInt8)).toArray 0 bytes).toList =
      bytes ++ List.replicate (4 - bytes.length) 0 := by
    have fits : 0 + bytes.length ≤ (Vector.replicate 4 (0 : UInt8)).toArray.size := by
      rw [Vector.size_toArray]
      omega
    rw [toList_overwrite _ _ _ fits, Vector.toArray_replicate, Array.toList_replicate,
      List.take_zero, List.nil_append, Nat.zero_add, List.drop_replicate]
  rw [assemble, show (0 : UInt64) = UInt64.ofNat 0 from rfl, written, ok_bind, pure_eq_ok,
    Width.ofBytes, Width.ofBytes, Vector.toList_mk, spelled, decode_append_zeros]

/-! ### Arithmetic on words -/

def shiftLeft (value count : UInt32) : Checked UInt32 :=
  if count < 32 then .ok (value <<< count) else .error .shift

def shiftRight (value count : UInt32) : Checked UInt32 :=
  if count < 32 then .ok (value >>> count) else .error .shift

def shiftRightSigned (value : Int32) (count : UInt32) : Checked Int32 :=
  if count < 32 then .ok (value >>> count.toInt32) else .error .shift

/-- Quotient or remainder, neither of which exists for a zero divisor. -/
def divide {α : Type} [DecidableEq α] [OfNat α 0] (operation : α → α → α) (lhs rhs : α) :
    Checked α :=
  if rhs = 0 then .error .division else .ok (operation lhs rhs)

/-- `lhs op rhs` wrapping at the width, or nothing when the divisor is zero at the width. -/
def arith (op : ArithOp) (width : Width) (lhs rhs : UInt32) : Checked (Option UInt32) :=
  let signed (operation : Int32 → Int32 → Int32) : Checked (Option UInt32) :=
    if width.signExtend rhs = 0 then pure none
    else do
      let result ← divide operation (width.signExtend lhs) (width.signExtend rhs)
      pure (some (width.truncate result.toUInt32))
  let unsigned (operation : UInt32 → UInt32 → UInt32) : Checked (Option UInt32) :=
    if width.truncate rhs = 0 then pure none
    else do
      let result ← divide operation (width.truncate lhs) (width.truncate rhs)
      pure (some (width.truncate result))
  match op with
  | .add => pure (some (width.truncate (lhs + rhs)))
  | .sub => pure (some (width.truncate (lhs - rhs)))
  | .mul => pure (some (width.truncate (lhs * rhs)))
  | .div => signed (· / ·)
  | .mod => signed (· % ·)
  | .divU => unsigned (· / ·)
  | .modU => unsigned (· % ·)

/-- `value` shifted by `count` bits at the width. -/
def shift (op : ShiftOp) (width : Width) (value count : UInt32) : Checked UInt32 := do
  let operand := width.truncate value
  let result ←
    match op with
    | .right => if UInt32.ofNat width.bits ≤ count then pure 0 else shiftRight operand count
    | .left => if UInt32.ofNat width.bits ≤ count then pure 0 else shiftLeft operand count
    | .rightSigned => do
      let shifted ← shiftRightSigned (width.signExtend operand) (min count 31)
      pure shifted.toUInt32
  pure (width.truncate result)

/-- The flags of a result; its sign bit is found by a shift. -/
def flagsOf (width : Width) (value : UInt32) : Checked Flags := do
  let signBit ← shiftLeft 1 (UInt32.ofNat (width.bits - 1))
  pure { zero := width.truncate value == 0, negative := value &&& signBit != 0 }

theorem divide_of_ne {α : Type} [DecidableEq α] [OfNat α 0] (operation : α → α → α) (lhs rhs : α)
    (nonzero : rhs ≠ 0) : divide operation lhs rhs = .ok (operation lhs rhs) :=
  if_neg nonzero

/-- A divisor is tested before it divides. -/
theorem arith_eq (op : ArithOp) (width : Width) (lhs rhs : UInt32) :
    arith op width lhs rhs = .ok (op.compute? width lhs rhs) := by
  cases op with
  | add => rfl
  | sub => rfl
  | mul => rfl
  | div =>
    by_cases zero : width.signExtend rhs = 0
    · simp [arith, ArithOp.compute?, zero]
    · simp [arith, ArithOp.compute?, zero, divide_of_ne]
  | mod =>
    by_cases zero : width.signExtend rhs = 0
    · simp [arith, ArithOp.compute?, zero]
    · simp [arith, ArithOp.compute?, zero, divide_of_ne]
  | divU =>
    by_cases zero : width.truncate rhs = 0
    · simp [arith, ArithOp.compute?, zero]
    · simp [arith, ArithOp.compute?, zero, divide_of_ne]
  | modU =>
    by_cases zero : width.truncate rhs = 0
    · simp [arith, ArithOp.compute?, zero]
    · simp [arith, ArithOp.compute?, zero, divide_of_ne]

theorem bits_le (width : Width) : UInt32.ofNat width.bits ≤ 32 := by
  cases width <;> decide

/-- A count is compared with the width before it shifts. -/
theorem shift_eq (op : ShiftOp) (width : Width) (value count : UInt32) :
    shift op width value count = .ok (op.compute width value count) := by
  have wide := bits_le width
  cases op with
  | right =>
    by_cases far : UInt32.ofNat width.bits ≤ count
    · simp [shift, ShiftOp.compute, far]
    · have near : count < 32 := UInt32.lt_of_lt_of_le (UInt32.not_le.mp far) wide
      simp [shift, ShiftOp.compute, far, shiftRight, near]
  | left =>
    by_cases far : UInt32.ofNat width.bits ≤ count
    · simp [shift, ShiftOp.compute, far]
    · have near : count < 32 := UInt32.lt_of_lt_of_le (UInt32.not_le.mp far) wide
      simp [shift, ShiftOp.compute, far, shiftLeft, near]
  | rightSigned =>
    have near : min count 31 < 32 := by
      show (if count ≤ 31 then count else 31) < 32
      split
      · exact UInt32.lt_of_le_of_lt ‹count ≤ 31› (by decide)
      · decide
    simp [shift, ShiftOp.compute, shiftRightSigned, near]

theorem flagsOf_eq (width : Width) (value : UInt32) :
    flagsOf width value = .ok (Flags.ofResult width value) := by
  cases width <;> rfl

end Checked

end Quadstack
