import Mathlib
import Quadstack.Proofs.RegisterMachine.Checked

/-!
The stack bank of a machine with 64-bit registers. It has the four stores and, apart from them, four
registers for the pointers; nothing in its type keeps a pointer inside its store. An operation adds
and subtracts in registers, cuts ranges out of stores and copies through a buffer of four
bytes, and each of these steps may break down.

A bank as the engine has it, written into registers, never does: on such a bank every operation
comes to what it comes to on the bank itself.
-/

namespace Quadstack

/-- A count of bytes in a register. -/
def Width.size (width : Width) : UInt64 := UInt64.ofNat width.bytes

/-- Four stores and four pointers. -/
structure WordBank where
  cells : Vector (Vector UInt8 ByteStack.capacity) 4
  pointers : Vector UInt64 4

namespace WordBank

/-! ### The operations -/

/-- How many bytes are live on a stack. -/
def pointer (bank : WordBank) (stack : UInt64) : Checked UInt64 :=
  Checked.get bank.pointers stack

/-- The live bytes of a stack, bottom first. -/
def contents (bank : WordBank) (stack : UInt64) : Checked (List UInt8) := do
  let cells ← Checked.get bank.cells stack
  let pointer ← Checked.get bank.pointers stack
  Checked.slice cells.toArray 0 pointer

/-- Empties the four stacks; their cells keep what they hold. -/
def reset (bank : WordBank) : WordBank :=
  { bank with pointers := Vector.replicate 4 0 }

/-- Pushes the low bytes of `value`. -/
def push (bank : WordBank) (stack : UInt64) (width : Width) (value : UInt32) :
    Checked (Except StackError Unit × WordBank) := do
  let pointer ← Checked.get bank.pointers stack
  let top ← Checked.add pointer width.size
  if 1024 < top then
    pure (.error (.overflow stack.toNat), bank)
  else
    let bytes ← Checked.lowBytes value width.size
    let cells ← Checked.get bank.cells stack
    let written ← Checked.write cells pointer top bytes
    let stores ← Checked.set bank.cells stack written
    let pointers ← Checked.set bank.pointers stack top
    pure (.ok (), { cells := stores, pointers })

/-- The value that ends `depth` bytes below the top. -/
def peekAt (bank : WordBank) (stack : UInt64) (width : Width) (depth : UInt64) :
    Checked (Except StackError UInt32) := do
  let pointer ← Checked.get bank.pointers stack
  if pointer < depth ∨ pointer - depth < width.size then
    pure (.error (.underflow stack.toNat))
  else
    let stop := pointer - depth
    let cells ← Checked.get bank.cells stack
    let start ← Checked.sub stop width.size
    let bytes ← Checked.slice cells.toArray start stop
    let value ← Checked.assemble width.size bytes
    pure (.ok value)

/-- The value on top, which is taken off. -/
def pop (bank : WordBank) (stack : UInt64) (width : Width) :
    Checked (Except StackError UInt32 × WordBank) := do
  match ← bank.peekAt stack width 0 with
  | .error error => pure (.error error, bank)
  | .ok value =>
    let pointer ← Checked.get bank.pointers stack
    let lowered ← Checked.sub pointer width.size
    let pointers ← Checked.set bank.pointers stack lowered
    pure (.ok value, { cells := bank.cells, pointers })

end WordBank

/-! ### The engine's bank in registers -/

namespace StackBank

/-- The bank with its pointers in registers. -/
def toWords (bank : StackBank) : WordBank where
  cells := bank.byteStacks.map ByteStack.cells
  pointers := bank.byteStacks.map fun stack => UInt64.ofNat stack.pointer

theorem pointer_le (bank : StackBank) (stack : StackId) : bank.pointer stack ≤ 1024 :=
  (bank.stack stack).pointer_le

section

variable (bank : StackBank) {index : UInt64} {stack : StackId} (names : index.toNat = stack.val)

include names

theorem get_pointers :
    Checked.get bank.toWords.pointers index = .ok (UInt64.ofNat (bank.pointer stack)) := by
  have inside : index.toNat < 4 := by omega
  rw [Checked.get_of_lt _ _ inside]
  simp [toWords, pointer, StackBank.stack, names]

theorem get_cells :
    Checked.get bank.toWords.cells index = .ok (bank.stack stack).cells := by
  have inside : index.toNat < 4 := by omega
  rw [Checked.get_of_lt _ _ inside]
  simp [toWords, StackBank.stack, names]

theorem set_pointers (changed : ByteStack) :
    Checked.set bank.toWords.pointers index (UInt64.ofNat changed.pointer) =
      .ok (bank.update stack changed).toWords.pointers := by
  have inside : index.toNat < 4 := by omega
  rw [Checked.set_of_lt _ _ _ inside]
  simp [toWords, update, names]

theorem set_cells (changed : ByteStack) :
    Checked.set bank.toWords.cells index changed.cells =
      .ok (bank.update stack changed).toWords.cells := by
  have inside : index.toNat < 4 := by omega
  rw [Checked.set_of_lt _ _ _ inside]
  simp [toWords, update, names]

end

/-- A pointer fits a register with room to spare. -/
theorem toNat_ofNat_pointer (bank : StackBank) (stack : StackId) :
    (UInt64.ofNat (bank.pointer stack)).toNat = bank.pointer stack :=
  Checked.toNat_ofNat (by have bound := bank.pointer_le stack; omega)

theorem pointers_toWords_le (bank : StackBank) (stack : StackId) :
    bank.toWords.pointers.get stack ≤ 1024 := by
  have register : bank.toWords.pointers.get stack = UInt64.ofNat (bank.pointer stack) := by
    rw [Vector.get_eq_getElem, toWords, Vector.getElem_map]
    rfl
  rw [register, UInt64.le_iff_toNat_le, toNat_ofNat_pointer]
  exact bank.pointer_le stack

/-! ### No operation breaks down -/

theorem reset_toWords (bank : StackBank) : bank.reset.toWords = bank.toWords.reset := by
  unfold toWords reset WordBank.reset
  simp only [Vector.map_map, WordBank.mk.injEq]
  refine ⟨rfl, ?_⟩
  ext index inside
  simp [ByteStack.clear]

theorem pointer_toWords (bank : StackBank) {index : UInt64} {stack : StackId}
    (names : index.toNat = stack.val) :
    bank.toWords.pointer index = .ok (UInt64.ofNat (bank.pointer stack)) :=
  bank.get_pointers names

theorem contents_toWords (bank : StackBank) {index : UInt64} {stack : StackId}
    (names : index.toNat = stack.val) :
    bank.toWords.contents index = .ok (bank.contents stack) := by
  have bound := bank.pointer_le stack
  have size : (bank.stack stack).cells.toArray.size = 1024 := Vector.size_toArray _
  have cut := Checked.slice_ofNat (bank.stack stack).cells.toArray
    (Nat.zero_le (bank.pointer stack)) (by omega) (by omega)
  unfold WordBank.contents
  rw [bank.get_cells names, Checked.ok_bind, bank.get_pointers names, Checked.ok_bind]
  exact cut

/-- What a push that fits does to the store and to the pointer. -/
theorem push_of_fits (bank : StackBank) (stack : StackId) (width : Width) (value : UInt32)
    (fits : bank.pointer stack + width.bytes ≤ 1024) :
    ∃ grown : ByteStack,
      grown.cells = ⟨overwrite (bank.stack stack).cells.toArray (bank.pointer stack)
        (width.toBytes value), by simp⟩ ∧
      grown.pointer = bank.pointer stack + width.bytes ∧
      bank.push stack width value = .ok (bank.update stack grown) := by
  have room : (bank.stack stack).pointer + (width.toBytes value).length ≤ ByteStack.capacity := by
    rw [Width.length_toBytes]
    exact fits
  refine ⟨⟨_, (bank.stack stack).pointer + (width.toBytes value).length, room⟩, rfl, ?_, ?_⟩
  · show (bank.stack stack).pointer + (width.toBytes value).length = _
    rw [Width.length_toBytes]
    rfl
  · unfold StackBank.push ByteStack.append?
    rw [dif_pos room]
    rfl

theorem push_of_full (bank : StackBank) (stack : StackId) (width : Width) (value : UInt32)
    (full : 1024 < bank.pointer stack + width.bytes) :
    bank.push stack width value = .error (.overflow stack) := by
  rcases bank.push_cases stack width value with ⟨_, failed⟩ | ⟨room, _⟩
  · exact failed
  · have fits : (bank.contents stack).length + width.bytes ≤ 1024 := room
    rw [← pointer_eq_length] at fits
    omega

theorem push_toWords (bank : StackBank) {index : UInt64} {stack : StackId}
    (names : index.toNat = stack.val) (width : Width) (value : UInt32) :
    bank.toWords.push index width value =
      .ok (match bank.push stack width value with
        | .ok after => (.ok (), after.toWords)
        | .error error => (.error error, bank.toWords)) := by
  have bound := bank.pointer_le stack
  have few := width.bytes_le_four
  have compared : 1024 < UInt64.ofNat (bank.pointer stack + width.bytes) ↔
      1024 < bank.pointer stack + width.bytes := by
    rw [UInt64.lt_iff_toNat_lt, Checked.toNat_ofNat (by omega)]
    rfl
  unfold WordBank.push
  rw [bank.get_pointers names, Checked.ok_bind, Width.size, Checked.add_ofNat (by omega),
    Checked.ok_bind]
  by_cases full : 1024 < bank.pointer stack + width.bytes
  · rw [if_pos (compared.mpr full), push_of_full bank stack width value full, names]
    rfl
  · have fits : bank.pointer stack + width.bytes ≤ 1024 := Nat.le_of_not_lt full
    have room : bank.pointer stack + width.bytes ≤ ByteStack.capacity := fits
    have filled : bank.pointer stack + (width.toBytes value).length =
        bank.pointer stack + width.bytes := by rw [Width.length_toBytes]
    obtain ⟨grown, cells, pointer, pushed⟩ := push_of_fits bank stack width value fits
    rw [if_neg fun above => full (compared.mp above), Checked.lowBytes_width, Checked.ok_bind,
      bank.get_cells names, Checked.ok_bind,
      Checked.write_ofNat _ _ filled room (by omega), Checked.ok_bind, ← cells,
      bank.set_cells names grown, Checked.ok_bind, ← pointer, bank.set_pointers names grown,
      Checked.ok_bind, pushed]
    rfl

/-- Whether a register holds enough bytes below a depth, and if so, where they end. -/
theorem depth_cases (bank : StackBank) (stack : StackId) (width : Width) (depth : UInt64) :
    (depth.toNat + width.bytes ≤ bank.pointer stack ∧
        ¬ (UInt64.ofNat (bank.pointer stack) < depth ∨
          UInt64.ofNat (bank.pointer stack) - depth < width.size) ∧
        UInt64.ofNat (bank.pointer stack) - depth =
          UInt64.ofNat (bank.pointer stack - depth.toNat)) ∨
      (¬ depth.toNat + width.bytes ≤ bank.pointer stack ∧
        (UInt64.ofNat (bank.pointer stack) < depth ∨
          UInt64.ofNat (bank.pointer stack) - depth < width.size)) := by
  have bound := bank.pointer_le stack
  have few := width.bytes_le_four
  have above : UInt64.ofNat (bank.pointer stack) < depth ↔ bank.pointer stack < depth.toNat := by
    rw [UInt64.lt_iff_toNat_lt, bank.toNat_ofNat_pointer stack]
  by_cases shallow : depth.toNat ≤ bank.pointer stack
  · have difference : UInt64.ofNat (bank.pointer stack) - depth =
        UInt64.ofNat (bank.pointer stack - depth.toNat) := by
      rw [UInt64.ofNat_sub shallow, UInt64.ofNat_toNat]
    have short : UInt64.ofNat (bank.pointer stack) - depth < width.size ↔
        bank.pointer stack - depth.toNat < width.bytes := by
      rw [difference, Width.size, UInt64.lt_iff_toNat_lt, Checked.toNat_ofNat (by omega),
        Checked.toNat_ofNat (by omega)]
    rw [above, short]
    by_cases enough : depth.toNat + width.bytes ≤ bank.pointer stack
    · exact Or.inl ⟨enough, by omega, difference⟩
    · exact Or.inr ⟨enough, by omega⟩
  · exact Or.inr ⟨by omega, Or.inl (above.mpr (Nat.lt_of_not_le shallow))⟩

theorem peekAt_toWords (bank : StackBank) {index : UInt64} {stack : StackId}
    (names : index.toNat = stack.val) (width : Width) (depth : UInt64) :
    bank.toWords.peekAt index width depth = .ok (bank.peekAt stack width depth.toNat) := by
  have bound := bank.pointer_le stack
  have few := width.bytes_le_four
  unfold WordBank.peekAt
  rw [bank.get_pointers names, Checked.ok_bind]
  rcases bank.depth_cases stack width depth with ⟨enough, held, stop⟩ | ⟨short, missing⟩
  · have size : (bank.stack stack).cells.toArray.size = 1024 := Vector.size_toArray _
    have start : bank.pointer stack - depth.toNat - width.bytes =
        bank.pointer stack - (depth.toNat + width.bytes) := by omega
    have range : bank.pointer stack - depth.toNat =
        bank.pointer stack - (depth.toNat + width.bytes) + width.bytes := by omega
    have cut := Checked.slice_ofNat (bank.stack stack).cells.toArray
      (Nat.le_add_right (bank.pointer stack - (depth.toNat + width.bytes)) width.bytes)
      (by omega) (by omega)
    have found : (bank.stack stack).read? width.bytes depth.toNat =
        some ((bank.stack stack).cells.toArray.extract
          (bank.pointer stack - (depth.toNat + width.bytes))
          (bank.pointer stack - (depth.toNat + width.bytes) + width.bytes)).toList :=
      if_pos enough
    have measured : ((bank.stack stack).cells.toArray.extract
        (bank.pointer stack - (depth.toNat + width.bytes))
        (bank.pointer stack - (depth.toNat + width.bytes) + width.bytes)).toList.length =
        width.bytes := by
      rw [Array.length_toList, Array.size_extract, size]
      omega
    rw [if_neg held, bank.get_cells names, Checked.ok_bind, stop, Width.size,
      Checked.sub_ofNat (by omega) (by omega), Checked.ok_bind, start, range, cut,
      Checked.ok_bind, Checked.assemble_bytes _ measured few, Checked.ok_bind,
      StackBank.peekAt, found]
    rfl
  · have failed : (bank.stack stack).read? width.bytes depth.toNat = none := if_neg short
    rw [if_pos missing, StackBank.peekAt, failed, names]
    rfl

/-- Taking bytes off a stack touches no cell. -/
theorem cells_update_lower (bank : StackBank) (stack : StackId) (count : Nat) :
    (bank.update stack ((bank.stack stack).lower count)).toWords.cells = bank.toWords.cells := by
  simp only [toWords, update, Vector.map_set]
  ext store inside cell within
  by_cases same : stack.val = store
  · subst same
    simp [StackBank.stack, ByteStack.lower]
  · simp [Vector.getElem_set_ne _ _ same]

theorem pop_toWords (bank : StackBank) {index : UInt64} {stack : StackId}
    (names : index.toNat = stack.val) (width : Width) :
    bank.toWords.pop index width =
      .ok (match bank.pop stack width with
        | .ok (value, after) => (.ok value, after.toWords)
        | .error error => (.error error, bank.toWords)) := by
  have bound := bank.pointer_le stack
  unfold WordBank.pop
  rw [bank.peekAt_toWords names, Checked.ok_bind, pop_eq]
  rcases bank.peekAt_cases stack width 0 with ⟨enough, value, found, _⟩ | ⟨_, failed⟩
  · rw [← pointer_eq_length, Nat.zero_add] at enough
    have lowered := bank.set_pointers names ((bank.stack stack).lower width.bytes)
    have kept := bank.cells_update_lower stack width.bytes
    rw [show (0 : UInt64).toNat = 0 from rfl, found]
    show (do
      let pointer ← Checked.get bank.toWords.pointers index
      let lowered ← Checked.sub pointer width.size
      let pointers ← Checked.set bank.toWords.pointers index lowered
      pure (Except.ok value, WordBank.mk bank.toWords.cells pointers)) = _
    rw [bank.get_pointers names, Checked.ok_bind, Width.size,
      Checked.sub_ofNat (by omega) enough, Checked.ok_bind]
    rw [show UInt64.ofNat (bank.pointer stack - width.bytes) =
      UInt64.ofNat ((bank.stack stack).lower width.bytes).pointer from rfl, lowered,
      Checked.ok_bind, ← kept]
    rfl
  · rw [show (0 : UInt64).toNat = 0 from rfl, failed]
    rfl

end StackBank

end Quadstack
