import Mathlib
import Quadstack.Stack.TracedBank

/-!
The view of a stack that its users have: the list of its live bytes. Every operation is
determined by this list and changes it in a simple way, whatever the cells above the pointer hold.
The lemmas here say so, first for one stack and then for the bank, and later proofs
about the stacks go through them and never look at a cell.
-/

namespace Quadstack

/-! ### Writing a run of bytes -/

theorem toList_overwrite (cells : Array UInt8) (start : Nat) (run : List UInt8)
    (fits : start + run.length ≤ cells.size) :
    (overwrite cells start run).toList =
      cells.toList.take start ++ run ++ cells.toList.drop (start + run.length) := by
  induction run generalizing cells start with
  | nil => simp [overwrite]
  | cons byte rest inductionHypothesis =>
    rw [List.length_cons] at fits
    have inside : start < cells.toList.length := by
      rw [Array.length_toList]
      omega
    have restFits : start + 1 + rest.length ≤ (cells.setIfInBounds start byte).size := by
      rw [Array.size_setIfInBounds]
      omega
    have written : (cells.setIfInBounds start byte).toList.take (start + 1) =
        cells.toList.take start ++ [byte] := by
      rw [Array.toList_setIfInBounds, List.take_succ_eq_append_getElem (by simpa using inside),
        List.take_set_of_le (Nat.le_refl start), List.getElem_set_self]
    have kept : (cells.setIfInBounds start byte).toList.drop (start + 1 + rest.length) =
        cells.toList.drop (start + (rest.length + 1)) := by
      rw [Array.toList_setIfInBounds, List.drop_set_of_lt (by omega)]
      congr 1
      omega
    rw [overwrite, inductionHypothesis _ _ restFits, written, kept, List.length_cons]
    simp only [List.append_assoc, List.cons_append, List.nil_append]

namespace ByteStack

/-! ### The live bytes of one stack -/

theorem live_eq_take (stack : ByteStack) :
    stack.live = stack.cells.toList.take stack.pointer := by
  rw [live, Array.toList_extract]
  simp only [List.extract_eq_take_drop, List.drop_zero, Nat.sub_zero]
  rfl

@[simp]
theorem length_live (stack : ByteStack) : stack.live.length = stack.pointer := by
  rw [live_eq_take, List.length_take, Vector.length_toList]
  exact Nat.min_eq_left stack.pointer_le

@[simp]
theorem live_empty : empty.live = [] := by
  rw [live_eq_take]
  exact List.take_zero

@[simp]
theorem live_clear (stack : ByteStack) : stack.clear.live = [] := by
  rw [live_eq_take]
  exact List.take_zero

/-- Taking bytes off the top shortens the list of live bytes. -/
theorem live_lower (stack : ByteStack) (count : Nat) :
    (stack.lower count).live = stack.live.take (stack.live.length - count) := by
  rw [length_live, live_eq_take, live_eq_take, List.take_take,
    Nat.min_eq_left (Nat.sub_le stack.pointer count)]
  rfl

/-- Bytes go on top exactly when there is room for all of them. -/
theorem append?_eq_none_iff (stack : ByteStack) (bytes : List UInt8) :
    stack.append? bytes = none ↔ capacity < stack.live.length + bytes.length := by
  rw [length_live, append?]
  split
  · simp only [reduceCtorEq, false_iff]
    omega
  · simp only [true_iff]
    omega

/-- Bytes that were put on top follow the live ones. -/
theorem live_of_append? {stack after : ByteStack} {bytes : List UInt8}
    (grown : stack.append? bytes = some after) : after.live = stack.live ++ bytes := by
  unfold append? at grown
  split at grown
  · rename_i fits
    have room : stack.pointer + bytes.length ≤ stack.cells.toArray.size := by
      rw [Vector.size_toArray]
      exact fits
    cases grown
    rw [live_eq_take, live_eq_take]
    show (overwrite stack.cells.toArray stack.pointer bytes).toList.take
      (stack.pointer + bytes.length) = _
    rw [toList_overwrite _ _ _ room]
    have lengths : (stack.cells.toArray.toList.take stack.pointer ++ bytes).length =
        stack.pointer + bytes.length := by
      rw [List.length_append, List.length_take, Array.length_toList]
      omega
    rw [← lengths]
    exact List.take_left
  · cases grown

/-- Reading below the top is reading from the list of live bytes. -/
theorem read?_eq (stack : ByteStack) (count depth : Nat) :
    stack.read? count depth =
      if depth + count ≤ stack.live.length then
        some ((stack.live.drop (stack.live.length - (depth + count))).take count)
      else none := by
  rw [length_live, read?]
  split
  · rename_i enough
    show some (stack.cells.toArray.extract (stack.pointer - (depth + count))
      (stack.pointer - (depth + count) + count)).toList = _
    rw [Array.toList_extract, List.extract_eq_take_drop, Nat.add_sub_cancel_left, live_eq_take,
      List.drop_take, List.take_take]
    have inside : count ≤ stack.pointer - (stack.pointer - (depth + count)) := by omega
    rw [Nat.min_eq_left inside]
    rfl
  · rfl

end ByteStack

namespace StackBank

/-! ### Changing one stack of the bank -/

@[simp]
theorem stack_update_self (bank : StackBank) (id : StackId) (stack : ByteStack) :
    (bank.update id stack).stack id = stack := by
  simp [StackBank.stack, update]

theorem stack_update_other (bank : StackBank) (id other : StackId) (stack : ByteStack)
    (different : other ≠ id) : (bank.update id stack).stack other = bank.stack other := by
  have distinct : id.val ≠ other.val := fun same => different (Fin.ext same.symm)
  simp [StackBank.stack, update, Vector.getElem_set_ne _ _ distinct]

/-- The live bytes after a stack was replaced. -/
theorem contents_update (bank : StackBank) (id : StackId) (stack : ByteStack) :
    (bank.update id stack).contents = Function.update bank.contents id stack.live := by
  funext other
  by_cases same : other = id
  · subst same
    rw [Function.update_self, contents, stack_update_self]
  · rw [Function.update_of_ne same, contents, stack_update_other _ _ _ _ same, contents]

theorem pointer_eq_length (bank : StackBank) (id : StackId) :
    bank.pointer id = (bank.contents id).length :=
  (ByteStack.length_live (bank.stack id)).symm

@[simp]
theorem contents_empty (id : StackId) : empty.contents id = [] := by
  simp [contents, StackBank.stack, empty]

@[simp]
theorem contents_reset (bank : StackBank) (id : StackId) : bank.reset.contents id = [] := by
  simp [contents, StackBank.stack, reset]

/-! ### The operations on live bytes -/

/-- A push either fails for want of room, or puts the bytes of the value on top of its stack and
leaves the other three as they are. -/
theorem push_cases (bank : StackBank) (id : StackId) (width : Width) (value : UInt32) :
    (ByteStack.capacity < (bank.contents id).length + width.bytes ∧
        bank.push id width value = .error (.overflow id)) ∨
      ((bank.contents id).length + width.bytes ≤ ByteStack.capacity ∧
        ∃ stack : ByteStack, stack.live = bank.contents id ++ width.toBytes value ∧
          bank.push id width value = .ok (bank.update id stack)) := by
  unfold push
  cases grown : (bank.stack id).append? (width.toBytes value) with
  | none =>
    refine Or.inl ⟨?_, rfl⟩
    have full := (ByteStack.append?_eq_none_iff _ _).mp grown
    rwa [Width.length_toBytes] at full
  | some stack =>
    refine Or.inr ⟨?_, stack, ByteStack.live_of_append? grown, rfl⟩
    by_contra full
    rw [(ByteStack.append?_eq_none_iff _ _).mpr] at grown
    · cases grown
    · rw [Width.length_toBytes]
      exact Nat.lt_of_not_le full

/-- The value at a depth is read from the live bytes alone. -/
theorem peekAt_eq (bank : StackBank) (id : StackId) (width : Width) (depth : Nat) :
    bank.peekAt id width depth =
      if depth + width.bytes ≤ (bank.contents id).length then
        .ok (Width.ofBytes (((bank.contents id).drop
          ((bank.contents id).length - (depth + width.bytes))).take width.bytes))
      else .error (.underflow id) := by
  have read := ByteStack.read?_eq (bank.stack id) width.bytes depth
  by_cases enough : depth + width.bytes ≤ (bank.contents id).length
  · rw [peekAt, read.trans (if_pos enough), if_pos enough]
    rfl
  · rw [peekAt, read.trans (if_neg enough), if_neg enough]

/-- A pop is a peek that also shortens its stack. -/
theorem pop_eq (bank : StackBank) (id : StackId) (width : Width) :
    bank.pop id width =
      (bank.peekAt id width 0).map fun value =>
        (value, bank.update id ((bank.stack id).lower width.bytes)) := by
  rw [pop, peek]
  cases bank.peekAt id width 0 <;> rfl

end StackBank

end Quadstack
