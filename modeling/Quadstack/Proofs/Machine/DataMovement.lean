import Mathlib
import Quadstack.Proofs.Image.Codec
import Quadstack.Proofs.Machine.LiveActs
import Quadstack.Proofs.Machine.Operands

/-!
The instructions that move bytes. Each of them is a short sequence of pops, peeks and pushes, and
what such a sequence comes to when its two stacks are the same follows from the order of its parts
and from nothing else. So the order is written down once more, for four lists of bytes in place of
the machine, and the machine is shown to follow it part by part. What is left is a question about
lists: under which condition the sequence succeeds, and which lists it leaves.

The answer is a table with one entry for each family. An entry gives the condition, the lists and
the error of a sequence that does not succeed.
-/

namespace Quadstack

/-! ### Moves on four lists -/

namespace ByteLists

/-- The lists with bytes put on top of one. -/
def extend (lists : ByteLists) (stack : StackId) (bytes : List UInt8) : ByteLists :=
  Function.update lists stack (lists stack ++ bytes)

/-- The lists with bytes taken off the top of one. -/
def shorten (lists : ByteLists) (stack : StackId) (count : Nat) : ByteLists :=
  Function.update lists stack ((lists stack).rdrop count)

theorem length_extend (lists : ByteLists) (stack other : StackId) (bytes : List UInt8) :
    (lists.extend stack bytes other).length =
      if other = stack then (lists other).length + bytes.length else (lists other).length := by
  unfold extend
  split
  · rename_i same
    rw [same, Function.update_self, List.length_append]
  · rename_i different
    rw [Function.update_of_ne different]

theorem length_shorten (lists : ByteLists) (stack other : StackId) (count : Nat) :
    (lists.shorten stack count other).length =
      if other = stack then (lists other).length - count else (lists other).length := by
  unfold shorten
  split
  · rename_i same
    rw [same, Function.update_self, List.rdrop, List.length_take]
    omega
  · rename_i different
    rw [Function.update_of_ne different]

end ByteLists

/-- Work on four lists of bytes: it gives a value and the lists after it, or an error. -/
abbrev ListWork := StateT ByteLists (Except StackError)

namespace ListWork

def pop (stack : StackId) (width : Width) : ListWork UInt32 := fun lists =>
  if width.bytes ≤ (lists stack).length then
    .ok (Width.ofBytes ((lists stack).rtake width.bytes), lists.shorten stack width.bytes)
  else .error (.underflow stack)

def peekAt (stack : StackId) (width : Width) (depth : Nat) : ListWork UInt32 := fun lists =>
  if depth + width.bytes ≤ (lists stack).length then
    .ok (Width.ofBytes (((lists stack).rdrop depth).rtake width.bytes), lists)
  else .error (.underflow stack)

def push (stack : StackId) (width : Width) (value : UInt32) : ListWork Unit := fun lists =>
  if (lists stack).length + width.bytes ≤ 1024 then
    .ok ((), lists.extend stack (width.toBytes value))
  else .error (.overflow stack)

def pointer (stack : StackId) : ListWork UInt32 := fun lists =>
  .ok (UInt32.ofNat (lists stack).length, lists)

end ListWork

/-- The sequence of moves that an operation is, if it is one that moves bytes between the stacks. -/
def Operation.moves? (source destination : StackId) : Operation → Option (ListWork (Option Halt))
  | .copy width => some do
    let value ← ListWork.peekAt source width 0
    ListWork.push destination width value
    pure none
  | .move width => some do
    let value ← ListWork.pop source width
    ListWork.push destination width value
    pure none
  | .swap width => some do
    let first ← ListWork.pop source width
    let second ← ListWork.pop destination width
    ListWork.push destination width first
    ListWork.push source width second
    pure none
  | .peekDeep width => some do
    let depth ← ListWork.pop source .w32
    let value ← ListWork.peekAt source width depth.toNat
    ListWork.push destination width value
    pure none
  | .stackPointer => some do
    let bytes ← ListWork.pointer source
    ListWork.push destination .w32 bytes
    pure none
  | .delete width => some do
    let _ ← ListWork.pop source width
    pure none
  | _ => none

/-! ### The machine follows the lists -/

variable {σ π α β : Type}

/-- Work has changed the live bytes to the given ones, and nothing else but what they rest on and
the journal. -/
structure Engine.Restacked (engine after : Engine σ π) (contents : ByteLists) : Prop where
  contents : after.bank.contents = contents
  rest : after = { engine with bank := after.bank, journal := after.journal }

namespace Engine.Restacked

variable {engine between after : Engine σ π} {contents : ByteLists}

theorem refl (engine : Engine σ π) : engine.Restacked engine engine.bank.contents where
  contents := rfl
  rest := rfl

theorem trans (first : engine.Restacked between contents) {later : ByteLists}
    (second : between.Restacked after later) : engine.Restacked after later where
  contents := second.contents
  rest := second.rest.trans <| congrArg
    (fun state => { state with bank := after.bank, journal := after.journal }) first.rest

theorem current (restacked : engine.Restacked after contents) : after.current = engine.current := by
  rw [restacked.rest]

end Engine.Restacked

/-- A result of the machine next to that of the lists: the same value and the live bytes they have,
or the same error at the instruction at hand. -/
inductive Exec.Amounts (engine : Engine σ π) :
    Except StackError (α × ByteLists) → EStateM.Result Fault (Engine σ π) α → Prop
  | done {value : α} {contents : ByteLists} {after : Engine σ π}
      (restacked : engine.Restacked after contents) :
      Amounts engine (.ok (value, contents)) (.ok value after)
  | failed {error : StackError} {after : Engine σ π} :
      Amounts engine (.error error) (.error (error.toFault engine.current) after)

/-- Work of the machine that does to the live bytes what the lists do. -/
def Exec.WorksAs (work : Exec σ π α) (plan : ListWork α) : Prop :=
  ∀ engine, Exec.Amounts engine (plan engine.bank.contents) (work engine)

namespace Exec.WorksAs

theorem pure (value : α) : WorksAs (pure value : Exec σ π α) (pure value) :=
  fun engine => .done (.refl engine)

theorem bind {work : Exec σ π α} {next : α → Exec σ π β} {plan : ListWork α}
    {following : α → ListWork β} (first : WorksAs work plan)
    (rest : ∀ value, WorksAs (next value) (following value)) :
    WorksAs (work >>= next) (plan >>= following) := by
  intro engine
  have head := first engine
  show Amounts engine (plan engine.bank.contents >>= fun result => following result.1 result.2) _
  generalize plan engine.bank.contents = planned at head ⊢
  generalize worked : work engine = result at head
  cases head with
  | failed =>
    rw [bind_of_error worked]
    exact .failed
  | @done value contents between restacked =>
    rw [bind_of_ok worked]
    have tail := rest value between
    rw [restacked.contents] at tail
    show Amounts engine (following value contents) _
    generalize following value contents = planned at tail ⊢
    generalize next value between = result at tail ⊢
    cases tail with
    | done later => exact .done (restacked.trans later)
    | failed =>
      rw [restacked.current]
      exact .failed

theorem pop (stack : StackId) (width : Width) :
    WorksAs (Exec.pop stack width : Exec σ π UInt32) (ListWork.pop stack width) := by
  intro engine
  unfold ListWork.pop
  by_cases enough : width.bytes ≤ (engine.bank.contents stack).length
  · rw [if_pos enough, pop_of_enough enough]
    exact .done ⟨engine.contents_popped stack width _, rfl⟩
  · rw [if_neg enough, pop_of_short (Nat.lt_of_not_le enough)]
    exact .failed

theorem peekAt (stack : StackId) (width : Width) (depth : Nat) :
    WorksAs (Exec.peekAt stack width depth : Exec σ π UInt32)
      (ListWork.peekAt stack width depth) := by
  intro engine
  unfold ListWork.peekAt
  by_cases enough : depth + width.bytes ≤ (engine.bank.contents stack).length
  · rw [if_pos enough, peekAt_eq_ok_iff.mpr ⟨engine.bank.peekAt_of_enough enough, rfl⟩]
    exact .done (.refl engine)
  · rw [if_neg enough]
    rcases peekAt_cases stack width depth engine with ⟨value, found, _⟩ | ⟨_, failed⟩
    · rw [StackBank.peekAt_eq, if_neg enough] at found
      cases found
    · rw [failed]
      exact .failed

theorem push (stack : StackId) (width : Width) (value : UInt32) :
    WorksAs (Exec.push stack width value : Exec σ π Unit) (ListWork.push stack width value) := by
  intro engine
  unfold ListWork.push
  by_cases room : (engine.bank.contents stack).length + width.bytes ≤ 1024
  · obtain ⟨grown, pushed, contents⟩ := push_of_room value room
    rw [if_pos room, pushed]
    exact .done ⟨contents, rfl⟩
  · rw [if_neg room, push_of_full value (Nat.lt_of_not_le room)]
    exact .failed

theorem pointer (stack : StackId) :
    WorksAs (Exec.pointer stack : Exec σ π UInt32) (ListWork.pointer stack) := by
  intro engine
  unfold ListWork.pointer Exec.pointer
  rw [StackBank.pointer_eq_length]
  exact .done (.refl engine)

/-- An instruction that moves bytes follows its sequence of moves. -/
theorem carryOut [OutputSink σ] [Peripheral π] {instruction : Instruction}
    {plan : ListWork (Option Halt)}
    (planned : instruction.operation.moves? instruction.sourceStack
      instruction.destinationStack = some plan) :
    WorksAs (Exec.carryOut (σ := σ) (π := π) instruction .absent) plan := by
  show WorksAs (Acts.execute (m := Exec σ π) #[] instruction) plan
  unfold Acts.execute
  generalize instruction.operation = operation at planned ⊢
  cases operation with
  | copy width =>
    cases planned
    exact bind (peekAt _ width 0) fun value => bind (push _ width value) fun _ => pure none
  | move width =>
    cases planned
    exact bind (pop _ width) fun value => bind (push _ width value) fun _ => pure none
  | swap width =>
    cases planned
    refine bind (pop _ width) fun first => bind (pop _ width) fun second => ?_
    exact bind (push _ width first) fun _ => bind (push _ width second) fun _ => pure none
  | peekDeep width =>
    cases planned
    refine bind (pop _ .w32) fun depth => bind (peekAt _ width depth.toNat) fun value => ?_
    exact bind (push _ width value) fun _ => pure none
  | stackPointer =>
    cases planned
    exact bind (pointer _) fun bytes => bind (push _ .w32 bytes) fun _ => pure none
  | delete width =>
    cases planned
    exact bind (pop _ width) fun _ => pure none
  | _ => cases planned

end Exec.WorksAs

/-! ### What the moves come to -/

/-- The condition for a sequence of moves to succeed, the lists it leaves then, and its error
otherwise. -/
structure Movement where
  possible : Prop
  contents : ByteLists
  error : StackError

/-- The table of movements. The stacks are those of the instruction, and the lists are what they
hold when it begins. -/
def Operation.movement? (source destination : StackId) (held : ByteLists) :
    Operation → Option Movement
  | .copy width => some {
      possible := width.bytes ≤ (held source).length ∧
        (held destination).length + width.bytes ≤ 1024
      contents := held.extend destination ((held source).rtake width.bytes)
      error :=
        if width.bytes ≤ (held source).length then .overflow destination else .underflow source }
  | .move width => some {
      possible := width.bytes ≤ (held source).length ∧
        (source = destination ∨ (held destination).length + width.bytes ≤ 1024)
      contents := (held.shorten source width.bytes).extend destination
        ((held source).rtake width.bytes)
      error :=
        if width.bytes ≤ (held source).length then .overflow destination else .underflow source }
  | .swap width => some {
      possible :=
        if source = destination then 2 * width.bytes ≤ (held source).length
        else width.bytes ≤ (held source).length ∧ width.bytes ≤ (held destination).length
      contents :=
        if source = destination then
          Function.update held source ((held source).rdrop (2 * width.bytes) ++
            ((held source).rtake width.bytes ++
              ((held source).rdrop width.bytes).rtake width.bytes))
        else
          Function.update
            (Function.update held source
              ((held source).rdrop width.bytes ++ (held destination).rtake width.bytes))
            destination
            ((held destination).rdrop width.bytes ++ (held source).rtake width.bytes)
      error := .underflow (if width.bytes ≤ (held source).length then destination else source) }
  | .peekDeep width =>
    let depth := ByteLists.spelled ((held source).rtake 4)
    let rest := held.shorten source 4
    some {
      possible :=
        (4 ≤ (held source).length ∧ depth + width.bytes ≤ (held source).length - 4) ∧
          (source = destination ∨ (held destination).length + width.bytes ≤ 1024)
      contents := rest.extend destination (((rest source).rdrop depth).rtake width.bytes)
      error :=
        if 4 ≤ (held source).length ∧ depth + width.bytes ≤ (held source).length - 4 then
          .overflow destination
        else .underflow source }
  | .stackPointer => some {
      possible := (held destination).length + 4 ≤ 1024
      contents := held.extend destination (ByteLists.lowBytes 4 (held source).length)
      error := .overflow destination }
  | .delete width => some {
      possible := width.bytes ≤ (held source).length
      contents := held.shorten source width.bytes
      error := .underflow source }
  | _ => none

/-- A movement tells how a sequence of moves ends. -/
structure Movement.Describes (movement : Movement)
    (outcome : Except StackError (Option Halt × ByteLists)) : Prop where
  succeeds : movement.possible → outcome = .ok (none, movement.contents)
  fails : ¬ movement.possible → outcome = .error movement.error

namespace ListWork

variable {stack source destination : StackId} {width : Width} {lists held : ByteLists}

theorem pop_bind (next : UInt32 → ListWork α) :
    (pop stack width >>= next) lists =
      if width.bytes ≤ (lists stack).length then
        next (Width.ofBytes ((lists stack).rtake width.bytes)) (lists.shorten stack width.bytes)
      else .error (.underflow stack) := by
  show (pop stack width lists >>= fun result => next result.1 result.2) = _
  unfold pop
  split <;> rfl

theorem peekAt_bind (depth : Nat) (next : UInt32 → ListWork α) :
    (peekAt stack width depth >>= next) lists =
      if depth + width.bytes ≤ (lists stack).length then
        next (Width.ofBytes (((lists stack).rdrop depth).rtake width.bytes)) lists
      else .error (.underflow stack) := by
  show (peekAt stack width depth lists >>= fun result => next result.1 result.2) = _
  unfold peekAt
  split <;> rfl

theorem push_bind (value : UInt32) (next : Unit → ListWork α) :
    (push stack width value >>= next) lists =
      if (lists stack).length + width.bytes ≤ 1024 then
        next () (lists.extend stack (width.toBytes value))
      else .error (.overflow stack) := by
  show (push stack width value lists >>= fun result => next result.1 result.2) = _
  unfold push
  split <;> rfl

/-- A sequence that looks for enough bytes on one stack and ends with a push onto another. -/
theorem describes_put {enough room : Prop} [Decidable enough] {value : UInt32} {bytes : List UInt8}
    (spells : enough → width.toBytes value = bytes)
    (roomy : enough → ((lists destination).length + width.bytes ≤ 1024 ↔ room)) :
    Movement.Describes
      ⟨enough ∧ room, lists.extend destination bytes,
        if enough then .overflow destination else .underflow source⟩
      (if enough then (push destination width value >>= fun _ => pure none) lists
        else .error (.underflow source)) := by
  by_cases there : enough
  · rw [if_pos there, if_pos there, push_bind]
    refine ⟨fun possible => ?_, fun impossible => ?_⟩
    · rw [if_pos ((roomy there).mpr possible.2), spells there]
      rfl
    · exact if_neg fun fits => impossible ⟨there, (roomy there).mp fits⟩
  · rw [if_neg there, if_neg there]
    exact ⟨fun possible => absurd possible.1 there, fun _ => rfl⟩

/-- When bytes have come off a stack there is room on it for no more than these. -/
theorem room_shorten {count : Nat} (bounded : (held source).length ≤ 1024)
    (enough : count ≤ (held source).length) (few : width.bytes ≤ count) :
    (held.shorten source count destination).length + width.bytes ≤ 1024 ↔
      source = destination ∨ (held destination).length + width.bytes ≤ 1024 := by
  unfold ByteLists.shorten
  by_cases same : source = destination
  · subst same
    rw [Function.update_self, List.rdrop, List.length_take]
    refine iff_of_true ?_ (Or.inl rfl)
    omega
  · rw [Function.update_of_ne (Ne.symm same), or_iff_right same]

theorem length_rtake {bytes : List UInt8} {count : Nat} (enough : count ≤ bytes.length) :
    (bytes.rtake count).length = count := by
  rw [List.rtake, List.length_drop]
  omega

end ListWork

/-- What the table says of an operation is what its moves come to. -/
def Operation.Tabulated (source destination : StackId) (held : ByteLists)
    (operation : Operation) : Prop :=
  ∀ movement plan, operation.movement? source destination held = some movement →
    operation.moves? source destination = some plan → movement.Describes (plan held)

namespace Operation

open ListWork

variable {source destination : StackId} {held : ByteLists} {width : Width}

theorem copy_tabulated : (copy width).Tabulated source destination held := by
  rintro _ _ ⟨⟩ ⟨⟩
  rw [peekAt_bind, Nat.zero_add, List.rdrop_zero]
  exact describes_put (fun enough => Width.toBytes_ofBytes (length_rtake enough)) fun _ => Iff.rfl

theorem move_tabulated (bounded : (held source).length ≤ 1024) :
    (move width).Tabulated source destination held := by
  rintro _ _ ⟨⟩ ⟨⟩
  rw [pop_bind]
  exact describes_put (fun enough => Width.toBytes_ofBytes (length_rtake enough))
    fun enough => room_shorten bounded enough le_rfl

theorem peekDeep_tabulated (bounded : (held source).length ≤ 1024) :
    (peekDeep width).Tabulated source destination held := by
  rintro _ _ ⟨⟩ ⟨⟩
  have depth : (Width.ofBytes ((held source).rtake Width.w32.bytes)).toNat =
      ByteLists.spelled ((held source).rtake 4) :=
    Width.toNat_ofBytes _ (by rw [List.rtake, List.length_drop, Width.bytes]; omega)
  have left : (held.shorten source 4 source).length = (held source).length - 4 := by
    rw [ByteLists.shorten, Function.update_self, List.rdrop, List.length_take]
    omega
  rw [pop_bind, peekAt_bind, depth, show Width.w32.bytes = 4 from rfl, left, ← ite_and]
  refine describes_put (fun enough => Width.toBytes_ofBytes (length_rtake ?_))
    fun enough => room_shorten bounded enough.1 width.bytes_le_four
  rw [List.rdrop, List.length_take, left]
  omega

theorem stackPointer_tabulated (bounded : (held source).length ≤ 1024) :
    stackPointer.Tabulated source destination held := by
  rintro _ _ ⟨⟩ ⟨⟩
  have small : (UInt32.ofNat (held source).length).toNat = (held source).length :=
    UInt32.toNat_ofNat_of_lt' (lt_of_le_of_lt bounded (by decide))
  show Movement.Describes _ ((push destination .w32 _ >>= fun _ => pure none) held)
  rw [push_bind, Width.toBytes_eq_lowBytes, small]
  exact ⟨fun room => if_pos room, fun full => if_neg full⟩

theorem delete_tabulated : (delete width).Tabulated source destination held := by
  rintro _ _ ⟨⟩ ⟨⟩
  rw [pop_bind]
  exact ⟨fun enough => if_pos enough, fun short => if_neg short⟩

/-- Once both pops of an exchange have succeeded, its pushes go where they have made room. -/
theorem swap_eq (bounded : ∀ stack, (held stack).length ≤ 1024) :
    ((do
      let first ← pop source width
      let second ← pop destination width
      push destination width first
      push source width second
      pure none : ListWork (Option Halt)) held) =
      if width.bytes ≤ (held source).length ∧
          width.bytes ≤ (held.shorten source width.bytes destination).length then
        .ok (none,
          (((held.shorten source width.bytes).shorten destination width.bytes).extend destination
            ((held source).rtake width.bytes)).extend source
            ((held.shorten source width.bytes destination).rtake width.bytes))
      else
        .error (.underflow
          (if width.bytes ≤ (held source).length then destination else source)) := by
  rw [pop_bind, pop_bind, ite_and]
  by_cases enough : width.bytes ≤ (held source).length
  · rw [if_pos enough, if_pos enough, if_pos enough]
    by_cases enoughToo : width.bytes ≤ (held.shorten source width.bytes destination).length
    · have sourceBound := bounded source
      have destinationBound := bounded destination
      rw [if_pos enoughToo, if_pos enoughToo, push_bind, push_bind, if_pos, if_pos,
        Width.toBytes_ofBytes (length_rtake enough), Width.toBytes_ofBytes (length_rtake enoughToo)]
      · rfl
      · simp only [ByteLists.length_extend, ByteLists.length_shorten, Width.length_toBytes] at *
        grind
      · simp only [ByteLists.length_shorten] at *
        grind
    · rw [if_neg enoughToo, if_neg enoughToo]
  · rw [if_neg enough, if_neg enough, if_neg enough]

/-- An exchange on one stack turns its two topmost groups around. -/
theorem swap_tabulated_of_same (bounded : ∀ stack, (held stack).length ≤ 1024) :
    (swap width).Tabulated source source held := by
  rintro _ _ ⟨⟩ ⟨⟩
  rw [swap_eq bounded]
  have both : (width.bytes ≤ (held source).length ∧
      width.bytes ≤ (held.shorten source width.bytes source).length) ↔
      2 * width.bytes ≤ (held source).length := by
    rw [ByteLists.length_shorten, if_pos rfl]
    omega
  refine ⟨fun possible => ?_, fun impossible => ?_⟩
  · have enough : 2 * width.bytes ≤ (held source).length := by rwa [if_pos rfl] at possible
    rw [if_pos (both.mpr enough)]
    simp only [ByteLists.extend, ByteLists.shorten, Function.update_self, Function.update_idem,
      List.rdrop_add, List.append_assoc, two_mul, if_true]
  · have short : ¬ 2 * width.bytes ≤ (held source).length := by rwa [if_pos rfl] at impossible
    rw [if_neg (both.not.mpr short), ite_self]

/-- An exchange between two stacks. -/
theorem swap_tabulated_of_ne (bounded : ∀ stack, (held stack).length ≤ 1024)
    (different : source ≠ destination) : (swap width).Tabulated source destination held := by
  rintro _ _ ⟨⟩ ⟨⟩
  have untouched : held.shorten source width.bytes destination = held destination :=
    Function.update_of_ne (Ne.symm different) _ _
  rw [swap_eq bounded, untouched]
  refine ⟨fun possible => ?_, fun impossible => ?_⟩
  · rw [if_neg different] at possible
    rw [if_pos possible]
    simp only [ByteLists.extend, ByteLists.shorten, Function.update_self, Function.update_idem,
      Function.update_of_ne different, Function.update_of_ne different.symm, if_neg different]
    rw [Function.update_comm different, Function.update_idem, Function.update_comm different]
  · rw [if_neg different] at impossible
    rw [if_neg impossible]

theorem tabulated (bounded : ∀ stack, (held stack).length ≤ 1024) (operation : Operation) :
    operation.Tabulated source destination held := by
  cases operation with
  | copy width => exact copy_tabulated
  | move width => exact move_tabulated (bounded source)
  | swap width =>
    by_cases same : source = destination
    · subst same
      exact swap_tabulated_of_same bounded
    · exact swap_tabulated_of_ne bounded same
  | peekDeep width => exact peekDeep_tabulated (bounded source)
  | stackPointer => exact stackPointer_tabulated (bounded source)
  | delete width => exact delete_tabulated
  | _ =>
    rintro _ _ listed _
    cases listed

/-- To move bytes to where they are is to do nothing. -/
theorem contents_of_move_self {movement : Movement}
    (listed : (move width).movement? source source held = some movement) :
    movement.contents = held := by
  cases listed
  simp only [ByteLists.extend, ByteLists.shorten, Function.update_self, Function.update_idem,
    List.rdrop, List.rtake, List.take_append_drop, Function.update_eq_self]

/-- An operation with a movement in the table has a sequence of moves and no inline operand. -/
theorem moves?_of_movement? {operation : Operation} {movement : Movement}
    (listed : operation.movement? source destination held = some movement) :
    operation.inlineOperand? = none ∧ ∃ plan, operation.moves? source destination = some plan := by
  cases operation with
  | copy width | move width | swap width | peekDeep width | stackPointer | delete width =>
    exact ⟨rfl, _, rfl⟩
  | _ => cases listed

end Operation

/-! ### Steps that move bytes -/

section

variable [OutputSink σ] [Peripheral π] {program : Image} {engine : Engine σ π}

/-- A step that moves bytes. It succeeds exactly under a condition, and then leaves the given live
bytes and everything else as it was, except that the instruction is counted and the counter stands
behind it and its operand. Otherwise it raises the given fault. -/
structure Engine.MovesBytes (program : Image) (engine : Engine σ π) (operandBytes : Nat)
    (possible : Prop) (contents : ByteLists) (fault : Fault) : Prop where
  succeeds_iff : (∃ halt? after, engine.step program = .ok halt? after) ↔ possible
  leaves (halt? : Option Halt) (after : Engine σ π) : engine.step program = .ok halt? after →
    halt? = none ∧ after.bank.contents = contents ∧
    after = { engine with
      bank := after.bank
      journal := after.journal
      pc := engine.pc + 2 + operandBytes
      current := engine.pc
      landed := false
      steps := engine.steps + 1 }
  faults : ¬ possible → raisedBy (engine.step program) = some fault

theorem Engine.MovesBytes.of_fault {operandBytes : Nat} {possible : Prop} {contents : ByteLists}
    {fault : Fault} {after : Engine σ π} (impossible : ¬ possible)
    (failed : engine.step program = .error fault after) :
    engine.MovesBytes program operandBytes possible contents fault := by
  refine ⟨iff_of_false (fun ⟨_, _, done⟩ => ?_) impossible, fun _ _ done => ?_, fun _ => ?_⟩
  · rw [failed] at done
    cases done
  · rw [failed] at done
    cases done
  · rw [failed]
    rfl

/-- A step is judged by what the lists do from the state in which its operand was read. -/
theorem Engine.MovesBytes.of_amounts {instruction : Instruction} {operand : Listing.Operand}
    {movement : Movement} {outcome : Except StackError (Option Halt × ByteLists)}
    (amounts : Exec.Amounts (engine.fetched instruction operand) outcome (engine.step program))
    (describes : movement.Describes outcome) :
    engine.MovesBytes program operand.size movement.possible movement.contents
      (movement.error.toFault engine.pc) := by
  generalize stepped : engine.step program = result at amounts
  by_cases possible : movement.possible
  · rw [describes.succeeds possible] at amounts
    cases amounts with
    | @done _ _ after restacked =>
      refine ⟨iff_of_true ⟨none, after, stepped⟩ possible, ?_, fun not => absurd possible not⟩
      intro halt? last done
      rw [stepped] at done
      cases done
      exact ⟨rfl, restacked.contents, restacked.rest⟩
  · rw [describes.fails possible] at amounts
    cases amounts with
    | failed => exact .of_fault possible stepped

variable {instruction : Instruction}

/-- A literal goes from the program onto the destination. -/
theorem Engine.Executes.moves_literal (executes : engine.Executes program instruction)
    {width : Width} (operation : instruction.operation = .literal width) :
    engine.MovesBytes program width.bytes
      (engine.pc + 2 + width.bytes ≤ program.size ∧
        (engine.bank.contents instruction.destinationStack).length + width.bytes ≤ 1024)
      (ByteLists.extend engine.bank.contents instruction.destinationStack
        ((program.toList.drop (engine.pc + 2)).take width.bytes))
      (if engine.pc + 2 + width.bytes ≤ program.size then
        .stackOverflow engine.pc instruction.destinationStack
      else .targetOutOfBounds (engine.pc + 2)) := by
  rcases program.slice?_cases (engine.pc + 2) width.bytes with
    ⟨inside, bytes, read, taken, length⟩ | ⟨outside, missing⟩
  · have found : program.operandAt? (engine.pc + Instruction.wordBytes)
        instruction.operation.inlineOperand? = some (.literal width (Width.ofBytes bytes)) := by
      rw [operation]
      exact congrArg (Option.map _) read
    have works : Exec.WorksAs
        (Exec.carryOut (σ := σ) (π := π) instruction (.literal width (Width.ofBytes bytes)))
        (ListWork.push instruction.destinationStack width (Width.ofBytes bytes) >>= fun _ =>
          pure none) :=
      .bind (.push _ width _) fun _ => .pure none
    have amounts := works (engine.fetched instruction (.literal width (Width.ofBytes bytes)))
    rw [← executes.step_of_found found] at amounts
    let movement : Movement := {
      possible := (engine.bank.contents instruction.destinationStack).length + width.bytes ≤ 1024
      contents := ByteLists.extend engine.bank.contents instruction.destinationStack bytes
      error := .overflow instruction.destinationStack }
    have describes : movement.Describes
        ((ListWork.push instruction.destinationStack width (Width.ofBytes bytes) >>= fun _ =>
          pure none) engine.bank.contents) := by
      rw [ListWork.push_bind, Width.toBytes_ofBytes length]
      exact ⟨fun room => if_pos room, fun full => if_neg full⟩
    simp only [inside, true_and, if_true, ← taken]
    exact .of_amounts amounts describes
  · have missing : program.operandAt? (engine.pc + Instruction.wordBytes)
        instruction.operation.inlineOperand? = none := by
      rw [operation]
      exact congrArg (Option.map _) missing
    rw [if_neg (Nat.not_le_of_lt outside)]
    exact .of_fault (fun possible => absurd possible.1 (Nat.not_le_of_lt outside))
      (executes.step_of_missing missing)

/-- An entry of the table is what a step does. -/
theorem Engine.Executes.moves_tabulated (executes : engine.Executes program instruction)
    {movement : Movement}
    (listed : instruction.operation.movement? instruction.sourceStack
      instruction.destinationStack engine.bank.contents = some movement) :
    engine.MovesBytes program 0 movement.possible movement.contents
      (movement.error.toFault engine.pc) := by
  obtain ⟨plain, plan, planned⟩ := Operation.moves?_of_movement? listed
  have found : program.operandAt? (engine.pc + Instruction.wordBytes)
      instruction.operation.inlineOperand? = some .absent := by
    rw [plain]
    rfl
  have bounded (stack : StackId) : (engine.bank.contents stack).length ≤ 1024 := by
    rw [← StackBank.pointer_eq_length]
    exact engine.pointer_le stack
  have amounts := Exec.WorksAs.carryOut planned (engine.fetched instruction .absent)
  rw [← executes.step_of_found found] at amounts
  exact .of_amounts amounts (Operation.tabulated bounded _ movement plan listed planned)

/-- The instructions that move bytes, seen on the live bytes of the stacks. Each family with an
entry in the table succeeds exactly under the condition of its entry, and leaves the lists of the
entry and nothing else changed. A move from a stack to itself leaves all live bytes as they were. A
literal goes onto its destination exactly if the program holds all of it and the destination has
room. -/
theorem data_movement_on_live_bytes (executes : engine.Executes program instruction) :
    (∀ movement,
      instruction.operation.movement? instruction.sourceStack instruction.destinationStack
        engine.bank.contents = some movement →
      engine.MovesBytes program 0 movement.possible movement.contents
        (movement.error.toFault engine.pc)) ∧
    (∀ width, instruction.operation = .move width →
      instruction.sourceStack = instruction.destinationStack →
      ∀ halt? after, engine.step program = .ok halt? after →
        after.bank.contents = engine.bank.contents) ∧
    ∀ width, instruction.operation = .literal width →
      engine.MovesBytes program width.bytes
        (engine.pc + 2 + width.bytes ≤ program.size ∧
          (engine.bank.contents instruction.destinationStack).length + width.bytes ≤ 1024)
        (ByteLists.extend engine.bank.contents instruction.destinationStack
          ((program.toList.drop (engine.pc + 2)).take width.bytes))
        (if engine.pc + 2 + width.bytes ≤ program.size then
          .stackOverflow engine.pc instruction.destinationStack
        else .targetOutOfBounds (engine.pc + 2)) := by
  refine ⟨fun movement => executes.moves_tabulated, ?_, fun width => executes.moves_literal⟩
  intro width operation same halt? after done
  cases listed : instruction.operation.movement? instruction.sourceStack
      instruction.destinationStack engine.bank.contents with
  | none =>
    rw [operation] at listed
    cases listed
  | some movement =>
    obtain ⟨_, contents, _⟩ := (executes.moves_tabulated listed).leaves halt? after done
    rw [operation, ← same] at listed
    rw [contents, Operation.contents_of_move_self listed]

/-- A value that lies one byte below the top is copied to the top of its own stack, where its depth
was. -/
theorem data_movement_on_live_bytes_deep :
    ∃ engine after : Engine ByteLog NoPeripheral,
      engine.bank.contents 1 = [0xaa, 0xbb, 0xcc, 1, 0, 0, 0] ∧
      engine.step #[0x51, 0x00, 0xaa, 0xbb, 0x41, 0x00, 0xcc, 0x61, 0x00, 1, 0, 0, 0, 0xa5, 0x01] =
        .ok none after ∧
      after.bank.contents 1 = [0xaa, 0xbb, 0xcc, 0xaa, 0xbb] ∧ after.pc = 15 := by
  let program : Image :=
    #[0x51, 0x00, 0xaa, 0xbb, 0x41, 0x00, 0xcc, 0x61, 0x00, 1, 0, 0, 0, 0xa5, 0x01]
  let engine := (Engine.standing program 3 (Engine.new ByteLog.empty NoPeripheral.mk)).2
  have held : engine.bank.contents 1 = [0xaa, 0xbb, 0xcc, 1, 0, 0, 0] := by decide +kernel
  have executes : engine.Executes program ⟨0x01a, 1, 1⟩ :=
    ⟨by decide +kernel, by decide +kernel, [0xa5, 0x01], by decide +kernel, by decide +kernel⟩
  have moves := (data_movement_on_live_bytes executes).1 _ rfl
  have possible : (4 ≤ (engine.bank.contents 1).length ∧
      ByteLists.spelled ((engine.bank.contents 1).rtake 4) + 2 ≤
        (engine.bank.contents 1).length - 4) ∧
      ((1 : StackId) = 1 ∨ (engine.bank.contents 1).length + 2 ≤ 1024) := by
    rw [held]
    decide
  obtain ⟨_, after, stepped⟩ := moves.succeeds_iff.mpr possible
  obtain ⟨rfl, contents, rest⟩ := moves.leaves _ _ stepped
  have place : engine.pc + 2 + 0 = 15 := by decide +kernel
  refine ⟨engine, after, held, stepped, ?_, (congrArg Engine.pc rest).trans place⟩
  change after.bank.contents = ByteLists.extend (ByteLists.shorten engine.bank.contents 1 4) 1
    (((ByteLists.shorten engine.bank.contents 1 4 1).rdrop
      (ByteLists.spelled ((engine.bank.contents 1).rtake 4))).rtake 2) at contents
  rw [contents]
  simp only [ByteLists.extend, ByteLists.shorten, Function.update_self, held]
  decide

end

end Quadstack
