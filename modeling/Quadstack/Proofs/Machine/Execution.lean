import Mathlib
import Quadstack.Proofs.Machine.Runs
import Quadstack.Proofs.Stack.Live

/-!
Instructions one at a time. A step that neither finds the run landed nor the budget spent nor the
word missing executes one instruction, and which one depends on the program and the counter alone.
The acts on the stacks are described here by their two ways to end: a pop, a push or a peek either
does its work, or it fails and leaves the engine exactly as it was. What a whole instruction does
is put together from these descriptions, one act after another.
-/

namespace Quadstack

variable {σ π : Type}

/-! ### One act after another -/

namespace Exec

variable {α β : Type} {work : Exec σ π α} {next : α → Exec σ π β} {engine after : Engine σ π}

theorem bind_eq_ok_iff {result : β} :
    (work >>= next) engine = .ok result after ↔
      ∃ value between, work engine = .ok value between ∧ next value between = .ok result after := by
  show EStateM.bind work next engine = _ ↔ _
  unfold EStateM.bind
  cases work engine with
  | ok value between => simp
  | error fault between => simp

theorem bind_eq_error_iff {fault : Fault} :
    (work >>= next) engine = .error fault after ↔
      work engine = .error fault after ∨
        ∃ value between, work engine = .ok value between ∧
          next value between = .error fault after := by
  show EStateM.bind work next engine = _ ↔ _
  unfold EStateM.bind
  cases work engine with
  | ok value between => simp
  | error fault between => simp

theorem bind_of_ok {value : α} {between : Engine σ π} (done : work engine = .ok value between) :
    (work >>= next) engine = next value between := by
  show EStateM.bind work next engine = _
  rw [EStateM.bind, done]

theorem bind_of_error {fault : Fault} (failed : work engine = .error fault after) :
    (work >>= next) engine = .error fault after := by
  show EStateM.bind work next engine = _
  rw [EStateM.bind, failed]

end Exec

/-- The error that a result reports, if it is one. -/
def raisedBy {ε S α : Type} : EStateM.Result ε S α → Option ε
  | .ok _ _ => none
  | .error reason _ => some reason

theorem eq_error_of_raisedBy {ε S α : Type} {result : EStateM.Result ε S α} {reason : ε}
    (raised : raisedBy result = some reason) : result = .error reason (leftBy result) := by
  cases result with
  | ok value state => cases raised
  | error other state =>
    cases raised
    rfl

/-! ### Acts on the stacks -/

namespace Engine

/-- A bank on which nothing was done leaves the engine as it was. -/
@[simp]
theorem adopt_untouched (engine : Engine σ π) : engine.adopt { bank := engine.bank } = engine := by
  simp [adopt]

/-- The engine after a value came off a stack. -/
def popped (engine : Engine σ π) (stack : StackId) (width : Width) (value : UInt32) :
    Engine σ π :=
  engine.adopt {
    bank := engine.bank.update stack ((engine.bank.stack stack).lower width.bytes)
    moves := #[.pop stack width value (engine.bank.pointer stack - width.bytes)] }

/-- The engine after a value went onto a stack, which has become `grown`. -/
def pushed (engine : Engine σ π) (stack : StackId) (grown : ByteStack) (width : Width)
    (value : UInt32) : Engine σ π :=
  engine.adopt {
    bank := engine.bank.update stack grown
    moves := #[.push stack width value grown.pointer] }

theorem pointer_le (engine : Engine σ π) (stack : StackId) : engine.bank.pointer stack ≤ 1024 :=
  (engine.bank.stack stack).pointer_le

theorem stack_popped_self (engine : Engine σ π) (stack : StackId) (width : Width)
    (value : UInt32) :
    (engine.popped stack width value).bank.stack stack =
      (engine.bank.stack stack).lower width.bytes :=
  StackBank.stack_update_self _ _ _

theorem stack_popped_other (engine : Engine σ π) (stack other : StackId) (width : Width)
    (value : UInt32) (different : other ≠ stack) :
    (engine.popped stack width value).bank.stack other = engine.bank.stack other :=
  StackBank.stack_update_other _ _ _ _ different

theorem pointer_popped (engine : Engine σ π) (stack other : StackId) (width : Width)
    (value : UInt32) :
    (engine.popped stack width value).bank.pointer other =
      if other = stack then engine.bank.pointer other - width.bytes
      else engine.bank.pointer other := by
  split
  · rename_i same
    subst same
    exact congrArg ByteStack.pointer (engine.stack_popped_self other width value)
  · rename_i different
    exact congrArg ByteStack.pointer (engine.stack_popped_other stack other width value different)

theorem contents_popped (engine : Engine σ π) (stack : StackId) (width : Width) (value : UInt32) :
    (engine.popped stack width value).bank.contents =
      Function.update engine.bank.contents stack
        ((engine.bank.contents stack).rdrop width.bytes) := by
  show (engine.bank.update stack _).contents = _
  rw [StackBank.contents_update, ByteStack.live_lower]
  rfl

theorem stack_pushed_self (engine : Engine σ π) (stack : StackId) (grown : ByteStack)
    (width : Width) (value : UInt32) :
    (engine.pushed stack grown width value).bank.stack stack = grown :=
  StackBank.stack_update_self _ _ _

theorem stack_pushed_other (engine : Engine σ π) (stack other : StackId) (grown : ByteStack)
    (width : Width) (value : UInt32) (different : other ≠ stack) :
    (engine.pushed stack grown width value).bank.stack other = engine.bank.stack other :=
  StackBank.stack_update_other _ _ _ _ different

theorem pointer_pushed (engine : Engine σ π) (stack other : StackId) (grown : ByteStack)
    (width : Width) (value : UInt32) :
    (engine.pushed stack grown width value).bank.pointer other =
      if other = stack then grown.pointer else engine.bank.pointer other := by
  split
  · rename_i same
    subst same
    exact congrArg ByteStack.pointer (engine.stack_pushed_self other grown width value)
  · rename_i different
    exact congrArg ByteStack.pointer
      (engine.stack_pushed_other stack other grown width value different)

end Engine

namespace Exec

/-- A pop either gives the value on top and takes it off, or finds too few bytes. -/
theorem pop_cases (stack : StackId) (width : Width) (engine : Engine σ π) :
    (width.bytes ≤ engine.bank.pointer stack ∧
        ∃ value, engine.bank.peek stack width = .ok value ∧
          pop stack width engine = .ok value (engine.popped stack width value)) ∨
      (engine.bank.pointer stack < width.bytes ∧
        pop stack width engine = .error (.stackUnderflow engine.current stack) engine) := by
  have peeked := engine.bank.peekAt_eq stack width 0
  rw [Nat.zero_add, ← StackBank.pointer_eq_length] at peeked
  unfold pop onBank TracedBank.pop
  rw [StackBank.pop_eq]
  by_cases enough : width.bytes ≤ engine.bank.pointer stack
  · rw [if_pos enough] at peeked
    refine Or.inl ⟨enough, _, peeked, ?_⟩
    rw [peeked]
    simp only [Except.map, Engine.popped, StackBank.pointer, StackBank.stack_update_self]
    rfl
  · rw [if_neg enough] at peeked
    refine Or.inr ⟨Nat.lt_of_not_le enough, ?_⟩
    rw [peeked]
    simp only [Except.map, Engine.adopt_untouched]
    rfl

/-- A push either puts the bytes of its value on top, or finds no room for all of them. -/
theorem push_cases (stack : StackId) (width : Width) (value : UInt32) (engine : Engine σ π) :
    (engine.bank.pointer stack + width.bytes ≤ 1024 ∧
        ∃ grown : ByteStack,
          grown.live = engine.bank.contents stack ++ width.toBytes value ∧
          grown.pointer = engine.bank.pointer stack + width.bytes ∧
          push stack width value engine = .ok () (engine.pushed stack grown width value)) ∨
      (1024 < engine.bank.pointer stack + width.bytes ∧
        push stack width value engine = .error (.stackOverflow engine.current stack) engine) := by
  have cases := engine.bank.push_cases stack width value
  rw [← StackBank.pointer_eq_length] at cases
  unfold push onBank TracedBank.push
  rcases cases with ⟨full, failed⟩ | ⟨room, grown, live, succeeded⟩
  · refine Or.inr ⟨full, ?_⟩
    rw [failed]
    simp only [Engine.adopt_untouched]
    rfl
  · have size : grown.pointer = engine.bank.pointer stack + width.bytes := by
      rw [← ByteStack.length_live, live, List.length_append, Width.length_toBytes,
        StackBank.pointer_eq_length]
    refine Or.inl ⟨room, grown, live, size, ?_⟩
    rw [succeeded]
    simp only [Engine.pushed, StackBank.pointer, StackBank.stack_update_self]
    rfl

theorem pop_eq_ok {stack : StackId} {width : Width} {value : UInt32} {engine after : Engine σ π}
    (done : pop stack width engine = .ok value after) :
    width.bytes ≤ engine.bank.pointer stack ∧ engine.bank.peek stack width = .ok value ∧
      after = engine.popped stack width value := by
  rcases pop_cases stack width engine with ⟨enough, found, top, popped⟩ | ⟨_, failed⟩
  · rw [popped] at done
    cases done
    exact ⟨enough, top, rfl⟩
  · rw [failed] at done
    cases done

theorem push_eq_ok {stack : StackId} {width : Width} {value : UInt32} {engine after : Engine σ π}
    (done : push stack width value engine = .ok () after) :
    ∃ grown : ByteStack, grown.live = engine.bank.contents stack ++ width.toBytes value ∧
      after = engine.pushed stack grown width value := by
  rcases push_cases stack width value engine with ⟨_, grown, live, _, pushed⟩ | ⟨_, failed⟩
  · rw [pushed] at done
    cases done
    exact ⟨grown, live, rfl⟩
  · rw [failed] at done
    cases done

theorem require_eq_ok {α : Type} {value? : Option α} {fault : Nat → Fault} {value : α}
    {engine after : Engine σ π} (done : require value? fault engine = .ok value after) :
    value? = some value ∧ after = engine := by
  cases value? with
  | none => cases done
  | some found =>
    cases done
    exact ⟨rfl, rfl⟩

/-- A peek either gives the value at its depth, or finds too few bytes; it changes nothing. -/
theorem peekAt_cases (stack : StackId) (width : Width) (depth : Nat) (engine : Engine σ π) :
    (∃ value, engine.bank.peekAt stack width depth = .ok value ∧
        peekAt stack width depth engine = .ok value engine) ∨
      (engine.bank.pointer stack < depth + width.bytes ∧
        peekAt stack width depth engine =
          .error (.stackUnderflow engine.current stack) engine) := by
  have peeked := engine.bank.peekAt_eq stack width depth
  rw [← StackBank.pointer_eq_length] at peeked
  unfold peekAt onBank TracedBank.peekAt
  by_cases enough : depth + width.bytes ≤ engine.bank.pointer stack
  · rw [if_pos enough] at peeked
    refine Or.inl ⟨_, peeked, ?_⟩
    rw [peeked]
    simp only [Engine.adopt_untouched]
  · rw [if_neg enough] at peeked
    refine Or.inr ⟨Nat.lt_of_not_le enough, ?_⟩
    rw [peeked]
    simp only [Engine.adopt_untouched]
    rfl

/-- A peek succeeds exactly if the bank has the value. -/
theorem peekAt_eq_ok_iff {stack : StackId} {width : Width} {depth : Nat} {value : UInt32}
    {engine after : Engine σ π} :
    peekAt stack width depth engine = .ok value after ↔
      engine.bank.peekAt stack width depth = .ok value ∧ after = engine := by
  unfold peekAt onBank TracedBank.peekAt
  cases engine.bank.peekAt stack width depth with
  | ok found => simp [eq_comm]
  | error reason => simp

end Exec

/-! ### Acts that look at the flags -/

section

variable [OutputSink σ] [Peripheral π]

theorem Acts.jumpIf_eq (condition : Condition) (target : UInt32) (engine : Engine σ π) :
    Acts.jumpIf (m := Exec σ π) condition target engine =
      .ok () (if engine.flags.satisfies condition then
        { engine with pc := target.toNat, landed := true } else engine) := by
  show (if engine.flags.satisfies condition then Exec.jumpTo target.toNat else pure () :
    Exec σ π Unit) engine = _
  split <;> rfl

theorem Acts.haltIf_eq (condition : Condition) (engine : Engine σ π) :
    Acts.haltIf (m := Exec σ π) condition engine =
      .ok (if engine.flags.satisfies condition then
        some { offset := engine.current, reason := .ended condition } else none) engine := by
  show (if engine.flags.satisfies condition then do
      let halt ← Exec.halt (.ended condition)
      pure (some halt)
    else pure none : Exec σ π (Option Halt)) engine = _
  split <;> rfl

end

/-! ### Instructions that go on -/

/-- Work after which the run goes on. -/
def GoesOn (work : Exec σ π (Option Halt)) : Prop :=
  ∀ engine halt? after, work engine = .ok halt? after → halt? = none

namespace GoesOn

theorem proceed : GoesOn (Acts.proceed (m := Exec σ π)) := by
  intro engine halt? after done
  cases done
  rfl

theorem bind {α : Type} {work : Exec σ π α} {next : α → Exec σ π (Option Halt)}
    (rest : ∀ value, GoesOn (next value)) : GoesOn (work >>= next) := by
  intro engine halt? after done
  obtain ⟨value, between, _, finished⟩ := Exec.bind_eq_ok_iff.mp done
  exact rest value between halt? after finished

end GoesOn

/-- Only a halting instruction whose condition holds ends a run. -/
theorem Acts.execute_eq_halt [OutputSink σ] [Peripheral π] {program : Image}
    {instruction : Instruction} {engine after : Engine σ π} {halt : Halt}
    (halted : Acts.execute (m := Exec σ π) program instruction engine = .ok (some halt) after) :
    ∃ condition, instruction.operation = .halt condition ∧ halt.reason = .ended condition := by
  cases operation : instruction.operation with
  | halt condition =>
    rw [Acts.execute, operation] at halted
    have ended := halted.symm.trans (Acts.haltIf_eq condition engine)
    split at ended
    · cases ended
      exact ⟨condition, rfl, rfl⟩
    · cases ended
  | _ =>
    -- Every other instruction is a chain of acts after which the run goes on.
    rw [Acts.execute, operation] at halted
    refine absurd (?_ : GoesOn _) fun goesOn => nomatch goesOn engine _ after halted
    repeat first | exact .proceed | refine .bind fun _ => ?_

/-! ### The instruction that a step executes -/

namespace Engine

variable {program : Image} {engine after : Engine σ π}

/-- The next step executes this instruction: no landing and no spent budget takes its place, and its
word stands at the program counter. -/
structure Executes (program : Image) (engine : Engine σ π) (instruction : Instruction) : Prop where
  flying : ¬ engine.AtLanding program
  unspent : engine.spentLimit? = none
  word : ∃ bytes, program.slice? engine.pc Instruction.wordBytes = some bytes ∧
    instructionAt bytes = instruction

theorem Executes.unique {first second : Instruction}
    (executes : engine.Executes program first) (other : engine.Executes program second) :
    first = second := by
  obtain ⟨_, _, bytes, read, rfl⟩ := executes
  obtain ⟨_, _, bytesToo, readToo, rfl⟩ := other
  rw [read] at readToo
  cases readToo
  rfl

variable [OutputSink σ] [Peripheral π]

theorem Executes.step_eq {instruction : Instruction}
    (executes : engine.Executes program instruction) :
    step program engine =
      Acts.execute (m := Exec σ π) program instruction (engine.enter instruction) := by
  obtain ⟨flying, unspent, bytes, read, rfl⟩ := executes
  have shape := step_shape program engine
  generalize step program engine = result at shape ⊢
  cases shape with
  | landed landing => exact absurd landing flying
  | spent limit _ used =>
    rw [unspent] at used
    cases used
  | wordless _ _ short =>
    rw [Image.slice?, if_neg (Nat.not_le_of_lt short)] at read
    cases read
  | executed others _ _ readToo =>
    rw [read] at readToo
    cases readToo
    rfl

/-- A step that goes on has executed an instruction. -/
theorem executes_of_going (stepped : step program engine = .ok none after) :
    ∃ instruction, engine.Executes program instruction := by
  have shape := step_shape program engine
  generalize step program engine = result at shape stepped
  cases shape with
  | landed landing => cases stepped
  | spent limit flying used => cases stepped
  | wordless flying unspent short => cases stepped
  | executed bytes flying unspent read => exact ⟨_, flying, unspent, bytes, read, rfl⟩

/-- A step that faults has found the budget spent or the word missing, and has then done nothing
but mark the place, or it has executed an instruction. -/
theorem fault_cases {fault : Fault} (failed : step program engine = .error fault after) :
    (∃ limit, engine.spentLimit? = some limit ∧
        fault = .stepLimitExceeded engine.pc limit ∧ after = engine) ∨
      (engine.spentLimit? = none ∧ program.slice? engine.pc Instruction.wordBytes = none ∧
        fault = .targetOutOfBounds engine.pc ∧ after = engine.beginInstruction) ∨
      ∃ instruction, engine.Executes program instruction := by
  have shape := step_shape program engine
  generalize step program engine = result at shape failed
  cases shape with
  | landed landing => cases failed
  | spent limit flying used =>
    cases failed
    exact Or.inl ⟨limit, used, rfl, rfl⟩
  | wordless flying unspent short =>
    cases failed
    exact Or.inr (Or.inl ⟨unspent, if_neg (Nat.not_le_of_lt short), rfl, rfl⟩)
  | executed bytes flying unspent read =>
    exact Or.inr (Or.inr ⟨_, flying, unspent, bytes, read, rfl⟩)

/-- A step that finds no word faults at once. -/
theorem step_of_wordless (unspent : engine.spentLimit? = none)
    (flying : ¬ engine.AtLanding program)
    (short : program.size < engine.pc + Instruction.wordBytes) :
    step program engine = .error (.targetOutOfBounds engine.pc) engine.beginInstruction := by
  have missing : program.slice? engine.pc Instruction.wordBytes = none :=
    if_neg (Nat.not_le_of_lt short)
  have shape := step_shape program engine
  generalize step program engine = result at shape ⊢
  cases shape with
  | landed landing => exact absurd landing flying
  | spent limit _ used =>
    rw [unspent] at used
    cases used
  | wordless _ _ _ => rfl
  | executed bytes _ _ read =>
    rw [missing] at read
    cases read

end Engine

end Quadstack
