import Mathlib
import Quadstack.Proofs.Machine.Execution
import Quadstack.Proofs.Stack.ByteLists

/-!
What a fault leaves behind. An instruction is a sequence of parts, and it ends at the first part
that fails. A part that fails has done nothing, and the parts that come before it only read or only
lower the pointer of the source stack: whatever writes a byte, sets a flag or reaches the outside
comes after everything that can fail. So a fault leaves every byte of every stack, the flags, the
sink and the peripheral as they were, and the source pointer is lower by the pops made so far. The
two pushes of an exchange are no exception. They go where its pops have made room.

The pops made so far are also what the journal reports of the instruction, so the account given here
can be checked against the one the machine gives itself.
-/

namespace Quadstack

/-! ### The parts of an instruction -/

/-- A part of an instruction that may fail. -/
inductive Part where
  /-- Reading the inline operand. -/
  | operand
  | pop (stack : StackId) (width : Width)
  | peek (stack : StackId) (width : Width)
  /-- Dividing, or any arithmetic in its place. -/
  | divide
  /-- Finding the place that a branch leads to or that a call returns to. -/
  | locate
  | push (stack : StackId) (width : Width)
deriving DecidableEq

namespace Part

/-- How many bytes a part takes off its stack. -/
def taken : Part → Nat
  | .pop _ width => width.bytes
  | _ => 0

def isPop : Part → Bool
  | .pop _ _ => true
  | _ => false

/-- The part fails in this state and raises this fault. -/
def Fails {σ π : Type} (fault : Fault) (engine : Engine σ π) : Part → Prop
  | .operand => fault = .targetOutOfBounds engine.pc
  | .pop stack width =>
    engine.bank.pointer stack < width.bytes ∧ fault = .stackUnderflow engine.current stack
  | .peek stack _ => fault = .stackUnderflow engine.current stack
  | .divide => fault = .divisionByZero engine.current
  | .locate => fault = .targetOutOfBounds engine.current
  | .push stack width =>
    1024 < engine.bank.pointer stack + width.bytes ∧ fault = .stackOverflow engine.current stack

end Part

/-- The parts of an operation on two stacks, in the order in which they are done. -/
def Operation.parts (source destination : StackId) : Operation → List Part
  | .nop | .halt _ | .reserved => []
  | .literal width => [.operand, .push destination width]
  | .copy width => [.peek source width, .push destination width]
  | .move width => [.pop source width, .push destination width]
  | .swap width =>
    [.pop source width, .pop destination width, .push destination width, .push source width]
  | .peekDeep width => [.pop source .w32, .peek source width, .push destination width]
  | .stackPointer => [.push destination .w32]
  | .delete width => [.pop source width]
  | .arith _ width =>
    [.pop source width, .pop source width, .divide, .push destination width]
  | .shift _ width => [.pop source .w8, .pop source width, .push destination width]
  | .logic _ width => [.pop source width, .pop source width, .push destination width]
  | .unary _ width => [.pop source width, .push destination width]
  | .jump _ | .ret => [.pop source .address]
  | .branch _ => [.operand, .locate]
  | .call => [.pop source .address, .locate, .push destination .address]
  | .debugText => [.operand]
  | .debugValue width => [.pop source width]

def Instruction.parts (instruction : Instruction) : List Part :=
  instruction.operation.parts instruction.sourceStack instruction.destinationStack

/-- The part that a move on a stack completes. -/
def StackMove.part : StackMove → Part
  | .push stack width _ _ => .push stack width
  | .pop stack width _ _ => .pop stack width

/-! ### States in which only pops were made -/

variable {σ π : Type}

/-- The parts done lead from one state to the other, and pops on the source are all that shows of
them: no cell is written, nothing but the source's pointer and the program counter is different, and
the journal reports the pops. -/
structure OnlyPopped (source : StackId) (done : List Part) (before after : Engine σ π) : Prop where
  cells (stack : StackId) : (after.bank.stack stack).cells = (before.bank.stack stack).cells
  others (stack : StackId) : stack ≠ source →
    after.bank.pointer stack = before.bank.pointer stack
  source : after.bank.pointer source + (done.map Part.taken).sum = before.bank.pointer source
  flags : after.flags = before.flags
  output : after.output = before.output
  peripheral : after.peripheral = before.peripheral
  reported : ∃ moves : List StackMove, moves.map StackMove.part = done.filter Part.isPop ∧
    after.journal.toList = before.journal.toList ++ moves.map Message.moved

namespace OnlyPopped

variable {source : StackId} {engine between after : Engine σ π}

/-- Parts that take nothing off leave everything in place, the program counter apart. -/
theorem of_reading {done : List Part} (pc : Nat) (reading : ∀ part ∈ done, part.isPop = false) :
    OnlyPopped source done engine { engine with pc := pc } where
  cells _ := rfl
  others _ _ := rfl
  source := by
    have nothing : (done.map Part.taken).sum = 0 := by
      refine List.sum_eq_zero fun count member => ?_
      obtain ⟨part, inside, rfl⟩ := List.mem_map.mp member
      have reads := reading part inside
      cases part with
      | pop stack width => cases reads
      | _ => rfl
    rw [nothing, Nat.add_zero]
  flags := rfl
  output := rfl
  peripheral := rfl
  reported := by
    refine ⟨[], ?_, (List.append_nil _).symm⟩
    rw [List.filter_eq_nil_iff.mpr fun part member => by simp [reading part member]]
    rfl

theorem refl (source : StackId) (engine : Engine σ π) : OnlyPopped source [] engine engine :=
  of_reading engine.pc fun _ member => by cases member

theorem popped (width : Width) (value : UInt32)
    (enough : width.bytes ≤ engine.bank.pointer source) :
    OnlyPopped source [.pop source width] engine (engine.popped source width value) where
  cells stack := by
    by_cases same : stack = source
    · subst same
      rw [engine.stack_popped_self]
      rfl
    · rw [engine.stack_popped_other source stack width value same]
  others stack different :=
    congrArg ByteStack.pointer (engine.stack_popped_other source stack width value different)
  source := by
    rw [StackBank.pointer, engine.stack_popped_self]
    exact Nat.sub_add_cancel enough
  flags := rfl
  output := rfl
  peripheral := rfl
  reported := by
    refine ⟨[.pop source width value (engine.bank.pointer source - width.bytes)], rfl, ?_⟩
    simp [Engine.popped, Engine.adopt]

theorem trans {first second : List Part} (start : OnlyPopped source first engine between)
    (rest : OnlyPopped source second between after) :
    OnlyPopped source (first ++ second) engine after where
  cells stack := (rest.cells stack).trans (start.cells stack)
  others stack different := (rest.others stack different).trans (start.others stack different)
  source := by
    rw [List.map_append, List.sum_append, ← start.source, ← rest.source]
    omega
  flags := rest.flags.trans start.flags
  output := rest.output.trans start.output
  peripheral := rest.peripheral.trans start.peripheral
  reported := by
    obtain ⟨moves, made, told⟩ := start.reported
    obtain ⟨others, madeToo, toldToo⟩ := rest.reported
    refine ⟨moves ++ others, ?_, ?_⟩
    · rw [List.map_append, List.filter_append, made, madeToo]
    · rw [toldToo, told, List.map_append, List.append_assoc]

end OnlyPopped

/-! ### Faults among parts -/

/-- Work fails, if it does, at one of the parts listed, and only pops were made before that. -/
def FaultsAmong {α : Type} (source : StackId) (parts : List Part) (work : Exec σ π α)
    (engine : Engine σ π) : Prop :=
  ∀ fault after, work engine = .error fault after →
    ∃ done part rest, parts = done ++ part :: rest ∧ OnlyPopped source done engine after ∧
      part.Fails fault after

namespace FaultsAmong

variable {α β : Type} {source : StackId} {parts : List Part} {engine : Engine σ π}
variable {work : Exec σ π α} {next : α → Exec σ π β}

/-- Work that is completed does not fail. -/
theorem of_ok {value : α} {after : Engine σ π} (completed : work engine = .ok value after) :
    FaultsAmong source parts work engine := by
  intro fault failed raised
  rw [completed] at raised
  cases raised

/-- A part that leaves everything as it was when it fails. -/
theorem single {part : Part}
    (fails : ∀ fault after, work engine = .error fault after →
      after = engine ∧ part.Fails fault engine) :
    FaultsAmong source (part :: parts) work engine := by
  intro fault after raised
  obtain ⟨rfl, failed⟩ := fails fault after raised
  exact ⟨[], part, parts, rfl, .refl source after, failed⟩

/-- The list may go on. -/
theorem extend (among : FaultsAmong source parts work engine) (more : List Part) :
    FaultsAmong source (parts ++ more) work engine := by
  intro fault after raised
  obtain ⟨done, part, rest, rfl, popped, failed⟩ := among fault after raised
  exact ⟨done, part, rest ++ more, by simp, popped, failed⟩

/-- A part, and what is done once it is completed. -/
theorem bind {part : Part}
    (fails : ∀ fault after, work engine = .error fault after →
      after = engine ∧ part.Fails fault engine)
    (continues : ∀ value between, work engine = .ok value between →
      OnlyPopped source [part] engine between ∧
        FaultsAmong source parts (next value) between) :
    FaultsAmong source (part :: parts) (work >>= next) engine := by
  intro fault after raised
  rcases Exec.bind_eq_error_iff.mp raised with first | ⟨value, between, completed, later⟩
  · exact single fails fault after first
  · obtain ⟨popped, among⟩ := continues value between completed
    obtain ⟨done, failing, rest, rfl, onlyPopped, failed⟩ := among fault after later
    exact ⟨part :: done, failing, rest, rfl, popped.trans onlyPopped, failed⟩

/-- Nothing is added by what cannot fail. -/
theorem followed (among : FaultsAmong source parts work engine)
    (safe : ∀ value between, work engine = .ok value between →
      ∃ result after, next value between = .ok result after) :
    FaultsAmong source parts (work >>= next) engine := by
  intro fault after raised
  rcases Exec.bind_eq_error_iff.mp raised with first | ⟨value, between, reached, later⟩
  · exact among fault after first
  · obtain ⟨result, last, completed⟩ := safe value between reached
    rw [completed] at later
    cases later

/-- A look at the engine, and what is done with what is seen. -/
theorem look {value : α} (seen : work engine = .ok value engine)
    (continues : FaultsAmong source parts (next value) engine) :
    FaultsAmong source parts (work >>= next) engine := by
  intro fault after raised
  rw [Exec.bind_of_ok seen] at raised
  exact continues fault after raised

theorem pop_fails (stack : StackId) (width : Width) (engine : Engine σ π) (fault : Fault)
    (after : Engine σ π) (raised : Exec.pop stack width engine = .error fault after) :
    after = engine ∧ (Part.pop stack width).Fails fault engine := by
  rcases Exec.pop_cases stack width engine with ⟨_, value, _, popped⟩ | ⟨short, failed⟩
  · rw [popped] at raised
    cases raised
  · rw [failed] at raised
    cases raised
    exact ⟨rfl, short, rfl⟩

/-- A pop from the source, and what is done with its value. -/
theorem pop (width : Width) {next : UInt32 → Exec σ π β}
    (continues : ∀ value, FaultsAmong source parts (next value)
      (engine.popped source width value)) :
    FaultsAmong source (.pop source width :: parts) (Exec.pop source width >>= next) engine := by
  refine bind (pop_fails source width engine) fun value between completed => ?_
  obtain ⟨enough, _, rfl⟩ := Exec.pop_eq_ok completed
  exact ⟨.popped width value enough, continues value⟩

/-- A peek, and what is done with its value. -/
theorem peekAt (stack : StackId) (width : Width) (depth : Nat) {next : UInt32 → Exec σ π β}
    (continues : ∀ value, FaultsAmong source parts (next value) engine) :
    FaultsAmong source (.peek stack width :: parts) (Exec.peekAt stack width depth >>= next)
      engine := by
  rcases Exec.peekAt_cases stack width depth engine with ⟨value, _, found⟩ | ⟨_, failed⟩
  · refine bind (fun fault after raised => ?_) fun seen between completed => ?_
    · rw [found] at raised
      cases raised
    · rw [found] at completed
      cases completed
      exact ⟨.of_reading engine.pc (by simp [Part.isPop]), continues _⟩
  · refine bind (fun fault after raised => ?_) fun seen between completed => ?_
    · rw [failed] at raised
      cases raised
      exact ⟨rfl, rfl⟩
    · rw [failed] at completed
      cases completed

/-- A push is the last part: nothing that follows one fails. -/
theorem push (stack : StackId) (width : Width) (value : UInt32) :
    FaultsAmong source (.push stack width :: parts) (Exec.push stack width value) engine := by
  refine single fun fault after raised => ?_
  rcases Exec.push_cases stack width value engine with ⟨_, grown, _, _, pushed⟩ | ⟨full, failed⟩
  · rw [pushed] at raised
    cases raised
  · rw [failed] at raised
    cases raised
    exact ⟨rfl, full, rfl⟩

/-- A value that must be there, and what is done with it. -/
theorem require (part : Part) (value? : Option α) (fault : Nat → Fault)
    (reading : part.isPop = false) (fails : part.Fails (fault engine.current) engine)
    (continues : ∀ value, FaultsAmong source parts (next value) engine) :
    FaultsAmong source (part :: parts) (Exec.require value? fault >>= next) engine := by
  refine bind (fun raised after failed => ?_) fun value between completed => ?_
  · cases value? with
    | some value => cases failed
    | none =>
      cases failed
      exact ⟨rfl, fails⟩
  · obtain ⟨_, rfl⟩ := Exec.require_eq_ok completed
    exact ⟨.of_reading between.pc (by simpa using reading), continues value⟩

/-- A read of the program, and what is done with the bytes read. -/
theorem take (program : Image) (count : Nat) {next : List UInt8 → Exec σ π β}
    (continues : ∀ bytes, FaultsAmong source parts (next bytes)
      { engine with pc := engine.pc + count }) :
    FaultsAmong source (.operand :: parts) (Exec.take program count >>= next) engine := by
  refine bind (fun fault after raised => ?_) fun bytes between completed => ?_
  · unfold Exec.take at raised
    cases read : program.slice? engine.pc count with
    | some bytes => simp [read] at raised
    | none =>
      rw [read] at raised
      cases raised
      exact ⟨rfl, rfl⟩
  · unfold Exec.take at completed
    cases read : program.slice? engine.pc count with
    | some bytes =>
      rw [read] at completed
      cases completed
      exact ⟨.of_reading _ (by simp [Part.isPop]), continues _⟩
    | none => simp [read] at completed

/-- A branch fails if its distance is cut off or leads before the program. -/
theorem branch (program : Image) (condition : Condition) :
    FaultsAmong source [.operand, .locate] (Exec.branch program condition) engine := by
  unfold Exec.branch Exec.fetchDistance
  simp only [bind_assoc, pure_bind]
  refine take program _ fun bytes => look rfl ?_
  split
  · exact require .locate _ _ rfl rfl fun target => of_ok rfl
  · exact of_ok rfl

theorem fetchText (program : Image) :
    FaultsAmong source (.operand :: parts) (Exec.fetchText program) engine := by
  refine single fun fault after raised => ?_
  unfold Exec.fetchText at raised
  cases found : program.zeroFrom? engine.pc with
  | some stop => simp [found] at raised
  | none =>
    rw [found] at raised
    cases raised
    exact ⟨rfl, rfl⟩

/-- The pushes of an exchange go where its pops have made room, also if it is one stack. -/
theorem swap_pushes (source destination : StackId) (width : Width) (first second : UInt32)
    (engine : Engine σ π) :
    ∃ after, (Exec.push destination width first >>= fun _ => Exec.push source width second)
      ((engine.popped source width first).popped destination width second) = .ok () after := by
  have small := width.bytes_le_four
  have bound := engine.pointer_le source
  have boundToo := engine.pointer_le destination
  generalize emptied : (engine.popped source width first).popped destination width second = between
  have atDestination : between.bank.pointer destination + width.bytes ≤ 1024 := by
    rw [← emptied, Engine.pointer_popped, if_pos rfl, Engine.pointer_popped]
    split <;> omega
  rcases Exec.push_cases destination width first between with
    ⟨_, grown, _, size, pushed⟩ | ⟨full, _⟩
  · have atSource : (between.pushed destination grown width first).bank.pointer source +
        width.bytes ≤ 1024 := by
      rw [Engine.pointer_pushed, size, ← emptied]
      simp only [Engine.pointer_popped]
      grind
    rcases Exec.push_cases source width second (between.pushed destination grown width first) with
      ⟨_, other, _, _, pushedToo⟩ | ⟨full, _⟩
    · exact ⟨_, (Exec.bind_of_ok pushed).trans pushedToo⟩
    · omega
  · omega

/-- Only the pops of an exchange can fail. -/
theorem swap (source destination : StackId) (width : Width) (engine : Engine σ π) :
    FaultsAmong source [.pop source width, .pop destination width]
      (Exec.pop source width >>= fun first =>
        Exec.pop destination width >>= fun second =>
        Exec.push destination width first >>= fun _ =>
        Exec.push source width second >>= fun _ => Acts.proceed)
      engine := by
  refine pop width fun first => followed (single (pop_fails _ width _)) ?_
  intro second between reached
  obtain ⟨_, _, rfl⟩ := Exec.pop_eq_ok reached
  obtain ⟨after, pushed⟩ := swap_pushes source destination width first second engine
  obtain ⟨_, grown, once, twice⟩ := Exec.bind_eq_ok_iff.mp pushed
  exact ⟨none, after, (Exec.bind_of_ok once).trans (Exec.bind_of_ok twice)⟩

end FaultsAmong

/-! ### Pushes that overflow -/

/-- What an operation that refills its own source pushes is no larger than what it has popped by
then. -/
theorem Operation.taken_before_push {operation : Operation} {source stack : StackId}
    {width : Width} {done rest : List Part}
    (refills : operation.affectsFlags = true ∨ operation = .call ∨
      ∃ width, operation = .move width ∨ operation = .peekDeep width)
    (parts : operation.parts source source = done ++ .push stack width :: rest) :
    stack = source ∧ width.bytes ≤ (done.map Part.taken).sum := by
  have small := width.bytes_le_four
  cases operation with
  | move own | arith _ own | shift _ own | logic _ own | unary _ own | peekDeep own | call =>
    simp only [Operation.parts, List.cons_eq_append_iff, List.nil_eq_append_iff] at parts
    grind [Part.taken, Width.bytes, Width.address]
  | _ => simp [Operation.affectsFlags] at refills

/-- Only a push that finds no room overflows. -/
theorem Part.push_of_overflow {part : Part} {engine : Engine σ π} {offset stack : Nat}
    (fails : part.Fails (.stackOverflow offset stack) engine) :
    ∃ target width, part = .push target width ∧
      1024 < engine.bank.pointer target + width.bytes := by
  cases part with
  | push target width => exact ⟨target, width, rfl, fails.1⟩
  | pop target width => cases fails.2
  | operand | peek _ _ | divide | locate => cases fails

/-! ### Faults of instructions -/

section

variable [OutputSink σ]

theorem Exec.emit_ok (event : DebugEvent) (engine : Engine σ π) :
    ∃ after, Exec.emit event engine = .ok () after := by
  unfold Exec.emit
  cases OutputSink.receive event engine.output with
  | ok value output => exact ⟨_, rfl⟩
  | error reason output => exact ⟨_, rfl⟩

variable [Peripheral π]

namespace FaultsAmong

variable {source : StackId} {parts : List Part} {engine : Engine σ π}

theorem popOperands {β : Type} (selector : UInt8) (width : Width)
    {next : UInt32 × UInt32 → Exec σ π β}
    (continues : ∀ lhs rhs, FaultsAmong (.ofSelector selector) parts (next (lhs, rhs))
      ((engine.popped (.ofSelector selector) width rhs).popped (.ofSelector selector) width lhs)) :
    FaultsAmong (.ofSelector selector)
      (.pop (.ofSelector selector) width :: .pop (.ofSelector selector) width :: parts)
      (Acts.popOperands selector width >>= next) engine := by
  unfold Acts.popOperands
  simp only [bind_assoc, pure_bind]
  exact .pop width fun rhs => .pop width fun lhs => continues lhs rhs

theorem commit (selector : UInt8) (width : Width) (result : UInt32) :
    FaultsAmong source (.push (.ofSelector selector) width :: parts)
      (Acts.commit selector width result : Exec σ π Unit) engine :=
  (FaultsAmong.push _ width result).followed fun _ _ _ => ⟨_, _, rfl⟩

end FaultsAmong

/-- An instruction of the machine's own faults at one of its parts. -/
theorem execute_faultsAmong (program : Image) (instruction : Instruction) (engine : Engine σ π)
    (own : instruction.operation ≠ .reserved) :
    FaultsAmong instruction.sourceStack instruction.parts
      (Acts.execute (m := Exec σ π) program instruction) engine := by
  unfold Acts.execute Instruction.parts
  generalize instruction.operation = operation at own ⊢
  have proceeds {α : Type} {work : Exec σ π α} {start : Engine σ π} (value : α)
      (between : Engine σ π) (_ : work start = .ok value between) :
      ∃ result after, Acts.proceed (m := Exec σ π) between = .ok result after :=
    ⟨none, between, rfl⟩
  cases operation with
  | nop => exact .of_ok rfl
  | literal width =>
    show FaultsAmong _ _ (Exec.fetchLiteral program width >>= _) engine
    unfold Exec.fetchLiteral
    simp only [bind_assoc, pure_bind]
    exact .take program _ fun bytes => (FaultsAmong.push _ width _).followed proceeds
  | copy width =>
    exact .peekAt _ width _ fun value => (FaultsAmong.push _ width value).followed proceeds
  | move width => exact .pop width fun value => (FaultsAmong.push _ width value).followed proceeds
  | swap width => exact (FaultsAmong.swap _ _ width engine).extend _
  | peekDeep width =>
    refine .pop .w32 fun depth => .peekAt _ width _ fun value => ?_
    exact (FaultsAmong.push _ width value).followed proceeds
  | stackPointer => exact .look rfl ((FaultsAmong.push _ .w32 _).followed proceeds)
  | delete width => exact .pop width fun value => .of_ok rfl
  | arith op width =>
    refine .popOperands _ width fun lhs rhs => ?_
    refine .require .divide _ _ rfl rfl fun result => ?_
    exact (FaultsAmong.commit _ width result).followed proceeds
  | shift op width =>
    refine .pop .w8 fun count => .pop width fun value => ?_
    exact (FaultsAmong.commit _ width _).followed proceeds
  | logic op width =>
    refine .popOperands _ width fun lhs rhs => ?_
    exact (FaultsAmong.commit _ width _).followed proceeds
  | unary op width =>
    exact .pop width fun value => (FaultsAmong.commit _ width _).followed proceeds
  | jump condition =>
    refine .pop .address fun target => .followed (.of_ok (Acts.jumpIf_eq condition _ _)) proceeds
  | branch condition => exact (FaultsAmong.branch program condition).followed proceeds
  | call =>
    refine .pop .address fun target => ?_
    refine .require .locate _ _ rfl rfl fun address => ?_
    exact (FaultsAmong.push _ .address address).followed fun _ _ _ => ⟨_, _, rfl⟩
  | ret => exact .pop .address fun target => .of_ok rfl
  | halt condition => exact .of_ok (Acts.haltIf_eq condition engine)
  | debugText =>
    refine (FaultsAmong.fetchText program).followed fun bytes between _ => ?_
    obtain ⟨after, emitted⟩ := Exec.emit_ok (.text bytes) between
    exact ⟨_, _, Exec.bind_of_ok emitted⟩
  | debugValue width =>
    refine .pop width fun value => ?_
    obtain ⟨after, emitted⟩ := Exec.emit_ok (.value width value) (engine.popped _ width value)
    exact .of_ok (Exec.bind_of_ok emitted)
  | reserved => exact absurd rfl own

variable {program : Image} {instruction : Instruction} {engine after : Engine σ π} {fault : Fault}

/-- An exchange never overflows. -/
theorem overflow_not_of_swap {width : Width} (exchange : instruction.operation = .swap width)
    (failed : Acts.execute (m := Exec σ π) program instruction engine = .error fault after)
    (offset stack : Nat) : fault ≠ .stackOverflow offset stack := by
  rintro rfl
  unfold Acts.execute at failed
  rw [exchange] at failed
  obtain ⟨done, part, rest, parts, _, fails⟩ := FaultsAmong.swap _ _ width engine _ after failed
  obtain ⟨target, wide, rfl, _⟩ := Part.push_of_overflow fails
  simp only [List.cons_eq_append_iff, List.nil_eq_append_iff] at parts
  grind

/-- An operation that refills its own source never overflows. -/
theorem overflow_not_of_refill (sameStack : instruction.sourceStack = instruction.destinationStack)
    (refills : instruction.operation.affectsFlags = true ∨ instruction.operation = .call ∨
      ∃ width, instruction.operation = .move width ∨ instruction.operation = .peekDeep width)
    (failed : Acts.execute (m := Exec σ π) program instruction engine = .error fault after)
    (offset stack : Nat) : fault ≠ .stackOverflow offset stack := by
  rintro rfl
  have own : instruction.operation ≠ .reserved := by
    intro reserved
    simp [reserved, Operation.affectsFlags] at refills
  obtain ⟨done, part, rest, parts, popped, fails⟩ :=
    execute_faultsAmong program instruction engine own _ after failed
  obtain ⟨target, width, rfl, full⟩ := Part.push_of_overflow fails
  rw [Instruction.parts, ← sameStack] at parts
  obtain ⟨rfl, refilled⟩ := Operation.taken_before_push refills parts
  have bound := engine.pointer_le instruction.sourceStack
  have lowered := popped.source
  omega

/-- A faulting step leaves no partial writes. If the budget is spent or the word missing, the step
changes nothing that shows. If an instruction of the machine's own faults, it does so at one of its
parts: every cell of every stack, the flags, the sink and the peripheral are as before the step, the
pointers of the stacks other than the source are too, and the source's is lower by exactly what the
parts before the failing one have popped, which are the pops that the journal reports. An
exchange never overflows, nor does a move, a deep peek, a call or an instruction of arithmetic or
logic whose source is its destination. -/
theorem fault_leaves_no_partial_writes (program : Image) (engine after : Engine σ π)
    (fault : Fault) (failed : engine.step program = .error fault after) :
    (engine.spentLimit? ≠ none ∨ program.slice? engine.pc Instruction.wordBytes = none →
      after.bank = engine.bank ∧ after.flags = engine.flags ∧ after.pc = engine.pc ∧
        after.output = engine.output ∧ after.steps = engine.steps) ∧
    ∀ instruction, engine.Executes program instruction → instruction.operation ≠ .reserved →
      (∃ done part rest, instruction.parts = done ++ part :: rest ∧ part.Fails fault after ∧
        (∀ stack, (after.bank.stack stack).cells = (engine.bank.stack stack).cells) ∧
        after.flags = engine.flags ∧ after.output = engine.output ∧
        after.peripheral = engine.peripheral ∧
        (∀ stack, stack ≠ instruction.sourceStack →
          after.bank.pointer stack = engine.bank.pointer stack) ∧
        after.bank.pointer instruction.sourceStack + (done.map Part.taken).sum =
          engine.bank.pointer instruction.sourceStack ∧
        ∃ moves : List StackMove, moves.map StackMove.part = done.filter Part.isPop ∧
          after.journal.toList = engine.journal.toList ++
            .began engine.pc instruction :: moves.map Message.moved) ∧
      ((∃ width, instruction.operation = .swap width) →
        ∀ offset stack, fault ≠ .stackOverflow offset stack) ∧
      (instruction.sourceStack = instruction.destinationStack →
        (instruction.operation.affectsFlags = true ∨ instruction.operation = .call ∨
          ∃ width, instruction.operation = .move width ∨
            instruction.operation = .peekDeep width) →
        ∀ offset stack, fault ≠ .stackOverflow offset stack) := by
  constructor
  · intro undecoded
    rcases Engine.fault_cases failed with
      ⟨limit, _, _, rfl⟩ | ⟨_, _, _, rfl⟩ | ⟨instruction, _, unspent, bytes, read, _⟩
    · exact ⟨rfl, rfl, rfl, rfl, rfl⟩
    · exact ⟨rfl, rfl, rfl, rfl, rfl⟩
    · rw [unspent, read] at undecoded
      simp at undecoded
  · intro instruction executes own
    rw [executes.step_eq] at failed
    refine ⟨?_, ?_, ?_⟩
    · obtain ⟨done, part, rest, parts, popped, fails⟩ :=
        execute_faultsAmong program instruction _ own fault after failed
      obtain ⟨moves, made, told⟩ := popped.reported
      refine ⟨done, part, rest, parts, fails, popped.cells, popped.flags, popped.output,
        popped.peripheral, popped.others, popped.source, moves, made, ?_⟩
      rw [told]
      simp [Engine.enter, Engine.countInstruction, Engine.record, Engine.beginInstruction]
    · rintro ⟨width, exchange⟩
      exact overflow_not_of_swap exchange failed
    · intro sameStack refills
      exact overflow_not_of_refill sameStack refills failed

/-- An addition that finds one byte where it needs two: the first pop stands, the second fails, and
the byte is still in its cell. -/
theorem fault_leaves_no_partial_writes_add :
    ∃ engine after : Engine ByteLog NoPeripheral,
      engine.bank.contents 0 = [5] ∧
      engine.step #[0x40, 0x00, 0x05, 0x00, 0x03] = .error (.stackUnderflow 3 0) after ∧
      after.bank.contents 0 = [] ∧
      ∀ stack, (after.bank.stack stack).cells = (engine.bank.stack stack).cells := by
  let program : Image := #[0x40, 0x00, 0x05, 0x00, 0x03]
  let engine := (Engine.standing program 1 (Engine.new ByteLog.empty NoPeripheral.mk)).2
  have failed : engine.step program = .error (.stackUnderflow 3 0) (leftBy (engine.step program)) :=
    eq_error_of_raisedBy (by decide +kernel)
  have executes : engine.Executes program ⟨0x030, 0, 0⟩ :=
    ⟨by decide +kernel, by decide +kernel, [0x00, 0x03], by decide +kernel, by decide +kernel⟩
  obtain ⟨_, account⟩ := fault_leaves_no_partial_writes program engine _ _ failed
  obtain ⟨⟨done, part, rest, _, _, cells, _⟩, _⟩ := account _ executes (by decide)
  exact ⟨engine, _, by decide +kernel, failed, by decide +kernel, cells⟩

end

end Quadstack
