import Mathlib
import Quadstack.Proofs.Machine.Emissions

/-!
A frame rule for the stacks. Bytes that lie deeper than a program ever reaches are none of its
business: put them below everything that is live, on any of the four stacks, and the program runs
as before on top of them. Only two kinds of instruction can tell the difference. One asks for
the height of a stack, the other leaves the stacks to the peripheral.

A push needs room, and with more below there is less of it. It is enough to have room where the
instruction ends, not wherever it passes: every instruction first reads and takes off, which calls
for no room at all, and then only puts on, so that it stands highest at its end. The
instructions are gone through with two judgments for these two phases.
-/

namespace Quadstack

/-! ### Banks with more below -/

/-- The second bank holds what the first one holds, on top of the given bytes. -/
def StackBank.Underlaid (below : StackId → List UInt8) (first second : StackBank) : Prop :=
  ∀ stack, second.contents stack = below stack ++ first.contents stack

/-- A stack that holds the given bytes, if it can hold so many. -/
def ByteStack.holding (bytes : List UInt8) : ByteStack :=
  (empty.append? bytes).getD empty

/-- The bank with the given bytes placed below what is live. -/
def StackBank.underlay (below : StackId → List UInt8) (bank : StackBank) : StackBank where
  byteStacks := Vector.ofFn fun stack => .holding (below stack ++ bank.contents stack)

/-- There is room for the given bytes next to what is live. -/
def StackBank.RoomFor (below : StackId → List UInt8) (bank : StackBank) : Prop :=
  ∀ stack, (below stack).length + bank.pointer stack ≤ 1024

theorem ByteStack.live_holding {bytes : List UInt8} (fits : bytes.length ≤ capacity) :
    (holding bytes).live = bytes := by
  unfold holding
  cases grown : empty.append? bytes with
  | some stack =>
    rw [Option.getD_some, live_of_append? grown, live_empty, List.nil_append]
  | none =>
    have full := (append?_eq_none_iff empty bytes).mp grown
    rw [live_empty, List.length_nil, Nat.zero_add] at full
    exact absurd fits (Nat.not_le_of_lt full)

namespace StackBank

variable {below : StackId → List UInt8} {first second : StackBank}

theorem underlaid_underlay (room : first.RoomFor below) :
    Underlaid below first (first.underlay below) := by
  intro stack
  have fits : (below stack ++ first.contents stack).length ≤ ByteStack.capacity := by
    rw [List.length_append, ← pointer_eq_length]
    exact room stack
  simp only [contents, StackBank.stack, underlay, Fin.getElem_fin, Vector.getElem_ofFn]
  exact ByteStack.live_holding fits

namespace Underlaid

theorem pointer (underlaid : Underlaid below first second) (stack : StackId) :
    second.pointer stack = (below stack).length + first.pointer stack := by
  rw [pointer_eq_length, pointer_eq_length, underlaid stack, List.length_append]

/-- What a peek finds, it finds again with more below. -/
theorem peekAt (underlaid : Underlaid below first second) {stack : StackId} {width : Width}
    {depth : Nat} {value : UInt32} (found : first.peekAt stack width depth = .ok value) :
    second.peekAt stack width depth = .ok value := by
  rw [peekAt_eq] at found ⊢
  rw [underlaid stack, List.length_append]
  split at found
  · rename_i enough
    rw [if_pos (Nat.le_trans enough (Nat.le_add_left _ _)), ← found, Nat.add_sub_assoc enough,
      List.drop_append, List.drop_eq_nil_of_le (Nat.le_add_right _ _), List.nil_append,
      Nat.add_sub_cancel_left]
  · cases found

/-- One stack is changed in both banks, and is the same as before on top of what lies below. -/
theorem update (underlaid : Underlaid below first second) {stack : StackId}
    {changed other : ByteStack} (live : other.live = below stack ++ changed.live) :
    Underlaid below (first.update stack changed) (second.update stack other) := by
  intro place
  rw [contents_update, contents_update]
  by_cases same : place = stack
  · subst same
    rw [Function.update_self, Function.update_self, live]
  · rw [Function.update_of_ne same, Function.update_of_ne same, underlaid place]

end Underlaid

end StackBank

/-! ### Engines with more below -/

variable {σ π : Type}

/-- The second engine has the given bytes below its live ones, and may have another journal; in
everything else the two are equal. -/
structure Engine.Underlaid (below : StackId → List UInt8) (first second : Engine σ π) : Prop
    extends SameCourse (StackBank.Underlaid below) Eq first second where
  output : first.output = second.output

/-- The engine with the given bytes placed below what is live. -/
def Engine.underlay (below : StackId → List UInt8) (engine : Engine σ π) : Engine σ π :=
  { engine with bank := engine.bank.underlay below }

namespace Engine.Underlaid

variable {below : StackId → List UInt8} {first second : Engine σ π}

theorem steers : Steers (Underlaid (σ := σ) (π := π) below) where
  flags underlaid := underlaid.flags
  pc underlaid := underlaid.pc
  current underlaid := underlaid.current
  setPc _ underlaid := { underlaid with pc := rfl }
  transfer _ underlaid := { underlaid with pc := rfl, landed := rfl }
  setFlags _ underlaid := { underlaid with flags := rfl }

theorem adopt (underlaid : first.Underlaid below second) {traced other : TracedBank}
    (banks : StackBank.Underlaid below traced.bank other.bank) :
    (first.adopt traced).Underlaid below (second.adopt other) :=
  { underlaid with bank := banks }

theorem emit [OutputSink σ] (event : DebugEvent) :
    Lockstep (Underlaid (σ := σ) (π := π) below) Unit (Exec.emit event) (Exec.emit event) := by
  intro first second underlaid
  unfold Exec.emit
  rw [underlaid.output]
  cases OutputSink.receive event second.output with
  | ok _ output => exact .ok () { underlaid with output := rfl }
  | error _ output => exact .ok () { underlaid with output := rfl }

theorem enter (underlaid : first.Underlaid below second) (instruction : Instruction) :
    (first.enter instruction).Underlaid below (second.enter instruction) :=
  { underlaid with
    pc := congrArg (· + 2) underlaid.pc
    current := underlaid.pc
    landed := rfl
    steps := congrArg (· + 1) underlaid.steps }

end Engine.Underlaid

open Engine.Underlaid (steers emit)

/-! ### Work that carries over -/

/-- Work that succeeds gives the same value with more below, provided that the state it ends in has
what `room` asks for. -/
def Carries {α : Type} (below : StackId → List UInt8) (room : Engine σ π → Prop)
    (work : Exec σ π α) : Prop :=
  ∀ ⦃first second value after⦄, first.Underlaid below second → work first = .ok value after →
    room after → ∃ other, work second = .ok value other ∧ after.Underlaid below other

/-- Work that carries over where there is room at its end. -/
abbrev Frames {α : Type} (below : StackId → List UInt8) (work : Exec σ π α) : Prop :=
  Carries below (fun after => after.bank.RoomFor below) work

/-- Work that only puts on: no stack is lower at its end, so room there is room all along. -/
structure Raises {α : Type} (below : StackId → List UInt8) (work : Exec σ π α) : Prop where
  frames : Frames below work
  grows {engine after : Engine σ π} {value : α} : work engine = .ok value after →
    ∀ stack, engine.bank.pointer stack ≤ after.bank.pointer stack

section

variable {α β : Type} {below : StackId → List UInt8} {room inner : Engine σ π → Prop}
variable {work : Exec σ π α} {next : α → Exec σ π β}

namespace Carries

theorem bind (start : Carries below inner work) (rest : ∀ value, Carries below room (next value))
    (enough : ∀ value between result after, next value between = .ok result after →
      room after → inner between) : Carries below room (work >>= next) := by
  intro first second result after underlaid done roomy
  obtain ⟨value, between, begun, finished⟩ := Exec.bind_eq_ok_iff.mp done
  obtain ⟨betweenToo, begunToo, underlaidBetween⟩ :=
    start underlaid begun (enough value between result after finished roomy)
  obtain ⟨other, finishedToo, underlaidAfter⟩ := rest value underlaidBetween finished roomy
  exact ⟨other, (Exec.bind_of_ok begunToo).trans finishedToo, underlaidAfter⟩

/-- After work that needs no room, what follows decides how much is needed. -/
theorem andThen (start : Carries below (fun _ => True) work)
    (rest : ∀ value, Carries below room (next value)) : Carries below room (work >>= next) :=
  start.bind rest fun _ _ _ _ _ _ => trivial

theorem of_lockstep (inStep : Lockstep (Engine.Underlaid below) α work work) :
    Carries below room work := by
  intro first second value after underlaid done _
  have same := inStep first second underlaid
  rw [done] at same
  generalize work second = result at same ⊢
  cases same with
  | ok _ underlaidAfter => exact ⟨_, rfl, underlaidAfter⟩

theorem pure (value : α) : Carries below room (pure value : Exec σ π α) :=
  .of_lockstep (.pure value)

theorem pop (stack : StackId) (width : Width) :
    Carries below room (Exec.pop stack width) := by
  intro first second value after underlaid done _
  obtain ⟨enough, top, rfl⟩ := Exec.pop_eq_ok done
  have again : second.bank.peek stack width = .ok value := underlaid.bank.peekAt top
  rcases Exec.pop_cases stack width second with ⟨_, found, topToo, popped⟩ | ⟨short, _⟩
  · rw [again] at topToo
    cases topToo
    refine ⟨_, popped, underlaid.adopt (underlaid.bank.update ?_)⟩
    have live : (second.bank.stack stack).live = below stack ++ (first.bank.stack stack).live :=
      underlaid.bank stack
    have deep : width.bytes ≤ (first.bank.stack stack).live.length := by
      rwa [ByteStack.length_live]
    rw [ByteStack.live_lower, ByteStack.live_lower, live, List.length_append,
      Nat.add_sub_assoc deep, List.take_length_add_append]
  · rw [underlaid.bank.pointer] at short
    omega

theorem peekAt (stack : StackId) (width : Width) (depth : Nat) :
    Carries below room (Exec.peekAt stack width depth) := by
  intro first second value after underlaid done _
  obtain ⟨found, rfl⟩ := Exec.peekAt_eq_ok_iff.mp done
  exact ⟨second, Exec.peekAt_eq_ok_iff.mpr ⟨underlaid.bank.peekAt found, rfl⟩, underlaid⟩

/-- An instruction ends with work that needs no room. -/
theorem last (start : Carries below (fun _ => True) work) :
    Carries below room (work >>= fun _ => Acts.proceed) :=
  start.andThen fun _ => .pure none

end Carries

namespace Raises

theorem bind (start : Raises below work) (rest : ∀ value, Raises below (next value)) :
    Raises below (work >>= next) where
  frames := by
    refine start.frames.bind (fun value => (rest value).frames) ?_
    intro value between result after finished roomy stack
    exact le_trans (Nat.add_le_add_left ((rest value).grows finished stack) _) (roomy stack)
  grows := by
    intro engine after result done stack
    obtain ⟨value, between, begun, finished⟩ := Exec.bind_eq_ok_iff.mp done
    exact le_trans (start.grows begun stack) ((rest value).grows finished stack)

/-- Work in lock step that leaves the stacks alone. -/
theorem of_lockstep (inStep : Lockstep (Engine.Underlaid below) α work work)
    (kept : ∀ engine after value, work engine = .ok value after → after.bank = engine.bank) :
    Raises below work where
  frames := .of_lockstep inStep
  grows {engine after value} done stack := by rw [kept engine after value done]

theorem pure (value : α) : Raises below (pure value : Exec σ π α) := by
  refine .of_lockstep (.pure value) ?_
  rintro engine _ _ ⟨⟩
  rfl

theorem push (stack : StackId) (width : Width) (value : UInt32) :
    Raises below (Exec.push (σ := σ) (π := π) stack width value) where
  frames := by
    intro first second _ after underlaid done roomy
    obtain ⟨grown, live, rfl⟩ := Exec.push_eq_ok done
    rcases Exec.push_cases stack width value second with
      ⟨_, grownToo, liveToo, _, pushed⟩ | ⟨full, _⟩
    · refine ⟨_, pushed, underlaid.adopt (underlaid.bank.update ?_)⟩
      rw [liveToo, live, underlaid.bank stack, List.append_assoc]
    · have place := roomy stack
      rw [Engine.pointer_pushed, if_pos rfl, ← ByteStack.length_live, live, List.length_append,
        Width.length_toBytes, ← StackBank.pointer_eq_length] at place
      rw [underlaid.bank.pointer] at full
      omega
  grows := by
    intro engine after _ done place
    obtain ⟨grown, live, rfl⟩ := Exec.push_eq_ok done
    rw [Engine.pointer_pushed]
    split
    · rename_i same
      rw [same, ← ByteStack.length_live, live, List.length_append, StackBank.pointer_eq_length]
      exact Nat.le_add_right _ _
    · exact le_rfl

theorem setFlags (width : Width) (value : UInt32) :
    Raises below (Exec.setFlags (σ := σ) (π := π) width value) := by
  refine .of_lockstep (fun _ _ underlaid => .ok () (steers.setFlags _ underlaid)) ?_
  rintro engine _ _ ⟨⟩
  rfl

theorem jumpTo (target : Nat) : Raises below (Exec.jumpTo (σ := σ) (π := π) target) := by
  refine .of_lockstep (steers.jumpTo target) ?_
  rintro engine _ _ ⟨⟩
  rfl

/-- An instruction ends with what was put on. -/
theorem last (raises : Raises below work) : Frames below (work >>= fun _ => Acts.proceed) :=
  (raises.bind fun _ => .pure none).frames

end Raises

end

/-! ### Instructions -/

section

variable [OutputSink σ] [Peripheral π] {below : StackId → List UInt8} {room : Engine σ π → Prop}

theorem Raises.commit (selector : UInt8) (width : Width) (result : UInt32) :
    Raises below (Acts.commit (m := Exec σ π) selector width result) :=
  .bind (.push _ width result) fun _ => .setFlags width result

namespace Carries

theorem popOperands (selector : UInt8) (width : Width) :
    Carries below room (Acts.popOperands selector width) :=
  .andThen (.pop _ width) fun _ => .andThen (.pop _ width) fun _ => .pure _

theorem jumpIf (condition : Condition) (target : UInt32) :
    Carries below room (Acts.jumpIf condition target) := by
  refine .andThen (.of_lockstep (steers.satisfies condition)) fun holds => ?_
  cases holds with
  | true => exact .of_lockstep (steers.jumpTo target.toNat)
  | false => exact .pure ()

theorem haltIf (condition : Condition) : Carries below room (Acts.haltIf condition) := by
  refine .andThen (.of_lockstep (steers.satisfies condition)) fun holds => ?_
  cases holds with
  | true => exact .andThen (.of_lockstep (steers.halt _)) fun _ => .pure _
  | false => exact .pure none

end Carries

/-- Every instruction that neither asks for the height of a stack nor goes to the peripheral carries
over where there is room at its end. -/
theorem frames_execute (program : Image) (instruction : Instruction)
    (unmeasured : instruction.operation ≠ .stackPointer)
    (own : instruction.operation ≠ .reserved) :
    Frames below (Acts.execute (m := Exec σ π) program instruction) := by
  unfold Acts.execute
  generalize instruction.operation = operation at unmeasured own ⊢
  cases operation with
  | nop => exact .pure none
  | literal width =>
    refine .andThen (.of_lockstep (.bind (steers.take program _) fun _ => .pure _)) fun value => ?_
    exact (Raises.push _ width value).last
  | copy width => exact .andThen (.peekAt _ width 0) fun value => (Raises.push _ width value).last
  | move width => exact .andThen (.pop _ width) fun value => (Raises.push _ width value).last
  | swap width =>
    -- Both pushes come after both pops, so room for the second is room for the first.
    refine .andThen (.pop _ width) fun first => .andThen (.pop _ width) fun second => ?_
    exact (Raises.bind (.push _ width first) fun _ => .bind (.push _ width second) fun _ =>
      .pure none).frames
  | peekDeep width =>
    refine .andThen (.pop _ .w32) fun depth => .andThen (.peekAt _ width _) fun value => ?_
    exact (Raises.push _ width value).last
  | stackPointer => exact absurd rfl unmeasured
  | delete width => exact .last (.pop _ width)
  | arith op width =>
    refine .andThen (.popOperands _ width) fun operands => ?_
    refine .andThen (.of_lockstep (steers.require _ _)) fun result => ?_
    exact (Raises.commit _ width result).last
  | shift op width =>
    refine .andThen (.pop _ .w8) fun count => .andThen (.pop _ width) fun value => ?_
    exact .andThen (.pure _) fun result => (Raises.commit _ width result).last
  | logic op width =>
    exact .andThen (.popOperands _ width) fun operands => (Raises.commit _ width _).last
  | unary op width => exact .andThen (.pop _ width) fun value => (Raises.commit _ width _).last
  | jump condition =>
    exact .andThen (.pop _ .address) fun target => .last (.jumpIf condition target)
  | branch condition => exact .last (.of_lockstep (steers.branch program condition))
  | call =>
    refine .andThen (.pop _ .address) fun target => ?_
    refine .andThen (.of_lockstep steers.returnAddress) fun address => ?_
    exact (Raises.bind (.push _ .address address) fun _ => .bind (.jumpTo target.toNat) fun _ =>
      .pure none).frames
  | ret => exact .andThen (.pop _ .address) fun target => (Raises.jumpTo target.toNat).last
  | halt condition => exact .haltIf condition
  | debugText =>
    refine .andThen (.of_lockstep (steers.fetchText program)) fun bytes => ?_
    exact .last (.of_lockstep (emit _))
  | debugValue width =>
    exact .andThen (.pop _ width) fun value => .last (.of_lockstep (emit _))
  | reserved => exact absurd rfl own

/-! ### Runs -/

namespace Engine

variable {program : Image} {first second after : Engine σ π}

/-- A step carries over, unless its instruction asks for the height of a stack or goes to the
peripheral. -/
theorem Underlaid.step (underlaid : first.Underlaid below second) {halt? : Option Halt}
    (stepped : Engine.step program first = .ok halt? after) (room : after.bank.RoomFor below)
    (plain : ∀ instruction, first.executing? program = some instruction →
      instruction.operation ≠ .stackPointer ∧ instruction.operation ≠ .reserved) :
    ∃ other, Engine.step program second = .ok halt? other ∧ after.Underlaid below other := by
  have same := underlaid.executing? program
  have shape := step_shape program first
  generalize Engine.step program first = result at shape stepped
  cases shape with
  | landed landing =>
    cases stepped
    refine ⟨second, ?_, underlaid⟩
    have place : second.AtLanding program := by
      rwa [AtLanding, ← underlaid.landed, ← underlaid.pc]
    rw [step_eq, if_pos place, underlaid.pc]
  | spent limit flying used => cases stepped
  | wordless flying unspent short => cases stepped
  | executed bytes flying unspent read =>
    have executing := executing?_eq_some_iff.mpr ⟨flying, unspent, bytes, read, rfl⟩
    obtain ⟨unmeasured, own⟩ := plain _ executing
    rw [executing] at same
    rw [(executing?_eq_some_iff.mp same.symm).step_eq]
    exact frames_execute program _ unmeasured own (underlaid.enter _) stepped room

/-- A run that never faults carries over as far as there is room after each step. -/
theorem Underlaid.standing (underlaid : first.Underlaid below second) (count : Nat)
    (sound : ∀ fault, (first.standing program count).1 ≠ some (.error fault))
    (plain : ∀ entry ∈ first.executed program count,
      entry.2.operation ≠ .stackPointer ∧ entry.2.operation ≠ .reserved)
    (room : ∀ made ≤ count, (first.standing program made).2.bank.RoomFor below) :
    (second.standing program count).1 = (first.standing program count).1 ∧
      (first.standing program count).2.Underlaid below (second.standing program count).2 ∧
      second.executed program count = first.executed program count := by
  induction count generalizing first second with
  | zero => exact ⟨rfl, underlaid, rfl⟩
  | succ count inductionHypothesis =>
    have now : ∀ instruction, first.executing? program = some instruction →
        instruction.operation ≠ .stackPointer ∧ instruction.operation ≠ .reserved := by
      intro instruction executing
      refine plain (first.pc, instruction) ?_
      rw [executed, seenAlong, executing]
      exact List.mem_append_left _ (List.mem_singleton_self _)
    have seen : (second.executing? program).map (second.pc, ·) =
        (first.executing? program).map (first.pc, ·) := by
      rw [← underlaid.executing? program, underlaid.pc]
    have next := room 1 (Nat.le_add_left 1 count)
    rw [Engine.standing] at sound next
    rw [executed, seenAlong] at plain
    rw [Engine.standing, Engine.standing, executed, executed, seenAlong, seenAlong, seen]
    cases stepped : Engine.step program first with
    | ok halt? after =>
      rw [stepped] at sound next plain
      cases halt? with
      | none =>
        obtain ⟨other, steppedToo, underlaidAfter⟩ := underlaid.step stepped next now
        have shifted : ∀ made ≤ count, (after.standing program made).2.bank.RoomFor below := by
          intro made early
          have roomy := room (made + 1) (Nat.succ_le_succ early)
          rwa [Engine.standing, stepped] at roomy
        obtain ⟨outcome, state, rest⟩ := inductionHypothesis underlaidAfter sound
          (fun entry member => plain entry (List.mem_append_right _ member)) shifted
        rw [steppedToo]
        exact ⟨outcome, state, congrArg _ rest⟩
      | some halt =>
        obtain ⟨other, steppedToo, underlaidAfter⟩ := underlaid.step stepped next now
        rw [steppedToo]
        exact ⟨rfl, { underlaidAfter with }, rfl⟩
    | error fault after =>
      rw [stepped] at sound
      exact absurd rfl (sound _)

end Engine

end

/-- The frame rule. Take any state, any program and any number of steps that are made from there
without a fault, none of them by an instruction that asks for the height of a stack or goes to the
peripheral, and any bytes for which there is room below the live ones at the start and after
each step. Then the same instructions are executed from every state with those bytes below its
live ones, and after each step the run stands as the first one does, whether it goes on or has
halted: with the same counters, flags and output, and with the live bytes of the first run on
top of those placed below. -/
theorem frame_rule [OutputSink σ] [Peripheral π] (program : Image)
    (engine : Engine σ π) (count : Nat) (below : StackId → List UInt8)
    (sound : ∀ fault, (engine.standing program count).1 ≠ some (.error fault))
    (plain : ∀ entry ∈ engine.executed program count,
      entry.2.operation ≠ .stackPointer ∧ entry.2.operation ≠ .reserved)
    (room : ∀ made ≤ count, ∀ stack,
      (below stack).length + (engine.standing program made).2.bank.pointer stack ≤ 1024) :
    engine.Underlaid below (engine.underlay below) ∧
    ∀ other, engine.Underlaid below other →
      other.executed program count = engine.executed program count ∧
      ∀ made ≤ count,
        (other.standing program made).1 = (engine.standing program made).1 ∧
        (engine.standing program made).2.Underlaid below (other.standing program made).2 := by
  refine ⟨?_, fun other underlaid => ⟨(underlaid.standing count sound plain room).2.2, ?_⟩⟩
  · have banks := StackBank.underlaid_underlay (room 0 (Nat.zero_le count))
    exact ⟨⟨banks, rfl, rfl, rfl, rfl, rfl, rfl, rfl, rfl⟩, rfl⟩
  · intro made early
    obtain ⟨rest, rfl⟩ := Nat.exists_eq_add_of_le early
    have soundSoFar : ∀ fault, (engine.standing program made).1 ≠ some (.error fault) := by
      intro fault failed
      refine sound fault ?_
      rw [Engine.standing_of_ended (Prod.ext failed rfl) early]
    have plainSoFar : ∀ entry ∈ engine.executed program made,
        entry.2.operation ≠ .stackPointer ∧ entry.2.operation ≠ .reserved := by
      intro entry member
      refine plain entry ?_
      rw [Engine.executed, Engine.seenAlong_add]
      exact List.mem_append_left _ member
    obtain ⟨outcome, state, _⟩ := underlaid.standing made soundSoFar plainSoFar
      fun earlier before => room earlier (Nat.le_trans before early)
    exact ⟨outcome, state⟩

/-- A literal, an addition and the end of the program, from a state with one byte on the first
stack: on top of other bytes the sum comes out as before. -/
theorem frame_rule_add :
    ∃ (program : Image) (engine other : Engine ByteLog NoPeripheral),
      engine.Underlaid (fun _ => [7, 8]) other ∧
      (other.standing program 3).1 = some (.ok ⟨5, .ended .always⟩) ∧
      (other.standing program 3).2.bank.contents 1 = [7, 8, 6] := by
  let program : Image := #[0x40, 0x00, 0x05, 0x01, 0x03, 0x80, 0x12]
  let engine : Engine ByteLog NoPeripheral :=
    (Engine.new ByteLog.empty NoPeripheral.mk).underlay fun stack => if stack = 0 then [1] else []
  have halts : (engine.standing program 3).1 = some (.ok ⟨5, .ended .always⟩) := by
    decide +kernel
  have sum : (engine.standing program 3).2.bank.contents 1 = [6] := by decide +kernel
  have sound : ∀ fault, (engine.standing program 3).1 ≠ some (.error fault) := by
    intro fault failed
    rw [halts] at failed
    cases failed
  obtain ⟨underlaid, carried⟩ := frame_rule program engine 3 (fun _ => [7, 8]) sound
    (by decide +kernel) (by decide +kernel)
  obtain ⟨outcome, state⟩ := (carried _ underlaid).2 3 le_rfl
  refine ⟨program, engine, _, underlaid, outcome.trans halts, ?_⟩
  rw [state.bank 1, sum]
  rfl

end Quadstack
