import Mathlib
import Quadstack.Proofs.Image.Structured
import Quadstack.Proofs.Machine.DataMovement
import Quadstack.Proofs.Machine.Disassembly
import Quadstack.Proofs.Machine.StepBudget

/-!
Literals on their way from an emission to a stack. A program that only pushes literals is simple
enough to say beforehand what it leaves: on each stack the bytes of the literals sent there, one
after the other. Between the emission and the stack lie the writer of the image, the reading of
words and operands, and the bank, and the literals pass all three unchanged.

What holds a run up is the capacity alone. The invariant of the run is that after some emissions the
machine stands where the next one begins, with the literals of the earlier ones on the stacks. It
is carried from one emission to the next while there is room, so the first literal without room
is met with all the earlier ones in place.
-/

namespace Quadstack

open Listing (Operand WellFormed)

/-! ### What is sent where -/

namespace Emission

/-- The stack that an emission sends a literal to, and the bytes of the literal. -/
def sends? : Emission → Option (StackId × List UInt8)
  | .let8 destination value =>
    some (StackId.ofSelector destination, ByteLists.lowBytes 1 value.toNat)
  | .let16 destination value =>
    some (StackId.ofSelector destination, ByteLists.lowBytes 2 value.toNat)
  | .let32 destination value =>
    some (StackId.ofSelector destination, ByteLists.lowBytes 4 value.toNat)
  | .letAddress destination address =>
    some (StackId.ofSelector destination, ByteLists.lowBytes 4 address.toNat)
  | .op _ _ _ | .word _ | .literal _ _ | .offset _ | .bytes _ | .branch _ _ | .debugText _ => none

/-- The bytes of the literals that emissions send to each stack, in the order of the emissions. -/
def sent (emissions : List Emission) : ByteLists := fun stack =>
  ((emissions.filterMap sends?).filter (·.1 = stack)).flatMap Prod.snd

/-- No stack is sent more than it can hold. -/
def Fit (emissions : List Emission) : Prop :=
  ∀ stack, (sent emissions stack).length ≤ 1024

instance (emissions : List Emission) : Decidable (Fit emissions) :=
  inferInstanceAs (Decidable (∀ _ : StackId, _ ≤ 1024))

variable {emission : Emission} {emissions before : List Emission} {stack : StackId}
variable {bytes : List UInt8}

theorem fit_nil : Fit [] := fun _ => Nat.zero_le _

/-- One more emission puts its literal on top of those before. -/
theorem sent_concat (sends : emission.sends? = some (stack, bytes)) :
    sent (before ++ [emission]) = (sent before).extend stack bytes := by
  funext other
  have last : sent (before ++ [emission]) other =
      sent before other ++ ([(stack, bytes)].filter (·.1 = other)).flatMap Prod.snd := by
    rw [sent, sent, List.filterMap_append, List.filter_append, List.flatMap_append,
      List.filterMap_cons_some sends, List.filterMap_nil]
  rw [last, ByteLists.extend]
  by_cases same : stack = other
  · rw [same, Function.update_self, List.filter_cons_of_pos (by simp),
      List.filter_nil, List.flatMap_singleton]
  · rw [Function.update_of_ne (Ne.symm same), List.filter_cons_of_neg (by simpa using same),
      List.filter_nil, List.flatMap_nil, List.append_nil]

/-- Whether one more literal fits is a question about its own stack. -/
theorem fit_concat_iff (sends : emission.sends? = some (stack, bytes)) :
    Fit (before ++ [emission]) ↔
      Fit before ∧ (sent before stack).length + bytes.length ≤ 1024 := by
  simp only [Fit, sent_concat sends, ByteLists.length_extend]
  constructor
  · intro room
    constructor
    · intro other
      have enough := room other
      split at enough
      · omega
      · exact enough
    · have own := room stack
      rwa [if_pos rfl] at own
  · rintro ⟨fit, own⟩ other
    split
    · rename_i same
      rwa [same]
    · exact fit other

theorem length_sent_replicate (sends : emission.sends? = some (stack, bytes)) (count : Nat) :
    (sent (List.replicate count emission) stack).length = count * bytes.length := by
  induction count with
  | zero =>
    rw [Nat.zero_mul]
    rfl
  | succ count inductionHypothesis =>
    rw [List.replicate_succ', sent_concat sends, ByteLists.length_extend, if_pos rfl,
      inductionHypothesis, Nat.succ_mul]

/-- If the literals do not all fit, there is a first one that does not. -/
theorem exists_first_unfit (unfit : ¬ Fit emissions) :
    ∃ before emission after, emissions = before ++ emission :: after ∧ Fit before ∧
      ¬ Fit (before ++ [emission]) := by
  induction emissions using List.reverseRecOn with
  | nil => exact absurd fit_nil unfit
  | append_singleton earlier last inductionHypothesis =>
    by_cases fit : Fit earlier
    · exact ⟨earlier, last, [], rfl, fit, unfit⟩
    · obtain ⟨before, emission, after, rfl, fits, first⟩ := inductionHypothesis fit
      refine ⟨before, emission, after ++ [last], ?_, fits, first⟩
      rw [List.append_assoc, List.cons_append]

/-! ### What is written for it -/

/-- The instruction of a literal holds its stack and its bytes, whatever the type that the literal
was given in. -/
theorem written_literal (opcode : Opcode) (destination : UInt8) {width : Width} {value : UInt32}
    {number : Nat} (kind : opcode.operation = .literal width) (same : value.toNat = number)
    (fits : number < 256 ^ width.bytes) :
    WellFormed (Instruction.ofOpcode opcode 0 destination) (.literal width value) ∧
      (Instruction.ofOpcode opcode 0 destination).destinationStack =
        StackId.ofSelector destination ∧
      width.toBytes value = ByteLists.lowBytes width.bytes number := by
  refine ⟨(Listing.listed_literal opcode destination kind same fits).1, Fin.ext ?_, ?_⟩
  · show (destination &&& 3).toNat % 4 = destination.toNat % 4
    rw [Instruction.toNat_and_three, Nat.mod_mod]
  · rw [Width.toBytes_eq_lowBytes, same]

/-- What is written for an emission that sends a literal. -/
theorem written_of_sends (sends : emission.sends? = some (stack, bytes)) :
    ∃ instruction width value,
      emission.toBytes = instruction.toBytes ++ (Operand.literal width value).toBytes ∧
      WellFormed instruction (.literal width value) ∧
      instruction.destinationStack = stack ∧ width.toBytes value = bytes := by
  cases emission with
  | let8 destination value =>
    cases sends
    exact ⟨_, .w8, value.toUInt32, rfl,
      written_literal .let8 destination rfl (UInt8.toNat_toUInt32 value) value.toNat_lt⟩
  | let16 destination value =>
    cases sends
    exact ⟨_, .w16, value.toUInt32, rfl,
      written_literal .let16 destination rfl (UInt16.toNat_toUInt32 value) value.toNat_lt⟩
  | let32 destination value =>
    cases sends
    exact ⟨_, .w32, value, rfl, written_literal .let32 destination rfl rfl value.toNat_lt⟩
  | letAddress destination address =>
    cases sends
    exact ⟨_, .w32, address, rfl, written_literal .letA destination rfl rfl address.toNat_lt⟩
  | op _ _ _ | word _ | literal _ _ | offset _ | bytes _ | branch _ _ | debugText _ => cases sends

theorem structured_of_sends (sends : emission.sends?.isSome) : emission.Structured := by
  cases emission with
  | let8 _ _ | let16 _ _ | let32 _ _ | letAddress _ _ => trivial
  | op _ _ _ | word _ | literal _ _ | offset _ | bytes _ | branch _ _ | debugText _ => cases sends

end Emission

namespace Image

theorem size_assemble (emissions : List Emission) :
    (assemble emissions).size = (emissions.flatMap Emission.toBytes).length := by
  rw [← toList_assemble, Array.length_toList]

/-- Behind structured emissions a listing finds the next instruction where it was emitted. -/
theorem mem_sweep_assemble {before after : List Emission} {emission : Emission}
    {instruction : Instruction} {operand : Operand}
    (structured : ∀ earlier ∈ before, earlier.Structured)
    (written : emission.toBytes = instruction.toBytes ++ operand.toBytes)
    (wellFormed : WellFormed instruction operand) :
    .whole (assemble before).size instruction operand ∈
      Listing.sweep (assemble (before ++ emission :: after)) := by
  have found (start : Nat) :
      .whole (start + (before.flatMap Emission.toBytes).length) instruction operand ∈
        Listing.sweepFrom start ((before ++ emission :: after).flatMap Emission.toBytes) := by
    induction before generalizing start with
    | nil =>
      rw [List.nil_append, List.flatMap_cons, written, wellFormed.sweepFrom]
      exact List.mem_cons_self
    | cons first rest inductionHypothesis =>
      rw [List.forall_mem_cons] at structured
      obtain ⟨leading, leadingOperand, bytes, leads, _⟩ := structured.1.listed
      have length : first.toBytes.length = Instruction.wordBytes + leadingOperand.size := by
        rw [bytes, List.length_append, leading.length_toBytes, leadingOperand.length_toBytes]
      rw [List.cons_append, List.flatMap_cons, List.flatMap_cons, List.length_append, length,
        bytes, leads.sweepFrom, ← Nat.add_assoc, ← Nat.add_assoc]
      exact List.mem_cons_of_mem _ (inductionHypothesis structured.2 _)
  rw [size_assemble, Listing.sweep, toList_assemble, ← Nat.zero_add (List.length _)]
  exact found 0

end Image

/-! ### Steps -/

namespace Engine

variable {σ π : Type}

section

variable [OutputSink σ] [Peripheral π] {program : Image} {engine : Engine σ π}
variable {instruction : Instruction} {width : Width} {value : UInt32}

/-- A literal for which there is room goes onto its stack, and the machine behind it. -/
theorem step_of_room (unspent : engine.spentLimit? = none)
    (member : .whole engine.pc instruction (.literal width value) ∈ Listing.sweep program)
    (room : (engine.bank.contents instruction.destinationStack).length + width.bytes ≤ 1024) :
    ∃ after, step program engine = .ok none after ∧
      after.pc = engine.pc + (Instruction.wordBytes + width.bytes) ∧
      after.bank.contents =
        ByteLists.extend engine.bank.contents instruction.destinationStack
          (width.toBytes value) := by
  obtain ⟨executes, found⟩ := executes_of_whole unspent member
  have fetched : ((engine.fetched instruction (.literal width value)).bank.contents
      instruction.destinationStack).length + width.bytes ≤ 1024 := room
  obtain ⟨grown, pushed, contents⟩ := Exec.push_of_room value fetched
  refine ⟨_, (executes.step_of_found found).trans (Exec.bind_of_ok pushed), ?_, contents⟩
  exact Nat.add_assoc _ _ _

/-- A literal without room is a fault at its instruction and changes no stack. -/
theorem step_of_full (unspent : engine.spentLimit? = none)
    (member : .whole engine.pc instruction (.literal width value) ∈ Listing.sweep program)
    (full : 1024 < (engine.bank.contents instruction.destinationStack).length + width.bytes) :
    step program engine =
      .error (.stackOverflow engine.pc instruction.destinationStack)
        (engine.fetched instruction (.literal width value)) := by
  obtain ⟨executes, found⟩ := executes_of_whole unspent member
  have fetched : 1024 < ((engine.fetched instruction (.literal width value)).bank.contents
      instruction.destinationStack).length + width.bytes := full
  have failed := Exec.push_of_full value fetched
  exact (executes.step_of_found found).trans (Exec.bind_of_error failed)

/-- An unconditional end halts where it stands, and counts. -/
theorem step_of_end (unspent : engine.spentLimit? = none)
    (member : .whole engine.pc (Instruction.ofOpcode .endAlways 0 0) .absent ∈
      Listing.sweep program) :
    step program engine =
      .ok (some ⟨engine.pc, .ended .always⟩)
        (engine.fetched (Instruction.ofOpcode .endAlways 0 0) .absent) := by
  obtain ⟨executes, found⟩ := executes_of_whole unspent member
  rw [executes.step_of_found found]
  exact Acts.haltIf_eq .always _

end

/-! ### Runs -/

/-- The machine stands behind emissions, with their literals on the stacks. -/
structure Received (engine : Engine σ π) (emissions : List Emission) : Prop where
  pc : engine.pc = (Image.assemble emissions).size
  contents : engine.bank.contents = Emission.sent emissions

theorem received_reset (engine : Engine σ π) : engine.reset.Received [] where
  pc := rfl
  contents := funext engine.bank.contents_reset

variable {state : Engine σ π} {before rest : List Emission} {emission : Emission}

/-- What was emitted next stands where the machine does. -/
theorem Received.line (received : state.Received before)
    (literals : ∀ earlier ∈ before, earlier.sends?.isSome) {instruction : Instruction}
    {operand : Operand} (written : emission.toBytes = instruction.toBytes ++ operand.toBytes)
    (wellFormed : WellFormed instruction operand) (after : List Emission) :
    .whole state.pc instruction operand ∈
      Listing.sweep (Image.assemble (before ++ emission :: after)) := by
  have structured : ∀ earlier ∈ before, earlier.Structured := fun earlier inside =>
    Emission.structured_of_sends (literals earlier inside)
  rw [received.pc]
  exact Image.mem_sweep_assemble structured written wellFormed

variable [OutputSink σ] [Peripheral π] {engine after : Engine σ π} {program : Image}
variable {count fuel : Nat}

/-- While there is room, the next emission is received like those before it. -/
theorem Received.step (received : state.Received before) (unspent : state.spentLimit? = none)
    (literals : ∀ earlier ∈ before, earlier.sends?.isSome) (literal : emission.sends?.isSome)
    (fit : Emission.Fit (before ++ [emission])) :
    ∃ next, step (Image.assemble (before ++ emission :: rest)) state = .ok none next ∧
      next.Received (before ++ [emission]) := by
  obtain ⟨⟨stack, bytes⟩, sends⟩ := Option.isSome_iff_exists.mp literal
  obtain ⟨instruction, width, value, written, wellFormed, rfl, rfl⟩ :=
    Emission.written_of_sends sends
  have room := ((Emission.fit_concat_iff sends).mp fit).2
  rw [← received.contents, Width.length_toBytes] at room
  obtain ⟨next, stepped, pc, contents⟩ :=
    step_of_room unspent (received.line literals written wellFormed rest) room
  refine ⟨next, stepped, ?_, ?_⟩
  · rw [pc, received.pc, Image.size_assemble, Image.size_assemble, List.flatMap_append,
      List.flatMap_singleton, List.length_append, written, List.length_append,
      instruction.length_toBytes, Operand.length_toBytes]
    rfl
  · rw [contents, received.contents, Emission.sent_concat sends]

theorem unspent_of_going (free : engine.stepLimit = none)
    (going : engine.reset.standing program count = (none, state)) :
    state.spentLimit? = none := by
  have kept : state.stepLimit = engine.reset.stepLimit :=
    congrArg (fun entries => entries.2.1) (ledger_of_going going)
  exact spentLimit?_of_free (kept.trans free)

/-- A run ends with the halt that a step gives. -/
theorem run?_of_halted (going : engine.reset.standing program count = (none, state))
    {halt : Halt} (halted : state.step program = .ok (some halt) after) (enough : count < fuel) :
    run? program fuel engine = some (.ok halt, after.conclude halt) := by
  have last : state.standing program 1 = (some (.ok halt), after.conclude halt) := by
    rw [standing, halted]
  have ended := (standing_succ_of_going going).trans last
  exact continue?_eq_some_iff.mpr (standing_of_ended ended enough)

/-- A run ends with the first fault that a step raises, as its latch was empty until then. -/
theorem run?_of_faulted (going : engine.reset.standing program count = (none, state))
    {fault : Fault} (faulted : state.step program = .error fault after) (enough : count < fuel) :
    run? program fuel engine = some (.error fault, after.latch fault) := by
  have clear : state.fault = none :=
    congrArg (fun entries => entries.2.2) (ledger_of_going going)
  have kept := (ledger_leftBy_step program state).2.2
  rw [faulted, clear] at kept
  have last : state.standing program 1 = (some (.error fault), after.latch fault) := by
    rw [standing, faulted]
    show (some (Except.error (after.latchedFault fault)), _) = _
    rw [latchedFault, show after.fault = none from kept, Option.getD_none]
  have ended := (standing_succ_of_going going).trans last
  exact continue?_eq_some_iff.mpr (standing_of_ended ended enough)

/-- A run receives literals one by one, as long as they fit. -/
theorem received_of_fit (free : engine.stepLimit = none)
    (literals : ∀ earlier ∈ before, earlier.sends?.isSome) (fit : Emission.Fit before)
    (rest : List Emission) :
    ∃ state, engine.reset.standing (Image.assemble (before ++ rest)) before.length =
        (none, state) ∧ state.Received before := by
  -- What is received grows at its end, so the induction takes emissions off there.
  induction before using List.reverseRecOn generalizing rest with
  | nil => exact ⟨engine.reset, rfl, received_reset engine⟩
  | append_singleton earlier last inductionHypothesis =>
    rw [List.forall_mem_append, List.forall_mem_singleton] at literals
    obtain ⟨⟨stack, bytes⟩, sends⟩ := Option.isSome_iff_exists.mp literals.2
    obtain ⟨state, going, received⟩ := inductionHypothesis literals.1
      ((Emission.fit_concat_iff sends).mp fit).1 (last :: rest)
    obtain ⟨next, stepped, receivedToo⟩ :=
      received.step (unspent_of_going free going) literals.1 literals.2 fit
    refine ⟨next, ?_, receivedToo⟩
    rw [List.append_assoc, List.singleton_append, List.length_append, List.length_singleton]
    exact going_succ_iff.mpr ⟨state, going, stepped⟩

/-- Literals that fit are followed by the end of the run. -/
theorem run?_of_fit (free : engine.stepLimit = none)
    (literals : ∀ earlier ∈ before, earlier.sends?.isSome) (fit : Emission.Fit before) :
    ∃ final,
      (∀ fuel, before.length < fuel →
        run? (Image.assemble (before ++ [.op .endAlways 0 0])) fuel engine =
          some (.ok ⟨(Image.assemble before).size, .ended .always⟩, final)) ∧
      final.steps = before.length + 1 ∧ final.bank.contents = Emission.sent before := by
  obtain ⟨state, going, received⟩ :=
    received_of_fit free literals fit [.op .endAlways 0 0]
  have wellFormed : WellFormed (Instruction.ofOpcode .endAlways 0 0) .absent := by
    refine ⟨Instruction.decode_encode_ofOpcode .endAlways 0 0, ?_, trivial⟩
    rw [Instruction.operation, Instruction.ofOpcode, Opcode.ofCode_code]
    rfl
  have written : (Emission.op .endAlways 0 0).toBytes =
      (Instruction.ofOpcode .endAlways 0 0).toBytes ++ Operand.absent.toBytes := by
    rw [Emission.toBytes, Emission.opToBytes, Operand.toBytes, List.append_nil]
  have line := received.line literals written wellFormed []
  have stepped := step_of_end (unspent_of_going free going) line
  rw [received.pc] at stepped
  have counted : state.steps = 0 + before.length := congrArg Prod.fst (ledger_of_going going)
  refine ⟨_, fun fuel enough => run?_of_halted going stepped enough, ?_, received.contents⟩
  show state.steps + 1 = _
  rw [counted, Nat.zero_add]

/-- A literal that no longer fits ends the run, whatever follows it. -/
theorem run?_of_unfit (free : engine.stepLimit = none)
    (literals : ∀ earlier ∈ before, earlier.sends?.isSome) (fit : Emission.Fit before)
    {stack : StackId} {bytes : List UInt8} (sends : emission.sends? = some (stack, bytes))
    (full : 1024 < (Emission.sent before stack).length + bytes.length) :
    ∃ final,
      (∀ fuel, before.length < fuel →
        run? (Image.assemble (before ++ emission :: rest)) fuel engine =
          some (.error (.stackOverflow (Image.assemble before).size stack), final)) ∧
      final.bank.contents = Emission.sent before := by
  obtain ⟨state, going, received⟩ :=
    received_of_fit free literals fit (emission :: rest)
  obtain ⟨instruction, width, value, written, wellFormed, rfl, rfl⟩ :=
    Emission.written_of_sends sends
  rw [← received.contents, Width.length_toBytes] at full
  have line := received.line literals written wellFormed rest
  have stepped := step_of_full (unspent_of_going free going) line full
  rw [received.pc] at stepped
  exact ⟨_, fun fuel enough => run?_of_faulted going stepped enough, received.contents⟩

/-- Literals arrive as they were emitted. A program of emissions that push literals, with an
unconditional end behind them, leaves on each stack the bytes of the literals sent to it, in order
and least significant byte first, if no stack is sent more than it can hold: the run then halts at
the end after one step for each emission and one for the end. If a stack is sent more, the run ends
at the first literal for which there is no room, with a fault at the place where it was emitted,
and the stacks hold exactly the literals before it. -/
theorem built_literals_arrive (emissions : List Emission)
    (literals : ∀ emission ∈ emissions, emission.sends?.isSome) (engine : Engine σ π)
    (free : engine.stepLimit = none) :
    (Emission.Fit emissions →
      ∃ final : Engine σ π,
        (∀ fuel, emissions.length < fuel →
          run? (Image.assemble (emissions ++ [.op .endAlways 0 0])) fuel engine =
            some (.ok ⟨(Image.assemble emissions).size, .ended .always⟩, final)) ∧
        final.steps = emissions.length + 1 ∧ final.bank.contents = Emission.sent emissions) ∧
    (¬ Emission.Fit emissions →
      ∃ (before : List Emission) (emission : Emission) (after : List Emission) (stack : StackId)
        (bytes : List UInt8),
        emissions = before ++ emission :: after ∧ Emission.Fit before ∧
        emission.sends? = some (stack, bytes) ∧
        1024 < (Emission.sent before stack).length + bytes.length ∧
        ∃ final : Engine σ π,
          (∀ fuel, before.length < fuel →
            run? (Image.assemble (emissions ++ [.op .endAlways 0 0])) fuel engine =
              some (.error (.stackOverflow (Image.assemble before).size stack), final)) ∧
          final.bank.contents = Emission.sent before) := by
  refine ⟨run?_of_fit free literals, fun unfit => ?_⟩
  obtain ⟨before, emission, after, rfl, fit, first⟩ := Emission.exists_first_unfit unfit
  rw [List.forall_mem_append, List.forall_mem_cons] at literals
  obtain ⟨⟨stack, bytes⟩, sends⟩ := Option.isSome_iff_exists.mp literals.2.1
  have full : 1024 < (Emission.sent before stack).length + bytes.length := by
    rw [Emission.fit_concat_iff sends] at first
    exact Nat.lt_of_not_le fun room => first ⟨fit, room⟩
  refine ⟨before, emission, after, stack, bytes, rfl, fit, sends, full, ?_⟩
  rw [List.append_assoc, List.cons_append]
  exact run?_of_unfit free literals.1 fit sends full

/-- Literals of three widths, two of them on one stack, arrive; of 257 literals of four bytes on one
stack, the last finds no room. -/
theorem built_literals_arrive_mixed :
    ∃ (mixed crowded : List Emission) (engine : Engine ByteLog NoPeripheral),
      mixed = [.let8 5 7, .let16 1 0x0102, .letAddress 255 0xa0b0c0d0] ∧
      crowded = List.replicate 257 (.let32 2 1) ∧ engine.stepLimit = none ∧
      (∃ final,
        run? (Image.assemble (mixed ++ [.op .endAlways 0 0])) 4 engine =
          some (.ok ⟨13, .ended .always⟩, final) ∧
        final.steps = 4 ∧ final.bank.contents (StackId.ofSelector 1) = [7, 0x02, 0x01] ∧
        final.bank.contents (StackId.ofSelector 3) = [0xd0, 0xc0, 0xb0, 0xa0]) ∧
      ∃ final,
        run? (Image.assemble (crowded ++ [.op .endAlways 0 0])) 258 engine =
          some (.error (.stackOverflow 1536 (StackId.ofSelector 2)), final) ∧
        (final.bank.contents (StackId.ofSelector 2)).length = 1024 := by
  let mixed : List Emission := [.let8 5 7, .let16 1 0x0102, .letAddress 255 0xa0b0c0d0]
  let crowded : List Emission := List.replicate 257 (.let32 2 1)
  let engine : Engine ByteLog NoPeripheral := Engine.new ByteLog.empty NoPeripheral.mk
  have literals : ∀ emission ∈ mixed, emission.sends?.isSome := by decide
  have alsoLiterals : ∀ emission ∈ crowded, emission.sends?.isSome := by
    intro emission member
    rw [List.eq_of_mem_replicate member]
    rfl
  refine ⟨mixed, crowded, engine, rfl, rfl, rfl, ?_, ?_⟩
  · obtain ⟨final, halts, steps, contents⟩ :=
      (built_literals_arrive mixed literals engine rfl).1 (by decide +kernel)
    have size : (Image.assemble mixed).size = 13 := by decide +kernel
    rw [size] at halts
    refine ⟨final, halts 4 (by decide), steps, ?_, ?_⟩
    · rw [contents]
      decide +kernel
    · rw [contents]
      decide +kernel
  · have sends : Emission.sends? (.let32 2 1) =
        some (StackId.ofSelector 2, ByteLists.lowBytes 4 1) := rfl
    have four : (ByteLists.lowBytes 4 1).length = 4 := rfl
    obtain ⟨before, emission, after, stack, bytes, split, fit, sendsToo, full, final, faults,
      contents⟩ := (built_literals_arrive crowded alsoLiterals engine rfl).2 (by decide +kernel)
    obtain ⟨_, same, rest⟩ := List.replicate_eq_append_iff.mp split
    obtain rfl : emission = .let32 2 1 := (List.cons.inj rest).1
    cases sends.symm.trans sendsToo
    -- What was sent before leaves room for less than another literal.
    have sentBefore := Emission.length_sent_replicate sends before.length
    rw [← same] at sentBefore
    have room := fit (StackId.ofSelector 2)
    rw [four] at sentBefore full
    have filled : before.length = 256 := by omega
    have size : (Image.assemble before).size = 1536 := by
      rw [same, filled]
      decide +kernel
    rw [size] at faults
    refine ⟨final, faults 258 (by omega), ?_⟩
    rw [contents, sentBefore, filled]

end Engine

end Quadstack
