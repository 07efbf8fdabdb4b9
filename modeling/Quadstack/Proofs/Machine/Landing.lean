import Mathlib
import Quadstack.Proofs.Machine.Operands
import Quadstack.Proofs.Machine.StepBudget

/-!
Landing. A run may end normally at the end of its program, but only if control was transferred
there; running into the end is a fault. Whether it was transferred is all that the machine
remembers of its past besides the state it computes on, in one mark that every instruction clears
before it is read. So what has to be shown is that the mark stands after an instruction exactly if
that instruction was a jump or a branch whose condition held, a call or a return, and that the
program counter is then where this instruction led. The rest follows from the order in which a step
looks at things: first at the mark, then at the budget, then at the program.
-/

namespace Quadstack

variable {σ π : Type}

namespace Engine

/-! ### Where transfers lead -/

/-- The distance that stands behind the word at the program counter, if both its bytes are there. -/
def distance? (program : Image) (engine : Engine σ π) : Option Int16 :=
  (program.slice? (engine.pc + Instruction.wordBytes) Width.w16.bytes).map fun bytes =>
    (Instruction.wordOfBytes bytes).toInt16

/-- Where a branch leads: the offset just past its operand and the distance, added as integers. -/
def branchEnd (engine : Engine σ π) (distance : Int16) : Int :=
  engine.pc + Instruction.wordBytes + Width.w16.bytes + distance.toInt

/-- The place to which an instruction transfers control in a state, if it completes: the address on
top of its source, or the end of the branch. There is none if its condition does not hold. -/
inductive Leads (program : Image) (engine : Engine σ π) (instruction : Instruction) :
    Int → Prop where
  | jump {condition : Condition} {address : UInt32}
      (operation : instruction.operation = .jump condition)
      (taken : engine.flags.satisfies condition = true)
      (top : engine.bank.peek instruction.sourceStack .address = .ok address) :
      Leads program engine instruction address.toNat
  | branch {condition : Condition} {distance : Int16}
      (operation : instruction.operation = .branch condition)
      (taken : engine.flags.satisfies condition = true)
      (read : engine.distance? program = some distance) :
      Leads program engine instruction (engine.branchEnd distance)
  | call {address : UInt32} (operation : instruction.operation = .call)
      (top : engine.bank.peek instruction.sourceStack .address = .ok address) :
      Leads program engine instruction address.toNat
  | ret {address : UInt32} (operation : instruction.operation = .ret)
      (top : engine.bank.peek instruction.sourceStack .address = .ok address) :
      Leads program engine instruction address.toNat

/-- A branch that could be read leads to no place that a machine address cannot hold. -/
theorem branchEnd_lt {program : Image} {engine : Engine σ π} (short : program.size < 2 ^ 63)
    {distance : Int16} (read : engine.distance? program = some distance) :
    engine.branchEnd distance < 2 ^ 64 := by
  obtain ⟨bytes, found, _⟩ := Option.map_eq_some_iff.mp read
  have inside := Image.le_size_of_slice? found
  have far := distance.toInt_lt
  rw [branchEnd]
  omega

variable [OutputSink σ] [Peripheral π]

/-- The next step completes a transfer of control to a place. -/
def TransfersTo (program : Image) (engine : Engine σ π) (target : Int) : Prop :=
  ∃ instruction after, engine.Executes program instruction ∧
    engine.Leads program instruction target ∧ step program engine = .ok none after

/-! ### Steps that transfer control -/

section

variable {program : Image} {engine after : Engine σ π} {instruction : Instruction}
variable {condition : Condition}

/-- A jump takes its address off the source, whether it is taken or not. -/
theorem Executes.jump_cases (executes : engine.Executes program instruction)
    (operation : instruction.operation = .jump condition) :
    (Width.address.bytes ≤ engine.bank.pointer instruction.sourceStack ∧
        ∃ address, engine.bank.peek instruction.sourceStack .address = .ok address ∧
        step program engine = .ok none
          (if engine.flags.satisfies condition then
            { (engine.enter instruction).popped instruction.sourceStack .address address with
              pc := address.toNat, landed := true }
          else (engine.enter instruction).popped instruction.sourceStack .address address)) ∨
      (engine.bank.pointer instruction.sourceStack < Width.address.bytes ∧
        step program engine =
          .error (.stackUnderflow engine.pc instruction.sourceStack)
            (engine.enter instruction)) := by
  rw [executes.step_eq, Acts.execute, operation]
  rcases Exec.pop_cases instruction.sourceStack .address (engine.enter instruction) with
    ⟨enough, address, top, popped⟩ | ⟨short, failed⟩
  · refine Or.inl ⟨enough, address, top, ?_⟩
    exact (Exec.bind_of_ok popped).trans (Exec.bind_of_ok (Acts.jumpIf_eq condition address _))
  · exact Or.inr ⟨short, Exec.bind_of_error failed⟩

/-- A call goes to the address on top of the source. -/
theorem Executes.place_of_call (executes : engine.Executes program instruction)
    (operation : instruction.operation = .call) (stepped : step program engine = .ok none after) :
    ∃ address, engine.bank.peek instruction.sourceStack .address = .ok address ∧
      after.place = (address.toNat, true) := by
  rw [executes.step_eq, Acts.execute, operation] at stepped
  obtain ⟨address, _, popped, rest⟩ := Exec.bind_eq_ok_iff.mp stepped
  obtain ⟨_, _, _, rest⟩ := Exec.bind_eq_ok_iff.mp rest
  obtain ⟨_, _, _, jumped⟩ := Exec.bind_eq_ok_iff.mp rest
  obtain ⟨_, top, _⟩ := Exec.pop_eq_ok popped
  cases jumped
  exact ⟨address, top, rfl⟩

/-- A return goes to the address on top of the source. -/
theorem Executes.place_of_ret (executes : engine.Executes program instruction)
    (operation : instruction.operation = .ret) (stepped : step program engine = .ok none after) :
    ∃ address, engine.bank.peek instruction.sourceStack .address = .ok address ∧
      after.place = (address.toNat, true) := by
  rw [executes.step_eq, Acts.execute, operation] at stepped
  obtain ⟨address, _, popped, jumped⟩ := Exec.bind_eq_ok_iff.mp stepped
  obtain ⟨_, top, _⟩ := Exec.pop_eq_ok popped
  cases jumped
  exact ⟨address, top, rfl⟩

/-- A branch reads its distance, whether it is taken or not. -/
theorem Executes.branch_cases (executes : engine.Executes program instruction)
    (operation : instruction.operation = .branch condition) :
    (∃ distance, engine.distance? program = some distance ∧
        step program engine =
          if engine.flags.satisfies condition then
            if engine.branchEnd distance < 0 then
              .error (.targetOutOfBounds engine.pc)
                (engine.fetched instruction (.offset distance))
            else
              .ok none { engine.fetched instruction (.offset distance) with
                pc := (engine.branchEnd distance).toNat, landed := true }
          else .ok none (engine.fetched instruction (.offset distance))) ∨
      (engine.distance? program = none ∧
        step program engine =
          .error (.targetOutOfBounds (engine.pc + Instruction.wordBytes))
            (engine.enter instruction)) := by
  have operand : program.operandAt? (engine.pc + Instruction.wordBytes)
      instruction.operation.inlineOperand? = (engine.distance? program).map .offset := by
    rw [operation, distance?, Option.map_map]
    rfl
  cases read : engine.distance? program with
  | none =>
    rw [read] at operand
    exact Or.inr ⟨rfl, executes.step_of_missing operand⟩
  | some distance =>
    rw [read] at operand
    refine Or.inl ⟨distance, rfl, ?_⟩
    rw [executes.step_of_found operand, Exec.carryOut, operation]
    have ends : ((engine.fetched instruction (.offset distance)).pc : Int) + distance.toInt =
        engine.branchEnd distance := by
      rw [fetched, branchEnd]
      push_cast
      rfl
    have gone := Exec.branchBy_eq condition distance (engine.fetched instruction (.offset distance))
    rw [ends] at gone
    by_cases taken : engine.flags.satisfies condition
    · rw [if_pos taken]
      rw [if_pos (show (engine.fetched _ _).flags.satisfies condition from taken)] at gone
      by_cases before : engine.branchEnd distance < 0
      · rw [if_pos before] at gone ⊢
        exact Exec.bind_of_error gone
      · rw [if_neg before] at gone ⊢
        exact Exec.bind_of_ok gone
    · rw [if_neg taken]
      rw [if_neg (show ¬ (engine.fetched _ _).flags.satisfies condition from taken)] at gone
      exact Exec.bind_of_ok gone

/-- A transfer that completes leads where it says and leaves its mark. -/
theorem Leads.place_of_going {target : Int} (leads : engine.Leads program instruction target)
    (executes : engine.Executes program instruction)
    (stepped : step program engine = .ok none after) :
    after.landed = true ∧ (after.pc : Int) = target := by
  cases leads with
  | jump operation taken top =>
    rcases executes.jump_cases operation with ⟨_, address, found, done⟩ | ⟨_, failed⟩
    · rw [top] at found
      rw [stepped, if_pos taken] at done
      cases found
      cases done
      exact ⟨rfl, rfl⟩
    · rw [stepped] at failed
      cases failed
  | branch operation taken read =>
    rcases executes.branch_cases operation with ⟨distance, found, done⟩ | ⟨_, failed⟩
    · rw [read] at found
      rw [stepped, if_pos taken] at done
      cases found
      split at done
      · cases done
      · rename_i ahead
        cases done
        exact ⟨rfl, Int.toNat_of_nonneg (Int.not_lt.mp ahead)⟩
    · rw [stepped] at failed
      cases failed
  | call operation top =>
    obtain ⟨address, found, place⟩ := executes.place_of_call operation stepped
    rw [top] at found
    cases found
    exact ⟨congrArg Prod.snd place, congrArg (fun place => (place.1 : Int)) place⟩
  | ret operation top =>
    obtain ⟨address, found, place⟩ := executes.place_of_ret operation stepped
    rw [top] at found
    cases found
    exact ⟨congrArg Prod.snd place, congrArg (fun place => (place.1 : Int)) place⟩

/-- An instruction that is no transfer leaves no mark. -/
theorem Executes.flying_of_still (executes : engine.Executes program instruction)
    (still : instruction.operation.isTransfer = false)
    (stepped : step program engine = .ok none after) : after.landed = false := by
  cases found : program.operandAt? (engine.pc + Instruction.wordBytes)
      instruction.operation.inlineOperand? with
  | none =>
    rw [executes.step_of_missing found] at stepped
    cases stepped
  | some operand =>
    have place := executes.place_of_still still found
    rw [stepped] at place
    exact congrArg Prod.snd place

/-- The mark is only left by a transfer. -/
theorem Executes.leads_of_landed (executes : engine.Executes program instruction)
    (stepped : step program engine = .ok none after) (landed : after.landed = true) :
    ∃ target, engine.Leads program instruction target := by
  cases operation : instruction.operation with
  | jump condition =>
    rcases executes.jump_cases operation with ⟨_, address, top, done⟩ | ⟨_, failed⟩
    · by_cases taken : engine.flags.satisfies condition
      · exact ⟨_, .jump operation taken top⟩
      · rw [stepped, if_neg taken] at done
        cases done
        cases landed
    · rw [stepped] at failed
      cases failed
  | branch condition =>
    rcases executes.branch_cases operation with ⟨distance, read, done⟩ | ⟨_, failed⟩
    · by_cases taken : engine.flags.satisfies condition
      · exact ⟨_, .branch operation taken read⟩
      · rw [stepped, if_neg taken] at done
        cases done
        cases landed
    · rw [stepped] at failed
      cases failed
  | call =>
    obtain ⟨address, top, _⟩ := executes.place_of_call operation stepped
    exact ⟨_, .call operation top⟩
  | ret =>
    obtain ⟨address, top, _⟩ := executes.place_of_ret operation stepped
    exact ⟨_, .ret operation top⟩
  | _ =>
    have flying := executes.flying_of_still (by rw [operation]; rfl) stepped
    rw [landed] at flying
    cases flying

theorem TransfersTo.place {target : Int} (transfers : engine.TransfersTo program target)
    (stepped : step program engine = .ok none after) :
    after.landed = true ∧ (after.pc : Int) = target := by
  obtain ⟨instruction, _, executes, leads, _⟩ := transfers
  exact leads.place_of_going executes stepped

theorem transfersTo_of_landed (stepped : step program engine = .ok none after)
    (landed : after.landed = true) : engine.TransfersTo program after.pc := by
  obtain ⟨instruction, executes⟩ := executes_of_going stepped
  obtain ⟨target, leads⟩ := executes.leads_of_landed stepped landed
  obtain ⟨_, rfl⟩ := leads.place_of_going executes stepped
  exact ⟨instruction, after, executes, leads, stepped⟩

end

/-! ### Operands of transfers that are not taken -/

section

variable {program : Image} {engine : Engine σ π} {instruction : Instruction}
variable {condition : Condition}

/-- A conditional jump takes an address off its source, whether it is taken or not, and fails for
want of one in either case. -/
structure JumpConsumes (program : Image) (engine : Engine σ π) (instruction : Instruction)
    (condition : Condition) : Prop where
  missing : engine.bank.pointer instruction.sourceStack < Width.address.bytes →
    step program engine =
      .error (.stackUnderflow engine.pc instruction.sourceStack) (engine.enter instruction)
  consumed : Width.address.bytes ≤ engine.bank.pointer instruction.sourceStack →
    ∃ address after, engine.bank.peek instruction.sourceStack .address = .ok address ∧
      step program engine = .ok none after ∧
      after.bank.contents = Function.update engine.bank.contents instruction.sourceStack
        ((engine.bank.contents instruction.sourceStack).rdrop Width.address.bytes) ∧
      after.place = if engine.flags.satisfies condition then (address.toNat, true)
        else (engine.pc + Instruction.wordBytes, false)

theorem Executes.jump_consumes (executes : engine.Executes program instruction)
    (operation : instruction.operation = .jump condition) :
    engine.JumpConsumes program instruction condition := by
  rcases executes.jump_cases operation with ⟨enough, address, top, done⟩ | ⟨short, failed⟩
  · refine ⟨fun short => absurd enough (Nat.not_le_of_lt short), fun _ => ?_⟩
    have contents := contents_popped (engine.enter instruction) instruction.sourceStack .address
      address
    refine ⟨address, _, top, done, ?_, ?_⟩
    · split
      · exact contents
      · exact contents
    · split <;> rfl
  · exact ⟨fun _ => failed, fun enough => absurd enough (Nat.not_le_of_lt short)⟩

/-- A conditional branch reads a distance and moves past it, whether it is taken or not, and fails
for want of one in either case. One that is taken faults at its own start exactly if it leads before
the program, and it never leads farther than a machine address can count. -/
structure BranchConsumes (program : Image) (engine : Engine σ π) (instruction : Instruction)
    (condition : Condition) : Prop where
  missing : engine.distance? program = none →
    step program engine =
      .error (.targetOutOfBounds (engine.pc + Instruction.wordBytes)) (engine.enter instruction)
  untaken (distance : Int16) : engine.distance? program = some distance →
    engine.flags.satisfies condition = false →
    ∃ after, step program engine = .ok none after ∧ after.bank = engine.bank ∧
      after.place = (engine.pc + Instruction.wordBytes + Width.w16.bytes, false)
  taken (distance : Int16) : engine.distance? program = some distance →
    engine.flags.satisfies condition = true →
    engine.branchEnd distance < 2 ^ 64 ∧
    ((∃ after, step program engine = .error (.targetOutOfBounds engine.pc) after) ↔
      engine.branchEnd distance < 0) ∧
    (0 ≤ engine.branchEnd distance → ∃ after, step program engine = .ok none after ∧
      after.bank = engine.bank ∧ after.place = ((engine.branchEnd distance).toNat, true))

theorem Executes.branch_consumes (short : program.size < 2 ^ 63)
    (executes : engine.Executes program instruction)
    (operation : instruction.operation = .branch condition) :
    engine.BranchConsumes program instruction condition := by
  rcases executes.branch_cases operation with ⟨distance, read, done⟩ | ⟨cut, failed⟩
  · refine ⟨fun missing => ?_, fun other readToo untaken => ?_, fun other readToo taken => ?_⟩
    · rw [read] at missing
      cases missing
    · cases read.symm.trans readToo
      rw [done, if_neg (Bool.not_eq_true _ ▸ untaken)]
      exact ⟨_, rfl, rfl, rfl⟩
    · cases read.symm.trans readToo
      refine ⟨branchEnd_lt short read, ?_⟩
      rw [done, if_pos taken]
      by_cases before : engine.branchEnd distance < 0
      · rw [if_pos before]
        refine ⟨⟨fun _ => before, fun _ => ⟨_, rfl⟩⟩, fun ahead => ?_⟩
        exact absurd before (Int.not_lt.mpr ahead)
      · rw [if_neg before]
        refine ⟨⟨fun failed => ?_, fun behind => absurd behind before⟩, fun _ => ?_⟩
        · obtain ⟨_, failed⟩ := failed
          cases failed
        · exact ⟨_, rfl, rfl, rfl⟩
  · refine ⟨fun _ => failed, fun distance read => ?_, fun distance read => ?_⟩
    · cases cut.symm.trans read
    · cases cut.symm.trans read

end

/-! ### Runs that land -/

section

variable {program : Image} {engine state final : Engine σ π} {count : Nat}

/-- Where a run stands, the mark is left by the instruction before, if there was one. -/
theorem atLanding_iff_of_going (going : standing program count engine.reset = (none, state)) :
    state.AtLanding program ↔
      ∃ earlier before, count = earlier + 1 ∧
        standing program earlier engine.reset = (none, before) ∧
        before.TransfersTo program program.size := by
  cases count with
  | zero =>
    cases going
    refine ⟨fun landing => ?_, fun ⟨earlier, _, counted, _⟩ => ?_⟩
    · cases landing.1
    · cases counted
  | succ earlier =>
    obtain ⟨before, reached, stepped⟩ := going_succ_iff.mp going
    constructor
    · rintro ⟨landed, atEnd⟩
      have transfers := transfersTo_of_landed stepped landed
      rw [atEnd] at transfers
      exact ⟨earlier, before, rfl, reached, transfers⟩
    · rintro ⟨_, other, ⟨⟩, reachedToo, transfers⟩
      rw [reached] at reachedToo
      cases reachedToo
      obtain ⟨landed, atEnd⟩ := transfers.place stepped
      exact ⟨landed, Int.ofNat_inj.mp atEnd⟩

/-- A transfer to the end of the program brings the run to a landing. -/
theorem landing_of_transfer (reached : standing program count engine.reset = (none, state))
    (transfers : state.TransfersTo program program.size) :
    ∃ after, standing program (count + 1) engine.reset = (none, after) ∧
      after.AtLanding program := by
  have ⟨_, after, _, _, stepped⟩ := transfers
  have going := going_succ_iff.mpr ⟨state, reached, stepped⟩
  exact ⟨after, going, (atLanding_iff_of_going going).mpr ⟨count, state, rfl, reached, transfers⟩⟩

/-- The mark is the only way to a normal end at the end of the program. -/
theorem atLanding_of_landed {offset : Nat} {after : Engine σ π}
    (halted : step program state = .ok (some ⟨offset, .landed⟩) after) :
    state.AtLanding program ∧ offset = state.pc ∧ after = state := by
  have shape := step_shape program state
  generalize step program state = result at shape halted
  cases shape with
  | landed landing =>
    cases halted
    exact ⟨landing, rfl, rfl⟩
  | spent limit _ _ => cases halted
  | wordless _ _ _ => cases halted
  | executed bytes _ _ _ =>
    obtain ⟨condition, _, reason⟩ := Acts.execute_eq_halt halted
    cases reason

/-- A run that stands at a landing lands, be its budget used up or not. -/
theorem run?_of_landing (going : standing program count engine.reset = (none, state))
    (landing : state.AtLanding program) :
    run? program (count + 1) engine =
      some (.ok ⟨program.size, .landed⟩, state.conclude ⟨program.size, .landed⟩) := by
  refine continue?_eq_some_iff.mpr ?_
  rw [standing_succ_of_going going, standing_one_of_landing landing, landing.2]

theorem standing_one_of_missing (clear : state.fault = none) (unspent : state.spentLimit? = none)
    (flying : ¬ state.AtLanding program)
    (short : program.size < state.pc + Instruction.wordBytes) :
    standing program 1 state =
      (some (.error (.targetOutOfBounds state.pc)),
        state.beginInstruction.latch (.targetOutOfBounds state.pc)) := by
  rw [standing, step_of_wordless unspent flying short]
  show (some (Except.error (state.beginInstruction.latchedFault _)), _) = _
  rw [latchedFault, show state.beginInstruction.fault = none from clear, Option.getD_none]

/-- A run that stands at the end of its program without having landed is stopped there. -/
theorem run?_of_flying (going : standing program count engine.reset = (none, state))
    (flying : ¬ state.AtLanding program) (atEnd : state.pc = program.size) :
    ∃ fault final, run? program (count + 1) engine = some (.error fault, final) ∧
      (state.spentLimit? = none → fault = .targetOutOfBounds program.size) ∧
      ∀ limit, state.spentLimit? = some limit →
        fault = .stepLimitExceeded program.size limit := by
  have clear : state.fault = none := congrArg (fun entries => entries.2.2) (ledger_of_going going)
  cases budget : state.spentLimit? with
  | some limit =>
    have stopped := standing_succ_of_going going
    rw [standing_one_of_spent clear flying budget, atEnd] at stopped
    refine ⟨_, _, continue?_eq_some_iff.mpr stopped, nofun, ?_⟩
    rintro _ ⟨⟩
    rfl
  | none =>
    have short : program.size < state.pc + Instruction.wordBytes := by
      rw [atEnd]
      exact Nat.lt_add_of_pos_right Nat.two_pos
    have stopped := standing_succ_of_going going
    rw [standing_one_of_missing clear budget flying short, atEnd] at stopped
    exact ⟨_, _, continue?_eq_some_iff.mpr stopped, fun _ => rfl, nofun⟩

/-- A run lands exactly if the last instruction it executed transferred control to the end of the
program. -/
theorem landed_iff_of_ended {fuel : Nat} {outcome : Outcome}
    (ended : run? program fuel engine = some (outcome, final)) :
    ((∃ offset, outcome = .ok ⟨offset, .landed⟩) ↔
      ∃ count before, standing program count engine.reset = (none, before) ∧
        before.TransfersTo program program.size ∧ final.steps = count + 1) ∧
    ∀ offset, outcome = .ok ⟨offset, .landed⟩ →
      offset = program.size ∧ final.pc = program.size := by
  have stands := continue?_eq_some_iff.mp ended
  -- The last state before a landing stands at the landing itself.
  have landing {offset : Nat} (landed : outcome = .ok ⟨offset, .landed⟩) :
      ∃ count last, standing program count engine.reset = (none, last) ∧
        last.AtLanding program ∧ offset = last.pc ∧ final = last.conclude ⟨offset, .landed⟩ := by
    obtain ⟨count, last, going, ⟨halt, after, halted, same, concluded⟩ | ⟨fault, _, _, same, _⟩⟩ :=
      ended_cases stands
    · cases landed.symm.trans same
      obtain ⟨atLanding, place, rfl⟩ := atLanding_of_landed halted
      exact ⟨count, after, going, atLanding, place, concluded⟩
    · cases landed.symm.trans same
  refine ⟨⟨?_, ?_⟩, ?_⟩
  · rintro ⟨offset, landed⟩
    obtain ⟨count, last, going, atLanding, _, rfl⟩ := landing landed
    obtain ⟨earlier, before, rfl, reached, transfers⟩ := (atLanding_iff_of_going going).mp atLanding
    have counted : last.steps = 0 + (earlier + 1) := congrArg Prod.fst (ledger_of_going going)
    exact ⟨earlier, before, reached, transfers, counted.trans (Nat.zero_add _)⟩
  · rintro ⟨count, before, reached, transfers, _⟩
    obtain ⟨state, going, atLanding⟩ := landing_of_transfer reached transfers
    have lands := continue?_eq_some_iff.mp (run?_of_landing going atLanding)
    have same := (standing_of_ended stands (Nat.le_add_right fuel (count + 1 + 1))).symm.trans
      (standing_of_ended lands (Nat.le_add_left _ fuel))
    cases same
    exact ⟨program.size, rfl⟩
  · intro offset landed
    obtain ⟨count, last, _, atLanding, rfl, rfl⟩ := landing landed
    exact ⟨atLanding.2, atLanding.2⟩

/-- The landing rule. A run ends by a landing exactly if the last instruction that it executed was a
transfer of control that was taken and led to the end of the program; it then ends at the end of
the program, and does so even if its budget is used up at that moment. A run that comes to the end
in any other way, be the program empty, is stopped there by the missing word, or by its budget if
that is used up. A transfer leads to the address on top of its source or, a branch, to the place
at its distance; jumps and branches take their address or distance whether they are taken or not. -/
theorem landing_rule (program : Image) (short : program.size < 2 ^ 63) (engine : Engine σ π) :
    (∀ fuel outcome final, run? program fuel engine = some (outcome, final) →
      ((∃ offset, outcome = .ok ⟨offset, .landed⟩) ↔
        ∃ count before, standing program count engine.reset = (none, before) ∧
          before.TransfersTo program program.size ∧ final.steps = count + 1) ∧
      ∀ offset, outcome = .ok ⟨offset, .landed⟩ →
        offset = program.size ∧ final.pc = program.size) ∧
    (∀ count before, standing program count engine.reset = (none, before) →
      before.TransfersTo program program.size →
      ∃ final, run? program (count + 2) engine = some (.ok ⟨program.size, .landed⟩, final)) ∧
    (∀ count state, standing program count engine.reset = (none, state) →
      state.pc = program.size →
      (∀ earlier before target, count = earlier + 1 →
        standing program earlier engine.reset = (none, before) →
        ¬ before.TransfersTo program target) →
      ∃ fault final, run? program (count + 1) engine = some (.error fault, final) ∧
        (state.spentLimit? = none → fault = .targetOutOfBounds program.size) ∧
        ∀ limit, state.spentLimit? = some limit →
          fault = .stepLimitExceeded program.size limit) ∧
    ∀ (state : Engine σ π) instruction condition, state.Executes program instruction →
      (instruction.operation = .jump condition →
        state.JumpConsumes program instruction condition) ∧
      (instruction.operation = .branch condition →
        state.BranchConsumes program instruction condition) := by
  refine ⟨fun fuel outcome final ended => landed_iff_of_ended ended, ?_, ?_, ?_⟩
  · intro count before reached transfers
    obtain ⟨state, going, landing⟩ := landing_of_transfer reached transfers
    exact ⟨_, run?_of_landing going landing⟩
  · intro count state going atEnd untransferred
    refine run?_of_flying going (fun landing => ?_) atEnd
    obtain ⟨earlier, before, counted, reached, transfers⟩ :=
      (atLanding_iff_of_going going).mp landing
    exact untransferred earlier before _ counted reached transfers
  · intro state instruction condition executes
    exact ⟨executes.jump_consumes, executes.branch_consumes short⟩

/-- A branch that leads just past itself, with a budget of one step: the run lands although its
budget is used up. -/
theorem landing_rule_branch :
    ∃ (program : Image) (engine final : Engine ByteLog NoPeripheral),
      program.size = 4 ∧ engine.stepLimit = some 1 ∧
      run? program 2 engine = some (.ok ⟨4, .landed⟩, final) := by
  let program : Image := #[0x80, 0x11, 0x00, 0x00]
  let engine := (Engine.new ByteLog.empty NoPeripheral.mk).withStepLimit (some 1)
  have executes : engine.reset.Executes program ⟨0x118, 0, 0⟩ :=
    ⟨by decide +kernel, by decide +kernel, [0x80, 0x11], by decide +kernel, by decide +kernel⟩
  have read : engine.reset.distance? program = some 0 := by decide +kernel
  have operation : Instruction.operation ⟨0x118, 0, 0⟩ = .branch .always := by decide +kernel
  have leads : engine.reset.Leads program ⟨0x118, 0, 0⟩ 4 := .branch operation rfl read
  obtain ⟨_, lands, _, account⟩ := landing_rule program (by decide) engine
  obtain ⟨_, branches⟩ := account engine.reset _ .always executes
  obtain ⟨_, _, goes⟩ := (branches operation).taken 0 read rfl
  obtain ⟨after, stepped, _⟩ := goes (by decide)
  obtain ⟨final, landed⟩ := lands 0 engine.reset rfl ⟨_, after, executes, leads, stepped⟩
  exact ⟨program, engine, final, rfl, rfl, landed⟩

end

end Engine

end Quadstack
