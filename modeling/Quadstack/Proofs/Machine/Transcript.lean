import Mathlib
import Quadstack.Proofs.Machine.Emissions
import Quadstack.Proofs.Machine.JournalText
import Quadstack.Proofs.Machine.Replay

/-!
The journal of a run as a transcript. A run writes a line when it begins, then one passage for each
instruction it executes, and a last line that says how it ended. A passage opens with the line
of its instruction; behind it stand the moves that the instruction made on the stacks, and
reports of a delegation or of output that was refused. The moves, made again on an empty bank,
lead to the stacks as the run left them.

So the journal and the state, which are written by different hands, tell the same story.
An instruction that faults half way has a passage like the others, with the moves it
had made by then.
-/

namespace Quadstack

/-! ### Messages -/

namespace Message

/-- The move that a message reports. -/
def move? : Message → Option StackMove
  | .moved move => some move
  | _ => none

/-- What an instruction may write into its passage: moves, and reports that name its offset. -/
def IsReportAt (offset : Nat) : Message → Prop
  | .moved _ => True
  | .delegated place _ => place = offset
  | .outputFailed place _ => place = offset
  | _ => False

/-- The last line of a run: how it ended, and how many instructions it counts. -/
def closing : Outcome → Nat → Message
  | .ok halt, steps => .halted halt steps
  | .error fault, steps => .faulted fault steps

end Message

/-- The moves that are reported among messages. -/
def movesAmong (messages : List Message) : List StackMove :=
  messages.filterMap Message.move?

theorem movesAmong_append (first second : List Message) :
    movesAmong (first ++ second) = movesAmong first ++ movesAmong second :=
  List.filterMap_append

theorem movesAmong_moved (moves : List StackMove) : movesAmong (moves.map .moved) = moves := by
  rw [movesAmong, List.filterMap_map]
  exact List.filterMap_some

/-- What stands in the journal of one instruction. -/
structure Passage where
  offset : Nat
  instruction : Instruction
  reports : List Message

def Passage.messages (passage : Passage) : List Message :=
  .began passage.offset passage.instruction :: passage.reports

variable {σ π : Type} {steady : π → Prop}

/-! ### What an instruction writes -/

/-- Since the start an engine has written reports into its journal, and the moves among them account
for what has happened to its stacks. -/
structure Engine.Reported (steady : π → Prop) (start state : Engine σ π) : Prop where
  current : state.current = start.current
  peripheral : steady state.peripheral
  journal : ∃ reports : List Message, state.journal.toList = start.journal.toList ++ reports ∧
    (∀ message ∈ reports, message.IsReportAt start.current) ∧
    StackMove.Replays (movesAmong reports) start.bank state.bank

namespace Engine.Reported

variable {start state : Engine σ π}

theorem refl (holds : steady start.peripheral) : start.Reported steady start where
  current := rfl
  peripheral := holds
  journal := ⟨[], (List.append_nil _).symm, fun _ member => (nomatch member), .nil _⟩

/-- More reports are written, and the moves among them account for what happens to the stacks. -/
theorem extend (reported : start.Reported steady state) {later : Engine σ π} (more : List Message)
    (current : later.current = state.current) (peripheral : steady later.peripheral)
    (told : later.journal.toList = state.journal.toList ++ more)
    (legal : ∀ message ∈ more, message.IsReportAt start.current)
    (replays : StackMove.Replays (movesAmong more) state.bank later.bank) :
    start.Reported steady later where
  current := current.trans reported.current
  peripheral := peripheral
  journal := by
    obtain ⟨reports, before, alsoLegal, replaysBefore⟩ := reported.journal
    refine ⟨reports ++ more, ?_, List.forall_mem_append.mpr ⟨alsoLegal, legal⟩, ?_⟩
    · rw [told, before, List.append_assoc]
    · rw [movesAmong_append]
      exact replaysBefore.append replays

/-- The engine takes over a bank on which moves were made. -/
theorem adopt (reported : start.Reported steady state) {traced : TracedBank}
    (follows : TracedBank.Follows { bank := state.bank } traced) :
    start.Reported steady (state.adopt traced) := by
  obtain ⟨added, kept, replays⟩ := follows
  rw [List.nil_append] at kept
  refine reported.extend (added.map .moved) rfl reported.peripheral ?_ ?_ ?_
  · rw [Engine.adopt, Array.toList_append, Array.toList_map, kept]
  · intro message member
    obtain ⟨move, _, rfl⟩ := List.mem_map.mp member
    trivial
  · rwa [movesAmong_moved]

theorem setPeripheral (reported : start.Reported steady state) {peripheral : π}
    (holds : steady peripheral) :
    start.Reported steady { state with peripheral := peripheral } where
  current := reported.current
  peripheral := holds
  journal := reported.journal

/-- One more report that is not a move. -/
theorem record (reported : start.Reported steady state) (message : Message)
    (report : message.IsReportAt start.current) (still : message.move? = none) :
    start.Reported steady (state.record message) := by
  have motionless : movesAmong [message] = [] := List.filterMap_cons_none still
  refine reported.extend [message] rfl reported.peripheral Array.toList_push ?_ ?_
  · intro other member
    rwa [List.mem_singleton.mp member]
  · rw [motionless]
    exact .nil _

end Engine.Reported

/-- An engine next to itself, while what it has done since the start is reported. -/
def ReportedSince (steady : π → Prop) (start first second : Engine σ π) : Prop :=
  first = second ∧ start.Reported steady first

namespace ReportedSince

variable {start : Engine σ π}

theorem steers : Steers (ReportedSince steady start) where
  flags related := by rw [related.1]
  pc related := by rw [related.1]
  current related := by rw [related.1]
  setPc _ related := ⟨by rw [related.1], { related.2 with }⟩
  transfer _ related := ⟨by rw [related.1], { related.2 with }⟩
  setFlags _ related := ⟨by rw [related.1], { related.2 with }⟩

theorem onBank {α : Type} {work : BankM StackError α}
    (follows : ∀ traced, TracedBank.Follows traced (leftBy (work traced))) :
    Lockstep (ReportedSince steady start) α (Exec.onBank work) (Exec.onBank work) := by
  rintro engine _ ⟨rfl, reported⟩
  have added := follows { bank := engine.bank }
  unfold Exec.onBank
  generalize work { bank := engine.bank } = result at added ⊢
  cases result with
  | ok value traced => exact .ok value ⟨rfl, reported.adopt added⟩
  | error reason traced => exact .error _ ⟨rfl, reported.adopt added⟩

theorem emit [OutputSink σ] (event : DebugEvent) :
    Lockstep (ReportedSince steady start) Unit (Exec.emit event) (Exec.emit event) := by
  rintro engine _ ⟨rfl, reported⟩
  unfold Exec.emit
  cases OutputSink.receive event engine.output with
  | ok _ output => exact .ok () ⟨rfl, { reported with }⟩
  | error reason output =>
    have kept : start.Reported steady { engine with output := output } := { reported with }
    exact .ok () ⟨rfl, kept.record _ reported.current rfl⟩

variable [Peripheral π] [BankClient π]

theorem delegate (moving : BankClient.Moving steady) (instruction : Instruction) :
    Lockstep (ReportedSince steady start) Unit (Exec.delegate instruction)
      (Exec.delegate instruction) := by
  rintro engine _ ⟨rfl, reported⟩
  have told := reported.record (.delegated engine.current instruction.code) reported.current rfl
  have taken {left : π × TracedBank} (held : steady left.1)
      (follows : TracedBank.Follows { bank := engine.bank } left.2) :=
    (told.setPeripheral held).adopt follows
  obtain ⟨held, follows⟩ :=
    moving.dispatch instruction reported.peripheral { bank := engine.bank }
  unfold Exec.delegate
  generalize Peripheral.dispatch instruction (engine.peripheral, { bank := engine.bank }) =
    result at held follows ⊢
  cases result with
  | ok _ left => exact .ok () ⟨rfl, taken held follows⟩
  | error refusal left =>
    cases refusal with
    | denied => exact .error _ ⟨rfl, taken held follows⟩
    | stack reason => exact .error _ ⟨rfl, taken held follows⟩

/-- Every act reports what it does. -/
theorem respects [OutputSink σ] (start : Engine σ π) (moving : BankClient.Moving steady)
    (program : Image) :
    Acts.Respects (m := Exec σ π) (n := Exec σ π) (Lockstep (ReportedSince steady start))
      program program where
  pure := .pure
  bind := .bind
  push _ width value _ := onBank (.push _ width value)
  pop _ width _ := onBank (.pop _ width)
  peekAt _ width depth _ := onBank (.peekAt _ width depth.toNat)
  pointer _ _ := by
    rintro engine _ ⟨rfl, reported⟩
    exact .ok _ ⟨rfl, reported⟩
  fetchLiteral width := .bind (steers.take program _) fun _ => .pure _
  fetchText := steers.fetchText program
  arith _ _ _ _ := steers.require _ _
  shift _ _ _ _ := .pure _
  satisfies := steers.satisfies
  setFlags _ _ := fun _ _ related => .ok () (steers.setFlags _ related)
  jumpTo target := steers.jumpTo target.toNat
  branch := steers.branch program
  returnAddress := steers.returnAddress
  halt := steers.halt
  emit := emit
  delegate := delegate moving

end ReportedSince

/-! ### The passages of a run -/

/-- A run that has led from one state to another has written these passages into its journal, and
behind them the last messages; it has counted an instruction for each passage, and the moves in the
passages account for what has happened to its stacks. -/
structure Engine.Transcribed (steady : π → Prop) (start : Engine σ π) (passages : List Passage)
    (last : List Message) (state : Engine σ π) : Prop where
  peripheral : steady state.peripheral
  journal : state.journal.toList =
    start.journal.toList ++ (passages.flatMap Passage.messages ++ last)
  steps : state.steps = start.steps + passages.length
  reports : ∀ passage ∈ passages, ∀ message ∈ passage.reports,
    message.IsReportAt passage.offset
  replays : StackMove.Replays (movesAmong (passages.flatMap Passage.messages)) start.bank
    state.bank

namespace Engine

namespace Transcribed

variable {start between state : Engine σ π} {passages more : List Passage} {last : List Message}

theorem refl (holds : steady start.peripheral) : start.Transcribed steady [] [] start where
  peripheral := holds
  journal := (List.append_nil _).symm
  steps := rfl
  reports _ member := nomatch member
  replays := .nil _

theorem trans (first : start.Transcribed steady passages [] between)
    (second : between.Transcribed steady more last state) :
    start.Transcribed steady (passages ++ more) last state where
  peripheral := second.peripheral
  journal := by
    rw [second.journal, first.journal, List.append_nil, List.flatMap_append, List.append_assoc,
      List.append_assoc]
  steps := by
    rw [second.steps, first.steps, List.length_append, Nat.add_assoc]
  reports passage member := by
    rcases List.mem_append.mp member with earlier | later
    · exact first.reports passage earlier
    · exact second.reports passage later
  replays := by
    rw [List.flatMap_append, movesAmong_append]
    exact first.replays.append second.replays

/-- The last line of a run. -/
theorem record (transcribed : start.Transcribed steady passages [] state) (message : Message) :
    start.Transcribed steady passages [message] (state.record message) where
  peripheral := transcribed.peripheral
  journal := by
    rw [Engine.record, Array.toList_push, transcribed.journal, List.append_nil,
      List.append_assoc]
  steps := transcribed.steps
  reports := transcribed.reports
  replays := transcribed.replays

end Transcribed

section

variable [OutputSink σ] [Peripheral π]

/-- What the next step writes, if it executes an instruction. -/
def passage? (program : Image) (engine : Engine σ π) : Option Passage :=
  (engine.executing? program).map fun instruction => {
    offset := engine.pc
    instruction
    -- What the step adds to the journal, less the line of the instruction, which is the first.
    reports := (leftBy (step program engine)).journal.toList.drop (engine.journal.size + 1) }

/-- The passages of the first `count` steps of a run. -/
def passages (program : Image) (count : Nat) (engine : Engine σ π) : List Passage :=
  engine.seenAlong (passage? program) program count

variable {program : Image} {engine : Engine σ π} {instruction : Instruction}

theorem Executes.steps (executes : engine.Executes program instruction) :
    (leftBy (step program engine)).steps = engine.steps + 1 := by
  rw [executes.step_eq]
  obtain ⟨_, _, bytes, _, rfl⟩ := executes
  exact congrArg Prod.fst (ledger_execute program bytes (engine.enter (instructionAt bytes)))

variable [BankClient π]

/-- An instruction reports what it does, however it ends. -/
theorem Executes.reported (moving : BankClient.Moving steady) (holds : steady engine.peripheral)
    (executes : engine.Executes program instruction) :
    (engine.enter instruction).Reported steady (leftBy (step program engine)) := by
  rw [executes.step_eq]
  obtain ⟨_, _, bytes, _, rfl⟩ := executes
  have everyAct := ReportedSince.respects (engine.enter (instructionAt bytes)) moving program
  have inStep := everyAct.execute (instructionAt bytes) (Instruction.source_decode_lt _)
    (Instruction.destination_decode_lt _)
  exact inStep.kept _ (.refl holds)

end

end Engine

/-! ### The log of a run -/

end Quadstack
