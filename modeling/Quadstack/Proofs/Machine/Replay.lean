import Mathlib
import Quadstack.Proofs.Machine.BankClient
import Quadstack.Proofs.Machine.History

/-!
Moves made again. A move names its stack, its width, the value and the pointer it led to, and that
is enough to make it a second time on another bank and to notice if anything comes out
differently. The moves that are kept while a bank is worked on lead, made again, from any bank
with the live bytes it had before to one with the live bytes it has after. Failed accesses
leave no move and change nothing, so nothing is missing.

One operation changes the stacks and leaves no move, and that is to empty them all. A
peripheral that never does it is as well accounted for as the machine itself.
-/

namespace Quadstack

/-! ### Replaying -/

namespace StackMove

/-- Makes a move again on another bank. It comes to nothing if the access fails there, if it leads
to another pointer, or if another value comes off. -/
def replay? (bank : StackBank) : StackMove → Option StackBank
  | .push stack width value pointer =>
    match bank.push stack width value with
    | .ok after => if after.pointer stack = pointer then some after else none
    | .error _ => none
  | .pop stack width value pointer =>
    match bank.pop stack width with
    | .ok (found, after) =>
      if found = value ∧ after.pointer stack = pointer then some after else none
    | .error _ => none

/-- The moves lead from one bank to the other: made again on any bank with the live bytes of the
first, they all succeed as they say and end at the live bytes of the second. -/
def Replays (moves : List StackMove) (before after : StackBank) : Prop :=
  ∀ copy : StackBank, copy.SameContents before →
    ∃ last, moves.foldlM replay? copy = some last ∧ last.SameContents after

namespace Replays

variable {before between after : StackBank}

theorem nil (bank : StackBank) : Replays [] bank bank :=
  fun copy same => ⟨copy, rfl, same⟩

theorem append {first second : List StackMove} (start : Replays first before between)
    (rest : Replays second between after) : Replays (first ++ second) before after := by
  intro copy same
  obtain ⟨middle, replayed, sameBetween⟩ := start copy same
  obtain ⟨last, replayedToo, sameAfter⟩ := rest middle sameBetween
  refine ⟨last, ?_, sameAfter⟩
  rw [List.foldlM_append, replayed]
  exact replayedToo

theorem single {move : StackMove}
    (again : ∀ copy : StackBank, copy.SameContents before →
      ∃ last, move.replay? copy = some last ∧ last.SameContents after) :
    Replays [move] before after := by
  intro copy same
  obtain ⟨last, replayed, sameAfter⟩ := again copy same
  refine ⟨last, ?_, sameAfter⟩
  simp only [List.foldlM_cons, List.foldlM_nil, bind_pure, replayed]

theorem push {stack : StackId} {width : Width} {value : UInt32}
    (pushed : before.push stack width value = .ok after) :
    Replays [.push stack width value (after.pointer stack)] before after := by
  refine single fun copy same => ?_
  have inStep := StackBank.SameContents.bankRelation.push stack width value { bank := copy }
    { bank := before } ⟨same, rfl⟩
  simp only [TracedBank.push, pushed] at inStep
  cases pushedToo : copy.push stack width value with
  | error reason =>
    rw [pushedToo] at inStep
    cases inStep
  | ok last =>
    rw [pushedToo] at inStep
    cases inStep with
    | ok _ alike =>
      refine ⟨last, ?_, alike.bank⟩
      rw [replay?, pushedToo]
      exact if_pos (alike.bank.pointer stack)

theorem pop {stack : StackId} {width : Width} {value : UInt32}
    (popped : before.pop stack width = .ok (value, after)) :
    Replays [.pop stack width value (after.pointer stack)] before after := by
  refine single fun copy same => ?_
  have inStep := StackBank.SameContents.bankRelation.pop stack width { bank := copy }
    { bank := before } ⟨same, rfl⟩
  simp only [TracedBank.pop, popped] at inStep
  cases poppedToo : copy.pop stack width with
  | error reason =>
    rw [poppedToo] at inStep
    cases inStep
  | ok result =>
    obtain ⟨found, last⟩ := result
    rw [poppedToo] at inStep
    cases inStep with
    | ok _ alike =>
      refine ⟨last, ?_, alike.bank⟩
      rw [replay?, poppedToo]
      exact if_pos ⟨rfl, alike.bank.pointer stack⟩

end Replays

end StackMove

/-! ### Work that its moves account for -/

namespace TracedBank

/-- What was done between two moments is accounted for by the moves that were added. -/
def Follows (before after : TracedBank) : Prop :=
  ∃ added, after.moves.toList = before.moves.toList ++ added ∧
    StackMove.Replays added before.bank after.bank

namespace Follows

theorem refl (traced : TracedBank) : Follows traced traced :=
  ⟨[], (List.append_nil _).symm, .nil _⟩

theorem trans {before between after : TracedBank} (first : Follows before between)
    (second : Follows between after) : Follows before after := by
  obtain ⟨added, kept, replays⟩ := first
  obtain ⟨more, keptToo, replaysToo⟩ := second
  refine ⟨added ++ more, ?_, replays.append replaysToo⟩
  rw [keptToo, kept, List.append_assoc]

theorem push (stack : StackId) (width : Width) (value : UInt32) (traced : TracedBank) :
    Follows traced (leftBy (TracedBank.push stack width value traced)) := by
  unfold TracedBank.push
  cases pushed : traced.bank.push stack width value with
  | ok bank => exact ⟨_, Array.toList_push, .push pushed⟩
  | error reason => exact .refl traced

theorem pop (stack : StackId) (width : Width) (traced : TracedBank) :
    Follows traced (leftBy (TracedBank.pop stack width traced)) := by
  unfold TracedBank.pop
  cases popped : traced.bank.pop stack width with
  | ok result => exact ⟨_, Array.toList_push, .pop popped⟩
  | error reason => exact .refl traced

theorem peekAt (stack : StackId) (width : Width) (depth : Nat) (traced : TracedBank) :
    Follows traced (leftBy (TracedBank.peekAt stack width depth traced)) := by
  unfold TracedBank.peekAt
  cases traced.bank.peekAt stack width depth with
  | ok value => exact .refl traced
  | error reason => exact .refl traced

end Follows

end TracedBank

/-! ### Peripherals that their moves account for -/

/-- Work that never empties the stacks, and whose result is as wanted. -/
inductive BankProgram.Moving {α : Type} (wanted : α → Prop) : BankProgram α → Prop where
  | done {result : α} (good : wanted result) : Moving wanted (.done result)
  | push {stack : StackId} {width : Width} {value : UInt32}
      {next : Except StackError Unit → BankProgram α}
      (rest : ∀ answer, Moving wanted (next answer)) :
    Moving wanted (.push stack width value next)
  | pop {stack : StackId} {width : Width} {next : Except StackError UInt32 → BankProgram α}
      (rest : ∀ answer, Moving wanted (next answer)) : Moving wanted (.pop stack width next)
  | peekAt {stack : StackId} {width : Width} {depth : UInt64}
      {next : Except StackError UInt32 → BankProgram α}
      (rest : ∀ answer, Moving wanted (next answer)) :
    Moving wanted (.peekAt stack width depth next)
  | contents {stack : StackId} {next : List UInt8 → BankProgram α}
      (rest : ∀ answer, Moving wanted (next answer)) : Moving wanted (.contents stack next)

theorem BankProgram.reply_snd {α : Type} (result : EStateM.Result StackError TracedBank α) :
    (reply result).2 = leftBy result := by
  cases result with
  | ok value after => rfl
  | error reason after => rfl

/-- Such work is accounted for by its moves, and does give such a result. -/
theorem BankProgram.Moving.perform {α : Type} {wanted : α → Prop} {work : BankProgram α}
    (moving : work.Moving wanted) (traced : TracedBank) :
    wanted (work.perform traced).1 ∧ traced.Follows (work.perform traced).2 := by
  induction moving generalizing traced with
  | done good => exact ⟨good, .refl traced⟩
  | @push stack width value next _ inductionHypothesis =>
    have added := TracedBank.Follows.push stack width value traced
    rw [← BankProgram.reply_snd] at added
    obtain ⟨good, follows⟩ := inductionHypothesis _ _
    exact ⟨good, added.trans follows⟩
  | @pop stack width next _ inductionHypothesis =>
    have added := TracedBank.Follows.pop stack width traced
    rw [← BankProgram.reply_snd] at added
    obtain ⟨good, follows⟩ := inductionHypothesis _ _
    exact ⟨good, added.trans follows⟩
  | @peekAt stack width depth next _ inductionHypothesis =>
    have added := TracedBank.Follows.peekAt stack width depth.toNat traced
    rw [← BankProgram.reply_snd] at added
    obtain ⟨good, follows⟩ := inductionHypothesis _ _
    exact ⟨good, added.trans follows⟩
  | contents _ inductionHypothesis => exact inductionHypothesis _ traced

/-- A peripheral that uses the stacks by pushes, pops and peeks, as long as it is in one of the
given states, and stays in such a state. -/
def BankClient.Moving {π : Type} [Peripheral π] [BankClient π] (steady : π → Prop) : Prop :=
  ∀ instruction peripheral, steady peripheral →
    (BankClient.conduct instruction peripheral).Moving fun result => steady result.1

theorem BankClient.Moving.dispatch {π : Type} [Peripheral π] [BankClient π] {steady : π → Prop}
    (moving : Moving steady) (instruction : Instruction) {peripheral : π}
    (holds : steady peripheral) (traced : TracedBank) :
    steady (leftBy (Peripheral.dispatch instruction (peripheral, traced))).1 ∧
      traced.Follows (leftBy (Peripheral.dispatch instruction (peripheral, traced))).2 := by
  have worked := (moving instruction peripheral holds).perform traced
  rw [BankClient.dispatch_eq]
  generalize (BankClient.conduct instruction peripheral).perform traced = result at worked ⊢
  obtain ⟨⟨after, verdict⟩, worked'⟩ := result
  cases verdict with
  | ok _ => exact worked
  | error refusal => exact worked

theorem NoPeripheral.moving : BankClient.Moving fun _ : NoPeripheral => True :=
  fun _ _ _ => .done trivial

/-- A script that empties nothing is carried out by pushes, pops and peeks. -/
theorem ScriptAction.moving_conduct {wanted : ScriptedPeripheral × Except Refusal Unit → Prop}
    {after : ScriptedPeripheral} (good : ∀ verdict, wanted (after, verdict))
    (instruction : Instruction) (accumulator : UInt32) (actions : List ScriptAction)
    (lasting : .reset ∉ actions) :
    (conduct after instruction accumulator actions).Moving wanted := by
  induction actions generalizing accumulator with
  | nil => exact .done (good _)
  | cons action rest inductionHypothesis =>
    obtain ⟨kept, later⟩ := not_or.mp (mt List.mem_cons.mpr lasting)
    have proceeds (accumulator : UInt32) := inductionHypothesis accumulator later
    cases action with
    | deny => exact .done (good _)
    | push stack width value =>
      refine .push fun answer => ?_
      cases answer with
      | ok _ => exact proceeds accumulator
      | error reason => exact .done (good _)
    | pushAccumulator stack width =>
      refine .push fun answer => ?_
      cases answer with
      | ok _ => exact proceeds accumulator
      | error reason => exact .done (good _)
    | pop stack width =>
      refine .pop fun answer => ?_
      cases answer with
      | ok value => exact proceeds value
      | error reason => exact .done (good _)
    | peekAt stack width depth =>
      refine .peekAt fun answer => ?_
      cases answer with
      | ok value => exact proceeds value
      | error reason => exact .done (good _)
    | reset => exact absurd rfl kept

theorem ScriptedPeripheral.moving :
    BankClient.Moving fun peripheral : ScriptedPeripheral =>
      ∀ rule ∈ peripheral.rules, .reset ∉ rule.actions := by
  intro instruction peripheral holds
  refine ScriptAction.moving_conduct (fun _ => holds) instruction 0 _ ?_
  unfold actionsFor
  split
  · rename_i rule found
    exact holds rule (List.mem_of_find?_eq_some found)
  · exact List.not_mem_nil

end Quadstack
