import Mathlib
import Quadstack.Proofs.Machine.Runs
import Quadstack.Proofs.Text.Utf8

/-!
Sinks and what they have received. A run hands a sink one event after another and does not look at
its answers, so a sink after a run is a sink that was fed a list of events. What that comes to is
worked out here for the sinks at hand.

Where output is a stream of bytes, the bytes of an event are written down a second time, without the
machine's own numerals: a text as it is, and a value by the places of its number in base ten with a
line break behind them. The sinks are held to these.

Most sinks are writers: something that takes a part of the bytes offered to it, of a size of its own
choice, and says how many these were. All bytes of an event are written by offering the rest again
and again, until nothing is left or the writer stops. However a writer with limited room portions
what it takes, it ends with the first bytes of the whole output, as many as there was room for.
-/

namespace Quadstack

/-! ### Output as bytes -/

namespace Numeral

/-- The places of a number in base ten as digits, the units last. -/
def decimalBytes (number : Nat) : List UInt8 :=
  if number = 0 then [0x30]
  else (Nat.digits 10 number).reverse.map fun digit => UInt8.ofNat (0x30 + digit)

/-- Digits, at least one and with no zero in front of others, that stand for a number. -/
structure IsDecimal (digits : List UInt8) (number : Nat) : Prop where
  decimal : ∀ digit ∈ digits, 0x30 ≤ digit ∧ digit ≤ 0x39
  nonempty : digits ≠ []
  leading : digits.head? = some 0x30 → digits = [0x30]
  value : Nat.ofDigits 10 (digits.reverse.map fun digit => digit.toNat - 0x30) = number

/-- The number is read back from its digits. -/
theorem isDecimal_decimalBytes (number : Nat) : IsDecimal (decimalBytes number) number := by
  by_cases zero : number = 0
  · rw [decimalBytes, if_pos zero, zero]
    refine ⟨fun digit member => ?_, List.cons_ne_nil _ _, fun _ => rfl, rfl⟩
    rw [List.mem_singleton.mp member]
    decide
  have byte : ∀ digit ∈ Nat.digits 10 number,
      (UInt8.ofNat (0x30 + digit)).toNat = 0x30 + digit := by
    intro digit member
    have small : digit < 10 := Nat.digits_lt_base (by decide) member
    refine UInt8.toNat_ofNat_of_lt' ?_
    show 0x30 + digit < 256
    omega
  rw [decimalBytes, if_neg zero]
  refine ⟨fun written member => ?_, ?_, fun first => ?_, ?_⟩
  · obtain ⟨digit, place, rfl⟩ := List.mem_map.mp member
    rw [List.mem_reverse] at place
    have small : digit < 10 := Nat.digits_lt_base (by decide) place
    rw [UInt8.le_iff_toNat_le, UInt8.le_iff_toNat_le, byte digit place]
    show 0x30 ≤ 0x30 + digit ∧ 0x30 + digit ≤ 0x39
    omega
  · rw [Ne, List.map_eq_nil_iff, List.reverse_eq_nil_iff]
    exact Nat.digits_ne_nil_iff_ne_zero.mpr zero
  · -- The digit in front is that of the highest place, which is not zero.
    have highest := Nat.getLast_digit_ne_zero 10 zero
    rw [List.head?_map, List.head?_reverse, List.getLast?_eq_some_getLast
      (Nat.digits_ne_nil_iff_ne_zero.mpr zero), Option.map_some] at first
    have same := congrArg UInt8.toNat (Option.some.inj first)
    rw [byte _ (List.getLast_mem _)] at same
    exact absurd (Nat.add_left_cancel same) highest
  · rw [← List.map_reverse, List.reverse_reverse, List.map_map]
    have readBack : (Nat.digits 10 number).map ((fun digit => digit.toNat - 0x30) ∘
        fun digit => UInt8.ofNat (0x30 + digit)) = Nat.digits 10 number := by
      refine (List.map_congr_left fun digit place => ?_).trans (List.map_id _)
      rw [Function.comp_apply, byte digit place, Nat.add_sub_cancel_left]
      rfl
    rw [readBack, Nat.ofDigits_digits]

/-- The last digit is that of the units. -/
theorem decimalBytes_eq (number : Nat) :
    decimalBytes number =
      (if number < 10 then [] else decimalBytes (number / 10)) ++
        [UInt8.ofNat (0x30 + number % 10)] := by
  by_cases zero : number = 0
  · rw [zero]
    rfl
  · have places := Nat.digits_def' (by decide : 1 < 10) (Nat.pos_of_ne_zero zero)
    rw [decimalBytes, if_neg zero, places, List.reverse_cons, List.map_append, List.map_singleton]
    congr 1
    split
    · rename_i single
      rw [Nat.div_eq_of_lt single, Nat.digits_zero, List.reverse_nil, List.map_nil]
    · rw [decimalBytes, if_neg (by omega)]

/-- The digits that are written are those of the places. -/
theorem utf8_decimal (number : Nat) :
    (Nat.toDigits 10 number).flatMap String.utf8EncodeChar = decimalBytes number := by
  have everyDigit : ∀ digit < 10,
      String.utf8EncodeChar (Nat.digitChar digit) = [UInt8.ofNat (0x30 + digit)] := by decide
  induction number using Nat.strongRecOn with
  | ind number inductionHypothesis =>
    rw [Nat.toDigits_eq_if (by decide), decimalBytes_eq]
    split
    · rename_i single
      rw [List.flatMap_singleton, everyDigit number single, Nat.mod_eq_of_lt single,
        List.nil_append]
    · have smaller : number / 10 < number := by omega
      rw [List.flatMap_append, inductionHypothesis _ smaller, List.flatMap_singleton,
        everyDigit _ (Nat.mod_lt _ (by decide))]

end Numeral

namespace DebugEvent

/-- What a stream of bytes shows of an event: a text as it is, a value in decimal and behind it a
line break. -/
def shown : DebugEvent → List UInt8
  | .text bytes => bytes
  | .value _ number => Numeral.decimalBytes number.toNat ++ [0x0a]

/-- Output as a stream: what is shown of the events, one after another. -/
def stream (events : List DebugEvent) : List UInt8 :=
  events.flatMap shown

/-- An event is written as it should be shown. -/
theorem toBytes_eq_shown (event : DebugEvent) : event.toBytes = event.shown := by
  cases event with
  | text bytes => rfl
  | value width number =>
    rw [toBytes, shown, Text.Utf8.toList_toUTF8, String.toList_append, List.flatMap_append,
      Numeral.decimal, String.toList_ofList, Numeral.utf8_decimal]
    rfl

theorem stream_cons (event : DebugEvent) (rest : List DebugEvent) :
    stream (event :: rest) = event.toBytes ++ stream rest := by
  rw [toBytes_eq_shown]
  rfl

end DebugEvent

/-! ### Feeding a sink -/

/-- The sink after it was handed events one after another. Its answers are not looked at. -/
def OutputSink.feed {σ : Type} [OutputSink σ] (sink : σ) (events : List DebugEvent) : σ :=
  events.foldl (fun sink event => leftBy (OutputSink.receive event sink)) sink

namespace OutputSink

variable {σ : Type} [OutputSink σ]

theorem feed_append (sink : σ) (first second : List DebugEvent) :
    feed sink (first ++ second) = feed (feed sink first) second :=
  List.foldl_append

/-- A sink with room for some bytes ends with as many bytes of the stream, if it keeps what it can
of each event. -/
theorem feed_bounded (accepted : σ → List UInt8) (room : σ → Nat)
    (taken : ∀ event sink, accepted (leftBy (receive event sink)) =
      accepted sink ++ event.toBytes.take (room sink))
    (used : ∀ event sink, room (leftBy (receive event sink)) =
      room sink - event.toBytes.length)
    (sink : σ) (events : List DebugEvent) :
    accepted (feed sink events) =
      accepted sink ++ (DebugEvent.stream events).take (room sink) := by
  induction events generalizing sink with
  | nil => simp [feed, DebugEvent.stream]
  | cons event rest inductionHypothesis =>
    have later := inductionHypothesis (leftBy (receive event sink))
    rw [taken, used] at later
    show accepted (feed (leftBy (receive event sink)) rest) = _
    rw [later, List.append_assoc, DebugEvent.stream_cons, List.take_append]

end OutputSink

/-- A log of bytes has grown by the whole stream. -/
theorem ByteLog.bytes_feed (log : ByteLog) (events : List DebugEvent) :
    (OutputSink.feed log events).bytes.toList = log.bytes.toList ++ DebugEvent.stream events := by
  induction events generalizing log with
  | nil => simp [OutputSink.feed, DebugEvent.stream]
  | cons event rest inductionHypothesis =>
    have later := inductionHypothesis (log.append event.toBytes)
    rw [ByteLog.append, Array.toList_appendList, List.append_assoc, ← DebugEvent.stream_cons]
      at later
    exact later

/-- A log of events has grown by the events. -/
theorem EventLog.events_feed (log : EventLog) (events : List DebugEvent) :
    (OutputSink.feed log events).events.toList = log.events.toList ++ events := by
  induction events generalizing log with
  | nil => simp [OutputSink.feed]
  | cons event rest inductionHypothesis =>
    have later := inductionHypothesis { events := log.events.push event }
    rw [Array.toList_push, List.append_assoc] at later
    exact later

/-! ### Writers -/

/-- Something that bytes can be written to. It takes some of the bytes offered, from the first on,
and says how many, or it fails with a reason. -/
class ByteWriter (ω : Type) where
  write : List UInt8 → EStateM String ω Nat

/-- Writes all bytes: offers what is left until nothing is, or until the writer fails or takes
nothing. -/
def ByteWriter.writeAll {ω : Type} [ByteWriter ω] : List UInt8 → EStateM String ω Unit
  | [] => pure ()
  | byte :: rest => fun writer =>
    match ByteWriter.write (byte :: rest) writer with
    | .ok 0 after => .error FullWriter.stalls.reason after
    | .ok (taken + 1) after => writeAll (rest.drop taken) after
    | .error reason after => .error reason after
termination_by bytes => bytes.length
decreasing_by
  simp only [List.length_drop, List.length_cons]
  omega

namespace ByteWriter

variable {ω : Type} [ByteWriter ω] {byte : UInt8} {rest : List UInt8} {writer after : ω}

/-- What a writer has not taken is offered again. -/
theorem writeAll_of_taken {taken : Nat}
    (answer : write (byte :: rest) writer = .ok (taken + 1) after) :
    writeAll (byte :: rest) writer = writeAll (rest.drop taken) after := by
  simp only [writeAll, answer]

/-- A writer that fails or takes nothing is offered nothing more. -/
theorem leftBy_of_stopped
    (answer : write (byte :: rest) writer = .ok 0 after ∨
      ∃ reason, write (byte :: rest) writer = .error reason after) :
    leftBy (writeAll (byte :: rest) writer) = after := by
  rcases answer with stalled | ⟨reason, failed⟩
  · simp only [writeAll, stalled, leftBy]
  · simp only [writeAll, failed, leftBy]

end ByteWriter

/-- A writer as a sink: an event is written as its bytes. -/
structure WriterSink (ω : Type) where
  writer : ω

instance {ω : Type} [ByteWriter ω] : OutputSink (WriterSink ω) where
  receive event := fun sink =>
    match ByteWriter.writeAll event.toBytes sink.writer with
    | .ok () writer => .ok () { writer }
    | .error reason writer => .error reason { writer }

/-- A writer that has room for a number of bytes in all. While there is room it takes at least one
of the bytes offered; then it fails or takes nothing. -/
structure TakesInAll {ω : Type} [ByteWriter ω] (accepted : ω → List UInt8) (room : ω → Nat) :
    Prop where
  taking (writer : ω) (offered : List UInt8) : offered ≠ [] → 0 < room writer →
    ∃ taken after, ByteWriter.write offered writer = .ok taken after ∧
      0 < taken ∧ taken ≤ offered.length ∧ taken ≤ room writer ∧
      accepted after = accepted writer ++ offered.take taken ∧ room after = room writer - taken
  full (writer : ω) (offered : List UInt8) : room writer = 0 →
    ∃ after, (ByteWriter.write offered writer = .ok 0 after ∨
        ∃ reason, ByteWriter.write offered writer = .error reason after) ∧
      accepted after = accepted writer ∧ room after = 0

namespace TakesInAll

variable {ω : Type} [ByteWriter ω] {accepted : ω → List UInt8} {room : ω → Nat}

/-- However the bytes are portioned, as many are taken as there is room for. -/
theorem writeAll (takes : TakesInAll accepted room) (bytes : List UInt8) (writer : ω) :
    accepted (leftBy (ByteWriter.writeAll bytes writer)) =
        accepted writer ++ bytes.take (room writer) ∧
      room (leftBy (ByteWriter.writeAll bytes writer)) = room writer - bytes.length := by
  induction bytes using ByteWriter.writeAll.induct generalizing writer with
  | case1 =>
    rw [ByteWriter.writeAll, List.take_nil, List.append_nil]
    exact ⟨rfl, rfl⟩
  | case2 byte rest inductionHypothesis =>
    rcases Nat.eq_zero_or_pos (room writer) with none | some
    · obtain ⟨after, answer, same, still⟩ := takes.full writer (byte :: rest) none
      rw [none, List.take_zero, List.append_nil, Nat.zero_sub, ByteWriter.leftBy_of_stopped answer]
      exact ⟨same, still⟩
    · obtain ⟨taken, after, answer, progress, inside, fitting, grown, left⟩ :=
        takes.taking writer (byte :: rest) (List.cons_ne_nil _ _) some
      obtain ⟨taken, rfl⟩ : ∃ count, taken = count + 1 := ⟨taken - 1, by omega⟩
      obtain ⟨all, remaining⟩ := inductionHypothesis taken after
      have split : (byte :: rest).take (room writer) = (byte :: rest).take (taken + 1) ++
          (rest.drop taken).take (room writer - (taken + 1)) := by
        rw [← List.drop_succ_cons (a := byte), ← List.take_add, Nat.add_sub_cancel' fitting]
      rw [ByteWriter.writeAll_of_taken answer]
      constructor
      · rw [all, grown, left, split, List.append_assoc]
      · rw [remaining, left, List.length_drop]
        rw [List.length_cons] at inside ⊢
        omega

/-- A sink that is such a writer ends with the first bytes of the stream. -/
theorem accepted_feed (takes : TakesInAll accepted room) (sink : WriterSink ω)
    (events : List DebugEvent) :
    accepted (OutputSink.feed sink events).writer =
      accepted sink.writer ++ (DebugEvent.stream events).take (room sink.writer) := by
  have received (event : DebugEvent) (sink : WriterSink ω) :
      (leftBy (OutputSink.receive event sink)).writer =
        leftBy (ByteWriter.writeAll event.toBytes sink.writer) := by
    unfold OutputSink.receive instOutputSinkWriterSinkOfByteWriter
    dsimp only
    cases ByteWriter.writeAll event.toBytes sink.writer with
    | ok value writer => rfl
    | error reason writer => rfl
  refine OutputSink.feed_bounded (fun sink => accepted sink.writer) (fun sink => room sink.writer)
    (fun event sink => ?_) (fun event sink => ?_) sink events
  · show accepted (leftBy (OutputSink.receive event sink)).writer = _
    rw [received, (takes.writeAll event.toBytes sink.writer).1]
  · show room (leftBy (OutputSink.receive event sink)).writer = _
    rw [received, (takes.writeAll event.toBytes sink.writer).2]

end TakesInAll

/-! ### The writer with limited room -/

namespace BoundedWriter

/-- How many more bytes the writer takes. -/
def room (writer : BoundedWriter) : Nat :=
  writer.limit - writer.accepted.size

/-- Bytes that were taken use up room. -/
theorem room_append (writer : BoundedWriter) (bytes : List UInt8) :
    room { writer with accepted := writer.accepted ++ bytes } = writer.room - bytes.length := by
  rw [room, room, ← Array.length_toList, Array.toList_appendList, List.length_append,
    Array.length_toList, Nat.sub_add_eq]

/-- One write takes all that is offered and fits. -/
instance : ByteWriter BoundedWriter where
  write offered := fun writer =>
    if writer.room = 0 then
      match writer.whenFull with
      | .fails => .error FullWriter.fails.reason writer
      | .stalls => .ok 0 writer
    else
      .ok (min writer.room offered.length)
        { writer with accepted := writer.accepted ++ offered.take writer.room }

theorem takesInAll : TakesInAll (fun writer : BoundedWriter => writer.accepted.toList) room where
  taking writer offered some free := by
    have length : 0 < offered.length := List.length_pos_of_ne_nil some
    refine ⟨min writer.room offered.length, _, if_neg (Nat.ne_of_gt free), ?_, ?_, ?_, ?_, ?_⟩
    · omega
    · omega
    · omega
    · rw [Array.toList_appendList, ← List.take_eq_take_min]
    · rw [room_append, List.length_take]
  full writer offered none := by
    cases full : writer.whenFull with
    | fails =>
      refine ⟨writer, Or.inr ⟨FullWriter.fails.reason, ?_⟩, rfl, none⟩
      simp only [ByteWriter.write, none, full, if_true]
    | stalls =>
      refine ⟨writer, Or.inl ?_, rfl, none⟩
      simp only [ByteWriter.write, none, full, if_true]

theorem accepted_feed (writer : BoundedWriter) (events : List DebugEvent) :
    (OutputSink.feed writer events).accepted.toList =
      writer.accepted.toList ++ (DebugEvent.stream events).take writer.room := by
  have received (event : DebugEvent) (writer : BoundedWriter) :
      leftBy (OutputSink.receive event writer) =
        { writer with accepted := writer.accepted ++ event.toBytes.take writer.room } := by
    show leftBy (BoundedWriter.write event.toBytes writer) = _
    unfold BoundedWriter.write
    dsimp only
    split <;> rfl
  refine OutputSink.feed_bounded (fun writer : BoundedWriter => writer.accepted.toList) room
    (fun event writer => ?_) (fun event writer => ?_) writer events
  · rw [received, Array.toList_appendList]
  · rw [received, room_append, List.length_take]
    omega

end BoundedWriter

end Quadstack
