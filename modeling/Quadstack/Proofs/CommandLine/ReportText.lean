import Mathlib
import Quadstack.CommandLine.Response
import Quadstack.Proofs.Image.ListingText

/-!
The report on a run, read back. It has five lines and nothing else: one for each stack, in order,
and one that sums up. A stack's line shows its live bytes between brackets, as fields between
blanks, and from the fields one gets the bytes again. So whoever has the report has the
stacks, after a halt and after a fault alike.
-/

namespace Quadstack

theorem OnOneLine.intercalate {separator : String} {parts : List String}
    (between : OnOneLine separator) (clean : ∀ part ∈ parts, OnOneLine part) :
    OnOneLine (separator.intercalate parts) := by
  induction parts with
  | nil =>
    rw [String.intercalate_nil]
    decide
  | cons part rest inductionHypothesis =>
    have first := clean part List.mem_cons_self
    by_cases last : rest = []
    · rw [last, String.intercalate_singleton]
      exact first
    · rw [String.intercalate_cons_of_ne_nil last]
      refine .append (.append first between) (inductionHypothesis fun next member => ?_)
      exact clean next (List.mem_cons_of_mem part member)

namespace Response

/-! ### The line of a stack -/

/-- The bytes that fields between blanks stand for, each in hexadecimal. -/
def readBytes (fields : List Char) : List UInt8 :=
  ((fields.splitOn ' ').filter (· ≠ [])).map fun digits => UInt8.ofNat (Numeral.read 16 digits)

/-- The line names a stack and shows these bytes between brackets. -/
def ShowsStack (line : List Char) (id : StackId) (bytes : List UInt8) : Prop :=
  ∃ fields, line = ("s" ++ Numeral.decimal id ++ ": [").toList ++ fields ++ [']'] ∧
    readBytes fields = bytes

/-- The line that sums up a run without the line break that ends it. -/
def summaryText (outcome : Outcome) (steps : Nat) : String :=
  match outcome with
  | .ok halt =>
    "halted at " ++ Numeral.offset halt.offset ++ " (" ++ haltReason halt.reason ++ ") after " ++
      Numeral.decimal steps ++ " steps"
  | .error fault => "fault: " ++ fault.message

/-- The report consists of four lines that show the stacks, in order, and one that sums up. -/
def Reports (report : String) (bank : StackBank) (outcome : Outcome) (steps : Nat) : Prop :=
  ∃ line : StackId → List Char,
    report.toList.splitOn '\n' =
      StackBank.ids.map line ++ [(summaryText outcome steps).toList, []] ∧
    ∀ id, ShowsStack (line id) id (bank.contents id)

end Response

end Quadstack
