import Mathlib
import Quadstack.Proofs.CommandLine.Answers

/-!
The arguments after the file of a run, held to their grammar. The arguments come in pairs, a mark
and a step count, and are read two at a time; a count that is missing, a count that is none and an
argument that is no mark are the three ways to go wrong. Which of them is complained about is
said here without the reader, by places: marks stand at even places and counts at odd ones, each
place is looked at on its own, and the complaint is about the first place where something is
wrong. A mark in the place of a count is then simply not a count.

Step counts are described by their digits and places in base ten, so that the largest of them is a
number and not a matter of how many digits there are.
-/

namespace Quadstack

namespace Request

/-! ### Step counts -/

/-- The number that decimal digits stand for, the last of them being the units. -/
def decimalValue (digits : List Char) : Nat :=
  Nat.ofDigits 10 (digits.reverse.map fun digit => digit.toNat - '0'.toNat)

/-- A text spells a step count: digits, at least one and with at most one plus sign in front, whose
value fits in 64 bits. -/
def Spells (text : String) (count : Nat) : Prop :=
  ∃ sign digits, text.toList = sign ++ digits ∧ (sign = [] ∨ sign = ['+']) ∧ digits ≠ [] ∧
    (∀ digit ∈ digits, '0' ≤ digit ∧ digit ≤ '9') ∧ count = decimalValue digits ∧
    count ≤ 2 ^ 64 - 1

/-- Reading digits from the left gives their value by places. -/
theorem ofDigitChars_eq_decimalValue (digits : List Char) :
    Nat.ofDigitChars 10 digits 0 = decimalValue digits := by
  induction digits using List.reverseRecOn with
  | nil => rfl
  | append_singleton digits last inductionHypothesis =>
    rw [Nat.ofDigitChars_append, inductionHypothesis, Nat.ofDigitChars_cons, Nat.ofDigitChars_nil,
      decimalValue, decimalValue, List.reverse_concat, List.map_cons, Nat.ofDigits_cons,
      Nat.add_comm]

theorem isDigit_iff (digit : Char) : digit.isDigit = true ↔ '0' ≤ digit ∧ digit ≤ '9' :=
  Char.isDigit_iff_toNat

/-- Only one plus sign is taken off. -/
theorem stepCountDigits_eq_iff {text digits : List Char}
    (decimal : ∀ digit ∈ digits, '0' ≤ digit ∧ digit ≤ '9') :
    stepCountDigits text = digits ↔
      ∃ sign, text = sign ++ digits ∧ (sign = [] ∨ sign = ['+']) := by
  fun_cases stepCountDigits text with
  | case1 rest =>
    constructor
    · rintro rfl
      exact ⟨['+'], rfl, Or.inr rfl⟩
    · rintro ⟨sign, split, rfl | rfl⟩
      · -- A plus sign that was not taken off would be one of the digits.
        cases split
        exact absurd (decimal '+' List.mem_cons_self).1 (by decide)
      · cases split
        rfl
  | case2 text unsigned =>
    constructor
    · rintro rfl
      exact ⟨[], rfl, Or.inl rfl⟩
    · rintro ⟨sign, rfl, rfl | rfl⟩
      · rfl
      · exact absurd rfl (unsigned digits)

/-- A step count is read exactly from the texts that spell it. -/
theorem parseStepCount?_eq_some_iff {text : String} {count : Nat} :
    parseStepCount? text = some count ↔ Spells text count := by
  have bounded (value : Nat) : value < stepCountBound ↔ value ≤ 2 ^ 64 - 1 :=
    Nat.lt_iff_le_pred (by decide)
  unfold parseStepCount?
  simp only [ofDigitChars_eq_decimalValue, bounded, List.all_eq_true, isDigit_iff]
  constructor
  · intro read
    split at read
    · rename_i counted
      cases read
      obtain ⟨sign, split, few⟩ := (stepCountDigits_eq_iff counted.2.1).mp rfl
      exact ⟨sign, _, split, few, counted.1, counted.2.1, rfl, counted.2.2⟩
    · cases read
  · rintro ⟨sign, digits, split, few, some, decimal, rfl, fits⟩
    rw [(stepCountDigits_eq_iff decimal).mpr ⟨sign, split, few⟩]
    exact if_pos ⟨some, decimal, fits⟩

/-! ### Places -/

/-- Something is wrong at a place of the arguments, taken by itself. It calls for a complaint, which
is one line on the error stream. -/
inductive Offends (flags : List String) : Nat → Complaint → String → Prop
  /-- Where a mark should stand there is something else. -/
  | unexpected {place : Nat} {text : String} (even : place % 2 = 0)
      (here : flags[place]? = some text) (other : text ≠ "--max-steps") :
      Offends flags place (.unexpectedArgument text)
        ("error: unexpected argument '" ++ text ++ "'\n")
  /-- The last argument is a mark. -/
  | missing {place : Nat} (even : place % 2 = 0) (here : flags[place]? = some "--max-steps")
      (last : flags.length = place + 1) :
      Offends flags place .missingStepCount "error: --max-steps requires a value\n"
  /-- Where a count should stand there is none. -/
  | invalid {place : Nat} {text : String} (odd : place % 2 = 1)
      (here : flags[place]? = some text) (unread : ∀ count, ¬ Spells text count) :
      Offends flags place (.invalidStepCount text)
        ("error: invalid step count '" ++ text ++ "'\n")

/-- What is wrong at the first place where something is. -/
structure FirstOffence (flags : List String) (place : Nat) (complaint : Complaint)
    (line : String) : Prop where
  offends : Offends flags place complaint line
  first : ∀ earlier < place, ∀ other text, ¬ Offends flags earlier other text

variable {flags rest : List String} {flag text line : String} {place : Nat}
variable {complaint : Complaint}

theorem Offends.line_eq (offends : Offends flags place complaint line) :
    line = complaint.message := by
  cases offends <;> rfl

/-- At one place there is at most one thing wrong. -/
theorem Offends.unique (offends : Offends flags place complaint line) {other : Complaint}
    {otherLine : String} (offendsToo : Offends flags place other otherLine) :
    complaint = other := by
  cases offends with
  | unexpected even here differs =>
    cases offendsToo with
    | unexpected _ hereToo _ =>
      cases here.symm.trans hereToo
      rfl
    | missing _ hereToo _ =>
      cases here.symm.trans hereToo
      exact absurd rfl differs
    | invalid odd _ _ => omega
  | missing even here last =>
    cases offendsToo with
    | unexpected _ hereToo differs =>
      cases here.symm.trans hereToo
      exact absurd rfl differs
    | missing _ _ _ => rfl
    | invalid odd _ _ => omega
  | invalid odd here unread =>
    cases offendsToo with
    | unexpected even _ _ => omega
    | missing even _ _ => omega
    | invalid _ hereToo _ =>
      cases here.symm.trans hereToo
      rfl

theorem FirstOffence.unique (offence : FirstOffence flags place complaint line) {placeToo : Nat}
    {other : Complaint} {otherLine : String}
    (offenceToo : FirstOffence flags placeToo other otherLine) : complaint = other := by
  rcases Nat.lt_trichotomy place placeToo with before | rfl | after
  · exact absurd offence.offends (offenceToo.first place before _ _)
  · exact offence.offends.unique offenceToo.offends
  · exact absurd offenceToo.offends (offence.first placeToo after _ _)

/-- A pair in front moves every place on by two. -/
theorem offends_add_two_iff :
    Offends (flag :: text :: rest) (place + 2) complaint line ↔
      Offends rest place complaint line := by
  have parity : (place + 2) % 2 = place % 2 := Nat.add_mod_right place 2
  have length : (flag :: text :: rest).length = rest.length + 2 := rfl
  constructor
  · intro offends
    cases offends with
    | unexpected even here other => exact .unexpected (parity ▸ even) here other
    | missing even here last => exact .missing (parity ▸ even) here (by omega)
    | invalid odd here unread => exact .invalid (parity ▸ odd) here unread
  · intro offends
    cases offends with
    | unexpected even here other => exact .unexpected (parity.trans even) here other
    | missing even here last => exact .missing (parity.trans even) here (by omega)
    | invalid odd here unread => exact .invalid (parity.trans odd) here unread

theorem not_offends_mark {rest : List String} :
    ¬ Offends ("--max-steps" :: text :: rest) 0 complaint line := by
  intro offends
  cases offends with
  | unexpected _ here other =>
    cases here
    exact other rfl
  | missing _ _ last => cases last
  | invalid odd _ _ => cases odd

theorem not_offends_count {count : Nat} (spelled : Spells text count) :
    ¬ Offends (flag :: text :: rest) 1 complaint line := by
  intro offends
  cases offends with
  | unexpected even _ _ => cases even
  | missing even _ _ => cases even
  | invalid _ here unread =>
    cases here
    exact unread count spelled

/-- In a pair that is right nothing is wrong, so what is wrong is so behind it. -/
theorem Offends.behind_pair {count : Nat} (spelled : Spells text count)
    (offends : Offends ("--max-steps" :: text :: rest) place complaint line) :
    ∃ behind, place = behind + 2 ∧ Offends rest behind complaint line := by
  rcases place with _ | _ | behind
  · exact absurd offends not_offends_mark
  · exact absurd offends (not_offends_count spelled)
  · exact ⟨behind, rfl, offends_add_two_iff.mp offends⟩

theorem Offends.at_start (offends : Offends flags 0 complaint line) :
    FirstOffence flags 0 complaint line where
  offends := offends
  first _ before := absurd before (Nat.not_lt_zero _)

theorem FirstOffence.behind {count : Nat} (spelled : Spells text count)
    (offence : FirstOffence rest place complaint line) :
    FirstOffence ("--max-steps" :: text :: rest) (place + 2) complaint line where
  offends := offends_add_two_iff.mpr offence.offends
  first earlier before other line offends := by
    obtain ⟨behind, rfl, offendsBehind⟩ := offends.behind_pair spelled
    exact offence.first behind (by omega) other line offendsBehind

/-! ### The reader and the grammar -/

/-- Flags are read if nothing is wrong at any place, and otherwise they are complained about by what
is wrong at the first. -/
theorem parseFlags_cases (before : Option Nat) (flags : List String) :
    (∃ stepLimit, parseFlags before flags = .ok stepLimit ∧
        ∀ place complaint line, ¬ Offends flags place complaint line) ∨
      ∃ complaint, parseFlags before flags = .error complaint ∧
        ∃ place line, FirstOffence flags place complaint line := by
  fun_induction parseFlags before flags with
  | case1 before =>
    refine Or.inl ⟨before, rfl, fun place complaint line offends => ?_⟩
    cases offends with
    | unexpected _ here _ | missing _ here _ | invalid _ here _ => cases here
  | case2 before =>
    exact Or.inr ⟨_, rfl, 0, _, Offends.at_start (.missing rfl rfl rfl)⟩
  | case3 before text rest count read inductionHypothesis =>
    have spelled := parseStepCount?_eq_some_iff.mp read
    rcases inductionHypothesis with
      ⟨stepLimit, done, right⟩ | ⟨complaint, failed, place, line, wrong⟩
    · refine Or.inl ⟨stepLimit, done, fun place complaint line offends => ?_⟩
      obtain ⟨behind, _, offendsBehind⟩ := offends.behind_pair spelled
      exact right behind complaint line offendsBehind
    · exact Or.inr ⟨complaint, failed, place + 2, line, wrong.behind spelled⟩
  | case4 before text rest unread =>
    refine Or.inr ⟨_, rfl, 1, _, .invalid rfl rfl fun count spelled => ?_, ?_⟩
    · cases unread.symm.trans (parseStepCount?_eq_some_iff.mpr spelled)
    · intro earlier before other line
      obtain rfl : earlier = 0 := by omega
      exact not_offends_mark
  | case5 before flag rest other =>
    exact Or.inr ⟨_, rfl, 0, _, Offends.at_start (.unexpected rfl rfl other)⟩

theorem parseFlags_eq_error_iff {before : Option Nat} :
    parseFlags before flags = .error complaint ↔
      ∃ place line, FirstOffence flags place complaint line := by
  rcases parseFlags_cases before flags with ⟨stepLimit, done, right⟩ | ⟨raised, failed, wrong⟩
  · rw [done]
    refine iff_of_false (fun failed => nomatch failed) ?_
    rintro ⟨place, line, offence⟩
    exact right place complaint line offence.offends
  · rw [failed]
    constructor
    · intro same
      cases same
      exact wrong
    · rintro ⟨place, line, offence⟩
      obtain ⟨placeToo, lineToo, offenceToo⟩ := wrong
      rw [offenceToo.unique offence]

/-- A run whose flags are complained about is answered with the complaint and nothing else. -/
theorem respond?_of_firstOffence (offence : FirstOffence flags place complaint line)
    (read : String → Except String Image) (fuel : Nat) (path : String) :
    Response.respond? read fuel ("run" :: path :: flags) =
      some { exitCode := 1, output := [], report := line } := by
  have failed : parseFlags none flags = .error complaint :=
    parseFlags_eq_error_iff.mpr ⟨place, line, offence⟩
  have misunderstood : parse ("run" :: path :: flags) = .error complaint := by
    simp [parse, failed, Except.map]
  rw [Response.respond?_of_misunderstood misunderstood, offence.offends.line_eq]
  rfl

end Request

open Request in
/-- The arguments after the file of a run are read exactly by their grammar. They are accepted if
and only if they are pairs of a mark and a text that spells a step count, and the limit is then the
last count, or none without any. All others are rejected, with the one complaint that the first
place calls for at which something is wrong, and a run with them is answered with the line of that
complaint on the error stream and exit code 1, whatever its file. -/
theorem flags_follow_grammar (flags : List String) :
    (∀ stepLimit, parseFlags none flags = .ok stepLimit ↔
      ∃ counts : List (String × Nat),
        flags = counts.flatMap (fun count => ["--max-steps", count.1]) ∧
        (∀ count ∈ counts, Spells count.1 count.2) ∧
        stepLimit = (counts.map Prod.snd).getLast?) ∧
    (∀ complaint, parseFlags none flags = .error complaint ↔
      ∃ place line, FirstOffence flags place complaint line) ∧
    ∀ place complaint line, FirstOffence flags place complaint line →
      ∀ read fuel path, Response.respond? read fuel ("run" :: path :: flags) =
        some { exitCode := 1, output := [], report := line } := by
  refine ⟨fun stepLimit => ?_, fun complaint => parseFlags_eq_error_iff, ?_⟩
  · simp only [parseFlags_none_iff, Limits, parseStepCount?_eq_some_iff]
    rfl
  · intro place complaint line offence
    exact respond?_of_firstOffence offence

/-- Flags that end in a mark after a count that is right: the complaint is about the mark. -/
theorem flags_follow_grammar_mark :
    ∃ flags : List String, flags = ["--max-steps", "+007", "--max-steps"] ∧
      Request.FirstOffence flags 2 .missingStepCount "error: --max-steps requires a value\n" ∧
      Response.respond? (fun _ => .error "not found") 0 ("run" :: "a.bin" :: flags) =
        some {
          exitCode := 1
          output := []
          report := "error: --max-steps requires a value\n" } := by
  let flags := ["--max-steps", "+007", "--max-steps"]
  have spelled : Request.Spells "+007" 7 :=
    Request.parseStepCount?_eq_some_iff.mp (by decide +kernel)
  have offence : Request.FirstOffence flags 2 .missingStepCount
      "error: --max-steps requires a value\n" :=
    (Request.Offends.at_start (.missing rfl rfl rfl)).behind spelled
  exact ⟨flags, rfl, offence, (flags_follow_grammar flags).2.2 _ _ _ offence _ _ _⟩

end Quadstack
