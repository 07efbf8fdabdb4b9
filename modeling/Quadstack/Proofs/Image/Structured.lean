import Mathlib
import Quadstack.Proofs.Image.Lossless

/-!
Images put together from whole instructions. What one appends to an image need not be an
instruction: it can be a loose operand, or an opcode that wants an operand which never comes, and
then the listing takes what follows for it. An emission is called structured if it brings along all
that its word calls for. A program of such emissions is listed line for line as it was written, each
line at the offset at which it was emitted.

What a line should show is written down from the emission alone, so that the writer and the reader
of images are both held to it.
-/

namespace Quadstack

/-! ### What should be shown -/

/-- The branches. -/
def Opcode.branches : List Opcode := [.br, .brZ, .brNZ, .brN, .brNN]

/-- The name of a code in a listing. -/
def Opcode.nameOfCode (code : UInt16) : String :=
  match ofCode? code with
  | some opcode => opcode.mnemonic
  | none => ".code " ++ Numeral.code code

/-- What a listing shows of an instruction, apart from its offset. -/
structure Shown where
  name : String
  source : Nat
  destination : Nat
  operand : Option String := none

/-- A line of a listing at an offset. -/
def Shown.lineAt (shown : Shown) (start : Nat) : String :=
  Numeral.hex 4 start ++ "  " ++ String.ofList (shown.name.toList.rightpad 8 ' ') ++
    " s" ++ Numeral.decimal shown.source ++ " d" ++ Numeral.decimal shown.destination ++
    shown.operand.elim "" ("  " ++ ·)

namespace Emission

/-- An emission that is an instruction with all that belongs to it. -/
def Structured : Emission → Prop
  | .op opcode _ _ => opcode.operation.inlineOperand? = none
  | .word content => (Operation.ofCode (content >>> 4)).inlineOperand? = none
  | .let8 _ _ | .let16 _ _ | .let32 _ _ | .letAddress _ _ => True
  | .branch opcode _ => opcode ∈ Opcode.branches
  | .debugText text => Char.ofNat 0 ∉ text.toList
  | .literal _ _ | .offset _ | .bytes _ => False

instance : DecidablePred Structured
  | .op _ _ _ | .word _ => inferInstanceAs (Decidable (_ = _))
  | .let8 _ _ | .let16 _ _ | .let32 _ _ | .letAddress _ _ => inferInstanceAs (Decidable True)
  | .branch _ _ => inferInstanceAs (Decidable (_ ∈ _))
  | .debugText _ => inferInstanceAs (Decidable (_ ∉ _))
  | .literal _ _ | .offset _ | .bytes _ => inferInstanceAs (Decidable False)

/-- What a listing should show of a structured emission. -/
def shown : Emission → Shown
  | .op opcode source destination =>
    { name := opcode.mnemonic, source := source.toNat % 4, destination := destination.toNat % 4 }
  | .word content =>
    { name := Opcode.nameOfCode (content >>> 4)
      source := content.toNat / 4 % 4
      destination := content.toNat % 4 }
  | .let8 destination value => literal .let8 destination value.toNat
  | .let16 destination value => literal .let16 destination value.toNat
  | .let32 destination value => literal .let32 destination value.toNat
  | .letAddress destination address => literal .letA destination address.toNat
  | .branch opcode distance =>
    { name := opcode.mnemonic
      source := 0
      destination := 0
      operand := some (Numeral.signed distance.toInt) }
  | .debugText text =>
    { name := Opcode.dbgS.mnemonic
      source := 0
      destination := 0
      operand := some (String.ofList (Text.Quoted.quote text.toList)) }
  | .literal _ _ | .offset _ | .bytes _ => { name := "", source := 0, destination := 0 }
where
  literal (opcode : Opcode) (destination : UInt8) (value : Nat) : Shown :=
    { name := opcode.mnemonic
      source := 0
      destination := destination.toNat % 4
      operand := some (Numeral.decimal value) }

end Emission

/-- The image that a list of emissions builds up, from nothing. -/
def Image.assemble (emissions : List Emission) : Image :=
  emissions.foldl emit #[]

theorem Image.toList_assemble (emissions : List Emission) :
    (assemble emissions).toList = emissions.flatMap Emission.toBytes := by
  have grown (image : Image) :
      (emissions.foldl emit image).toList = image.toList ++ emissions.flatMap Emission.toBytes := by
    induction emissions generalizing image with
    | nil => exact (List.append_nil _).symm
    | cons emission rest inductionHypothesis =>
      rw [List.foldl_cons, inductionHypothesis, emit, Array.toList_appendList, List.flatMap_cons,
        List.append_assoc]
  exact grown #[]

/-! ### What is shown -/

namespace Opcode

theorem resolve_code (opcode : Opcode) : resolve opcode.code = .ok opcode := by
  have small : ¬ opcode.code ≥ 0x1000 := by
    rw [ge_iff_le, UInt16.le_iff_toNat_le]
    exact Nat.not_le_of_lt (Instruction.toNat_code_lt opcode)
  rw [resolve, if_neg small, ofCode?_code]

theorem ofCode_code (opcode : Opcode) : Operation.ofCode opcode.code = opcode.operation := by
  rw [Operation.ofCode, ofCode?_code]

end Opcode

namespace Listing

/-- A code of twelve bits is named as the table names it. -/
theorem instructionName_decode (word : UInt16) :
    instructionName (Instruction.decode word) = Opcode.nameOfCode (word >>> 4) := by
  have small : ¬ (Instruction.decode word).code ≥ 0x1000 := by
    have bound : word.toNat < 65536 := word.toNat_lt
    rw [ge_iff_le, UInt16.le_iff_toNat_le, (Instruction.toNat_decode word).1]
    show ¬ 4096 ≤ word.toNat / 16
    omega
  rw [instructionName, Instruction.opcode, Opcode.resolve, if_neg small, Opcode.nameOfCode,
    Instruction.decode]
  dsimp only
  cases Opcode.ofCode? (word >>> 4) with
  | some opcode => rfl
  | none => rfl

theorem instructionName_ofOpcode (opcode : Opcode) (source destination : UInt8) :
    instructionName (Instruction.ofOpcode opcode source destination) = opcode.mnemonic := by
  rw [instructionName, Instruction.opcode, Instruction.ofOpcode, Opcode.resolve_code]

/-- Where an instruction has the name, the stacks and the operand that should be shown, its line is
the one that should be. -/
theorem Line.text_eq_lineAt {instruction : Instruction} {operand : Operand} {shown : Shown}
    (name : instructionName instruction = shown.name)
    (source : instruction.source.toNat = shown.source)
    (destination : instruction.destination.toNat = shown.destination)
    (written : operand.render = shown.operand.elim "" ("  " ++ ·)) (start : Nat) :
    (Line.whole start instruction operand).text = shown.lineAt start := by
  rw [Line.text, renderStart, renderInstruction, name, source, destination, written,
    Shown.lineAt]
  simp only [String.append_assoc]

/-- An instruction that the table knows, with an operand of the kind that it calls for, is listed by
its mnemonic and by the stacks that the low bits of its selectors name. -/
theorem listed_ofOpcode (opcode : Opcode) (source destination : UInt8) (operand : Operand)
    {text : Option String} (kind : operand.kind = opcode.operation.inlineOperand?)
    (fits : operand.Fits) (written : operand.render = text.elim "" ("  " ++ ·)) :
    WellFormed (Instruction.ofOpcode opcode source destination) operand ∧
      ∀ start, (Line.whole start (Instruction.ofOpcode opcode source destination) operand).text =
        Shown.lineAt ⟨opcode.mnemonic, source.toNat % 4, destination.toNat % 4, text⟩ start := by
  constructor
  · refine ⟨Instruction.decode_encode_ofOpcode opcode source destination, ?_, fits⟩
    rw [kind, Instruction.operation, Instruction.ofOpcode, Opcode.ofCode_code]
  · exact Line.text_eq_lineAt (instructionName_ofOpcode opcode source destination)
      (Instruction.toNat_and_three source) (Instruction.toNat_and_three destination) written

/-- An instruction that pushes a literal, whatever the type that the literal was given in. -/
theorem listed_literal (opcode : Opcode) (destination : UInt8) {width : Width} {value : UInt32}
    {number : Nat} (kind : opcode.operation = .literal width) (same : value.toNat = number)
    (fits : number < 256 ^ width.bytes) :
    WellFormed (Instruction.ofOpcode opcode 0 destination) (.literal width value) ∧
      ∀ start,
        (Line.whole start (Instruction.ofOpcode opcode 0 destination) (.literal width value)).text =
          (Emission.shown.literal opcode destination number).lineAt start := by
  subst same
  refine listed_ofOpcode opcode 0 destination (.literal width value) ?_ fits rfl
  rw [kind]
  rfl

end Listing

open Listing

/-- A structured emission is an instruction in bytes, and the line of that instruction shows what it
should. -/
theorem Emission.Structured.listed {emission : Emission} (structured : emission.Structured) :
    ∃ instruction operand, emission.toBytes = instruction.toBytes ++ operand.toBytes ∧
      WellFormed instruction operand ∧
      ∀ start, (Line.whole start instruction operand).text = emission.shown.lineAt start := by
  cases emission with
  | op opcode source destination =>
    refine ⟨Instruction.ofOpcode opcode source destination, .absent, ?_, ?_⟩
    · exact (List.append_nil _).symm
    · exact listed_ofOpcode opcode source destination .absent structured.symm trivial rfl
  | word content =>
    obtain ⟨_, source, destination⟩ := Instruction.toNat_decode content
    have word := Instruction.encode_decode content
    refine ⟨Instruction.decode content, .absent, ?_, ⟨?_, structured.symm, trivial⟩, ?_⟩
    · rw [Emission.toBytes, Instruction.toBytes, word]
      exact (List.append_nil _).symm
    · rw [word]
    · exact Line.text_eq_lineAt (instructionName_decode content) source destination rfl
  | let8 destination value =>
    refine ⟨Instruction.ofOpcode .let8 0 destination, .literal .w8 value.toUInt32, rfl, ?_⟩
    exact listed_literal .let8 destination rfl (UInt8.toNat_toUInt32 value) value.toNat_lt
  | let16 destination value =>
    refine ⟨Instruction.ofOpcode .let16 0 destination, .literal .w16 value.toUInt32, rfl, ?_⟩
    exact listed_literal .let16 destination rfl (UInt16.toNat_toUInt32 value) value.toNat_lt
  | let32 destination value =>
    refine ⟨Instruction.ofOpcode .let32 0 destination, .literal .w32 value, rfl, ?_⟩
    exact listed_literal .let32 destination rfl rfl value.toNat_lt
  | letAddress destination address =>
    refine ⟨Instruction.ofOpcode .letA 0 destination, .literal .w32 address, rfl, ?_⟩
    exact listed_literal .letA destination rfl rfl address.toNat_lt
  | branch opcode distance =>
    have everyBranch : ∀ entry ∈ Opcode.branches,
        entry.operation.inlineOperand? = some .offset := by decide
    refine ⟨Instruction.ofOpcode opcode 0 0, .offset distance, rfl, ?_⟩
    exact listed_ofOpcode opcode 0 0 (.offset distance) (everyBranch opcode structured).symm trivial
      rfl
  | debugText text =>
    have fits := Text.Utf8.zero_notMem_toUTF8 structured
    refine ⟨Instruction.ofOpcode .dbgS 0 0, .text text.toUTF8.data.toList, ?_, ?_⟩
    · exact List.append_assoc _ _ _
    · refine listed_ofOpcode .dbgS 0 0 (.text text.toUTF8.data.toList) rfl fits ?_
      rw [Operand.render, Text.Utf8.decode_toUTF8]
      rfl
  | literal _ _ | offset _ | bytes _ => exact structured.elim

/-! ### Whole programs -/

/-- Structured emissions one after another are listed one after another, each where it starts. -/
theorem sweepFrom_structured (emissions : List Emission)
    (structured : ∀ emission ∈ emissions, emission.Structured) (start : Nat) :
    (sweepFrom start (emissions.flatMap Emission.toBytes)).map Line.text =
        emissions.mapIdx (fun place emission =>
          emission.shown.lineAt
            (start + ((emissions.take place).flatMap Emission.toBytes).length)) ∧
      ∀ line ∈ sweepFrom start (emissions.flatMap Emission.toBytes), line.isWhole = true := by
  -- The offset is general, since the rest of a program does not start where the image does.
  induction emissions generalizing start with
  | nil =>
    rw [List.flatMap_nil, sweepFrom]
    exact ⟨rfl, fun line member => absurd member List.not_mem_nil⟩
  | cons emission rest inductionHypothesis =>
    rw [List.forall_mem_cons] at structured
    obtain ⟨instruction, operand, bytes, wellFormed, text⟩ := structured.1.listed
    have length : emission.toBytes.length = Instruction.wordBytes + operand.size := by
      rw [bytes, List.length_append, instruction.length_toBytes, operand.length_toBytes]
    obtain ⟨texts, whole⟩ := inductionHypothesis structured.2
      (start + Instruction.wordBytes + operand.size)
    have later (place : Nat) :
        start + (((emission :: rest).take (place + 1)).flatMap Emission.toBytes).length =
          start + Instruction.wordBytes + operand.size +
            ((rest.take place).flatMap Emission.toBytes).length := by
      rw [List.take_succ_cons, List.flatMap_cons, List.length_append, length]
      omega
    rw [List.flatMap_cons, bytes, wellFormed.sweepFrom]
    constructor
    · rw [List.map_cons, text, texts, List.mapIdx_cons]
      simp only [later, List.take_zero, List.flatMap_nil, List.length_nil, Nat.add_zero]
    · rw [List.forall_mem_cons]
      exact ⟨rfl, whole⟩

/-- The lines that a program of emissions should be listed by: one for each emission, at the size
that the image had before it. -/
def Emission.lines (emissions : List Emission) : List String :=
  emissions.mapIdx fun place emission =>
    emission.shown.lineAt (Image.assemble (emissions.take place)).size

/-- What is put together from structured emissions is listed as it was written: the listing has
exactly one line for each emission, in order, at the offset at which it was emitted, with the
emission's own name, stacks and operand. Nothing is cut off, and the listing falls into these lines
and no others at its line breaks, whatever stands in the texts. -/
theorem listing_of_structured (emissions : List Emission)
    (structured : ∀ emission ∈ emissions, emission.Structured) :
    (Image.assemble emissions).SweepsToEnd ∧
      (Image.assemble emissions).listing =
        String.join ((Emission.lines emissions).map (· ++ "\n")) ∧
      (Image.assemble emissions).listing.toList.splitOn '\n' =
        (Emission.lines emissions).map String.toList ++ [[]] := by
  obtain ⟨texts, whole⟩ := sweepFrom_structured emissions structured 0
  rw [← Image.toList_assemble] at texts whole
  have size (place : Nat) : (Image.assemble (emissions.take place)).size =
      0 + ((emissions.take place).flatMap Emission.toBytes).length := by
    rw [← Image.toList_assemble, Array.length_toList, Nat.zero_add]
  have lines : Emission.lines emissions = (sweep (Image.assemble emissions)).map Line.text := by
    simp only [Emission.lines, size]
    exact texts.symm
  refine ⟨whole, ?_, ?_⟩
  · rw [Image.listing, render, lines, List.map_map]
    exact congrArg String.join (List.map_congr_left fun line _ => line.render_eq)
  · rw [Image.listing, splitOn_render, lines, List.map_map]
    rfl

/-- A literal, a text that is a line break, a code without a name and a branch, on selectors of
which only the low bits count. -/
theorem listing_of_structured_four :
    ∃ emissions : List Emission,
      emissions = [.let8 5 200, .debugText "\n", .word 0x00c7, .branch .brNN (-9)] ∧
      (∀ emission ∈ emissions, emission.Structured) ∧
      (Image.assemble emissions).listing =
        "0000  LET8     s0 d1  200\n0003  DBGS     s0 d0  \"\\n\"\n" ++
          "0007  .code 0x00c s1 d3\n0009  BRNN     s0 d0  -9\n" := by
  let emissions : List Emission :=
    [.let8 5 200, .debugText "\n", .word 0x00c7, .branch .brNN (-9)]
  have structured : ∀ emission ∈ emissions, emission.Structured := by decide +kernel
  obtain ⟨_, listed, _⟩ := listing_of_structured emissions structured
  exact ⟨emissions, rfl, structured, listed.trans (by decide +kernel)⟩

end Quadstack
