import Mathlib
import Quadstack.Proofs.Image.Codec
import Quadstack.Proofs.Image.ListingText
import Quadstack.Proofs.Text.Utf8

/-!
A listing loses nothing. A line is a row of fields between blanks, and each field gives away where
it ends: neither numbers nor mnemonics hold a blank. So from the text of a line one can tell the
offset, the name, and with the name the code, the two stacks, and then the operand, whose kind is
settled by the code. A code that has no name shows as a number, behind a mark that no mnemonic
begins with. From the lines come the bytes, if none is cut off.

Only a text that is not UTF-8 is written in a way that others share.
-/

namespace Quadstack

/-! ### Fields -/

/-- A field that is ended by a blank can be told from what follows. -/
theorem field_inj {first second rest others : List Char} (clean : ' ' ∉ first)
    (alsoClean : ' ' ∉ second) (same : first ++ ' ' :: rest = second ++ ' ' :: others) :
    first = second ∧ rest = others := by
  have fields := congrArg (List.splitOn ' ') same
  rw [List.splitOn_append_cons_self_of_not_mem clean,
    List.splitOn_append_cons_self_of_not_mem alsoClean] at fields
  obtain ⟨rfl, _⟩ := List.cons.inj fields
  exact ⟨rfl, (List.cons.inj (List.append_cancel_left same)).2⟩

/-- Blanks that fill up a field can as well stand behind the blank that ends it. -/
theorem rightpad_append_cons (width : Nat) (field rest : List Char) :
    field.rightpad width ' ' ++ ' ' :: rest =
      field ++ ' ' :: (List.replicate (width - field.length) ' ' ++ rest) := by
  rw [List.rightpad, List.append_assoc, ← List.singleton_append, ← List.append_assoc _ [' '],
    ← List.replicate_succ', List.replicate_succ, List.cons_append]

namespace Numeral

theorem blank_notMem_decimal (number : Nat) : ' ' ∉ (decimal number).toList := by
  rw [decimal, String.toList_ofList]
  exact notMem_toDigits (fun _ => Nat.digitChar_ne ' ' rfl) (by decide) number

theorem blank_notMem_hex (least number : Nat) : ' ' ∉ (hex least number).toList :=
  notMem_hex (fun _ => Nat.digitChar_ne ' ' rfl) least number

theorem blank_notMem_code (code : UInt16) : ' ' ∉ (Numeral.code code).toList := by
  rw [Numeral.code, marked, String.toList_append, List.mem_append, not_or]
  exact ⟨by decide, blank_notMem_hex _ _⟩

theorem code_injective : Function.Injective Numeral.code := by
  intro first second same
  rw [Numeral.code, Numeral.code, marked, marked] at same
  exact UInt16.toNat_inj.mp (hex_injective 3 (String.append_right_inj _ |>.mp same))

end Numeral

/-! ### Names -/

namespace Opcode

/-- A mnemonic leads back to its own row, so no two rows share one. -/
theorem ofMnemonic?_mnemonic (opcode : Opcode) : ofMnemonic? opcode.mnemonic = some opcode := by
  have everyRow : ∀ entry ∈ all, ofMnemonic? entry.mnemonic = some entry := by decide +kernel
  exact everyRow opcode opcode.mem_all

theorem mnemonic_injective : Function.Injective mnemonic := fun first second same =>
  Option.some.inj (by rw [← first.ofMnemonic?_mnemonic, same, second.ofMnemonic?_mnemonic])

theorem code_of_resolve {code : UInt16} {opcode : Opcode} (found : resolve code = .ok opcode) :
    opcode.code = code := by
  unfold resolve at found
  split at found
  · cases found
  · split at found
    · rename_i entry row
      cases found
      rw [ofCode?] at row
      have own := List.find?_some row
      exact beq_iff_eq.mp own
    · cases found

end Opcode

namespace Listing

theorem mnemonic_ne_code (opcode : Opcode) (code : UInt16) (rest others : List Char) :
    opcode.mnemonic.toList ++ ' ' :: rest ≠
      (".code " ++ Numeral.code code).toList ++ ' ' :: others := by
  intro same
  rw [String.toList_append, List.append_assoc] at same
  have mark : ' ' ∉ ".code".toList ∧ '.' ∈ ".code".toList := by decide
  obtain ⟨names, _⟩ := field_inj (opcode.notMem_mnemonic rfl) mark.1 same
  rw [← names] at mark
  exact opcode.notMem_mnemonic rfl mark.2

/-- The name of an instruction, up to the blank behind it, tells the code. -/
theorem instructionName_inj {first second : Instruction} {rest others : List Char}
    (same : (instructionName first).toList ++ ' ' :: rest =
      (instructionName second).toList ++ ' ' :: others) :
    first.code = second.code ∧ rest = others := by
  unfold instructionName at same
  cases known : first.opcode with
  | ok opcode =>
    rw [known] at same
    cases alsoKnown : second.opcode with
    | ok other =>
      rw [alsoKnown] at same
      obtain ⟨names, rests⟩ := field_inj (opcode.notMem_mnemonic rfl) (other.notMem_mnemonic rfl)
        same
      have opcodes : opcode = other := Opcode.mnemonic_injective (String.toList_inj.mp names)
      rw [← Opcode.code_of_resolve known, opcodes, Opcode.code_of_resolve alsoKnown]
      exact ⟨rfl, rests⟩
    | error reason =>
      rw [alsoKnown] at same
      exact absurd same (mnemonic_ne_code opcode second.code rest others)
  | error reason =>
    rw [known] at same
    cases alsoKnown : second.opcode with
    | ok other =>
      rw [alsoKnown] at same
      exact absurd same.symm (mnemonic_ne_code other first.code others rest)
    | error otherReason =>
      rw [alsoKnown] at same
      dsimp only at same
      rw [String.toList_append, String.toList_append, List.append_assoc, List.append_assoc] at same
      obtain ⟨codes, rests⟩ := field_inj (Numeral.blank_notMem_code _) (Numeral.blank_notMem_code _)
        (List.append_cancel_left same)
      exact ⟨Numeral.code_injective (String.toList_inj.mp codes), rests⟩

/-! ### Lines -/

/-- A text operand is in UTF-8. -/
def Operand.InUtf8 : Operand → Prop
  | .text bytes => bytes.toByteArray.IsValidUTF8
  | _ => True

/-- An operand can be told from its text, if its kind is known. -/
theorem Operand.render_inj {first second : Operand} (kinds : first.kind = second.kind)
    (valid : first.InUtf8) (alsoValid : second.InUtf8) (same : first.render = second.render) :
    first = second := by
  cases first with
  | absent =>
    cases second with
    | absent => rfl
    | literal _ _ | offset _ | text _ => cases kinds
  | literal width value =>
    cases second with
    | literal otherWidth other =>
      cases kinds
      have digits := Numeral.decimal_injective ((String.append_right_inj _).mp same)
      rw [UInt32.toNat_inj.mp digits]
    | absent | offset _ | text _ => cases kinds
  | offset distance =>
    cases second with
    | offset other =>
      have numbers := Numeral.signed_injective ((String.append_right_inj _).mp same)
      rw [Int16.toInt_inj.mp numbers]
    | absent | literal _ _ | text _ => cases kinds
  | text bytes =>
    cases second with
    | text other =>
      have quoted := Text.Quoted.quote_injective
        (String.ofList_inj.mp ((String.append_right_inj _).mp same))
      rw [Text.Utf8.eq_of_decode_eq valid alsoValid quoted]
    | absent | literal _ _ | offset _ => cases kinds

/-- Whatever the operand, behind the second stack there is a blank or the end of the line. -/
theorem Operand.render_begins (operand : Operand) :
    ∃ rest, operand.render.toList ++ [' '] = ' ' :: rest := by
  cases operand with
  | absent => exact ⟨[], rfl⟩
  | literal _ _ | offset _ | text _ =>
    rw [Operand.render, String.toList_append, List.append_assoc]
    exact ⟨_, rfl⟩

/-- The text of a whole line as fields, each ended by a blank. -/
theorem Line.text_whole (start : Nat) (instruction : Instruction) (operand : Operand) :
    (Line.whole start instruction operand).text.toList =
      (Numeral.hex 4 start).toList ++ ' ' :: ' ' ::
        ((instructionName instruction).toList ++ ' ' ::
          (List.replicate (8 - (instructionName instruction).toList.length) ' ' ++ 's' ::
            ((Numeral.decimal instruction.source.toNat).toList ++ ' ' :: 'd' ::
              ((Numeral.decimal instruction.destination.toNat).toList ++
                operand.render.toList)))) := by
  have gap : "  ".toList = [' ', ' '] := rfl
  have source : " s".toList = [' ', 's'] := rfl
  have destination : " d".toList = [' ', 'd'] := rfl
  rw [Line.text, renderStart, renderInstruction]
  simp only [String.toList_append, String.toList_ofList, List.append_assoc, gap, source,
    destination, List.cons_append, List.nil_append, rightpad_append_cons]

/-- The fields of a line can be told from its text. -/
theorem Line.fields_of_text {start place : Nat} {instruction other : Instruction}
    {operand otherOperand : Operand}
    (same : (Line.whole start instruction operand).text =
      (Line.whole place other otherOperand).text) :
    start = place ∧ instruction = other ∧ operand.render = otherOperand.render := by
  have characters := congrArg String.toList same
  rw [text_whole, text_whole] at characters
  obtain ⟨starts, afterStart⟩ := field_inj (Numeral.blank_notMem_hex _ _)
    (Numeral.blank_notMem_hex _ _) characters
  obtain ⟨codes, afterName⟩ := instructionName_inj (List.cons.inj afterStart).2
  have names : instructionName instruction = instructionName other := by
    rw [instructionName, instructionName, Instruction.opcode, Instruction.opcode, codes]
  rw [names] at afterName
  obtain ⟨sources, afterSource⟩ := field_inj (Numeral.blank_notMem_decimal _)
    (Numeral.blank_notMem_decimal _) (List.cons.inj (List.append_cancel_left afterName)).2
  -- A blank behind the line ends the last stack's field also where there is no operand.
  obtain ⟨rest, begins⟩ := operand.render_begins
  obtain ⟨others, alsoBegins⟩ := otherOperand.render_begins
  have closed := congrArg (· ++ [' ']) (List.cons.inj afterSource).2
  simp only [List.append_assoc, begins, alsoBegins] at closed
  obtain ⟨destinations, rests⟩ := field_inj (Numeral.blank_notMem_decimal _)
    (Numeral.blank_notMem_decimal _) closed
  refine ⟨Numeral.hex_injective 4 (String.toList_inj.mp starts), ?_, ?_⟩
  · show Instruction.mk instruction.code instruction.source instruction.destination = other
    rw [codes, UInt8.toNat_inj.mp (Numeral.decimal_injective (String.toList_inj.mp sources)),
      UInt8.toNat_inj.mp (Numeral.decimal_injective (String.toList_inj.mp destinations))]
  · rw [← rests, ← begins] at alsoBegins
    exact String.toList_inj.mp (List.append_cancel_right alsoBegins).symm

/-- A whole line that could come from an image, with its text in UTF-8 if it has one. -/
inductive Line.Legible : Line → Prop where
  | whole {start : Nat} {instruction : Instruction} {operand : Operand}
      (wellFormed : WellFormed instruction operand) (valid : operand.InUtf8) :
      Legible (.whole start instruction operand)

/-- Such a line can be told from its text: the instruction says of which kind the operand is. -/
theorem Line.text_inj {first second : Line} (legible : first.Legible)
    (alsoLegible : second.Legible) (same : first.text = second.text) : first = second := by
  obtain @⟨start, instruction, operand, wellFormed, valid⟩ := legible
  obtain @⟨place, other, otherOperand, alsoWellFormed, alsoValid⟩ := alsoLegible
  obtain ⟨rfl, rfl, written⟩ := fields_of_text same
  have kinds : operand.kind = otherOperand.kind := by
    rw [wellFormed.kind, alsoWellFormed.kind]
  rw [Operand.render_inj kinds valid alsoValid written]

/-- So can such lines one after another. -/
theorem lines_inj {first second : List Line} (legible : ∀ line ∈ first, line.Legible)
    (alsoLegible : ∀ line ∈ second, line.Legible)
    (same : first.map (fun line => line.text.toList) = second.map fun line => line.text.toList) :
    first = second := by
  induction first generalizing second with
  | nil => exact (List.map_eq_nil_iff.mp same.symm).symm
  | cons line rest inductionHypothesis =>
    obtain ⟨other, others, rfl, text, texts⟩ := List.map_eq_cons_iff.mp same.symm
    rw [List.forall_mem_cons] at legible alsoLegible
    rw [Line.text_inj legible.1 alsoLegible.1 (String.toList_inj.mp text.symm),
      inductionHypothesis legible.2 alsoLegible.2 texts.symm]

end Listing

/-! ### Images -/

namespace Image

/-- The sweep comes out exactly at the end of the image: no line is cut off. -/
def SweepsToEnd (image : Image) : Prop :=
  ∀ line ∈ Listing.sweep image, line.isWhole = true

/-- The text operands that the sweep finds are all in UTF-8. -/
def TextsInUtf8 (image : Image) : Prop :=
  ∀ start instruction bytes,
    .whole start instruction (.text bytes) ∈ Listing.sweep image → bytes.toByteArray.IsValidUTF8

theorem legible_sweep {image : Image} (ended : image.SweepsToEnd) (valid : image.TextsInUtf8) :
    ∀ line ∈ Listing.sweep image, line.Legible := by
  intro line member
  cases line with
  | whole start instruction operand =>
    refine .whole (Listing.wellFormed_of_mem_sweepFrom member) ?_
    cases operand with
    | text bytes => exact valid start instruction bytes member
    | absent | literal _ _ | offset _ => trivial
  | cutOperand _ _ | cutWord _ => cases ended _ member

end Image

/-- A listing loses nothing: two images with the same listing are the same, if no instruction is cut
off at the end of either and all their texts are in UTF-8. -/
theorem listing_loses_nothing {image other : Image} (ended : image.SweepsToEnd)
    (otherEnded : other.SweepsToEnd) (valid : image.TextsInUtf8) (otherValid : other.TextsInUtf8)
    (same : image.listing = other.listing) : image = other := by
  have texts := congrArg (fun listing : String => listing.toList.splitOn '\n') same
  simp only [Image.listing, Listing.splitOn_render] at texts
  have lines : Listing.sweep image = Listing.sweep other :=
    Listing.lines_inj (Image.legible_sweep ended valid) (Image.legible_sweep otherEnded otherValid)
      (List.append_cancel_right texts)
  have bytes : image.toList = other.toList :=
    calc image.toList
      _ = (Listing.sweep image).flatMap Listing.Line.toBytes :=
        (Listing.toBytes_sweepFrom ended).symm
      _ = (Listing.sweep other).flatMap Listing.Line.toBytes := by rw [lines]
      _ = other.toList := Listing.toBytes_sweepFrom otherEnded
  exact Array.toList_inj.mp bytes

/-- An image put together from a text and a branch, and one given by its bytes. Both are swept to
the end, their text is in UTF-8, and they have the same listing. -/
theorem listing_loses_nothing_branch :
    ∃ built image : Image,
      built = Image.emit (Image.emit #[] (.debugText "hi")) (.branch .brZ (-3)) ∧
      image = #[0x80, 0x00, 0x68, 0x69, 0x00, 0x90, 0x11, 0xfd, 0xff] ∧
      (built.SweepsToEnd ∧ image.SweepsToEnd) ∧ (built.TextsInUtf8 ∧ image.TextsInUtf8) ∧
      built.listing = image.listing ∧ built = image := by
  let built : Image := Image.emit (Image.emit #[] (.debugText "hi")) (.branch .brZ (-3))
  let image : Image := #[0x80, 0x00, 0x68, 0x69, 0x00, 0x90, 0x11, 0xfd, 0xff]
  let lines : List Listing.Line :=
    [.whole 0 ⟨0x008, 0, 0⟩ (.text [0x68, 0x69]), .whole 5 ⟨0x119, 0, 0⟩ (.offset (-3))]
  have sweeps : Listing.sweep built = lines ∧ Listing.sweep image = lines := by decide +kernel
  have ended {image : Image} (swept : Listing.sweep image = lines) : image.SweepsToEnd := by
    rw [Image.SweepsToEnd, swept]
    decide
  have valid {image : Image} (swept : Listing.sweep image = lines) : image.TextsInUtf8 := by
    intro start instruction bytes member
    rw [swept] at member
    rcases List.mem_pair.mp member with text | branch
    · obtain ⟨_, _, operand⟩ := Listing.Line.whole.inj text
      cases operand
      exact ⟨['h', 'i'], rfl⟩
    · cases branch
  have same : built.listing = image.listing := by
    rw [Image.listing, Image.listing, sweeps.1, sweeps.2]
  refine ⟨built, image, rfl, rfl, ⟨ended sweeps.1, ended sweeps.2⟩,
    ⟨valid sweeps.1, valid sweeps.2⟩, same, ?_⟩
  exact listing_loses_nothing (ended sweeps.1) (ended sweeps.2) (valid sweeps.1) (valid sweeps.2)
    same

end Quadstack
