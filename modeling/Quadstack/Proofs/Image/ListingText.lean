import Mathlib
import Quadstack.Proofs.Image.Reading
import Quadstack.Proofs.Text.ReadBack

/-!
The lines of a listing in its text. Whatever stands in an image, a line of its listing has one line
break, which ends it: numbers and names hold none, and a text operand is quoted, which writes a line
break by its escape. So a listing cut at its line breaks falls into its lines again, and
each of these begins with the offset at which the line starts.
-/

namespace Quadstack

/-! ### Text on one line -/

/-- Text without a line break. -/
def OnOneLine (text : String) : Prop :=
  '\n' ∉ text.toList

instance (text : String) : Decidable (OnOneLine text) :=
  inferInstanceAs (Decidable (_ ∉ _))

namespace OnOneLine

theorem append {first second : String} (before : OnOneLine first) (after : OnOneLine second) :
    OnOneLine (first ++ second) := by
  unfold OnOneLine
  rw [String.toList_append, List.mem_append]
  exact not_or.mpr ⟨before, after⟩

theorem ofList {characters : List Char} (clean : '\n' ∉ characters) :
    OnOneLine (String.ofList characters) := by
  rwa [OnOneLine, String.toList_ofList]

theorem toDigits (base number : Nat) (numeral : 1 < base) : '\n' ∉ Nat.toDigits base number :=
  Numeral.notMem_toDigits (fun _ => Nat.digitChar_ne '\n' rfl) numeral number

theorem decimal (number : Nat) : OnOneLine (Numeral.decimal number) :=
  ofList (toDigits 10 number (by decide))

theorem hex (least number : Nat) : OnOneLine (Numeral.hex least number) :=
  Numeral.notMem_hex (fun _ => Nat.digitChar_ne '\n' rfl) least number

theorem signed (number : Int) : OnOneLine (Numeral.signed number) := by
  refine append ?_ (decimal _)
  split <;> decide

/-- A character between quotes is on one line, the line break by its escape. -/
theorem escape (character : Char) : '\n' ∉ Text.Quoted.escape character := by
  unfold Text.Quoted.escape
  split
  · rename_i letter short
    unfold Text.Quoted.shortEscape? at short
    intro member
    rcases List.mem_pair.mp member with slash | rfl
    · cases slash
    · split_ifs at short <;> cases short
  · rename_i long
    split
    · simp only [Text.Quoted.numberEscape, List.mem_cons, List.mem_append, List.not_mem_nil,
        toDigits 16 character.toNat (by decide)]
      decide
    · intro member
      obtain rfl := List.mem_singleton.mp member
      cases long

theorem quote (characters : List Char) :
    OnOneLine (String.ofList (Text.Quoted.quote characters)) := by
  refine ofList fun member => ?_
  rcases List.mem_cons.mp member with mark | member
  · cases mark
  · rcases List.mem_append.mp member with inside | mark
    · obtain ⟨character, _, written⟩ := List.mem_flatMap.mp inside
      exact escape character written
    · cases List.mem_singleton.mp mark

/-- Cut at its line breaks, a text falls into its lines; nothing follows the last break. -/
theorem splitOn_join {lines : List String} (clean : ∀ line ∈ lines, OnOneLine line) :
    (String.join (lines.map (· ++ "\n"))).toList.splitOn '\n' =
      lines.map String.toList ++ [[]] := by
  rw [String.toList_join, List.flatMap_map]
  induction lines with
  | nil => rfl
  | cons line rest inductionHypothesis =>
    rw [List.flatMap_cons, String.toList_append, List.append_assoc]
    show (line.toList ++ '\n' :: rest.flatMap fun next => (next ++ "\n").toList).splitOn '\n' = _
    rw [List.splitOn_append_cons_self_of_not_mem (clean line List.mem_cons_self),
      inductionHypothesis fun next member => clean next (List.mem_cons_of_mem line member)]
    rfl

end OnOneLine

/-- A mnemonic is made of letters, digits and underscores. -/
theorem Opcode.notMem_mnemonic {character : Char}
    (other : (character.isAlphanum || character == '_') = false) (opcode : Opcode) :
    character ∉ opcode.mnemonic.toList := by
  have everyRow : ∀ entry ∈ all,
      entry.mnemonic.toList.all (fun own => own.isAlphanum || own == '_') = true := by
    decide +kernel
  intro member
  have plain := List.all_eq_true.mp (everyRow opcode opcode.mem_all) character member
  rw [other] at plain
  cases plain

/-! ### Lines of a listing -/

namespace Listing

theorem Operand.render_onOneLine (operand : Operand) : OnOneLine operand.render := by
  cases operand with
  | absent => decide
  | literal width value => exact .append (by decide) (.decimal _)
  | offset distance => exact .append (by decide) (.signed _)
  | text bytes => exact .append (by decide) (.quote _)

theorem instructionName_onOneLine (instruction : Instruction) :
    OnOneLine (instructionName instruction) := by
  unfold instructionName
  split
  · rename_i opcode _
    exact opcode.notMem_mnemonic rfl
  · exact .append (by decide) (.append (by decide) (.hex _ _))

theorem renderInstruction_onOneLine (instruction : Instruction) :
    OnOneLine (renderInstruction instruction) := by
  have name : OnOneLine
      (String.ofList ((instructionName instruction).toList.rightpad 8 ' ')) := by
    refine .ofList fun member => ?_
    rcases List.mem_append.mp member with written | padding
    · exact instructionName_onOneLine instruction written
    · cases List.eq_of_mem_replicate padding
  exact .append (.append (.append (.append name (by decide)) (.decimal _)) (by decide)) (.decimal _)

/-- A line without the line break that ends it. -/
def Line.text : Line → String
  | .whole start instruction operand =>
    renderStart start ++ renderInstruction instruction ++ operand.render
  | .cutOperand start instruction =>
    renderStart start ++ renderInstruction instruction ++ "  " ++ truncated
  | .cutWord start => renderStart start ++ truncated

theorem Line.render_eq (line : Line) : line.render = line.text ++ "\n" := by
  cases line <;> rfl

theorem Line.text_onOneLine (line : Line) : OnOneLine line.text := by
  have offset (start : Nat) : OnOneLine (renderStart start) := .append (.hex _ _) (by decide)
  cases line with
  | whole start instruction operand =>
    exact .append (.append (offset start) (renderInstruction_onOneLine instruction))
      operand.render_onOneLine
  | cutOperand start instruction =>
    exact .append (.append (.append (offset start) (renderInstruction_onOneLine instruction))
      (by decide)) (by decide)
  | cutWord start => exact .append (offset start) (by decide)

/-- A line begins with its offset. -/
theorem Line.text_begins (line : Line) : (renderStart line.start).toList <+: line.text.toList := by
  cases line with
  | whole start _ _ | cutOperand start _ | cutWord start =>
    simp only [Line.text, Line.start, String.toList_append, List.append_assoc]
    exact List.prefix_append _ _

/-- Cut at its line breaks, a listing falls into its lines. -/
theorem splitOn_render (lines : List Line) :
    (render lines).toList.splitOn '\n' = lines.map (fun line => line.text.toList) ++ [[]] := by
  have rendered : render lines = String.join ((lines.map Line.text).map (· ++ "\n")) := by
    rw [render, List.map_map]
    exact congrArg String.join (List.map_congr_left fun line _ => line.render_eq)
  have clean : ∀ text ∈ lines.map Line.text, OnOneLine text := by
    intro text member
    obtain ⟨line, _, rfl⟩ := List.mem_map.mp member
    exact line.text_onOneLine
  rw [rendered, OnOneLine.splitOn_join clean, List.map_map]
  rfl

end Listing

end Quadstack
