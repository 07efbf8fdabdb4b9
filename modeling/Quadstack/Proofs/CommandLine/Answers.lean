import Mathlib
import Quadstack.Proofs.CommandLine.ReportText
import Quadstack.Proofs.Machine.Emissions

/-!
What a command line is answered with. The arguments are looked at first, then the file, and only
then is anything executed. The exit code tells how far this went and how it ended, and standard
output goes with it: a run that was executed leaves its debug output there, a listing its
text, and everything else nothing.

The arguments of a run are described without the reader of them, by the form they have: after
the file come step counts, each behind its mark, and the last of them is the limit.
-/

namespace Quadstack

/-! ### Command lines that are understood -/

namespace Request

/-- Step counts as arguments, each behind its mark. -/
def flagsOf (counts : List (String × Nat)) : List String :=
  counts.flatMap fun count => ["--max-steps", count.1]

/-- The arguments after the file of a run give its step limit: they are step counts, and the last of
them holds. Without any there is no limit. -/
def Limits (flags : List String) (stepLimit : Option Nat) : Prop :=
  ∃ counts, flags = flagsOf counts ∧
    (∀ count ∈ counts, parseStepCount? count.1 = some count.2) ∧
    stepLimit = (counts.map Prod.snd).getLast?

/-- A reader of flags that has a limit already replaces it by the last count, if there is one. -/
theorem parseFlags_eq_ok_iff {before stepLimit : Option Nat} {flags : List String} :
    parseFlags before flags = .ok stepLimit ↔
      ∃ counts, flags = flagsOf counts ∧
        (∀ count ∈ counts, parseStepCount? count.1 = some count.2) ∧
        stepLimit = (counts.map Prod.snd).getLast?.or before := by
  -- The limit that the reader begins with is general, since each count becomes the next one.
  fun_induction parseFlags before flags with
  | case1 before =>
    constructor
    · intro done
      cases done
      exact ⟨[], rfl, fun count member => (nomatch member), rfl⟩
    · rintro ⟨_ | ⟨count, counts⟩, form, _, rfl⟩
      · rfl
      · cases form
  | case2 before =>
    refine iff_of_false (fun failed => nomatch failed) ?_
    rintro ⟨_ | ⟨count, counts⟩, form, _⟩
    · cases form
    · cases form
  | case3 before text rest number read inductionHypothesis =>
    have last (counts : List (String × Nat)) :
        (((text, number) :: counts).map Prod.snd).getLast?.or before =
          (counts.map Prod.snd).getLast?.or (some number) := by
      simp [List.getLast?_cons]
    rw [inductionHypothesis]
    constructor
    · rintro ⟨counts, rfl, valid, rfl⟩
      exact ⟨(text, number) :: counts, rfl, List.forall_mem_cons.mpr ⟨read, valid⟩,
        (last counts).symm⟩
    · rintro ⟨_ | ⟨⟨written, value⟩, counts⟩, form, valid, rfl⟩
      · cases form
      · obtain ⟨own, others⟩ := List.forall_mem_cons.mp valid
        cases form
        cases own.symm.trans read
        exact ⟨counts, rfl, others, last counts⟩
  | case4 before text rest unread =>
    refine iff_of_false (fun failed => nomatch failed) ?_
    rintro ⟨_ | ⟨⟨written, value⟩, counts⟩, form, valid, _⟩
    · cases form
    · cases form
      cases unread.symm.trans (valid _ List.mem_cons_self)
  | case5 before flag rest other =>
    refine iff_of_false (fun failed => nomatch failed) ?_
    rintro ⟨_ | ⟨count, counts⟩, form, _⟩
    · cases form
    · exact other (List.cons.inj form).1

theorem parseFlags_none_iff {stepLimit : Option Nat} {flags : List String} :
    parseFlags none flags = .ok stepLimit ↔ Limits flags stepLimit := by
  simp only [parseFlags_eq_ok_iff, Option.or_none, Limits]

end Request

namespace Response

/-! ### What is asked for -/

/-- The command line asks to execute this program with this step limit, and the program can be
read. -/
def Runs (read : String → Except String Image) (arguments : List String) (program : Image)
    (stepLimit : Option Nat) : Prop :=
  ∃ path flags, arguments = "run" :: path :: flags ∧ Request.Limits flags stepLimit ∧
    read path = .ok program

variable {read : String → Except String Image} {arguments : List String}

/-- A command line that is not understood is answered before any file is read. -/
theorem respond?_of_misunderstood {complaint : Complaint}
    (misunderstood : Request.parse arguments = .error complaint)
    (read : String → Except String Image) (fuel : Nat) :
    respond? read fuel arguments = some (ofComplaint complaint) := by
  rw [respond?, misunderstood]

variable {fuel : Nat} {response : Response}

end Response

/-- A step count that is none and a file that is not there: the complaint is about the count. -/
example :
    Response.respond? (fun _ => .error "not found") 0 ["run", "a.bin", "--max-steps", "-1"] =
      some (.ofComplaint (.invalidStepCount "-1")) := by
  decide +kernel

end Quadstack
