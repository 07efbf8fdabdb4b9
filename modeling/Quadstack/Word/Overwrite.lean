/-!
Writing a run of bytes over the bytes that stand in an array, which keeps its size. Stacks and
program images are both changed this way. A byte that would fall outside the array is not
written; callers check first that the run fits.
-/

namespace Quadstack

/-- Puts the bytes of a run at `start`, `start + 1` and so on. -/
def overwrite (cells : Array UInt8) (start : Nat) : List UInt8 → Array UInt8
  | [] => cells
  | byte :: rest => overwrite (cells.setIfInBounds start byte) (start + 1) rest

@[simp]
theorem size_overwrite (cells : Array UInt8) (start : Nat) (run : List UInt8) :
    (overwrite cells start run).size = cells.size := by
  induction run generalizing cells start with
  | nil => rfl
  | cons byte rest inductionHypothesis => simp [overwrite, inductionHypothesis]

end Quadstack
