import Mathlib
import Quadstack.Image.Assembly
import Quadstack.Proofs.RegisterMachine.Checked

/-!
Addresses that are filled in later. A forward jump is emitted before its target is known: some
address goes into the image, building goes on, and in the end the four bytes are patched. That this
is as good as having known the address comes down to one thing, that a patch and a later step of
building do not get in each other's way. An emission only appends, behind the patch, and a patch
elsewhere writes to other bytes; so the patch can be moved forward past every step, up to the
emission that it belongs to.

A patch that does not fit breaks building off, so this is said of building that may fail. Whether a
patch fits is asked in unbounded numbers; a machine that keeps the ends of the range in registers
comes to the same answer, also where their sum has no room in a register.
-/

namespace Quadstack

/-! ### Bytes written over others -/

theorem size_append_list (cells : Array UInt8) (appended : List UInt8) :
    (cells ++ appended).size = cells.size + appended.length := by
  rw [← Array.length_toList, Array.toList_appendList, List.length_append, Array.length_toList]

theorem getElem?_overwrite (cells : Array UInt8) (start : Nat) (run : List UInt8)
    (fits : start + run.length ≤ cells.size) (place : Nat) :
    (overwrite cells start run)[place]? =
      if start ≤ place ∧ place < start + run.length then run[place - start]?
      else cells[place]? := by
  have lead : (cells.toList.take start).length = start := by
    rw [List.length_take, Array.length_toList]
    omega
  rw [← Array.getElem?_toList, ← Array.getElem?_toList, toList_overwrite _ _ _ fits,
    List.append_assoc]
  by_cases before : place < start
  · rw [List.getElem?_append_left (by omega), List.getElem?_take_of_lt before,
      if_neg (by omega)]
  · rw [List.getElem?_append_right (by omega), lead]
    by_cases inside : place < start + run.length
    · rw [List.getElem?_append_left (by omega), if_pos (by omega)]
    · rw [List.getElem?_append_right (by omega), List.getElem?_drop, if_neg (by omega)]
      congr 1
      omega

/-- Runs that lie apart may be written in either order. -/
theorem overwrite_comm (cells : Array UInt8) {start other : Nat} {run otherRun : List UInt8}
    (fits : start + run.length ≤ cells.size) (otherFits : other + otherRun.length ≤ cells.size)
    (apart : other + otherRun.length ≤ start ∨ start + run.length ≤ other) :
    overwrite (overwrite cells other otherRun) start run =
      overwrite (overwrite cells start run) other otherRun := by
  refine Array.ext_getElem? fun place => ?_
  rw [getElem?_overwrite _ _ _ (by rwa [size_overwrite]), getElem?_overwrite _ _ _ otherFits,
    getElem?_overwrite _ _ _ (by rwa [size_overwrite]), getElem?_overwrite _ _ _ fits]
  by_cases mine : start ≤ place ∧ place < start + run.length
  · rw [if_pos mine, if_neg (by omega), if_pos mine]
  · rw [if_neg mine, if_neg mine]

/-- Writing does not reach what is appended. -/
theorem overwrite_append (cells : Array UInt8) {start : Nat} {run : List UInt8}
    (fits : start + run.length ≤ cells.size) (appended : List UInt8) :
    overwrite (cells ++ appended) start run = overwrite cells start run ++ appended := by
  have size := size_append_list cells appended
  have inside : start + run.length ≤ cells.toList.length := by rwa [Array.length_toList]
  refine Array.toList_inj.mp ?_
  rw [toList_overwrite _ _ _ (by omega), Array.toList_appendList, Array.toList_appendList,
    toList_overwrite _ _ _ fits, List.take_append_of_le_length (by omega),
    List.drop_append_of_le_length inside, List.append_assoc, List.append_assoc, List.append_assoc]

/-- Bytes at the end, written over. -/
theorem overwrite_end (cells : Array UInt8) {old new : List UInt8}
    (same : old.length = new.length) :
    overwrite (cells ++ old) cells.size new = cells ++ new := by
  have size := size_append_list cells old
  rw [same] at size
  refine Array.toList_inj.mp ?_
  rw [toList_overwrite _ _ _ size.ge, Array.toList_appendList, Array.toList_appendList,
    ← Array.length_toList, List.take_left, List.drop_eq_nil_of_le, List.append_nil]
  rw [List.length_append, same]

/-! ### Building -/

/-- The image after some steps, unless one of them is a patch that does not fit. -/
def Image.build? (image : Image) (steps : List BuildStep) : Option Image :=
  steps.foldlM BuildStep.perform? image

/-- The step writes nothing over the four bytes at `start`. -/
def BuildStep.KeepsClear (start : Nat) : BuildStep → Prop
  | .emit _ => True
  | .patch other _ => other + 4 ≤ start ∨ start + 4 ≤ other

instance (start : Nat) : DecidablePred (BuildStep.KeepsClear start)
  | .emit _ => inferInstanceAs (Decidable True)
  | .patch _ _ => inferInstanceAs (Decidable (_ ∨ _))

namespace Image

variable {image : Image} {start : Nat} {value : UInt32}

theorem patch?_of_fits (fits : start + 4 ≤ image.size) (value : UInt32) :
    image.patch? start value = some (overwrite image start (Width.w32.toBytes value)) :=
  if_pos fits

theorem patch?_eq_none_iff : image.patch? start value = none ↔ image.size < start + 4 := by
  unfold patch?
  split
  · rename_i fits
    exact iff_of_false (fun failed => nomatch failed) (Nat.not_lt_of_le fits)
  · rename_i outside
    exact iff_of_true rfl (Nat.lt_of_not_le outside)

theorem fits_of_patch? {patched : Image} (done : image.patch? start value = some patched) :
    start + 4 ≤ image.size ∧ patched = overwrite image start (Width.w32.toBytes value) := by
  by_cases fits : start + 4 ≤ image.size
  · rw [patch?_of_fits fits] at done
    cases done
    exact ⟨fits, rfl⟩
  · cases (patch?_eq_none_iff.mpr (Nat.lt_of_not_le fits)).symm.trans done

theorem size_patch? {patched : Image} (done : image.patch? start value = some patched) :
    patched.size = image.size := by
  obtain ⟨_, rfl⟩ := fits_of_patch? done
  exact size_overwrite _ _ _

/-- What stands in a patched image. -/
theorem getElem?_patch? {patched : Image} (done : image.patch? start value = some patched)
    (place : Nat) :
    patched[place]? =
      if start ≤ place ∧ place < start + 4 then (Width.w32.toBytes value)[place - start]?
      else image[place]? := by
  obtain ⟨fits, rfl⟩ := fits_of_patch? done
  exact getElem?_overwrite _ _ _ fits place

theorem size_le_of_perform? {after : Image} {step : BuildStep}
    (done : step.perform? image = some after) : image.size ≤ after.size := by
  cases step with
  | emit emission =>
    cases done
    exact (Nat.le_add_right _ _).trans (size_append_list image _).ge
  | patch other content => exact (size_patch? done).ge

/-! ### Patches and other steps -/

/-- A patch may be made before a step that keeps clear of it. -/
theorem perform?_bind_patch? {step : BuildStep} (fits : start + 4 ≤ image.size)
    (clear : step.KeepsClear start) (value : UInt32) :
    (step.perform? image).bind (·.patch? start value) =
      (image.patch? start value).bind (step.perform? ·) := by
  rw [patch?_of_fits fits, Option.bind_some]
  cases step with
  | emit emission =>
    have performed : (BuildStep.emit emission).perform? image = some (image.emit emission) := rfl
    have later : start + 4 ≤ (image.emit emission).size :=
      fits.trans (size_le_of_perform? performed)
    show (image.emit emission).patch? start value = some (Image.emit _ emission)
    rw [patch?_of_fits later]
    exact congrArg some (overwrite_append image fits _)
  | patch other content =>
    show (image.patch? other content).bind _ = Image.patch? (overwrite image start _) other content
    by_cases otherFits : other + 4 ≤ image.size
    · rw [patch?_of_fits otherFits, Option.bind_some, patch?_of_fits (by rwa [size_overwrite]),
        patch?_of_fits (by rwa [size_overwrite])]
      exact congrArg some (overwrite_comm image fits otherFits clear)
    · rw [patch?_eq_none_iff.mpr (Nat.lt_of_not_le otherFits), Option.bind_none,
        patch?_eq_none_iff.mpr (by rw [size_overwrite]; exact Nat.lt_of_not_le otherFits)]

/-- A patch may be made before all the steps that keep clear of it. -/
theorem build?_bind_patch? {steps : List BuildStep} (fits : start + 4 ≤ image.size)
    (clear : ∀ step ∈ steps, step.KeepsClear start) (value : UInt32) :
    (image.build? steps).bind (·.patch? start value) =
      (image.patch? start value).bind (·.build? steps) := by
  induction steps generalizing image with
  | nil =>
    show image.patch? start value = (image.patch? start value).bind some
    exact (Option.bind_fun_some _).symm
  | cons step rest inductionHypothesis =>
    obtain ⟨stepClear, restClear⟩ := List.forall_mem_cons.mp clear
    have first := perform?_bind_patch? fits stepClear value
    show ((step.perform? image).bind (·.build? rest)).bind (·.patch? start value) =
      (image.patch? start value).bind fun patched => (step.perform? patched).bind (·.build? rest)
    rw [← Option.bind_assoc, ← first, Option.bind_assoc, Option.bind_assoc]
    -- The step may only have made room, so that the patch still fits after it.
    cases done : step.perform? image with
    | none => rfl
    | some after => exact inductionHypothesis (fits.trans (size_le_of_perform? done)) restClear

/-! ### The address in an image -/

/-- The instruction that pushes an address, seen from the address: the word in front of it goes with
the image before. -/
theorem emit_letAddress (image : Image) (destination : UInt8) (address : UInt32) :
    image.emit (.letAddress destination address) =
      (image ++ Emission.opToBytes .letA 0 destination) ++ Width.w32.toBytes address := by
  refine Array.toList_inj.mp ?_
  rw [emit, Emission.toBytes, Array.toList_appendList, Array.toList_appendList,
    Array.toList_appendList, List.append_assoc]
  rfl

theorem size_emit_letAddress (image : Image) (destination : UInt8) (address : UInt32) :
    (image.emit (.letAddress destination address)).size =
      (image ++ Emission.opToBytes .letA 0 destination).size + 4 := by
  rw [emit_letAddress, size_append_list, Width.length_toBytes]
  rfl

/-- Patching the address that was just emitted is emitting the other one. -/
theorem patch?_emit_letAddress (image : Image) (destination : UInt8) (address value : UInt32) :
    (image.emit (.letAddress destination address)).patch?
        ((image.emit (.letAddress destination address)).size - 4) value =
      some (image.emit (.letAddress destination value)) := by
  have start : (image.emit (.letAddress destination address)).size - 4 =
      (image ++ Emission.opToBytes .letA 0 destination).size := by
    rw [size_emit_letAddress, Nat.add_sub_cancel]
  rw [start, patch?_of_fits (size_emit_letAddress image destination address).ge, emit_letAddress,
    emit_letAddress, overwrite_end]
  rfl

/-! ### Steps that fail -/

/-- How large an image gets, and whether a step fails, depends on how large it was. -/
theorem size_perform? {other : Image} (same : image.size = other.size) (step : BuildStep) :
    (step.perform? image).map Array.size = (step.perform? other).map Array.size := by
  cases step with
  | emit emission =>
    show some (image ++ emission.toBytes).size = some (other ++ emission.toBytes).size
    rw [size_append_list, size_append_list, same]
  | patch start content =>
    show (image.patch? start content).map Array.size = (other.patch? start content).map Array.size
    by_cases fits : start + 4 ≤ image.size
    · rw [patch?_of_fits fits, patch?_of_fits (same ▸ fits), Option.map_some, Option.map_some,
        size_overwrite, size_overwrite, same]
    · rw [patch?_eq_none_iff.mpr (Nat.lt_of_not_le fits),
        patch?_eq_none_iff.mpr (same ▸ Nat.lt_of_not_le fits)]

theorem size_build? {other : Image} (same : image.size = other.size) (steps : List BuildStep) :
    (image.build? steps).map Array.size = (other.build? steps).map Array.size := by
  induction steps generalizing image other with
  | nil => exact congrArg some same
  | cons step rest inductionHypothesis =>
    have first := size_perform? same step
    show ((step.perform? image).bind (·.build? rest)).map Array.size =
      ((step.perform? other).bind (·.build? rest)).map Array.size
    cases done : step.perform? image with
    | none =>
      rw [done, Option.map_none, eq_comm, Option.map_eq_none_iff] at first
      rw [first]
    | some after =>
      rw [done, Option.map_some, eq_comm, Option.map_eq_some_iff] at first
      obtain ⟨otherAfter, otherDone, sameAfter⟩ := first
      rw [otherDone]
      exact inductionHypothesis sameAfter.symm

end Image

/-! ### Patches in registers -/

namespace Checked

/-- A sum that starts again at zero when it has no room in a register. -/
def addWrapping (lhs rhs : UInt64) : Checked UInt64 :=
  .ok (lhs + rhs)

/-- Writes a value over the four bytes from `start` on. Where they end is a sum of registers, and
the range is tested before anything is copied. -/
def patch (sum : UInt64 → UInt64 → Checked UInt64) (image : Image) (start : UInt64)
    (value : UInt32) : Checked Image := do
  let stop ← sum start 4
  let patched ← write ⟨image, rfl⟩ start stop (Width.w32.toBytes value)
  pure patched.toArray

variable {sum : UInt64 → UInt64 → Checked UInt64} {image : Image} {start : UInt64}

theorem toNat_add_four (near : start.toNat + 4 < 2 ^ 64) : (start + 4).toNat = start.toNat + 4 := by
  rw [UInt64.toNat_add]
  exact Nat.mod_eq_of_lt near

/-- With the end of the range in a register, the range is tested as it is in unbounded numbers. -/
theorem patch_of_sum (near : start.toNat + 4 < 2 ^ 64) (added : sum start 4 = .ok (start + 4))
    (value : UInt32) :
    (patch sum image start value).toOption = image.patch? start.toNat value := by
  have stop := toNat_add_four near
  have ordered : start ≤ start + 4 := by
    rw [UInt64.le_iff_toNat_le, stop]
    exact Nat.le_add_right _ _
  unfold patch write
  rw [added, ok_bind]
  by_cases fits : start.toNat + 4 ≤ image.size
  · have inside : (start + 4).toNat ≤ image.size := stop ▸ fits
    have filled : start.toNat + (Width.w32.toBytes value).length = (start + 4).toNat := stop.symm
    rw [if_pos ⟨ordered, inside⟩, if_pos filled, Image.patch?_of_fits fits]
    rfl
  · have outside : ¬ (start + 4).toNat ≤ image.size := stop ▸ fits
    rw [if_neg fun ranged => outside ranged.2,
      Image.patch?_eq_none_iff.mpr (Nat.lt_of_not_le fits)]
    rfl

/-- A patch in registers breaks down exactly if the four bytes are not all in the image. Where the
end of the range has no room in a register, a sum that breaks down and a sum that starts again at
zero come to the same: in the second case the range would end before it starts. -/
theorem patch_eq (small : image.size < 2 ^ 64) (start : UInt64) (value : UInt32) :
    (patch add image start value).toOption = image.patch? start.toNat value ∧
      (patch addWrapping image start value).toOption = image.patch? start.toNat value := by
  have four : (4 : UInt64).toNat = 4 := rfl
  by_cases near : start.toNat + 4 < 2 ^ 64
  · have added : add start 4 = .ok (start + 4) := if_pos near
    exact ⟨patch_of_sum near added value, patch_of_sum near rfl value⟩
  · have outside : image.patch? start.toNat value = none :=
      Image.patch?_eq_none_iff.mpr (by omega)
    have overflow : add start 4 = .error .overflow := if_neg near
    have backward : ¬ (start ≤ start + 4 ∧ (start + 4).toNat ≤ image.size) := by
      have bound : start.toNat < 2 ^ 64 := start.toNat_lt
      rw [UInt64.le_iff_toNat_le, UInt64.toNat_add, four]
      omega
    rw [outside]
    constructor
    · unfold patch
      rw [overflow]
      rfl
    · unfold patch write addWrapping
      rw [ok_bind, if_neg backward]
      rfl

end Checked

open Image in
/-- An address that is filled in later is as good as one that was known. For whatever was built
before and whatever is built between, patches elsewhere included: emitting some address, going
on, and patching it in the end gives the image that comes of emitting the right address at once
and going on in the same way, and the one fails only where the other does. A patch itself fails
exactly if its four bytes are not all there, and otherwise keeps the size and every byte but
these four, which become the bytes of the value, least significant first. In 64-bit registers it
fails just as often, whether a sum too large for a register breaks down or wraps. -/
theorem patched_as_if_known (image : Image) :
    (∀ (destination : UInt8) (address value : UInt32) (steps : List BuildStep) (start : Nat),
      start = (image.emit (.letAddress destination address)).size - 4 →
      (∀ step ∈ steps, step.KeepsClear start) →
      ((image.emit (.letAddress destination address)).build? steps).bind (·.patch? start value) =
        (image.emit (.letAddress destination value)).build? steps ∧
      ((image.emit (.letAddress destination address)).build? steps).isSome =
        ((image.emit (.letAddress destination value)).build? steps).isSome) ∧
    (∀ start value, image.patch? start value = none ↔ image.size < start + 4) ∧
    (∀ start value patched, image.patch? start value = some patched →
      patched.size = image.size ∧
      (∀ place, place < start ∨ start + 4 ≤ place → patched[place]? = image[place]?) ∧
      ∀ place < 4, patched[start + place]? = some (UInt8.ofNat (value.toNat / 256 ^ place))) ∧
    (image.size < 2 ^ 64 → ∀ start value,
      (Checked.patch Checked.add image start value).toOption = image.patch? start.toNat value ∧
      (Checked.patch Checked.addWrapping image start value).toOption =
        image.patch? start.toNat value) := by
  refine ⟨?_, fun start value => patch?_eq_none_iff, ?_, Checked.patch_eq⟩
  · rintro destination address value steps start rfl clear
    have sizes : (image.emit (.letAddress destination address)).size =
        (image.emit (.letAddress destination value)).size := by
      rw [size_emit_letAddress, size_emit_letAddress]
    have fits : (image.emit (.letAddress destination address)).size - 4 + 4 ≤
        (image.emit (.letAddress destination address)).size := by
      rw [size_emit_letAddress, Nat.add_sub_cancel]
    constructor
    · rw [build?_bind_patch? fits clear, patch?_emit_letAddress, Option.bind_some]
    · have alike := congrArg Option.isSome (size_build? sizes steps)
      rwa [Option.isSome_map, Option.isSome_map] at alike
  · intro start value patched done
    refine ⟨size_patch? done, fun place outside => ?_, fun place inside => ?_⟩
    · rw [getElem?_patch? done, if_neg (by omega)]
    · have listed : (List.range Width.w32.bytes)[place]? = some place := List.getElem?_range inside
      rw [getElem?_patch? done, if_pos (by omega), Nat.add_sub_cancel_left,
        Width.toBytes_eq_lowBytes, ByteLists.lowBytes, List.getElem?_map, listed, Option.map_some]

/-- A jump forward, with another address patched behind it before its own target is filled in; and a
patch whose range would end at the second byte of the image if its end were to wrap. -/
theorem patched_as_if_known_jump :
    ∃ steps : List BuildStep,
      steps = [.emit (.op .jmp 0 0), .emit (.letAddress 1 0), .patch 10 0xff,
        .emit (.op .endAlways 0 0)] ∧
      (∀ step ∈ steps, step.KeepsClear 2) ∧
      ((Image.emit #[] (.letAddress 0 0)).build? steps).bind (·.patch? 2 8) =
        (Image.emit #[] (.letAddress 0 8)).build? steps ∧
      (Checked.patch Checked.addWrapping #[1, 2, 3, 4] 0xfffffffffffffffe 7).toOption = none := by
  let steps : List BuildStep :=
    [.emit (.op .jmp 0 0), .emit (.letAddress 1 0), .patch 10 0xff, .emit (.op .endAlways 0 0)]
  have clear : ∀ step ∈ steps, step.KeepsClear 2 := by decide
  have known := (patched_as_if_known #[]).1 0 0 8 steps 2 rfl clear
  obtain ⟨_, outside, _, registers⟩ := patched_as_if_known #[1, 2, 3, 4]
  have wrapped := (registers (by decide) 0xfffffffffffffffe 7).2
  exact ⟨steps, rfl, clear, known.1, wrapped.trans ((outside _ _).mpr (by decide))⟩

end Quadstack
