import Mathlib.Data.BitVec

/-!
# Event groups

A FreeRTOS event group is a word of flags: a task sets or clears a mask of them in one atomic
call, and another waits until every flag of a mask is set. `EventBits` is that word (24 flags are
usable with 32-bit ticks). Two kinds of facts about it are all a proof needs: setting or clearing a
mask decides that mask and leaves every disjoint one alone, and what two words have in common off
a mask is kept by both.
-/

namespace Esp32Eye
namespace Lib

/-- `EventBits_t`. -/
abbrev EventBits := BitVec 24

namespace EventBits

/-- `xEventGroupSetBits`. -/
def setBits (g m : EventBits) : EventBits := g ||| m

/-- `xEventGroupClearBits`. -/
def clearBits (g m : EventBits) : EventBits := g &&& ~~~m

/-- Whether every flag of `m` is set: the condition `xEventGroupWaitBits` waits for when it is
    asked to wait for all of them. -/
def allSet (g m : EventBits) : Bool := g &&& m == m

theorem allSet_iff {g m : EventBits} :
    g.allSet m = true ↔ ∀ k, k < 24 → m.getLsbD k = true → g.getLsbD k = true := by
  unfold allSet
  rw [beq_iff_eq]
  constructor
  · intro h k _ hk
    have := congrArg (fun x => x.getLsbD k) h
    simp only [BitVec.getLsbD_and, hk, Bool.and_true] at this
    exact this
  · intro h
    apply BitVec.eq_of_getLsbD_eq
    intro k hk
    rw [BitVec.getLsbD_and]
    cases hm : m.getLsbD k with
    | false => simp
    | true => simp [h k hk hm]

@[simp] theorem allSet_setBits_self (g m : EventBits) : (g.setBits m).allSet m = true := by
  rw [allSet_iff]
  intro k _ hk
  simp [setBits, hk]

/-- Setting other flags is not seen. -/
theorem allSet_setBits_of_disjoint {g m m' : EventBits} (h : m &&& m' = 0#24) :
    (g.setBits m').allSet m = g.allSet m := by
  have hd : ∀ k, m.getLsbD k = true → m'.getLsbD k = false := by
    intro k hk
    have := congrArg (fun x => x.getLsbD k) h
    simpa [hk] using this
  rw [Bool.eq_iff_iff, allSet_iff, allSet_iff]
  refine forall_congr' fun k => forall_congr' fun _ => ?_
  by_cases hk : m.getLsbD k = true
  · simp [setBits, hd k hk]
  · simp [hk]

/-- A flag that was cleared is not set. -/
theorem allSet_clearBits_self {g m : EventBits} (hm : m ≠ 0#24) :
    (g.clearBits m).allSet m = false := by
  rw [← Bool.not_eq_true]
  intro h
  apply hm
  apply BitVec.eq_of_getLsbD_eq
  intro k hk
  rw [BitVec.getLsbD_zero]
  by_contra hne
  have hmk : m.getLsbD k = true := by simpa using hne
  have := allSet_iff.mp h k hk hmk
  simp [clearBits, hmk] at this

/-- Clearing other flags is not seen. -/
theorem allSet_clearBits_of_disjoint {g m m' : EventBits} (h : m &&& m' = 0#24) :
    (g.clearBits m').allSet m = g.allSet m := by
  have hd : ∀ k, m.getLsbD k = true → m'.getLsbD k = false := by
    intro k hk
    have := congrArg (fun x => x.getLsbD k) h
    simpa [hk] using this
  rw [Bool.eq_iff_iff, allSet_iff, allSet_iff]
  refine forall_congr' fun k => forall_congr' fun hlt => ?_
  by_cases hk : m.getLsbD k = true
  · simp only [clearBits, BitVec.getLsbD_and, BitVec.getLsbD_not, hd k hk, hlt, decide_true,
      Bool.not_false, Bool.and_true]
  · simp [hk]

/-! ## Words without a mask

Two words agree off a mask when clearing it makes them equal; these are the rules for that. -/

theorem getLsbD_clearBits {g m : EventBits} {k : ℕ} (hk : k < 24) :
    (g.clearBits m).getLsbD k = (g.getLsbD k && !m.getLsbD k) := by
  simp [clearBits, hk]

@[simp] theorem clearBits_clearBits_self (g m : EventBits) :
    (g.clearBits m).clearBits m = g.clearBits m := by
  apply BitVec.eq_of_getLsbD_eq
  intro k hk
  rw [getLsbD_clearBits hk, getLsbD_clearBits hk, Bool.and_assoc, Bool.and_self]

@[simp] theorem clearBits_setBits_self (g m : EventBits) :
    (g.setBits m).clearBits m = g.clearBits m := by
  apply BitVec.eq_of_getLsbD_eq
  intro k hk
  rw [getLsbD_clearBits hk, getLsbD_clearBits hk, setBits, BitVec.getLsbD_or]
  cases g.getLsbD k <;> cases m.getLsbD k <;> rfl

theorem clearBits_comm (g m m' : EventBits) :
    (g.clearBits m).clearBits m' = (g.clearBits m').clearBits m := by
  apply BitVec.eq_of_getLsbD_eq
  intro k hk
  rw [getLsbD_clearBits hk, getLsbD_clearBits hk, getLsbD_clearBits hk, getLsbD_clearBits hk,
    Bool.and_right_comm]

/-- Setting flags outside the mask, before or after. -/
theorem clearBits_setBits_comm {g m m' : EventBits} (h : m &&& m' = 0#24) :
    (g.setBits m').clearBits m = (g.clearBits m).setBits m' := by
  apply BitVec.eq_of_getLsbD_eq
  intro k hk
  have hd := congrArg (fun x => x.getLsbD k) h
  simp only [BitVec.getLsbD_and, BitVec.getLsbD_zero] at hd
  rw [getLsbD_clearBits hk, setBits, setBits, BitVec.getLsbD_or, BitVec.getLsbD_or,
    getLsbD_clearBits hk]
  cases hm : m.getLsbD k with
  | false => simp
  | true =>
    rw [hm, Bool.true_and] at hd
    simp [hd]

/-! ## A single flag -/

theorem allSet_twoPow {g : EventBits} {k : ℕ} (hk : k < 24) :
    g.allSet (BitVec.twoPow 24 k) = true ↔ g.getLsbD k = true := by
  rw [allSet_iff]
  constructor
  · intro h
    exact h k hk (by simp [hk])
  · intro h l _ hl
    rw [BitVec.getLsbD_twoPow, Bool.and_eq_true, decide_eq_true_eq, decide_eq_true_eq] at hl
    rw [← hl.2]
    exact h

/-- A flag is set when something is left of it under the mask. -/
theorem and_twoPow_ne_zero {g : EventBits} {k : ℕ} (hk : k < 24) :
    g &&& BitVec.twoPow 24 k ≠ 0 ↔ g.allSet (BitVec.twoPow 24 k) = true := by
  rw [allSet_twoPow hk, BitVec.and_twoPow]
  cases g.getLsbD k with
  | false => simp
  | true =>
    refine iff_of_true (fun h => ?_) rfl
    have := congrArg (fun x : EventBits => x.getLsbD k) h
    simp [hk] at this

/-- A single flag is set or not; that and the rest of the word are all of it. -/
theorem eq_of_clearBits_twoPow {g g' : EventBits} {k : ℕ} (hk : k < 24)
    (hc : g.clearBits (BitVec.twoPow 24 k) = g'.clearBits (BitVec.twoPow 24 k))
    (ha : g.allSet (BitVec.twoPow 24 k) = g'.allSet (BitVec.twoPow 24 k)) : g = g' := by
  apply BitVec.eq_of_getLsbD_eq
  intro l hl
  by_cases hlk : k = l
  · rw [← hlk, Bool.eq_iff_iff, ← allSet_twoPow hk, ← allSet_twoPow hk, ha]
  · have hbit := congrArg (fun w => w.getLsbD l) hc
    simp only [getLsbD_clearBits hl, BitVec.getLsbD_twoPow] at hbit
    simpa [hlk] using hbit

end EventBits
end Lib
end Esp32Eye
