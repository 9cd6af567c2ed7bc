import Mathlib.Algebra.BigOperators.Intervals
import Mathlib.Data.Nat.ModEq

/-!
# A stopwatch that counts whole units

Lap `m` is from `start m` to `finish m`, and the laps follow one another. A stopwatch that adds up
the laps in whole units of `q` leaves out two things, the part of a lap beyond its last whole unit
and the pause until the next lap starts: `uncounted`. Nothing else is left out (`elapsed_div`), so
what the stopwatch shows on a dial of `w` units is right up to what was left out, whole laps of the
dial excepted (`shows_iff`).
-/

namespace Esp32Eye
namespace Lib

variable {start finish : ℕ → ℕ} {q j k m : ℕ}

/-- The whole units of lap `m`. -/
def lapUnits (start finish : ℕ → ℕ) (q m : ℕ) : ℕ := (finish m - start m) / q

/-- What is counted from the start of lap `j` to the start of lap `k`. -/
def counted (start finish : ℕ → ℕ) (q j k : ℕ) : ℕ :=
  ∑ m ∈ Finset.Ico j k, lapUnits start finish q m

/-- What passes and is not counted: for each lap what it has beyond its whole units, and the pause
    behind it. -/
def uncounted (start finish : ℕ → ℕ) (q j k : ℕ) : ℕ :=
  ∑ m ∈ Finset.Ico j k, (start (m + 1) - start m - q * lapUnits start finish q m)

/-- The laps from `j` to `k` follow one another. -/
def InOrder (start finish : ℕ → ℕ) (j k : ℕ) : Prop :=
  ∀ m, j ≤ m → m < k → start m ≤ finish m ∧ finish m ≤ start (m + 1)

theorem InOrder.mono {k' : ℕ} (h : InOrder start finish j k) (hk : k' ≤ k) :
    InOrder start finish j k' := fun m hj hm => h m hj (Nat.lt_of_lt_of_le hm hk)

theorem counted_succ (hjk : j ≤ k) :
    counted start finish q j (k + 1)
      = counted start finish q j k + lapUnits start finish q k :=
  Finset.sum_Ico_succ_top hjk _

theorem uncounted_succ (hjk : j ≤ k) :
    uncounted start finish q j (k + 1) = uncounted start finish q j k
      + (start (k + 1) - start k - q * lapUnits start finish q k) :=
  Finset.sum_Ico_succ_top hjk _

theorem counted_single : counted start finish q j (j + 1) = lapUnits start finish q j := by
  unfold counted
  rw [Nat.Ico_succ_singleton, Finset.sum_singleton]

/-- **All the time that passes.** -/
theorem elapsed_eq (hjk : j ≤ k) (h : InOrder start finish j k) :
    start k = start j + (q * counted start finish q j k + uncounted start finish q j k) := by
  induction k, hjk using Nat.le_induction with
  | base => simp [counted, uncounted]
  | succ k hjk ih =>
    obtain ⟨hlap, hpause⟩ := h k hjk (Nat.lt_succ_self k)
    have hunits : q * lapUnits start finish q k ≤ finish k - start k := Nat.mul_div_le _ _
    rw [counted_succ hjk, uncounted_succ hjk, Nat.mul_add]
    have := ih (h.mono (Nat.le_succ k))
    omega

/-- The same in whole units. -/
theorem elapsed_div (hq : 0 < q) (hjk : j ≤ k) (h : InOrder start finish j k) :
    (start k - start j) / q
      = counted start finish q j k + uncounted start finish q j k / q := by
  rw [elapsed_eq (q := q) hjk h, Nat.add_sub_cancel_left, Nat.mul_add_div hq]

/-- **What the dial shows.** It is at most `n` units behind exactly when that little was left out,
    whole laps of the dial excepted. -/
theorem shows_iff {w c l n : ℕ} :
    (∃ e ≤ n, (c % w + e) % w = (c + l) % w) ↔ l % w ≤ n := by
  constructor
  · rintro ⟨e, he, hmod⟩
    rw [Nat.mod_add_mod] at hmod
    have heq : e % w = l % w := Nat.ModEq.add_left_cancel' c hmod
    rw [← heq]
    exact (Nat.mod_le e w).trans he
  · intro h
    refine ⟨l % w, h, ?_⟩
    rw [Nat.mod_add_mod, Nat.add_mod_mod]

end Lib
end Esp32Eye
