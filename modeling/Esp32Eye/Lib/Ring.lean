import Mathlib.Data.List.Basic
import Mathlib.Logic.Function.Basic

/-!
# Ring buffers that overwrite

A writer goes round `n` cells and never waits; what it wrote `n` writes ago is gone. `Ring` is the
cells and the number of writes since the writer was last sent back to the first cell. Restarting
does not clear the cells: they keep what earlier rounds left until they are written again.

`Ring.Wrote r ws` says that `ws` is what was written since then and that the last `n` of it are
still there. A reader concludes that a segment it reads early enough is a segment of `ws`, as far
as `ws` goes (`Wrote.segment`).
-/

namespace Esp32Eye
namespace Lib

/-! ## Agreement -/

section Agree

variable {α β : Type*} {a a' b : List α}

/-- Two lists are equal as far as both go. -/
def Agree (a b : List α) : Prop := a.take b.length = b.take a.length

theorem Agree.of_initial (h : a <+: b) : Agree a b := by
  rw [Agree, List.take_of_length_le h.length_le]
  exact List.prefix_iff_eq_take.mp h

theorem Agree.initial (h : Agree a b) (hp : a' <+: a) : Agree a' b := by
  have ha := List.prefix_iff_eq_take.mp hp
  calc a'.take b.length = (a.take b.length).take a'.length := by
        rw [ha, List.take_take, List.take_take, List.length_take]
        congr 1
        have := hp.length_le
        omega
    _ = b.take a'.length := by
        rw [h, List.take_take]
        congr 1
        have := hp.length_le
        omega

theorem Agree.map (h : Agree a b) (f : α → β) : Agree (a.map f) (b.map f) := by
  rw [Agree, List.length_map, List.length_map, ← List.map_take, ← List.map_take, h]

end Agree

/-! ## Rings -/

/-- The cells of a ring, and how often it was written since it was restarted. -/
structure Ring (n : ℕ) (α : Type*) where
  cells : ℕ → α
  written : ℕ

namespace Ring

variable {n : ℕ} {α : Type*}

def write (r : Ring n α) (a : α) : Ring n α where
  cells := Function.update r.cells (r.written % n) a
  written := r.written + 1

/-- The writer goes back to the first cell. -/
def restart (r : Ring n α) : Ring n α := { r with written := 0 }

/-- The cell that write number `k` goes to. -/
def read (r : Ring n α) (k : ℕ) : α := r.cells (k % n)

/-- The cells of the writes `k` to `k + m - 1`. -/
def segment (r : Ring n α) (k m : ℕ) : List α := (List.range m).map fun j => r.read (k + j)

@[simp] theorem length_segment {r : Ring n α} {k m : ℕ} : (r.segment k m).length = m := by
  simp [segment]

/-- `ws` was written since the last restart, and the last `n` of it are still there. -/
structure Wrote (r : Ring n α) (ws : List α) : Prop where
  count : r.written = ws.length
  recent : ∀ k (h : k < ws.length), ws.length ≤ k + n → r.read k = ws[k]

variable {r : Ring n α} {ws : List α} {a : α} {k m : ℕ}

theorem Wrote.restart : r.restart.Wrote [] := ⟨rfl, fun _ h => absurd h (Nat.not_lt_zero _)⟩

/-- The cell that is written is the only one that changes, and it was the oldest. -/
theorem Wrote.write (h : r.Wrote ws) : (r.write a).Wrote (ws ++ [a]) := by
  refine ⟨by rw [List.length_append, ← h.count]; rfl, fun k hk hrecent => ?_⟩
  rw [List.length_append, List.length_singleton] at hk hrecent
  show Function.update r.cells (r.written % n) a (k % n) = _
  rw [h.count]
  rcases Nat.lt_succ_iff_lt_or_eq.mp hk with hk | rfl
  · have hne : k % n ≠ ws.length % n := by
      intro he
      have hdvd : n ∣ ws.length - k :=
        Nat.dvd_of_mod_eq_zero (Nat.sub_mod_eq_zero_of_mod_eq he.symm)
      have := Nat.le_of_dvd (Nat.sub_pos_of_lt hk) hdvd
      omega
    rw [Function.update_of_ne hne, List.getElem_append_left hk]
    exact h.recent k hk (by omega)
  · rw [Function.update_self, List.getElem_concat_length rfl]

/-- **A segment that is read before the writer comes round again.** -/
theorem Wrote.segment (h : r.Wrote ws) (hrecent : ws.length ≤ k + n) :
    (r.segment k m).take (ws.length - k) = (ws.drop k).take m := by
  apply List.ext_getElem
  · simp [Nat.min_comm]
  · intro j hj hj'
    simp only [List.length_take, List.length_drop, length_segment] at hj hj'
    have hlt : k + j < ws.length := by omega
    simp only [Ring.segment, List.getElem_take, List.getElem_map, List.getElem_range,
      List.getElem_drop]
    exact h.recent (k + j) hlt (by omega)

/-- All of it was written. -/
theorem Wrote.segment_full (h : r.Wrote ws) (hrecent : ws.length ≤ k + n)
    (hfull : k + m ≤ ws.length) : r.segment k m = (ws.drop k).take m := by
  rw [← h.segment hrecent, List.take_of_length_le]
  rw [length_segment]
  omega

/-- What was read before, with a segment that is read at the writer's position, which may go beyond
    it. -/
theorem Wrote.agree (h : r.Wrote ws) (hk : k ≤ ws.length) (hrecent : ws.length ≤ k + n) :
    Agree (ws.take k ++ r.segment k m) ws := by
  have hlen : (ws.take k ++ r.segment k m).length = k + m := by
    rw [List.length_append, List.length_take, length_segment, Nat.min_eq_left hk]
  rw [Agree, hlen, List.take_append, List.length_take, Nat.min_eq_left hk, h.segment hrecent,
    List.take_take, Nat.min_eq_right hk, List.take_add]

end Ring
end Lib
end Esp32Eye
