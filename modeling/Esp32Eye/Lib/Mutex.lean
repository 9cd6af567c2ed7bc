import Mathlib.Data.List.Count

/-!
# A mutex and the tasks that use it

A non-recursive mutex is the task that has it, if one has (`Option τ`). Beside it every task has a
flag that says whether its own code is between a take and the matching give. That the two agree is
`Exact`: at most one flag is up, and it is the owner's. A step of one task takes the mutex, gives
it back, or leaves it and its own flag alone (`MutexStep`); any such step keeps `Exact`, and along
a run the takes of a task are its gives and the one that is still open (`Balanced`).
-/

namespace Esp32Eye
namespace Lib

variable {τ : Type*}

inductive MutexCall (τ : Type*)
  | take (t : τ)
  | give (t : τ)
  deriving DecidableEq

/-- A task's flag is up exactly when it has the mutex. -/
def Exact (m : Option τ) (holds : τ → Bool) : Prop := ∀ t, holds t = true ↔ m = some t

/-- What a step of task `t` does with the mutex: the calls it makes, and the owner and its own
    flag afterwards. -/
inductive MutexStep (t : τ) (m : Option τ) (held : Bool) :
    List (MutexCall τ) → Option τ → Bool → Prop
  | take (hm : m = none) : MutexStep t m held [.take t] (some t) true
  | give (hh : held = true) : MutexStep t m held [.give t] none false
  | keep : MutexStep t m held [] m held

/-- Newest first, every take of a task is matched by a give except the one that is open. -/
def Balanced [DecidableEq τ] (calls : List (MutexCall τ)) (holds : τ → Bool) : Prop :=
  ∀ t, calls.count (.take t) = calls.count (.give t) + (holds t).toNat

section

variable {m m' : Option τ} {holds holds' : τ → Bool} {t u : τ} {calls new : List (MutexCall τ)}

/-- At most one task has it. -/
theorem Exact.unique (h : Exact m holds) (ht : holds t = true) (hu : holds u = true) : t = u := by
  have := ((h t).mp ht).symm.trans ((h u).mp hu)
  exact Option.some.inj this

theorem Exact.none (h : Exact m holds) (hm : m = none) : holds t = false := by
  rw [← Bool.not_eq_true, h t, hm]
  exact nofun

theorem Exact.step (h : Exact m holds) (hs : MutexStep t m (holds t) new m' (holds' t))
    (ho : ∀ u, u ≠ t → holds' u = holds u) : Exact m' holds' := by
  intro u
  rcases eq_or_ne u t with rfl | hu
  · generalize hb : holds u = before at hs
    generalize ha : holds' u = after at hs
    cases hs with
    | take => simp
    | give => simp
    | keep => rw [← hb]; exact h u
  · rw [ho u hu, h u]
    generalize hb : holds t = before at hs
    generalize holds' t = after at hs
    cases hs with
    | take hm => simp [hm, Ne.symm hu]
    | give hh => simp [(h t).mp (hb.trans hh), Ne.symm hu]
    | keep => rfl

theorem Balanced.step [DecidableEq τ] (hx : Exact m holds) (h : Balanced calls holds)
    (hs : MutexStep t m (holds t) new m' (holds' t)) (ho : ∀ u, u ≠ t → holds' u = holds u) :
    Balanced (new ++ calls) holds' := by
  intro u
  rcases eq_or_ne u t with rfl | hu
  · have hcount := h u
    generalize hb : holds u = before at hs hcount
    generalize holds' u = after at hs
    cases hs with
    | take hm =>
      rw [hx.none hm] at hb
      simp [hcount, ← hb]
    | give hh => simp [hcount, hh]
    | keep => exact hcount
  · rw [ho u hu]
    generalize holds t = before at hs
    generalize holds' t = after at hs
    cases hs with
    | take => simpa [Ne.symm hu] using h u
    | give => simpa [Ne.symm hu] using h u
    | keep => exact h u

end

end Lib
end Esp32Eye
