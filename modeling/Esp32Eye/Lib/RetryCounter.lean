import Mathlib.Data.List.Infix

/-!
# Retry budgets over a history

A program that retries keeps a counter: a *hit* (something failed) raises it until the limit is
reached, a *reset* (something worked) puts it back to zero, and a hit that finds it at the limit is
refused. What such a counter says about the past is stated over the history of events, **newest
first**, with nothing but the two kinds of events:

* `hitsSince` is the number of hits since the last reset, and `foldr_next` says that the counter is
  this number, cut off at the limit;
* `granted` is the number of hits that came while fewer than `limit` hits had been seen since the
  last reset;
* `Exceeded` says that somewhere in the history more than `limit` hits lie with no reset between
  them, and `exceeded_cons` that this becomes true exactly when a hit is refused.
-/

namespace Esp32Eye
namespace Lib
namespace RetryCounter

variable {ε : Type*} {reset hit : ε → Bool} {limit : ℕ} {e : ε} {tr : List ε}

/-- The hits since the last reset, or since the start. -/
def hitsSince (reset hit : ε → Bool) (tr : List ε) : ℕ :=
  (tr.takeWhile fun e => !reset e).countP hit

@[simp] theorem hitsSince_nil : hitsSince reset hit [] = 0 := rfl

theorem hitsSince_reset (he : reset e = true) : hitsSince reset hit (e :: tr) = 0 := by
  simp [hitsSince, he]

theorem hitsSince_hit (hr : reset e = false) (he : hit e = true) :
    hitsSince reset hit (e :: tr) = hitsSince reset hit tr + 1 := by
  simp [hitsSince, hr, he]

theorem hitsSince_other (hr : reset e = false) (he : hit e = false) :
    hitsSince reset hit (e :: tr) = hitsSince reset hit tr := by
  simp [hitsSince, hr, he]

/-! ## The counter -/

/-- What an event does to the counter. -/
def next (reset hit : ε → Bool) (limit : ℕ) (e : ε) (count : ℕ) : ℕ :=
  if reset e then 0 else if hit e && decide (count < limit) then count + 1 else count

/-- **The counter is the number of hits since the last reset, cut off at the limit.** -/
theorem foldr_next (tr : List ε) :
    tr.foldr (next reset hit limit) 0 = min limit (hitsSince reset hit tr) := by
  induction tr with
  | nil => simp
  | cons e tr ih =>
    rw [List.foldr_cons, ih, next]
    cases hr : reset e with
    | true => simp [hitsSince_reset hr]
    | false =>
      cases he : hit e with
      | false => simp [hitsSince_other hr he]
      | true =>
        rw [hitsSince_hit hr he]
        by_cases hlt : hitsSince reset hit tr < limit
        · rw [Nat.min_eq_right (Nat.succ_le_of_lt hlt)]
          simp [Nat.min_eq_right (Nat.le_of_lt hlt), hlt]
        · have hle := not_lt.mp hlt
          simp [Nat.min_eq_left hle, Nat.min_eq_left (Nat.le_succ_of_le hle)]

/-! ## Hits within the budget -/

/-- The hits that came with fewer than `limit` hits since the last reset before them. -/
def granted (reset hit : ε → Bool) (limit : ℕ) : List ε → ℕ
  | [] => 0
  | e :: tr =>
      granted reset hit limit tr
        + if hit e && decide (hitsSince reset hit tr < limit) then 1 else 0

/-! ## Hits beyond the budget -/

/-- More than `limit` hits with no reset between them. -/
def Exceeded (reset hit : ε → Bool) (limit : ℕ) (tr : List ε) : Prop :=
  ∃ segment, segment <:+: tr ∧ (∀ e ∈ segment, reset e = false) ∧ limit < segment.countP hit

theorem not_exceeded_nil : ¬ Exceeded reset hit limit [] := by
  rintro ⟨segment, hs, -, hc⟩
  rw [List.infix_nil.mp hs] at hc
  exact absurd hc (by simp)

/-- The segment that ends now is the longest without a reset that does. -/
theorem countP_le_hitsSince {segment : List ε} (hs : segment <+: tr)
    (hr : ∀ e ∈ segment, reset e = false) : segment.countP hit ≤ hitsSince reset hit tr := by
  obtain ⟨rest, rfl⟩ := hs
  unfold hitsSince
  rw [List.takeWhile_append_of_pos fun e he => by rw [hr e he]; rfl, List.countP_append]
  exact Nat.le_add_right _ _

theorem exceeded_of_hitsSince (h : limit < hitsSince reset hit tr) :
    Exceeded reset hit limit tr := by
  refine ⟨tr.takeWhile fun e => !reset e, (List.takeWhile_prefix _).isInfix, ?_, h⟩
  intro e he
  have hall := List.all_takeWhile (p := fun e => !reset e) (l := tr)
  simpa using List.all_eq_true.mp hall e he

/-- **The budget is exceeded when a hit finds it used up.** -/
theorem exceeded_cons (hdisj : hit e = true → reset e = false) :
    Exceeded reset hit limit (e :: tr) ↔
      Exceeded reset hit limit tr ∨ (hit e = true ∧ limit ≤ hitsSince reset hit tr) := by
  constructor
  · rintro ⟨segment, hs, hr, hc⟩
    rcases List.infix_cons_iff.mp hs with hpre | hin
    · have hlt : limit < hitsSince reset hit (e :: tr) :=
        lt_of_lt_of_le hc (countP_le_hitsSince hpre hr)
      cases hre : reset e with
      | true => rw [hitsSince_reset hre] at hlt; exact absurd hlt (Nat.not_lt_zero _)
      | false =>
        cases hhe : hit e with
        | true =>
          rw [hitsSince_hit hre hhe] at hlt
          exact Or.inr ⟨rfl, Nat.le_of_lt_succ hlt⟩
        | false =>
          rw [hitsSince_other hre hhe] at hlt
          exact Or.inl (exceeded_of_hitsSince hlt)
    · exact Or.inl ⟨segment, hin, hr, hc⟩
  · rintro (⟨segment, hs, hr, hc⟩ | ⟨hhe, hle⟩)
    · exact ⟨segment, hs.trans (List.suffix_cons e tr).isInfix, hr, hc⟩
    · apply exceeded_of_hitsSince
      rw [hitsSince_hit (hdisj hhe) hhe]
      exact Nat.lt_succ_of_le hle

end RetryCounter
end Lib
end Esp32Eye
