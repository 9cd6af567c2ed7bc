import Mathlib.Data.List.Basic

/-!
# Labelled runs, and what holds of all of them

A system is given by a step relation `Step s a s' es`: from state `s`, the action `a` leads to
`s'` and is seen from outside as the events `es`. A run collects those events in a **trace,
newest first**, so that "the last time that …" is the first match in the list.

A run is taken under a *contract* `P s a`, the condition every one of its steps meets. The
contract is where an assumption about the environment goes (a kernel never hands out an open
descriptor twice), and also where a theorem puts the condition under which it holds. The two
uses are the same thing to this file: a predicate on the state before the step and the action.

Four rules carry every proof below this file:

* `Run.invariant`: what holds at the start and is kept by each step holds at every state a run
  reaches, the trace included;
* `Run.project`: a run of a system is a run of any component that either stands still or steps;
* `Run.observed`: the steps of a run can be looked at through any other set of events;
* `exec_lockstep`: two executions under one schedule stay related when each step keeps them so.
-/

namespace Esp32Eye
namespace Lib

section Runs

variable {σ α ε : Type*}

/-- The runs from `s₀` whose steps all meet the contract `P`: the trace so far, newest event
    first, and the state reached. -/
inductive Run (Step : σ → α → σ → List ε → Prop) (P : σ → α → Prop) (s₀ : σ) :
    List ε → σ → Prop
  | start : Run Step P s₀ [] s₀
  | step {tr es : List ε} {s s' : σ} {a : α} :
      Run Step P s₀ tr s → P s a → Step s a s' es → Run Step P s₀ (es ++ tr) s'

variable {Step : σ → α → σ → List ε → Prop} {P Q : σ → α → Prop} {s₀ s s' : σ}
  {tr tr' : List ε}

/-- **The invariant rule.** -/
theorem Run.invariant {I : List ε → σ → Prop} (h₀ : I [] s₀)
    (hstep : ∀ {tr s a s' es}, I tr s → P s a → Step s a s' es → I (es ++ tr) s')
    (hr : Run Step P s₀ tr s) : I tr s := by
  induction hr with
  | start => exact h₀
  | step _ hp hs ih => exact hstep ih hp hs

/-- A run under a contract is a run under a weaker one. -/
theorem Run.mono (hPQ : ∀ s a, P s a → Q s a) (hr : Run Step P s₀ tr s) :
    Run Step Q s₀ tr s := by
  induction hr with
  | start => exact .start
  | step _ hp hs ih => exact .step ih (hPQ _ _ hp) hs

/-- Runs compose; the later trace goes in front. -/
theorem Run.trans (h₁ : Run Step P s₀ tr s) (h₂ : Run Step P s tr' s') :
    Run Step P s₀ (tr' ++ tr) s' := by
  induction h₂ with
  | start => exact h₁
  | step _ hp hs ih => rw [List.append_assoc]; exact .step ih hp hs

/-- What an invariant gives at the start of a run may be used at every step of it: the invariant
    rule with a second invariant already known of the same run. -/
theorem Run.invariant_of {I J : List ε → σ → Prop} (hJ : ∀ {tr s}, Run Step P s₀ tr s → J tr s)
    (h₀ : I [] s₀)
    (hstep : ∀ {tr s a s' es}, J tr s → I tr s → P s a → Step s a s' es → I (es ++ tr) s')
    (hr : Run Step P s₀ tr s) : I tr s := by
  induction hr with
  | start => exact h₀
  | step hr hp hs ih => exact hstep (hJ hr) ih hp hs

end Runs

/-! ## Components -/

section Components

variable {σ α ε τ β δ : Type*}

/-- **A component's view of a run.** `f` is the component's part of the state and `g` the events
    that belong to it; every step of the whole either leaves the component where it is and shows
    it nothing, or is a step of the component under the component's own contract. -/
theorem Run.project {Step : σ → α → σ → List ε → Prop} {P : σ → α → Prop} {s₀ s : σ}
    {tr : List ε} {Step' : τ → β → τ → List δ → Prop} {P' : τ → β → Prop}
    (f : σ → τ) (g : ε → Option δ)
    (hsim : ∀ {s a s' es}, P s a → Step s a s' es →
      (f s' = f s ∧ es.filterMap g = []) ∨
        ∃ b, P' (f s) b ∧ Step' (f s) b (f s') (es.filterMap g))
    (hr : Run Step P s₀ tr s) : Run Step' P' (f s₀) (tr.filterMap g) (f s) := by
  induction hr with
  | start => exact .start
  | step _ hp hs ih =>
    rw [List.filterMap_append]
    rcases hsim hp hs with ⟨hf, hg⟩ | ⟨b, hp', hs'⟩
    · rw [hf, hg]; exact ih
    · exact .step ih hp' hs'

end Components

/-! ## Another view of the steps -/

section Observations

variable {σ α ε δ : Type*} {Step : σ → α → σ → List ε → Prop} {P : σ → α → Prop} {s₀ s : σ}

/-- The same steps, seen through `obs` instead of by their own events. -/
def Observing (Step : σ → α → σ → List ε → Prop) (obs : σ → α → List δ) :
    σ → α → σ → List δ → Prop :=
  fun s a s' ds => (∃ es, Step s a s' es) ∧ ds = obs s a

/-- Every run can be observed. -/
theorem Run.observed {obs : σ → α → List δ} {tr : List ε} (hr : Run Step P s₀ tr s) :
    ∃ ds, Run (Observing Step obs) P s₀ ds s := by
  induction hr with
  | start => exact ⟨[], .start⟩
  | step _ hp hs ih =>
    obtain ⟨ds, hds⟩ := ih
    exact ⟨_, hds.step hp ⟨⟨_, hs⟩, rfl⟩⟩

end Observations

/-! ## Executing a schedule -/

section Schedules

variable {σ α ε : Type*}

/-- Runs the schedule `as` from `s` by the executable step `next`, each step only if `p` allows
    it. The trace is accumulated newest first. -/
def exec (next : σ → α → Option (σ × List ε)) (p : σ → α → Bool) :
    List α → σ → List ε → Option (σ × List ε)
  | [], s, tr => some (s, tr)
  | a :: as, s, tr =>
      if p s a then
        match next s a with
        | some (s', es) => exec next p as s' (es ++ tr)
        | none => none
      else none

/-- The step relation of an executable step. -/
def StepOf (next : σ → α → Option (σ × List ε)) : σ → α → σ → List ε → Prop :=
  fun s a s' es => next s a = some (s', es)

variable {next : σ → α → Option (σ × List ε)} {p : σ → α → Bool}

theorem exec_cons {a : α} {as : List α} {s : σ} {tr : List ε} {r : σ × List ε} :
    exec next p (a :: as) s tr = some r ↔
      p s a = true ∧ ∃ s' es, next s a = some (s', es) ∧ exec next p as s' (es ++ tr) = some r := by
  rw [exec]
  constructor
  · intro h
    split at h
    · rename_i hp
      cases hn : next s a with
      | none => rw [hn] at h; simp at h
      | some q => obtain ⟨s', es⟩ := q; rw [hn] at h; exact ⟨hp, s', es, rfl, h⟩
    · exact absurd h (by simp)
  · rintro ⟨hp, s', es, hn, h⟩
    rw [if_pos hp, hn]
    exact h

/-- An execution is a run. -/
theorem run_of_exec {s₀ : σ} : ∀ {as : List α} {s s' : σ} {tr tr' : List ε},
    Run (StepOf next) (fun s a => p s a = true) s₀ tr s →
      exec next p as s tr = some (s', tr') →
        Run (StepOf next) (fun s a => p s a = true) s₀ tr' s'
  | [], _, _, _, _, hr, h => by
    simp only [exec, Option.some.injEq, Prod.mk.injEq] at h
    obtain ⟨rfl, rfl⟩ := h
    exact hr
  | _ :: _, _, _, _, _, hr, h => by
    obtain ⟨hp, s', es, hn, h⟩ := exec_cons.mp h
    exact run_of_exec (.step hr hp hn) h

/-- The step, executed and observed. -/
def observe {δ : Type*} (next : σ → α → Option (σ × List ε)) (obs : σ → α → List δ) :
    σ → α → Option (σ × List δ) :=
  fun s a => (next s a).map fun r => (r.1, obs s a)

theorem stepOf_observe {δ : Type*} {obs : σ → α → List δ} :
    StepOf (observe next obs) = Observing (StepOf next) obs := by
  funext s a s' ds
  unfold StepOf observe Observing
  rw [Option.map_eq_some_iff, eq_iff_iff]
  constructor
  · rintro ⟨⟨s'', es⟩, hn, he⟩
    cases he
    exact ⟨⟨es, hn⟩, rfl⟩
  · rintro ⟨⟨es, hn⟩, rfl⟩
    exact ⟨(s', es), hn, rfl⟩

/-- **Two executions under one schedule.** A relation between two executions, their traces
    included, that every pair of matching steps keeps holds where the whole schedule ends. `A` is
    what is known of the actions of the schedule. -/
theorem exec_lockstep {A : α → Prop} {R : List ε → σ → List ε → σ → Prop}
    (hstep : ∀ {tr ur es fs s t s' t' a}, A a → p s a = true → R tr s ur t →
      next s a = some (s', es) → next t a = some (t', fs) → R (es ++ tr) s' (fs ++ ur) t') :
    ∀ {as : List α} {s t s' t' : σ} {tr ur tr' ur' : List ε}, (∀ a ∈ as, A a) → R tr s ur t →
      exec next p as s tr = some (s', tr') → exec next p as t ur = some (t', ur') →
        R tr' s' ur' t'
  | [], _, _, _, _, _, _, _, _, _, hR, h₁, h₂ => by
    simp only [exec, Option.some.injEq, Prod.mk.injEq] at h₁ h₂
    obtain ⟨rfl, rfl⟩ := h₁
    obtain ⟨rfl, rfl⟩ := h₂
    exact hR
  | _ :: _, _, _, _, _, _, _, _, _, hA, hR, h₁, h₂ => by
    obtain ⟨hp, _, _, hn₁, h₁⟩ := exec_cons.mp h₁
    obtain ⟨-, _, _, hn₂, h₂⟩ := exec_cons.mp h₂
    have ha := hA _ List.mem_cons_self
    exact exec_lockstep hstep (fun a h => hA a (List.mem_cons_of_mem _ h))
      (hstep ha hp hR hn₁ hn₂) h₁ h₂

end Schedules

end Lib
end Esp32Eye
