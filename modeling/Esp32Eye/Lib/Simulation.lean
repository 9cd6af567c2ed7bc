import Esp32Eye.Lib.Compose

/-!
# A run explained by a run of a simpler system

A program and the system it is meant to be have states of their own and actions of their own; what
connects them is a relation between the states, and the traces that led to them. Where each step of
the program, from related states, is one step of the other system or none at all, to related states
again, every run of the program is explained by a run of the other system (`Run.simulates`). What
the other system never does, the program then does not do either.
-/

namespace Esp32Eye
namespace Lib

section Simulation

variable {σ α ε τ β δ : Type*} {Step : σ → α → σ → List ε → Prop} {P : σ → α → Prop} {s₀ s : σ}
  {tr : List ε} {Step' : τ → β → τ → List δ → Prop} {P' : τ → β → Prop} {t₀ : τ}

/-- **The simulation rule.** Both runs so far are known where a step is to be explained. -/
theorem Run.simulates {R : List ε → σ → List δ → τ → Prop} (h₀ : R [] s₀ [] t₀)
    (hstep : ∀ {tr s a s' es ur t}, Run Step P s₀ tr s → Run Step' P' t₀ ur t → R tr s ur t →
      P s a → Step s a s' es →
        ∃ t' ds, Advances Step' P' t t' ds ∧ R (es ++ tr) s' (ds ++ ur) t')
    (hr : Run Step P s₀ tr s) : ∃ ur t, Run Step' P' t₀ ur t ∧ R tr s ur t := by
  induction hr with
  | start => exact ⟨[], t₀, .start, h₀⟩
  | step hr hp hs ih =>
    obtain ⟨ur, t, hrun, hR⟩ := ih
    obtain ⟨t', ds, hadv, hR'⟩ := hstep hr hrun hR hp hs
    exact ⟨ds ++ ur, t', hrun.advance hadv, hR'⟩

end Simulation

end Lib
end Esp32Eye
