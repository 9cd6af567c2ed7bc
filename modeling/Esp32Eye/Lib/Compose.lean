import Esp32Eye.Lib.Run

/-!
# Two systems that share steps

In a composition of two parts, some steps are one part's alone and some are a step of both at once.
What the contract of one part asks of its environment is then something the other part does, so it
is not assumed but proved, from what is known of both before the step. `Run.compose` is that rule:
a relation `I` between the parts, known to hold up to a step, shows that each part advances within
its contract, and holds again behind the step; then a run of the whole is a run of either part under
its contract, and `I` holds throughout. That one contract is used to prove the other is not
circular, since both are known up to the step only.
-/

namespace Esp32Eye
namespace Lib

section Compose

variable {σ α ε τ β δ υ γ ζ : Type*}

/-- From `t` to `t'`, seen as `ds`, a part stands still or makes one step within its contract. -/
def Advances (Step : τ → β → τ → List δ → Prop) (P : τ → β → Prop) (t t' : τ) (ds : List δ) :
    Prop :=
  (t' = t ∧ ds = []) ∨ ∃ b, P t b ∧ Step t b t' ds

variable {Step : τ → β → τ → List δ → Prop} {P Q : τ → β → Prop} {t₀ t t' : τ} {tr ds : List δ}

theorem Advances.refl : Advances Step P t t [] := Or.inl ⟨rfl, rfl⟩

theorem Run.advance (hr : Run Step P t₀ tr t) (h : Advances Step P t t' ds) :
    Run Step P t₀ (ds ++ tr) t' := by
  rcases h with ⟨rfl, rfl⟩ | ⟨b, hp, hs⟩
  · exact hr
  · exact hr.step hp hs

/-- **The rule for two parts.** `f` and `g` are the parts of the state, `e` and `d` the events that
    belong to them. -/
theorem Run.compose {Step : σ → α → σ → List ε → Prop} {P : σ → α → Prop} {s₀ s : σ} {tr : List ε}
    {Step₁ : τ → β → τ → List δ → Prop} {P₁ : τ → β → Prop}
    {Step₂ : υ → γ → υ → List ζ → Prop} {P₂ : υ → γ → Prop}
    (f : σ → τ) (e : ε → Option δ) (g : σ → υ) (d : ε → Option ζ) {I : List ε → σ → Prop}
    (h₀ : I [] s₀)
    (hstep : ∀ {tr s a s' es}, Run Step₁ P₁ (f s₀) (tr.filterMap e) (f s) →
      Run Step₂ P₂ (g s₀) (tr.filterMap d) (g s) → I tr s → P s a → Step s a s' es →
        Advances Step₁ P₁ (f s) (f s') (es.filterMap e) ∧
        Advances Step₂ P₂ (g s) (g s') (es.filterMap d) ∧
        (Run Step₁ P₁ (f s₀) ((es ++ tr).filterMap e) (f s') →
          Run Step₂ P₂ (g s₀) ((es ++ tr).filterMap d) (g s') → I (es ++ tr) s'))
    (hr : Run Step P s₀ tr s) :
    Run Step₁ P₁ (f s₀) (tr.filterMap e) (f s) ∧
      Run Step₂ P₂ (g s₀) (tr.filterMap d) (g s) ∧ I tr s := by
  induction hr with
  | start => exact ⟨.start, .start, h₀⟩
  | step _ hp hs ih =>
    obtain ⟨h₁, h₂, hi⟩ := ih
    obtain ⟨ha, hb, hi'⟩ := hstep h₁ h₂ hi hp hs
    have h₁' := h₁.advance ha
    have h₂' := h₂.advance hb
    rw [← List.filterMap_append] at h₁' h₂'
    exact ⟨h₁', h₂', hi' h₁' h₂'⟩

end Compose

end Lib
end Esp32Eye
