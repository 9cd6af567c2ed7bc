import Esp32Eye.Proof.NetworkRules
import Esp32Eye.System

/-!
# The two sides of the system, each on its own

The connection side and the frame side share the mutex, and the frame side reads the event group
and the table; neither writes the other's part. So a run of the system, looked at from one side,
is a run of that side alone, with everything it shares left open: `NetworkStep` and
`PipelineStep` are the steps a side can make under *some* mutex and *some* state of the other side.
An invariant of one side is proved over these, and `SystemRun.network` and `SystemRun.pipeline`
carry it to every interleaving of all six tasks.
-/

namespace Esp32Eye

open Lib

/-- A step of the connection side, whoever holds the mutex. -/
def NetworkStep (n : Network) (a : NetworkAction) (n' : Network) (es : List NetworkEvent) : Prop :=
  ∃ m m', n.Rule m a m' n' es

/-- A step of the frame side, whoever holds the mutex and whatever the connections are. -/
def PipelineStep (p : Pipeline) (a : PipelineAction) (p' : Pipeline) (es : List PipelineEvent) :
    Prop :=
  ∃ m n m', p.step m n a = some (m', p', es)

/-- A run of the connection side under a contract of its own. -/
abbrev NetworkRun (C : Network → NetworkAction → Prop) (n₀ : Network) :
    List NetworkEvent → Network → Prop := Run NetworkStep C n₀

/-- A run of the frame side. -/
abbrev PipelineRun (C : Pipeline → PipelineAction → Prop) (p₀ : Pipeline) :
    List PipelineEvent → Pipeline → Prop := Run PipelineStep C p₀

/-- What the connection side shows of a trace. -/
def networkTrace (tr : List Event) : List NetworkEvent := tr.filterMap Event.network?

/-- What the frame side shows of a trace. -/
def pipelineTrace (tr : List Event) : List PipelineEvent := tr.filterMap Event.pipeline?

theorem network?_map (es : List NetworkEvent) :
    (es.map Event.network).filterMap Event.network? = es := by
  induction es with
  | nil => rfl
  | cons e es ih => simp [Event.network?, ih]

theorem pipeline?_map (es : List PipelineEvent) :
    (es.map Event.pipeline).filterMap Event.pipeline? = es := by
  induction es with
  | nil => rfl
  | cons e es ih => simp [Event.pipeline?, ih]

theorem network?_map_pipeline (es : List PipelineEvent) :
    (es.map Event.pipeline).filterMap Event.network? = [] := by
  simp [Event.network?]

theorem pipeline?_map_network (es : List NetworkEvent) :
    (es.map Event.network).filterMap Event.pipeline? = [] := by
  simp [Event.pipeline?]

namespace System

/-- Who moved, and what did not move. -/
inductive Moved (s : System) : Action → System → List Event → Prop
  | network {a : NetworkAction} {m : Option Task} {n : Network} {es : List NetworkEvent}
      (h : s.network.Rule s.mutex a m n es) :
      Moved s (.network a) { s with mutex := m, network := n } (es.map .network)
  | pipeline {a : PipelineAction} {m : Option Task} {p : Pipeline} {es : List PipelineEvent}
      (h : s.pipeline.step s.mutex s.network a = some (m, p, es)) :
      Moved s (.pipeline a) { s with mutex := m, pipeline := p } (es.map .pipeline)
  | broadcast {b : BroadcastPc} {es : List Event}
      (hes : es = [] ∨ es = [.broadcast s.network.server.sendBroadcast]) :
      Moved s .broadcast { s with broadcast := b } es

theorem moved_of_step {s s' : System} {a : Action} {es : List Event}
    (h : s.step a = some (s', es)) : Moved s a s' es := by
  cases a with
  | network a =>
    simp only [step, Option.map_eq_some_iff] at h
    obtain ⟨⟨m, n, es⟩, hn, h⟩ := h
    cases h
    exact .network (.of_step hn)
  | pipeline a =>
    simp only [step, Option.map_eq_some_iff] at h
    obtain ⟨⟨m, p, es⟩, hp, h⟩ := h
    cases h
    exact .pipeline hp
  | broadcast =>
    simp only [step] at h
    split at h
    · cases h; exact .broadcast (Or.inr rfl)
    · cases h; exact .broadcast (Or.inl rfl)

section

variable {p : System → Action → Bool} {s₀ s : System} {tr : List Event}

/-- **The connection side of a run is a run of the connection side.** -/
theorem SystemRun.network {C : Network → NetworkAction → Prop}
    (hC : ∀ s a, p s (.network a) = true → C s.network a) (h : SystemRun p s₀ tr s) :
    NetworkRun C s₀.network (networkTrace tr) s.network := by
  refine h.project System.network Event.network? fun hp hs => ?_
  cases moved_of_step hs with
  | network hr =>
    rw [network?_map]
    exact Or.inr ⟨_, hC _ _ hp, _, _, hr⟩
  | pipeline =>
    exact Or.inl ⟨rfl, network?_map_pipeline _⟩
  | broadcast hes =>
    refine Or.inl ⟨rfl, ?_⟩
    rcases hes with rfl | rfl <;> rfl

/-- **The frame side of a run is a run of the frame side.** -/
theorem SystemRun.pipeline {C : Pipeline → PipelineAction → Prop}
    (hC : ∀ s a, p s (.pipeline a) = true → C s.pipeline a) (h : SystemRun p s₀ tr s) :
    PipelineRun C s₀.pipeline (pipelineTrace tr) s.pipeline := by
  refine h.project System.pipeline Event.pipeline? fun hp hs => ?_
  cases moved_of_step hs with
  | network =>
    exact Or.inl ⟨rfl, pipeline?_map_network _⟩
  | pipeline hr =>
    rw [pipeline?_map]
    exact Or.inr ⟨_, hC _ _ hp, _, _, _, hr⟩
  | broadcast hes =>
    refine Or.inl ⟨rfl, ?_⟩
    rcases hes with rfl | rfl <;> rfl

end

end System
end Esp32Eye
