import Mathlib.Algebra.Group.Nat.Defs
import Esp32Eye.DriverSchedule
import Esp32Eye.Proof.DriverRules

/-!
# How long `cam_take` waits

A frame without an end marker is given back, and `cam_take` calls itself with what is left of its
timeout: `timeout - (xTaskGetTickCount() - start)`, in unsigned arithmetic. Over any number of such
rounds the timeout and the ticks spent so far add up to `FB_GET_TIMEOUT`, but only modulo 2^32
(`Rule.budget`). As long as every round ends in time that is an equation, and the call waits no
longer than it was asked to. A round that ends late, since the frame came in the last tick and the
search for its end took some more, leaves a timeout that is all but endless.
-/

namespace Esp32Eye

open Lib

/-! ## What is seen of the calls -/

inductive TakeEvent
  | called
  /-- a frame without an end marker was given back, `elapsed` ticks after the call before -/
  | round (elapsed : UInt32)
  deriving DecidableEq, Repr

/-- The ticks that the rounds of the call under way have taken, newest first. -/
def spent : List TakeEvent → ℕ
  | [] => 0
  | .called :: _ => 0
  | .round elapsed :: ds => elapsed.toNat + spent ds

/-- The timeout of the innermost call. -/
def TakePc.budget {n : ℕ} : TakePc n → Option UInt32
  | .none => Option.none
  | .enter timeout => some timeout
  | .receive timeout _ | .verify _ timeout _ | .giveBack _ timeout _ | .retry timeout _ =>
      some timeout

namespace Driver

variable {c : CamConfig} {d d' : Driver c} {a : DriverAction} {ds : List TakeEvent}
  {es : List (DriverEvent c.frameCnt)}

def takeEvents (d : Driver c) : DriverAction → List TakeEvent
  | .take .call => [.called]
  | .take (.ticks now) =>
      match d.take with
      | .retry _ start => [.round (now - start)]
      | _ => []
  | _ => []

/-! ## One step, every run -/

/-- What is left and what is spent is what the call was given, as far as 32 bits can tell. -/
def Budget (ds : List TakeEvent) (take : TakePc c.frameCnt) : Prop :=
  ∀ timeout, take.budget = some timeout →
    (timeout.toNat + spent ds) % 2 ^ 32 = fbGetTimeout.toNat

/-- A call within the call. -/
theorem Budget.retry {timeout start now : UInt32} (h : Budget ds d.take)
    (hpc : d.take = .retry timeout start) :
    Budget (c := c) (.round (now - start) :: ds) (.enter (timeout - (now - start))) := by
  intro left hleft
  have hsum := h timeout (by rw [hpc]; rfl)
  have hlt := (now - start).toNat_lt
  cases hleft
  rw [spent, UInt32.toNat_sub]
  omega

theorem Rule.budget (hr : d.Rule a d' es) (h : Budget ds d.take) :
    Budget (d.takeEvents a ++ ds) d'.take := by
  cases hr with
  | call =>
    intro timeout ht
    cases ht
    rfl
  | enter hpc =>
    have hev : ∀ now, d.takeEvents (.take (.ticks now)) = [] := by
      intro now
      simp only [takeEvents, hpc]
    rw [hev]
    intro timeout ht
    exact h timeout (by rw [hpc]; exact ht)
  | @retry timeout start now hpc =>
    have hev : d.takeEvents (.take (.ticks now)) = [.round (now - start)] := by
      simp only [takeEvents, hpc]
    rw [hev]
    exact h.retry hpc
  | timeout | verify | handOut =>
    intro timeout ht
    cases ht
  | take hpc | noEoi hpc | takeGiveBack hpc =>
    intro timeout ht
    exact h timeout (by rw [hpc]; exact ht)
  | _ => exact h

theorem budget_of_observing {p : Driver c → DriverAction → Bool}
    {buf : Fin c.frameCnt → ℕ → UInt8} {cells : ℕ → DmaElem}
    (h : Run (Observing (StepOf step) takeEvents) (fun d a => p d a = true) (init c buf cells)
      ds d) :
    Budget ds d.take := by
  refine h.invariant (I := fun ds d => Budget ds d.take) ?_ ?_
  · intro timeout ht
    cases ht
  · rintro ds d a d' _ hb - ⟨⟨es, hstep⟩, rfl⟩
    exact (Rule.of_step hstep).budget hb

/-- **`cam_take` keeps to its timeout as long as no round ends late.** In every run, wherever a call
    is: if its rounds have taken no more than `FB_GET_TIMEOUT` together, it will wait for what is
    left of that and not a tick more; and if they have taken more, but no more than 2^31 ticks in
    all, it will wait for more than 2^31 ticks. -/
theorem take_timeout (c : CamConfig) (buf : Fin c.frameCnt → ℕ → UInt8) (cells : ℕ → DmaElem)
    (p : Driver c → DriverAction → Bool) (ds : List TakeEvent) (d : Driver c)
    (hrun : Run (Observing (StepOf step) takeEvents) (fun d a => p d a = true) (init c buf cells)
      ds d) (timeout : UInt32) (ht : d.take.budget = some timeout) :
    (spent ds ≤ fbGetTimeout.toNat ↔ timeout.toNat + spent ds = fbGetTimeout.toNat) ∧
      (fbGetTimeout.toNat < spent ds → spent ds ≤ 2 ^ 31 → 2 ^ 31 < timeout.toNat) := by
  have hsum := budget_of_observing hrun timeout ht
  have hlt := timeout.toNat_lt
  have hfb : fbGetTimeout.toNat = 400 := rfl
  rw [hfb] at hsum ⊢
  refine ⟨⟨fun hspent => ?_, fun heq => ?_⟩, fun hlate hspent => ?_⟩
  · omega
  · omega
  · omega

/-- A frame without an end marker comes in the last tick of the 400, and it takes one more to find
    that out. -/
def lateRound : List DriverAction :=
  beginImage ++ cameraSends [0xFF, 0xD8, 0xFF, 0xE0] ++ copyOut ++ cameraSends [0x10, 0x11]
    ++ endImage ++ fbGet ++ [.take .go, .take (.ticks 401)]

/-- `cam_take` is called again with `portMAX_DELAY`. -/
theorem take_timeout_late :
    ∃ ds, ∃ d : Driver smallCamera, Run (Observing (StepOf step) takeEvents)
        (fun d a => givesHeld d a = true) (init smallCamera (fun _ _ => 0) fun _ => ⟨0, 0, 0, 0⟩)
        ds d ∧
      d.take = .enter 0xFFFFFFFF ∧ spent ds = 401 ∧ 2 ^ 31 < (0xFFFFFFFF : UInt32).toNat := by
  have hexec : ((exec (observe step takeEvents) givesHeld lateRound
      (init smallCamera (fun _ _ => 0) fun _ => ⟨0, 0, 0, 0⟩) []).any fun r =>
        decide (r.1.take = .enter 0xFFFFFFFF) && decide (r.2 = [.round 401, .called])) = true := by
    decide +kernel
  simp only [Option.any_eq_true, Bool.and_eq_true, decide_eq_true_eq] at hexec
  obtain ⟨⟨d, ds⟩, hexec, htake, rfl⟩ := hexec
  have hrun := run_of_exec .start hexec
  rw [stepOf_observe] at hrun
  have hlate := (take_timeout smallCamera _ _ givesHeld _ d hrun 0xFFFFFFFF (by rw [htake]; rfl)).2
  exact ⟨_, d, hrun, htake, rfl, hlate (by decide) (by decide)⟩

end Driver
end Esp32Eye
