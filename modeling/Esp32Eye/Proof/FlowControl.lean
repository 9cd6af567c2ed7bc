import Esp32Eye.DriverSchedule
import Esp32Eye.Proof.Pacing

/-!
# Why the event queue is one shorter than the ring

`event_queue` has room for one event less than the ring has half buffers, and a handler that finds
it full stops the DMA. `promptly` is timing that speaks of interrupts and events only: the camera
sends nothing between a vertical sync and the restart of the DMA, the interrupt of a half buffer is
served before the next one is full, and while the DMA runs the events that `cam_task` has not dealt
with would fit the queue, the one it is at included. Under it, and as long as the application gives
back only what it holds, the DMA never comes round to a half buffer that is still to be copied, so
every such run is one in which the driver keeps up.
-/

namespace Esp32Eye
namespace Driver

open Lib

variable {c : CamConfig} {d d' : Driver c} {a : DriverAction}
  {es tr : List (DriverEvent c.frameCnt)}

/-- The events that `cam_task` has not dealt with. -/
def unhandled (d : Driver c) : ℕ := d.due + if d.task = .overflow then 1 else 0

/-- The timing, with `givesHeld`. An element is sent outside the blanking only, while the events
    leave room in the queue, and does not complete a half buffer before the interrupt of the one in
    front of it was served. -/
def promptly (d : Driver c) : DriverAction → Bool
  | .sample _ =>
      !d.blanking && decide (d.unhandled < c.dma.dmaHalfBufferCnt) &&
        decide (d.eofPending = true → (d.dmaBuffer.written + 1) % c.eofNum ≠ 0)
  | .vsyncIsr => !d.eofPending
  | a => d.givesHeld a

/-- While the DMA runs, each half buffer it has completed was copied or is accounted for by an
    event. -/
def Prompt (d : Driver c) : Prop :=
  d.task.Reads d.state → d.dmaRunning = true →
    d.dmaBuffer.written < (d.cnt + d.unhandled + 1) * c.eofNum

theorem keepsUp_of_promptly (h : d.promptly a = true) (hp : Prompt d)
    (hrun : ∃ r, d.step a = some r) : d.keepsUp a = true := by
  cases a with
  | sample e =>
    simp only [promptly, keepsUp, Bool.and_eq_true, decide_eq_true_eq] at h ⊢
    refine ⟨h.1.1, fun hr => ?_⟩
    have hd : d.dmaRunning = true := by
      obtain ⟨r, hr⟩ := hrun
      by_contra hoff
      simp [step, Driver.sample, hoff] at hr
    have hlt := hp hr hd
    have hle : (d.cnt + d.unhandled + 1) * c.eofNum
        ≤ (d.cnt + c.dma.dmaHalfBufferCnt) * c.eofNum :=
      Nat.mul_le_mul_right _ (by have := h.1.2; omega)
    omega
  | _ => exact h

/-- `cam_task` goes on, and no half buffer is forgotten. -/
theorem Prompt.move (h : Prompt d) (hring : d'.dmaBuffer = d.dmaBuffer)
    (hreads : d'.task.Reads d'.state → d'.dmaRunning = true →
      d.task.Reads d.state ∧ d.dmaRunning = true ∧ d.cnt + d.unhandled ≤ d'.cnt + d'.unhandled) :
    Prompt d' := by
  intro hr hd
  obtain ⟨hold, hrun, hle⟩ := hreads hr hd
  rw [hring]
  exact Nat.lt_of_lt_of_le (h hold hrun) (Nat.mul_le_mul_right _ (Nat.succ_le_succ hle))

theorem Rule.prompt_sample {e : DmaElem} (hk : d.promptly (.sample e) = true) (h : Prompt d) :
    Prompt { d with
      dmaBuffer := d.dmaBuffer.write e
      eofPending := d.eofPending || decide ((d.dmaBuffer.write e).written % c.eofNum = 0) } := by
  simp only [promptly, Bool.and_eq_true, decide_eq_true_eq] at hk
  obtain ⟨-, hserved⟩ := hk
  intro hr hd
  have hold := h hr hd
  show d.dmaBuffer.written + 1 < (d.cnt + _ + 1) * c.eofNum
  by_cases hw : (d.dmaBuffer.written + 1) % c.eofNum = 0
  · have hp : d.eofPending = false := by
      by_contra hp
      exact hserved (Bool.not_eq_false _ ▸ hp) hw
    have hnew : unhandled { d with
        dmaBuffer := d.dmaBuffer.write e
        eofPending := d.eofPending || decide ((d.dmaBuffer.write e).written % c.eofNum = 0) }
        = d.unhandled + 1 := by
      simp [unhandled, due, hp, Ring.write, hw]
      omega
    rw [hnew, ← Nat.add_assoc, Nat.add_mul, Nat.one_mul]
    have := c.eofNum_pos
    omega
  · have hnew : unhandled { d with
        dmaBuffer := d.dmaBuffer.write e
        eofPending := d.eofPending || decide ((d.dmaBuffer.write e).written % c.eofNum = 0) }
        = d.unhandled := by
      simp [unhandled, due, Ring.write, hw]
    rw [hnew]
    have hne : d.dmaBuffer.written + 1 ≠ (d.cnt + d.unhandled + 1) * c.eofNum := fun he =>
      hw (he ▸ Nat.mul_mod_left _ _)
    omega

theorem Rule.prompt (hr : Rule d a d' es) (hk : d.promptly a = true) (hslots : Slots d)
    (hpaced : Paced d) (h : Prompt d) : Prompt d' := by
  cases hr with
  | sample => exact Rule.prompt_sample hk h
  | call | enter | retry | timeout | take | verify | noEoi | handOut | takeGiveBack | give
  | giveNone => exact h
  | vsyncIsr hq =>
    refine h.move rfl fun hr hd => ⟨hr, hd, ?_⟩
    simp [unhandled, due, Queue.items_of_sendToBack hq]
  | dmaIsr hp hq =>
    refine h.move rfl fun hr hd => ⟨hr, hd, ?_⟩
    simp [unhandled, due, hp, Queue.items_of_sendToBack hq]
  | receive hpc hq =>
    rename_i event q
    refine h.move rfl fun hr hd => ⟨by simpa [hpc] using hr, hd, ?_⟩
    cases event <;> simp [unhandled, due, hpc, Queue.items_of_receive hq]
    all_goals omega
  | eof hpc hs =>
    refine h.move rfl fun _ hd => ⟨by simp [hpc, hs], hd, ?_⟩
    simp [unhandled, due, hpc, copyHalfBuffer, setFrame]
    omega
  | eofFull hpc hs =>
    exact h.move rfl fun _ hd => ⟨by simp [hpc, hs], hd, by simp [unhandled, due, hpc]⟩
  | vsync hpc hs =>
    exact h.move rfl fun _ hd => ⟨by simp [hpc, hs], hd, by simp [unhandled, due, hpc]⟩
  -- the DMA is off
  | dmaIsrLost | vsyncIsrLost | overflow | noSoi | stop => exact fun _ hd => by cases hd
  -- an image begins
  | startedIdle hpc | startedRead hpc =>
    intro _ _
    show d.dmaBuffer.written < _
    rw [hpaced.rewound _ hpc]
    exact Nat.mul_pos (Nat.succ_pos _) c.eofNum_pos
  -- no image is read
  | idleEof hpc hs => exact h.move rfl fun hr => absurd (hs ▸ hr) (by simp)
  | scanIdle hpc =>
    have hidle := hslots.idle (by rw [hpc]; rfl)
    exact h.move rfl fun hr => absurd (hidle ▸ hr) (by simp)
  | noSoiIdle | setIdle => exact fun hr => by cases hr
  | _ => exact False.elim

/-- **The event queue protects the ring.** Timing in terms of interrupts and events is enough: a run
    in which the handlers are prompt and the events that are not dealt with fit the queue is a run
    in which the driver keeps up, and the DMA never writes to a half buffer that is still to be
    copied. -/
theorem keepsUp_of_prompt_events (c : CamConfig) (buf : Fin c.frameCnt → ℕ → UInt8)
    (cells : ℕ → DmaElem) (tr : List (DriverEvent c.frameCnt)) (d : Driver c)
    (hrun : DriverRun promptly (init c buf cells) tr d) :
    DriverRun keepsUp (init c buf cells) tr d := by
  have hboth : DriverRun keepsUp (init c buf cells) tr d ∧ Prompt d := by
    refine hrun.invariant (I := fun tr d => DriverRun keepsUp (init c buf cells) tr d ∧ Prompt d)
      ⟨.start, fun hr => (by cases hr)⟩ ?_
    rintro tr d a d' es ⟨hkeeps, hprompt⟩ hp hs
    have hslots := hkeeps.slots fun _ _ => givesHeld_of_keepsUp
    exact ⟨hkeeps.step (keepsUp_of_promptly hp hprompt ⟨_, hs⟩) hs,
      (Rule.of_step hs).prompt hp hslots hkeeps.paced hprompt⟩
  exact hboth.1

/-- All three images are taken promptly. -/
theorem keepsUp_of_prompt_events_three :
    ∃ tr d, DriverRun keepsUp (init smallCamera (fun _ _ => 0) fun _ => ⟨0, 0, 0, 0⟩) tr d ∧
      d.out = [firstFrame] := by
  obtain ⟨tr, d, hrun, hq⟩ := reaches (c := smallCamera) (p := promptly) (a := threeImages)
    (q := fun d _ => decide (d.out = [firstFrame])) (by decide +kernel)
  exact ⟨tr, d, keepsUp_of_prompt_events _ _ _ tr d hrun, of_decide_eq_true hq⟩

end Driver
end Esp32Eye
