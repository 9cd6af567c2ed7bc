import Esp32Eye.Proof.Slots

/-!
# The driver when it keeps up

Nothing in the code makes the DMA wait for `cam_task`; that the half buffer `cam_task` copies is the
one it takes it for is a matter of timing, and `keepsUp` states the timing. Under it, `Paced`
relates the counters: the half buffers copied, `cnt`, and the events that are still due never exceed
the half buffers written, the DMA is never further ahead than the ring is long, and no event of one
image is left when the next one starts.
-/

namespace Esp32Eye
namespace Driver

open Lib

variable {c : CamConfig} {d d' : Driver c} {a : DriverAction}
  {es : List (DriverEvent c.frameCnt)}

/-- The half buffers that `cam_task` has been told of, or will be, and has not copied. -/
def due (d : Driver c) : ℕ :=
  d.eventQueue.items.count .inSucEof + (if d.eofPending then 1 else 0)
    + (if d.task = .dispatch .inSucEof then 1 else 0)

structure Paced (d : Driver c) : Prop where
  /-- the vertical sync is the last event of an image -/
  order : d.eventQueue.items.Pairwise fun e e' => e = .vsync → e' = .vsync
  quiet : d.blanking = true → d.eofPending = false
  drained : d.task.Closes = true → .inSucEof ∉ d.eventQueue.items
  stopped : d.task = .complete → d.dmaRunning = false
  rewound : ∀ origin, d.task = .started origin → d.dmaBuffer.written = 0
  counted : d.task.Reads d.state → (d.cnt + d.due) * c.eofNum ≤ d.dmaBuffer.written
  ahead : d.task.Reads d.state →
    d.dmaBuffer.written ≤ (d.cnt + c.dma.dmaHalfBufferCnt) * c.eofNum

theorem blanking_iff :
    d.blanking = true ↔ .vsync ∈ d.eventQueue.items ∨ d.task.Closes = true := by
  simp [blanking]

/-- `cam_task` goes on, and with it the events and the ring stay as they are. -/
theorem Paced.move (h : Paced d) (hq : d'.eventQueue = d.eventQueue)
    (hpend : d'.eofPending = true → d.eofPending = true) (hring : d'.dmaBuffer = d.dmaBuffer)
    (hclose : d'.task.Closes = true → d.task.Closes = true)
    (hstop : d'.task = .complete → d'.dmaRunning = false)
    (hstart : ∀ origin, d'.task ≠ .started origin)
    (hreads : d'.task.Reads d'.state →
      d.task.Reads d.state ∧ d'.cnt + d'.due ≤ d.cnt + d.due ∧ d.cnt ≤ d'.cnt) : Paced d' where
  order := by rw [hq]; exact h.order
  quiet := fun hb => by
    rw [blanking_iff, hq] at hb
    have hoff := h.quiet (blanking_iff.mpr (hb.imp_right hclose))
    by_contra hp
    rw [hpend (Bool.not_eq_false _ ▸ hp)] at hoff
    cases hoff
  drained := fun hc => by rw [hq]; exact h.drained (hclose hc)
  stopped := hstop
  rewound := fun origin ho => absurd ho (hstart origin)
  counted := fun hr => by
    obtain ⟨hold, hle, -⟩ := hreads hr
    rw [hring]
    exact Nat.le_trans (Nat.mul_le_mul_right _ hle) (h.counted hold)
  ahead := fun hr => by
    obtain ⟨hold, -, hle⟩ := hreads hr
    rw [hring]
    exact Nat.le_trans (h.ahead hold) (Nat.mul_le_mul_right _ (Nat.add_le_add_right hle _))

/-- The half buffer that a write completes is one more. -/
theorem succ_mul_le {k n w : ℕ} (h : k * n ≤ w) (hw : (w + 1) % n = 0) :
    (k + 1) * n ≤ w + 1 := by
  obtain ⟨q, hq⟩ := Nat.dvd_of_mod_eq_zero hw
  rw [Nat.mul_comm] at hq
  have hlt : k * n < q * n := by omega
  rw [hq]
  exact Nat.mul_le_mul_right n (Nat.lt_of_mul_lt_mul_right hlt)

theorem Rule.paced_sample {e : DmaElem} (hk : d.keepsUp (.sample e) = true) (h : Paced d) :
    Paced { d with
      dmaBuffer := d.dmaBuffer.write e
      eofPending := d.eofPending || decide ((d.dmaBuffer.write e).written % c.eofNum = 0) } := by
  simp only [keepsUp, Bool.and_eq_true, Bool.not_eq_true', decide_eq_true_eq] at hk
  obtain ⟨hactive, hroom⟩ := hk
  have hopen : d.task.Closes = false := by
    by_contra hc
    rw [blanking_iff.mpr (.inr (Bool.not_eq_false _ ▸ hc))] at hactive
    cases hactive
  refine ⟨h.order, fun hb => absurd (hb.symm.trans hactive) (by simp), h.drained, ?_, ?_, ?_, ?_⟩
  · intro hpc
    rw [show d.task = .complete from hpc] at hopen
    cases hopen
  · intro origin hpc
    rw [show d.task = .started origin from hpc] at hopen
    cases hopen
  · intro hr
    have hold := h.counted hr
    show (d.cnt + _) * c.eofNum ≤ d.dmaBuffer.written + 1
    by_cases hp : d.eofPending = true
    · simp only [due, hp, Bool.true_or] at hold ⊢
      exact Nat.le_succ_of_le hold
    · by_cases hw : (d.dmaBuffer.written + 1) % c.eofNum = 0
      · have hnext := succ_mul_le hold hw
        simp only [due, hp, Ring.write, hw] at hnext ⊢
        convert hnext using 2
        simp
        omega
      · simp only [due, hp, Ring.write, hw] at hold ⊢
        exact Nat.le_succ_of_le (by simpa using hold)
  · intro hr
    exact hroom hr

/-- Whatever `cam_task` is at, the DMA may be stopped and the image given up. -/
theorem Paced.lost (h : Paced d) : Paced { d.stop with state := .idle } where
  order := h.order
  quiet := fun _ => rfl
  drained := h.drained
  stopped := fun _ => rfl
  rewound := h.rewound
  counted := fun hr => by
    refine Nat.le_trans (Nat.mul_le_mul_right _ (Nat.add_le_add_left ?_ _))
      (h.counted (CamTaskPc.Reads.of_idle hr))
    exact Nat.add_le_add_right (Nat.add_le_add_left (Nat.zero_le _) _) _
  ahead := fun hr => h.ahead (CamTaskPc.Reads.of_idle hr)

/-- The interrupt at the end of a half buffer is served. -/
theorem Paced.served {q : Queue (c.dma.dmaHalfBufferCnt - 1) CamEvent} (h : Paced d)
    (hp : d.eofPending = true) (hq : d.eventQueue.sendToBack .inSucEof = some q) :
    Paced { d with eofPending := false, eventQueue := q } := by
  -- the DMA is not off, so no vertical sync is on its way
  have hopen : .vsync ∉ d.eventQueue.items ∧ ¬ d.task.Closes = true := by
    rw [← not_or, ← blanking_iff]
    intro hb
    rw [h.quiet hb] at hp
    cases hp
  refine ⟨?_, fun _ => rfl, fun hc => absurd hc hopen.2, h.stopped, h.rewound, ?_, h.ahead⟩
  · rw [Queue.items_of_sendToBack hq]
    refine List.pairwise_append.mpr ⟨h.order, List.pairwise_singleton _ _, ?_⟩
    rintro e he e' - rfl
    exact absurd he hopen.1
  · intro hreads
    have hold := h.counted hreads
    simpa [due, hp, Queue.items_of_sendToBack hq] using hold

/-- A vertical sync comes, with no interrupt of the DMA pending. -/
theorem Paced.synced {q : Queue (c.dma.dmaHalfBufferCnt - 1) CamEvent} (h : Paced d)
    (hserved : d.eofPending = false) (hq : d.eventQueue.sendToBack .vsync = some q) :
    Paced { d with eventQueue := q } := by
  refine ⟨?_, fun _ => hserved, fun hc => ?_, h.stopped, h.rewound, ?_, h.ahead⟩
  · rw [Queue.items_of_sendToBack hq]
    refine List.pairwise_append.mpr ⟨h.order, List.pairwise_singleton _ _, ?_⟩
    intro e _ e' he' _
    exact List.mem_singleton.mp he'
  · simp [Queue.items_of_sendToBack hq, h.drained hc]
  · intro hreads
    have hold := h.counted hreads
    simpa [due, Queue.items_of_sendToBack hq] using hold

/-- `cam_task` takes an event from the queue. -/
theorem Paced.received {event : CamEvent} {q : Queue (c.dma.dmaHalfBufferCnt - 1) CamEvent}
    (h : Paced d) (hpc : d.task = .receive) (hq : d.eventQueue.receive = some (event, q)) :
    Paced { d with eventQueue := q, task := .dispatch event } := by
  have hitems := Queue.items_of_receive hq
  have horder := h.order
  rw [hitems] at horder
  obtain ⟨hlast, horder⟩ := List.pairwise_cons.mp horder
  refine ⟨horder, fun hb => h.quiet ?_, fun hc he => ?_, fun hc => (by cases hc),
    fun _ hc => (by cases hc), fun hreads => ?_,
    fun hreads => h.ahead (by simpa [hpc] using hreads)⟩
  · rw [blanking_iff] at hb ⊢
    rw [hitems]
    refine Or.inl (List.mem_cons.mpr ?_)
    rcases hb with hb | hb
    · exact Or.inr hb
    · exact Or.inl (of_decide_eq_true hb).symm
  · cases hlast _ he (of_decide_eq_true hc)
  · have hold := h.counted (by simpa [hpc] using hreads)
    cases event <;> simpa [due, hpc, hitems, Nat.add_right_comm] using hold

theorem Rule.paced (hr : Rule d a d' es) (hk : d.keepsUp a = true) (hslots : Slots d)
    (h : Paced d) : Paced d' := by
  cases hr with
  | call | enter | retry | timeout | take | verify | noEoi | handOut | takeGiveBack | give
  | giveNone =>
    exact ⟨h.order, h.quiet, h.drained, h.stopped, h.rewound, h.counted, h.ahead⟩
  -- the DMA and the interrupt handlers
  | sample => exact Rule.paced_sample hk h
  | dmaIsrLost | vsyncIsrLost => exact h.lost
  | dmaIsr hp hq => exact h.served hp hq
  | vsyncIsr hq => exact h.synced (by simpa [keepsUp] using hk) hq
  -- `cam_task` takes an event
  | receive hpc hq => exact h.received hpc hq
  -- and handles it
  | eof hpc hs =>
    refine h.move rfl id rfl (fun hc => (by cases hc)) (fun hc => (by cases hc)) ?_ fun _ => ?_
    · simp
    · refine ⟨by simp [hpc, hs], ?_, Nat.le_succ _⟩
      simp [due, hpc, copyHalfBuffer, setFrame]
      omega
  | eofFull hpc | overflow hpc | vsync hpc | stop hpc =>
    refine h.move rfl ?_ rfl ?_ ?_ ?_ ?_
    all_goals simp_all [Driver.stop, due]
  | eofNoSoi hpc | noSoi hpc | noSoiIdle hpc =>
    refine h.move rfl ?_ rfl ?_ ?_ ?_ ?_
    all_goals simp_all [Driver.stop, due, copyHalfBuffer, setFrame]
  | scanIdle hpc =>
    have hidle := hslots.idle (by rw [hpc]; rfl)
    refine h.move rfl id rfl (fun hc => (by cases hc)) ?_ ?_ ?_
    all_goals simp [hidle]
  | idleEof hpc hs | setIdle hpc =>
    refine h.move rfl id rfl (fun hc => (by cases hc)) ?_ ?_ ?_
    all_goals simp_all
  | completeFull hpc | completeJpeg hpc | complete hpc | completeSize hpc | completeEmpty hpc =>
    refine h.move rfl id rfl ?_ ?_ ?_ False.elim
    all_goals simp [hpc]
  -- a frame is closed and the next one begins
  | idleVsync hpc | sendFull hpc | send hpc | pop hpc | popNone hpc | resend hpc | resendFull hpc
  | giveBack hpc | nextFree hpc | nextBusy hpc | scanFree hpc | scanBusy hpc | scanRead hpc =>
    refine h.move rfl id rfl (fun _ => ?_) ?_ ?_ False.elim
    all_goals simp [hpc]
  | start hpc =>
    exact ⟨h.order, fun _ => rfl, fun _ => h.drained (by rw [hpc]; rfl), fun hc => (by cases hc),
      fun _ _ => rfl, False.elim, False.elim⟩
  | startedIdle hpc | startedRead hpc =>
    have hwritten := h.rewound _ hpc
    have hc : d.task.Closes = true := by rw [hpc]; rfl
    have hquiet := h.quiet (blanking_iff.mpr (.inr hc))
    have hdrained := List.count_eq_zero.mpr (h.drained hc)
    refine ⟨h.order, fun _ => hquiet, fun hc => (by cases hc),
      fun hc => (by cases hc), fun _ hc => (by cases hc), fun _ => ?_, fun _ => ?_⟩
    · simp [due, setFrame, hquiet, hdrained]
    · show d.dmaBuffer.written ≤ _
      rw [hwritten]
      exact Nat.zero_le _

/-! ## Every run -/

theorem givesHeld_of_keepsUp (h : d.keepsUp a = true) : d.GivesHeld a := by
  cases a with
  | give => exact givesHeld_iff.mp h
  | _ => trivial

theorem DriverRun.paced {buf : Fin c.frameCnt → ℕ → UInt8} {cells : ℕ → DmaElem}
    {tr : List (DriverEvent c.frameCnt)} (h : DriverRun keepsUp (init c buf cells) tr d) :
    Paced d := by
  refine h.invariant_of (J := fun _ d => Slots d) (I := fun _ d => Paced d)
    (fun h => DriverRun.slots (fun _ _ => givesHeld_of_keepsUp) h) ?_ ?_
  · refine ⟨.nil, fun _ => rfl, fun hc => (by cases hc), fun hc => (by cases hc),
      fun _ hc => (by cases hc), fun hc => (by cases hc), fun hc => (by cases hc)⟩
  · intro tr d a d' es hslots hpaced hk hs
    exact (Rule.of_step hs).paced hk hslots hpaced

end Driver
end Esp32Eye
