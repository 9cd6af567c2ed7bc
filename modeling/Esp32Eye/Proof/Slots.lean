import Esp32Eye.Lib.Pool
import Esp32Eye.Proof.DriverRules

/-!
# Who has which frame

The flag `en` of a frame is set when `cam_task` may fill it. Four parties can have a frame whose
flag is clear: `cam_task` between closing the frame and putting it on the queue, the queue,
`cam_take`, and the application. `busy` is what they have; `Slots` says that the flags and `busy`
are accounted (`Lib.Accounted`) and that `cam_task` only ever fills a frame whose flag is set. The
one thing asked of the application is that it gives back what it was handed and nothing else.
-/

namespace Esp32Eye

open Lib

/-- The frames `cam_task` has, besides the one it fills. -/
@[simp] def CamTaskPc.held {n : ℕ} (framePos : Fin n) : CamTaskPc n → List (Fin n)
  | .send => [framePos]
  | .pop => [framePos]
  | .resend fb2 => [framePos, fb2]
  | .giveBack fb2 => [fb2]
  | _ => []

/-- `cam_task` fills the frame `framePos`, or is about to. -/
@[simp] def CamTaskPc.Fills {n : ℕ} (state : CamState) : CamTaskPc n → Prop
  | .receive => state = .readBuf
  | .dispatch _ => state = .readBuf
  | .send => False
  | .pop => False
  | .resend _ => False
  | .giveBack _ => False
  | .nextFrame _ => False
  | .scan _ _ => False
  | .setIdle => False
  | _ => True

/-- The branch from which `cam_task` is in `cam_start_frame`. -/
@[simp] def CamTaskPc.origin {n : ℕ} : CamTaskPc n → Option CamState
  | .nextFrame origin => some origin
  | .scan origin _ => some origin
  | .start origin => some origin
  | .started origin => some origin
  | _ => none

/-- The frame `cam_take` has. -/
@[simp] def TakePc.held {n : ℕ} : TakePc n → List (Fin n)
  | .verify x _ _ => [x]
  | .giveBack x _ _ => [x]
  | _ => []

theorem CamTaskPc.Fills.of_idle {n : ℕ} {state : CamState} {task : CamTaskPc n}
    (h : task.Fills .idle) : task.Fills state := by
  cases task <;> first | exact h | cases h

namespace Driver

variable {c : CamConfig} {d d' : Driver c} {a : DriverAction}
  {es : List (DriverEvent c.frameCnt)}

/-- The frames that are not free to be filled. -/
def busy (d : Driver c) : List (Fin c.frameCnt) :=
  d.take.held ++ d.frameBufferQueue.items ++ d.task.held d.framePos ++ d.out

theorem mem_busy {x : Fin c.frameCnt} :
    x ∈ d.busy ↔ x ∈ d.take.held ∨ x ∈ d.frameBufferQueue.items ∨
      x ∈ d.task.held d.framePos ∨ x ∈ d.out := by
  simp only [busy, List.mem_append, or_assoc]

structure Slots (d : Driver c) : Prop where
  accounted : Accounted (fun x => (d.frames x).en) d.busy
  filling : d.task.Fills d.state → (d.frames d.framePos).en = true
  idle : d.task.origin = some .idle → d.state = .idle

theorem slots_init {buf : Fin c.frameCnt → ℕ → UInt8} {cells : ℕ → DmaElem} :
    Slots (init c buf cells) :=
  ⟨.all_free fun _ => rfl, fun _ => rfl, fun _ => rfl⟩

/-- What the application is asked to keep to, as a condition on the step. -/
def GivesHeld (d : Driver c) : DriverAction → Prop
  | .give address => ∃ x ∈ d.out, x.val = address
  | _ => True

theorem givesHeld_iff : d.givesHeld a = true ↔ d.GivesHeld a := by
  cases a <;> simp [givesHeld, GivesHeld]

/-! ## One step -/

/-- A step that leaves all flags alone and moves frames between holders at most. -/
theorem Slots.move (h : Slots d) (hb : d'.busy.Perm d.busy)
    (hf : ∀ x, (d'.frames x).en = (d.frames x).en)
    (hfill : d'.task.Fills d'.state → (d.frames d'.framePos).en = true)
    (hidle : d'.task.origin = some .idle → d'.state = .idle) : Slots d' :=
  ⟨h.accounted.perm hb hf, fun hx => (hf _).trans (hfill hx), hidle⟩

/-- Closing the frame that was filled. -/
theorem Slots.close (h : Slots d) (hpc : d.task = .complete) (hf : ∀ y, (d'.frames y).en =
    if y = d.framePos then false else (d.frames y).en) (htask : d'.task = .send)
    (hpos : d'.framePos = d.framePos) (hq : d'.frameBufferQueue = d.frameBufferQueue)
    (htake : d'.take = d.take) (hout : d'.out = d.out) : Slots d' := by
  refine ⟨h.accounted.take (h.filling (by rw [hpc]; trivial)) ?_ hf, ?_, ?_⟩
  · simp only [busy, htask, hpos, hq, htake, hout, hpc, CamTaskPc.held, List.append_nil,
      List.append_assoc, List.singleton_append]
    rw [← List.append_assoc, ← List.append_assoc]
    exact List.perm_middle
  · rw [htask]; exact False.elim
  · rw [htask]; exact fun ho => by cases ho

/-- Making a frame free, by the one who has it. -/
theorem Slots.release (h : Slots d) {x : Fin c.frameCnt} (hb : d.busy.Perm (x :: d'.busy))
    (hf : ∀ y, (d'.frames y).en = if y = x then true else (d.frames y).en)
    (hfill : d'.task.Fills d'.state → d.task.Fills d.state ∧ d'.framePos = d.framePos)
    (hidle : d'.task.origin = some .idle → d'.state = .idle) : Slots d' := by
  refine ⟨h.accounted.release hb hf, fun hx => ?_, hidle⟩
  obtain ⟨hx, hpos⟩ := hfill hx
  rw [hf, hpos, h.filling hx, ite_self]

theorem Rule.slots (hr : Rule d a d' es) (hg : d.GivesHeld a) (h : Slots d) : Slots d' := by
  have hidle := h.idle
  cases hr with
  -- the DMA and the interrupt handlers
  | sample | dmaIsr | vsyncIsr | giveNone => exact ⟨h.accounted, h.filling, h.idle⟩
  | dmaIsrLost | vsyncIsrLost => exact ⟨h.accounted, fun hf => h.filling hf.of_idle, fun _ => rfl⟩
  -- `cam_task` goes on with the frame it fills, or without one
  | receive hpc | idleVsync hpc | idleEof hpc | eofFull hpc | vsync hpc | overflow hpc | noSoi hpc
  | noSoiIdle hpc | stop hpc | completeEmpty hpc | sendFull hpc | nextBusy hpc | scanBusy hpc
  | scanIdle hpc | scanRead hpc | start hpc | setIdle hpc =>
    refine h.move (by simp [busy, Driver.stop, Driver.start, hpc]) (fun _ => rfl)
      (fun hf => h.filling ?_) ?_
    all_goals simp_all [Driver.stop, Driver.start]
  | nextFree hpc hen | scanFree hpc hen =>
    exact h.move (by simp [busy, hpc]) (fun _ => rfl) (fun _ => hen) (by simpa [hpc] using hidle)
  | eofNoSoi hpc | eof hpc =>
    refine h.move (by simp [busy, hpc, copyHalfBuffer, setFrame]) (fun y => copyHalfBuffer_en)
      (fun hf => h.filling ?_) ?_
    all_goals simp_all
  | startedIdle hpc | startedRead hpc =>
    refine h.move (by simp [busy, hpc, setFrame]) (fun y => setFrame_en rfl)
      (fun hf => h.filling ?_) ?_
    all_goals simp_all
  | completeSize hpc =>
    refine h.move (by simp [busy, hpc, setEn, setFrame]) (fun y => ?_) False.elim
      (fun ho => by cases ho)
    have hen := h.filling (by rw [hpc]; trivial)
    rw [setEn_en]
    split
    · rename_i hy; rw [hy, hen]
    · rfl
  -- a frame is closed
  | completeFull hpc | complete hpc => exact h.close hpc (fun _ => setEn_en) rfl rfl rfl rfl rfl
  | completeJpeg hpc =>
    exact h.close hpc (fun y => setEn_en.trans (by rw [copyHalfBuffer_en])) rfl rfl rfl rfl rfl
  -- and goes through the queue
  | send hpc hq =>
    refine h.move ?_ (fun _ => rfl) False.elim (fun ho => by cases ho)
    simp [busy, hpc, Queue.items_of_sendToBack hq]
  | pop hpc hq =>
    refine h.move ?_ (fun _ => rfl) False.elim (fun ho => by cases ho)
    rw [List.perm_iff_count]
    intro y
    simp [busy, hpc, Queue.items_of_receive hq, List.count_cons]
    omega
  | resend hpc hq =>
    refine h.move ?_ (fun _ => rfl) False.elim (fun ho => by cases ho)
    simp [busy, hpc, Queue.items_of_sendToBack hq]
  | take hpc hq =>
    refine h.move ?_ (fun _ => rfl) h.filling h.idle
    simp [busy, hpc, Queue.items_of_receive hq]
  | verify hpc =>
    refine h.move ?_ (fun y => setFrame_en rfl) h.filling h.idle
    rw [List.perm_iff_count]
    intro y
    simp [busy, setFrame, hpc, List.count_cons]
    omega
  | handOut hpc =>
    refine h.move ?_ (fun _ => rfl) h.filling h.idle
    rw [List.perm_iff_count]
    intro y
    simp [busy, hpc, List.count_cons]
    omega
  | call hpc | enter hpc | retry hpc | timeout hpc | noEoi hpc =>
    exact h.move (by simp [busy, hpc]) (fun _ => rfl) h.filling h.idle
  -- a frame is made free
  | popNone hpc | resendFull hpc | giveBack hpc =>
    refine h.release ?_ (fun _ => setEn_en) False.elim (fun ho => by cases ho)
    rw [List.perm_iff_count]
    intro y
    simp [busy, setEn, setFrame, hpc, List.count_cons]
    omega
  | takeGiveBack hpc =>
    refine h.release ?_ (fun _ => setEn_en) (fun hf => ⟨hf, rfl⟩) h.idle
    simp [busy, setEn, setFrame, hpc]
  | give =>
    obtain ⟨x, hx, he⟩ := hg
    obtain rfl := Fin.ext he
    refine h.release ?_ (fun _ => setEn_en) (fun hf => ⟨hf, rfl⟩) h.idle
    exact ((List.perm_cons_erase hx).append_left _).trans List.perm_middle

/-! ## Every run -/

/-- In every run in which the application gives back only what it has. -/
theorem DriverRun.slots {p : Driver c → DriverAction → Bool} {buf : Fin c.frameCnt → ℕ → UInt8}
    {cells : ℕ → DmaElem} {tr : List (DriverEvent c.frameCnt)}
    (hp : ∀ d a, p d a = true → d.GivesHeld a) (h : DriverRun p (init c buf cells) tr d) :
    Slots d := by
  refine h.invariant (I := fun _ d => Slots d) slots_init ?_
  intro tr d a d' es hslots hpa hs
  exact (Rule.of_step hs).slots (hp _ _ hpa) hslots

end Driver
end Esp32Eye
