import Esp32Eye.Proof.Lending

/-!
# Which frames are dropped

With `CAMERA_GRAB_WHEN_EMPTY` the frame queue has room for every frame there is, so `cam_task` never
finds it full and the branches that pop a frame to make room are not reached. What is left is
`cam_take`, which makes a frame free again when it finds no end marker in it. So the frames that
went on the queue are all accounted for: handed out, on their way, or without an end. In either mode
the second `xQueueSend`, behind the pop, always finds room: nobody else sends. Which of the frames
that `cam_task` closes do not go on the queue is `newest_dropped_only_if_drained`.
-/

namespace Esp32Eye

open Lib

namespace DriverEvent

variable {n : ℕ}

end DriverEvent

/-- `cam_task` is making room in the queue. -/
@[simp] def CamTaskPc.makesRoom {n : ℕ} : CamTaskPc n → Bool
  | .pop => true
  | .resend _ => true
  | .giveBack _ => true
  | _ => false

namespace Driver

variable {c : CamConfig} {d d' : Driver c} {a : DriverAction}
  {es tr : List (DriverEvent c.frameCnt)} {x : Fin c.frameCnt}

/-- The frame that was popped has left room, and it is another one. -/
structure Room (d : Driver c) : Prop where
  room : (∃ fb2, d.task = .resend fb2) → d.frameBufferQueue.items.length < c.frameBufferQueueLen
  other : ∀ fb2, d.task = .giveBack fb2 → fb2 ≠ d.framePos

theorem Rule.room (hr : Rule d a d' es) (hslots : Slots d) (h : Room d) : Room d' := by
  cases hr with
  | pop hpc hq =>
    refine ⟨fun _ => ?_, fun _ ho => by cases ho⟩
    have hle := d.frameBufferQueue.bound
    rw [Queue.items_of_receive hq] at hle
    exact hle
  | take hpc hq =>
    refine ⟨fun ho => ?_, h.other⟩
    have hlt := h.room ho
    rw [Queue.items_of_receive hq, List.length_cons] at hlt
    exact Nat.lt_of_succ_lt hlt
  | resend hpc hq =>
    refine ⟨fun ho => (by rcases ho with ⟨_, ⟨⟩⟩), fun fb2 ho => ?_⟩
    cases ho
    rename_i fb2 _
    have hnd := hslots.accounted.nodup
    simp only [busy, hpc, CamTaskPc.held, List.append_assoc] at hnd
    have hpair := (List.nodup_append.mp (hnd.of_append_right.of_append_right)).1
    show fb2 ≠ d.framePos
    exact fun he => (List.nodup_cons.mp hpair).1 (he ▸ List.mem_singleton_self fb2)
  | resendFull hpc hq =>
    have hsome := Queue.sendToBack_isSome (a := d.framePos) (h.room ⟨_, hpc⟩)
    rw [hq] at hsome
    cases hsome
  | sample | dmaIsr | dmaIsrLost | vsyncIsr | vsyncIsrLost | call | enter | retry | timeout
  | verify | noEoi | handOut | takeGiveBack | give | giveNone => exact ⟨h.room, h.other⟩
  | _ => exact ⟨fun ho => (by rcases ho with ⟨_, ⟨⟩⟩), fun _ ho => by cases ho⟩

/-- There is room for the frame that is sent, since each frame is on the queue at most once. -/
theorem Slots.room (h : Slots d) (hlen : c.frameBufferQueueLen = c.frameCnt)
    (hpc : d.task = .send) : (d.frameBufferQueue.sendToBack d.framePos).isSome = true := by
  refine Queue.sendToBack_isSome ?_
  have hle := h.accounted.length_le
  simp only [busy, hpc, CamTaskPc.held, List.length_append, List.length_singleton] at hle
  omega

theorem Rule.makesRoom (hr : Rule d a d' es) (hslots : Slots d)
    (hlen : c.frameBufferQueueLen = c.frameCnt) (h : d.task.makesRoom = false) :
    d'.task.makesRoom = false := by
  cases hr with
  | sendFull hpc hq =>
    have hsome := hslots.room hlen hpc
    rw [hq] at hsome
    cases hsome
  | pop hpc | resend hpc | resendFull hpc =>
    rw [hpc] at h
    cases h
  | sample | dmaIsr | dmaIsrLost | vsyncIsr | vsyncIsrLost | call | enter | retry | timeout
  | take | verify | noEoi | handOut | takeGiveBack | give | giveNone => exact h
  | _ => rfl

theorem Rule.discarded (hr : Rule d a d' es) (he : .discarded x ∈ es) :
    d.task.makesRoom = true ∨ ∃ timeout start, d.take = .giveBack x timeout start := by
  cases hr with
  | popNone hpc | resendFull hpc | giveBack hpc => exact Or.inl (by rw [hpc]; rfl)
  | takeGiveBack hpc =>
    cases List.mem_singleton.mp he
    exact Or.inr ⟨_, _, hpc⟩
  | _ => simp [Driver.copied] at he

/-! ## Every run -/

section

variable {p : Driver c → DriverAction → Bool} {buf : Fin c.frameCnt → ℕ → UInt8}
  {cells : ℕ → DmaElem}

theorem DriverRun.makesRoom (hp : ∀ d a, p d a = true → d.GivesHeld a)
    (hlen : c.frameBufferQueueLen = c.frameCnt) (h : DriverRun p (init c buf cells) tr d) :
    d.task.makesRoom = false := by
  refine h.invariant_of (J := fun _ d => Slots d) (I := fun _ d => d.task.makesRoom = false)
    (fun h => DriverRun.slots hp h) rfl ?_
  intro tr d a d' es hslots hm _ hs
  exact (Rule.of_step hs).makesRoom hslots hlen hm

theorem DriverRun.room (hp : ∀ d a, p d a = true → d.GivesHeld a)
    (h : DriverRun p (init c buf cells) tr d) : Room d := by
  refine h.invariant_of (J := fun _ d => Slots d) (I := fun _ d => Room d)
    (fun h => DriverRun.slots hp h)
    ⟨fun ho => (by rcases ho with ⟨_, ⟨⟩⟩), fun _ ho => by cases ho⟩ ?_
  intro tr d a d' es hslots hroom _ hs
  exact (Rule.of_step hs).room hslots hroom

end

/-- A frame that is sent goes on the queue, unless the queue is full. -/
theorem Rule.sent (hr : Rule d .camTask d' es) (hpc : d.task = .send) :
    .queued d.framePos ∈ es ∨
      d'.task = .pop ∧ d.frameBufferQueue.items.length = c.frameBufferQueueLen := by
  cases hr with
  | send => exact Or.inl List.mem_cons_self
  | sendFull _ hq =>
    refine Or.inr ⟨rfl, le_antisymm d.frameBufferQueue.bound (not_lt.mp fun hlt => ?_)⟩
    have hsome := Queue.sendToBack_isSome (a := d.framePos) hlt
    rw [hq] at hsome
    cases hsome
  | _ => simp_all

end Driver
end Esp32Eye
