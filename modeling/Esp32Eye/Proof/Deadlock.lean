import Esp32Eye.Proof.Mutex

/-!
# No deadlock

`Mutex.lean` says that the owner of the mutex is inside a critical section, where every statement
can be executed. Here it is shown that each of the other things a frame waits for comes: whichever
of the five places it is in, `frame_moves` names a task that can take a step, following the frame
towards the driver and, where the send task waits for the mutex, turning to its owner.
-/

namespace Esp32Eye

open Lib

namespace Pipeline

variable {p p' : Pipeline} {n : Network} {m m' : Option Task} {a : PipelineAction}
  {es : List PipelineEvent}

/-- From its check of the produce queue until it has sent, the capture task finds that queue
    empty: nobody else puts anything on it. -/
def ProduceEmpty (p : Pipeline) : Prop :=
  (∃ start, p.capture = .fbGet start) ∨ (∃ start fb, p.capture = .enqueue start fb) →
    p.imageProduceQueue.items = []

theorem Rule.produceEmpty (hr : Rule p n m a m' p' es) (h : ProduceEmpty p) :
    ProduceEmpty p' := by
  cases hr with
  | check hpc hq => exact fun _ => List.eq_nil_of_length_eq_zero hq
  | fbGet hpc => exact fun _ => h (Or.inl ⟨_, hpc⟩)
  | consume hpc hq =>
    intro hcap
    have := h hcap
    rw [Queue.items_of_receive hq] at this
    cases this
  | wait | skip | fbNone | produce | log | delay =>
    rintro (⟨_, hcap⟩ | ⟨_, _, hcap⟩) <;> cases hcap
  | start | take | send | finish | recycle | collect | fbReturn => exact h

end Pipeline

theorem PipelineRun.produceEmpty {C : Pipeline → PipelineAction → Prop} {b : System.Boot}
    {tr : List PipelineEvent} {p : Pipeline}
    (h : PipelineRun C (System.appRun b).pipeline tr p) : p.ProduceEmpty := by
  refine h.invariant (I := fun _ p => p.ProduceEmpty) ?_ ?_
  · rintro (⟨_, hcap⟩ | ⟨_, _, hcap⟩) <;> cases hcap
  · intro tr p a p' es hp hc hs
    obtain ⟨m, n, m', hs⟩ := hs
    exact (Pipeline.Rule.of_step hs).produceEmpty hp

namespace System

/-- Task `t` can take its next step, with some value for what its call returns. -/
def Enabled (s : System) (t : Task) : Prop :=
  ∃ a, a.task = some t ∧ (s.step a).isSome = true

section

variable {s : System} {t : Task}

theorem enabled_network {a : NetworkAction} {m : Option Task} {n : Network}
    {es : List NetworkEvent} (ht : Action.task (.network a) = some t)
    (hr : s.network.Rule s.mutex a m n es) : s.Enabled t := by
  refine ⟨.network a, ht, ?_⟩
  simp [step, hr.step]

theorem enabled_pipeline {a : PipelineAction} {m : Option Task} {p : Pipeline}
    {es : List PipelineEvent} (ht : Action.task (.pipeline a) = some t)
    (hr : Pipeline.Rule s.pipeline s.network s.mutex a m p es) : s.Enabled t := by
  refine ⟨.pipeline a, ht, ?_⟩
  simp [step, hr.step]

/-! ## The owner of the mutex -/

theorem enabled_accept (h : s.network.accept.holds = true) : s.Enabled .acceptNewClients := by
  cases hpc : s.network.accept with
  | capacity =>
    by_cases hc : s.network.server.numActiveConnections ≥ maxConnections
    · exact enabled_network rfl (.full hpc hc)
    · exact enabled_network rfl (.room hpc (lt_of_not_ge hc))
  | register fd addr =>
    cases hi : s.network.server.firstInactive with
    | none => exact enabled_network rfl (.registerFull hpc hi)
    | some i => exact enabled_network rfl (.register hpc hi)
  | _ => rw [hpc] at h; cases h

/-- A readable slot of the scan has its `recv` return. -/
theorem enabled_request (h : s.network.request.holds = true) : s.Enabled .handleRequests := by
  cases hpc : s.network.request with
  | snapshot => exact enabled_network rfl (.snapshot hpc)
  | scan fds k requests =>
    by_cases hk : k < maxConnections
    · cases hread : s.network.readable fds ⟨k, hk⟩ with
      | false => exact enabled_network rfl (.scanSkip (i := ⟨k, hk⟩) hpc hread)
      | true =>
        exact enabled_network (a := .request (.received .error)) rfl
          (.scanReceived (i := ⟨k, hk⟩) hpc hread)
    · exact enabled_network rfl (.scanDone hpc (not_lt.mp hk))
  | update => exact enabled_network rfl (.update hpc)
  | count => exact enabled_network rfl (.count hpc)
  | interest => exact enabled_network rfl (.interest hpc)
  | _ => rw [hpc] at h; cases h

theorem enabled_send (h : s.pipeline.send.holds = true) : s.Enabled .sendCameraImage := by
  cases hpc : s.pipeline.send with
  | send fb start =>
    exact enabled_pipeline (a := .send (.sendmsg fun _ => 0)) rfl (.send hpc)
  | _ => rw [hpc] at h; cases h

theorem enabled_of_holds (h : s.holds t = true) : s.Enabled t := by
  cases t with
  | acceptNewClients => exact enabled_accept h
  | handleRequests => exact enabled_request h
  | sendCameraImage => exact enabled_send h
  | sendBroadcasts | captureCameraImage | recycleCameraImage => cases h

/-! ## The tasks of a frame -/

/-- One of the tasks a frame passes, or the owner of the mutex, can take a step. -/
def FrameMoves (s : System) : Prop :=
  ∃ t, (t = .captureCameraImage ∨ t = .sendCameraImage ∨ t = .recycleCameraImage ∨
    s.mutex = some t) ∧ s.Enabled t

theorem moves_of_recycle
    (h : s.pipeline.recycle ≠ .receive ∨ s.pipeline.imageRecycleQueue.items ≠ []) :
    s.FrameMoves := by
  refine ⟨.recycleCameraImage, by simp, ?_⟩
  cases hpc : s.pipeline.recycle with
  | fbReturn fb => exact enabled_pipeline rfl (.fbReturn hpc)
  | receive =>
    have hq := Queue.receive_isSome (h.resolve_left (not_not.mpr hpc))
    obtain ⟨⟨fb, q⟩, hq⟩ := Option.isSome_iff_exists.mp hq
    exact enabled_pipeline rfl (.collect hpc hq)

theorem moves_of_send (hx : Exact s.mutex s.holds)
    (h : s.pipeline.send ≠ .receive ∨ s.pipeline.imageProduceQueue.items ≠ []) :
    s.FrameMoves := by
  have hsend : s.Enabled .sendCameraImage → s.FrameMoves := fun he =>
    ⟨.sendCameraImage, by simp, he⟩
  cases hpc : s.pipeline.send with
  | receive =>
    have hq := Queue.receive_isSome (h.resolve_left (not_not.mpr hpc))
    obtain ⟨⟨fb, q⟩, hq⟩ := Option.isSome_iff_exists.mp hq
    exact hsend (enabled_pipeline rfl (.consume hpc hq))
  | start fb => exact hsend (enabled_pipeline (a := .send (.clock 0)) rfl (.start hpc))
  | take fb start =>
    cases hm : s.mutex with
    | none =>
      have hr := Pipeline.Rule.take (n := s.network) hpc
      rw [← hm] at hr
      exact hsend (enabled_pipeline rfl hr)
    | some t => exact ⟨t, by simp [hm], enabled_of_holds ((hx t).mpr hm)⟩
  | send fb start => exact hsend (enabled_send (by rw [hpc]; rfl))
  | finish fb start => exact hsend (enabled_pipeline (a := .send (.clock 0)) rfl (.finish hpc))
  | enqueue fb =>
    -- a full recycle queue is the recycle task's turn
    by_cases hlen : s.pipeline.imageRecycleQueue.items.length < 1
    · obtain ⟨q, hq⟩ := Option.isSome_iff_exists.mp (Queue.sendToBack_isSome (a := fb) hlen)
      exact hsend (enabled_pipeline rfl (.recycle hpc hq))
    · refine moves_of_recycle (Or.inr fun hnil => hlen ?_)
      rw [hnil]
      exact Nat.zero_lt_one

theorem moves_of_capture {start : UInt64} {fb : CameraFb} (hp : s.pipeline.ProduceEmpty)
    (hpc : s.pipeline.capture = .enqueue start fb) : s.FrameMoves := by
  have hlen : s.pipeline.imageProduceQueue.items.length < 1 := by
    rw [hp (Or.inr ⟨start, fb, hpc⟩)]
    exact Nat.zero_lt_one
  obtain ⟨q, hq⟩ := Option.isSome_iff_exists.mp (Queue.sendToBack_isSome (a := fb) hlen)
  exact ⟨.captureCameraImage, by simp, enabled_pipeline rfl (.produce hpc hq)⟩

/-- **A frame that is out can move.** -/
theorem frame_moves {fb : CameraFb} (hx : Exact s.mutex s.holds) (hp : s.pipeline.ProduceEmpty)
    (hfb : fb ∈ s.pipeline.holders) : s.FrameMoves := by
  obtain ⟨place, hfb⟩ := Placed.mem_holders.mp hfb
  cases place with
  | recycleTask =>
    refine moves_of_recycle (Or.inl fun hpc => ?_)
    simp [Pipeline.contents, RecyclePc.held, hpc] at hfb
  | recycleQueue => exact moves_of_recycle (Or.inr (List.ne_nil_of_mem hfb))
  | sendTask =>
    refine moves_of_send hx (Or.inl fun hpc => ?_)
    simp [Pipeline.contents, SendPc.done, SendPc.unsent, hpc] at hfb
  | produceQueue => exact moves_of_send hx (Or.inr (List.ne_nil_of_mem hfb))
  | captureTask =>
    cases hpc : s.pipeline.capture with
    | enqueue start fb => exact moves_of_capture hp hpc
    | _ => simp [Pipeline.contents, CapturePc.held, hpc] at hfb

end

/-- **No deadlock.** In every state the tasks reach: the mutex has at most one owner, the task
    that is inside a critical section, and its next statement neither takes the mutex nor blocks;
    the takes of a task are its gives and the one that is open, and none is open in the body of a
    task; the capture task never finds the produce queue full; and while a buffer of the driver is
    out, one of the tasks it has to pass or the owner of the mutex can take its next step. -/
theorem no_deadlock (p : System → Action → Bool) (b : Boot) (tr : List Event) (s : System)
    (hrun : SystemRun p (appRun b) tr s) :
    (∀ t, s.holds t = true ↔ s.mutex = some t) ∧
    (∀ t, s.mutex = some t → s.call t = .give ∨ s.call t = .other) ∧
    (∀ calls,
      Run (Observing (StepOf step) mutexCalls) (fun s a => p s a = true) (appRun b) calls s →
        ∀ t, calls.count (.take t) = calls.count (.give t) + (s.holds t).toNat ∧
          (s.inBody t = true → calls.count (.take t) = calls.count (.give t))) ∧
    (∀ a s' es t, s.step a = some (s', es) → a.task = some t →
      MutexStep t s.mutex (s.holds t) ((s.call t).mutexCalls t) s'.mutex (s'.holds t)) ∧
    (∀ start fb, s.pipeline.capture = .enqueue start fb →
      (s.pipeline.imageProduceQueue.sendToBack fb).isSome = true) ∧
    (s.pipeline.camera.outstanding ≠ [] →
      ∃ t, (t = .captureCameraImage ∨ t = .sendCameraImage ∨ t = .recycleCameraImage ∨
        s.mutex = some t) ∧ ∃ a, a.task = some t ∧ (s.step a).isSome = true) := by
  have hx := SystemRun.exact hrun
  have hpipe := hrun.pipeline (C := fun _ _ => True) fun _ _ _ => trivial
  have hempty := hpipe.produceEmpty
  refine ⟨hx, fun t ht => call_of_holds ((hx t).mpr ht), fun calls hcalls t => ?_,
    fun a s' es t hs ht => ?_, fun start fb hpc => ?_, fun hout => ?_⟩
  · have hb := balanced_of_observing hcalls t
    refine ⟨hb, fun hbody => ?_⟩
    rw [hb, not_holds_of_inBody hbody]
    rfl
  · exact (step_mutex hs).of_task ht
  · apply Queue.sendToBack_isSome
    rw [hempty (Or.inr ⟨start, fb, hpc⟩)]
    exact Nat.zero_lt_one
  · have hperm := hpipe.outstanding_perm
    have hheld : s.pipeline.holders ≠ [] := by
      intro hnil
      rw [hnil] at hperm
      exact hout (List.Perm.eq_nil hperm)
    obtain ⟨fb, hfb⟩ := List.exists_mem_of_ne_nil _ hheld
    exact frame_moves hx hempty hfb

/-- A frame is on its way and the send task waits for the mutex, which the request task has. -/
theorem no_deadlock_streaming :
    ∃ tr s, SystemRun (fun _ _ => true) (appRun started) tr s ∧
      s.mutex = some .handleRequests ∧ s.call .sendCameraImage = .take ∧
      (∃ t, (t = .captureCameraImage ∨ t = .sendCameraImage ∨ t = .recycleCameraImage ∨
        s.mutex = some t) ∧ ∃ a, a.task = some t ∧ (s.step a).isSome = true) := by
  obtain ⟨tr, s, hrun, hq⟩ := reaches (p := fun _ _ => true) (b := started)
    (a := watching ++ captureFrame 100 ++ sendFrame.take 2 ++ requestSteps 2)
    (q := fun s _ => decide (s.mutex = some .handleRequests) &&
      decide (s.call .sendCameraImage = .take) &&
      decide (s.pipeline.camera.outstanding ≠ [])) (by decide +kernel)
  simp only [Bool.and_eq_true, decide_eq_true_eq] at hq
  exact ⟨tr, s, hrun, hq.1.1, hq.1.2, (no_deadlock _ started tr s hrun).2.2.2.2.2 hq.2⟩

end System
end Esp32Eye
