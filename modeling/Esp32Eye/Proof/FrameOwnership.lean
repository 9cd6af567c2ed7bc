import Esp32Eye.Proof.Frames

/-!
# Who owns a frame when it is read

The owner of a buffer is read off the trace: it moves to the capture task when the driver hands the
buffer out, to a queue and from the queue to the receiving task, and back to the driver. A place of
`Frames.lean` and the owner of what is in it agree (`Held`), since the frames held are in different
buffers and each transfer concerns one of them.

The send task reads a frame that is in its place, so it owns it. The capture task logs `fb->len`
after it has put the pointer on the queue, and from then on the frame is never its own.
-/

namespace Esp32Eye

open Lib

inductive Owner
  | driver
  | task (t : Task)
  | queue (q : ImageQueue)
  deriving DecidableEq, Repr

/-- The task that receives from a queue. -/
def ImageQueue.receiver : ImageQueue → Task
  | .produce => .sendCameraImage
  | .recycle => .recycleCameraImage

/-- The frame whose owner an event changes, and the new owner. -/
def transfer : PipelineEvent → Option (CameraFb × Owner)
  | .fbGet fb => some (fb, .task .captureCameraImage)
  | .sendToBack q fb => some (fb, .queue q)
  | .receive q fb => some (fb, .task q.receiver)
  | .fbReturn fb => some (fb, .driver)
  | _ => none

/-- Who owns the frame in the buffer at `address`. -/
def owner (address : ℕ) : List PipelineEvent → Owner
  | [] => .driver
  | e :: tr =>
      match transfer e with
      | some (fb, o) => if fb.address = address then o else owner address tr
      | none => owner address tr

/-- Every read was made by the task that owned the frame at that moment. -/
def ownReads : List PipelineEvent → Bool
  | [] => true
  | .read t fb _ :: tr => decide (owner fb.address tr = .task t) && ownReads tr
  | _ :: tr => ownReads tr

/-- Who owns what is in a place. -/
def Place.owner : Place → Owner
  | .captureTask => .task .captureCameraImage
  | .produceQueue => .queue .produce
  | .sendTask => .task .sendCameraImage
  | .recycleQueue => .queue .recycle
  | .recycleTask => .task .recycleCameraImage

section

variable {a : ℕ} {e : PipelineEvent} {fb : CameraFb} {o : Owner} {tr : List PipelineEvent}

theorem owner_transfer (h : transfer e = some (fb, o)) : owner fb.address (e :: tr) = o := by
  unfold owner
  rw [h]
  exact if_pos rfl

theorem owner_other (h : transfer e = some (fb, o)) (ha : fb.address ≠ a) :
    owner a (e :: tr) = owner a tr := by
  rw [owner, h]
  exact if_neg ha

theorem owner_quiet (h : transfer e = none) : owner a (e :: tr) = owner a tr := by
  rw [owner, h]

end

structure Held (tr : List PipelineEvent) (p : Pipeline) : Prop where
  holds : ∀ place, ∀ fb ∈ p.contents place, owner fb.address tr = place.owner
  capture : ∀ a, owner a tr = .task .captureCameraImage →
    ∃ fb ∈ p.contents .captureTask, fb.address = a

/-- The frames held are told apart by their buffers. -/
theorem Outstanding.eq_of_address {p : Pipeline} (h : Outstanding p) {fb fb' : CameraFb}
    (hfb : fb ∈ p.holders) (hfb' : fb' ∈ p.holders) (ha : fb.address = fb'.address) :
    fb = fb' := by
  have hn : (p.holders.map CameraFb.address).Nodup := h.held.nodup_iff.mp h.distinct
  exact List.inj_on_of_nodup_map hn hfb hfb' ha

namespace Held

variable {p p' : Pipeline} {tr tr' : List PipelineEvent} {e : PipelineEvent} {fb : CameraFb}

/-- A step that moves no frame and transfers none. -/
theorem same (h : Held tr p) (he : transfer e = none)
    (hc : ∀ place, p'.contents place = p.contents place) : Held (e :: tr) p' := by
  refine ⟨?_, ?_⟩
  · intro place fb hfb
    rw [owner_quiet he]
    exact h.holds place fb (hc place ▸ hfb)
  · intro a ha
    rw [owner_quiet he] at ha
    rw [hc]
    exact h.capture a ha

/-- A step that moves `fb` to `place`. -/
theorem move (h : Held tr p) (place : Place) (hp : Placed tr' p') (hout : Outstanding p')
    (he : transfer e = some (fb, place.owner)) (hfb : fb ∈ p'.contents place)
    (hother : ∀ q, ∀ fb' ∈ p'.contents q, fb' ≠ fb → fb' ∈ p.contents q)
    (hcap : ∀ fb' ∈ p.contents .captureTask, fb' ≠ fb → fb' ∈ p'.contents .captureTask) :
    Held (e :: tr) p' := by
  have hheld : fb ∈ p'.holders := Placed.mem_holders.mpr ⟨place, hfb⟩
  refine ⟨?_, ?_⟩
  · intro q fb' hfb'
    have hheld' : fb' ∈ p'.holders := Placed.mem_holders.mpr ⟨q, hfb'⟩
    by_cases heq : fb' = fb
    · rw [heq] at hfb' ⊢
      rw [owner_transfer he, hp.place_unique hfb' hfb]
    · have hne : fb.address ≠ fb'.address := by
        intro ha
        exact heq (hout.eq_of_address hheld hheld' ha).symm
      rw [owner_other he hne]
      exact h.holds q fb' (hother q fb' hfb' heq)
  · intro a ha
    by_cases hfa : fb.address = a
    · rw [← hfa, owner_transfer he] at ha
      cases place with
      | captureTask => exact ⟨fb, hfb, hfa⟩
      | _ => simp [Place.owner] at ha
    · rw [owner_other he hfa] at ha
      obtain ⟨fb', hfb', ha'⟩ := h.capture a ha
      refine ⟨fb', hcap fb' hfb' ?_, ha'⟩
      intro heq
      exact hfa (heq ▸ ha')

/-- A step that takes `fb` out of `place` and gives it back to the driver. -/
theorem release (h : Held tr p) (place : Place) (hp : Placed tr p) (hout : Outstanding p)
    (he : transfer e = some (fb, .driver)) (hfb : fb ∈ p.contents place)
    (hgone : fb ∉ p'.contents place)
    (hc : ∀ q, ∀ fb' ∈ p'.contents q, fb' ∈ p.contents q)
    (hcap : p'.contents .captureTask = p.contents .captureTask) : Held (e :: tr) p' := by
  refine ⟨?_, ?_⟩
  · intro q fb' hfb'
    have hfb₀ := hc q fb' hfb'
    have hheld : fb ∈ p.holders := Placed.mem_holders.mpr ⟨place, hfb⟩
    have hheld' : fb' ∈ p.holders := Placed.mem_holders.mpr ⟨q, hfb₀⟩
    have hne : fb.address ≠ fb'.address := by
      intro ha
      -- it was in one place only
      have heq := hout.eq_of_address hheld hheld' ha
      rw [← heq] at hfb' hfb₀
      rw [← hp.place_unique hfb hfb₀] at hfb'
      exact hgone hfb'
    rw [owner_other he hne]
    exact h.holds q fb' (hc q fb' hfb')
  · intro a ha
    rw [hcap]
    by_cases hfa : fb.address = a
    · rw [← hfa, owner_transfer he] at ha
      cases ha
    · rw [owner_other he hfa] at ha
      exact h.capture a ha

end Held

/-! ## One step -/

/-- What is known of the reads so far. -/
def ReadsOk (tr : List PipelineEvent) : Prop :=
  ownReads tr = true ↔ ∀ fb field, .read .captureCameraImage fb field ∉ tr

namespace Pipeline

variable {p p' : Pipeline} {n : Network} {m m' : Option Task} {a : PipelineAction}
  {tr es : List PipelineEvent}

theorem Rule.held (hr : Rule p n m a m' p' es) (hp : Placed tr p) (hp' : Placed (es ++ tr) p')
    (hout : Outstanding p) (hout' : Outstanding p') (h : Held tr p) : Held (es ++ tr) p' := by
  cases hr with
  | fbGet hpc =>
    refine h.move .captureTask hp' hout' rfl (List.mem_singleton_self _) ?_ ?_
    · intro q fb' hfb' hne
      cases q <;> simp_all [contents, CapturePc.held]
    · intro fb' hfb' _
      simp [contents, CapturePc.held, hpc] at hfb'
  | produce hpc hq =>
    refine h.move .produceQueue hp' hout' rfl ?_ ?_ ?_
    · simp [contents, Queue.items_of_sendToBack hq]
    · intro q fb' hfb' hne
      cases q <;> simp_all [contents, CapturePc.held, Queue.items_of_sendToBack hq]
    · intro fb' hfb' hne
      simp_all [contents, CapturePc.held]
  | consume hpc hq =>
    refine h.move .sendTask hp' hout' rfl ?_ ?_ fun fb' hfb' _ => hfb'
    · simp [contents, SendPc.unsent, SendPc.done]
    · intro q fb' hfb' hne
      cases q <;> simp_all [contents, SendPc.unsent, SendPc.done, Queue.items_of_receive hq]
  | recycle hpc hq =>
    refine h.move .recycleQueue hp' hout' rfl ?_ ?_ fun fb' hfb' _ => hfb'
    · simp [contents, Queue.items_of_sendToBack hq]
    · intro q fb' hfb' hne
      cases q <;> simp_all [contents, SendPc.unsent, SendPc.done, Queue.items_of_sendToBack hq]
  | collect hpc hq =>
    refine h.move .recycleTask hp' hout' rfl ?_ ?_ fun fb' hfb' _ => hfb'
    · simp [contents, RecyclePc.held]
    · intro q fb' hfb' hne
      cases q <;> simp_all [contents, RecyclePc.held, Queue.items_of_receive hq]
  | @fbReturn _ fb hpc =>
    have hfb : fb ∈ p.contents .recycleTask := by simp [contents, RecyclePc.held, hpc]
    have hc : ∀ q, ∀ fb' ∈ ({ p with
        camera := { p.camera with outstanding := p.camera.outstanding.erase fb.address }
        recycle := .receive } : Pipeline).contents q, fb' ∈ p.contents q := by
      intro q fb' hfb'
      cases q with
      | recycleTask => cases hfb'
      | _ => exact hfb'
    exact h.release .recycleTask hp hout rfl hfb List.not_mem_nil hc rfl
  | @send _ fb start result hpc =>
    have hc : ∀ place, ({ p with
        sequenceNumber := p.sequenceNumber + 1, send := .finish fb start } : Pipeline).contents place
          = p.contents place := by
      intro place
      cases place <;> simp [contents, SendPc.unsent, SendPc.done, hpc]
    exact ((h.same rfl fun _ => rfl).same rfl fun _ => rfl).same rfl hc
  | log hpc =>
    refine h.same rfl fun place => ?_
    cases place <;> simp [contents, CapturePc.held, hpc]
  | start hpc | take hpc | finish hpc =>
    refine ⟨?_, h.capture⟩
    intro place fb hfb
    refine h.holds place fb ?_
    cases place <;> simp_all [contents, SendPc.unsent, SendPc.done]
  | wait hpc | skip hpc | check hpc | fbNone hpc | delay hpc =>
    refine ⟨?_, ?_⟩
    · intro place fb hfb
      refine h.holds place fb ?_
      cases place <;> simp_all [contents, CapturePc.held]
    · intro a ha
      obtain ⟨fb, hfb, -⟩ := h.capture a ha
      simp [contents, CapturePc.held, hpc] at hfb

theorem Rule.reads (hr : Rule p n m a m' p' es) (hheld : Held tr p) (h : ReadsOk tr) :
    ReadsOk (es ++ tr) := by
  unfold ReadsOk at h ⊢
  cases hr with
  | @send _ fb start result hpc =>
    have hown : owner fb.address tr = .task .sendCameraImage :=
      hheld.holds .sendTask fb (by simp [contents, SendPc.unsent, hpc])
    simp [ownReads, owner, transfer, hown, h]
  | @log _ start now fb hpc =>
    -- at the log statement the capture task holds nothing, so it owns nothing it could read
    have hown : owner fb.address tr ≠ .task .captureCameraImage := by
      intro ho
      obtain ⟨fb', hfb', -⟩ := hheld.capture _ ho
      simp [contents, CapturePc.held, hpc] at hfb'
    constructor
    · intro hreads
      simp [ownReads, hown] at hreads
    · intro hnone
      exact absurd List.mem_cons_self (hnone fb .len)
  | fbGet | produce | consume | recycle | collect | fbReturn => simpa [ownReads] using h
  | _ => exact h

end Pipeline

/-! ## Every run -/

theorem PipelineRun.held {b : System.Boot} {p : Pipeline} {tr : List PipelineEvent}
    (h : PipelineRun Pipeline.HandsOutFresh (System.appRun b).pipeline tr p) :
    Held tr p ∧ ReadsOk tr := by
  have hall : Placed tr p ∧ Outstanding p ∧ Held tr p ∧ ReadsOk tr := by
    refine h.invariant
      (I := fun tr p => Placed tr p ∧ Outstanding p ∧ Held tr p ∧ ReadsOk tr) ?_ ?_
    · refine ⟨⟨rfl, rfl, rfl⟩, ⟨List.Perm.refl _, List.nodup_nil⟩, ⟨?_, ?_⟩, ?_⟩
      · intro place fb hfb
        cases place <;> cases hfb
      · intro a ha
        cases ha
      · simp [ReadsOk, ownReads]
    · intro tr p a p' es hi hc hs
      obtain ⟨hp, hout, hheld, hreads⟩ := hi
      obtain ⟨m, n, m', hs⟩ := hs
      have hr := Pipeline.Rule.of_step hs
      have hp' := hr.placed hp
      have hout' := hr.outstanding hc hout
      exact ⟨hp', hout', hr.held hp hp' hout hout' hheld, hr.reads hheld hreads⟩
  exact hall.2.2

/-- The step is not the log statement of the capture task. -/
def Pipeline.LogsNothing (p : Pipeline) : PipelineAction → Prop
  | .capture _ => ∀ start fb, p.capture ≠ .log start fb
  | _ => True

/-- The capture task reads nothing else. -/
theorem PipelineRun.unread {C : Pipeline → PipelineAction → Prop} {p₀ p : Pipeline}
    {tr : List PipelineEvent} (hC : ∀ p a, C p a → p.LogsNothing a)
    (h : PipelineRun C p₀ tr p) (fb : CameraFb) (field : FbField) :
    .read .captureCameraImage fb field ∉ tr := by
  refine h.invariant (I := fun tr _ => .read .captureCameraImage fb field ∉ tr)
    List.not_mem_nil ?_
  intro tr p a p' es htr hc hs
  obtain ⟨m, n, m', hs⟩ := hs
  cases Pipeline.Rule.of_step hs with
  | log hpc => exact absurd hpc (hC _ _ hc _ _)
  | _ => simpa using htr

namespace System

/-- The capture task does not come past the point where it has put the frame on the queue. -/
def logsNothing (s : System) : Action → Bool
  | .pipeline (.capture _) =>
      match s.pipeline.capture with
      | .log _ _ => false
      | _ => true
  | _ => true

theorem logsNothing_pipeline {s : System} {a : PipelineAction}
    (h : logsNothing s (.pipeline a) = true) : s.pipeline.LogsNothing a := by
  cases a with
  | capture input =>
    intro start fb hpc
    simp [logsNothing, hpc] at h
  | send | recycle => trivial

/-- **Who reads a frame.** If the driver hands out only buffers that are not outstanding, each read
    is made by the owner in every run in which the capture task does not execute its log statement.
    And in any run each read was made by the owner if and only if the capture task has made none:
    its one read comes after it has given the frame away. -/
theorem frames_read_by_owner (b : Boot) :
    (∀ tr s, SystemRun (fun s a => handsOutFresh s a && logsNothing s a) (appRun b) tr s →
      ownReads (pipelineTrace tr) = true) ∧
    ∀ tr s, SystemRun handsOutFresh (appRun b) tr s →
      (ownReads (pipelineTrace tr) = true ↔
        ∀ fb field, .read .captureCameraImage fb field ∉ pipelineTrace tr) := by
  have hiff : ∀ tr s, SystemRun handsOutFresh (appRun b) tr s → ReadsOk (pipelineTrace tr) := by
    intro tr s hrun
    have hpipe := hrun.pipeline (C := Pipeline.HandsOutFresh) fun _ _ => handsOutFresh_pipeline
    exact hpipe.held.2
  refine ⟨?_, hiff⟩
  intro tr s hrun
  have hfresh : SystemRun handsOutFresh (appRun b) tr s :=
    hrun.mono fun _ _ h => (Bool.and_eq_true _ _ |>.mp h).1
  have hquiet := hrun.pipeline (C := Pipeline.LogsNothing) fun _ _ h =>
    logsNothing_pipeline (Bool.and_eq_true _ _ |>.mp h).2
  exact (hiff tr s hfresh).mpr (hquiet.unread fun _ _ h => h)

/-- The capture task has put a frame on the queue and not logged it yet, and the frame is already
    being sent. -/
theorem frames_read_by_owner_sending :
    ∃ tr s, SystemRun (fun s a => handsOutFresh s a && logsNothing s a) (appRun started) tr s ∧
      (captured (pipelineTrace tr)).length = 1 ∧ (sent (pipelineTrace tr)).length = 1 ∧
      ownReads (pipelineTrace tr) = true := by
  obtain ⟨tr, s, hrun, hq⟩ := reaches (p := fun s a => handsOutFresh s a && logsNothing s a)
    (b := started) (a := watching ++ captureFrame 100 ++ sendFrame)
    (q := fun _ tr => decide ((captured (pipelineTrace tr)).length = 1) &&
      decide ((sent (pipelineTrace tr)).length = 1))
    (by decide +kernel)
  simp only [Bool.and_eq_true, decide_eq_true_eq] at hq
  exact ⟨tr, s, hrun, hq.1, hq.2, (frames_read_by_owner started).1 tr s hrun⟩

/-- The frame has gone all the way back to the driver when the capture task reads its length. -/
theorem capture_reads_returned_frame :
    ∃ tr s, SystemRun handsOutFresh (appRun started) tr s ∧
      (returned (pipelineTrace tr)).length = 1 ∧ ownReads (pipelineTrace tr) = false := by
  obtain ⟨tr, s, hrun, hq⟩ := reaches (p := handsOutFresh) (b := started)
    (a := watching ++ captureFrame 100 ++ sendFrame ++ recycleFrame ++ captureRest)
    (q := fun _ tr => decide ((returned (pipelineTrace tr)).length = 1) &&
      !ownReads (pipelineTrace tr))
    (by decide +kernel)
  simp only [Bool.and_eq_true, decide_eq_true_eq, Bool.not_eq_true'] at hq
  exact ⟨tr, s, hrun, hq.1, hq.2⟩

end System
end Esp32Eye
