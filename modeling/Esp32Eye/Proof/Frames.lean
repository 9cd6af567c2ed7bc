import Mathlib.Data.List.Pairwise
import Esp32Eye.Proof.Components
import Esp32Eye.Proof.PipelineRules
import Esp32Eye.Schedule

/-!
# Frames are conserved and stay in order

A frame goes through five places: the capture task, the produce queue, the send task, the recycle
queue, the recycle task. `holders` is what is in them, the oldest frame first, and the whole of the
bookkeeping is two equations between lists: the frames captured are the ones returned followed by
the ones held, and the frames sent are the ones returned followed by those of the held ones that
are past the send (`Placed`). Each step moves one frame across one boundary, so it keeps both
equations or lengthens both sides; at most one place, nothing lost, nothing reordered and nothing
returned unsent are read off them.
-/

namespace Esp32Eye

open Lib

/-! ## What a trace says -/

/-- The frames `esp_camera_fb_get` returned, in order. -/
def captured : List PipelineEvent → List CameraFb
  | [] => []
  | .fbGet fb :: tr => captured tr ++ [fb]
  | _ :: tr => captured tr

/-- The frames given to `server_send_image_data`, in order, with their sequence numbers. -/
def sent : List PipelineEvent → List (CameraFb × UInt16)
  | [] => []
  | .sent fb sequenceNumber _ _ _ :: tr => sent tr ++ [(fb, sequenceNumber)]
  | _ :: tr => sent tr

/-- The frames passed to `esp_camera_fb_return`, in order. -/
def returned : List PipelineEvent → List CameraFb
  | [] => []
  | .fbReturn fb :: tr => returned tr ++ [fb]
  | _ :: tr => returned tr

/-! ## Where frames are -/

/-- The frame the capture task holds: once it is on the queue it is not the task's any more. -/
def CapturePc.held : CapturePc → List CameraFb
  | .enqueue _ fb => [fb]
  | _ => []

/-- The frame the send task holds and has not sent. -/
def SendPc.unsent : SendPc → List CameraFb
  | .start fb => [fb]
  | .take fb _ => [fb]
  | .send fb _ => [fb]
  | _ => []

/-- The frame the send task holds and has sent. -/
def SendPc.done : SendPc → List CameraFb
  | .finish fb _ => [fb]
  | .enqueue fb => [fb]
  | _ => []

def RecyclePc.held : RecyclePc → List CameraFb
  | .fbReturn fb => [fb]
  | .receive => []

inductive Place
  | captureTask
  | produceQueue
  | sendTask
  | recycleQueue
  | recycleTask
  deriving DecidableEq, Repr

namespace Place

/-- From the oldest frame to the newest. -/
def inOrder : List Place := [.recycleTask, .recycleQueue, .sendTask, .produceQueue, .captureTask]

theorem mem_inOrder (place : Place) : place ∈ inOrder := by
  cases place <;> simp [inOrder]

end Place

namespace Pipeline

/-- What is in a place. -/
def contents (p : Pipeline) : Place → List CameraFb
  | .captureTask => p.capture.held
  | .produceQueue => p.imageProduceQueue.items
  | .sendTask => p.send.done ++ p.send.unsent
  | .recycleQueue => p.imageRecycleQueue.items
  | .recycleTask => p.recycle.held

/-- The frames that have been sent and are not returned, oldest first. -/
def sentHolders (p : Pipeline) : List CameraFb :=
  p.recycle.held ++ p.imageRecycleQueue.items ++ p.send.done

/-- Every frame that is not returned, oldest first. -/
def holders (p : Pipeline) : List CameraFb :=
  p.sentHolders ++ p.send.unsent ++ p.imageProduceQueue.items ++ p.capture.held

end Pipeline

structure Placed (tr : List PipelineEvent) (p : Pipeline) : Prop where
  inOrder : captured tr = returned tr ++ p.holders
  sentInOrder : (sent tr).map Prod.fst = returned tr ++ p.sentHolders
  numbered : (captured tr).map CameraFb.acquisition = List.range p.camera.acquired

/-- The sequence numbers used are the successors of the first one, and so is the next one. -/
structure Sequenced (first : UInt16) (tr : List PipelineEvent) (p : Pipeline) : Prop where
  used : ∀ k x, ((sent tr).map Prod.snd)[k]? = some x → x = first + UInt16.ofNat k
  next : p.sequenceNumber = first + UInt16.ofNat (sent tr).length

/-- The buffers that are out are those of the frames held, each once. -/
structure Outstanding (p : Pipeline) : Prop where
  held : p.camera.outstanding.Perm (p.holders.map CameraFb.address)
  distinct : p.camera.outstanding.Nodup

/-- `esp_camera_fb_get` hands out a buffer only if it is not outstanding. -/
def Pipeline.HandsOutFresh (p : Pipeline) : PipelineAction → Prop
  | .capture (.fbGet (some (address, _))) => address ∉ p.camera.outstanding
  | _ => True

/-! ## One step -/

namespace Pipeline

variable {p p' : Pipeline} {n : Network} {m m' : Option Task} {a : PipelineAction}
  {tr es : List PipelineEvent}

theorem Rule.placed (hr : Rule p n m a m' p' es) (h : Placed tr p) : Placed (es ++ tr) p' := by
  obtain ⟨hcap, hsent, hnum⟩ := h
  unfold holders sentHolders at hcap
  unfold sentHolders at hsent
  cases hr with
  | fbGet hpc =>
    refine ⟨?_, hsent, ?_⟩
    · simp [captured, returned, holders, sentHolders, CapturePc.held, hcap, hpc]
    · simp [captured, hnum, List.range_succ]
  | produce hpc hq =>
    refine ⟨?_, hsent, hnum⟩
    simp [captured, returned, holders, sentHolders, CapturePc.held, hcap, hpc,
      Queue.items_of_sendToBack hq]
  | consume hpc hq =>
    refine ⟨?_, ?_, hnum⟩
    · simp [captured, returned, holders, sentHolders, SendPc.unsent, SendPc.done, hcap, hpc,
        Queue.items_of_receive hq]
    · simp [sent, returned, sentHolders, SendPc.done, hsent, hpc]
  | send hpc =>
    refine ⟨?_, ?_, hnum⟩
    · simp [captured, returned, holders, sentHolders, SendPc.unsent, SendPc.done, hcap, hpc]
    · simp [sent, returned, sentHolders, SendPc.done, hsent, hpc]
  | recycle hpc hq =>
    refine ⟨?_, ?_, hnum⟩
    · simp [captured, returned, holders, sentHolders, SendPc.unsent, SendPc.done, hcap, hpc,
        Queue.items_of_sendToBack hq]
    · simp [sent, returned, sentHolders, SendPc.done, hsent, hpc, Queue.items_of_sendToBack hq]
  | collect hpc hq =>
    refine ⟨?_, ?_, hnum⟩
    · simp [captured, returned, holders, sentHolders, RecyclePc.held, hcap, hpc,
        Queue.items_of_receive hq]
    · simp [sent, returned, sentHolders, RecyclePc.held, hsent, hpc, Queue.items_of_receive hq]
  | fbReturn hpc =>
    refine ⟨?_, ?_, hnum⟩
    · simp [captured, returned, holders, sentHolders, RecyclePc.held, hcap, hpc]
    · simp [sent, returned, sentHolders, RecyclePc.held, hsent, hpc]
  | start hpc | take hpc | finish hpc =>
    refine ⟨?_, ?_, hnum⟩
    · simp [holders, sentHolders, SendPc.unsent, SendPc.done, hcap, hpc]
    · simp [sentHolders, SendPc.done, hsent, hpc]
  | wait hpc | skip hpc | check hpc | fbNone hpc | log hpc | delay hpc =>
    refine ⟨?_, hsent, hnum⟩
    simp [captured, returned, holders, sentHolders, CapturePc.held, hcap, hpc]

theorem Rule.sequenced {first : UInt16} (hr : Rule p n m a m' p' es) (h : Sequenced first tr p) :
    Sequenced first (es ++ tr) p' := by
  cases hr with
  | send hpc =>
    refine ⟨?_, ?_⟩
    · intro k x hk
      have hk : ((sent tr).map Prod.snd ++ [p.sequenceNumber])[k]? = some x := by
        simpa [sent] using hk
      -- before the new frame, the new frame, or beyond it
      rcases Nat.lt_trichotomy k (sent tr).length with hlt | heq | hgt
      · rw [List.getElem?_append_left (by simpa using hlt)] at hk
        exact h.used k x hk
      · rw [List.getElem?_append_right (by simp [heq])] at hk
        have hx : p.sequenceNumber = x := by simpa [heq] using hk
        rw [← hx, heq]
        exact h.next
      · rw [List.getElem?_eq_none (by simp; omega)] at hk
        cases hk
    · simp only [List.cons_append, List.nil_append, sent, List.length_append,
        List.length_singleton, UInt16.ofNat_add]
      rw [h.next, UInt16.add_assoc]
      rfl
  | _ => exact ⟨h.used, h.next⟩

/-- The buffers that are out follow the frames held, whichever buffer the driver hands out. -/
theorem Rule.outstanding_perm (hr : Rule p n m a m' p' es)
    (hperm : p.camera.outstanding.Perm (p.holders.map CameraFb.address)) :
    p'.camera.outstanding.Perm (p'.holders.map CameraFb.address) := by
  unfold holders sentHolders at hperm
  cases hr with
  | fbGet hpc =>
    refine (List.Perm.cons _ hperm).trans ?_
    simp only [holders, sentHolders, CapturePc.held, hpc, List.append_nil, List.map_append,
      List.map_cons, List.map_nil]
    exact (List.perm_append_singleton _ _).symm
  | fbReturn hpc =>
    refine (hperm.erase _).trans ?_
    simp [holders, sentHolders, RecyclePc.held, hpc]
  | produce hpc hq =>
    refine hperm.trans ?_
    simp [holders, sentHolders, CapturePc.held, hpc, Queue.items_of_sendToBack hq]
  | consume hpc hq =>
    refine hperm.trans ?_
    simp [holders, sentHolders, SendPc.unsent, SendPc.done, hpc, Queue.items_of_receive hq]
  | recycle hpc hq =>
    refine hperm.trans ?_
    simp [holders, sentHolders, SendPc.unsent, SendPc.done, hpc, Queue.items_of_sendToBack hq]
  | collect hpc hq =>
    refine hperm.trans ?_
    simp [holders, sentHolders, RecyclePc.held, hpc, Queue.items_of_receive hq]
  | send hpc | start hpc | take hpc | finish hpc =>
    refine hperm.trans ?_
    simp [holders, sentHolders, SendPc.unsent, SendPc.done, hpc]
  | wait hpc | skip hpc | check hpc | fbNone hpc | log hpc | delay hpc =>
    refine hperm.trans ?_
    simp [holders, sentHolders, CapturePc.held, hpc]

theorem Rule.outstanding (hr : Rule p n m a m' p' es) (hfresh : p.HandsOutFresh a)
    (h : Outstanding p) : Outstanding p' := by
  refine ⟨hr.outstanding_perm h.held, ?_⟩
  cases hr with
  | fbGet => exact List.nodup_cons.mpr ⟨hfresh, h.distinct⟩
  | fbReturn => exact h.distinct.erase _
  | _ => exact h.distinct

end Pipeline

/-! ## Every run -/

section

variable {C : Pipeline → PipelineAction → Prop} {p₀ p : Pipeline} {tr : List PipelineEvent}
  {b : System.Boot}

theorem PipelineRun.placed (h : PipelineRun C (System.appRun b).pipeline tr p) :
    Placed tr p := by
  refine h.invariant (I := Placed) ⟨rfl, rfl, rfl⟩ ?_
  intro tr p a p' es hp hc hs
  obtain ⟨m, n, m', hs⟩ := hs
  exact (Pipeline.Rule.of_step hs).placed hp

theorem PipelineRun.sequenced (h : PipelineRun C p₀ tr p) :
    Sequenced p₀.sequenceNumber tr p := by
  refine h.invariant (I := Sequenced p₀.sequenceNumber) ⟨?_, ?_⟩ ?_
  · intro k x hk
    simp [sent] at hk
  · simp [sent]
  · intro tr p a p' es hp hc hs
    obtain ⟨m, n, m', hs⟩ := hs
    exact (Pipeline.Rule.of_step hs).sequenced hp

theorem PipelineRun.outstanding (hC : ∀ p a, C p a → p.HandsOutFresh a)
    (h : PipelineRun C (System.appRun b).pipeline tr p) : Outstanding p := by
  refine h.invariant (I := fun _ p => Outstanding p) ⟨List.Perm.refl _, List.nodup_nil⟩ ?_
  intro tr p a p' es hp hc hs
  obtain ⟨m, n, m', hs⟩ := hs
  exact (Pipeline.Rule.of_step hs).outstanding (hC _ _ hc) hp

/-- Without a word about the driver: the buffers that are out are those of the frames held. -/
theorem PipelineRun.outstanding_perm (h : PipelineRun C (System.appRun b).pipeline tr p) :
    p.camera.outstanding.Perm (p.holders.map CameraFb.address) := by
  refine h.invariant
    (I := fun _ p => p.camera.outstanding.Perm (p.holders.map CameraFb.address))
    (List.Perm.refl _) ?_
  intro tr p a p' es hp hc hs
  obtain ⟨m, n, m', hs⟩ := hs
  exact (Pipeline.Rule.of_step hs).outstanding_perm hp

end

/-! ## What follows -/

namespace Placed

variable {tr : List PipelineEvent} {p : Pipeline}

/-- No frame was captured twice: the driver's calls are numbered. -/
theorem nodup_captured (h : Placed tr p) : (captured tr).Nodup := by
  apply List.Nodup.of_map CameraFb.acquisition
  rw [h.numbered]
  exact List.nodup_range

theorem nodup_holders (h : Placed tr p) : p.holders.Nodup := by
  have hn := h.nodup_captured
  rw [h.inOrder] at hn
  exact (List.nodup_append.mp hn).2.1

theorem holders_eq : p.holders = (Place.inOrder.map p.contents).flatten := by
  simp [Place.inOrder, Pipeline.holders, Pipeline.sentHolders, Pipeline.contents]

/-- A frame that is held is in one place only. -/
theorem place_unique (h : Placed tr p) {fb : CameraFb} {a b : Place} (ha : fb ∈ p.contents a)
    (hb : fb ∈ p.contents b) : a = b := by
  have hn := h.nodup_holders
  rw [holders_eq, List.nodup_flatten, List.pairwise_map] at hn
  have hsymm : Std.Symm fun a b => (p.contents a).Disjoint (p.contents b) := ⟨fun _ _ h => h.symm⟩
  by_contra hab
  exact hn.2.forall (Place.mem_inOrder a) (Place.mem_inOrder b) hab ha hb

theorem mem_holders {fb : CameraFb} :
    fb ∈ p.holders ↔ ∃ place, fb ∈ p.contents place := by
  rw [holders_eq, List.mem_flatten]
  constructor
  · rintro ⟨l, hl, hfb⟩
    obtain ⟨place, -, rfl⟩ := List.mem_map.mp hl
    exact ⟨place, hfb⟩
  · rintro ⟨place, hfb⟩
    exact ⟨_, List.mem_map_of_mem (Place.mem_inOrder place), hfb⟩

end Placed

/-- What is kept of every frame, over a whole run. -/
structure FramesOk (first : UInt16) (tr : List PipelineEvent) (p : Pipeline) : Prop where
  /-- a frame that was obtained and not returned is in one place -/
  onePlace : ∀ fb ∈ captured tr, fb ∉ returned tr → ∃! place, fb ∈ p.contents place
  /-- a place holds no other frames -/
  nothingElse : ∀ place, ∀ fb ∈ p.contents place, fb ∈ captured tr ∧ fb ∉ returned tr
  /-- two frames that are held are in different buffers, and these are the driver's outstanding -/
  buffers : (p.holders.map CameraFb.address).Nodup ∧
    ∀ a, a ∈ p.camera.outstanding ↔ a ∈ p.holders.map CameraFb.address
  returnedOnce : (returned tr).Nodup
  returnedSent : returned tr <+: (sent tr).map Prod.fst
  sentCaptured : (sent tr).map Prod.fst <+: captured tr
  sentOnce : ((sent tr).map Prod.fst).Nodup
  sequence : ∀ k x, ((sent tr).map Prod.snd)[k]? = some x →
    x.toNat = (first.toNat + k) % 2 ^ 16

theorem Placed.framesOk {first : UInt16} {tr : List PipelineEvent} {p : Pipeline}
    (h : Placed tr p) (hseq : Sequenced first tr p) (hout : Outstanding p) :
    FramesOk first tr p := by
  have hsplit : captured tr
      = (sent tr).map Prod.fst ++ (p.send.unsent ++ p.imageProduceQueue.items ++ p.capture.held) := by
    rw [h.inOrder, h.sentInOrder]
    simp [Pipeline.holders]
  have hsent : (sent tr).map Prod.fst <+: captured tr := ⟨_, hsplit.symm⟩
  have hret : returned tr <+: (sent tr).map Prod.fst := ⟨_, h.sentInOrder.symm⟩
  have hdisj : ∀ fb ∈ returned tr, fb ∉ p.holders := by
    have hn := h.nodup_captured
    rw [h.inOrder] at hn
    intro fb hfb hheld
    exact (List.nodup_append.mp hn).2.2 fb hfb fb hheld rfl
  refine ⟨?_, ?_, ⟨?_, ?_⟩, ?_, hret, hsent, ?_, ?_⟩
  · intro fb hcap hnot
    rw [h.inOrder] at hcap
    rcases List.mem_append.mp hcap with hr | hheld
    · exact absurd hr hnot
    · obtain ⟨place, hp⟩ := Placed.mem_holders.mp hheld
      exact ⟨place, hp, fun other ho => h.place_unique ho hp⟩
  · intro place fb hfb
    have hheld : fb ∈ p.holders := Placed.mem_holders.mpr ⟨place, hfb⟩
    refine ⟨?_, fun hr => hdisj fb hr hheld⟩
    rw [h.inOrder]
    exact List.mem_append_right _ hheld
  · exact hout.held.nodup_iff.mp hout.distinct
  · intro a
    exact hout.held.mem_iff
  · exact h.nodup_captured.sublist (hret.trans hsent).sublist
  · exact h.nodup_captured.sublist hsent.sublist
  · intro k x hk
    rw [hseq.used k x hk, UInt16.toNat_add, UInt16.toNat_ofNat']
    simp

namespace System

theorem handsOutFresh_pipeline {s : System} {a : PipelineAction}
    (h : handsOutFresh s (.pipeline a) = true) : s.pipeline.HandsOutFresh a := by
  match a with
  | .capture (.fbGet (some (address, _))) =>
    have h' : address ∉ s.pipeline.camera.outstanding := of_decide_eq_true h
    exact h'
  | .capture (.fbGet none) | .capture .go | .capture (.clock _) | .send _ | .recycle => trivial

/-- **Frame conservation and order.** In every state that the tasks reach, if the driver hands out
    only buffers that are not outstanding: each frame obtained and not returned is in exactly one
    place, frames are returned at most once and after they were sent, they are sent in the order in
    which they were captured, and the sequence numbers count up from the first, modulo `2 ^ 16`. -/
theorem frames_conserved (b : Boot) (tr : List Event) (s : System)
    (hrun : SystemRun handsOutFresh (appRun b) tr s) :
    FramesOk (appRun b).pipeline.sequenceNumber (pipelineTrace tr) s.pipeline := by
  have hpipe := hrun.pipeline (C := Pipeline.HandsOutFresh) fun _ _ => handsOutFresh_pipeline
  exact hpipe.placed.framesOk hpipe.sequenced (hpipe.outstanding fun _ _ h => h)

/-- A frame has gone all the way round, and its buffer is on the produce queue again. -/
theorem frames_conserved_twice :
    ∃ tr s, SystemRun handsOutFresh (appRun started) tr s ∧
      (captured (pipelineTrace tr)).length = 2 ∧ (returned (pipelineTrace tr)).length = 1 ∧
      FramesOk 0 (pipelineTrace tr) s.pipeline := by
  obtain ⟨tr, s, hrun, hq⟩ := reaches (p := handsOutFresh) (b := started)
    (a := watching ++ captureFrame 100 ++ sendFrame ++ recycleFrame ++ captureRest
      ++ captureFrame 100)
    (q := fun _ tr => decide ((captured (pipelineTrace tr)).length = 2) &&
      decide ((returned (pipelineTrace tr)).length = 1))
    (by decide +kernel)
  simp only [Bool.and_eq_true, decide_eq_true_eq] at hq
  exact ⟨tr, s, hrun, hq.1, hq.2, frames_conserved started tr s hrun⟩

end System
end Esp32Eye
