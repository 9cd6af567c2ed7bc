import Esp32Eye.Proof.Device
import Esp32Eye.Proof.DmaLayout
import Esp32Eye.Proof.Wire

/-!
# From the camera to the datagram

What is proved of the tasks and of the driver, put together over runs of the device. A frame that a
task owns is still what it was when it was captured, although the tasks never copy it; what a client
is sent is an image, with the number of the frame in its header; and, if the driver keeps up, it is
one the camera has sent, in the order in which the camera sent them.
-/

namespace Esp32Eye

open Lib

/-! ## What is sent -/

namespace Pipeline

variable {p p' : Pipeline} {n : Network} {m m' : Option Task} {a : PipelineAction}
  {es tr : List PipelineEvent}

/-- The reports of a trace are those of `server_send_image_data` for their frames. -/
def Reported (tr : List PipelineEvent) : Prop :=
  ∀ fb sequenceNumber timestamp start report,
    .sent fb sequenceNumber timestamp start report ∈ tr →
      ∃ (server : Server) (sendmsg : Slot → ℤ),
        report = server.sendImageData fb.buf sequenceNumber timestamp sendmsg

theorem Rule.reported (hr : Rule p n m a m' p' es) (h : Reported tr) : Reported (es ++ tr) := by
  intro fb sequenceNumber timestamp start report he
  rcases List.mem_append.mp he with he | he
  · cases hr with
    | send hpc =>
      simp only [List.mem_cons, PipelineEvent.sent.injEq, reduceCtorEq, List.not_mem_nil,
        or_false] at he
      obtain ⟨rfl, rfl, rfl, -, rfl⟩ := he
      exact ⟨_, _, rfl⟩
    | _ => simp at he
  · exact h fb sequenceNumber timestamp start report he

end Pipeline

theorem PipelineRun.reported {C : Pipeline → PipelineAction → Prop} {p₀ p : Pipeline}
    {tr : List PipelineEvent} (h : PipelineRun C p₀ tr p) : Pipeline.Reported tr := by
  refine h.invariant (I := fun tr _ => Pipeline.Reported tr) (fun _ _ _ _ _ he => by cases he) ?_
  intro tr p a p' es hp hc hs
  obtain ⟨m, n, m', hs⟩ := hs
  exact (Pipeline.Rule.of_step hs).reported hp

theorem mem_sent {tr : List PipelineEvent} {fb : CameraFb} {sequenceNumber : UInt16}
    {timestamp : UInt32} {start : UInt64} {report : Server.SendReport}
    (h : .sent fb sequenceNumber timestamp start report ∈ tr) :
    fb ∈ (sent tr).map Prod.fst := by
  induction tr with
  | nil => cases h
  | cons e tr ih =>
    rcases List.mem_cons.mp h with rfl | h
    · simp [sent]
    · have hold := ih h
      cases e with
      | sent => simp only [sent, List.map_append]; exact List.mem_append_left _ hold
      | _ => exact hold

theorem mem_handedOuts {n : ℕ} {tr : List (DriverEvent n)} {x : Fin n} {bytes : List UInt8}
    (h : (x, bytes) ∈ handedOuts tr) : .handedOut x bytes ∈ tr := by
  induction tr with
  | nil => cases h
  | cons e tr ih =>
    cases e with
    | handedOut y l =>
      rcases List.mem_append.mp h with h | h
      · exact List.mem_cons_of_mem _ (ih h)
      · cases List.mem_singleton.mp h
        exact List.mem_cons_self
    | _ => exact List.mem_cons_of_mem _ (ih h)

theorem Placed.sent_sublist {tr : List PipelineEvent} {p : Pipeline} (h : Placed tr p) :
    ((sent tr).map Prod.fst).Sublist (captured tr) := by
  rw [h.sentInOrder, h.inOrder, Pipeline.holders]
  simp only [List.append_assoc]
  exact (List.Sublist.refl _).append (List.sublist_append_left _ _)

/-- The datagrams of each frame, in the order in which the frames were sent. -/
def datagrams : List PipelineEvent → List (List Server.Datagram)
  | [] => []
  | .sent _ _ _ _ report :: tr => datagrams tr ++ [report.calls]
  | _ :: tr => datagrams tr

/-- The datagrams of a frame have the frame and its number in them. -/
def Carries (frame : CameraFb × UInt16) (calls : List Server.Datagram) : Prop :=
  ∀ datagram ∈ calls, ∃ fields, decodeImage datagram.payload = some (fields, frame.1.buf) ∧
    fields.sequenceNumber = frame.2

theorem Server.sendImageData_carries {server : Server} {fb : CameraFb} {sequenceNumber : UInt16}
    {timestamp : UInt32} {sendmsg : Slot → ℤ} :
    Carries (fb, sequenceNumber)
      (server.sendImageData fb.buf sequenceNumber timestamp sendmsg).calls := by
  intro datagram hcall
  rw [Server.sendImageData_calls, List.mem_map] at hcall
  obtain ⟨i, -, rfl⟩ := hcall
  exact ⟨_, Server.decodeImage_append _ _ _ _ _, rfl⟩

theorem Pipeline.Reported.carries {tr : List PipelineEvent} (h : Pipeline.Reported tr) :
    List.Forall₂ Carries (sent tr) (datagrams tr) := by
  induction tr with
  | nil => exact .nil
  | cons e tr ih =>
    have hold := ih fun fb n t start report he => h fb n t start report (List.mem_cons_of_mem _ he)
    cases e with
    | sent fb n t start report =>
      obtain ⟨server, sendmsg, rfl⟩ := h fb n t start report List.mem_cons_self
      exact List.rel_append hold (.cons Server.sendImageData_carries .nil)
    | _ => exact hold

/-- **The numbers are on the wire.** If the driver hands out only buffers that are not outstanding,
    every datagram of the `k`-th frame sent decodes to that frame and the `k`-th number from the
    first, modulo `2 ^ 16`. -/
theorem System.numbers_on_wire (b : System.Boot) (tr : List Event) (s : System)
    (hrun : System.SystemRun System.handsOutFresh (System.appRun b) tr s) (k : ℕ)
    (hk : k < (datagrams (pipelineTrace tr)).length) :
    ∃ fb, ((sent (pipelineTrace tr)).map Prod.fst)[k]? = some fb ∧
      ∀ datagram ∈ (datagrams (pipelineTrace tr))[k], ∃ fields,
        decodeImage datagram.payload = some (fields, fb.buf) ∧
        fields.sequenceNumber.toNat =
          ((System.appRun b).pipeline.sequenceNumber.toNat + k) % 2 ^ 16 := by
  have hpipe := hrun.pipeline (C := Pipeline.HandsOutFresh) fun _ _ => System.handsOutFresh_pipeline
  have hok := hpipe.placed.framesOk hpipe.sequenced (hpipe.outstanding fun _ _ h => h)
  have hall := hpipe.reported.carries
  have hk' : k < (sent (pipelineTrace tr)).length := hall.length_eq ▸ hk
  have hcarries := hall.get hk' hk
  refine ⟨(sent (pipelineTrace tr))[k].1, by simp [hk'], fun datagram hmem => ?_⟩
  obtain ⟨fields, hdecode, hnumber⟩ := hcarries datagram hmem
  refine ⟨fields, hdecode, ?_⟩
  rw [hnumber]
  exact hok.sequence k _ (by simp [hk'])

namespace Device

variable {c : CamConfig} {d : Device c} {tr : List (DeviceEvent c.frameCnt)} {b : System.Boot}
  {buf : Fin c.frameCnt → ℕ → UInt8} {cells : ℕ → DmaElem} {P : Device c → DeviceAction → Bool}

/-- Without any contract. -/
theorem DeviceRun.free (h : DeviceRun P (boot b c buf cells) tr d) :
    System.SystemRun System.handsOutFresh (System.appRun b) (systemTrace tr) d.system ∧
      Driver.DriverRun Driver.givesHeld (Driver.init c buf cells) (driverTrace tr) d.driver ∧
        Joined tr d := by
  have hfree : DeviceRun (within (fun _ _ => true) fun _ _ => true) (boot b c buf cells) tr d :=
    h.mono fun _ a _ => by cases a <;> rfl
  exact hfree.parts (fun _ _ => rfl) fun _ _ _ => rfl

theorem DeviceRun.sides (h : DeviceRun P (boot b c buf cells) tr d) : Sides tr d :=
  sides_of_runs (fun _ _ => Driver.givesHeld_iff.mp) h.free.1 h.free.2.1

/-- The frame of `e`, if it was sent to somebody. -/
def sentFrame : PipelineEvent → Option CameraFb
  | .sent fb _ _ _ report => if report.calls = [] then none else some fb
  | _ => none

/-- What `streaming` comes to. -/
theorem streaming_reached :
    ∃ (tr : List (DeviceEvent smallCamera.frameCnt)) (d : Device smallCamera),
      DeviceRun (within (fun _ _ => true) Driver.keepsUp)
          (boot System.started smallCamera (fun _ _ => 0) fun _ => ⟨0, 0, 0, 0⟩) tr d ∧
        (returned (pipelineTrace (systemTrace tr))).length = 1 ∧
        d.system.pipeline.holders = [⟨1, 1, [0xFF, 0xD8, 0xFF, 0xE1, 0xFF, 0xD9]⟩] ∧
        (pipelineTrace (systemTrace tr)).filterMap sentFrame = [⟨0, 0, smallJpeg⟩] ∧
        (sent (pipelineTrace (systemTrace tr))).map Prod.fst = [⟨0, 0, smallJpeg⟩] := by
  obtain ⟨tr, d, hrun, hq⟩ := reaches (c := smallCamera)
    (p := within (fun _ _ => true) Driver.keepsUp) (b := System.started) (a := streaming)
    (q := fun d tr => decide ((returned (pipelineTrace (systemTrace tr))).length = 1) &&
      (decide (d.system.pipeline.holders = [⟨1, 1, [0xFF, 0xD8, 0xFF, 0xE1, 0xFF, 0xD9]⟩]) &&
      (decide ((pipelineTrace (systemTrace tr)).filterMap sentFrame = [⟨0, 0, smallJpeg⟩]) &&
        decide ((sent (pipelineTrace (systemTrace tr))).map Prod.fst = [⟨0, 0, smallJpeg⟩]))))
    (by decide +kernel)
  simp only [Bool.and_eq_true, decide_eq_true_eq] at hq
  exact ⟨tr, d, hrun, hq⟩

/-- **Frames go round.** What is kept of every frame holds without a word about the driver: each
    frame captured is in one place until it is returned, frames are sent in the order in which they
    were captured and returned once, after they were sent. And the tasks never hold more frames than
    the driver has. -/
theorem frames_go_round (b : System.Boot) (c : CamConfig) (buf : Fin c.frameCnt → ℕ → UInt8)
    (cells : ℕ → DmaElem) (P : Device c → DeviceAction → Bool)
    (tr : List (DeviceEvent c.frameCnt)) (d : Device c)
    (hrun : DeviceRun P (boot b c buf cells) tr d) :
    FramesOk (System.appRun b).pipeline.sequenceNumber (pipelineTrace (systemTrace tr))
        d.system.pipeline ∧ d.system.pipeline.holders.length ≤ c.frameCnt := by
  obtain ⟨hsys, hdrv, hjoined⟩ := hrun.free
  have hpipe := hsys.pipeline (C := Pipeline.HandsOutFresh)
    fun _ _ => System.handsOutFresh_pipeline
  refine ⟨hpipe.placed.framesOk hpipe.sequenced (hpipe.outstanding fun _ _ h => h), ?_⟩
  calc d.system.pipeline.holders.length
      = d.driver.out.length := by
        rw [← List.length_map (f := CameraFb.address), ← hrun.sides.outstanding.length_eq,
          hjoined.out, List.length_map]
    _ ≤ d.driver.busy.length := by
        rw [Driver.busy, List.length_append]
        exact Nat.le_add_left _ _
    _ ≤ c.frameCnt := hrun.sides.slots.accounted.length_le

/-- One frame has been returned, and one is held. -/
theorem frames_go_round_streaming :
    ∃ (tr : List (DeviceEvent smallCamera.frameCnt)) (d : Device smallCamera),
      DeviceRun (within (fun _ _ => true) Driver.keepsUp)
          (boot System.started smallCamera (fun _ _ => 0) fun _ => ⟨0, 0, 0, 0⟩) tr d ∧
        (returned (pipelineTrace (systemTrace tr))).length = 1 ∧
        FramesOk 0 (pipelineTrace (systemTrace tr)) d.system.pipeline := by
  obtain ⟨tr, d, hrun, hreturned, -⟩ := streaming_reached
  exact ⟨tr, d, hrun, hreturned, (frames_go_round System.started _ _ _ _ tr d hrun).1⟩

/-- **The tasks can pass pointers.** As long as a task or a queue owns a frame, its memory in the
    driver is what `esp_camera_fb_get` returned, whatever the DMA, the interrupt handlers and
    `cam_task` do meanwhile. The capture task owns a frame until it is on the produce queue; the
    pointer it keeps beyond that is not covered. -/
theorem held_frames_intact (b : System.Boot) (c : CamConfig) (buf : Fin c.frameCnt → ℕ → UInt8)
    (cells : ℕ → DmaElem) (P : Device c → DeviceAction → Bool)
    (tr : List (DeviceEvent c.frameCnt)) (d : Device c)
    (hrun : DeviceRun P (boot b c buf cells) tr d) :
    ∀ fb ∈ d.system.pipeline.holders,
      ∃ x : Fin c.frameCnt, x.val = fb.address ∧ (d.driver.frames x).bytes = fb.buf := by
  intro fb hfb
  obtain ⟨-, hdrv, hjoined⟩ := hrun.free
  obtain ⟨x, hx, hlent⟩ := hjoined.lent fb hfb
  refine ⟨x, hx, ?_⟩
  rw [hdrv.lent (fun _ _ => Driver.givesHeld_iff.mp) x] at hlent
  split at hlent
  · exact Option.some.inj hlent
  · cases hlent

/-- The capture task has just been handed the second frame. -/
theorem held_frames_intact_streaming :
    ∃ (tr : List (DeviceEvent smallCamera.frameCnt)) (d : Device smallCamera)
      (x : Fin smallCamera.frameCnt),
      DeviceRun (within (fun _ _ => true) Driver.keepsUp)
          (boot System.started smallCamera (fun _ _ => 0) fun _ => ⟨0, 0, 0, 0⟩) tr d ∧
        x.val = 1 ∧ (d.driver.frames x).bytes = [0xFF, 0xD8, 0xFF, 0xE1, 0xFF, 0xD9] := by
  obtain ⟨tr, d, hrun, -, hheld, -⟩ := streaming_reached
  obtain ⟨x, hx, hbytes⟩ := held_frames_intact System.started _ _ _ _ tr d hrun _
    (hheld ▸ List.mem_singleton_self _)
  exact ⟨tr, d, x, hrun, hx, hbytes⟩

theorem handedOut_of_sent (h : Joined tr d) (hs : Sides tr d) {fb : CameraFb}
    (hfb : fb ∈ (sent (pipelineTrace (systemTrace tr))).map Prod.fst) :
    ∃ x : Fin c.frameCnt, .handedOut x fb.buf ∈ driverTrace tr := by
  have hmem := List.mem_map_of_mem (f := fun fb : CameraFb => (fb.address, fb.buf))
    (hs.placed.sent_sublist.subset hfb)
  rw [h.captured, List.mem_map] at hmem
  obtain ⟨⟨x, bytes⟩, hx, he⟩ := hmem
  obtain ⟨-, rfl⟩ := Prod.mk.inj he
  exact ⟨x, mem_handedOuts hx⟩

/-- **Clients are sent images.** In JPEG mode, every datagram of the video stream decodes to a
    header with the frame's sequence number, timestamp and length, and a JPEG image that is no
    longer than a frame. -/
theorem datagrams_are_images (b : System.Boot) (c : CamConfig) (hmode : c.jpegMode = true)
    (buf : Fin c.frameCnt → ℕ → UInt8) (cells : ℕ → DmaElem) (P : Device c → DeviceAction → Bool)
    (tr : List (DeviceEvent c.frameCnt)) (d : Device c)
    (hrun : DeviceRun P (boot b c buf cells) tr d) (fb : CameraFb) (sequenceNumber : UInt16)
    (timestamp : UInt32) (start : UInt64) (report : Server.SendReport)
    (hsent : .sent fb sequenceNumber timestamp start report ∈ pipelineTrace (systemTrace tr)) :
    Driver.IsJpeg fb.buf ∧ fb.buf.length ≤ c.fbSize ∧ ∀ datagram ∈ report.calls, ∃ ssid,
      decodeImage datagram.payload = some (Server.rtpFields ssid sequenceNumber timestamp
        (UInt32.ofNat fb.buf.length), fb.buf) := by
  obtain ⟨hsys, hdrv, hjoined⟩ := hrun.free
  obtain ⟨x, hx⟩ := handedOut_of_sent hjoined hrun.sides (mem_sent hsent)
  obtain ⟨hjpeg, hlen⟩ := hdrv.isJpeg (fun _ _ => Driver.givesHeld_iff.mp) hmode x fb.buf hx
  refine ⟨hjpeg, hlen, fun datagram hcall => ?_⟩
  have hpipe := hsys.pipeline (C := fun _ _ => True) fun _ _ _ => trivial
  obtain ⟨server, sendmsg, rfl⟩ := hpipe.reported fb sequenceNumber timestamp start report hsent
  rw [Server.sendImageData_calls, List.mem_map] at hcall
  obtain ⟨i, -, rfl⟩ := hcall
  exact ⟨server.rtpSsid, Server.decodeImage_append _ _ _ _ _⟩

/-- The first frame was sent to the client. -/
theorem datagrams_are_images_streaming :
    ∃ (tr : List (DeviceEvent smallCamera.frameCnt)) (d : Device smallCamera)
      (datagram : Server.Datagram) (sequenceNumber : UInt16) (timestamp : UInt32) (start : UInt64)
      (report : Server.SendReport),
      DeviceRun (within (fun _ _ => true) Driver.keepsUp)
          (boot System.started smallCamera (fun _ _ => 0) fun _ => ⟨0, 0, 0, 0⟩) tr d ∧
        .sent ⟨0, 0, smallJpeg⟩ sequenceNumber timestamp start report
          ∈ pipelineTrace (systemTrace tr) ∧
        datagram ∈ report.calls ∧
        ∃ ssid, decodeImage datagram.payload =
          some (Server.rtpFields ssid sequenceNumber timestamp 7, smallJpeg) := by
  obtain ⟨tr, d, hrun, -, -, hframe, -⟩ := streaming_reached
  obtain ⟨e, he, hsent⟩ := List.mem_filterMap.mp (hframe ▸ List.mem_singleton_self _)
  cases e with
  | sent fb sequenceNumber timestamp start report =>
    rw [sentFrame] at hsent
    split at hsent
    · cases hsent
    · rename_i hcalls
      cases hsent
      obtain ⟨datagram, hcall⟩ := List.exists_mem_of_ne_nil _ hcalls
      obtain ⟨-, -, hdecode⟩ :=
        datagrams_are_images System.started _ rfl _ _ _ tr d hrun _ _ _ _ _ he
      exact ⟨tr, d, datagram, _, _, _, _, hrun, he, hcall, hdecode datagram hcall⟩
  | _ => cases hsent

theorem DeviceRun.imagesSent (hfilter : c.sampling.filter = DmaFilter.jpeg) {k : ℕ}
    (heof : c.eofNum = 4 * k)
    (hrun : DeviceRun (within (fun _ _ => true) Driver.keepsUp) (boot b c buf cells) tr d) :
    ∃ ks : List ℕ, ks.Pairwise (· < ·) ∧
      List.Forall₂ (fun k fb => ∃ x els, image (driverTrace tr) k = some (x, els) ∧
        x.val = fb.address ∧ Agree fb.buf (els.map DmaElem.sample1)) ks
        ((sent (pipelineTrace (systemTrace tr))).map Prod.fst) := by
  obtain ⟨-, hdrv, hjoined⟩ := hrun.parts (q := Driver.keepsUp) (fun _ _ => rfl)
    fun _ _ h => h
  have hkeeps : Driver.DriverRun Driver.keepsUp (Driver.init c buf cells) (driverTrace tr)
      d.driver := hdrv.mono fun _ _ h => ((Bool.and_eq_true _ _).mp h).1
  obtain ⟨n, hrel, -⟩ := hkeeps.relaying
  obtain ⟨ks, hks, hdelivers⟩ := hrel.out_sorted
  have hhanded : List.Forall₂ (fun k (frame : ℕ × List UInt8) => ∃ x els,
      image (driverTrace tr) k = some (x, els) ∧ x.val = frame.1 ∧
        Agree frame.2 (els.map DmaElem.sample1)) ks
      ((handedOuts (driverTrace tr)).map fun handed => (handed.1.val, handed.2)) := by
    refine List.forall₂_map_right_iff.mpr (hdelivers.imp fun k handed h => ?_)
    obtain ⟨els, himage, hagree⟩ := Driver.Delivers.agree h hfilter heof
    exact ⟨handed.1, els, himage, rfl, hagree⟩
  rw [← hjoined.captured, List.forall₂_map_right_iff] at hhanded
  obtain ⟨ks', hsub, hall⟩ := forall₂_of_sublist hhanded hrun.sides.placed.sent_sublist
  exact ⟨ks', hks.sublist hsub, hall⟩

/-- **What a client sees is what the camera sent.** If the driver keeps up and the filter is that of
    JPEG mode, the frames sent belong to images of the camera of increasing numbers, and frame and
    image agree byte for byte as far as both go. -/
theorem images_sent_in_order (b : System.Boot) (c : CamConfig)
    (hfilter : c.sampling.filter = DmaFilter.jpeg) (k : ℕ) (heof : c.eofNum = 4 * k)
    (buf : Fin c.frameCnt → ℕ → UInt8) (cells : ℕ → DmaElem) (tr : List (DeviceEvent c.frameCnt))
    (d : Device c)
    (hrun : DeviceRun (within (fun _ _ => true) Driver.keepsUp) (boot b c buf cells) tr d) :
    ∃ ks : List ℕ, ks.Pairwise (· < ·) ∧
      List.Forall₂ (fun k fb => ∃ x els, image (driverTrace tr) k = some (x, els) ∧
        x.val = fb.address ∧ Agree fb.buf (els.map DmaElem.sample1)) ks
        ((sent (pipelineTrace (systemTrace tr))).map Prod.fst) := by
  exact hrun.imagesSent hfilter heof

/-- Both frames of `streaming` are images, and the first one has been sent. -/
theorem images_sent_in_order_streaming :
    ∃ (tr : List (DeviceEvent smallCamera.frameCnt)) (d : Device smallCamera) (ks : List ℕ),
      DeviceRun (within (fun _ _ => true) Driver.keepsUp)
          (boot System.started smallCamera (fun _ _ => 0) fun _ => ⟨0, 0, 0, 0⟩) tr d ∧
        ks.length = 1 ∧
        List.Forall₂ (fun k (fb : CameraFb) => ∃ x els, image (driverTrace tr) k = some (x, els) ∧
          x.val = fb.address ∧ Agree fb.buf (els.map DmaElem.sample1)) ks [⟨0, 0, smallJpeg⟩] := by
  obtain ⟨tr, d, hrun, -, -, -, hsent⟩ := streaming_reached
  obtain ⟨ks, -, hks⟩ := images_sent_in_order System.started smallCamera rfl 1 rfl _ _ tr d hrun
  rw [hsent] at hks
  exact ⟨tr, d, ks, hrun, hks.length_eq, hks⟩

/-- The same for what `cam_config` makes of a JPEG configuration, such as that of the application:
    it sets the filter, and its half buffers have 1024 elements. -/
theorem jpeg_images_sent_in_order (b : System.Boot) (config : CameraConfig)
    (hjpeg : config.pixelFormat = .jpeg) (width height sensorPid : ℕ) (c : CamConfig)
    (hc : camSettings config width height sensorPid = .ok c.toCamSettings)
    (buf : Fin c.frameCnt → ℕ → UInt8) (cells : ℕ → DmaElem) (tr : List (DeviceEvent c.frameCnt))
    (d : Device c)
    (hrun : DeviceRun (within (fun _ _ => true) Driver.keepsUp) (boot b c buf cells) tr d) :
    ∃ ks : List ℕ, ks.Pairwise (· < ·) ∧
      List.Forall₂ (fun k fb => ∃ x els, image (driverTrace tr) k = some (x, els) ∧
        x.val = fb.address ∧ Agree fb.buf (els.map DmaElem.sample1)) ks
        ((sent (pipelineTrace (systemTrace tr))).map Prod.fst) := by
  obtain ⟨hfilter, heof⟩ := camSettings_jpeg_filter hjpeg hc
  exact hrun.imagesSent hfilter heof

end Device
end Esp32Eye
