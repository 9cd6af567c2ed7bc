import Esp32Eye.Proof.Components
import Esp32Eye.Schedule

/-!
# Who a frame is sent to, and what is said about it

`server_send_image_data` walks over the slots and sends to those that are active and marked in the
interest mask. `sendLoop_eq` says all of it at once, for any list of slots that remain: the calls
are those of the recipients among them, in that order and with the same bytes, and what `sendmsg`
returns decides only which failures are logged. The result is `true` whatever they were, so the
error branch of `task_send_camera_image` is never taken.
-/

namespace Esp32Eye

open Lib

/-- The largest payload of a UDP datagram. -/
def maxDatagram : ℕ := 65507

/-- What the driver allots for a frame in the configured mode, `FRAMESIZE_SVGA` as JPEG:
    `cam_obj->width * cam_obj->height / 5`. -/
def frameBufferSize : ℕ := 800 * 600 / 5

namespace Server

variable {s : Server} {payload framebuffer : List UInt8} {sendmsg : Slot → ℤ}
  {sequenceNumber : UInt16} {timestamp payloadLength : UInt32}

/-- The slot is active and its interest bit is set. -/
def isRecipient (s : Server) (i : Slot) : Bool :=
  (s.connections i).isActive && s.videoInterestMask.getLsbD i

/-- The slots a frame goes to, in the order of the loop. -/
def recipients (s : Server) : List Slot := (List.finRange maxConnections).filter s.isRecipient

theorem mem_recipients {i : Slot} : i ∈ s.recipients ↔ s.isRecipient i = true := by
  unfold recipients
  rw [List.mem_filter]
  exact ⟨fun h => h.2, fun h => ⟨List.mem_finRange i, h⟩⟩

theorem recipients_increasing : s.recipients.Pairwise (· < ·) :=
  (List.pairwise_lt_finRange maxConnections).filter _

/-- The datagram for slot `i`. -/
def datagramTo (s : Server) (payload : List UInt8) (i : Slot) : Datagram where
  socket := s.rtpSocket
  address := (s.connections i).rtpAddress
  payload := payload

/-- The loop body's own test. -/
theorem skips_iff {i : Slot} :
    (!(s.connections i).isActive || !s.videoInterestMask.getLsbD i) = !s.isRecipient i := by
  unfold isRecipient
  rw [Bool.not_and]

/-- **What the loop does over the slots that remain.** -/
theorem sendLoop_eq (slots : List Slot) :
    s.sendLoop payload sendmsg slots =
      { calls := (slots.filter s.isRecipient).map (s.datagramTo payload)
        failures := ((slots.filter s.isRecipient).filter fun i => sendmsg i < 0).map fun i =>
          (s.connections i).rtpAddress
        result := true } := by
  induction slots with
  | nil => rfl
  | cons i rest ih =>
    rw [sendLoop, skips_iff, ih]
    cases hi : s.isRecipient i with
    | false => simp [hi]
    | true => by_cases hm : sendmsg i < 0 <;> simp [hi, hm, datagramTo]

theorem sendImageData_calls :
    (s.sendImageData framebuffer sequenceNumber timestamp sendmsg).calls
      = s.recipients.map (s.datagramTo
          ((s.getRtpHeader sequenceNumber timestamp (UInt32.ofNat framebuffer.length)).bytes
            ++ framebuffer)) := by
  unfold sendImageData
  rw [sendLoop_eq]
  rfl

theorem sendImageData_result :
    (s.sendImageData framebuffer sequenceNumber timestamp sendmsg).result = true := by
  unfold sendImageData
  rw [sendLoop_eq]

/-- Sixteen bytes, whatever the fields are. -/
theorem length_header :
    (s.getRtpHeader sequenceNumber timestamp payloadLength).bytes.length = 16 := rfl

/-- `if (!server_send_image_data(…))`: the task logs an error for the frame. -/
def SendReport.logsError (report : SendReport) : Bool := !report.result

/-- A report that tells the truth: success exactly when the `sendmsg` of every recipient
    succeeded, and an error in the log exactly when one of them failed. -/
structure Truthful (s : Server) (sendmsg : Slot → ℤ) (report : SendReport) : Prop where
  result : report.result = true ↔ ∀ i, s.isRecipient i = true → 0 ≤ sendmsg i
  log : report.logsError = true ↔ ∃ i, s.isRecipient i = true ∧ sendmsg i < 0

theorem truthful_iff {report : SendReport} :
    s.Truthful sendmsg report ↔
      (report.result = true ↔ ∀ i, s.isRecipient i = true → 0 ≤ sendmsg i) := by
  refine ⟨fun h => h.result, fun h => ⟨h, ?_⟩⟩
  unfold SendReport.logsError
  rw [Bool.not_eq_true', ← Bool.not_eq_true, h]
  push Not
  rfl

end Server

namespace System

open Server

/-- **The exact recipients of a frame.** One call for each active and interested slot, in
    increasing order, to that slot's RTP address, all with the same bytes; the outcomes of
    `sendmsg` change no call, and the step changes nothing of the connection side. -/
theorem frame_recipients (server : Server) (framebuffer : List UInt8) (sequenceNumber : UInt16)
    (timestamp : UInt32) (sendmsg sendmsg' : Slot → ℤ) :
    (∃ slots : List Slot, slots.Pairwise (· < ·) ∧
      (∀ i, i ∈ slots ↔
        (server.connections i).isActive = true ∧ server.videoInterestMask.getLsbD i = true) ∧
      (server.sendImageData framebuffer sequenceNumber timestamp sendmsg).calls
        = slots.map fun i =>
          { socket := server.rtpSocket
            address := (server.connections i).rtpAddress
            payload := (server.getRtpHeader sequenceNumber timestamp
              (UInt32.ofNat framebuffer.length)).bytes ++ framebuffer }) ∧
    (server.getRtpHeader sequenceNumber timestamp
      (UInt32.ofNat framebuffer.length)).bytes.length = 16 ∧
    (server.sendImageData framebuffer sequenceNumber timestamp sendmsg').calls
      = (server.sendImageData framebuffer sequenceNumber timestamp sendmsg).calls ∧
    (∀ (s s' : System) (es : List Event),
      s.step (.pipeline (.send (.sendmsg sendmsg))) = some (s', es) →
        s'.network = s.network ∧ ∃ fb start,
          s.pipeline.send = .send fb start ∧
          .pipeline (.sent fb s.pipeline.sequenceNumber s.pipeline.timestamp start
            (s.network.server.sendImageData fb.buf s.pipeline.sequenceNumber
              s.pipeline.timestamp sendmsg)) ∈ es) := by
  refine ⟨⟨server.recipients, recipients_increasing, fun i => ?_, sendImageData_calls⟩,
    length_header, ?_, fun s s' es h => ?_⟩
  · rw [mem_recipients, isRecipient, Bool.and_eq_true]
  · rw [sendImageData_calls, sendImageData_calls]
  · simp only [step, Option.map_eq_some_iff] at h
    obtain ⟨⟨m, p, es⟩, hp, h⟩ := h
    cases h
    refine ⟨rfl, ?_⟩
    simp only [Pipeline.step, Pipeline.sendStep] at hp
    split at hp
    · rename_i fb start hpc
      cases hp
      exact ⟨fb, start, hpc, List.mem_cons_self⟩
    · cases hp

/-- **When the result of `server_send_image_data` tells the truth**: when no recipient's
    `sendmsg` fails, for which the datagram has to fit. -/
theorem frame_report (server : Server) (framebuffer : List UInt8) (sequenceNumber : UInt16)
    (timestamp : UInt32) (sendmsg : Slot → ℤ)
    (hreject : maxDatagram < 16 + framebuffer.length →
      ∀ i, server.isRecipient i = true → sendmsg i < 0) :
    server.Truthful sendmsg
        (server.sendImageData framebuffer sequenceNumber timestamp sendmsg) ↔
      ∀ i, server.isRecipient i = true →
        16 + framebuffer.length ≤ maxDatagram ∧ 0 ≤ sendmsg i := by
  rw [truthful_iff]
  constructor
  · intro h i hi
    have hall := h.mp sendImageData_result
    refine ⟨?_, hall i hi⟩
    by_contra hlen
    have := hreject (not_le.mp hlen) i hi
    exact absurd (hall i hi) (not_le.mpr this)
  · intro h
    exact ⟨fun _ i hi => (h i hi).2, fun _ => sendImageData_result⟩

/-- The slot of a client that has just turned its video on is a recipient. -/
theorem watching_recipient :
    ∃ tr s, SystemRun (fun _ => byTasks) (appRun started) tr s ∧
      s.network.server.isRecipient 0 = true :=
  reaches (a := watching) (q := fun s _ => s.network.server.isRecipient 0) (by decide +kernel)

/-- A small frame that `sendmsg` takes. -/
theorem frame_report_small :
    ∃ tr s, SystemRun (fun _ => byTasks) (appRun started) tr s ∧
      s.network.server.isRecipient 0 = true ∧
      s.network.server.Truthful (fun _ => 18)
        (s.network.server.sendImageData [0xFF, 0xD8] 0 0 fun _ => 18) := by
  obtain ⟨tr, s, hrun, hs⟩ := watching_recipient
  refine ⟨tr, s, hrun, hs, (frame_report _ _ _ _ _ fun h => ?_).mpr fun i _ => ?_⟩
  · exact absurd h (by decide)
  · exact ⟨by decide, by decide⟩

/-- A frame of 70000 bytes, which the driver's buffer holds and no datagram does. -/
theorem frame_report_oversize :
    ∃ tr s framebuffer, SystemRun (fun _ => byTasks) (appRun started) tr s ∧
      framebuffer.length ≤ frameBufferSize ∧ maxDatagram < 16 + framebuffer.length ∧
      ¬ s.network.server.Truthful (fun _ => -1)
        (s.network.server.sendImageData framebuffer 0 0 fun _ => -1) := by
  obtain ⟨tr, s, hrun, hs⟩ := watching_recipient
  have hlen : (List.replicate 70000 (0xFF : UInt8)).length = 70000 := List.length_replicate
  refine ⟨tr, s, List.replicate 70000 0xFF, hrun, ?_, ?_, fun h => ?_⟩
  · rw [hlen]
    decide
  · rw [hlen]
    decide
  · exact absurd (h.result.mp sendImageData_result 0 hs) (by decide)

end System
end Esp32Eye
