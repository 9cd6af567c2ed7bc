import Esp32Eye.Driver
import Esp32Eye.Proof.Filters

/-!
# Schedules of the camera driver

Like `Schedule.lean`, for runs of the driver alone. The settings are as small as settings can be
with which the driver runs: two frames of twelve bytes, and a ring of four half buffers of four
elements each.
-/

namespace Esp32Eye

open Lib

/-- Two frames, and four samples to a half buffer. -/
def smallCamera : CamConfig where
  jpegMode := true
  frameCnt := 2
  frameBufferQueueLen := 2
  recvSize := 12
  fbSize := 12
  sampling := ⟨.single, DmaFilter.jpeg, 1, 1⟩
  dma :=
    { dmaBufferSize := 64
      dmaHalfBufferSize := 16
      dmaNodeBufferSize := 16
      dmaHalfBufferCnt := 4 }
  frameCnt_pos := by decide
  eofNum_pos := by decide
  three_le := by decide
  filter_bytes := fun els h => by
    rw [(DmaFilter.jpeg_ok (k := 1) h).1, List.length_map]
    exact h
  filter_length := fun _ h => h

def firstFrame : Fin smallCamera.frameCnt := ⟨0, by decide⟩

/-- A vertical sync while the driver is idle, up to the start of the DMA. -/
def beginImage : List DriverAction := .vsyncIsr :: List.replicate 5 .camTask

/-- The camera sends bytes. -/
def cameraSends (bytes : List UInt8) : List DriverAction :=
  bytes.map fun b => .sample { sample2 := 0, unused2 := 0, sample1 := b, unused1 := 0 }

/-- The interrupt at the end of a half buffer, and its handling. -/
def copyOut : List DriverAction := [.dmaIsr, .camTask, .camTask]

/-- A vertical sync while a frame is read, up to the queue. -/
def endImage : List DriverAction := .vsyncIsr :: List.replicate 5 .camTask

/-- `esp_camera_fb_get` with a frame waiting. -/
def fbGet : List DriverAction := [.take .call, .take (.ticks 0), .take .go, .take .go]

/-- An image that ends within its second half buffer. -/
def smallImage : List DriverAction :=
  beginImage ++ cameraSends [0xFF, 0xD8, 0xFF, 0xE0] ++ copyOut
    ++ cameraSends [0x10, 0xFF, 0xD9] ++ endImage

/-- What is handed out of it. -/
def smallJpeg : List UInt8 := [0xFF, 0xD8, 0xFF, 0xE0, 0x10, 0xFF, 0xD9]

/-- An image that is begun at the end of the one before it. -/
def nextImage (first rest : List UInt8) : List DriverAction :=
  cameraSends first ++ copyOut ++ cameraSends rest ++ endImage

/-- Three images, all of which `cam_take` receives. There is no end marker in the second one. -/
def threeImages : List DriverAction :=
  smallImage ++ List.replicate 5 .camTask ++ fbGet ++ [.give 0]
    ++ nextImage [0xFF, 0xD8, 0xFF, 0xE0] [0x10, 0x11] ++ List.replicate 4 .camTask ++ fbGet
    ++ [.take .go, .take (.ticks 12), .take (.ticks 12)]
    ++ nextImage [0xFF, 0xD8, 0xFF, 0xE1] [0xFF, 0xD9] ++ [.take .go, .take .go]

namespace Driver

variable {c : CamConfig}

/-- Executes `a` from the start, with nothing but zeros in the memory. -/
def after (p : Driver c → DriverAction → Bool) (a : List DriverAction) :
    Option (Driver c × List (DriverEvent c.frameCnt)) :=
  exec step p a (init c (fun _ _ => 0) fun _ => ⟨0, 0, 0, 0⟩) []

/-- What the evaluation of a schedule says is true of a run. -/
theorem reaches {p : Driver c → DriverAction → Bool} {a : List DriverAction}
    {q : Driver c → List (DriverEvent c.frameCnt) → Bool}
    (h : ((after p a).any fun r => q r.1 r.2) = true) :
    ∃ tr d, DriverRun p (init c (fun _ _ => 0) fun _ => ⟨0, 0, 0, 0⟩) tr d ∧ q d tr = true := by
  cases hr : after p a with
  | none => rw [hr] at h; cases h
  | some r =>
    obtain ⟨d, tr⟩ := r
    rw [hr] at h
    exact ⟨tr, d, run_of_exec .start hr, h⟩

end Driver
end Esp32Eye
