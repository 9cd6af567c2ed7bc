import Esp32Eye.Device
import Esp32Eye.DriverSchedule
import Esp32Eye.Schedule

/-!
# Schedules of the device

The schedules of the tasks and those of the driver, put together. In `streaming` a client turns its
video on, the camera sends an image, and the frame goes all the way round, while the camera goes on
with the next one.
-/

namespace Esp32Eye

open Lib

namespace Device

variable {c : CamConfig}

def byTasks (a : List Action) : List DeviceAction := a.map .system

def byDriver (a : List DriverAction) : List DeviceAction := a.map .driver

/-- The capture task from the head of its loop into `esp_camera_fb_get`. -/
def intoFbGet : List DeviceAction :=
  byTasks [.pipeline (.capture .go), .pipeline (.capture (.clock 0))]

/-- The capture task obtains the frame that is waiting, and puts it on the produce queue. -/
def captureImage : List DeviceAction :=
  intoFbGet ++ byDriver fbGet ++ byTasks [.pipeline (.capture .go)]

/-- A frame has been sent and given back, and the capture task has the next one. -/
def streaming : List DeviceAction :=
  byTasks System.watching ++ byDriver smallImage ++ captureImage
    ++ byDriver (List.replicate 5 .camTask) ++ byTasks System.sendFrame
    ++ byDriver (nextImage [0xFF, 0xD8, 0xFF, 0xE1] [0xFF, 0xD9])
    ++ byTasks (System.captureRest ++ System.recycleFrame)
    ++ intoFbGet ++ byDriver (.take .call :: .take (.ticks 0) :: [.take .go, .take .go])

/-- Executes `a` from the start, with nothing but zeros in the memory. -/
def after (p : Device c → DeviceAction → Bool) (b : System.Boot) (a : List DeviceAction) :
    Option (Device c × List (DeviceEvent c.frameCnt)) :=
  exec step p a (boot b c (fun _ _ => 0) fun _ => ⟨0, 0, 0, 0⟩) []

/-- What the evaluation of a schedule says is true of a run. -/
theorem reaches {p : Device c → DeviceAction → Bool} {b : System.Boot} {a : List DeviceAction}
    {q : Device c → List (DeviceEvent c.frameCnt) → Bool}
    (h : ((after p b a).any fun r => q r.1 r.2) = true) :
    ∃ tr d, DeviceRun p (boot b c (fun _ _ => 0) fun _ => ⟨0, 0, 0, 0⟩) tr d ∧ q d tr = true := by
  cases hr : after p b a with
  | none => rw [hr] at h; cases h
  | some r =>
    obtain ⟨d, tr⟩ := r
    rw [hr] at h
    exact ⟨tr, d, run_of_exec .start hr, h⟩

end Device
end Esp32Eye
