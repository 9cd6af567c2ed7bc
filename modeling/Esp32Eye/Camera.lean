import Esp32Eye.EspCamera
import Esp32Eye.Startup

/-!
# `main/camera/camera.c`: the camera of this application

The configuration of the AI-Thinker board, and what `app_main` makes of it: it connects to the
network, brings the camera up and, if both went well, starts the tasks.
-/

namespace Esp32Eye

/-- `CAMERA_NUM_FRAMEBUFFERS`. -/
def cameraNumFramebuffers : ℕ := 2

/-- `config`. -/
def cameraConfig : EspCameraConfig where
  pixelFormat := .jpeg
  xclkFreqHz := 20000000
  fbCount := cameraNumFramebuffers
  grabMode := .whenEmpty
  pinXclk := 0
  pinSccbSda := 26
  pinVsync := 25
  ledcChannel := 0
  frameSize := .svga
  sccbI2cPort := 0

/-- `camera_init`. -/
def cameraInit (r : InitResults) (s : EspCamera) : Option (Status × EspCamera) :=
  (s.espCameraInit cameraConfig r).map fun (error, s) =>
    (if error ≠ espOk then .cameraInitializationFailed else .success, s)

/-- `app_main`, from the result of `wifi_init`: what it does, and the camera it leaves. -/
def App.mainWithCamera (wifiInit : Status) (camera : InitResults) (server : StartResults)
    (s : EspCamera) : Option (List App.Call × EspCamera) :=
  -- `app_init` returns before `camera_init`
  if wifiInit ≠ .success then some ([], s)
  else
    (cameraInit camera s).map fun (status, s) => (App.main wifiInit status server, s)

end Esp32Eye
