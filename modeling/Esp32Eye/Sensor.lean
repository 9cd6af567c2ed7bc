import Esp32Eye.Dma

/-!
# `esp32-camera/driver/sensor.c`: which sensor is there

`SCCB_Probe` looks for an address that answers, `camera_probe` asks the sensor drivers that were
compiled in, one after another, whether the sensor is theirs, and the table `camera_sensor` says
what a sensor can do. What comes over the bus is a parameter: which transmission is acknowledged,
and which product identifier a driver has read.
-/

namespace Esp32Eye

/-- `camera_model_t`, without `CAMERA_NONE`. -/
inductive CameraModel
  | ov7725
  | ov2640
  | ov3660
  | ov5640
  | ov7670
  | nt99141
  | gc2145
  | gc032a
  | gc0308
  | bf3005
  | bf20a6
  | sc101iot
  | sc030iot
  | sc031gs
  deriving DecidableEq, Repr

/-- `camera_sensor_info_t`. -/
structure CameraSensorInfo where
  model : CameraModel
  sccbAddr : ℕ
  pid : ℕ
  maxSize : Framesize
  supportJpeg : Bool
  deriving DecidableEq, Repr

/-- `camera_sensor`. -/
def cameraSensor : List CameraSensorInfo :=
  [⟨.ov7725, 0x21, ov7725Pid, .vga, false⟩,
    ⟨.ov2640, 0x30, 0x26, .uxga, true⟩,
    ⟨.ov3660, 0x3C, ov3660Pid, .qxga, true⟩,
    ⟨.ov5640, 0x3C, ov5640Pid, .qsxga, true⟩,
    ⟨.ov7670, 0x21, ov7670Pid, .vga, false⟩,
    ⟨.nt99141, 0x2A, nt99141Pid, .hd, true⟩,
    ⟨.gc2145, 0x3C, 0x2145, .uxga, false⟩,
    ⟨.gc032a, 0x21, 0x232a, .vga, false⟩,
    ⟨.gc0308, 0x21, 0x9b, .vga, false⟩,
    ⟨.bf3005, 0x6E, 0x30, .vga, false⟩,
    ⟨.bf20a6, 0x6E, 0x20a6, .vga, false⟩,
    ⟨.sc101iot, 0x68, 0xda4a, .hd, false⟩,
    ⟨.sc030iot, 0x68, 0x9a46, .vga, false⟩,
    ⟨.sc031gs, 0x30, sc031gsPid, .vga, false⟩]

/-- `esp_camera_sensor_get_info`. -/
def sensorGetInfo (pid : ℕ) : Option CameraSensorInfo := cameraSensor.find? fun i => i.pid = pid

/-- The loop of `SCCB_Probe`, behind a transmission to `slaveAddr`. -/
def probeFrom (acknowledged : CameraModel → Bool) : ℕ → List CameraSensorInfo → ℕ
  | _, [] => 0
  | slaveAddr, i :: is =>
      if slaveAddr = i.sccbAddr then probeFrom acknowledged slaveAddr is
      else if acknowledged i.model then i.sccbAddr
      else probeFrom acknowledged i.sccbAddr is

/-- `SCCB_Probe`. -/
def sccbProbe (acknowledged : CameraModel → Bool) : ℕ := probeFrom acknowledged 0 cameraSensor

/-- The loop of `camera_probe` over `g_sensors`: what `id->PID` is afterwards, and the sensor. A
    driver that has detected its sensor has written the identifier. -/
def detectSensor (pid : ℕ) : List (Option ℕ) → ℕ × Option CameraSensorInfo
  | [] => (pid, none)
  | none :: detected => detectSensor pid detected
  | some p :: detected =>
      match sensorGetInfo p with
      | some info => (p, some info)
      | none => detectSensor p detected

/-! ## What the table says -/

theorem mem_of_sensorGetInfo {pid : ℕ} {info : CameraSensorInfo}
    (h : sensorGetInfo pid = some info) : info ∈ cameraSensor ∧ info.pid = pid :=
  ⟨List.mem_of_find?_eq_some h, by simpa using List.find?_some h⟩

theorem detectSensor_some {pid pid' : ℕ} {detected : List (Option ℕ)} {info : CameraSensorInfo}
    (h : detectSensor pid detected = (pid', some info)) :
    info ∈ cameraSensor ∧ info.pid = pid' := by
  induction detected generalizing pid with
  | nil => cases h
  | cons d detected ih =>
    cases d with
    | none => exact ih h
    | some p =>
      rw [detectSensor] at h
      cases hp : sensorGetInfo p with
      | none => exact ih (by simpa only [hp] using h)
      | some info' =>
        rw [hp] at h
        cases h
        exact mem_of_sensorGetInfo hp

end Esp32Eye
