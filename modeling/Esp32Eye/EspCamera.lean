import Esp32Eye.Driver
import Esp32Eye.Lib.Heap
import Esp32Eye.Lib.Run
import Esp32Eye.Sensor

/-!
# `esp32-camera/driver/esp_camera.c`: the camera comes up and goes down

`esp_camera_init` asks for some fifteen things one after another: memory, queues, a task, an
interrupt, a bus driver, a clock. Wherever it fails, it goes through `esp_camera_deinit`, which
gives back whatever the pointers in `cam_obj` and `s_state` say is there. Most of `cam_hal.c`'s
`cam_init`, `cam_config` and `cam_deinit` is this, and so are `sccb.c` and `xclk.c`.

What the calls into the system return is a parameter, `InitResults`, one record for each
`esp_camera_init`. What they hand out is a block on a heap, or an entry in a table that is there
once: the handlers and interrupts of the pins, the I2C drivers, the channels of the LEDC. Two things
stay when the camera is gone, `Lasting`: the ISR service and the I2S0 module, which nothing gives
back. A function has no result where the code gives back something that is not there, goes through
a null pointer or divides by zero.

The registers of the I2S0, the LEDC timer and the routing of the pins are left out: every
`esp_camera_init` that needs them writes them anew, and nothing reads them back.

This is the build for the ESP32, where `ll_cam_config` and `ll_cam_set_pin` always return `ESP_OK`.
-/

namespace Esp32Eye

open Lib

/-! ## What there is to be had -/

/-- `esp_err_t`. -/
abbrev EspErr := ℤ

def espOk : EspErr := 0
def espFail : EspErr := -1
def espErrNoMem : EspErr := 0x101
def espErrInvalidArg : EspErr := 0x102
def espErrInvalidState : EspErr := 0x103
def espErrNotFound : EspErr := 0x105
def espErrNotSupported : EspErr := 0x106
def espErrCameraFailedToSetFrameSize : EspErr := 0x20002

/-- What the blocks on the heap are. -/
inductive Block
  | camObj
  | frames
  | frameBuffer
  | dmaBuffer
  | dmaDescriptors
  | eventQueue
  | frameBufferQueue
  | camIntr
  | camTask
  | cameraState
  deriving DecidableEq, Repr

/-- `gpio_num_t`, `ledc_channel_t`: the pins and channels of the ESP32. -/
abbrev Gpio := Fin 40
abbrev LedcChannel := Fin 8

/-- `SCCB_I2C_PORT_DEFAULT`; `I2C_NUM_MAX`. -/
def sccbI2cPortDefault : ℤ := 1
def i2cNumMax : ℤ := 2

/-- The fields of `camera_config_t` that are not in `CameraConfig`, as far as they are looked at. -/
structure EspCameraConfig extends CameraConfig where
  pinXclk : ℤ
  pinSccbSda : ℤ
  pinVsync : Gpio
  ledcChannel : LedcChannel
  frameSize : Framesize
  sccbI2cPort : ℤ

/-- What the calls of one `esp_camera_init` return, in the order of the calls. -/
structure InitResults where
  camObj : Bool
  /-- `gpio_install_isr_service`, where the service is not there yet -/
  installIsrService : Bool
  /-- `gpio_isr_handler_add`, where the service is there -/
  isrHandlerAdd : Bool
  cameraState : Bool
  ledcTimerConfig : Bool
  ledcChannelConfig : Bool
  i2cParamConfig : EspErr
  /-- `i2c_driver_install`, where the port has no driver yet -/
  i2cDriverInstall : EspErr
  acknowledged : CameraModel → Bool
  /-- for each sensor driver that is compiled in, what its `detect` has read if it is its sensor -/
  detected : List (Option ℕ)
  /-- `reset` of the sensor -/
  reset : EspErr
  frames : Bool
  frameBuffer : ℕ → Bool
  dmaBuffer : Bool
  dmaDescriptors : Bool
  eventQueue : Bool
  frameBufferQueue : Bool
  intrAlloc : EspErr
  createTask : Bool
  /-- `set_framesize` of the sensor -/
  setFramesize : ℤ

/-- `lldesc_t`: `buf` counts from the start of the DMA buffer, `empty` is the index of the next. -/
structure Lldesc where
  size : ℕ
  length : ℕ
  sosf : Bool
  eof : Bool
  owner : ℕ
  buf : ℕ
  empty : ℕ
  deriving DecidableEq, Repr

/-- The pointers of `cam_obj_t`, and what `cam_config` has computed. `frames` comes with the `buf`
    of each frame; in this build no frame has descriptors or an offset of its own. -/
structure CamObj where
  address : ℕ
  vsyncPin : Gpio
  settings : Option CamSettings := none
  frames : Option (ℕ × List (Option ℕ)) := none
  dmaBuffer : Option ℕ := none
  dma : Option (ℕ × List Lldesc) := none
  eventQueue : Option ℕ := none
  frameBufferQueue : Option ℕ := none
  camIntrHandle : Option ℕ := none
  taskHandle : Option ℕ := none

/-- `camera_state_t`, as far as the driver looks at it itself. -/
structure CameraState where
  address : ℕ
  pid : ℕ := 0
  framesize : Framesize := .size96x96
  pixformat : Pixformat := .rgb565

/-- What stays in the system once it is there: no function of the component undoes it. -/
structure Lasting where
  /-- `gpio_install_isr_service` -/
  isrService : Bool := false
  /-- how often `periph_module_enable` was called for the I2S0; it counts -/
  i2s0Enabled : ℕ := 0
  deriving DecidableEq, Repr

/-- What the camera component has taken from the system, and its static variables. -/
structure EspCamera where
  heap : Heap Block
  lasting : Lasting
  /-- the handler of a pin, by the `cam_obj_t` it is called with -/
  isrHandler : Gpio → Option ℕ
  intrEnabled : Gpio → Bool
  dmaRunning : Bool
  i2cInstalled : ℤ → Bool
  ledcRunning : LedcChannel → Bool
  camObj : Option CamObj
  sState : Option CameraState
  sccbI2cPort : ℤ
  sccbOwnsI2cPort : Bool
  gLedcChannel : Option LedcChannel

namespace EspCamera

/-! ## `sccb.c` and `xclk.c` -/

/-- `SCCB_Init`. The port is marked as its own before anything is done about it. -/
def sccbInit (r : InitResults) (s : EspCamera) : EspErr × EspCamera :=
  let s := { s with sccbI2cPort := sccbI2cPortDefault, sccbOwnsI2cPort := true }
  if r.i2cParamConfig ≠ espOk then (r.i2cParamConfig, s)
  else if s.i2cInstalled sccbI2cPortDefault then (espFail, s)
  else if r.i2cDriverInstall ≠ espOk then (r.i2cDriverInstall, s)
  else
    (espOk, { s with i2cInstalled := Function.update s.i2cInstalled sccbI2cPortDefault true })

/-- `SCCB_Deinit`; nobody looks at its result. -/
def sccbDeinit (s : EspCamera) : EspCamera :=
  if s.sccbOwnsI2cPort then
    { s with
      sccbOwnsI2cPort := false
      i2cInstalled := Function.update s.i2cInstalled s.sccbI2cPort false }
  else s

/-- `SCCB_Use_Port`. -/
def sccbUsePort (i2cNum : ℤ) (s : EspCamera) : EspErr × EspCamera :=
  let s := s.sccbDeinit
  if i2cNum < 0 ∨ i2cNum > i2cNumMax then (espErrInvalidArg, s)
  else (espOk, { s with sccbI2cPort := i2cNum })

/-- `camera_enable_out_clock`; nobody looks at its result. -/
def cameraEnableOutClock (config : EspCameraConfig) (r : InitResults) (s : EspCamera) : EspCamera :=
  if !r.ledcTimerConfig then s
  else
    let s := { s with gLedcChannel := some config.ledcChannel }
    if !r.ledcChannelConfig then s
    else { s with ledcRunning := Function.update s.ledcRunning config.ledcChannel true }

/-- `camera_disable_out_clock`. -/
def cameraDisableOutClock (s : EspCamera) : EspCamera :=
  match s.gLedcChannel with
  | none => s
  | some ch =>
      { s with ledcRunning := Function.update s.ledcRunning ch false, gLedcChannel := none }

/-! ## `cam_hal.c` -/

/-- `ll_cam_set_pin`; nobody looks at what its calls return. Without the service there is no
    handler; the interrupt of the pin is disabled in any case. -/
def llCamSetPin (config : EspCameraConfig) (r : InitResults) (address : ℕ) (s : EspCamera) :
    EspCamera :=
  let isrService := s.lasting.isrService || r.installIsrService
  { s with
    lasting := { s.lasting with isrService := isrService }
    isrHandler :=
      if isrService && r.isrHandlerAdd then
        Function.update s.isrHandler config.pinVsync (some address)
      else s.isrHandler
    intrEnabled := Function.update s.intrEnabled config.pinVsync false }

/-- `ll_cam_config`: the module is enabled once more. -/
def llCamConfig (s : EspCamera) : EspCamera :=
  { s with lasting := { s.lasting with i2s0Enabled := s.lasting.i2s0Enabled + 1 } }

/-- `cam_init`: the static pointer is overwritten, whatever it was. -/
def camInit (config : EspCameraConfig) (r : InitResults) (s : EspCamera) : EspErr × EspCamera :=
  match s.heap.acquire r.camObj .camObj with
  | (none, h) => (espErrNoMem, { s with heap := h, camObj := none })
  | (some address, h) =>
      let cam : CamObj := { address := address, vsyncPin := config.pinVsync }
      (espOk, ({ s with heap := h, camObj := some cam }.llCamSetPin config r address).llCamConfig)

/-- The `free` of the frame buffers, in `cam_deinit`. -/
def releaseFrameBuffers : List (Option ℕ) → Heap Block → Option (Heap Block)
  | [], h => some h
  | buf :: bufs, h => do
      let h ← h.release .frameBuffer buf
      releaseFrameBuffers bufs h

/-- `gpio_isr_handler_remove`, which does nothing without the service. -/
def gpioIsrHandlerRemove (pin : Gpio) (s : EspCamera) : Gpio → Option ℕ :=
  if s.lasting.isrService then Function.update s.isrHandler pin none else s.isrHandler

/-- `cam_deinit`, with `cam_stop` in front and `ll_cam_deinit` behind the frames. What is given back
    by `free`, `vTaskDelete`, `vQueueDelete` or `esp_intr_free` is behind a test for null. -/
def camDeinit (s : EspCamera) : Option (EspErr × EspCamera) :=
  match s.camObj with
  | none => some (espFail, s)
  | some cam => do
      let h ← s.heap.release .camTask cam.taskHandle
      let h ← h.release .eventQueue cam.eventQueue
      let h ← h.release .frameBufferQueue cam.frameBufferQueue
      let h ← h.release .dmaDescriptors (cam.dma.map Prod.fst)
      let h ← h.release .dmaBuffer cam.dmaBuffer
      let h ← releaseFrameBuffers ((cam.frames.map Prod.snd).getD []) h
      let h ← h.release .frames (cam.frames.map Prod.fst)
      let h ← h.release .camIntr cam.camIntrHandle
      let h ← h.release .camObj (some cam.address)
      some
        (espOk,
          { s with
            heap := h
            camObj := none
            isrHandler := s.gpioIsrHandlerRemove cam.vsyncPin
            intrEnabled := Function.update s.intrEnabled cam.vsyncPin false
            dmaRunning := false })

/-- `allocate_dma_descriptors`, what it writes. -/
def dmaDescriptors (count size : ℕ) : List Lldesc :=
  (List.range count).map fun x =>
    { size := size
      length := 0
      sosf := false
      eof := false
      owner := 1
      buf := size * x
      empty := (x + 1) % count }

/-- The loop over the frames in `cam_dma_config`, from frame `x` on with `n` to go: the `buf` of
    each, null from the first that there is no memory for. -/
def allocFrameBuffers (ok : ℕ → Bool) (h : Heap Block) (x : ℕ) : ℕ → List (Option ℕ) × Heap Block
  | 0 => ([], h)
  | n + 1 =>
      match h.acquire (ok x) .frameBuffer with
      | (none, h) => (List.replicate (n + 1) none, h)
      | (some buf, h) =>
          let (bufs, h) := allocFrameBuffers ok h (x + 1) n
          (some buf :: bufs, h)

/-- `cam_dma_config`, behind the computation of the sizes. -/
def camDmaConfig (settings : CamSettings) (r : InitResults) (cam : CamObj) (h : Heap Block) :
    EspErr × CamObj × Heap Block :=
  match h.acquire r.frames .frames with
  | (none, h) => (espFail, cam, h)
  | (some frames, h) =>
      let (bufs, h) := allocFrameBuffers r.frameBuffer h 0 settings.frameCnt
      let cam := { cam with frames := some (frames, bufs) }
      if bufs.any Option.isNone then (espFail, cam, h)
      else
        match h.acquire r.dmaBuffer .dmaBuffer with
        | (none, h) => (espFail, cam, h)
        | (some dmaBuffer, h) =>
            let cam := { cam with dmaBuffer := some dmaBuffer }
            match h.acquire r.dmaDescriptors .dmaDescriptors with
            | (none, h) => (espFail, cam, h)
            | (some dma, h) =>
                let dmaNodeCnt := settings.dma.dmaBufferSize / settings.dma.dmaNodeBufferSize
                let descriptors := dmaDescriptors dmaNodeCnt settings.dma.dmaNodeBufferSize
                (espOk, { cam with dma := some (dma, descriptors) }, h)

/-- What `cam_config` asks for behind `cam_dma_config`: two queues, the interrupt and the task. Only
    the task may be missing at the end. -/
def camConfigRest (r : InitResults) (cam : CamObj) (h : Heap Block) :
    EspErr × CamObj × Heap Block :=
  match h.acquire r.eventQueue .eventQueue with
  | (none, h) => (espFail, cam, h)
  | (some eventQueue, h) =>
      let cam := { cam with eventQueue := some eventQueue }
      match h.acquire r.frameBufferQueue .frameBufferQueue with
      | (none, h) => (espFail, cam, h)
      | (some frameBufferQueue, h) =>
          let cam := { cam with frameBufferQueue := some frameBufferQueue }
          -- `ll_cam_init_isr`
          match h.acquire (r.intrAlloc = espOk) .camIntr with
          | (none, h) => (espFail, cam, h)
          | (some camIntr, h) =>
              let cam := { cam with camIntrHandle := some camIntr }
              let (task, h) := h.acquire r.createTask .camTask
              (espOk, { cam with taskHandle := task }, h)

/-- `cam_config`. -/
def camConfig (config : EspCameraConfig) (frameSize : Framesize) (sensorPid : ℕ) (r : InitResults)
    (s : EspCamera) : Option (EspErr × EspCamera) :=
  match s.camObj with
  | none => none
  | some cam =>
      let (width, height) := resolution frameSize
      match camSettings config.toCameraConfig width height sensorPid with
      | .error .undefined => none
      | .error .resolutionTooHigh => s.camDeinit.map fun (_, s) => (espFail, s)
      | .ok settings =>
          let cam := { cam with settings := some settings }
          match camDmaConfig settings r cam s.heap with
          | (err, cam, h) =>
              let s := { s with heap := h, camObj := some cam }
              if err ≠ espOk then s.camDeinit.map fun (_, s) => (espFail, s)
              else
                match camConfigRest r cam s.heap with
                | (err, cam, h) =>
                    let s := { s with heap := h, camObj := some cam }
                    if err ≠ espOk then s.camDeinit.map fun (_, s) => (espFail, s)
                    else some (espOk, s)

/-- `cam_start`; `none` where it goes through a null pointer. -/
def camStart (s : EspCamera) : Option EspCamera :=
  s.camObj.map fun cam =>
    { s with intrEnabled := Function.update s.intrEnabled cam.vsyncPin true }

/-! ## `esp_camera.c` -/

/-- The clock and the bus, in `camera_probe`. -/
def startBus (config : EspCameraConfig) (r : InitResults) (s : EspCamera) : EspErr × EspCamera :=
  let s := if config.pinXclk ≥ 0 then s.cameraEnableOutClock config r else s
  if config.pinSccbSda ≠ -1 then s.sccbInit r else s.sccbUsePort config.sccbI2cPort

/-- `camera_probe` behind that, with the sensor it has found; `reset` is called last. -/
def findSensor (r : InitResults) (state : CameraState) (s : EspCamera) :
    EspErr × Option CameraSensorInfo × EspCamera :=
  if sccbProbe r.acknowledged = 0 then (espErrNotFound, none, s.cameraDisableOutClock)
  else
    match detectSensor 0 r.detected with
    | (pid, none) =>
        let s := { s with sState := some { state with pid := pid } }
        (espErrNotSupported, none, s.cameraDisableOutClock)
    | (pid, some info) => (r.reset, some info, { s with sState := some { state with pid := pid } })

/-- `camera_probe`. -/
def cameraProbe (config : EspCameraConfig) (r : InitResults) (s : EspCamera) :
    EspErr × Option CameraSensorInfo × EspCamera :=
  if s.sState.isSome then (espErrInvalidState, none, s)
  else
    match s.heap.acquire r.cameraState .cameraState with
    | (none, h) => (espErrNoMem, none, { s with heap := h })
    | (some address, h) =>
        let state : CameraState := { address := address }
        match { s with heap := h, sState := some state }.startBus config r with
        | (ret, s) =>
            if ret ≠ espOk then (ret, none, s.cameraDisableOutClock) else s.findSensor r state

/-- `esp_camera_deinit` behind `cam_deinit`. -/
def releaseState (s : EspCamera) : Option EspCamera :=
  let s := s.cameraDisableOutClock
  match s.sState with
  | none => some s
  | some state =>
      let s := s.sccbDeinit
      (s.heap.release .cameraState (some state.address)).map fun h =>
        { s with heap := h, sState := none }

/-- `esp_camera_deinit`. -/
def espCameraDeinit (s : EspCamera) : Option (EspErr × EspCamera) := do
  let (ret, s) ← s.camDeinit
  let s ← s.releaseState
  some (ret, s)

/-- The label `fail` of `esp_camera_init`. -/
def fail (err : EspErr) (s : EspCamera) : Option (EspErr × EspCamera) :=
  s.espCameraDeinit.map fun (_, s) => (err, s)

/-- `esp_camera_init` behind `camera_probe`. The other settings of the sensor, `set_pixformat`
    among them, are not looked at. -/
def configureSensor (config : EspCameraConfig) (r : InitResults) (info : CameraSensorInfo)
    (s : EspCamera) : Option (EspErr × EspCamera) :=
  if config.pixelFormat = .jpeg ∧ !info.supportJpeg then s.fail espErrNotSupported
  else
    let frameSize :=
      if config.frameSize.ctorIdx > info.maxSize.ctorIdx then info.maxSize else config.frameSize
    match s.sState with
    | none => none
    | some state =>
        match s.camConfig config frameSize state.pid r with
        | none => none
        | some (err, s) =>
            if err ≠ espOk then s.fail err
            else
              let state := { state with framesize := frameSize, pixformat := config.pixelFormat }
              let s := { s with sState := some state }
              if r.setFramesize ≠ 0 then s.fail espErrCameraFailedToSetFrameSize
              else s.camStart.map fun s => (espOk, s)

/-- `esp_camera_init`; `camera_sensor` is not read without a sensor. -/
def espCameraInit (config : EspCameraConfig) (r : InitResults) (s : EspCamera) :
    Option (EspErr × EspCamera) :=
  match s.camInit config r with
  | (err, s) =>
      if err ≠ espOk then some (err, s)
      else
        match s.cameraProbe config r with
        | (err, info, s) =>
            if err ≠ espOk then s.fail err
            else
              match info with
              | none => none
              | some info => s.configureSensor config r info

/-! ## Runs -/

/-- Before the first call, with the I2C drivers that others have installed. -/
def boot (others : ℤ → Bool) : EspCamera where
  heap := .empty
  lasting := {}
  isrHandler := fun _ => none
  intrEnabled := fun _ => false
  dmaRunning := false
  i2cInstalled := others
  ledcRunning := fun _ => false
  camObj := none
  sState := none
  sccbI2cPort := 0
  sccbOwnsI2cPort := false
  gLedcChannel := none

end EspCamera

/-- The calls of the application, and what the camera does between them: `cam_task` starts and
    stops the DMA, an interrupt handler stops it. -/
inductive CameraCall
  | init (config : EspCameraConfig) (r : InitResults)
  | deinit
  | dma (running : Bool)

inductive CameraReturn
  | init (err : EspErr)
  | deinit (err : EspErr)
  deriving DecidableEq, Repr

namespace EspCamera

def step (s : EspCamera) : CameraCall → Option (EspCamera × List CameraReturn)
  | .init config r => (s.espCameraInit config r).map fun (err, s) => (s, [.init err])
  | .deinit => s.espCameraDeinit.map fun (err, s) => (s, [.deinit err])
  | .dma running =>
      if s.camObj.isSome then some ({ s with dmaRunning := running }, []) else none

/-- "Currently this function can only be called once": not while the camera is up. The formats are
    those that `ll_cam_set_sample_mode` knows, and the default I2C port is used only if it is
    free. -/
def asDocumented (s : EspCamera) : CameraCall → Bool
  | .init config _ =>
      s.camObj.isNone && decide (config.pixelFormat ∈ [.rgb565, .yuv422, .grayscale, .jpeg]) &&
        (decide (config.pinSccbSda = -1) || !s.i2cInstalled sccbI2cPortDefault)
  | _ => true

abbrev CameraRun (p : EspCamera → CameraCall → Bool) (s₀ : EspCamera) :
    List CameraReturn → EspCamera → Prop :=
  Run (StepOf step) (fun s a => p s a = true) s₀

end EspCamera
end Esp32Eye
