import Esp32Eye.Lib.Queue
import Esp32Eye.Network

/-!
# `main/network/tasks.c`: the three tasks a frame passes through

`task_capture_camera_image` obtains a frame from the camera driver and puts its pointer on
`image_produce_queue`; `task_send_camera_image` takes it from there, sends it under the mutex and
puts it on `image_recycle_queue`; `task_recycle_camera_image` takes it from there and returns it
to the driver. Both queues have room for one pointer.

A frame pointer is `CameraFb`: its address, the number of the `esp_camera_fb_get` that returned
it, which tells two uses of one buffer apart, and the bytes the driver handed out. The driver
itself is only the set of addresses it has handed out and not had back. Reading a field through
the pointer is an event, so that it can be asked who owned the frame when it was read.

Steps are as in `Network.lean`. The clock readings and the outcomes of `sendmsg` come with the
action.
-/

namespace Esp32Eye

open Lib

/-- `TARGET_FRAMERATE` and `CAPTURE_INTERVAL_MS`. -/
def targetFramerate : UInt64 := 30
def captureIntervalMs : UInt64 := 1000 / targetFramerate

/-- A `camera_fb_t*` as `esp_camera_fb_get` returned it. -/
structure CameraFb where
  address : ℕ
  acquisition : ℕ
  buf : List UInt8
  deriving DecidableEq, Repr

/-- The camera driver: how many frames it has handed out, and the addresses of those it has not
    had back. -/
structure Camera where
  acquired : ℕ
  outstanding : List ℕ

/-! ## Program points -/

/-- `task_capture_camera_image`. -/
inductive CapturePc
  /-- the head of the loop, at `xEventGroupWaitBits` -/
  | wait
  /-- at `uxQueueMessagesWaiting` -/
  | check
  /-- in `esp_camera_fb_get` -/
  | fbGet (start : UInt64)
  /-- at `xQueueSendToBack` -/
  | enqueue (start : UInt64) (fb : CameraFb)
  /-- the frame was put on the queue; about to log -/
  | log (start : UInt64) (fb : CameraFb)
  /-- at `vTaskDelay` -/
  | delay (timeToWaitMs : UInt64)
  deriving DecidableEq, Repr

/-- `task_send_camera_image`. -/
inductive SendPc
  /-- the head of the loop, at `xQueueReceive` -/
  | receive
  /-- about to read the clock -/
  | start (fb : CameraFb)
  | take (fb : CameraFb) (start : UInt64)
  /-- holding the mutex, about to call `server_send_image_data` -/
  | send (fb : CameraFb) (start : UInt64)
  /-- the mutex given back, about to read the clock -/
  | finish (fb : CameraFb) (start : UInt64)
  /-- at `xQueueSendToBack` -/
  | enqueue (fb : CameraFb)
  deriving DecidableEq, Repr

/-- `task_recycle_camera_image`. -/
inductive RecyclePc
  /-- the head of the loop, at `xQueueReceive` -/
  | receive
  /-- about to call `esp_camera_fb_return` -/
  | fbReturn (fb : CameraFb)
  deriving DecidableEq, Repr

/-! ## State, actions, events -/

/-- The queues, the driver, and where each of the three tasks is with its locals. -/
structure Pipeline where
  imageProduceQueue : Queue 1 CameraFb
  imageRecycleQueue : Queue 1 CameraFb
  camera : Camera
  capture : CapturePc
  send : SendPc
  sequenceNumber : UInt16
  timestamp : UInt32
  recycle : RecyclePc

inductive CaptureInput
  | go
  /-- `esp_timer_get_time` -/
  | clock (now : UInt64)
  /-- `esp_camera_fb_get`: `NULL`, or a buffer and what is in it -/
  | fbGet (fb : Option (ℕ × List UInt8))
  deriving DecidableEq, Repr

inductive SendInput
  | go
  | clock (now : UInt64)
  /-- what each `sendmsg` of `server_send_image_data` returns -/
  | sendmsg (result : Slot → ℤ)

inductive PipelineAction
  | capture (input : CaptureInput)
  | send (input : SendInput)
  | recycle

/-- The two queues. -/
inductive ImageQueue
  | produce
  | recycle
  deriving DecidableEq, Repr

/-- The fields of a `camera_fb_t` that the tasks read. -/
inductive FbField
  | buf
  | len
  deriving DecidableEq, Repr

inductive PipelineEvent
  | fbGet (fb : CameraFb)
  | sendToBack (q : ImageQueue) (fb : CameraFb)
  | receive (q : ImageQueue) (fb : CameraFb)
  | fbReturn (fb : CameraFb)
  /-- `field` of `*fb` was read by a task -/
  | read (t : Task) (fb : CameraFb) (field : FbField)
  /-- `fb` was given to `server_send_image_data` -/
  | sent (fb : CameraFb) (sequenceNumber : UInt16) (timestamp : UInt32) (start : UInt64)
      (report : Server.SendReport)

/-- A step's outcome: the mutex, the state and the events, newest first. -/
abbrev PipelineOutcome := Option Task × Pipeline × List PipelineEvent

namespace Pipeline

def take (mutex : Option Task) (t : Task) (p : Pipeline) : Option PipelineOutcome :=
  if mutex = none then some (some t, p, []) else none

def go (mutex : Option Task) (p : Pipeline) (es : List PipelineEvent) : Option PipelineOutcome :=
  some (mutex, p, es)

def give (p : Pipeline) (es : List PipelineEvent) : Option PipelineOutcome := some (none, p, es)

/-! ## `task_capture_camera_image` -/

/-- What is left of the frame interval after `elapsedMs`. -/
def timeToWait (elapsedMs : UInt64) : UInt64 :=
  if elapsedMs ≤ captureIntervalMs then captureIntervalMs - elapsedMs else 0

def captureStep (mutex : Option Task) (g : EventBits) (p : Pipeline) :
    CaptureInput → Option PipelineOutcome
  | .go =>
    match p.capture with
    | .wait =>
        if g.allSet (clientsAvailableBit ||| clientsInterestedInVideoBit) then
          go mutex { p with capture := .check } []
        else none
    | .check =>
        if p.imageProduceQueue.messagesWaiting = 0 then none
        else go mutex { p with capture := .delay captureIntervalMs } []
    | .enqueue start fb =>
        match p.imageProduceQueue.sendToBack fb with
        | some q =>
            go mutex { p with imageProduceQueue := q, capture := .log start fb }
              [.sendToBack .produce fb]
        | none => none
    | .delay _ => go mutex { p with capture := .wait } []
    | .fbGet _ => none
    | .log _ _ => none
  | .clock now =>
    match p.capture with
    | .check =>
        if p.imageProduceQueue.messagesWaiting = 0 then
          go mutex { p with capture := .fbGet now } []
        else none
    | .log start fb =>
        -- `ESP_LOGI(…, elapsed_ms, fb->len)`, with the pointer already on the queue
        go mutex { p with capture := .delay (timeToWait ((now - start) / 1000)) }
          [.read .captureCameraImage fb .len]
    | _ => none
  | .fbGet result =>
    match p.capture, result with
    | .fbGet _, none => go mutex { p with capture := .delay captureIntervalMs } []
    | .fbGet start, some (address, buf) =>
        let fb : CameraFb := { address := address, acquisition := p.camera.acquired, buf := buf }
        go mutex
          { p with
            camera :=
              { acquired := p.camera.acquired + 1
                outstanding := address :: p.camera.outstanding }
            capture := .enqueue start fb }
          [.fbGet fb]
    | _, _ => none

/-! ## `task_send_camera_image` -/

def sendStep (mutex : Option Task) (s : Server) (p : Pipeline) :
    SendInput → Option PipelineOutcome
  | .go =>
    match p.send with
    | .receive =>
        match p.imageProduceQueue.receive with
        | some (fb, q) =>
            go mutex { p with imageProduceQueue := q, send := .start fb } [.receive .produce fb]
        | none => none
    | .take fb start => take mutex .sendCameraImage { p with send := .send fb start }
    | .enqueue fb =>
        match p.imageRecycleQueue.sendToBack fb with
        | some q =>
            go mutex { p with imageRecycleQueue := q, send := .receive } [.sendToBack .recycle fb]
        | none => none
    | .start _ => none
    | .send _ _ => none
    | .finish _ _ => none
  | .clock now =>
    match p.send with
    | .start fb => go mutex { p with send := .take fb now } []
    | .finish fb start =>
        -- `uint32_t millisecods_elapsed = (end - start) / 1000`
        go mutex
          { p with
            timestamp := p.timestamp + ((now - start) / 1000).toUInt32, send := .enqueue fb } []
    | _ => none
  | .sendmsg result =>
    match p.send with
    | .send fb start =>
        let report := s.sendImageData fb.buf p.sequenceNumber p.timestamp result
        give { p with sequenceNumber := p.sequenceNumber + 1, send := .finish fb start }
          [.sent fb p.sequenceNumber p.timestamp start report,
            .read .sendCameraImage fb .len, .read .sendCameraImage fb .buf]
    | _ => none

/-! ## `task_recycle_camera_image` -/

def recycleStep (mutex : Option Task) (p : Pipeline) : Option PipelineOutcome :=
  match p.recycle with
  | .receive =>
      match p.imageRecycleQueue.receive with
      | some (fb, q) =>
          go mutex { p with imageRecycleQueue := q, recycle := .fbReturn fb }
            [.receive .recycle fb]
      | none => none
  | .fbReturn fb =>
      go mutex
        { p with
          camera := { p.camera with outstanding := p.camera.outstanding.erase fb.address }
          recycle := .receive }
        [.fbReturn fb]

/-- A step of one of the three tasks, with the mutex, the event group and the table as they
    stand. -/
def step (mutex : Option Task) (n : Network) (p : Pipeline) :
    PipelineAction → Option PipelineOutcome
  | .capture input => captureStep mutex n.eventGroup p input
  | .send input => sendStep mutex n.server p input
  | .recycle => recycleStep mutex p

end Pipeline
end Esp32Eye
