import Esp32Eye.Dma
import Esp32Eye.Lib.ByteOrder
import Esp32Eye.Lib.Queue
import Esp32Eye.Lib.Ring
import Esp32Eye.Lib.Run

/-!
# `esp32-camera/driver/cam_hal.c`: frames between the DMA and the application

Four parties share a `cam_obj_t`. The DMA writes elements into the ring `dma_buffer` while it runs.
Two interrupt handlers put an event on `event_queue`, at the end of a half buffer and at the
vertical sync, and stop the DMA if there is no room. `cam_task` takes the events one by one, copies
half buffers into the frame it is filling and puts a finished frame on `frame_buffer_queue`.
`cam_take` takes a frame from there and looks for the end marker, `cam_give` makes a frame free
again; these two are called by the tasks of the application.

**Granularity.** A step of `cam_task` is what it does between two accesses to something another
party writes: the event queue, `state`, a flag `en`, the frame queue, the DMA. The copy of a half
buffer is one step. `xTaskGetTickCount` and the passing of a timeout come with the action.

This is the build for the ESP32, in which `psram_mode` is `false`: `cam_task` copies, and the
branches for a DMA that writes into the frame itself are not there.
-/

namespace Esp32Eye

open Lib

/-! ## `cam_config` -/

/-- `camera_grab_mode_t`. -/
inductive GrabMode
  | whenEmpty
  | latest
  deriving DecidableEq, Repr

/-- The fields of `camera_config_t` that decide how frames are captured. -/
structure CameraConfig where
  pixelFormat : Pixformat
  xclkFreqHz : ℕ
  fbCount : ℕ
  grabMode : GrabMode
  deriving DecidableEq, Repr

/-- What `cam_config` computes and `cam_obj_t` keeps. -/
structure CamSettings where
  jpegMode : Bool
  frameCnt : ℕ
  frameBufferQueueLen : ℕ
  recvSize : ℕ
  fbSize : ℕ
  sampling : Sampling
  dma : DmaSizes

/-- `cam_config` up to the first allocation. The result of `ll_cam_set_sample_mode` is assigned to
    `ret` and overwritten before anything looks at it, so an unsupported format goes on with what
    the variables held. -/
def camSettings (config : CameraConfig) (width height sensorPid : ℕ) :
    Except DmaSizesError CamSettings :=
  let sampling := (setSampleMode config.pixelFormat config.xclkFreqHz sensorPid).getD .unset
  let jpegMode := config.pixelFormat = .jpeg
  let recvSize :=
    if jpegMode then width * height / 5 else width * height * sampling.inBytesPerPixel
  let fbSize := if jpegMode then recvSize else width * height * sampling.fbBytesPerPixel
  match dmaSizes jpegMode width height sampling with
  | .error e => .error e
  | .ok dma =>
      .ok
        { jpegMode := jpegMode
          frameCnt := config.fbCount
          frameBufferQueueLen :=
            if config.grabMode = .latest ∧ config.fbCount > 1 then config.fbCount - 1
            else config.fbCount
          recvSize := recvSize
          fbSize := fbSize
          sampling := sampling
          dma := dma }

namespace CamSettings

/-- `rx_eof_num`: the elements of a half buffer. -/
def eofNum (s : CamSettings) : ℕ := s.dma.dmaHalfBufferSize / sizeofDmaElem

/-- `pixels_per_dma`. -/
def pixelsPerDma (s : CamSettings) : ℕ :=
  s.dma.dmaHalfBufferSize * s.sampling.fbBytesPerPixel
    / (bytesPerSample s.sampling.mode * s.sampling.inBytesPerPixel)

end CamSettings

/-- Settings under which the driver can run: there is a frame, and the filter makes of the elements
    of a half buffer exactly the bytes that `cam_task` expects of it. -/
structure CamConfig extends CamSettings where
  frameCnt_pos : 0 < frameCnt
  eofNum_pos : 0 < toCamSettings.eofNum
  three_le : 3 ≤ toCamSettings.pixelsPerDma
  filter_bytes : ∀ els : List DmaElem, els.length = toCamSettings.eofNum →
    (sampling.filter els).bytes.length = toCamSettings.pixelsPerDma
  filter_length : ∀ els : List DmaElem, els.length = toCamSettings.eofNum →
    (sampling.filter els).length = toCamSettings.pixelsPerDma

/-! ## The markers -/

/-- `JPEG_SOI_MARKER` and `JPEG_EOI_MARKER`, as a little-endian host reads them. -/
def jpegSoiMarker : UInt32 := 0xFFD8FF
def jpegEoiMarker : UInt16 := 0xD9FF

/-- The 32-bit word at `i`, without its highest byte, is the start marker. -/
def soiAt (inbuf : ℕ → UInt8) (i : ℕ) : Bool :=
  leWord32 (inbuf i) (inbuf (i + 1)) (inbuf (i + 2)) (inbuf (i + 3)) &&& 0xFFFFFF = jpegSoiMarker

/-- The 16-bit word at `i` is the end marker. -/
def eoiAt (inbuf : ℕ → UInt8) (i : ℕ) : Bool :=
  UInt16.ofNat ((inbuf i).toNat + 256 * (inbuf (i + 1)).toNat) = jpegEoiMarker

/-- `cam_verify_jpeg_soi`. -/
def camVerifyJpegSoi (inbuf : ℕ → UInt8) (length : ℕ) : ℤ :=
  if soiAt inbuf 0 then 0
  else
    match (List.range length).find? (soiAt inbuf) with
    | some i => i
    | none => -1

/-- The loop of `cam_verify_jpeg_eoi`, from `dptr` down; the first byte is not looked at. -/
def eoiFrom (inbuf : ℕ → UInt8) : ℕ → ℤ
  | 0 => -1
  | dptr + 1 => if eoiAt inbuf (dptr + 1) then (dptr + 1 : ℕ) else eoiFrom inbuf dptr

/-- `cam_verify_jpeg_eoi`. -/
def camVerifyJpegEoi (inbuf : ℕ → UInt8) (length : ℕ) : ℤ := eoiFrom inbuf (length - 2)

/-! ## Data -/

/-- `cam_event_t`. -/
inductive CamEvent
  | inSucEof
  | vsync
  deriving DecidableEq, Repr

/-- `cam_state_t`. -/
inductive CamState
  | idle
  | readBuf
  deriving DecidableEq, Repr

/-- `cam_frame_t`: the flag, and the memory and the length of its `fb`. -/
structure CamFrame where
  en : Bool
  len : ℕ
  buf : ℕ → UInt8

namespace CamFrame

/-- What is in the frame. -/
def bytes (f : CamFrame) : List UInt8 := (List.range f.len).map f.buf

/-- `len += ll_cam_memcpy(cam_obj, &buf[len], …)`. -/
def append (f : CamFrame) (r : Filtered) : CamFrame :=
  { f with
    len := f.len + r.length
    buf := fun i => if f.len ≤ i then r.bytes.getD (i - f.len) (f.buf i) else f.buf i }

end CamFrame

/-- Where `cam_task` is. A `CamState` says from which branch `cam_start_frame` was called. -/
inductive CamTaskPc (n : ℕ)
  /-- at `xQueueReceive(event_queue)` -/
  | receive
  | dispatch (event : CamEvent)
  /-- the frame has no room for the half buffer; about to call `ll_cam_stop` -/
  | overflow
  /-- the first half buffer does not begin an image; about to call `ll_cam_stop` -/
  | noSoi
  /-- and about to set the state -/
  | noSoiIdle
  /-- a vertical sync while a frame is read; about to call `ll_cam_stop` -/
  | vsync
  /-- about to take the rest of the frame from the DMA and close it -/
  | complete
  /-- at `xQueueSend(frame_buffer_queue)` -/
  | send
  /-- the queue was full; about to pop a frame from it -/
  | pop
  /-- `fb2` was popped; at `xQueueSend` again -/
  | resend (fb2 : Fin n)
  /-- about to call `cam_give(fb2)` -/
  | giveBack (fb2 : Fin n)
  /-- in `cam_get_next_frame`, at its first test -/
  | nextFrame (origin : CamState)
  /-- in its loop -/
  | scan (origin : CamState) (x : ℕ)
  /-- about to call `ll_cam_start` -/
  | start (origin : CamState)
  | started (origin : CamState)
  /-- no frame was free; about to set the state -/
  | setIdle
  deriving DecidableEq, Repr

namespace CamTaskPc

/-- `cam_task` adds to the frame `framePos`, or has just done so. -/
@[simp] def Reads {n : ℕ} (state : CamState) : CamTaskPc n → Prop
  | .receive => state = .readBuf
  | .dispatch _ => state = .readBuf
  | .overflow => True
  | .vsync => True
  | .complete => True
  | _ => False

instance {n : ℕ} (state : CamState) (task : CamTaskPc n) : Decidable (task.Reads state) :=
  match task with
  | .receive | .dispatch _ => inferInstanceAs (Decidable (state = .readBuf))
  | .overflow | .vsync | .complete => inferInstanceAs (Decidable True)
  | .noSoi | .noSoiIdle | .send | .pop | .resend _ | .giveBack _ | .nextFrame _ | .scan _ _
  | .start _ | .started _ | .setIdle => inferInstanceAs (Decidable False)

/-- `cam_task` is handling a vertical sync. -/
@[simp] def Closes {n : ℕ} : CamTaskPc n → Bool
  | .receive => false
  | .dispatch event => event = .vsync
  | .overflow => false
  | .noSoi => false
  | .noSoiIdle => false
  | _ => true

end CamTaskPc

/-- Where a call of `cam_take` is, if one is under way. -/
inductive TakePc (n : ℕ)
  | none
  /-- entered, about to read the tick count -/
  | enter (timeout : UInt32)
  /-- at `xQueueReceive(frame_buffer_queue)` -/
  | receive (timeout start : UInt32)
  /-- a frame was received; about to look for its end marker -/
  | verify (x : Fin n) (timeout start : UInt32)
  /-- it has none; about to call `cam_give` -/
  | giveBack (x : Fin n) (timeout start : UInt32)
  /-- about to call `cam_take` again with what is left of the timeout -/
  | retry (timeout start : UInt32)
  deriving DecidableEq, Repr

/-- `cam_obj_t`, the locals of `cam_task` and of `cam_take`, and the DMA. The frames that the
    application has been handed and has not given back are not in the source; they are what a
    caller has to keep track of. -/
structure Driver (c : CamConfig) where
  state : CamState
  frames : Fin c.frameCnt → CamFrame
  eventQueue : Queue (c.dma.dmaHalfBufferCnt - 1) CamEvent
  frameBufferQueue : Queue c.frameBufferQueueLen (Fin c.frameCnt)
  dmaBuffer : Ring (c.dma.dmaHalfBufferCnt * c.eofNum) DmaElem
  dmaRunning : Bool
  /-- the interrupt at the end of a half buffer is pending -/
  eofPending : Bool
  task : CamTaskPc c.frameCnt
  framePos : Fin c.frameCnt
  cnt : ℕ
  take : TakePc c.frameCnt
  out : List (Fin c.frameCnt)

inductive TakeInput
  /-- `esp_camera_fb_get` is called -/
  | call
  | go
  /-- `xTaskGetTickCount` -/
  | ticks (now : UInt32)
  /-- `xQueueReceive` gives up -/
  | timeout
  deriving DecidableEq, Repr

inductive DriverAction
  /-- the DMA writes an element -/
  | sample (e : DmaElem)
  /-- `ll_cam_dma_isr` -/
  | dmaIsr
  /-- `ll_cam_vsync_isr` -/
  | vsyncIsr
  | camTask
  | take (input : TakeInput)
  /-- `esp_camera_fb_return` -/
  | give (address : ℕ)
  deriving DecidableEq, Repr

inductive DriverEvent (n : ℕ)
  /-- the DMA was started for the frame -/
  | started (x : Fin n)
  | sampled (e : DmaElem)
  /-- `count` bytes were written into the frame at `offset` -/
  | copied (x : Fin n) (offset count : ℕ)
  | queued (x : Fin n)
  /-- a frame that was sent, or was to be sent, was made free again without being handed out -/
  | discarded (x : Fin n)
  | handedOut (x : Fin n) (bytes : List UInt8)
  /-- `cam_take` returned `NULL` -/
  | gaveUp
  | given (x : Fin n)
  deriving DecidableEq, Repr

/-- `FB_GET_TIMEOUT` at a tick of 10 ms. -/
def fbGetTimeout : UInt32 := 4000 / 10

namespace Driver

variable {c : CamConfig}

/-- A step's outcome: the state and the events, newest first. -/
abbrev Outcome (c : CamConfig) := Driver c × List (DriverEvent c.frameCnt)

/-! ## The DMA and the interrupt handlers -/

/-- `ll_cam_stop`. -/
def stop (d : Driver c) : Driver c := { d with dmaRunning := false, eofPending := false }

/-- `ll_cam_start`: the first descriptor is the first again. -/
def start (d : Driver c) : Driver c :=
  { d with dmaRunning := true, eofPending := false, dmaBuffer := d.dmaBuffer.restart }

/-- `ll_cam_send_event`. -/
def sendEvent (event : CamEvent) (d : Driver c) : Driver c :=
  match d.eventQueue.sendToBack event with
  | some q => { d with eventQueue := q }
  | none => { d.stop with state := .idle }

/-- The DMA writes an element; the last one of a half buffer raises the interrupt. -/
def sample (e : DmaElem) (d : Driver c) : Option (Outcome c) :=
  if d.dmaRunning then
    let dmaBuffer := d.dmaBuffer.write e
    some
      ({ d with
          dmaBuffer := dmaBuffer
          eofPending := d.eofPending || dmaBuffer.written % c.eofNum = 0 },
        [.sampled e])
  else none

/-- `ll_cam_dma_isr`. -/
def dmaIsr (d : Driver c) : Option (Outcome c) :=
  if d.eofPending then some (sendEvent .inSucEof { d with eofPending := false }, []) else none

/-! ## `cam_task` -/

/-- The frame that is filled. -/
def current (d : Driver c) : CamFrame := d.frames d.framePos

def setFrame (d : Driver c) (x : Fin c.frameCnt) (f : CamFrame) : Driver c :=
  { d with frames := Function.update d.frames x f }

/-- `frames[x].en = en`. -/
def setEn (d : Driver c) (x : Fin c.frameCnt) (en : Bool) : Driver c :=
  d.setFrame x { d.frames x with en := en }

/-- The elements at `&dma_buffer[(cnt % dma_half_buffer_cnt) * dma_half_buffer_size]`. -/
def halfBuffer (d : Driver c) : List DmaElem :=
  (List.range c.eofNum).map fun j =>
    d.dmaBuffer.cells (d.cnt % c.dma.dmaHalfBufferCnt * c.eofNum + j)

/-- `fb_size < len + pixels_per_dma`. -/
def isFull (d : Driver c) : Bool := c.fbSize < d.current.len + c.pixelsPerDma

/-- The half buffer is copied behind what the frame has. -/
def copyHalfBuffer (d : Driver c) : Driver c :=
  d.setFrame d.framePos (d.current.append (c.sampling.filter d.halfBuffer))

/-- The event of that copy. -/
def copied (d : Driver c) : DriverEvent c.frameCnt :=
  .copied d.framePos d.current.len (c.sampling.filter d.halfBuffer).bytes.length

/-- `CAM_IN_SUC_EOF_EVENT` while a frame is read. -/
def onEof (d : Driver c) : Outcome c :=
  if d.isFull then ({ d with task := .overflow }, [])
  else
    let d' := d.copyHalfBuffer
    if c.jpegMode ∧ d.cnt = 0 ∧ camVerifyJpegSoi d'.current.buf d'.current.len ≠ 0 then
      ({ d' with task := .noSoi }, [d.copied])
    else ({ d' with cnt := d.cnt + 1, task := .receive }, [d.copied])

/-- `CAM_VSYNC_EVENT` while a frame is read, behind `ll_cam_stop` and before the frame is sent. -/
def onVsync (d : Driver c) : Outcome c :=
  if d.cnt ≠ 0 ∨ ¬ c.jpegMode then
    if c.jpegMode then
      if d.isFull then ({ d.setEn d.framePos false with task := .send }, [])
      else
        ({ d.copyHalfBuffer.setEn d.framePos false with cnt := d.cnt + 1, task := .send },
          [d.copied])
    -- `FB-SIZE`: the flag is cleared and set again
    else if d.current.len ≠ c.fbSize then
      ({ d.setEn d.framePos true with task := .nextFrame .readBuf }, [])
    else ({ d.setEn d.framePos false with task := .send }, [])
  else ({ d with task := .nextFrame .readBuf }, [])

def camTask (d : Driver c) : Option (Outcome c) :=
  match d.task with
  | .receive =>
      match d.eventQueue.receive with
      | some (event, q) => some ({ d with eventQueue := q, task := .dispatch event }, [])
      | none => none
  | .dispatch event =>
      match d.state, event with
      | .idle, .vsync => some ({ d with task := .nextFrame .idle }, [])
      | .idle, .inSucEof => some ({ d with task := .receive }, [])
      | .readBuf, .inSucEof => some d.onEof
      | .readBuf, .vsync => some ({ d with task := .vsync }, [])
  | .overflow => some ({ d.stop with task := .receive }, [])
  | .noSoi => some ({ d.stop with task := .noSoiIdle }, [])
  | .noSoiIdle => some ({ d with state := .idle, cnt := d.cnt + 1, task := .receive }, [])
  | .vsync => some ({ d.stop with task := .complete }, [])
  | .complete => some d.onVsync
  | .send =>
      match d.frameBufferQueue.sendToBack d.framePos with
      | some q =>
          some ({ d with frameBufferQueue := q, task := .nextFrame .readBuf },
            [.queued d.framePos])
      | none => some ({ d with task := .pop }, [])
  | .pop =>
      match d.frameBufferQueue.receive with
      | some (fb2, q) => some ({ d with frameBufferQueue := q, task := .resend fb2 }, [])
      | none =>
          some ({ d.setEn d.framePos true with task := .nextFrame .readBuf },
            [.discarded d.framePos])
  | .resend fb2 =>
      match d.frameBufferQueue.sendToBack d.framePos with
      | some q =>
          some ({ d with frameBufferQueue := q, task := .giveBack fb2 }, [.queued d.framePos])
      | none =>
          some ({ d.setEn d.framePos true with task := .giveBack fb2 }, [.discarded d.framePos])
  | .giveBack fb2 =>
      some ({ d.setEn fb2 true with task := .nextFrame .readBuf }, [.discarded fb2])
  | .nextFrame origin =>
      if d.current.en then some ({ d with task := .start origin }, [])
      else some ({ d with task := .scan origin 0 }, [])
  | .scan origin x =>
      if h : x < c.frameCnt then
        if (d.frames ⟨x, h⟩).en then
          some ({ d with framePos := ⟨x, h⟩, task := .start origin }, [])
        else some ({ d with task := .scan origin (x + 1) }, [])
      else
        match origin with
        | .idle => some ({ d with cnt := 0, task := .receive }, [])
        | .readBuf => some ({ d with task := .setIdle }, [])
  | .start origin => some ({ d.start with task := .started origin }, [.started d.framePos])
  | .started origin =>
      let d' := d.setFrame d.framePos { d.current with len := 0 }
      match origin with
      | .idle => some ({ d' with state := .readBuf, cnt := 0, task := .receive }, [])
      | .readBuf => some ({ d' with cnt := 0, task := .receive }, [])
  | .setIdle => some ({ d with state := .idle, cnt := 0, task := .receive }, [])

/-! ## `cam_take` and `cam_give` -/

/-- A frame leaves the driver. -/
def handOut (d : Driver c) (x : Fin c.frameCnt) : Outcome c :=
  ({ d with take := .none, out := x :: d.out }, [.handedOut x (d.frames x).bytes])

def takeStep (d : Driver c) : TakeInput → Option (Outcome c)
  | .call =>
    match d.take with
    | .none => some ({ d with take := .enter fbGetTimeout }, [])
    | _ => none
  | .ticks now =>
    match d.take with
    | .enter timeout => some ({ d with take := .receive timeout now }, [])
    | .retry timeout start => some ({ d with take := .enter (timeout - (now - start)) }, [])
    | _ => none
  | .timeout =>
    match d.take with
    | .receive _ _ =>
        if d.frameBufferQueue.items = [] then some ({ d with take := .none }, [.gaveUp])
        else none
    | _ => none
  | .go =>
    match d.take with
    | .receive timeout start =>
        match d.frameBufferQueue.receive with
        | some (x, q) =>
            some ({ d with frameBufferQueue := q, take := .verify x timeout start }, [])
        | none => none
    | .verify x timeout start =>
        if c.jpegMode then
          let offsetE := camVerifyJpegEoi (d.frames x).buf (d.frames x).len
          if 0 ≤ offsetE then
            some ((d.setFrame x { d.frames x with len := offsetE.toNat + 2 }).handOut x)
          else some ({ d with take := .giveBack x timeout start }, [])
        else some (d.handOut x)
    | .giveBack x timeout start =>
        some ({ d.setEn x true with take := .retry timeout start }, [.discarded x])
    | _ => none

/-- `cam_give`, which does nothing for a pointer that is no frame's. -/
def give (d : Driver c) (address : ℕ) : Outcome c :=
  if h : address < c.frameCnt then
    ({ d.setEn ⟨address, h⟩ true with out := d.out.erase ⟨address, h⟩ }, [.given ⟨address, h⟩])
  else (d, [])

def step (d : Driver c) : DriverAction → Option (Outcome c)
  | .sample e => d.sample e
  | .dmaIsr => d.dmaIsr
  | .vsyncIsr => some (sendEvent .vsync d, [])
  | .camTask => d.camTask
  | .take input => d.takeStep input
  | .give address => some (d.give address)

/-- The driver when `cam_task` starts; what is in the memory is whatever was there. -/
def init (c : CamConfig) (buf : Fin c.frameCnt → ℕ → UInt8) (cells : ℕ → DmaElem) : Driver c where
  state := .idle
  frames x := { en := true, len := 0, buf := buf x }
  eventQueue := .create
  frameBufferQueue := .create
  dmaBuffer := { cells := cells, written := 0 }
  dmaRunning := false
  eofPending := false
  task := .receive
  framePos := ⟨0, c.frameCnt_pos⟩
  cnt := 0
  take := .none
  out := []

/-! ## Contracts -/

/-- The application gives back only what it was handed. -/
def givesHeld (d : Driver c) : DriverAction → Bool
  | .give address => decide (address ∈ d.out.map Fin.val)
  | _ => true

/-- A vertical sync is waiting to be handled, or is being handled. -/
def blanking (d : Driver c) : Bool := decide (.vsync ∈ d.eventQueue.items) || d.task.Closes

/-- The timing the driver relies on, besides `givesHeld`: the camera sends no pixels between the
    vertical sync and the restart of the DMA, the interrupt for the last half buffer has been served
    by then, and the DMA does not come round to a half buffer that is still to be copied. -/
def keepsUp (d : Driver c) : DriverAction → Bool
  | .sample _ =>
      !d.blanking && decide (d.task.Reads d.state →
        d.dmaBuffer.written < (d.cnt + c.dma.dmaHalfBufferCnt) * c.eofNum)
  | .vsyncIsr => !d.eofPending
  | a => d.givesHeld a

/-- A run of the driver under a contract. -/
abbrev DriverRun (p : Driver c → DriverAction → Bool) (d₀ : Driver c) :
    List (DriverEvent c.frameCnt) → Driver c → Prop :=
  Run (StepOf step) (fun d a => p d a = true) d₀

end Driver
end Esp32Eye
