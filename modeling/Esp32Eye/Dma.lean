import Mathlib.Data.Nat.Find

/-!
# `esp32-camera/target/esp32/ll_cam.c`: what the DMA delivers and how its buffer is cut up

The camera bus is read through the I2S peripheral, which delivers elements of four bytes; how many
samples of the camera are in one depends on the sampling mode. The DMA buffer is cut into *nodes*,
one for each descriptor, and into *half buffers*, at the end of each of which there is an interrupt
and `cam_task` copies. `ll_cam_dma_sizes` chooses these sizes; `dma_filter` is what the copy makes
of the elements of a half buffer.

Sizes are `ℕ`: the largest is four mebibytes.
-/

namespace Esp32Eye

/-- `CONFIG_CAMERA_DMA_BUFFER_SIZE_MAX` and `LCD_CAM_DMA_NODE_BUFFER_MAX_SIZE`. -/
def cameraDmaBufferSizeMax : ℕ := 32768
def dmaNodeBufferMaxSize : ℕ := 4092

/-- `dma_elem_t`, lowest byte first. -/
structure DmaElem where
  sample2 : UInt8
  unused2 : UInt8
  sample1 : UInt8
  unused1 : UInt8
  deriving DecidableEq, Repr

/-- `sizeof(dma_elem_t)`. -/
def sizeofDmaElem : ℕ := 4

/-- `i2s_sampling_mode_t`. -/
inductive SamplingMode
  /-- `SM_0A0B_0B0C` -/
  | overlapping
  /-- `SM_0A0B_0C0D` -/
  | pairs
  /-- `SM_0A00_0B00` -/
  | single
  deriving DecidableEq, Repr

/-- `ll_cam_bytes_per_sample`. -/
def bytesPerSample : SamplingMode → ℕ
  | .single => 4
  | .overlapping => 4
  | .pairs => 2

/-! ## The filters -/

/-- What a filter wrote to its destination, and the length it returned. -/
structure Filtered where
  bytes : List UInt8
  length : ℕ
  deriving DecidableEq, Repr

namespace DmaFilter

/-- One sample of each element, in groups of four. -/
def firstSamples : List DmaElem → List UInt8
  | a :: b :: c :: d :: els => a.sample1 :: b.sample1 :: c.sample1 :: d.sample1 :: firstSamples els
  | _ => []

/-- Both samples of each element, in groups of four. -/
def bothSamples : List DmaElem → List UInt8
  | a :: b :: c :: d :: els =>
      a.sample1 :: a.sample2 :: b.sample1 :: b.sample2
        :: c.sample1 :: c.sample2 :: d.sample1 :: d.sample2 :: bothSamples els
  | _ => []

/-- Every other element, in groups of eight; a rest is two samples more. A rest of one or two
    elements is left out: there the source reads beyond the half buffer. It does not occur. No half
    buffer that `cam_config` computes has one (`CamSettings.Fits.exists_camConfig`), and a
    `CamConfig` cannot, since the bytes would be fewer than `filter_length` says. -/
def everyOther : List DmaElem → List UInt8
  | a :: _ :: b :: _ :: c :: _ :: d :: _ :: els =>
      a.sample1 :: b.sample1 :: c.sample1 :: d.sample1 :: everyOther els
  | a :: _ :: b :: _ => [a.sample1, b.sample1]
  | _ => []

/-- One sample of each element, in groups of eight; a rest is three elements, the last of which
    has two samples. A rest of one or two elements is left out, as in `everyOther`. -/
def everyElement : List DmaElem → List UInt8
  | a :: b :: c :: d :: e :: f :: g :: h :: els =>
      a.sample1 :: b.sample1 :: c.sample1 :: d.sample1
        :: e.sample1 :: f.sample1 :: g.sample1 :: h.sample1 :: everyElement els
  | a :: b :: c :: _ => [a.sample1, b.sample1, c.sample1, c.sample2]
  | _ => []

/-- `ll_cam_dma_filter_jpeg`. -/
def jpeg (els : List DmaElem) : Filtered := ⟨firstSamples els, els.length⟩

/-- `ll_cam_dma_filter_grayscale`. -/
def grayscale (els : List DmaElem) : Filtered := ⟨firstSamples els, els.length⟩

/-- `ll_cam_dma_filter_grayscale_highspeed`. -/
def grayscaleHighspeed (els : List DmaElem) : Filtered :=
  ⟨everyOther els, (if els.length % 8 = 0 then els.length else els.length + 1) / 2⟩

/-- `ll_cam_dma_filter_yuyv`. -/
def yuyv (els : List DmaElem) : Filtered := ⟨bothSamples els, els.length * 2⟩

/-- `ll_cam_dma_filter_yuyv_highspeed`. -/
def yuyvHighspeed (els : List DmaElem) : Filtered :=
  ⟨everyElement els, if els.length % 8 = 0 then els.length else els.length + 4⟩

end DmaFilter

/-! ## Sampling -/

/-- `pixformat_t`. -/
inductive Pixformat
  | rgb565
  | yuv422
  | yuv420
  | grayscale
  | jpeg
  | rgb888
  | raw
  | rgb444
  | rgb555
  deriving DecidableEq, Repr

/-- The members of `camera_pid_t` that `ll_cam_set_sample_mode` tells apart. -/
def ov7725Pid : ℕ := 0x77
def ov3660Pid : ℕ := 0x3660
def ov5640Pid : ℕ := 0x5640
def ov7670Pid : ℕ := 0x76
def nt99141Pid : ℕ := 0x1410
def sc031gsPid : ℕ := 0x0031

/-- What `ll_cam_set_sample_mode` sets. -/
structure Sampling where
  mode : SamplingMode
  filter : List DmaElem → Filtered
  inBytesPerPixel : ℕ
  fbBytesPerPixel : ℕ

/-- What the variables hold before the first call. -/
def Sampling.unset : Sampling := ⟨.single, DmaFilter.jpeg, 0, 0⟩

/-- `ll_cam_set_sample_mode`; `none` is `ESP_ERR_NOT_SUPPORTED`, with nothing set. -/
def setSampleMode (pixFormat : Pixformat) (xclkFreqHz sensorPid : ℕ) : Option Sampling :=
  match pixFormat with
  | .grayscale =>
      if sensorPid = ov3660Pid ∨ sensorPid = ov5640Pid ∨ sensorPid = nt99141Pid
          ∨ sensorPid = sc031gsPid then
        if xclkFreqHz > 10000000 then some ⟨.single, DmaFilter.yuyvHighspeed, 1, 1⟩
        else some ⟨.pairs, DmaFilter.yuyv, 1, 1⟩
      else if xclkFreqHz > 10000000 ∧ sensorPid ≠ ov7725Pid then
        some ⟨.single, DmaFilter.grayscaleHighspeed, 2, 1⟩
      else some ⟨.pairs, DmaFilter.grayscale, 2, 1⟩
  | .yuv422 | .rgb565 =>
      if xclkFreqHz > 10000000 ∧ sensorPid ≠ ov7725Pid then
        if sensorPid = ov7670Pid then some ⟨.overlapping, DmaFilter.yuyvHighspeed, 2, 2⟩
        else some ⟨.single, DmaFilter.yuyvHighspeed, 2, 2⟩
      else some ⟨.pairs, DmaFilter.yuyv, 2, 2⟩
  | .jpeg => some ⟨.single, DmaFilter.jpeg, 1, 1⟩
  | _ => none

/-! ## Frame sizes -/

/-- `framesize_t`. -/
inductive Framesize
  | size96x96
  | qqvga
  | qcif
  | hqvga
  | size240x240
  | qvga
  | cif
  | hvga
  | vga
  | svga
  | xga
  | hd
  | sxga
  | uxga
  | fhd
  | pHd
  | p3mp
  | qxga
  | qhd
  | wqxga
  | pFhd
  | qsxga
  deriving DecidableEq, Repr

/-- `resolution`, from `sensor.c`: width and height. -/
def resolution : Framesize → ℕ × ℕ
  | .size96x96 => (96, 96)
  | .qqvga => (160, 120)
  | .qcif => (176, 144)
  | .hqvga => (240, 176)
  | .size240x240 => (240, 240)
  | .qvga => (320, 240)
  | .cif => (400, 296)
  | .hvga => (480, 320)
  | .vga => (640, 480)
  | .svga => (800, 600)
  | .xga => (1024, 768)
  | .hd => (1280, 720)
  | .sxga => (1280, 1024)
  | .uxga => (1600, 1200)
  | .fhd => (1920, 1080)
  | .pHd => (720, 1280)
  | .p3mp => (864, 1536)
  | .qxga => (2048, 1536)
  | .qhd => (2560, 1440)
  | .wqxga => (2560, 1600)
  | .pFhd => (1088, 1920)
  | .qsxga => (2560, 1920)

/-! ## Sizes -/

/-- What `ll_cam_dma_sizes` sets, in bytes. -/
structure DmaSizes where
  dmaBufferSize : ℕ
  dmaHalfBufferSize : ℕ
  dmaNodeBufferSize : ℕ
  dmaHalfBufferCnt : ℕ
  deriving DecidableEq, Repr

/-- How the computation of the sizes ends without any. -/
inductive DmaSizesError
  | resolutionTooHigh
  /-- a division by zero -/
  | undefined
  deriving DecidableEq, Repr

/-- The node size in items, with the number of nodes a line takes: a divisor of the line, or as
    many lines as fit into a node and divide the height. Zero is `findGreatest` without a find,
    where the loop runs out and leaves its variables at their initial values. -/
def nodeSize (height lineWidth nodeMax : ℕ) : ℕ × ℕ :=
  if nodeMax ≤ lineWidth then
    let node := Nat.findGreatest (fun i => lineWidth % i = 0) nodeMax
    if node = 0 then (nodeMax, 1) else (node, lineWidth / node)
  else
    let node := Nat.findGreatest (fun i => i % lineWidth = 0) nodeMax
    if node = 0 then (nodeMax, 1)
    else
      -- `while ((cam->height % lines_per_node) != 0)`, which ends at one line
      (Nat.findGreatest (fun lines => height % lines = 0) (node / lineWidth) * lineWidth, 1)

/-- `while ((cam->height % lines_per_half_buffer) != 0)`, from `k` times the minimum down; `none`
    where it divides by zero. -/
def fitHalfBuffer (height lineWidth dmaHalfBufferMin : ℕ) : ℕ → Option ℕ
  | 0 => none
  | k + 1 =>
      let dmaHalfBuffer := (k + 1) * dmaHalfBufferMin
      if dmaHalfBuffer / lineWidth = 0 then none
      else if height % (dmaHalfBuffer / lineWidth) = 0 then some dmaHalfBuffer
      else fitHalfBuffer height lineWidth dmaHalfBufferMin k

/-- `ll_cam_calc_rgb_dma`, with the maximum of the configuration. -/
def calcRgbDma (bufferSizeMax width height inBytesPerPixel dmaBytesPerItem : ℕ) :
    Except DmaSizesError DmaSizes :=
  let dmaHalfBufferMax := bufferSizeMax / 2 / dmaBytesPerItem
  let dmaBufferMax := 2 * dmaHalfBufferMax
  let nodeMax := dmaNodeBufferMaxSize / dmaBytesPerItem
  let lineWidth := width * inBytesPerPixel
  let imageSize := height * lineWidth
  if imageSize > 4 * 1024 * 1024 ∨ lineWidth > dmaHalfBufferMax then .error .resolutionTooHigh
  else if lineWidth = 0 then .error .undefined
  else
    let (node, nodesPerLine) := nodeSize height lineWidth nodeMax
    let dmaHalfBufferMin := node * nodesPerLine
    if dmaHalfBufferMin = 0 then .error .undefined
    else
      match fitHalfBuffer height lineWidth dmaHalfBufferMin
          (dmaHalfBufferMax / dmaHalfBufferMin) with
      | none => .error .undefined
      | some dmaHalfBuffer =>
          let dmaBufferSize := dmaBufferMax / dmaHalfBuffer * dmaHalfBuffer
          .ok
            { dmaBufferSize := dmaBufferSize * dmaBytesPerItem
              dmaHalfBufferSize := dmaHalfBuffer * dmaBytesPerItem
              dmaNodeBufferSize := node * dmaBytesPerItem
              dmaHalfBufferCnt :=
                dmaBufferSize * dmaBytesPerItem / (dmaHalfBuffer * dmaBytesPerItem) }

/-- `ll_cam_dma_sizes` in JPEG mode. -/
def jpegDmaSizes : DmaSizes where
  dmaBufferSize := 8 * (2048 * 2)
  dmaHalfBufferSize := 2048 * 2
  dmaNodeBufferSize := 2048
  dmaHalfBufferCnt := 8

/-- `ll_cam_dma_sizes`, once the sampling mode is set. -/
def dmaSizes (jpegMode : Bool) (width height : ℕ) (s : Sampling) : Except DmaSizesError DmaSizes :=
  if jpegMode then .ok jpegDmaSizes
  else calcRgbDma cameraDmaBufferSizeMax width height s.inBytesPerPixel (bytesPerSample s.mode)

end Esp32Eye
