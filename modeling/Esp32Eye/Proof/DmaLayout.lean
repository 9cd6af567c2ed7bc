import Mathlib.Algebra.Order.Ring.Nat
import Mathlib.Tactic.Ring
import Esp32Eye.Driver
import Esp32Eye.Proof.Filters

/-!
# How the DMA buffer is cut up

`ll_cam_calc_rgb_dma` looks for sizes that divide one another: a node is a divisor of a line or some
whole lines, a half buffer is some whole nodes and some whole lines, the lines of a half buffer
divide the height, and the buffer is some whole half buffers, two at least. Its loops count down
without a lower bound and divide by what they have come to; that they end, and never divide by zero,
is part of the result. The one thing it needs is a line that is not empty.
-/

namespace Esp32Eye

variable {height lineWidth nodeMax bufferSizeMax : ℕ}

/-! ## A node -/

/-- What a node is for the rest of the computation: `node * nodesPerLine` is a whole number of lines
    that divides the height. -/
structure NodeFits (height lineWidth nodeMax node nodesPerLine : ℕ) : Prop where
  pos : 0 < node
  le : node ≤ nodeMax
  lines : ∃ n, 0 < n ∧ n ∣ height ∧ node * nodesPerLine = n * lineWidth
  min_le : node * nodesPerLine ≤ max lineWidth nodeMax

/-- One or more nodes to a line. -/
theorem nodeFits_of_divisor (hmax : 0 < nodeMax) {node : ℕ}
    (hnode : node = Nat.findGreatest (fun i => lineWidth % i = 0) nodeMax) :
    NodeFits height lineWidth nodeMax node (lineWidth / node) := by
  have hspec : lineWidth % node = 0 :=
    hnode ▸ Nat.findGreatest_spec (P := fun i => lineWidth % i = 0) hmax (Nat.mod_one _)
  have hmul : node * (lineWidth / node) = lineWidth :=
    Nat.mul_div_cancel' (Nat.dvd_of_mod_eq_zero hspec)
  refine ⟨?_, hnode ▸ Nat.findGreatest_le _, ⟨1, one_pos, one_dvd _, ?_⟩, ?_⟩
  · exact hnode ▸ Nat.le_findGreatest (P := fun i => lineWidth % i = 0) hmax (Nat.mod_one _)
  · rw [hmul, one_mul]
  · rw [hmul]
    exact le_max_left _ _

/-- One or more lines to a node. -/
theorem nodeFits_of_multiple (hw : 0 < lineWidth) (hlt : lineWidth < nodeMax) {node lines : ℕ}
    (hnode : node = Nat.findGreatest (fun i => i % lineWidth = 0) nodeMax)
    (hlines : lines = Nat.findGreatest (fun lines => height % lines = 0) (node / lineWidth)) :
    0 < node ∧ NodeFits height lineWidth nodeMax (lines * lineWidth) 1 := by
  have hle : lineWidth ≤ node := hnode ▸
    Nat.le_findGreatest (P := fun i => i % lineWidth = 0) hlt.le (Nat.mod_self _)
  have hone : 1 ≤ node / lineWidth := (Nat.one_le_div_iff hw).mpr hle
  have hpos : 1 ≤ lines := hlines ▸
    Nat.le_findGreatest (P := fun lines => height % lines = 0) hone (Nat.mod_one _)
  have hdvd : height % lines = 0 := hlines ▸
    Nat.findGreatest_spec (P := fun lines => height % lines = 0) hone (Nat.mod_one _)
  have hnodeMax : lines * lineWidth ≤ nodeMax := calc
    lines * lineWidth ≤ node / lineWidth * lineWidth :=
      Nat.mul_le_mul_right _ (hlines ▸ Nat.findGreatest_le _)
    _ ≤ node := Nat.div_mul_le_self _ _
    _ ≤ nodeMax := hnode ▸ Nat.findGreatest_le _
  refine ⟨hw.trans_le hle, Nat.mul_pos hpos hw, hnodeMax,
    ⟨lines, hpos, Nat.dvd_of_mod_eq_zero hdvd, mul_one _⟩, ?_⟩
  rw [mul_one]
  exact hnodeMax.trans (le_max_right _ _)

theorem nodeSize_fits (hw : 0 < lineWidth) (hmax : 0 < nodeMax) :
    NodeFits height lineWidth nodeMax (nodeSize height lineWidth nodeMax).1
      (nodeSize height lineWidth nodeMax).2 := by
  unfold nodeSize
  split
  · have hfits : NodeFits height lineWidth nodeMax _ _ := nodeFits_of_divisor hmax rfl
    rw [if_neg hfits.pos.ne']
    exact hfits
  · rename_i hlt
    obtain ⟨hpos, hfits⟩ : 0 < _ ∧ NodeFits height lineWidth nodeMax _ 1 :=
      nodeFits_of_multiple hw (Nat.lt_of_not_le hlt) rfl rfl
    rw [if_neg hpos.ne']
    exact hfits

/-! ## A half buffer -/

/-- The loop ends at one minimum at the latest. -/
theorem fitHalfBuffer_fits {dmaHalfBufferMin n : ℕ} (hw : 0 < lineWidth) (hn : 0 < n)
    (hmin : dmaHalfBufferMin = n * lineWidth) (hdvd : n ∣ height) {k : ℕ} (hk : 0 < k) :
    ∃ j, 0 < j ∧ j ≤ k ∧ j * n ∣ height ∧
      fitHalfBuffer height lineWidth dmaHalfBufferMin k = some (j * dmaHalfBufferMin) := by
  induction k with
  | zero => cases hk
  | succ k ih =>
    have hlines : (k + 1) * dmaHalfBufferMin / lineWidth = (k + 1) * n := by
      rw [hmin, ← mul_assoc, Nat.mul_div_cancel _ hw]
    rw [fitHalfBuffer]
    simp only [hlines]
    rw [if_neg (Nat.mul_pos (Nat.succ_pos k) hn).ne']
    by_cases hfit : height % ((k + 1) * n) = 0
    · rw [if_pos hfit]
      exact ⟨k + 1, Nat.succ_pos k, le_rfl, Nat.dvd_of_mod_eq_zero hfit, rfl⟩
    · rw [if_neg hfit]
      have hpos : 0 < k := by
        rcases Nat.eq_zero_or_pos k with rfl | hpos
        · rw [zero_add, one_mul] at hfit
          exact absurd (Nat.mod_eq_zero_of_dvd hdvd) hfit
        · exact hpos
      obtain ⟨j, hj, hle, hjn, heq⟩ := ih hpos
      exact ⟨j, hj, Nat.le_succ_of_le hle, hjn, heq⟩

/-! ## The whole buffer -/

/-- What the rest of the driver relies on, with the lines of a half buffer. -/
structure DmaLayout (bufferSizeMax height lineBytes lines : ℕ) (s : DmaSizes) : Prop where
  lines_pos : 0 < lines
  lines_dvd : lines ∣ height
  half_eq : s.dmaHalfBufferSize = lines * lineBytes
  node_dvd : s.dmaNodeBufferSize ∣ s.dmaHalfBufferSize
  node_pos : 0 < s.dmaNodeBufferSize
  node_le : s.dmaNodeBufferSize ≤ dmaNodeBufferMaxSize
  buffer_eq : s.dmaBufferSize = s.dmaHalfBufferCnt * s.dmaHalfBufferSize
  two_le : 2 ≤ s.dmaHalfBufferCnt
  buffer_le : s.dmaBufferSize ≤ bufferSizeMax

/-- The image is more than four mebibytes, or a line is more than half of the buffer. -/
def TooHigh (bufferSizeMax width height inBytesPerPixel dmaBytesPerItem : ℕ) : Prop :=
  4 * 1024 * 1024 < height * (width * inBytesPerPixel) ∨
    bufferSizeMax / 2 / dmaBytesPerItem < width * inBytesPerPixel

/-- From the half buffer, in items, to the rest. -/
theorem dmaLayout_of_half {node lines half item : ℕ} (hitem : 0 < item) (hlines : 0 < lines)
    (hdvd : lines ∣ height) (hhalf : half = lines * lineWidth) (hpos : 0 < half)
    (hle : half ≤ bufferSizeMax / 2 / item) (hnode : 0 < node) (hnodeDvd : node ∣ half)
    (hnodeLe : node ≤ dmaNodeBufferMaxSize / item) :
    DmaLayout bufferSizeMax height (lineWidth * item) lines
      { dmaBufferSize := 2 * (bufferSizeMax / 2 / item) / half * half * item
        dmaHalfBufferSize := half * item
        dmaNodeBufferSize := node * item
        dmaHalfBufferCnt :=
          2 * (bufferSizeMax / 2 / item) / half * half * item / (half * item) } := by
  have hcnt : 2 * (bufferSizeMax / 2 / item) / half * half * item / (half * item)
      = 2 * (bufferSizeMax / 2 / item) / half := by
    rw [mul_assoc, Nat.mul_div_cancel _ (Nat.mul_pos hpos hitem)]
  refine
    { lines_pos := hlines
      lines_dvd := hdvd
      half_eq := hhalf ▸ mul_assoc _ _ _
      node_dvd := Nat.mul_dvd_mul_right hnodeDvd item
      node_pos := Nat.mul_pos hnode hitem
      node_le := (Nat.le_div_iff_mul_le hitem).mp hnodeLe
      buffer_eq := ?_
      two_le := ?_
      buffer_le := ?_ }
  · rw [hcnt, mul_assoc]
  · rw [hcnt, Nat.le_div_iff_mul_le hpos]
    exact Nat.mul_le_mul_left 2 hle
  · calc 2 * (bufferSizeMax / 2 / item) / half * half * item
        ≤ 2 * (bufferSizeMax / 2 / item) * item :=
          Nat.mul_le_mul_right _ (Nat.div_mul_le_self _ _)
      _ = 2 * (bufferSizeMax / 2 / item * item) := mul_assoc _ _ _
      _ ≤ 2 * (bufferSizeMax / 2) := Nat.mul_le_mul_left 2 (Nat.div_mul_le_self _ _)
      _ ≤ bufferSizeMax := Nat.mul_div_le _ _

/-- The computation, case by case. -/
theorem calcRgbDma_cases (bufferSizeMax width height inBytesPerPixel dmaBytesPerItem : ℕ)
    (hmax : 2 * dmaNodeBufferMaxSize ≤ bufferSizeMax) (hline : 0 < width * inBytesPerPixel)
    (hitem : 0 < dmaBytesPerItem) (hitem' : dmaBytesPerItem ≤ dmaNodeBufferMaxSize) :
    (TooHigh bufferSizeMax width height inBytesPerPixel dmaBytesPerItem ∧
      calcRgbDma bufferSizeMax width height inBytesPerPixel dmaBytesPerItem
        = .error .resolutionTooHigh) ∨
    (¬ TooHigh bufferSizeMax width height inBytesPerPixel dmaBytesPerItem ∧ ∃ s lines,
      calcRgbDma bufferSizeMax width height inBytesPerPixel dmaBytesPerItem = .ok s ∧
        DmaLayout bufferSizeMax height (width * inBytesPerPixel * dmaBytesPerItem) lines s) := by
  by_cases htoo : TooHigh bufferSizeMax width height inBytesPerPixel dmaBytesPerItem
  · exact Or.inl ⟨htoo, by unfold calcRgbDma; exact if_pos htoo⟩
  refine Or.inr ⟨htoo, ?_⟩
  have hlineLe : width * inBytesPerPixel ≤ bufferSizeMax / 2 / dmaBytesPerItem :=
    Nat.le_of_not_lt fun hlt => htoo (Or.inr hlt)
  have hnodeLe : dmaNodeBufferMaxSize / dmaBytesPerItem ≤ bufferSizeMax / 2 / dmaBytesPerItem :=
    Nat.div_le_div_right ((Nat.le_div_iff_mul_le two_pos).mpr (by omega))
  have hfits : NodeFits height _ _ _ _ := nodeSize_fits hline (Nat.div_pos hitem' hitem)
  cases hnode : nodeSize height (width * inBytesPerPixel)
      (dmaNodeBufferMaxSize / dmaBytesPerItem) with
  | mk node nodesPerLine =>
    rw [hnode] at hfits
    obtain ⟨hpos, hle, ⟨n, hn, hdvd, hmin⟩, hminLe⟩ := hfits
    have hminPos : 0 < node * nodesPerLine := hmin ▸ Nat.mul_pos hn hline
    have hminMax := hminLe.trans (max_le hlineLe hnodeLe)
    obtain ⟨j, hj, hjle, hjn, hfit⟩ :=
      fitHalfBuffer_fits hline hn hmin hdvd (Nat.div_pos hminMax hminPos)
    -- the half buffer, in items
    have hhalf : j * (node * nodesPerLine) ≤ bufferSizeMax / 2 / dmaBytesPerItem :=
      (Nat.mul_le_mul_right _ hjle).trans (Nat.div_mul_le_self _ _)
    have htoo' : ¬ (height * (width * inBytesPerPixel) > 4 * 1024 * 1024 ∨
        width * inBytesPerPixel > bufferSizeMax / 2 / dmaBytesPerItem) := htoo
    unfold calcRgbDma
    dsimp only at hfit ⊢
    rw [if_neg htoo', if_neg hline.ne', hnode]
    dsimp only
    rw [if_neg hminPos.ne', hfit]
    refine ⟨_, j * n, rfl, dmaLayout_of_half hitem (Nat.mul_pos hj hn) hjn ?_
      (Nat.mul_pos hj hminPos) hhalf hpos ?_ hle⟩
    · rw [mul_assoc, ← hmin]
    · exact (Nat.dvd_mul_right node nodesPerLine).mul_left j

/-- **The layout of the DMA buffer.** For every picture whose lines are not empty and every size the
    configuration allows: the computation comes to an end without a division by zero, it refuses a
    picture exactly if it is too large, and the sizes it finds divide one another as the DMA and
    `cam_task` need them to. -/
theorem calcRgbDma_layout (bufferSizeMax width height inBytesPerPixel dmaBytesPerItem : ℕ)
    (hmax : 2 * dmaNodeBufferMaxSize ≤ bufferSizeMax) (hline : 0 < width * inBytesPerPixel)
    (hitem : 0 < dmaBytesPerItem) (hitem' : dmaBytesPerItem ≤ dmaNodeBufferMaxSize) :
    (TooHigh bufferSizeMax width height inBytesPerPixel dmaBytesPerItem ∧
      calcRgbDma bufferSizeMax width height inBytesPerPixel dmaBytesPerItem
        = .error .resolutionTooHigh) ∨
    (¬ TooHigh bufferSizeMax width height inBytesPerPixel dmaBytesPerItem ∧ ∃ s lines,
      calcRgbDma bufferSizeMax width height inBytesPerPixel dmaBytesPerItem = .ok s ∧
        DmaLayout bufferSizeMax height (width * inBytesPerPixel * dmaBytesPerItem) lines s) :=
  calcRgbDma_cases _ _ _ _ _ hmax hline hitem hitem'

/-- SVGA in two bytes per pixel, four bytes to a sample: a line is 1600 items, and two nodes. -/
theorem calcRgbDma_layout_svga :
    ∃ s lines, calcRgbDma cameraDmaBufferSizeMax 800 600 2 4 = .ok s ∧
      DmaLayout cameraDmaBufferSizeMax 600 6400 lines s := by
  rcases calcRgbDma_layout cameraDmaBufferSizeMax 800 600 2 4 (by decide) (by decide) (by decide)
      (by decide) with ⟨htoo, -⟩ | ⟨-, h⟩
  · exact absurd htoo (by unfold TooHigh; decide)
  · exact h

/-! ## A half buffer and its filter -/

section Sampling

open DmaFilter

variable {format : Pixformat} {xclkFreqHz sensorPid : ℕ} {sampling : Sampling}

theorem setSampleMode_cases (h : setSampleMode format xclkFreqHz sensorPid = some sampling) :
    sampling = ⟨.single, yuyvHighspeed, 1, 1⟩ ∨ sampling = ⟨.pairs, yuyv, 1, 1⟩ ∨
      sampling = ⟨.single, grayscaleHighspeed, 2, 1⟩ ∨ sampling = ⟨.pairs, grayscale, 2, 1⟩ ∨
        sampling = ⟨.overlapping, yuyvHighspeed, 2, 2⟩ ∨
          sampling = ⟨.single, yuyvHighspeed, 2, 2⟩ ∨ sampling = ⟨.pairs, yuyv, 2, 2⟩ ∨
            sampling = ⟨.single, jpeg, 1, 1⟩ := by
  cases format <;> simp only [setSampleMode] at h
  all_goals (repeat' split at h)
  all_goals cases h
  all_goals simp

/-- Of `8 * k` pixels the copy makes the bytes of as many pixels. -/
theorem filter_fits (h : setSampleMode format xclkFreqHz sensorPid = some sampling) {k : ℕ}
    {els : List DmaElem} (hels : els.length * sizeofDmaElem =
      8 * k * (sampling.inBytesPerPixel * bytesPerSample sampling.mode)) :
    (sampling.filter els).bytes.length = 8 * k * sampling.fbBytesPerPixel ∧
      (sampling.filter els).length = 8 * k * sampling.fbBytesPerPixel := by
  rcases setSampleMode_cases h with rfl | rfl | rfl | rfl | rfl | rfl | rfl | rfl <;>
    simp only [sizeofDmaElem, bytesPerSample] at hels ⊢
  · have hlen : els.length = 8 * k := by omega
    obtain ⟨hb, hl⟩ := yuyvHighspeed_ok hlen
    omega
  · have hlen : els.length = 4 * k := by omega
    obtain ⟨hb, hl⟩ := yuyv_ok hlen
    omega
  · have hlen : els.length = 8 * (2 * k) := by omega
    obtain ⟨hb, hl⟩ := grayscaleHighspeed_ok hlen
    omega
  · have hlen : els.length = 4 * (2 * k) := by omega
    obtain ⟨hb, hl⟩ := grayscale_ok hlen
    omega
  · have hlen : els.length = 8 * (2 * k) := by omega
    obtain ⟨hb, hl⟩ := yuyvHighspeed_ok hlen
    omega
  · have hlen : els.length = 8 * (2 * k) := by omega
    obtain ⟨hb, hl⟩ := yuyvHighspeed_ok hlen
    omega
  · have hlen : els.length = 4 * (2 * k) := by omega
    obtain ⟨hb, hl⟩ := yuyv_ok hlen
    omega
  · have hlen : els.length = 4 * (2 * k) := by omega
    obtain ⟨hb, hl⟩ := jpeg_ok hlen
    rw [hb, List.length_map]
    omega

theorem setSampleMode_eq_none :
    setSampleMode format xclkFreqHz sensorPid = none ↔
      format ∉ [.rgb565, .yuv422, .grayscale, .jpeg] := by
  cases format <;> simp only [setSampleMode]
  all_goals (repeat' split)
  all_goals decide

theorem sampling_pos (h : setSampleMode format xclkFreqHz sensorPid = some sampling) :
    0 < sampling.inBytesPerPixel ∧ 0 < sampling.fbBytesPerPixel ∧
      0 < bytesPerSample sampling.mode ∧ bytesPerSample sampling.mode ≤ dmaNodeBufferMaxSize := by
  rcases setSampleMode_cases h with rfl | rfl | rfl | rfl | rfl | rfl | rfl | rfl <;>
    simp [bytesPerSample, dmaNodeBufferMaxSize]

end Sampling

/-! ## `cam_config` -/

variable {config : CameraConfig} {width sensorPid : ℕ} {s : CamSettings}

/-- What a run of the driver needs of the settings, with the pixels of a half buffer. -/
structure CamSettings.Fits (s : CamSettings) (pixels : ℕ) : Prop where
  groups : 0 < pixels ∧ 8 ∣ pixels
  half_eq : s.dma.dmaHalfBufferSize =
    pixels * (s.sampling.inBytesPerPixel * bytesPerSample s.sampling.mode)
  sampled : ∃ format xclkFreqHz sensorPid,
    setSampleMode format xclkFreqHz sensorPid = some s.sampling

namespace CamSettings.Fits

variable {pixels : ℕ}

theorem pixelsPerDma_eq (h : s.Fits pixels) :
    s.pixelsPerDma = pixels * s.sampling.fbBytesPerPixel := by
  obtain ⟨_, _, _, hs⟩ := h.sampled
  obtain ⟨hin, -, hitem, -⟩ := sampling_pos hs
  rw [pixelsPerDma, h.half_eq, mul_comm (bytesPerSample _), mul_right_comm,
    Nat.mul_div_cancel _ (Nat.mul_pos hin hitem)]

theorem eofNum_eq (h : s.Fits pixels) :
    s.eofNum * sizeofDmaElem = s.dma.dmaHalfBufferSize := by
  obtain ⟨_, _, _, hs⟩ := h.sampled
  obtain ⟨k, hk⟩ := h.groups.2
  refine Nat.div_mul_cancel ?_
  rw [h.half_eq, hk, sizeofDmaElem, mul_assoc]
  exact (show 4 ∣ 8 by decide).mul_right _

/-- Such settings are a `CamConfig`. -/
theorem exists_camConfig (h : s.Fits pixels) (hcnt : 0 < s.frameCnt) :
    ∃ c : CamConfig, c.toCamSettings = s := by
  obtain ⟨_, _, _, hs⟩ := h.sampled
  obtain ⟨hin, hfb, hitem, -⟩ := sampling_pos hs
  obtain ⟨k, hk⟩ := h.groups.2
  have heof := h.eofNum_eq
  have hfilter : ∀ els : List DmaElem, els.length = s.eofNum →
      (s.sampling.filter els).bytes.length = s.pixelsPerDma ∧
        (s.sampling.filter els).length = s.pixelsPerDma := by
    intro els hels
    rw [h.pixelsPerDma_eq, hk]
    exact filter_fits hs (by rw [hels, heof, h.half_eq, hk])
  have hhalf : 0 < s.eofNum * sizeofDmaElem := by
    rw [heof, h.half_eq]
    exact Nat.mul_pos h.groups.1 (Nat.mul_pos hin hitem)
  refine ⟨⟨s, hcnt, Nat.pos_of_mul_pos_right hhalf, ?_, fun els hels => (hfilter els hels).1,
    fun els hels => (hfilter els hels).2⟩, rfl⟩
  rw [h.pixelsPerDma_eq]
  calc 3 ≤ pixels := by have := h.groups.1; omega
    _ ≤ pixels * s.sampling.fbBytesPerPixel := Nat.le_mul_of_pos_right _ hfb

end CamSettings.Fits

/-- An unsupported format leaves the bytes of a pixel at zero. -/
theorem camSettings_unsupported
    (h : setSampleMode config.pixelFormat config.xclkFreqHz sensorPid = none) :
    camSettings config width height sensorPid = .error .undefined := by
  have hjpeg : config.pixelFormat ≠ .jpeg := by
    intro hj
    rw [hj] at h
    cases h
  unfold camSettings
  rw [h]
  simp only [hjpeg, decide_false, if_false, Option.getD_none]
  simp [dmaSizes, calcRgbDma, Sampling.unset]

theorem camSettings_jpeg (width height sensorPid : ℕ) (h : config.pixelFormat = .jpeg) :
    ∃ s, camSettings config width height sensorPid = .ok s ∧ s.Fits 1024 ∧
      s.frameCnt = config.fbCount ∧ s.jpegMode = true ∧ s.dma = jpegDmaSizes := by
  unfold camSettings
  rw [h]
  refine ⟨_, rfl, ⟨by decide, rfl, .jpeg, config.xclkFreqHz, sensorPid, rfl⟩, rfl, rfl, rfl⟩

/-- JPEG comes with its own filter and half buffers of whole groups of four elements. -/
theorem camSettings_jpeg_filter (h : config.pixelFormat = .jpeg)
    (hs : camSettings config width height sensorPid = .ok s) :
    s.sampling.filter = DmaFilter.jpeg ∧ s.eofNum = 4 * 256 := by
  unfold camSettings at hs
  rw [h] at hs
  cases hs
  refine ⟨rfl, ?_⟩
  show jpegDmaSizes.dmaHalfBufferSize / sizeofDmaElem = 4 * 256
  decide

/-- In raw mode the half buffers of a picture fill the frame exactly. -/
theorem camSettings_raw (config : CameraConfig) (width height sensorPid : ℕ)
    {sampling : Sampling} (h : config.pixelFormat ≠ .jpeg)
    (hs : setSampleMode config.pixelFormat config.xclkFreqHz sensorPid = some sampling)
    (hw : 0 < width) (hw' : 8 ∣ width) :
    (TooHigh cameraDmaBufferSizeMax width height sampling.inBytesPerPixel
        (bytesPerSample sampling.mode) ∧
      camSettings config width height sensorPid = .error .resolutionTooHigh) ∨
    (¬ TooHigh cameraDmaBufferSizeMax width height sampling.inBytesPerPixel
        (bytesPerSample sampling.mode) ∧ ∃ s lines,
      camSettings config width height sensorPid = .ok s ∧ s.Fits (lines * width) ∧
        s.frameCnt = config.fbCount ∧ s.jpegMode = false ∧
        height / lines * s.pixelsPerDma = s.fbSize ∧
        DmaLayout cameraDmaBufferSizeMax height
          (width * sampling.inBytesPerPixel * bytesPerSample sampling.mode) lines s.dma) := by
  obtain ⟨hin, -, hitem, hitem'⟩ := sampling_pos hs
  have hcases := calcRgbDma_cases cameraDmaBufferSizeMax width height sampling.inBytesPerPixel
    (bytesPerSample sampling.mode) (by decide) (Nat.mul_pos hw hin) hitem hitem'
  unfold camSettings
  rw [hs]
  simp only [h, decide_false, Option.getD_some, dmaSizes, Bool.false_eq_true, if_false]
  refine hcases.imp (fun ⟨htoo, he⟩ => ⟨htoo, ?_⟩) fun ⟨htoo, dma, lines, he, hl⟩ => ⟨htoo, ?_⟩
  · rw [he]
  · rw [he]
    have hfits : CamSettings.Fits
        { jpegMode := false
          frameCnt := config.fbCount
          frameBufferQueueLen :=
            if config.grabMode = .latest ∧ config.fbCount > 1 then config.fbCount - 1
            else config.fbCount
          recvSize := width * height * sampling.inBytesPerPixel
          fbSize := width * height * sampling.fbBytesPerPixel
          sampling := sampling
          dma := dma } (lines * width) := by
      refine ⟨⟨Nat.mul_pos hl.lines_pos hw, hw'.mul_left lines⟩, ?_, _, _, _, hs⟩
      exact hl.half_eq.trans (by ring)
    refine ⟨_, lines, rfl, hfits, rfl, rfl, ?_, hl⟩
    rw [hfits.pixelsPerDma_eq]
    calc height / lines * (lines * width * sampling.fbBytesPerPixel)
        = height / lines * lines * width * sampling.fbBytesPerPixel := by ring
      _ = width * height * sampling.fbBytesPerPixel := by
          rw [Nat.div_mul_cancel hl.lines_dvd, mul_comm height]

/-! ## The frame sizes -/

theorem resolution_width (size : Framesize) :
    0 < (resolution size).1 ∧ 8 ∣ (resolution size).1 := by
  cases size <;> decide

/-- How the DMA buffer is cut up, whatever is in it. -/
structure DmaCut (s : DmaSizes) : Prop where
  node_pos : 0 < s.dmaNodeBufferSize
  node_le : s.dmaNodeBufferSize ≤ dmaNodeBufferMaxSize
  node_dvd : s.dmaNodeBufferSize ∣ s.dmaHalfBufferSize
  buffer_eq : s.dmaBufferSize = s.dmaHalfBufferCnt * s.dmaHalfBufferSize
  two_le : 2 ≤ s.dmaHalfBufferCnt

theorem dmaCut_jpeg : DmaCut jpegDmaSizes := by constructor <;> decide

theorem DmaLayout.cut {bufferSizeMax height lineBytes lines : ℕ} {s : DmaSizes}
    (h : DmaLayout bufferSizeMax height lineBytes lines s) : DmaCut s :=
  ⟨h.node_pos, h.node_le, h.node_dvd, h.buffer_eq, h.two_le⟩

/-- With a supported format the settings are refused for the size of the picture, or they fit. -/
theorem camSettings_supported (config : CameraConfig) (size : Framesize) (sensorPid : ℕ)
    (h : config.pixelFormat ∈ [.rgb565, .yuv422, .grayscale, .jpeg]) :
    camSettings config (resolution size).1 (resolution size).2 sensorPid
        = .error .resolutionTooHigh ∨
      ∃ s pixels, camSettings config (resolution size).1 (resolution size).2 sensorPid = .ok s ∧
        s.Fits pixels ∧ s.frameCnt = config.fbCount ∧
        s.jpegMode = decide (config.pixelFormat = .jpeg) ∧ DmaCut s.dma := by
  by_cases hjpeg : config.pixelFormat = .jpeg
  · obtain ⟨s, he, hfits, hcnt, hmode, hdma⟩ := camSettings_jpeg (resolution size).1
      (resolution size).2 sensorPid hjpeg
    exact Or.inr ⟨s, _, he, hfits, hcnt, by rw [hmode, hjpeg]; rfl, hdma ▸ dmaCut_jpeg⟩
  · obtain ⟨sampling, hs⟩ :
        ∃ sampling, setSampleMode config.pixelFormat config.xclkFreqHz sensorPid = some sampling :=
      Option.ne_none_iff_exists'.mp fun hn => setSampleMode_eq_none.mp hn h
    have hraw := camSettings_raw config _ (resolution size).2 sensorPid hjpeg hs
      (resolution_width size).1 (resolution_width size).2
    refine hraw.imp And.right ?_
    rintro ⟨-, s, lines, he, hfits, hcnt, hmode, -, hl⟩
    exact ⟨s, _, he, hfits, hcnt, by rw [hmode, decide_eq_false hjpeg], hl.cut⟩

/-- What `cam_config` accepts has a supported format. -/
theorem camSettings_ok {size : Framesize}
    (hok : camSettings config (resolution size).1 (resolution size).2 sensorPid = .ok s) :
    ∃ pixels, s.Fits pixels ∧ s.frameCnt = config.fbCount ∧
      s.jpegMode = decide (config.pixelFormat = .jpeg) ∧ DmaCut s.dma := by
  by_cases hformat : config.pixelFormat ∈ [.rgb565, .yuv422, .grayscale, .jpeg]
  · rcases camSettings_supported config size sensorPid hformat with he | ⟨s', pixels, he, h⟩
    · rw [he] at hok
      cases hok
    · cases he.symm.trans hok
      exact ⟨pixels, h⟩
  · rw [camSettings_unsupported (setSampleMode_eq_none.mpr hformat)] at hok
    cases hok

/-- **What `cam_config` accepts, the driver can run with.** For every configuration with at least
    one frame buffer, every frame size and every sensor: if the sizes can be computed, the copy of a
    half buffer is exactly the `pixels_per_dma` bytes that `cam_task` counts, the interrupt comes
    with the last element of a half buffer, there are two half buffers at least, so that the event
    queue has room, and in raw mode the half buffers of a picture fill the frame exactly. -/
theorem cam_config_fits (config : CameraConfig) (size : Framesize) (sensorPid : ℕ)
    (s : CamSettings) (hcount : 0 < config.fbCount)
    (hok : camSettings config (resolution size).1 (resolution size).2 sensorPid = .ok s) :
    (∃ c : CamConfig, c.toCamSettings = s) ∧
      s.eofNum * sizeofDmaElem = s.dma.dmaHalfBufferSize ∧
      s.dma.dmaBufferSize = s.dma.dmaHalfBufferCnt * s.dma.dmaHalfBufferSize ∧
      s.dma.dmaNodeBufferSize ∣ s.dma.dmaHalfBufferSize ∧ 2 ≤ s.dma.dmaHalfBufferCnt ∧
      (s.jpegMode = false → ∃ n, n * s.pixelsPerDma = s.fbSize) := by
  obtain ⟨hw, hw'⟩ := resolution_width size
  by_cases hjpeg : config.pixelFormat = .jpeg
  · obtain ⟨s', he, hfits, hcnt, hmode, hdma⟩ := camSettings_jpeg (resolution size).1
      (resolution size).2 sensorPid hjpeg
    cases he.symm.trans hok
    refine ⟨hfits.exists_camConfig (hcnt ▸ hcount), hfits.eofNum_eq, ?_⟩
    rw [hdma, hmode]
    exact ⟨by decide, by decide, by decide, fun h => by cases h⟩
  cases hs : setSampleMode config.pixelFormat config.xclkFreqHz sensorPid with
  | none =>
    rw [camSettings_unsupported hs] at hok
    cases hok
  | some sampling =>
    have hraw := camSettings_raw config _ (resolution size).2 sensorPid hjpeg hs hw hw'
    rcases hraw with
      ⟨-, he⟩ | ⟨-, s', lines, he, hfits, hcnt, hmode, hwhole, hl⟩
    · rw [he] at hok
      cases hok
    · cases he.symm.trans hok
      exact ⟨hfits.exists_camConfig (hcnt ▸ hcount), hfits.eofNum_eq, hl.buffer_eq, hl.node_dvd,
        hl.two_le, fun _ => ⟨_, hwhole⟩⟩

/-- QVGA in RGB565 from an OV2640. -/
theorem cam_config_fits_qvga :
    ∃ s : CamSettings, s.jpegMode = false ∧ 2 ≤ s.dma.dmaHalfBufferCnt ∧
      ∃ n, n * s.pixelsPerDma = s.fbSize := by
  let config : CameraConfig :=
    { pixelFormat := .rgb565, xclkFreqHz := 20000000, fbCount := 2, grabMode := .whenEmpty }
  have hraw := camSettings_raw config 320 240 0x26 (by decide) rfl (by decide) (by decide)
  obtain ⟨-, s, lines, hs, -, -, hmode, -⟩ :=
    hraw.resolve_left fun h => absurd h.1 (by unfold TooHigh; decide)
  obtain ⟨-, -, -, -, htwo, hwhole⟩ := cam_config_fits config .qvga 0x26 s (by decide) hs
  exact ⟨s, hmode, htwo, hwhole hmode⟩

/-- **How `cam_config` fails.** It refuses a raw format exactly if the picture is too large. The
    formats that `ll_cam_set_sample_mode` does not support are not refused, although it says so: its
    result is overwritten, and the computation of the sizes divides by zero. -/
theorem cam_config_fails (config : CameraConfig) (size : Framesize) (sensorPid : ℕ) :
    (camSettings config (resolution size).1 (resolution size).2 sensorPid = .error .undefined ↔
      config.pixelFormat ∉ [.rgb565, .yuv422, .grayscale, .jpeg]) ∧
    (camSettings config (resolution size).1 (resolution size).2 sensorPid
        = .error .resolutionTooHigh ↔
      config.pixelFormat ≠ .jpeg ∧ ∃ sampling,
        setSampleMode config.pixelFormat config.xclkFreqHz sensorPid = some sampling ∧
          TooHigh cameraDmaBufferSizeMax (resolution size).1 (resolution size).2
            sampling.inBytesPerPixel (bytesPerSample sampling.mode)) := by
  obtain ⟨hw, hw'⟩ := resolution_width size
  by_cases hjpeg : config.pixelFormat = .jpeg
  · obtain ⟨s, he, -⟩ := camSettings_jpeg (resolution size).1 (resolution size).2 sensorPid hjpeg
    simp [he, hjpeg]
  cases hs : setSampleMode config.pixelFormat config.xclkFreqHz sensorPid with
  | none => simp [camSettings_unsupported hs, setSampleMode_eq_none.mp hs]
  | some sampling =>
    have hsup : ¬ config.pixelFormat ∉ [.rgb565, .yuv422, .grayscale, .jpeg] := fun h => by
      rw [setSampleMode_eq_none.mpr h] at hs
      cases hs
    have hraw := camSettings_raw config _ (resolution size).2 sensorPid hjpeg hs hw hw'
    rcases hraw with
      ⟨htoo, he⟩ | ⟨htoo, s, lines, he, -⟩
    · rw [he]
      exact ⟨⟨fun h => (by cases h), fun h => absurd h hsup⟩,
        fun _ => ⟨hjpeg, sampling, rfl, htoo⟩, fun _ => rfl⟩
    · rw [he]
      refine ⟨⟨fun h => (by cases h), fun h => absurd h hsup⟩, fun h => (by cases h), ?_⟩
      rintro ⟨-, sampling', hs', htoo'⟩
      cases hs'
      exact absurd htoo' htoo

end Esp32Eye
