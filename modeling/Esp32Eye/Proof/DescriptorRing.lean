import Mathlib.Logic.Function.Iterate
import Esp32Eye.EspCamera
import Esp32Eye.Proof.DmaLayout

/-!
# The chain of descriptors is a ring buffer

The DMA does not know of a ring. It fills the memory of a descriptor and goes on to the one that
`empty` points to. With the descriptors of `allocate_dma_descriptors` that is the buffer from its
start to its end, again and again (`walk_eq`): the element the DMA delivers as number `k` is where
the model of the driver has it, in cell `k` modulo the number of cells, and a half buffer begins
with a descriptor.
-/

namespace Esp32Eye

/-! ## The DMA and its descriptors -/

/-- The DMA goes on by a byte, in the descriptor of this number behind so many bytes. -/
def dmaAdvance (descriptors : List Lldesc) (position : ℕ × ℕ) : ℕ × ℕ :=
  match descriptors[position.1]? with
  | none => position
  | some d => if position.2 + 1 < d.size then (position.1, position.2 + 1) else (d.empty, 0)

/-- Where it is after so many bytes. -/
def dmaWalk (descriptors : List Lldesc) (bytes : ℕ) : ℕ × ℕ :=
  (dmaAdvance descriptors)^[bytes] (0, 0)

/-- Where it writes the byte of this number. -/
def dmaAddress (descriptors : List Lldesc) (k : ℕ) : Option ℕ :=
  (descriptors[(dmaWalk descriptors k).1]?).map fun d => d.buf + (dmaWalk descriptors k).2

variable {count size k : ℕ}

theorem dmaDescriptors_get (hk : k < count) :
    (EspCamera.dmaDescriptors count size)[k]? =
      some ⟨size, 0, false, false, 1, size * k, (k + 1) % count⟩ := by
  rw [EspCamera.dmaDescriptors, List.getElem?_map, List.getElem?_range hk]
  rfl

/-- The number of the descriptor, and how far the DMA is in it. -/
theorem dmaWalk_eq (hcount : 0 < count) (hsize : 0 < size) :
    dmaWalk (EspCamera.dmaDescriptors count size) k = (k / size % count, k % size) := by
  induction k with
  | zero => simp [dmaWalk]
  | succ k ih =>
    unfold dmaWalk at ih ⊢
    rw [Function.iterate_succ_apply', ih, dmaAdvance, dmaDescriptors_get (Nat.mod_lt _ hcount)]
    dsimp only
    have hk : k + 1 = size * (k / size) + (k % size + 1) := by
      rw [← Nat.add_assoc, Nat.div_add_mod]
    by_cases hin : k % size + 1 < size
    · have hdiv : (k + 1) / size = k / size := by
        rw [hk, Nat.mul_add_div hsize, Nat.div_eq_of_lt hin, Nat.add_zero]
      have hmod : (k + 1) % size = k % size + 1 := by
        rw [hk, Nat.mul_add_mod, Nat.mod_eq_of_lt hin]
      rw [if_pos hin, hdiv, hmod]
    · have hfull : k % size + 1 = size :=
        le_antisymm (Nat.mod_lt k hsize) (Nat.le_of_not_lt hin)
      have hdiv : (k + 1) / size = k / size + 1 := by
        rw [hk, Nat.mul_add_div hsize, hfull, Nat.div_self hsize]
      have hmod : (k + 1) % size = 0 := by
        rw [hk, Nat.mul_add_mod, hfull, Nat.mod_self]
      rw [if_neg hin, hdiv, hmod, Nat.mod_add_mod]

/-- The bytes go round the buffer. -/
theorem dmaAddress_eq (hcount : 0 < count) (hsize : 0 < size) :
    dmaAddress (EspCamera.dmaDescriptors count size) k = some (k % (size * count)) := by
  rw [dmaAddress, dmaWalk_eq hcount hsize, dmaDescriptors_get (Nat.mod_lt _ hcount),
    Option.map_some, Nat.mod_mul, Nat.add_comm]

/-! ## With the sizes of `cam_config` -/

section Sizes

variable {s : CamSettings} {pixels : ℕ}

/-- The nodes make up the buffer. -/
theorem DmaCut.node_mul {s : DmaSizes} (h : DmaCut s) :
    s.dmaNodeBufferSize * (s.dmaBufferSize / s.dmaNodeBufferSize) = s.dmaBufferSize :=
  Nat.mul_div_cancel' (h.buffer_eq ▸ h.node_dvd.mul_left _)

/-- So do the cells of the ring in which the driver looks for the elements. -/
theorem CamSettings.Fits.bufferSize_eq (hfits : s.Fits pixels) (hcut : DmaCut s.dma) :
    s.dma.dmaBufferSize = sizeofDmaElem * (s.dma.dmaHalfBufferCnt * s.eofNum) := by
  rw [hcut.buffer_eq, ← hfits.eofNum_eq, Nat.mul_comm sizeofDmaElem, Nat.mul_assoc]

theorem CamSettings.Fits.bufferSize_pos (hfits : s.Fits pixels) (hcut : DmaCut s.dma) :
    0 < s.dma.dmaBufferSize := by
  obtain ⟨_, _, _, hs⟩ := hfits.sampled
  obtain ⟨hin, -, hitem, -⟩ := sampling_pos hs
  rw [hcut.buffer_eq, hfits.half_eq]
  exact Nat.mul_pos (Nat.zero_lt_of_lt hcut.two_le)
    (Nat.mul_pos hfits.groups.1 (Nat.mul_pos hin hitem))

theorem elem_mod {n k i : ℕ} (hi : i < sizeofDmaElem) :
    (sizeofDmaElem * k + i) % (sizeofDmaElem * n) = sizeofDmaElem * (k % n) + i := by
  have hpos : 0 < sizeofDmaElem := by decide
  rw [Nat.mod_mul, Nat.mul_add_mod, Nat.mod_eq_of_lt hi, Nat.mul_add_div hpos,
    Nat.div_eq_of_lt hi, Nat.add_zero, Nat.add_comm]

end Sizes

/-- **The chain of descriptors is the ring of the driver.** For every configuration that
    `cam_config` accepts, from the start of the DMA on and for as long as it runs: it writes the
    bytes of element number `k` to the cell that the driver looks for them in, it is at the start of
    a descriptor whenever it is at the start of a half buffer, and no descriptor is larger than the
    hardware allows or goes beyond the buffer. -/
theorem descriptor_ring (config : CameraConfig) (size : Framesize) (sensorPid : ℕ) (s : CamSettings)
    (hok : camSettings config (resolution size).1 (resolution size).2 sensorPid = .ok s) :
    let descriptors := EspCamera.dmaDescriptors (s.dma.dmaBufferSize / s.dma.dmaNodeBufferSize)
      s.dma.dmaNodeBufferSize
    (∀ k i, i < sizeofDmaElem → dmaAddress descriptors (sizeofDmaElem * k + i) =
      some (sizeofDmaElem * (k % (s.dma.dmaHalfBufferCnt * s.eofNum)) + i)) ∧
    (∀ half, (dmaWalk descriptors (half * s.dma.dmaHalfBufferSize)).2 = 0) ∧
    ∀ d ∈ descriptors, d.owner = 1 ∧ d.size ≤ dmaNodeBufferMaxSize ∧
      d.buf + d.size ≤ s.dma.dmaBufferSize := by
  obtain ⟨pixels, hfits, -, -, hcut⟩ := camSettings_ok hok
  have hcount : 0 < s.dma.dmaBufferSize / s.dma.dmaNodeBufferSize := by
    refine Nat.pos_of_mul_pos_left (a := s.dma.dmaNodeBufferSize) ?_
    rw [hcut.node_mul]
    exact hfits.bufferSize_pos hcut
  refine ⟨fun k i hi => ?_, fun half => ?_, fun d hd => ?_⟩
  · rw [dmaAddress_eq hcount hcut.node_pos, hcut.node_mul, hfits.bufferSize_eq hcut, elem_mod hi]
  · rw [dmaWalk_eq hcount hcut.node_pos]
    exact Nat.mod_eq_zero_of_dvd (hcut.node_dvd.mul_left half)
  · obtain ⟨x, hx, rfl⟩ := List.mem_map.mp hd
    refine ⟨rfl, hcut.node_le, ?_⟩
    have hlast := Nat.mul_le_mul_left s.dma.dmaNodeBufferSize (List.mem_range.mp hx)
    rw [hcut.node_mul] at hlast
    exact hlast

/-- In JPEG mode: sixteen descriptors to eight half buffers of 1024 elements. -/
theorem descriptor_ring_jpeg :
    dmaAddress (EspCamera.dmaDescriptors 16 2048) (4 * 8193 + 2) = some 6 := by
  obtain ⟨h, -, -⟩ := descriptor_ring
    { pixelFormat := .jpeg, xclkFreqHz := 20000000, fbCount := 2, grabMode := .whenEmpty }
    .svga 0x26 _ rfl
  exact h 8193 2 (by decide)

end Esp32Eye
