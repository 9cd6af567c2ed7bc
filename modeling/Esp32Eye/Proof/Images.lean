import Mathlib.Tactic.Ring
import Esp32Eye.Proof.Markers
import Esp32Eye.Proof.Pacing

/-!
# What is in the frame that is filled

`images tr` is what the camera sent, one image for each start of the DMA. When the driver keeps up,
the ring holds the last of what the camera sent of the newest image, so the half buffers that were
copied are the beginning of that image (`Filled`). At the vertical sync one more half buffer is
copied, of which the camera may have written only a part; what is behind that part was in the ring
before. `Shows` says what that makes of a closed frame: it and the image agree as far as both go.
-/

namespace Esp32Eye

open Lib

/-! ## Images -/

/-- The images that were begun, the newest first, each with the frame it was begun for and what the
    camera sent of it. -/
def images {n : ℕ} : List (DriverEvent n) → List (Fin n × List DmaElem)
  | [] => []
  | .started x :: tr => (x, []) :: images tr
  | .sampled e :: tr =>
      match images tr with
      | [] => []
      | (x, els) :: rest => (x, els ++ [e]) :: rest
  | _ :: tr => images tr

/-- What the camera sent of the newest image. -/
def recording {n : ℕ} (tr : List (DriverEvent n)) : List DmaElem :=
  match images tr with
  | [] => []
  | (_, els) :: _ => els

/-- The first `m` half buffers of an image. -/
def halfBuffers (c : CamConfig) (els : List DmaElem) (m : ℕ) : List (List DmaElem) :=
  (List.range m).map fun i => (els.drop (i * c.eofNum)).take c.eofNum

/-- What `cam_task` makes of them. -/
def filtered (c : CamConfig) (hs : List (List DmaElem)) : List UInt8 :=
  hs.flatMap fun h => (c.sampling.filter h).bytes

/-- The bytes are those of half buffers that agree with the image as far as both go; a frame that is
    not JPEG is all there. -/
def Shows (c : CamConfig) (bytes : List UInt8) (els : List DmaElem) : Prop :=
  ∃ hs : List (List DmaElem), (∀ h ∈ hs, h.length = c.eofNum) ∧ bytes = filtered c hs ∧
    Agree hs.flatten els ∧
    (c.jpegMode = false → hs.flatten <+: els ∧ bytes.length = c.fbSize)

section HalfBuffers

variable {c : CamConfig} {els : List DmaElem} {m : ℕ} {e : DmaElem}

theorem halfBuffers_succ : halfBuffers c els (m + 1)
    = halfBuffers c els m ++ [(els.drop (m * c.eofNum)).take c.eofNum] := by
  simp [halfBuffers, List.range_succ]

theorem flatten_halfBuffers : (halfBuffers c els m).flatten = els.take (m * c.eofNum) := by
  induction m with
  | zero => simp [halfBuffers]
  | succ m ih =>
    rw [halfBuffers_succ, List.flatten_append, ih, Nat.add_mul, Nat.one_mul, List.take_add]
    simp

theorem length_of_mem_halfBuffers (hm : m * c.eofNum ≤ els.length) :
    ∀ h ∈ halfBuffers c els m, h.length = c.eofNum := by
  intro h hh
  obtain ⟨i, hi, rfl⟩ := List.mem_map.mp hh
  have hle : (i + 1) * c.eofNum ≤ m * c.eofNum :=
    Nat.mul_le_mul_right _ (List.mem_range.mp hi)
  rw [Nat.add_mul, Nat.one_mul] at hle
  rw [List.length_take, List.length_drop]
  omega

/-- What comes behind them does not matter. -/
theorem halfBuffers_concat (hm : m * c.eofNum ≤ els.length) :
    halfBuffers c (els ++ [e]) m = halfBuffers c els m := by
  refine List.map_congr_left fun i hi => ?_
  have hle : (i + 1) * c.eofNum ≤ m * c.eofNum :=
    Nat.mul_le_mul_right _ (List.mem_range.mp hi)
  rw [Nat.add_mul, Nat.one_mul] at hle
  rw [List.drop_append_of_le_length (by omega), List.take_append_of_le_length]
  rw [List.length_drop]
  omega

theorem filtered_concat {hs : List (List DmaElem)} {h : List DmaElem} :
    filtered c (hs ++ [h]) = filtered c hs ++ (c.sampling.filter h).bytes := by
  simp [filtered]

end HalfBuffers

theorem CamFrame.bytes_append {f : CamFrame} {r : Filtered} (h : r.length = r.bytes.length) :
    (f.append r).bytes = f.bytes ++ r.bytes := by
  rw [bytes, bytes, CamFrame.append, List.range_add, List.map_append, List.map_map]
  congr 1
  · refine List.map_congr_left fun i hi => ?_
    exact if_neg (Nat.not_le.mpr (List.mem_range.mp hi))
  · refine List.ext_getElem (by simp [h]) fun i hi hi' => ?_
    simp [hi']

namespace Driver

variable {c : CamConfig} {d d' : Driver c} {a : DriverAction}
  {es tr : List (DriverEvent c.frameCnt)} {x : Fin c.frameCnt}

theorem mul_add_mod_mul {k m n j : ℕ} (hj : j < n) : (k * n + j) % (m * n) = k % m * n + j := by
  have hn : 0 < n := Nat.zero_lt_of_lt hj
  rw [Nat.mul_comm m n, Nat.mod_mul, Nat.mul_add_mod', Nat.mod_eq_of_lt hj, Nat.add_comm (k * n),
    Nat.add_mul_div_right _ _ hn, Nat.div_eq_of_lt hj, Nat.zero_add]
  ring

/-- The half buffer that is copied, as a segment of the ring. -/
theorem halfBuffer_eq : d.halfBuffer = d.dmaBuffer.segment (d.cnt * c.eofNum) c.eofNum := by
  refine List.map_congr_left fun j hj => ?_
  rw [Ring.read, mul_add_mod_mul (List.mem_range.mp hj)]

/-- The ring holds the newest image, and the frame that is filled the beginning of it. -/
structure Filled (tr : List (DriverEvent c.frameCnt)) (d : Driver c) : Prop where
  ring : d.dmaBuffer.Wrote (recording tr)
  begun : d.dmaRunning = true → images tr ≠ []
  head : d.task.Reads d.state ∨ (∃ origin, d.task = .started origin) →
    (images tr).head?.map Prod.fst = some d.framePos
  content : d.task.Reads d.state → d.current.bytes = filtered c (halfBuffers c (recording tr) d.cnt)

/-- Copying the half buffer `cnt`, of which the camera has written all. -/
theorem Filled.copied (h : Filled tr d) (hc : d.current.bytes
      = filtered c (halfBuffers c (recording tr) d.cnt))
    (hwritten : (d.cnt + 1) * c.eofNum ≤ d.dmaBuffer.written)
    (hahead : d.dmaBuffer.written ≤ (d.cnt + c.dma.dmaHalfBufferCnt) * c.eofNum) :
    d.copyHalfBuffer.current.bytes
      = filtered c (halfBuffers c (recording tr) (d.cnt + 1)) := by
  rw [h.ring.count] at hwritten hahead
  rw [Nat.add_mul] at hwritten hahead
  rw [copyHalfBuffer_current, CamFrame.bytes_append, hc, halfBuffers_succ, filtered_concat,
    halfBuffer_eq, h.ring.segment_full hahead (by omega)]
  rw [filter_halfBuffer_length, length_filter_halfBuffer]

/-- A frame with whole half buffers of the image only. -/
theorem Filled.shows_whole (h : Filled tr d) (hc : d.current.bytes
      = filtered c (halfBuffers c (recording tr) d.cnt))
    (hwritten : d.cnt * c.eofNum ≤ d.dmaBuffer.written)
    (hraw : c.jpegMode = false → d.current.len = c.fbSize) :
    Shows c d.current.bytes (recording tr) := by
  rw [h.ring.count] at hwritten
  have hinitial : (halfBuffers c (recording tr) d.cnt).flatten <+: recording tr := by
    rw [flatten_halfBuffers]
    exact List.take_prefix _ _
  refine ⟨_, length_of_mem_halfBuffers hwritten, hc, .of_initial hinitial, fun hmode => ?_⟩
  refine ⟨hinitial, ?_⟩
  rw [CamFrame.bytes, List.length_map, List.length_range, hraw hmode]

/-- A frame that is closed with the half buffer at which the camera stopped. -/
theorem Filled.shows_last (h : Filled tr d) (hmode : c.jpegMode = true) (hc : d.current.bytes
      = filtered c (halfBuffers c (recording tr) d.cnt))
    (hwritten : d.cnt * c.eofNum ≤ d.dmaBuffer.written)
    (hahead : d.dmaBuffer.written ≤ (d.cnt + c.dma.dmaHalfBufferCnt) * c.eofNum) :
    Shows c d.copyHalfBuffer.current.bytes (recording tr) := by
  rw [h.ring.count] at hwritten hahead
  rw [Nat.add_mul] at hahead
  refine ⟨halfBuffers c (recording tr) d.cnt ++ [d.halfBuffer], ?_, ?_, ?_,
    fun hraw => by rw [hmode] at hraw; cases hraw⟩
  · intro l hl
    rcases List.mem_append.mp hl with hl | hl
    · exact length_of_mem_halfBuffers hwritten l hl
    · rw [List.mem_singleton.mp hl, length_halfBuffer]
  · rw [copyHalfBuffer_current, CamFrame.bytes_append, hc, filtered_concat]
    rw [filter_halfBuffer_length, length_filter_halfBuffer]
  · rw [List.flatten_append, flatten_halfBuffers, List.flatten_singleton, halfBuffer_eq]
    exact h.ring.agree hwritten hahead

/-! ## One step -/

/-- A step that adds nothing to the image and nothing to the frame. -/
theorem Filled.move (h : Filled tr d) (hes : images (es ++ tr) = images tr)
    (hring : d'.dmaBuffer = d.dmaBuffer) (hrun : d'.dmaRunning = true → d.dmaRunning = true)
    (hreads : d'.task.Reads d'.state → d.task.Reads d.state ∧ d'.cnt = d.cnt ∧
      d'.framePos = d.framePos ∧ d'.current.bytes = d.current.bytes)
    (hstart : ∀ origin, d'.task = .started origin → d.task = .started origin ∧
      d'.framePos = d.framePos) : Filled (es ++ tr) d' := by
  have hrec : recording (es ++ tr) = recording tr := by unfold recording; rw [hes]
  refine ⟨by rw [hring, hrec]; exact h.ring, fun hr => by rw [hes]; exact h.begun (hrun hr), ?_, ?_⟩
  · rintro (hr | ⟨origin, ho⟩)
    · obtain ⟨hold, -, hpos, -⟩ := hreads hr
      rw [hes, hpos]
      exact h.head (Or.inl hold)
    · obtain ⟨hold, hpos⟩ := hstart origin ho
      rw [hes, hpos]
      exact h.head (Or.inr ⟨origin, hold⟩)
  · intro hr
    obtain ⟨hold, hcnt, -, hbytes⟩ := hreads hr
    rw [hbytes, hrec, hcnt]
    exact h.content hold

theorem recording_sampled {e : DmaElem} (h : images tr ≠ []) :
    recording (.sampled e :: tr) = recording tr ++ [e] ∧
      (images (.sampled e :: tr)).head?.map Prod.fst = (images tr).head?.map Prod.fst := by
  cases hi : images tr with
  | nil => exact absurd hi h
  | cons i rest => simp [recording, images, hi]

theorem Filled.sample {e : DmaElem} (h : Filled tr d) (hpaced : Paced d)
    (hrun : d.dmaRunning = true) : Filled (.sampled e :: tr)
      { d with
        dmaBuffer := d.dmaBuffer.write e
        eofPending := d.eofPending || decide ((d.dmaBuffer.write e).written % c.eofNum = 0) } := by
  obtain ⟨hrec, hhead⟩ := recording_sampled (e := e) (h.begun hrun)
  refine ⟨hrec ▸ h.ring.write, fun _ hnil => ?_, fun hr => hhead ▸ h.head hr, fun hr => ?_⟩
  · rw [hnil] at hhead
    exact h.begun hrun (List.head?_eq_none_iff.mp (Option.map_eq_none_iff.mp hhead.symm))
  · rw [hrec, halfBuffers_concat]
    · exact h.content hr
    · rw [← h.ring.count]
      exact Nat.le_trans (Nat.mul_le_mul_right _ (Nat.le_add_right _ _)) (hpaced.counted hr)

theorem Rule.filled (hr : Rule d a d' es) (hslots : Slots d) (hpaced : Paced d)
    (h : Filled tr d) : Filled (es ++ tr) d' := by
  cases hr with
  | sample hrun => exact h.sample hpaced hrun
  | dmaIsr | vsyncIsr | call | enter | retry | timeout | take | noEoi | handOut | giveNone =>
    exact h.move rfl rfl id (fun hr => ⟨hr, rfl, rfl, rfl⟩) fun origin ho => ⟨ho, rfl⟩
  | dmaIsrLost | vsyncIsrLost =>
    exact h.move rfl rfl (fun hr => (by cases hr))
      (fun hr => ⟨CamTaskPc.Reads.of_idle hr, rfl, rfl, rfl⟩) fun origin ho => ⟨ho, rfl⟩
  | give | takeGiveBack =>
    exact h.move rfl rfl id (fun hr => ⟨hr, rfl, rfl, setEn_bytes⟩) fun origin ho => ⟨ho, rfl⟩
  | verify hpc =>
    refine h.move rfl rfl id (fun hr => ⟨hr, rfl, rfl, ?_⟩) fun origin ho => ⟨ho, rfl⟩
    -- the frame that is cut is not the one that is filled
    have hfree := hslots.accounted.not_mem (hslots.filling (CamTaskPc.Reads.fills hr))
    refine congrArg CamFrame.bytes (setFrame_of_ne fun he => hfree (mem_busy.mpr (Or.inl ?_)))
    rw [hpc]
    exact List.mem_singleton.mpr he
  -- an image begins
  | start hpc =>
    exact ⟨Ring.Wrote.restart, fun _ => List.cons_ne_nil _ _, fun _ => rfl, False.elim⟩
  | startedIdle hpc | startedRead hpc =>
    have hbytes : (d.setFrame d.framePos { d.current with len := 0 }).current.bytes = [] :=
      (congrArg CamFrame.bytes setFrame_self).trans rfl
    exact ⟨h.ring, h.begun, fun _ => h.head (Or.inr ⟨_, hpc⟩), fun _ => hbytes⟩
  -- and goes on
  | eof hpc hs =>
    have hreads : d.task.Reads d.state := by simp [hpc, hs]
    have hwritten : (d.cnt + 1) * c.eofNum ≤ d.dmaBuffer.written := by
      refine Nat.le_trans (Nat.mul_le_mul_right _ (Nat.add_le_add_left ?_ _))
        (hpaced.counted hreads)
      simp [due, hpc]
    exact ⟨h.ring, h.begun, fun _ => h.head (Or.inl hreads),
      fun _ => h.copied (h.content hreads) hwritten (hpaced.ahead hreads)⟩
  | receive hpc =>
    exact h.move rfl rfl id (fun hr => ⟨by simpa [hpc] using hr, rfl, rfl, rfl⟩)
      fun _ ho => (by cases ho)
  | eofFull hpc hs | vsync hpc hs =>
    exact h.move rfl rfl id (fun _ => ⟨by simp [hpc, hs], rfl, rfl, rfl⟩)
      fun _ ho => (by cases ho)
  | overflow hpc | stop hpc =>
    exact h.move rfl rfl (fun hr => (by cases hr))
      (fun _ => ⟨by rw [hpc]; trivial, rfl, rfl, rfl⟩) fun _ ho => (by cases ho)
  -- `cam_task` leaves the frame
  | idleEof hpc hs =>
    exact h.move rfl rfl id (fun hr => absurd (hs ▸ hr) (by simp)) fun _ ho => (by cases ho)
  | scanIdle hpc =>
    have hidle := hslots.idle (by rw [hpc]; rfl)
    exact h.move rfl rfl id (fun hr => absurd (hidle ▸ hr) (by simp)) fun _ ho => (by cases ho)
  | noSoi => exact h.move rfl rfl (fun hr => (by cases hr)) False.elim fun _ ho => (by cases ho)
  | noSoiIdle | setIdle =>
    exact h.move rfl rfl id (fun hr => (by cases hr)) fun _ ho => (by cases ho)
  | _ => exact h.move rfl rfl id False.elim fun _ ho => (by cases ho)

/-! ## Every run -/

theorem DriverRun.filled {buf : Fin c.frameCnt → ℕ → UInt8} {cells : ℕ → DmaElem}
    (h : DriverRun keepsUp (init c buf cells) tr d) : Filled tr d := by
  refine h.invariant_of (J := fun _ d => Slots d ∧ Paced d) (I := Filled)
    (fun h => ⟨DriverRun.slots (fun _ _ => givesHeld_of_keepsUp) h, DriverRun.paced h⟩) ?_ ?_
  · exact ⟨⟨rfl, fun _ hk => absurd hk (Nat.not_lt_zero _)⟩, fun hr => (by cases hr),
      fun ho => ho.elim (fun hr => (by cases hr)) fun ⟨_, ho⟩ => (by cases ho),
      fun hr => (by cases hr)⟩
  · rintro tr d a d' es ⟨hslots, hpaced⟩ hf - hs
    exact (Rule.of_step hs).filled hslots hpaced hf

end Driver
end Esp32Eye
