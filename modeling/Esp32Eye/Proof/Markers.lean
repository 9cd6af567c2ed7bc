import Mathlib.Data.Nat.Bitwise
import Esp32Eye.DriverSchedule
import Esp32Eye.Proof.Slots

/-!
# The markers at both ends of a JPEG image

`cam_task` looks for the start marker once, in the first half buffer of a frame, and `cam_take`
looks for the end marker backwards from the end. The first half of this file says what the two
scans find; the second follows the start marker of a frame from the check to the hand-out, where
nobody looks at it again. A frame's bounds go with it: a half buffer is copied only where it fits.
-/

namespace Esp32Eye

open Lib

/-! ## The scans -/

section Scans

variable {inbuf : ℕ → UInt8} {i n : ℕ}

/-- The word's three low bytes. -/
theorem soiAt_iff :
    soiAt inbuf i = true ↔ inbuf i = 0xFF ∧ inbuf (i + 1) = 0xD8 ∧ inbuf (i + 2) = 0xFF := by
  have h₀ := (inbuf i).toNat_lt
  have h₁ := (inbuf (i + 1)).toNat_lt
  have h₂ := (inbuf (i + 2)).toNat_lt
  have h₃ := (inbuf (i + 3)).toNat_lt
  have hand : (leWord32 (inbuf i) (inbuf (i + 1)) (inbuf (i + 2)) (inbuf (i + 3))
      &&& 0xFFFFFF).toNat
      = (inbuf i).toNat + 256 * (inbuf (i + 1)).toNat + 65536 * (inbuf (i + 2)).toNat := by
    rw [UInt32.toNat_and, show (0xFFFFFF : UInt32).toNat = 2 ^ 24 - 1 from rfl,
      Nat.and_two_pow_sub_one_eq_mod, leWord32, UInt32.toNat_ofNat']
    omega
  unfold soiAt
  rw [decide_eq_true_eq, ← UInt32.toNat_inj, hand, ← UInt8.toNat_inj, ← UInt8.toNat_inj,
    ← UInt8.toNat_inj, show jpegSoiMarker.toNat = 0xFFD8FF from rfl,
    show (0xFF : UInt8).toNat = 0xFF from rfl, show (0xD8 : UInt8).toNat = 0xD8 from rfl]
  omega

theorem eoiAt_iff : eoiAt inbuf i = true ↔ inbuf i = 0xFF ∧ inbuf (i + 1) = 0xD9 := by
  have h₀ := (inbuf i).toNat_lt
  have h₁ := (inbuf (i + 1)).toNat_lt
  unfold eoiAt
  rw [decide_eq_true_eq, ← UInt16.toNat_inj, ← UInt8.toNat_inj, ← UInt8.toNat_inj,
    UInt16.toNat_ofNat', show jpegEoiMarker.toNat = 0xD9FF from rfl,
    show (0xFF : UInt8).toNat = 0xFF from rfl, show (0xD9 : UInt8).toNat = 0xD9 from rfl]
  omega

/-- The start of the buffer is looked at first, so `0` means there. -/
theorem camVerifyJpegSoi_eq_zero : camVerifyJpegSoi inbuf n = 0 ↔ soiAt inbuf 0 = true := by
  unfold camVerifyJpegSoi
  constructor
  · intro h
    split at h
    · assumption
    · split at h
      · rename_i i hi
        obtain rfl : i = 0 := by exact_mod_cast h
        exact List.find?_some hi
      · cases h
  · intro h
    rw [if_pos h]

/-- The last end marker up to `n`, the first byte aside. -/
theorem eoiFrom_eq : ∀ {n : ℕ}, eoiFrom inbuf n = i →
    1 ≤ i ∧ i ≤ n ∧ eoiAt inbuf i = true ∧ ∀ j, i < j → j ≤ n → eoiAt inbuf j = false
  | 0, h => by cases h
  | n + 1, h => by
    rw [eoiFrom] at h
    split at h
    · rename_i hn
      obtain rfl : n + 1 = i := by exact_mod_cast h
      exact ⟨by omega, le_rfl, hn, fun j hj hle => by omega⟩
    · rename_i hn
      obtain ⟨h₁, hle, hi, hlast⟩ := eoiFrom_eq h
      refine ⟨h₁, by omega, hi, fun j hj hjn => ?_⟩
      rcases Nat.lt_or_eq_of_le hjn with hlt | rfl
      · exact hlast j hj (by omega)
      · exact Bool.not_eq_true _ ▸ hn

theorem camVerifyJpegEoi_eq (h : camVerifyJpegEoi inbuf n = i) :
    1 ≤ i ∧ i + 2 ≤ n ∧ eoiAt inbuf i = true := by
  obtain ⟨h₁, hle, hi, -⟩ := eoiFrom_eq h
  exact ⟨h₁, by omega, hi⟩

end Scans

theorem CamTaskPc.Reads.fills {n : ℕ} {state : CamState} {task : CamTaskPc n}
    (h : task.Reads state) : task.Fills state := by
  cases task <;> first | exact h | cases h

namespace Driver

variable {c : CamConfig} {d d' : Driver c} {a : DriverAction}
  {es : List (DriverEvent c.frameCnt)} {x : Fin c.frameCnt}

/-- A step leaves the memory of a busy frame alone; its length changes when `cam_take` cuts it. -/
theorem Rule.kept (hr : Rule d a d' es) (h : Slots d) (hx : x ∈ d.busy) :
    (d'.frames x).buf = (d.frames x).buf ∧
      ((d'.frames x).len = (d.frames x).len ∨
        x ∈ d.take.held ∧ (∃ bytes, .handedOut x bytes ∈ es) ∧
          ∃ i : ℕ, camVerifyJpegEoi (d.frames x).buf (d.frames x).len = i ∧
            (d'.frames x).len = i + 2) := by
  have hne : d.task.Fills d.state → x ≠ d.framePos := by
    rintro hf rfl
    exact h.accounted.not_mem (h.filling hf) hx
  cases hr with
  | eofNoSoi hpc hs | eof hpc hs =>
    have hy := copyHalfBuffer_of_ne (d := d) (hne (by simp [hpc, hs]))
    exact ⟨congrArg CamFrame.buf hy, Or.inl (congrArg CamFrame.len hy)⟩
  | startedIdle hpc | startedRead hpc =>
    have hy := setFrame_of_ne (d := d) (f := { d.current with len := 0 })
      (hne (by rw [hpc]; trivial))
    exact ⟨congrArg CamFrame.buf hy, Or.inl (congrArg CamFrame.len hy)⟩
  | completeJpeg hpc =>
    have hy := copyHalfBuffer_of_ne (d := d) (hne (by rw [hpc]; trivial))
    exact ⟨setEn_buf.trans (congrArg CamFrame.buf hy),
      Or.inl (setEn_len.trans (congrArg CamFrame.len hy))⟩
  | completeFull | complete | completeSize | popNone | resendFull | giveBack | takeGiveBack
  | give => exact ⟨setEn_buf, Or.inl setEn_len⟩
  | verify hpc hmode heoi =>
    rename_i y i
    by_cases hxy : x = y
    · subst hxy
      have hy := setFrame_self (d := d) (x := x) (f := { d.frames x with len := i + 2 })
      exact ⟨(congrArg CamFrame.buf hy).trans rfl,
        Or.inr ⟨by simp [hpc], ⟨_, List.mem_singleton_self _⟩, i, heoi,
          congrArg CamFrame.len hy⟩⟩
    · have hy := setFrame_of_ne (d := d) (f := { d.frames y with len := i + 2 }) hxy
      exact ⟨congrArg CamFrame.buf hy, Or.inl (congrArg CamFrame.len hy)⟩
  | _ => exact ⟨rfl, Or.inl rfl⟩

theorem Rule.kept_bytes (hr : Rule d a d' es) (h : Slots d) (hx : x ∈ d.busy)
    (hes : ∀ bytes, .handedOut x bytes ∉ es) : (d'.frames x).bytes = (d.frames x).bytes := by
  obtain ⟨hbuf, hlen⟩ := hr.kept h hx
  rcases hlen with hlen | ⟨-, ⟨bytes, he⟩, -⟩
  · rw [CamFrame.bytes, CamFrame.bytes, hbuf, hlen]
  · exact absurd he (hes bytes)

/-- What a frame is when it is closed: what it was, with the last half buffer if that fits. -/
inductive Closed (d : Driver c) (f : CamFrame) : Prop
  | full (hmode : c.jpegMode = true) (hcnt : d.cnt ≠ 0) (hf : f = { d.current with en := false })
  | last (hmode : c.jpegMode = true) (hcnt : d.cnt ≠ 0) (hfull : d.isFull = false)
      (hf : f = { d.copyHalfBuffer.current with en := false })
  | whole (hmode : c.jpegMode = false) (hlen : d.current.len = c.fbSize)
      (hf : f = { d.current with en := false })

/-- A frame becomes busy when it is closed. -/
theorem Rule.entered (hr : Rule d a d' es) (hx : x ∈ d'.busy) (hn : x ∉ d.busy) :
    d.task = .complete ∧ x = d.framePos ∧ Closed d (d'.frames x) := by
  cases hr with
  | completeFull hpc hmode hcnt =>
    obtain rfl : x = d.framePos := by simp_all [busy, setEn, setFrame]
    exact ⟨hpc, rfl, .full hmode hcnt setFrame_self⟩
  | completeJpeg hpc hmode hcnt hfull =>
    obtain rfl : x = d.framePos := by simp_all [busy, setEn, setFrame, copyHalfBuffer]
    exact ⟨hpc, rfl, .last hmode hcnt hfull setFrame_self⟩
  | complete hpc hmode hlen =>
    obtain rfl : x = d.framePos := by simp_all [busy, setEn, setFrame]
    exact ⟨hpc, rfl, .whole hmode hlen setFrame_self⟩
  | send hpc hq => simp_all [busy, Queue.items_of_sendToBack hq]
  | pop hpc hq => simp_all [busy, Queue.items_of_receive hq]
  | resend hpc hq => simp_all [busy, Queue.items_of_sendToBack hq]
  | take hpc hq => simp_all [busy, Queue.items_of_receive hq]
  | give =>
    rcases List.mem_append.mp hx with hx | hx
    · exact absurd (List.mem_append_left _ hx) hn
    · exact absurd (List.mem_append_right _ (List.mem_of_mem_erase hx)) hn
  | _ => simp_all [busy, setEn, setFrame, copyHalfBuffer, Driver.stop, Driver.start]

/-! ## Bounds -/

/-- No frame is longer than its buffer. -/
def Fits (d : Driver c) : Prop := ∀ x, (d.frames x).len ≤ c.fbSize

theorem length_filter_halfBuffer :
    (c.sampling.filter d.halfBuffer).bytes.length = c.pixelsPerDma :=
  c.filter_bytes _ length_halfBuffer

theorem filter_halfBuffer_length : (c.sampling.filter d.halfBuffer).length = c.pixelsPerDma :=
  c.filter_length _ length_halfBuffer

/-- The frame that is filled is longer by one half buffer, whatever is in it. -/
theorem copyHalfBuffer_len :
    (d.copyHalfBuffer.frames x).len
      = if x = d.framePos then d.current.len + c.pixelsPerDma else (d.frames x).len := by
  split
  · rename_i hx
    subst hx
    rw [copyHalfBuffer, setFrame_self, CamFrame.append, filter_halfBuffer_length]
  · rename_i hx; rw [copyHalfBuffer_of_ne hx]

theorem Fits.copyHalfBuffer (h : Fits d) (hfull : d.isFull = false) : Fits d.copyHalfBuffer := by
  intro x
  rw [copyHalfBuffer_len]
  split
  · simpa [isFull] using hfull
  · exact h x

theorem Fits.setFrame (h : Fits d) {f : CamFrame} (hf : f.len ≤ c.fbSize) :
    Fits (d.setFrame x f) := by
  intro y
  by_cases hy : y = x
  · subst hy; rw [setFrame_self]; exact hf
  · rw [setFrame_of_ne hy]; exact h y

theorem Fits.setEn {en : Bool} (h : Fits d) : Fits (d.setEn x en) := h.setFrame (h x)

theorem Rule.fits (hr : Rule d a d' es) (h : Fits d) : Fits d' := by
  cases hr with
  | eofNoSoi hpc hs hfull | eof hpc hs hfull => exact h.copyHalfBuffer hfull
  | completeJpeg hpc hmode hcnt hfull => exact (h.copyHalfBuffer hfull).setEn
  | completeFull | complete | completeSize | popNone | resendFull | giveBack | takeGiveBack
  | give => exact h.setEn
  | startedIdle | startedRead => exact h.setFrame (Nat.zero_le _)
  | verify hpc hmode heoi =>
    exact h.setFrame ((camVerifyJpegEoi_eq heoi).2.1.trans (h _))
  | _ => exact h

/-! ## The start marker -/

/-- The frame begins an image. -/
def Begun (f : CamFrame) : Prop := soiAt f.buf 0 = true ∧ 3 ≤ f.len

theorem Begun.append {f : CamFrame} {r : Filtered} (h : Begun f) : Begun (f.append r) := by
  obtain ⟨hsoi, hlen⟩ := h
  have hbuf : ∀ j < 3, (f.append r).buf j = f.buf j := fun j hj => if_neg (by omega)
  refine ⟨?_, hlen.trans (Nat.le_add_right _ _)⟩
  rw [soiAt_iff] at hsoi ⊢
  rw [hbuf 0 (by omega), hbuf (0 + 1) (by omega), hbuf (0 + 2) (by omega)]
  exact hsoi

theorem Begun.setEn {en : Bool} (h : Begun (d.frames x)) {y : Fin c.frameCnt} :
    Begun ((d.setEn y en).frames x) := by
  unfold Begun
  rw [setEn_buf, setEn_len]
  exact h

theorem Begun.setFrame {f : CamFrame} {y : Fin c.frameCnt} (h : Begun (d.frames x))
    (hf : Begun (d.frames y) → Begun f) : Begun ((d.setFrame y f).frames x) := by
  by_cases hxy : x = y
  · subst hxy; rw [setFrame_self]; exact hf h
  · rw [setFrame_of_ne hxy]; exact h

/-- What is counted in `cnt` belongs to the frame that is filled, and the frame has passed the
    check; so have the frames that were closed. -/
structure Marked (d : Driver c) : Prop where
  reading : d.task.Reads d.state → d.cnt ≠ 0 → Begun d.current
  busy : ∀ x ∈ d.busy, Begun (d.frames x)

theorem Rule.reading (hr : Rule d a d' es) (hmode : c.jpegMode = true) (hm : Marked d) :
    d'.task.Reads d'.state → d'.cnt ≠ 0 → Begun d'.current := by
  intro hreads hcnt
  have hold := hm.reading
  cases hr with
  | eof hpc hs hfull hsoi =>
    show Begun d.copyHalfBuffer.current
    by_cases hzero : d.cnt = 0
    · have hlen : d.copyHalfBuffer.current.len = d.current.len + c.pixelsPerDma :=
        copyHalfBuffer_len.trans (if_pos rfl)
      exact ⟨camVerifyJpegSoi_eq_zero.mp (hsoi hmode hzero),
        hlen ▸ c.three_le.trans (Nat.le_add_left _ _)⟩
    · rw [copyHalfBuffer_current]
      exact (hold (by simp [hpc, hs]) hzero).append
  | sample | dmaIsr | vsyncIsr | giveNone | call | enter | retry | timeout | take | noEoi
  | handOut => exact hold hreads hcnt
  | dmaIsrLost | vsyncIsrLost => exact hold hreads.of_idle hcnt
  | give | takeGiveBack => exact (hold hreads hcnt).setEn
  | verify hpc _ heoi =>
    refine (hold hreads hcnt).setFrame fun hb => ⟨hb.1, ?_⟩
    exact Nat.add_le_add_right (camVerifyJpegEoi_eq heoi).1 2
  | receive hpc => exact hold (by simpa [hpc] using hreads) hcnt
  | vsync hpc hs | eofFull hpc hs => exact hold (by simp [hpc, hs]) hcnt
  | overflow hpc | stop hpc => exact hold (by rw [hpc]; trivial) hcnt
  | startedIdle | startedRead | scanIdle | setIdle => exact absurd rfl hcnt
  | idleEof hpc hs => exact absurd (hs ▸ hreads) (by simp)
  | noSoiIdle => exact absurd hreads (by simp)
  | _ => exact False.elim hreads

theorem Rule.marked (hr : Rule d a d' es) (hmode : c.jpegMode = true) (h : Slots d)
    (hm : Marked d) : Marked d' := by
  refine ⟨hr.reading hmode hm, fun x hx => ?_⟩
  by_cases hold : x ∈ d.busy
  · obtain ⟨hsoi, hlen⟩ := hm.busy x hold
    obtain ⟨hbuf, hl⟩ := hr.kept h hold
    refine ⟨hbuf ▸ hsoi, ?_⟩
    rcases hl with hl | ⟨-, -, i, heoi, hl⟩
    · exact hl ▸ hlen
    · exact hl ▸ Nat.add_le_add_right (camVerifyJpegEoi_eq heoi).1 2
  · obtain ⟨hpc, rfl, hclosed⟩ := hr.entered hx hold
    have hb := hm.reading (by rw [hpc]; trivial)
    cases hclosed with
    | full _ hcnt hf => exact hf ▸ hb hcnt
    | last _ hcnt _ hf =>
      rw [copyHalfBuffer_current] at hf
      exact hf ▸ (hb hcnt).append
    | whole hraw => rw [hmode] at hraw; cases hraw

/-! ## What the events say -/

/-- Every copy is into the frame that is filled, and it fits. -/
theorem Rule.copied {offset count : ℕ} (hr : Rule d a d' es)
    (he : DriverEvent.copied x offset count ∈ es) :
    d.task.Fills d.state ∧ x = d.framePos ∧ offset + count ≤ c.fbSize := by
  have hfits : d.isFull = false → DriverEvent.copied x offset count = d.copied →
      x = d.framePos ∧ offset + count ≤ c.fbSize := by
    intro hfull he
    cases he
    refine ⟨rfl, ?_⟩
    rw [length_filter_halfBuffer]
    simpa [isFull] using hfull
  cases hr with
  | eofNoSoi hpc hs hfull | eof hpc hs hfull =>
    exact ⟨by simp [hpc, hs], hfits hfull (List.mem_singleton.mp he)⟩
  | completeJpeg hpc hmode hcnt hfull =>
    exact ⟨by simp [hpc], hfits hfull (List.mem_singleton.mp he)⟩
  | _ => simp at he

/-- What is handed out: the frame `cam_take` has, and in JPEG mode its end marker was found. -/
theorem Rule.handedOut {bytes : List UInt8} (hr : Rule d a d' es)
    (he : DriverEvent.handedOut x bytes ∈ es) :
    x ∈ d.take.held ∧ bytes = (d'.frames x).bytes ∧ (d'.frames x).buf = (d.frames x).buf ∧
      (c.jpegMode = true →
        camVerifyJpegEoi (d.frames x).buf (d.frames x).len = ((d'.frames x).len - 2 : ℕ)) := by
  cases hr with
  | verify hpc hmode heoi =>
    simp only [List.mem_singleton, DriverEvent.handedOut.injEq] at he
    obtain ⟨rfl, rfl⟩ := he
    exact ⟨by simp [hpc], (congrArg CamFrame.bytes setFrame_self).symm,
      (congrArg CamFrame.buf setFrame_self).trans rfl,
      fun _ => heoi.trans (by rw [setFrame_self]; rfl)⟩
  | handOut hpc hmode =>
    simp only [List.mem_singleton, DriverEvent.handedOut.injEq] at he
    obtain ⟨rfl, rfl⟩ := he
    exact ⟨by simp [hpc], rfl, rfl, fun h => by rw [hmode] at h; cases h⟩
  | _ => simp [Driver.copied] at he

/-! ## Every run -/

section

variable {p : Driver c → DriverAction → Bool} {buf : Fin c.frameCnt → ℕ → UInt8}
  {cells : ℕ → DmaElem} {tr : List (DriverEvent c.frameCnt)}

theorem DriverRun.fits (h : DriverRun p (init c buf cells) tr d) : Fits d := by
  refine h.invariant (I := fun _ d => Fits d) (fun _ => Nat.zero_le _) ?_
  intro tr d a d' es hf _ hs
  exact (Rule.of_step hs).fits hf

theorem DriverRun.marked (hp : ∀ d a, p d a = true → d.GivesHeld a) (hmode : c.jpegMode = true)
    (h : DriverRun p (init c buf cells) tr d) : Marked d := by
  refine h.invariant_of (J := fun _ d => Slots d) (I := fun _ d => Marked d)
    (fun h => DriverRun.slots hp h) ⟨fun _ h => absurd rfl h, fun x hx => ?_⟩ ?_
  · simp [busy, init, Queue.create] at hx
  intro tr d a d' es hslots hm _ hs
  exact (Rule.of_step hs).marked hmode hslots hm

/-- **Every frame has one place, and only a free one is written.** In every state the driver comes
    to, as long as the application gives back only what it has: the frames whose flag is clear are
    exactly those that are on the queue, in the hands of `cam_task` or `cam_take`, or out, each in
    one place. A copy goes to a frame that is none of these and ends within its buffer, and no frame
    is handed out that is still out. -/
theorem frames_accounted (c : CamConfig) (buf : Fin c.frameCnt → ℕ → UInt8) (cells : ℕ → DmaElem)
    (tr : List (DriverEvent c.frameCnt)) (d : Driver c)
    (hrun : DriverRun givesHeld (init c buf cells) tr d) :
    (d.busy.Nodup ∧ ∀ x, (d.frames x).en = false ↔ x ∈ d.busy) ∧
      ∀ a d' es, d.step a = some (d', es) →
        (∀ x offset count, .copied x offset count ∈ es →
          x ∉ d.busy ∧ offset + count ≤ c.fbSize) ∧
        ∀ x bytes, .handedOut x bytes ∈ es → x ∉ d.out := by
  have hslots := hrun.slots fun _ _ => givesHeld_iff.mp
  refine ⟨⟨hslots.accounted.nodup, hslots.accounted.flags⟩, fun a d' es hs => ⟨?_, ?_⟩⟩
  · intro x offset count he
    obtain ⟨hfill, rfl, hfits⟩ := (Rule.of_step hs).copied he
    exact ⟨hslots.accounted.not_mem (hslots.filling hfill), hfits⟩
  · intro x bytes he hout
    have hn := hslots.accounted.nodup
    obtain ⟨hheld, -⟩ := (Rule.of_step hs).handedOut he
    simp only [busy, List.append_assoc] at hn
    exact (List.nodup_append.mp hn).2.2 x hheld x (by simp [hout]) rfl

/-- An image has been handed out and given back, and the next one is on the queue. -/
theorem frames_accounted_second :
    ∃ tr d, DriverRun givesHeld (init smallCamera (fun _ _ => 0) fun _ => ⟨0, 0, 0, 0⟩) tr d ∧
      d.frameBufferQueue.items.length = 1 ∧ d.busy.Nodup := by
  obtain ⟨tr, d, hrun, hq⟩ := reaches (c := smallCamera) (p := givesHeld)
    (a := smallImage ++ fbGet ++ [.give 0] ++ List.replicate 3 .camTask
      ++ cameraSends [0xFF, 0xD8, 0xFF, 0xE0] ++ copyOut ++ cameraSends [0xFF, 0xD9] ++ endImage)
    (q := fun d _ => decide (d.frameBufferQueue.items.length = 1))
    (by decide +kernel)
  exact ⟨tr, d, hrun, of_decide_eq_true hq, (frames_accounted _ _ _ tr d hrun).1.1⟩

/-- The bytes of a JPEG image: both markers, at its ends. -/
structure IsJpeg (bytes : List UInt8) : Prop where
  soi : [0xFF, 0xD8, 0xFF] <+: bytes
  eoi : [0xFF, 0xD9] <:+ bytes

theorem isJpeg_of_markers {f : CamFrame} {i : ℕ} (hsoi : soiAt f.buf 0 = true) (hi : 1 ≤ i)
    (heoi : eoiAt f.buf i = true) (hlen : f.len = i + 2) : IsJpeg f.bytes := by
  obtain ⟨h₀, h₁, h₂⟩ := soiAt_iff.mp hsoi
  obtain ⟨h₃, h₄⟩ := eoiAt_iff.mp heoi
  constructor
  · rw [List.prefix_iff_eq_take, CamFrame.bytes, ← List.map_take, List.take_range, hlen,
      show min [(0xFF : UInt8), 0xD8, 0xFF].length (i + 2) = 3 by simp; omega]
    simp [List.range_succ, h₀, h₁, h₂]
  · refine ⟨(List.range i).map f.buf, ?_⟩
    rw [CamFrame.bytes, hlen, List.range_succ, List.range_succ]
    simp [h₃, h₄]

theorem DriverRun.isJpeg (hp : ∀ d a, p d a = true → d.GivesHeld a) (hmode : c.jpegMode = true)
    (h : DriverRun p (init c buf cells) tr d) :
    ∀ x bytes, .handedOut x bytes ∈ tr → IsJpeg bytes ∧ bytes.length ≤ c.fbSize := by
  refine h.invariant_of (J := fun _ d => Slots d ∧ Fits d ∧ Marked d)
    (I := fun tr _ => ∀ x bytes, .handedOut x bytes ∈ tr → IsJpeg bytes ∧ bytes.length ≤ c.fbSize)
    (fun h => ⟨DriverRun.slots hp h, DriverRun.fits h, DriverRun.marked hp hmode h⟩)
    (fun _ _ h => by cases h) ?_
  rintro tr d a d' es ⟨-, hfits, hmarked⟩ ih - hs x bytes he
  rcases List.mem_append.mp he with he | he
  · obtain ⟨hx, rfl, hbuf, heoi⟩ := (Rule.of_step hs).handedOut he
    obtain ⟨hsoi, -⟩ := hmarked.busy x (mem_busy.mpr (Or.inl hx))
    obtain ⟨hi, hlen, hat⟩ := camVerifyJpegEoi_eq (heoi hmode)
    refine ⟨isJpeg_of_markers (hbuf ▸ hsoi) hi (hbuf ▸ hat) (by omega), ?_⟩
    rw [CamFrame.bytes, List.length_map, List.length_range]
    exact (Rule.of_step hs).fits hfits x
  · exact ih x bytes he

/-- **What is handed out is a JPEG image.** In JPEG mode, whatever the camera sends, however the
    interrupts fall and whatever was in the memory before: a frame that `cam_take` returns begins
    with the start marker, ends with the end marker, and is not longer than its buffer. -/
theorem handed_out_is_jpeg (c : CamConfig) (hmode : c.jpegMode = true)
    (buf : Fin c.frameCnt → ℕ → UInt8) (cells : ℕ → DmaElem)
    (tr : List (DriverEvent c.frameCnt)) (d : Driver c)
    (hrun : DriverRun givesHeld (init c buf cells) tr d) :
    ∀ x bytes, .handedOut x bytes ∈ tr → IsJpeg bytes ∧ bytes.length ≤ c.fbSize :=
  hrun.isJpeg (fun _ _ => givesHeld_iff.mp) hmode

/-- What was in the ring behind the image has been cut off. -/
theorem handed_out_is_jpeg_small :
    ∃ tr d, DriverRun givesHeld (init smallCamera (fun _ _ => 0) fun _ => ⟨0, 0, 0, 0⟩) tr d ∧
      IsJpeg smallJpeg := by
  obtain ⟨tr, d, hrun, hq⟩ := reaches (c := smallCamera) (p := givesHeld) (a := smallImage ++ fbGet)
    (q := fun _ tr => decide (.handedOut firstFrame smallJpeg ∈ tr))
    (by decide +kernel)
  exact ⟨tr, d, hrun, (handed_out_is_jpeg _ rfl _ _ tr d hrun _ _ (of_decide_eq_true hq)).1⟩

end

end Driver
end Esp32Eye
