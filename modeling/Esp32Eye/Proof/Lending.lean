import Esp32Eye.Proof.Markers

/-!
# A frame that is out belongs to the application

`lent x tr` is what the application was last handed in the frame `x`, if it has not given it back.
Nothing in the driver writes to a frame that is out: `cam_task` fills free frames, and `cam_take`
cuts only the one it has just received. So what is in the frame stays what was handed out, for as
long as the application keeps it.
-/

namespace Esp32Eye

open Lib

/-- What the application was handed in `x` and has not given back. -/
def lent {n : ℕ} (x : Fin n) : List (DriverEvent n) → Option (List UInt8)
  | [] => none
  | .handedOut y bytes :: tr => if y = x then some bytes else lent x tr
  | .given y :: tr => if y = x then none else lent x tr
  | _ :: tr => lent x tr

namespace Driver

variable {c : CamConfig} {d d' : Driver c} {a : DriverAction}
  {es tr : List (DriverEvent c.frameCnt)} {x : Fin c.frameCnt}

/-- A frame that is out is in no one else's hands. -/
theorem Slots.not_taken (h : Slots d) (hx : x ∈ d.out) : x ∉ d.take.held := by
  intro hheld
  have hn := h.accounted.nodup
  simp only [busy, List.append_assoc] at hn
  exact (List.nodup_append.mp hn).2.2 x hheld x (by simp [hx]) rfl

theorem Rule.kept_out (hr : Rule d a d' es) (h : Slots d) (hx : x ∈ d.out) :
    (d'.frames x).bytes = (d.frames x).bytes := by
  obtain ⟨hbuf, hlen⟩ := hr.kept h (mem_busy.mpr (.inr (.inr (.inr hx))))
  rcases hlen with hlen | ⟨hheld, -⟩
  · rw [CamFrame.bytes, CamFrame.bytes, hbuf, hlen]
  · exact absurd hheld (h.not_taken hx)

/-- The three things that can happen to the frames that are out. -/
theorem Rule.out_cases (hr : Rule d a d' es) :
    (∃ y, es = [.handedOut y (d'.frames y).bytes] ∧ d'.out = y :: d.out) ∨
      (∃ y, es = [.given y] ∧ d'.out = d.out.erase y) ∨
        d'.out = d.out ∧ ∀ x tr, lent x (es ++ tr) = lent x tr := by
  cases hr with
  | verify hpc hmode heoi =>
    refine Or.inl ⟨_, ?_, rfl⟩
    rw [setFrame_self]
  | handOut => exact Or.inl ⟨_, rfl, rfl⟩
  | give => exact Or.inr (Or.inl ⟨_, rfl, rfl⟩)
  | _ => exact Or.inr (Or.inr ⟨rfl, fun _ _ => rfl⟩)

/-- What is out is what was lent, and has not changed. -/
def Lent (tr : List (DriverEvent c.frameCnt)) (d : Driver c) : Prop :=
  ∀ x, lent x tr = if x ∈ d.out then some (d.frames x).bytes else none

theorem Rule.lent (hr : Rule d a d' es) (h : Slots d) (hl : Lent tr d) : Lent (es ++ tr) d' := by
  intro x
  have hold := hl x
  rcases hr.out_cases with ⟨y, rfl, hout⟩ | ⟨y, rfl, hout⟩ | ⟨hout, hes⟩
  · rw [hout]
    by_cases hy : y = x
    · simp [Esp32Eye.lent, hy]
    · simp only [List.singleton_append, Esp32Eye.lent, if_neg hy, hold, List.mem_cons,
        Ne.symm hy, false_or]
      split
      · rename_i hx; rw [hr.kept_out h hx]
      · rfl
  · rw [hout]
    have hn : d.out.Nodup := by
      have hn := h.accounted.nodup
      rw [busy] at hn
      exact (List.nodup_append.mp hn).2.1
    by_cases hy : y = x
    · subst hy; simp [Esp32Eye.lent, hn.mem_erase_iff]
    · simp only [List.singleton_append, Esp32Eye.lent, if_neg hy, hold, hn.mem_erase_iff, ne_eq,
        Ne.symm hy, not_false_eq_true, true_and]
      split
      · rename_i hx; rw [hr.kept_out h hx]
      · rfl
  · rw [hes, hold, hout]
    split
    · rename_i hx; rw [hr.kept_out h hx]
    · rfl

theorem DriverRun.lent {p : Driver c → DriverAction → Bool} {buf : Fin c.frameCnt → ℕ → UInt8}
    {cells : ℕ → DmaElem} (hp : ∀ d a, p d a = true → d.GivesHeld a)
    (h : DriverRun p (init c buf cells) tr d) : Lent tr d := by
  refine h.invariant_of (J := fun _ d => Slots d) (I := Lent) (fun h => DriverRun.slots hp h)
    (fun _ => rfl) ?_
  intro tr d a d' es hslots hl _ hs
  exact (Rule.of_step hs).lent hslots hl

/-- **What the application holds does not change.** As long as it gives back only what it has, a
    frame that is out contains what was handed out, through every step of the DMA, the interrupt
    handlers, `cam_task` and `cam_take`; and a frame is out exactly if it was handed out and not
    given back since. -/
theorem lent_unchanged (c : CamConfig) (buf : Fin c.frameCnt → ℕ → UInt8) (cells : ℕ → DmaElem)
    (tr : List (DriverEvent c.frameCnt)) (d : Driver c)
    (hrun : DriverRun givesHeld (init c buf cells) tr d) (x : Fin c.frameCnt) :
    Esp32Eye.lent x tr = if x ∈ d.out then some (d.frames x).bytes else none :=
  hrun.lent (fun _ _ => givesHeld_iff.mp) x

/-- The next image is being read while the first one is out. -/
theorem lent_unchanged_small :
    ∃ tr d, DriverRun givesHeld (init smallCamera (fun _ _ => 0) fun _ => ⟨0, 0, 0, 0⟩) tr d ∧
      d.cnt = 1 ∧ (d.frames firstFrame).bytes = smallJpeg := by
  obtain ⟨tr, d, hrun, hq⟩ := reaches (c := smallCamera) (p := givesHeld)
    (a := smallImage ++ fbGet ++ List.replicate 5 .camTask
      ++ cameraSends [0xFF, 0xD8, 0xFF, 0xDB] ++ copyOut)
    (q := fun d tr => decide (d.cnt = 1) && decide (firstFrame ∈ d.out) &&
      decide (Esp32Eye.lent firstFrame tr = some smallJpeg))
    (by decide +kernel)
  simp only [Bool.and_eq_true, decide_eq_true_eq] at hq
  have h := lent_unchanged _ _ _ tr d hrun firstFrame
  rw [if_pos hq.1.2, hq.2] at h
  exact ⟨tr, d, hrun, hq.1.1, (Option.some.inj h).symm⟩

end Driver
end Esp32Eye
