import Esp32Eye.DriverSchedule
import Esp32Eye.Lib.Relay
import Esp32Eye.Proof.Images

/-!
# Images reach the application in order, each at most once

The driver is a relay of images (`Lib.Relays`): it takes one in when it closes a frame, may drop one
when the queue is full or when there is no end marker, and passes them on from the queue's head.
The number of an image is not stored anywhere; it is the number of its start in the trace.
-/

namespace Esp32Eye

open Lib

/-- The image that was begun as number `k`. -/
def image {n : ℕ} (tr : List (DriverEvent n)) (k : ℕ) : Option (Fin n × List DmaElem) :=
  (images tr).reverse[k]?

/-- The frames handed out, in order, with what was in them. -/
def handedOuts {n : ℕ} : List (DriverEvent n) → List (Fin n × List UInt8)
  | [] => []
  | .handedOut x bytes :: tr => handedOuts tr ++ [(x, bytes)]
  | _ :: tr => handedOuts tr

/-- The frame that `cam_task` has closed and not put on the queue yet. -/
@[simp] def CamTaskPc.sends {n : ℕ} (framePos : Fin n) : CamTaskPc n → List (Fin n)
  | .send => [framePos]
  | .pop => [framePos]
  | .resend _ => [framePos]
  | _ => []

/-- The frame that `cam_take` has received and not looked at yet. -/
@[simp] def TakePc.verifies {n : ℕ} : TakePc n → List (Fin n)
  | .verify x _ _ => [x]
  | _ => []

/-- `bytes` was handed out of the frame `x` for image number `k`: the image was begun for that
    frame, and the bytes are the beginning of what a frame shows of it, in raw mode all of that. -/
def Delivers (c : CamConfig) (tr : List (DriverEvent c.frameCnt)) (k : ℕ)
    (handed : Fin c.frameCnt × List UInt8) : Prop :=
  ∃ els bytes, image tr k = some (handed.1, els) ∧ Shows c bytes els ∧ handed.2 <+: bytes ∧
    (c.jpegMode = false → handed.2 = bytes)

namespace Driver

variable {c : CamConfig} {d d' : Driver c} {a : DriverAction}
  {es tr : List (DriverEvent c.frameCnt)} {x : Fin c.frameCnt} {k : ℕ}

/-- The frames that are on their way, oldest first. -/
def pending (d : Driver c) : List (Fin c.frameCnt) :=
  d.take.verifies ++ d.frameBufferQueue.items ++ d.task.sends d.framePos

/-- The frame `x` is on its way with image number `k`. -/
def Carries (tr : List (DriverEvent c.frameCnt)) (d : Driver c) (k : ℕ) (x : Fin c.frameCnt) :
    Prop :=
  ∃ els, image tr k = some (x, els) ∧ Shows c (d.frames x).bytes els

/-- The newest image is not closed. -/
def Recording (d : Driver c) : Prop :=
  d.dmaRunning = true ∨ d.task.Reads d.state ∨ ∃ origin, d.task = .started origin

def Relaying (tr : List (DriverEvent c.frameCnt)) (d : Driver c) : Prop :=
  ∃ n, Relays n (Delivers c tr) (Carries tr d) (handedOuts tr) d.pending ∧
    n ≤ (images tr).length ∧ (Recording d → n < (images tr).length)

theorem pending_sublist : d.pending.Sublist d.busy := by
  have htake : d.take.verifies.Sublist d.take.held := by cases d.take <;> simp
  have htask : (d.task.sends d.framePos).Sublist (d.task.held d.framePos) := by
    cases d.task <;> simp
  exact ((htake.append (List.Sublist.refl _)).append htask).trans (List.sublist_append_left _ _)

/-! ## Images already begun -/

theorem Rule.image_eq (hr : Rule d a d' es) (hk : k < (images tr).length)
    (hrun : d.dmaRunning = true → k + 1 < (images tr).length) :
    image (es ++ tr) k = image tr k := by
  cases hr with
  | sample h =>
    have hk := hrun h
    unfold image
    cases hi : images tr with
    | nil => rw [hi] at hk; cases hk
    | cons i rest =>
      rw [hi, List.length_cons] at hk
      simp only [List.singleton_append, images, hi, List.reverse_cons]
      rw [List.getElem?_append_left, List.getElem?_append_left] <;> simp <;> omega
  | start =>
    unfold image
    simp only [List.singleton_append, images, List.reverse_cons]
    rw [List.getElem?_append_left (by simpa using hk)]
  | _ => rfl

theorem Rule.length_images (hr : Rule d a d' es) :
    (images tr).length ≤ (images (es ++ tr)).length := by
  cases hr with
  | sample =>
    simp only [List.singleton_append, images]
    split <;> simp_all
  | start => simp [images]
  | _ => exact le_rfl

/-! ## What a step does to the frames on their way -/

/-- Nothing is handed out. -/
def Silent (es : List (DriverEvent c.frameCnt)) : Prop :=
  (∀ x bytes, .handedOut x bytes ∉ es) ∧ ∀ tr, handedOuts (es ++ tr) = handedOuts tr

/-- The three moves of a relay. -/
inductive RelayMove (d d' : Driver c) (es : List (DriverEvent c.frameCnt)) : Prop
  | drop (hp : d'.pending.Sublist d.pending) (hes : Silent es)
  | deliver {x : Fin c.frameCnt} {bytes : List UInt8} (hp : d.pending = x :: d'.pending)
      (hes : es = [.handedOut x bytes]) (hcut : bytes <+: (d.frames x).bytes)
      (hraw : c.jpegMode = false → bytes = (d.frames x).bytes)
  | publish (hpc : d.task = .complete) (hclosed : Closed d (d'.frames d.framePos))
      (hp : d'.pending = d.pending ++ [d.framePos]) (hopen : d.dmaRunning = false → ¬ Recording d')
      (hes : Silent es)

theorem bytes_initial {f : CamFrame} {n : ℕ} (h : n ≤ f.len) :
    { f with len := n }.bytes <+: f.bytes := by
  obtain ⟨m, hm⟩ := Nat.exists_eq_add_of_le h
  rw [CamFrame.bytes, CamFrame.bytes, hm, List.range_add, List.map_append]
  exact List.prefix_append _ _

theorem Rule.relayMove (hr : Rule d a d' es) : RelayMove d d' es := by
  cases hr with
  | verify hpc hmode heoi =>
    exact .deliver (by simp [pending, hpc, setFrame]) rfl
      (bytes_initial (camVerifyJpegEoi_eq heoi).2.1) fun hraw => by rw [hmode] at hraw; cases hraw
  | handOut hpc => exact .deliver (by simp [pending, hpc]) rfl (List.prefix_refl _) fun _ => rfl
  | completeFull hpc hmode hcnt =>
    exact .publish hpc (.full hmode hcnt setFrame_self) (by simp [pending, hpc, setEn, setFrame])
      (by simp [Recording, setEn, setFrame]) ⟨by simp, fun _ => rfl⟩
  | completeJpeg hpc hmode hcnt hfull =>
    exact .publish hpc (.last hmode hcnt hfull setFrame_self)
      (by simp [pending, hpc, setEn, setFrame, copyHalfBuffer])
      (by simp [Recording, setEn, setFrame, copyHalfBuffer])
      ⟨by simp [Driver.copied], fun _ => rfl⟩
  | complete hpc hmode hlen =>
    exact .publish hpc (.whole hmode hlen setFrame_self) (by simp [pending, hpc, setEn, setFrame])
      (by simp [Recording, setEn, setFrame]) ⟨by simp, fun _ => rfl⟩
  | sample | dmaIsr | dmaIsrLost | vsyncIsr | vsyncIsrLost | give | giveNone =>
    exact .drop (List.Sublist.refl _) ⟨by simp, fun _ => rfl⟩
  | send hpc hq | resend hpc hq =>
    exact .drop (by simp [pending, hpc, Queue.items_of_sendToBack hq]) ⟨by simp, fun _ => rfl⟩
  | pop hpc hq =>
    exact .drop (by simp [pending, hpc, Queue.items_of_receive hq]) ⟨by simp, fun _ => rfl⟩
  | take hpc hq =>
    exact .drop (by simp [pending, hpc, Queue.items_of_receive hq]) ⟨by simp, fun _ => rfl⟩
  | popNone hpc | resendFull hpc | giveBack hpc | takeGiveBack hpc | completeSize hpc =>
    exact .drop (by simp [pending, hpc, setEn, setFrame]) ⟨by simp, fun _ => rfl⟩
  | eofNoSoi hpc | eof hpc | startedIdle hpc | startedRead hpc =>
    exact .drop (by simp [pending, hpc, copyHalfBuffer, setFrame])
      ⟨by simp [Driver.copied], fun _ => rfl⟩
  | noEoi hpc => exact .drop (by simp [pending, hpc]) ⟨by simp, fun _ => rfl⟩
  | call hpc | enter hpc | retry hpc | timeout hpc | receive hpc | idleVsync hpc | idleEof hpc
  | eofFull hpc | vsync hpc | overflow hpc | noSoi hpc | noSoiIdle hpc | stop hpc
  | completeEmpty hpc | sendFull hpc | nextFree hpc | nextBusy hpc | scanFree hpc | scanBusy hpc
  | scanIdle hpc | scanRead hpc | start hpc | setIdle hpc =>
    exact .drop (by simp [pending, hpc, Driver.stop, Driver.start]) ⟨by simp, fun _ => rfl⟩

/-- Only a start makes the driver record again. -/
theorem Rule.recording (hr : Rule d a d' es) (hslots : Slots d) (hrec : Recording d') :
    Recording d ∨ (images tr).length < (images (es ++ tr)).length := by
  cases hr with
  | sample | dmaIsr | vsyncIsr | call | enter | retry | timeout | take | verify | noEoi | handOut
  | takeGiveBack | give | giveNone => exact Or.inl hrec
  | dmaIsrLost | vsyncIsrLost =>
    exact Or.inl (Or.inr ((hrec.resolve_left (by simp [Driver.stop])).imp_left
      CamTaskPc.Reads.of_idle))
  | start => exact Or.inr (Nat.lt_succ_self _)
  | startedIdle hpc | startedRead hpc => exact Or.inl (Or.inr (Or.inr ⟨_, hpc⟩))
  | eof hpc hs | eofFull hpc hs | vsync hpc hs => exact Or.inl (Or.inr (Or.inl (by simp [hpc, hs])))
  | overflow hpc | stop hpc => exact Or.inl (Or.inr (Or.inl (by rw [hpc]; trivial)))
  | receive hpc =>
    refine Or.inl (hrec.imp_right (Or.imp (fun hr => ?_) fun ho => (by rcases ho with ⟨_, ⟨⟩⟩)))
    simpa [hpc] using hr
  | noSoi => simp [Recording, Driver.stop] at hrec
  | scanIdle hpc =>
    have hidle := hslots.idle (by rw [hpc]; rfl)
    refine Or.inl (hrec.imp_right (Or.imp (fun hr => ?_) fun ho => (by rcases ho with ⟨_, ⟨⟩⟩)))
    exact absurd (hidle ▸ hr) (by simp)
  | idleEof hpc hs =>
    refine Or.inl (hrec.imp_right (Or.imp (fun hr => ?_) fun ho => (by rcases ho with ⟨_, ⟨⟩⟩)))
    exact absurd (hs ▸ hr) (by simp)
  | noSoiIdle | setIdle =>
    refine Or.inl (hrec.imp_right (Or.imp (fun hr => ?_) fun ho => (by rcases ho with ⟨_, ⟨⟩⟩)))
    cases hr
  | _ => exact Or.inl (hrec.imp_right (Or.imp False.elim fun ho => (by rcases ho with ⟨_, ⟨⟩⟩)))

/-- What was known of the frames on their way is still known. -/
theorem Rule.carries (hr : Rule d a d' es) (hslots : Slots d) (hx : x ∈ d.pending)
    (hes : ∀ bytes, .handedOut x bytes ∉ es) (hk : k < (images tr).length)
    (hrun : d.dmaRunning = true → k + 1 < (images tr).length) (h : Carries tr d k x) :
    Carries (es ++ tr) d' k x := by
  obtain ⟨els, himage, hshows⟩ := h
  refine ⟨els, (hr.image_eq hk hrun).trans himage, ?_⟩
  rw [hr.kept_bytes hslots (pending_sublist.subset hx) hes]
  exact hshows

theorem Rule.delivers {handed : Fin c.frameCnt × List UInt8} (hr : Rule d a d' es)
    (hk : k < (images tr).length) (hrun : d.dmaRunning = true → k + 1 < (images tr).length)
    (h : Delivers c tr k handed) : Delivers c (es ++ tr) k handed := by
  obtain ⟨els, bytes, himage, h⟩ := h
  exact ⟨els, bytes, (hr.image_eq hk hrun).trans himage, h⟩

/-- The image that is closed is the newest one, and the frame shows it. -/
theorem carries_closed (hpaced : Paced d) (hfilled : Filled tr d) (hpc : d.task = .complete)
    {f : CamFrame} (hclosed : Closed d f) :
    ∃ els rest, images tr = (d.framePos, els) :: rest ∧ Shows c f.bytes els := by
  have hreads : d.task.Reads d.state := by rw [hpc]; trivial
  have hhead := hfilled.head (Or.inl hreads)
  have hcontent := hfilled.content hreads
  have hwritten : d.cnt * c.eofNum ≤ d.dmaBuffer.written :=
    Nat.le_trans (Nat.mul_le_mul_right _ (Nat.le_add_right _ _)) (hpaced.counted hreads)
  have hshows : Shows c f.bytes (recording tr) := by
    cases hclosed with
    | full hmode _ hf =>
      rw [hf]
      exact hfilled.shows_whole hcontent hwritten fun hraw => by rw [hmode] at hraw; cases hraw
    | last hmode _ _ hf =>
      rw [hf]
      exact hfilled.shows_last hmode hcontent hwritten (hpaced.ahead hreads)
    | whole _ hlen hf =>
      rw [hf]
      exact hfilled.shows_whole hcontent hwritten fun _ => hlen
  cases hi : images tr with
  | nil => rw [hi] at hhead; cases hhead
  | cons i rest =>
    obtain ⟨x, els⟩ := i
    rw [hi] at hhead
    have hx : x = d.framePos := Option.some.inj hhead
    rw [recording, hi] at hshows
    exact ⟨els, rest, by rw [hx], hshows⟩

theorem Rule.relaying (hr : Rule d a d' es) (hslots : Slots d) (hpaced : Paced d)
    (hfilled : Filled tr d) (h : Relaying tr d) : Relaying (es ++ tr) d' := by
  obtain ⟨n, hrel, hn, hopen⟩ := h
  have hrun : ∀ k < n, d.dmaRunning = true → k + 1 < (images tr).length := fun k hk hd =>
    Nat.lt_of_le_of_lt hk (hopen (Or.inl hd))
  have hlen : (images tr).length ≤ (images (es ++ tr)).length := hr.length_images
  have hnext : Recording d' → n < (images (es ++ tr)).length := fun hrec => by
    have hcases : Recording d ∨ (images tr).length < (images (es ++ tr)).length :=
      hr.recording hslots hrec
    rcases hcases with hold | hlt
    · exact Nat.lt_of_lt_of_le (hopen hold) hlen
    · exact Nat.lt_of_le_of_lt hn hlt
  have hD : ∀ k < n, ∀ b, Delivers c tr k b → Delivers c (es ++ tr) k b := fun k hk b =>
    hr.delivers (Nat.lt_of_lt_of_le hk hn) (hrun k hk)
  have hQ : ∀ k < n, ∀ x ∈ d.pending, (∀ bytes, .handedOut x bytes ∉ es) →
      Carries tr d k x → Carries (es ++ tr) d' k x := fun k hk x hx hes =>
    hr.carries hslots hx hes (Nat.lt_of_lt_of_le hk hn) (hrun k hk)
  cases hr.relayMove with
  | drop hp hes =>
    refine ⟨n, ?_, hn.trans hlen, hnext⟩
    rw [hes.2]
    exact (hrel.drop hp).imp le_rfl hD fun k hk x hx => hQ k hk x (hp.subset hx) (hes.1 x)
  | deliver hp hes hcut hraw =>
    rename_i x bytes
    have hnodup : (x :: d'.pending).Nodup :=
      hp ▸ pending_sublist.nodup hslots.accounted.nodup
    rw [hp] at hrel
    refine ⟨n, ?_, hn.trans hlen, hnext⟩
    have hdeliver := hrel.deliver (b := (x, bytes)) fun k _ ⟨els, himage, hshows⟩ =>
      ⟨els, _, himage, hshows, hcut, hraw⟩
    subst hes
    refine hdeliver.imp le_rfl hD fun k hk y hy => ?_
    refine hQ k hk y (hp ▸ List.mem_cons_of_mem _ hy) fun b he => ?_
    cases List.mem_singleton.mp he
    exact (List.nodup_cons.mp hnodup).1 hy
  | publish hpc hclosed hp hstop hes =>
    obtain ⟨els, rest, himages, hshows⟩ := carries_closed hpaced hfilled hpc hclosed
    have hrest : (images tr).length = rest.length + 1 := by rw [himages, List.length_cons]
    have hlt : n < rest.length + 1 := hrest ▸ hopen (Or.inr (Or.inl (by rw [hpc]; trivial)))
    have hoff := hpaced.stopped hpc
    have hcarries : Carries (es ++ tr) d' rest.length d.framePos := by
      refine ⟨els, ?_, hshows⟩
      rw [hr.image_eq (by omega) fun hd => by rw [hoff] at hd; cases hd]
      rw [image, himages, List.reverse_cons, ← List.length_reverse]
      exact List.getElem?_concat_length
    refine ⟨rest.length + 1, ?_, by omega, fun hrec => absurd hrec (hstop hoff)⟩
    rw [hes.2, hp]
    exact (hrel.imp (Nat.le_of_lt_succ hlt) hD fun k hk x hx => hQ k hk x hx (hes.1 x)).publish
      hcarries

/-! ## Every run -/

theorem DriverRun.relaying {buf : Fin c.frameCnt → ℕ → UInt8} {cells : ℕ → DmaElem}
    (h : DriverRun keepsUp (init c buf cells) tr d) : Relaying tr d := by
  refine h.invariant_of (J := fun tr d => Slots d ∧ Paced d ∧ Filled tr d) (I := Relaying)
    (fun h => ⟨DriverRun.slots (fun _ _ => givesHeld_of_keepsUp) h, DriverRun.paced h,
      DriverRun.filled h⟩) ?_ ?_
  · refine ⟨0, .nil, Nat.zero_le _, ?_⟩
    rintro (hr | hr | ⟨_, ho⟩)
    · cases hr
    · cases hr
    · cases ho
  · rintro tr d a d' es ⟨hslots, hpaced, hfilled⟩ hrel - hs
    exact (Rule.of_step hs).relaying hslots hpaced hfilled hrel

/-- **Images arrive in order, each at most once, and as the camera sent them.** If the driver keeps
    up, the frames that were handed out belong to images of increasing numbers, each to one that was
    begun for that frame, and what was handed out and what the camera sent agree as far as both go.
    In raw mode what was handed out is a whole frame. -/
theorem images_in_order (c : CamConfig) (buf : Fin c.frameCnt → ℕ → UInt8) (cells : ℕ → DmaElem)
    (tr : List (DriverEvent c.frameCnt)) (d : Driver c)
    (hrun : DriverRun keepsUp (init c buf cells) tr d) :
    ∃ ks : List ℕ, ks.Pairwise (· < ·) ∧ List.Forall₂ (Delivers c tr) ks (handedOuts tr) := by
  obtain ⟨n, hrel, -⟩ := hrun.relaying
  exact hrel.out_sorted

/-- The second of three images is not among them. -/
theorem images_in_order_three :
    ∃ tr d, DriverRun keepsUp (init smallCamera (fun _ _ => 0) fun _ => ⟨0, 0, 0, 0⟩) tr d ∧
      (images tr).length = 3 ∧
      handedOuts tr =
        [(firstFrame, smallJpeg), (firstFrame, [0xFF, 0xD8, 0xFF, 0xE1, 0xFF, 0xD9])] ∧
      ∃ ks : List ℕ, ks.Pairwise (· < ·) ∧
        List.Forall₂ (Delivers smallCamera tr) ks (handedOuts tr) := by
  obtain ⟨tr, d, hrun, hq⟩ := reaches (c := smallCamera) (p := keepsUp) (a := threeImages)
    (q := fun _ tr => decide ((images tr).length = 3) && decide (handedOuts tr =
      [(firstFrame, smallJpeg), (firstFrame, [0xFF, 0xD8, 0xFF, 0xE1, 0xFF, 0xD9])]))
    (by decide +kernel)
  simp only [Bool.and_eq_true, decide_eq_true_eq] at hq
  exact ⟨tr, d, hrun, hq.1, hq.2, images_in_order _ _ _ tr d hrun⟩

/-- In JPEG mode the copy takes one sample of each element. -/
theorem Delivers.agree {handed : Fin c.frameCnt × List UInt8} (h : Delivers c tr k handed)
    (hfilter : c.sampling.filter = DmaFilter.jpeg) {m : ℕ} (heof : c.eofNum = 4 * m) :
    ∃ els, image tr k = some (handed.1, els) ∧ Agree handed.2 (els.map DmaElem.sample1) := by
  obtain ⟨els, bytes, himage, ⟨hs, hlen, hbytes, hagree, -⟩, hinitial, -⟩ := h
  have hsamples : bytes = hs.flatten.map DmaElem.sample1 := by
    rw [hbytes, filtered, List.map_flatten, List.flatMap_def]
    congr 1
    refine List.map_congr_left fun l hl => ?_
    rw [hfilter, (DmaFilter.jpeg_ok ((hlen l hl).trans heof)).1]
  exact ⟨els, himage, Agree.initial (hsamples ▸ hagree.map _) hinitial⟩

end Driver
end Esp32Eye
