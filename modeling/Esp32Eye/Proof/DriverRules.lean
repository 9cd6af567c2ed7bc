import Esp32Eye.Driver

/-!
# What a step of the camera driver can do

`Driver.step` read the other way: one constructor of `Rule` for each way through a statement of
`cam_task`, `cam_take`, `cam_give` and the interrupt handlers, with the guard it passed and the
state it left. The lemmas in front say what the operations on frames do to the flags and to the
memory, so that nothing behind this file unfolds them.
-/

namespace Esp32Eye

theorem CamTaskPc.Reads.of_idle {n : ℕ} {state : CamState} {task : CamTaskPc n}
    (h : task.Reads .idle) : task.Reads state := by
  cases task <;> first | exact h | cases h

namespace Driver

open Lib

variable {c : CamConfig}

/-! ## Frames -/

section Frames

variable {d : Driver c} {x y : Fin c.frameCnt} {f : CamFrame} {en : Bool}

@[simp] theorem setFrame_self : (d.setFrame x f).frames x = f := Function.update_self _ _ _

theorem setFrame_of_ne (h : y ≠ x) : (d.setFrame x f).frames y = d.frames y :=
  Function.update_of_ne h _ _

theorem setFrame_en (h : f.en = (d.frames x).en) :
    ((d.setFrame x f).frames y).en = (d.frames y).en := by
  by_cases hy : y = x
  · subst hy; rw [setFrame_self, h]
  · rw [setFrame_of_ne hy]

@[simp] theorem setEn_en :
    ((d.setEn x en).frames y).en = if y = x then en else (d.frames y).en := by
  unfold setEn
  split
  · rename_i h; subst h; rw [setFrame_self]
  · rename_i h; rw [setFrame_of_ne h]

@[simp] theorem setEn_len : ((d.setEn x en).frames y).len = (d.frames y).len := by
  unfold setEn
  by_cases h : y = x
  · subst h; rw [setFrame_self]
  · rw [setFrame_of_ne h]

@[simp] theorem setEn_buf : ((d.setEn x en).frames y).buf = (d.frames y).buf := by
  unfold setEn
  by_cases h : y = x
  · subst h; rw [setFrame_self]
  · rw [setFrame_of_ne h]

@[simp] theorem setEn_bytes : ((d.setEn x en).frames y).bytes = (d.frames y).bytes := by
  simp [CamFrame.bytes]

/-- The frame as the copy leaves it. -/
theorem copyHalfBuffer_current :
    d.copyHalfBuffer.current = d.current.append (c.sampling.filter d.halfBuffer) := setFrame_self

theorem copyHalfBuffer_of_ne (h : y ≠ d.framePos) : d.copyHalfBuffer.frames y = d.frames y :=
  setFrame_of_ne h

@[simp] theorem copyHalfBuffer_en : (d.copyHalfBuffer.frames y).en = (d.frames y).en := by
  by_cases h : y = d.framePos
  · subst h; rw [copyHalfBuffer, setFrame_self]; rfl
  · rw [copyHalfBuffer_of_ne h]

@[simp] theorem length_halfBuffer : d.halfBuffer.length = c.eofNum := by simp [halfBuffer]

end Frames

/-! ## Rules -/

inductive Rule (d : Driver c) :
    DriverAction → Driver c → List (DriverEvent c.frameCnt) → Prop
  | sample {e : DmaElem} (h : d.dmaRunning = true) :
      Rule d (.sample e)
        { d with
          dmaBuffer := d.dmaBuffer.write e
          eofPending := d.eofPending || decide ((d.dmaBuffer.write e).written % c.eofNum = 0) }
        [.sampled e]
  | dmaIsr {q : Queue (c.dma.dmaHalfBufferCnt - 1) CamEvent} (h : d.eofPending = true)
      (hq : d.eventQueue.sendToBack .inSucEof = some q) :
      Rule d .dmaIsr { d with eofPending := false, eventQueue := q } []
  | dmaIsrLost (h : d.eofPending = true) (hq : d.eventQueue.sendToBack .inSucEof = none) :
      Rule d .dmaIsr { d.stop with state := .idle } []
  | vsyncIsr {q : Queue (c.dma.dmaHalfBufferCnt - 1) CamEvent}
      (hq : d.eventQueue.sendToBack .vsync = some q) :
      Rule d .vsyncIsr { d with eventQueue := q } []
  | vsyncIsrLost (hq : d.eventQueue.sendToBack .vsync = none) :
      Rule d .vsyncIsr { d.stop with state := .idle } []
  | receive {event : CamEvent} {q : Queue (c.dma.dmaHalfBufferCnt - 1) CamEvent}
      (h : d.task = .receive) (hq : d.eventQueue.receive = some (event, q)) :
      Rule d .camTask { d with eventQueue := q, task := .dispatch event } []
  | idleVsync (h : d.task = .dispatch .vsync) (hs : d.state = .idle) :
      Rule d .camTask { d with task := .nextFrame .idle } []
  | idleEof (h : d.task = .dispatch .inSucEof) (hs : d.state = .idle) :
      Rule d .camTask { d with task := .receive } []
  | eofFull (h : d.task = .dispatch .inSucEof) (hs : d.state = .readBuf)
      (hfull : d.isFull = true) :
      Rule d .camTask { d with task := .overflow } []
  | eofNoSoi (h : d.task = .dispatch .inSucEof) (hs : d.state = .readBuf)
      (hfull : d.isFull = false) (hmode : c.jpegMode = true) (hcnt : d.cnt = 0)
      (hsoi : camVerifyJpegSoi d.copyHalfBuffer.current.buf d.copyHalfBuffer.current.len ≠ 0) :
      Rule d .camTask { d.copyHalfBuffer with task := .noSoi } [d.copied]
  | eof (h : d.task = .dispatch .inSucEof) (hs : d.state = .readBuf) (hfull : d.isFull = false)
      (hsoi : c.jpegMode = true → d.cnt = 0 →
        camVerifyJpegSoi d.copyHalfBuffer.current.buf d.copyHalfBuffer.current.len = 0) :
      Rule d .camTask { d.copyHalfBuffer with cnt := d.cnt + 1, task := .receive } [d.copied]
  | vsync (h : d.task = .dispatch .vsync) (hs : d.state = .readBuf) :
      Rule d .camTask { d with task := .vsync } []
  | overflow (h : d.task = .overflow) : Rule d .camTask { d.stop with task := .receive } []
  | noSoi (h : d.task = .noSoi) : Rule d .camTask { d.stop with task := .noSoiIdle } []
  | noSoiIdle (h : d.task = .noSoiIdle) :
      Rule d .camTask { d with state := .idle, cnt := d.cnt + 1, task := .receive } []
  | stop (h : d.task = .vsync) : Rule d .camTask { d.stop with task := .complete } []
  | completeFull (h : d.task = .complete) (hmode : c.jpegMode = true) (hcnt : d.cnt ≠ 0)
      (hfull : d.isFull = true) :
      Rule d .camTask { d.setEn d.framePos false with task := .send } []
  | completeJpeg (h : d.task = .complete) (hmode : c.jpegMode = true) (hcnt : d.cnt ≠ 0)
      (hfull : d.isFull = false) :
      Rule d .camTask
        { d.copyHalfBuffer.setEn d.framePos false with cnt := d.cnt + 1, task := .send }
        [d.copied]
  | completeSize (h : d.task = .complete) (hmode : c.jpegMode = false)
      (hlen : d.current.len ≠ c.fbSize) :
      Rule d .camTask { d.setEn d.framePos true with task := .nextFrame .readBuf } []
  | complete (h : d.task = .complete) (hmode : c.jpegMode = false)
      (hlen : d.current.len = c.fbSize) :
      Rule d .camTask { d.setEn d.framePos false with task := .send } []
  | completeEmpty (h : d.task = .complete) (hmode : c.jpegMode = true) (hcnt : d.cnt = 0) :
      Rule d .camTask { d with task := .nextFrame .readBuf } []
  | send {q : Queue c.frameBufferQueueLen (Fin c.frameCnt)} (h : d.task = .send)
      (hq : d.frameBufferQueue.sendToBack d.framePos = some q) :
      Rule d .camTask { d with frameBufferQueue := q, task := .nextFrame .readBuf }
        [.queued d.framePos]
  | sendFull (h : d.task = .send) (hq : d.frameBufferQueue.sendToBack d.framePos = none) :
      Rule d .camTask { d with task := .pop } []
  | pop {fb2 : Fin c.frameCnt} {q : Queue c.frameBufferQueueLen (Fin c.frameCnt)}
      (h : d.task = .pop) (hq : d.frameBufferQueue.receive = some (fb2, q)) :
      Rule d .camTask { d with frameBufferQueue := q, task := .resend fb2 } []
  | popNone (h : d.task = .pop) (hq : d.frameBufferQueue.receive = none) :
      Rule d .camTask { d.setEn d.framePos true with task := .nextFrame .readBuf }
        [.discarded d.framePos]
  | resend {fb2 : Fin c.frameCnt} {q : Queue c.frameBufferQueueLen (Fin c.frameCnt)}
      (h : d.task = .resend fb2) (hq : d.frameBufferQueue.sendToBack d.framePos = some q) :
      Rule d .camTask { d with frameBufferQueue := q, task := .giveBack fb2 } [.queued d.framePos]
  | resendFull {fb2 : Fin c.frameCnt} (h : d.task = .resend fb2)
      (hq : d.frameBufferQueue.sendToBack d.framePos = none) :
      Rule d .camTask { d.setEn d.framePos true with task := .giveBack fb2 }
        [.discarded d.framePos]
  | giveBack {fb2 : Fin c.frameCnt} (h : d.task = .giveBack fb2) :
      Rule d .camTask { d.setEn fb2 true with task := .nextFrame .readBuf } [.discarded fb2]
  | nextFree {origin : CamState} (h : d.task = .nextFrame origin) (hen : d.current.en = true) :
      Rule d .camTask { d with task := .start origin } []
  | nextBusy {origin : CamState} (h : d.task = .nextFrame origin) (hen : d.current.en = false) :
      Rule d .camTask { d with task := .scan origin 0 } []
  | scanFree {origin : CamState} {x : Fin c.frameCnt} (h : d.task = .scan origin x)
      (hen : (d.frames x).en = true) :
      Rule d .camTask { d with framePos := x, task := .start origin } []
  | scanBusy {origin : CamState} {x : Fin c.frameCnt} (h : d.task = .scan origin x)
      (hen : (d.frames x).en = false) :
      Rule d .camTask { d with task := .scan origin (x + 1) } []
  | scanIdle {x : ℕ} (h : d.task = .scan .idle x) (hx : c.frameCnt ≤ x) :
      Rule d .camTask { d with cnt := 0, task := .receive } []
  | scanRead {x : ℕ} (h : d.task = .scan .readBuf x) (hx : c.frameCnt ≤ x) :
      Rule d .camTask { d with task := .setIdle } []
  | start {origin : CamState} (h : d.task = .start origin) :
      Rule d .camTask { d.start with task := .started origin } [.started d.framePos]
  | startedIdle (h : d.task = .started .idle) :
      Rule d .camTask
        { d.setFrame d.framePos { d.current with len := 0 } with
          state := .readBuf, cnt := 0, task := .receive } []
  | startedRead (h : d.task = .started .readBuf) :
      Rule d .camTask
        { d.setFrame d.framePos { d.current with len := 0 } with cnt := 0, task := .receive } []
  | setIdle (h : d.task = .setIdle) :
      Rule d .camTask { d with state := .idle, cnt := 0, task := .receive } []
  | call (h : d.take = .none) : Rule d (.take .call) { d with take := .enter fbGetTimeout } []
  | enter {timeout now : UInt32} (h : d.take = .enter timeout) :
      Rule d (.take (.ticks now)) { d with take := .receive timeout now } []
  | retry {timeout start now : UInt32} (h : d.take = .retry timeout start) :
      Rule d (.take (.ticks now)) { d with take := .enter (timeout - (now - start)) } []
  | timeout {timeout start : UInt32} (h : d.take = .receive timeout start)
      (hq : d.frameBufferQueue.items = []) :
      Rule d (.take .timeout) { d with take := .none } [.gaveUp]
  | take {timeout start : UInt32} {x : Fin c.frameCnt}
      {q : Queue c.frameBufferQueueLen (Fin c.frameCnt)} (h : d.take = .receive timeout start)
      (hq : d.frameBufferQueue.receive = some (x, q)) :
      Rule d (.take .go) { d with frameBufferQueue := q, take := .verify x timeout start } []
  | verify {timeout start : UInt32} {x : Fin c.frameCnt} {offsetE : ℕ}
      (h : d.take = .verify x timeout start) (hmode : c.jpegMode = true)
      (heoi : camVerifyJpegEoi (d.frames x).buf (d.frames x).len = offsetE) :
      Rule d (.take .go)
        { d.setFrame x { d.frames x with len := offsetE + 2 } with
          take := .none, out := x :: d.out }
        [.handedOut x { d.frames x with len := offsetE + 2 }.bytes]
  | noEoi {timeout start : UInt32} {x : Fin c.frameCnt} (h : d.take = .verify x timeout start)
      (hmode : c.jpegMode = true) (heoi : camVerifyJpegEoi (d.frames x).buf (d.frames x).len < 0) :
      Rule d (.take .go) { d with take := .giveBack x timeout start } []
  | handOut {timeout start : UInt32} {x : Fin c.frameCnt} (h : d.take = .verify x timeout start)
      (hmode : c.jpegMode = false) :
      Rule d (.take .go) { d with take := .none, out := x :: d.out }
        [.handedOut x (d.frames x).bytes]
  | takeGiveBack {timeout start : UInt32} {x : Fin c.frameCnt}
      (h : d.take = .giveBack x timeout start) :
      Rule d (.take .go) { d.setEn x true with take := .retry timeout start } [.discarded x]
  | give {x : Fin c.frameCnt} :
      Rule d (.give x) { d.setEn x true with out := d.out.erase x } [.given x]
  | giveNone {address : ℕ} (h : c.frameCnt ≤ address) : Rule d (.give address) d []

section Adequacy

variable {d d' : Driver c} {es : List (DriverEvent c.frameCnt)}

theorem Rule.of_onEof (h : d.task = .dispatch .inSucEof) (hs : d.state = .readBuf)
    (he : d.onEof = (d', es)) : Rule d .camTask d' es := by
  unfold onEof at he
  split at he
  · rename_i hfull; cases he; exact .eofFull h hs hfull
  · rename_i hfull
    rw [Bool.not_eq_true] at hfull
    dsimp only at he
    split at he
    · rename_i hsoi; cases he; exact .eofNoSoi h hs hfull hsoi.1 hsoi.2.1 hsoi.2.2
    · rename_i hsoi
      cases he
      exact .eof h hs hfull fun hmode hcnt => by_contra fun hne => hsoi ⟨hmode, hcnt, hne⟩

theorem Rule.of_onVsync (h : d.task = .complete) (he : d.onVsync = (d', es)) :
    Rule d .camTask d' es := by
  unfold onVsync at he
  cases hmode : c.jpegMode <;> simp only [hmode] at he
  · simp only [Bool.false_eq_true, not_false_eq_true, or_true, if_true, if_false] at he
    split at he
    · rename_i hlen; cases he; exact .completeSize h hmode hlen
    · rename_i hlen; cases he; exact .complete h hmode (not_not.mp hlen)
  · simp only [not_true_eq_false, or_false, if_true] at he
    split at he
    · rename_i hcnt
      split at he
      · rename_i hfull; cases he; exact .completeFull h hmode hcnt hfull
      · rename_i hfull
        cases he
        exact .completeJpeg h hmode hcnt (Bool.not_eq_true _ ▸ hfull)
    · rename_i hcnt; cases he; exact .completeEmpty h hmode (not_not.mp hcnt)

theorem Rule.of_camTask (h : d.camTask = some (d', es)) : Rule d .camTask d' es := by
  unfold camTask at h
  cases hpc : d.task <;> simp only [hpc] at h
  case receive =>
    cases hq : d.eventQueue.receive with
    | none => rw [hq] at h; cases h
    | some r => rw [hq] at h; cases h; exact .receive hpc hq
  case dispatch event =>
    split at h <;> rename_i hs
    · cases h; exact .idleVsync hpc hs
    · cases h; exact .idleEof hpc hs
    · exact .of_onEof hpc hs (Option.some.inj h)
    · cases h; exact .vsync hpc hs
  case overflow => cases h; exact .overflow hpc
  case noSoi => cases h; exact .noSoi hpc
  case noSoiIdle => cases h; exact .noSoiIdle hpc
  case vsync => cases h; exact .stop hpc
  case complete => exact .of_onVsync hpc (Option.some.inj h)
  case send =>
    cases hq : d.frameBufferQueue.sendToBack d.framePos with
    | none => rw [hq] at h; cases h; exact .sendFull hpc hq
    | some q => rw [hq] at h; cases h; exact .send hpc hq
  case pop =>
    cases hq : d.frameBufferQueue.receive with
    | none => rw [hq] at h; cases h; exact .popNone hpc hq
    | some r => rw [hq] at h; cases h; exact .pop hpc hq
  case resend fb2 =>
    cases hq : d.frameBufferQueue.sendToBack d.framePos with
    | none => rw [hq] at h; cases h; exact .resendFull hpc hq
    | some q => rw [hq] at h; cases h; exact .resend hpc hq
  case giveBack fb2 => cases h; exact .giveBack hpc
  case nextFrame origin =>
    split at h
    · rename_i hen; cases h; exact .nextFree hpc hen
    · rename_i hen; cases h; exact .nextBusy hpc (Bool.not_eq_true _ ▸ hen)
  case scan origin x =>
    split at h
    · rename_i hx
      split at h
      · rename_i hen; cases h; exact .scanFree (x := ⟨x, hx⟩) hpc hen
      · rename_i hen; cases h; exact .scanBusy (x := ⟨x, hx⟩) hpc (Bool.not_eq_true _ ▸ hen)
    · rename_i hx
      cases origin <;> cases h
      · exact .scanIdle hpc (Nat.le_of_not_lt hx)
      · exact .scanRead hpc (Nat.le_of_not_lt hx)
  case start origin => cases h; exact .start hpc
  case started origin =>
    cases origin <;> cases h
    · exact .startedIdle hpc
    · exact .startedRead hpc
  case setIdle => cases h; exact .setIdle hpc

theorem Rule.of_takeStep {input : TakeInput} (h : d.takeStep input = some (d', es)) :
    Rule d (.take input) d' es := by
  unfold takeStep at h
  cases input <;> cases hpc : d.take <;> simp only [hpc] at h
  case call.none => cases h; exact .call hpc
  case ticks.enter now timeout => cases h; exact .enter hpc
  case ticks.retry => cases h; exact .retry hpc
  case timeout.receive =>
    split at h
    · rename_i hq; cases h; exact .timeout hpc hq
    · cases h
  case go.receive =>
    cases hq : d.frameBufferQueue.receive with
    | none => rw [hq] at h; cases h
    | some r => rw [hq] at h; cases h; exact .take hpc hq
  case go.verify x timeout start =>
    split at h
    · rename_i hmode
      split at h
      · rename_i heoi
        cases h
        rw [setFrame_self]
        exact .verify hpc hmode (Int.toNat_of_nonneg heoi).symm
      · rename_i heoi; cases h; exact .noEoi hpc hmode (Int.not_le.mp heoi)
    · rename_i hmode; cases h; exact .handOut hpc (Bool.not_eq_true _ ▸ hmode)
  case go.giveBack => cases h; exact .takeGiveBack hpc
  all_goals cases h

theorem Rule.of_step {a : DriverAction} (h : d.step a = some (d', es)) : Rule d a d' es := by
  cases a with
  | sample e =>
    simp only [step, Driver.sample] at h
    split at h
    · rename_i hr; cases h; exact .sample hr
    · cases h
  | dmaIsr =>
    simp only [step, Driver.dmaIsr] at h
    split at h
    · rename_i hp
      cases h
      cases hq : d.eventQueue.sendToBack .inSucEof with
      | some q => simpa [sendEvent, hq] using Rule.dmaIsr hp hq
      | none => simpa [sendEvent, hq, Driver.stop] using Rule.dmaIsrLost hp hq
    · cases h
  | vsyncIsr =>
    cases h
    cases hq : d.eventQueue.sendToBack .vsync with
    | some q => simpa [sendEvent, hq] using Rule.vsyncIsr hq
    | none => simpa [sendEvent, hq] using Rule.vsyncIsrLost hq
  | camTask => exact .of_camTask h
  | take input => exact .of_takeStep h
  | give address =>
    simp only [step, Driver.give] at h
    split at h
    · rename_i ha; cases h; exact .give (x := ⟨address, ha⟩)
    · rename_i ha; cases h; exact .giveNone (Nat.le_of_not_lt ha)

theorem Rule.step {a : DriverAction} (h : Rule d a d' es) : d.step a = some (d', es) := by
  cases h
  case scanIdle x h hx | scanRead x h hx =>
    simp [Driver.step, camTask, h, Nat.not_lt.mpr hx]
  case verify h hmode heoi =>
    simp only [Driver.step, takeStep, h, hmode, heoi, Driver.handOut, setFrame_self, if_true,
      Int.natCast_nonneg, Int.toNat_natCast]
    rfl
  case noEoi h hmode heoi =>
    simp [Driver.step, takeStep, h, hmode, Int.not_le.mpr heoi]
  all_goals
    simp_all [Driver.step, Driver.sample, Driver.dmaIsr, sendEvent, camTask, onEof, onVsync,
      takeStep, Driver.handOut, Driver.give, Driver.stop]

/-- **The rules are the steps.** -/
theorem rule_iff_step {a : DriverAction} : Rule d a d' es ↔ d.step a = some (d', es) :=
  ⟨Rule.step, Rule.of_step⟩

end Adequacy

end Driver
end Esp32Eye
