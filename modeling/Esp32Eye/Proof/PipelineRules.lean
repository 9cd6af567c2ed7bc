import Esp32Eye.Pipeline

/-!
# What a step of the frame side can do

`Pipeline.step` read the other way, like `NetworkRules.lean`: one constructor of `Rule` for each
statement of the three tasks, with the guard it passed and the state it left. The mutex, the event
group and the table are parameters; no rule changes the last two.
-/

namespace Esp32Eye
namespace Pipeline

open Lib

inductive Rule (p : Pipeline) (n : Network) :
    Option Task → PipelineAction → Option Task → Pipeline → List PipelineEvent → Prop
  | wait {m : Option Task} (h : p.capture = .wait)
      (hb : n.eventGroup.allSet (clientsAvailableBit ||| clientsInterestedInVideoBit) = true) :
      Rule p n m (.capture .go) m { p with capture := .check } []
  | skip {m : Option Task} (h : p.capture = .check)
      (hq : p.imageProduceQueue.messagesWaiting ≠ 0) :
      Rule p n m (.capture .go) m { p with capture := .delay captureIntervalMs } []
  | check {m : Option Task} {now : UInt64} (h : p.capture = .check)
      (hq : p.imageProduceQueue.messagesWaiting = 0) :
      Rule p n m (.capture (.clock now)) m { p with capture := .fbGet now } []
  | fbNone {m : Option Task} {start : UInt64} (h : p.capture = .fbGet start) :
      Rule p n m (.capture (.fbGet none)) m { p with capture := .delay captureIntervalMs } []
  | fbGet {m : Option Task} {start : UInt64} {address : ℕ} {buf : List UInt8}
      (h : p.capture = .fbGet start) :
      Rule p n m (.capture (.fbGet (some (address, buf)))) m
        { p with
          camera :=
            { acquired := p.camera.acquired + 1, outstanding := address :: p.camera.outstanding }
          capture :=
            .enqueue start { address := address, acquisition := p.camera.acquired, buf := buf } }
        [.fbGet { address := address, acquisition := p.camera.acquired, buf := buf }]
  | produce {m : Option Task} {start : UInt64} {fb : CameraFb} {q : Queue 1 CameraFb}
      (h : p.capture = .enqueue start fb) (hq : p.imageProduceQueue.sendToBack fb = some q) :
      Rule p n m (.capture .go) m { p with imageProduceQueue := q, capture := .log start fb }
        [.sendToBack .produce fb]
  | log {m : Option Task} {start now : UInt64} {fb : CameraFb} (h : p.capture = .log start fb) :
      Rule p n m (.capture (.clock now)) m
        { p with capture := .delay (timeToWait ((now - start) / 1000)) }
        [.read .captureCameraImage fb .len]
  | delay {m : Option Task} {timeToWaitMs : UInt64} (h : p.capture = .delay timeToWaitMs) :
      Rule p n m (.capture .go) m { p with capture := .wait } []
  | consume {m : Option Task} {fb : CameraFb} {q : Queue 1 CameraFb} (h : p.send = .receive)
      (hq : p.imageProduceQueue.receive = some (fb, q)) :
      Rule p n m (.send .go) m { p with imageProduceQueue := q, send := .start fb }
        [.receive .produce fb]
  | start {m : Option Task} {fb : CameraFb} {now : UInt64} (h : p.send = .start fb) :
      Rule p n m (.send (.clock now)) m { p with send := .take fb now } []
  | take {fb : CameraFb} {start : UInt64} (h : p.send = .take fb start) :
      Rule p n none (.send .go) (some .sendCameraImage) { p with send := .send fb start } []
  | send {m : Option Task} {fb : CameraFb} {start : UInt64} {result : Slot → ℤ}
      (h : p.send = .send fb start) :
      Rule p n m (.send (.sendmsg result)) none
        { p with sequenceNumber := p.sequenceNumber + 1, send := .finish fb start }
        [.sent fb p.sequenceNumber p.timestamp start
            (n.server.sendImageData fb.buf p.sequenceNumber p.timestamp result),
          .read .sendCameraImage fb .len, .read .sendCameraImage fb .buf]
  | finish {m : Option Task} {fb : CameraFb} {start now : UInt64} (h : p.send = .finish fb start) :
      Rule p n m (.send (.clock now)) m
        { p with
          timestamp := p.timestamp + ((now - start) / 1000).toUInt32, send := .enqueue fb } []
  | recycle {m : Option Task} {fb : CameraFb} {q : Queue 1 CameraFb} (h : p.send = .enqueue fb)
      (hq : p.imageRecycleQueue.sendToBack fb = some q) :
      Rule p n m (.send .go) m { p with imageRecycleQueue := q, send := .receive }
        [.sendToBack .recycle fb]
  | collect {m : Option Task} {fb : CameraFb} {q : Queue 1 CameraFb} (h : p.recycle = .receive)
      (hq : p.imageRecycleQueue.receive = some (fb, q)) :
      Rule p n m .recycle m { p with imageRecycleQueue := q, recycle := .fbReturn fb }
        [.receive .recycle fb]
  | fbReturn {m : Option Task} {fb : CameraFb} (h : p.recycle = .fbReturn fb) :
      Rule p n m .recycle m
        { p with
          camera := { p.camera with outstanding := p.camera.outstanding.erase fb.address }
          recycle := .receive }
        [.fbReturn fb]

section Adequacy

variable {p p' : Pipeline} {n : Network} {m m' : Option Task} {es : List PipelineEvent}

theorem Rule.of_captureStep {input : CaptureInput}
    (h : captureStep m n.eventGroup p input = some (m', p', es)) :
    Rule p n m (.capture input) m' p' es := by
  unfold captureStep at h
  cases input with
  | go =>
    cases hpc : p.capture <;> simp only [hpc] at h
    case wait =>
      split at h
      · rename_i hb; cases h; exact .wait hpc hb
      · cases h
    case check =>
      split at h
      · cases h
      · rename_i hq; cases h; exact .skip hpc hq
    case enqueue start fb =>
      cases hq : p.imageProduceQueue.sendToBack fb with
      | none => rw [hq] at h; cases h
      | some q => rw [hq] at h; cases h; exact .produce hpc hq
    case delay => cases h; exact .delay hpc
    all_goals cases h
  | clock now =>
    cases hpc : p.capture <;> simp only [hpc] at h
    case check =>
      split at h
      · rename_i hq; cases h; exact .check hpc hq
      · cases h
    case log => cases h; exact .log hpc
    all_goals cases h
  | fbGet result =>
    cases hpc : p.capture <;> cases result <;> simp only [hpc] at h
    case fbGet.none => cases h; exact .fbNone hpc
    case fbGet.some r => cases h; exact .fbGet hpc
    all_goals cases h

theorem Rule.of_sendStep {input : SendInput}
    (h : sendStep m n.server p input = some (m', p', es)) :
    Rule p n m (.send input) m' p' es := by
  unfold sendStep at h
  cases input with
  | go =>
    cases hpc : p.send <;> simp only [hpc] at h
    case receive =>
      cases hq : p.imageProduceQueue.receive with
      | none => rw [hq] at h; cases h
      | some r => rw [hq] at h; cases h; exact .consume hpc hq
    case take =>
      unfold Pipeline.take at h
      split at h
      · rename_i hm; subst hm; cases h; exact .take hpc
      · cases h
    case enqueue fb =>
      cases hq : p.imageRecycleQueue.sendToBack fb with
      | none => rw [hq] at h; cases h
      | some q => rw [hq] at h; cases h; exact .recycle hpc hq
    all_goals cases h
  | clock now =>
    cases hpc : p.send <;> simp only [hpc] at h
    case start => cases h; exact .start hpc
    case finish => cases h; exact .finish hpc
    all_goals cases h
  | sendmsg result =>
    cases hpc : p.send <;> simp only [hpc] at h
    case send => cases h; exact .send hpc
    all_goals cases h

theorem Rule.of_recycleStep (h : recycleStep m p = some (m', p', es)) :
    Rule p n m .recycle m' p' es := by
  unfold recycleStep at h
  cases hpc : p.recycle <;> simp only [hpc] at h
  case receive =>
    cases hq : p.imageRecycleQueue.receive with
    | none => rw [hq] at h; cases h
    | some r => rw [hq] at h; cases h; exact .collect hpc hq
  case fbReturn => cases h; exact .fbReturn hpc

theorem Rule.of_step {a : PipelineAction} (h : p.step m n a = some (m', p', es)) :
    Rule p n m a m' p' es := by
  cases a with
  | capture input => exact .of_captureStep h
  | send input => exact .of_sendStep h
  | recycle => exact .of_recycleStep h

theorem Rule.step {a : PipelineAction} (h : Rule p n m a m' p' es) :
    p.step m n a = some (m', p', es) := by
  cases h <;>
    simp_all [Pipeline.step, captureStep, sendStep, recycleStep, Pipeline.take, give, go]

/-- **The rules are the steps.** -/
theorem rule_iff_step {a : PipelineAction} :
    Rule p n m a m' p' es ↔ p.step m n a = some (m', p', es) :=
  ⟨Rule.step, Rule.of_step⟩

end Adequacy

end Pipeline
end Esp32Eye
