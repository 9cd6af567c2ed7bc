import Esp32Eye.Lib.Stopwatch
import Esp32Eye.Proof.Frames

/-!
# Timestamps and the clock

`task_send_camera_image` reads the clock before and after a frame is sent, and adds the whole
milliseconds in between to the timestamp of the next one. It is the stopwatch of `Lib.Stopwatch`
with one lap for each frame, on a dial of 32 bits: what passes between two sends, while the task
waits for a frame, is in no lap. `sendClock` is what the task does with the clock, step by step,
and `sendings` puts it together frame by frame.
-/

namespace Esp32Eye

open Lib

/-! ## What the send task does with the clock -/

inductive ClockEvent
  /-- a frame is given to `server_send_image_data`, the clock having been read at `start` -/
  | sent (timestamp : UInt32) (start : UInt64)
  /-- the clock is read behind it -/
  | finished (now : UInt64)
  deriving DecidableEq, Repr

def ClockEvent.reading : ClockEvent → UInt64
  | .sent _ start => start
  | .finished now => now

/-- What a step does with the clock. -/
def Pipeline.clockEvents (p : Pipeline) : PipelineAction → List ClockEvent
  | .send (.sendmsg _) =>
      match p.send with
      | .send _ start => [.sent p.timestamp start]
      | _ => []
  | .send (.clock now) =>
      match p.send with
      | .finish _ _ => [.finished now]
      | _ => []
  | _ => []

def System.sendClock (s : System) : Action → List ClockEvent
  | .pipeline a => s.pipeline.clockEvents a
  | _ => []

/-- One frame, as it was sent. -/
structure Sending where
  timestamp : UInt32 := 0
  start : UInt64 := 0
  finish : Option UInt64 := none
  deriving DecidableEq, Repr

/-- The frames of a run, newest first. -/
def sendings : List ClockEvent → List Sending
  | [] => []
  | .sent timestamp start :: ds => { timestamp := timestamp, start := start } :: sendings ds
  | .finished now :: ds =>
      match sendings ds with
      | [] => []
      | f :: fs => { f with finish := some now } :: fs

/-- Frame `m` of a run, counted from 0. -/
def frameAt (ds : List ClockEvent) (m : ℕ) : Sending := (sendings ds).reverse.getD m {}

/-- The readings of the clock around frame `m`, in microseconds. -/
def startAt (ds : List ClockEvent) (m : ℕ) : ℕ := (frameAt ds m).start.toNat
def finishAt (ds : List ClockEvent) (m : ℕ) : ℕ := ((frameAt ds m).finish.getD 0).toNat

/-- The readings of the clock, newest first, never go back. -/
def ClockSteady (ds : List ClockEvent) : Prop :=
  (ds.map ClockEvent.reading).Pairwise (· ≥ ·)

instance (ds : List ClockEvent) : Decidable (ClockSteady ds) :=
  inferInstanceAs (Decidable ((ds.map ClockEvent.reading).Pairwise (· ≥ ·)))

/-! ## Consecutive frames -/

namespace Sending

/-- `timestamp += millisecods_elapsed`: what the frame leaves for the next one. -/
def Gives (f : Sending) (timestamp : UInt32) : Prop :=
  ∃ now, f.finish = some now ∧ timestamp = f.timestamp + ((now - f.start) / 1000).toUInt32

/-- The clock readings of `f` and of the frame behind it are in order. -/
def Before (f g : Sending) : Prop :=
  ∀ now, f.finish = some now → f.start ≤ now ∧ now ≤ g.start

end Sending

/-- What an observation makes of the frames before it. -/
theorem sendings_finished {ds : List ClockEvent} {now : UInt64} {f : Sending}
    (hf : f ∈ sendings (.finished now :: ds)) :
    f ∈ sendings ds ∨ ∃ g ∈ sendings ds, f = { g with finish := some now } := by
  rw [sendings] at hf
  cases hs : sendings ds with
  | nil => rw [hs] at hf; cases hf
  | cons g gs =>
    rw [hs] at hf
    rcases List.mem_cons.mp hf with rfl | hf
    · exact Or.inr ⟨g, List.mem_cons_self, rfl⟩
    · exact Or.inl (List.mem_cons_of_mem _ hf)

/-- The readings of a frame are readings of the run. -/
theorem mem_readings {ds : List ClockEvent} {f : Sending} (hf : f ∈ sendings ds) :
    f.start ∈ ds.map ClockEvent.reading ∧
      ∀ now, f.finish = some now → now ∈ ds.map ClockEvent.reading := by
  induction ds generalizing f with
  | nil => cases hf
  | cons d ds ih =>
    have hold : ∀ {g}, g ∈ sendings ds → g.start ∈ (d :: ds).map ClockEvent.reading ∧
        ∀ now, g.finish = some now → now ∈ (d :: ds).map ClockEvent.reading := fun hg =>
      ⟨List.mem_cons_of_mem _ (ih hg).1, fun now hn => List.mem_cons_of_mem _ ((ih hg).2 now hn)⟩
    cases d with
    | sent timestamp start =>
      rcases List.mem_cons.mp hf with rfl | hf
      · exact ⟨List.mem_cons_self, nofun⟩
      · exact hold hf
    | finished now =>
      rcases sendings_finished hf with hf | ⟨g, hg, rfl⟩
      · exact hold hf
      · refine ⟨(hold hg).1, ?_⟩
        rintro _ ⟨⟩
        exact List.mem_cons_self

/-- On a clock that never goes back a frame is finished after it was started. -/
theorem start_le_finish {ds : List ClockEvent} (h : ClockSteady ds) {f : Sending} {now : UInt64}
    (hf : f ∈ sendings ds) (hnow : f.finish = some now) : f.start ≤ now := by
  induction ds generalizing f now with
  | nil => cases hf
  | cons d ds ih =>
    obtain ⟨hlast, hbefore⟩ := List.pairwise_cons.mp h
    cases d with
    | sent timestamp start =>
      rcases List.mem_cons.mp hf with rfl | hf
      · cases hnow
      · exact ih hbefore hf hnow
    | finished last =>
      rcases sendings_finished hf with hf | ⟨g, hg, rfl⟩
      · exact ih hbefore hf hnow
      · cases hnow
        exact hlast _ (mem_readings hg).1

/-- And the frames follow one another. -/
theorem sendings_before {ds : List ClockEvent} (h : ClockSteady ds) :
    (sendings ds).IsChain fun g f => f.Before g := by
  induction ds with
  | nil => exact .nil
  | cons d ds ih =>
    obtain ⟨hlast, hbefore⟩ := List.pairwise_cons.mp h
    have hchain := ih hbefore
    cases d with
    | sent timestamp start =>
      refine hchain.cons fun f hf => ?_
      intro now hnow
      have hmem := List.mem_of_mem_head? hf
      exact ⟨start_le_finish hbefore hmem hnow, hlast _ ((mem_readings hmem).2 now hnow)⟩
    | finished now =>
      rw [sendings]
      cases hs : sendings ds with
      | nil => exact .nil
      | cons g gs =>
        rw [hs] at hchain
        obtain ⟨hnext, hrest⟩ := List.isChain_cons.mp hchain
        exact hrest.cons hnext

/-! ## One step, every run -/

/-- The start of the frame that was sent and not finished. -/
def SendPc.underway : SendPc → Option UInt64
  | .finish _ since => some since
  | _ => none

/-- The timestamp of the task is that of the frame under way, or what the last frame gave. -/
def TimestampOk (timestamp : UInt32) (fs : List Sending) : Option UInt64 → Prop
  | some start => ∃ rest, fs = { timestamp := timestamp, start := start } :: rest
  | none => ∀ f ∈ fs.head?, f.Gives timestamp

/-- The frames, each with what the one before gave it. -/
structure Stamped (p : Pipeline) (fs : List Sending) : Prop where
  chain : fs.IsChain fun g f => f.Gives g.timestamp
  last : TimestampOk p.timestamp fs p.send.underway

namespace Stamped

variable {p p' : Pipeline} {fs : List Sending}

theorem start (h : p.send = .receive) : Stamped p [] := by
  refine ⟨.nil, ?_⟩
  rw [h]
  exact nofun

/-- Another task, or this one away from the clock. -/
theorem same (h : Stamped p fs) (ht : p'.timestamp = p.timestamp)
    (hs : p'.send.underway = p.send.underway) : Stamped p' fs := by
  refine ⟨h.chain, ?_⟩
  rw [hs, ht]
  exact h.last

end Stamped

namespace Pipeline

variable {p p' : Pipeline} {n : Network} {m m' : Option Task} {a : PipelineAction}
  {es : List PipelineEvent} {ds : List ClockEvent}

/-- **One step.** A frame is sent with what the one before gave, and gives what its own time in
    whole milliseconds makes of that. -/
theorem Rule.stamped (hr : Rule p n m a m' p' es) (h : Stamped p (sendings ds)) :
    Stamped p' (sendings (p.clockEvents a ++ ds)) := by
  have hlast := h.last
  cases hr with
  | @send _ fb start result hpc =>
    rw [hpc] at hlast
    have hobs : p.clockEvents (.send (.sendmsg result)) = [.sent p.timestamp start] := by
      simp only [clockEvents, hpc]
    rw [hobs]
    exact ⟨h.chain.cons hlast, ⟨_, rfl⟩⟩
  | @finish _ fb start now hpc =>
    rw [hpc] at hlast
    have hobs : p.clockEvents (.send (.clock now)) = [.finished now] := by
      simp only [clockEvents, hpc]
    obtain ⟨rest, hrest⟩ := hlast
    have hchain := h.chain
    rw [hrest] at hchain
    obtain ⟨hnext, htail⟩ := List.isChain_cons.mp hchain
    rw [hobs, List.singleton_append, sendings, hrest]
    refine ⟨htail.cons hnext, ?_⟩
    rintro _ ⟨⟩
    exact ⟨now, rfl, rfl⟩
  | @start _ fb now hpc =>
    have hobs : p.clockEvents (.send (.clock now)) = [] := by
      simp only [clockEvents, hpc]
    rw [hobs]
    exact h.same rfl (by rw [hpc]; rfl)
  | consume hpc | take hpc | recycle hpc => exact h.same rfl (by rw [hpc]; rfl)
  | _ => exact h.same rfl rfl

end Pipeline

namespace System

variable {p : System → Action → Bool} {s₀ s : System} {ds : List ClockEvent}

/-- **Every run.** -/
theorem stamped_of_observing (h₀ : s₀.pipeline.send = .receive)
    (h : Run (Observing (StepOf step) sendClock) (fun s a => p s a = true) s₀ ds s) :
    Stamped s.pipeline (sendings ds) := by
  refine h.invariant (I := fun ds s => Stamped s.pipeline (sendings ds)) (.start h₀) ?_
  rintro ds s a s' _ hs - ⟨⟨es, hstep⟩, rfl⟩
  cases moved_of_step hstep with
  | pipeline hp => exact (Pipeline.Rule.of_step hp).stamped hs
  | network | broadcast => exact hs

end System

/-! ## The frames of a run, by number -/

section

variable {ds : List ClockEvent} {j k m : ℕ}

/-- What holds of every frame and the one behind it. -/
theorem frameAt_succ {R : Sending → Sending → Prop} (h : (sendings ds).IsChain fun g f => R f g)
    (hm : m + 1 < (sendings ds).length) : R (frameAt ds m) (frameAt ds (m + 1)) := by
  have hlen : m + 1 < (sendings ds).reverse.length := by
    rw [List.length_reverse]
    exact hm
  have hrel := List.isChain_iff_getElem.mp (List.isChain_reverse.mpr h) m hlen
  unfold frameAt
  rw [List.getD_eq_getElem?_getD, List.getD_eq_getElem?_getD,
    List.getElem?_eq_getElem (Nat.lt_of_succ_lt hlen), List.getElem?_eq_getElem hlen]
  exact hrel

theorem finishAt_eq {now : UInt64} (h : (frameAt ds m).finish = some now) :
    finishAt ds m = now.toNat := by
  unfold finishAt
  rw [h]
  rfl

theorem inOrder_frames {p : Pipeline} (h : Stamped p (sendings ds)) (hclock : ClockSteady ds)
    (hk : k < (sendings ds).length) : InOrder (startAt ds) (finishAt ds) j k := by
  intro m _ hm
  have hlen : m + 1 < (sendings ds).length := Nat.lt_of_le_of_lt hm hk
  obtain ⟨now, hnow, -⟩ := frameAt_succ h.chain hlen
  obtain ⟨hstart, hnext⟩ := frameAt_succ (sendings_before hclock) hlen now hnow
  rw [finishAt_eq hnow]
  exact ⟨UInt64.le_iff_toNat_le.mp hstart, UInt64.le_iff_toNat_le.mp hnext⟩

/-- The code's own arithmetic. -/
theorem elapsed_toUInt32 {start now : UInt64} (h : start ≤ now) :
    ((now - start) / 1000).toUInt32 = UInt32.ofNat ((now.toNat - start.toNat) / 1000) := by
  apply UInt32.toNat.inj
  rw [UInt64.toNat_toUInt32, UInt64.toNat_div, UInt64.toNat_sub_of_le _ _ h, UInt32.toNat_ofNat']
  rfl

/-- **The accumulator.** -/
theorem timestamp_eq {p : Pipeline} (h : Stamped p (sendings ds)) (hclock : ClockSteady ds)
    (hjk : j ≤ k) (hk : k < (sendings ds).length) :
    (frameAt ds k).timestamp
      = (frameAt ds j).timestamp + UInt32.ofNat (counted (startAt ds) (finishAt ds) 1000 j k) := by
  induction k, hjk using Nat.le_induction with
  | base => simp [counted]
  | succ k hjk ih =>
    obtain ⟨now, hnow, hgives⟩ := frameAt_succ h.chain hk
    have hstart := (frameAt_succ (sendings_before hclock) hk now hnow).1
    have hlap : ((now - (frameAt ds k).start) / 1000).toUInt32
        = UInt32.ofNat (lapUnits (startAt ds) (finishAt ds) 1000 k) := by
      rw [elapsed_toUInt32 hstart, lapUnits, finishAt_eq hnow, startAt]
    rw [hgives, hlap, ih (Nat.lt_of_succ_lt hk), counted_succ hjk, UInt32.ofNat_add,
      UInt32.add_assoc]

end

/-- The timestamps of `f` and `g` say how many milliseconds passed between their starts, up to
    `tolerance` that were lost, and modulo `2 ^ 32`. -/
def FollowsClock (tolerance : ℕ) (f g : Sending) : Prop :=
  ∃ lost ≤ tolerance, ((g.timestamp - f.timestamp).toNat + lost) % 2 ^ 32
    = (g.start.toNat - f.start.toNat) / 1000 % 2 ^ 32

namespace System

/-- **Timestamps and the clock.** For every run of the send task, from its start and with any
    timestamp to begin with, on a clock that never goes back: the timestamps of two frames follow
    the clock, whatever tolerance they are granted, if and only if what passed between their starts
    and was not counted, the pauses between the sends and what a send has beyond its last whole
    millisecond, stays within it. And the timestamps of two consecutive frames whose starts are a
    frame interval or more apart differ if and only if the first send took a millisecond. -/
theorem timestamps_follow_clock (p : System → Action → Bool) (s₀ s : System)
    (ds : List ClockEvent) (h₀ : s₀.pipeline.send = .receive)
    (hrun : Run (Observing (StepOf step) sendClock) (fun s a => p s a = true) s₀ ds s)
    (hclock : ClockSteady ds) :
    (∀ j k tolerance, j < k → k < (sendings ds).length →
      (FollowsClock tolerance (frameAt ds j) (frameAt ds k) ↔
        uncounted (startAt ds) (finishAt ds) 1000 j k / 1000 % 2 ^ 32 ≤ tolerance)) ∧
    (∀ j, j + 1 < (sendings ds).length →
      captureIntervalMs.toNat * 1000 ≤ startAt ds (j + 1) - startAt ds j →
      startAt ds (j + 1) - startAt ds j < 2 ^ 32 * 1000 →
      ((frameAt ds (j + 1)).timestamp ≠ (frameAt ds j).timestamp ↔
        1000 ≤ finishAt ds j - startAt ds j)) := by
  have hstamped := stamped_of_observing h₀ hrun
  refine ⟨fun j k tolerance hjk hk => ?_, fun j hj _ hgap => ?_⟩
  · have horder : InOrder (startAt ds) (finishAt ds) j k := inOrder_frames hstamped hclock hk
    have hdiff : ((frameAt ds k).timestamp - (frameAt ds j).timestamp).toNat
        = counted (startAt ds) (finishAt ds) 1000 j k % 2 ^ 32 := by
      rw [timestamp_eq hstamped hclock hjk.le hk, UInt32.add_comm,
        UInt32.add_sub_cancel, UInt32.toNat_ofNat']
    unfold FollowsClock
    rw [hdiff]
    show (∃ lost ≤ tolerance, _ = (startAt ds k - startAt ds j) / 1000 % 2 ^ 32) ↔ _
    rw [elapsed_div (by decide) hjk.le horder]
    exact shows_iff
  · have horder : InOrder (startAt ds) (finishAt ds) j (j + 1) :=
      inOrder_frames hstamped hclock hj
    obtain ⟨hlap, hpause⟩ := horder j le_rfl (Nat.lt_succ_self j)
    have hbound : lapUnits (startAt ds) (finishAt ds) 1000 j < 2 ^ 32 := by
      unfold lapUnits
      omega
    rw [timestamp_eq hstamped hclock (Nat.le_succ j) hj, counted_single, Ne, UInt32.add_eq_left,
      ← UInt32.toNat_inj, UInt32.toNat_ofNat', Nat.mod_eq_of_lt hbound]
    show ¬ (finishAt ds j - startAt ds j) / 1000 = 0 ↔ _
    rw [Nat.div_eq_zero_iff_lt (by decide), not_lt]

/-- One round of the send task, with the two readings of the clock. -/
def sendBetween (start finish : UInt64) : List Action :=
  [.pipeline (.send .go), .pipeline (.send (.clock start)), .pipeline (.send .go),
    .pipeline (.send (.sendmsg fun _ => 18)), .pipeline (.send (.clock finish)),
    .pipeline (.send .go)]

/-- A frame is captured, sent and recycled. -/
def frameBetween (start finish : UInt64) : List Action :=
  captureFrame 100 ++ sendBetween start finish ++ recycleFrame ++ captureRest

/-- What the evaluation of a schedule shows of the clock is observed in a run. -/
theorem clock_reaches (a : List Action) (ds : List ClockEvent)
    (h : ((exec (observe step sendClock) (fun _ => byTasks) a (appRun started) []).any
      fun r => r.2 = ds) = true) :
    ∃ s, Run (Observing (StepOf step) sendClock) (fun _ a => byTasks a = true) (appRun started)
      ds s := by
  simp only [Option.any_eq_true, decide_eq_true_eq] at h
  obtain ⟨⟨s, tr⟩, hexec, rfl⟩ := h
  have hrun := run_of_exec .start hexec
  rw [stepOf_observe] at hrun
  exact ⟨s, hrun⟩

/-- The next frame is there when a send of 40 ms ends. -/
theorem timestamps_follow_clock_busy :
    ∃ ds s, Run (Observing (StepOf step) sendClock) (fun _ a => byTasks a = true)
      (appRun started) ds s ∧ (sendings ds).length = 2 ∧
      FollowsClock 0 (frameAt ds 0) (frameAt ds 1) := by
  obtain ⟨s, hrun⟩ := clock_reaches
    (watching ++ frameBetween 0 40000 ++ frameBetween 40000 80000)
    [.finished 80000, .sent 40 40000, .finished 40000, .sent 0 0] (by decide +kernel)
  refine ⟨_, s, hrun, rfl, ?_⟩
  exact ((timestamps_follow_clock (fun _ => byTasks) (appRun started) s _ rfl hrun (by decide)).1
    0 1 0 (by decide) (by decide)).mpr (by decide)

/-- A frame is sent in 5 ms, the next one 40 ms after the first in less than one, and the third
    40 ms later: 40 ms are told as 5, and then as none at all. -/
theorem timestamps_lose_clock :
    ∃ ds s, Run (Observing (StepOf step) sendClock) (fun _ a => byTasks a = true)
      (appRun started) ds s ∧ ClockSteady ds ∧ (sendings ds).length = 3 ∧
      ¬ FollowsClock 1 (frameAt ds 0) (frameAt ds 1) ∧
      startAt ds 2 - startAt ds 1 = 40000 ∧
      (frameAt ds 2).timestamp = (frameAt ds 1).timestamp := by
  obtain ⟨s, hrun⟩ := clock_reaches
    (watching ++ frameBetween 0 5000 ++ frameBetween 40000 40900 ++ frameBetween 80000 80900)
    [.finished 80900, .sent 5 80000, .finished 40900, .sent 5 40000, .finished 5000, .sent 0 0]
    (by decide +kernel)
  refine ⟨_, s, hrun, by decide, rfl, ?_, rfl, rfl⟩
  rintro ⟨lost, hlost, heq⟩
  have heq' : (5 + lost) % 2 ^ 32 = 40 := heq
  omega

end System
end Esp32Eye
