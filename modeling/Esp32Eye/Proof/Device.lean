import Esp32Eye.DeviceSchedule
import Esp32Eye.Lib.Compose
import Esp32Eye.Proof.Delivery
import Esp32Eye.Proof.Frames
import Esp32Eye.Proof.Lending

/-!
# Each side keeps to what the other one asks of it

The driver asks that only what it has handed out comes back (`Driver.givesHeld`), and the tasks ask
that they are never handed a buffer they still have (`System.handsOutFresh`). In the device both are
kept without being assumed: the frames that are out are those the tasks hold, so the recycle task
gives back one of them, and `cam_take` returns one that is not among them. `Device.Rule` is the step
read the other way, `Joined` is what ties the two sides together, and `DeviceRun.parts` is the
composition.
-/

namespace Esp32Eye

open Lib

/-! ## What a step of either side does to the frames that are out -/

namespace Driver

variable {c : CamConfig} {d d' : Driver c} {a : DriverAction}
  {es : List (DriverEvent c.frameCnt)}

/-- `esp_camera_fb_get` does not return in the step. -/
theorem Rule.quiet (hr : Rule d a d' es) (tr : List (DriverEvent c.frameCnt))
    (hres : fbGetResult es = none) (hgive : ∀ address, a ≠ .give address) :
    d'.out = d.out ∧ handedOuts (es ++ tr) = handedOuts tr ∧
      (d'.take ≠ .none → d.take ≠ .none ∨ a = .take .call) ∧
        ∀ x, Esp32Eye.lent x (es ++ tr) = Esp32Eye.lent x tr := by
  cases hr with
  | verify | handOut | timeout => cases hres
  | give => exact absurd rfl (hgive _)
  | call => exact ⟨rfl, rfl, fun _ => Or.inr rfl, fun _ => rfl⟩
  | enter hpc | retry hpc | take hpc | noEoi hpc | takeGiveBack hpc =>
    exact ⟨rfl, rfl, fun _ => Or.inl (by simp [hpc]), fun _ => rfl⟩
  | _ => exact ⟨rfl, rfl, Or.inl, fun _ => rfl⟩

/-- It returns. -/
theorem Rule.returns (hr : Rule d a d' es) (hslots : Slots d) {result : Option (ℕ × List UInt8)}
    (hres : fbGetResult es = some result) :
    (∃ input, a = .take input) ∧ d.take ≠ .none ∧ d'.take = .none ∧
      ((result = none ∧ es = [.gaveUp] ∧ d'.out = d.out) ∨
        ∃ x bytes, result = some (x.val, bytes) ∧ es = [.handedOut x bytes] ∧
          d'.out = x :: d.out ∧ x ∉ d.out) := by
  cases hr with
  | timeout hpc =>
    cases hres
    exact ⟨⟨_, rfl⟩, by simp [hpc], rfl, Or.inl ⟨rfl, rfl, rfl⟩⟩
  | verify hpc | handOut hpc =>
    cases hres
    exact ⟨⟨_, rfl⟩, by simp [hpc], rfl,
      Or.inr ⟨_, _, rfl, rfl, rfl, fun hout => hslots.not_taken hout (by simp [hpc])⟩⟩
  | _ => cases hres

end Driver

namespace Pipeline

variable {p p' : Pipeline} {n : Network} {m m' : Option Task} {a : PipelineAction}
  {es tr : List PipelineEvent}

theorem mem_holders_of_fbReturn {fb : CameraFb} (h : p.recycle = .fbReturn fb) :
    fb ∈ p.holders := by
  simp [holders, sentHolders, RecyclePc.held, h]

/-- Neither `esp_camera_fb_get` nor `esp_camera_fb_return` returns in the step. -/
theorem Rule.quiet (hr : Rule p n m a m' p' es) (hget : ∀ r, a ≠ .capture (.fbGet r))
    (hret : a = .recycle → p.recycle = .receive) :
    p'.camera = p.camera ∧ captured (es ++ tr) = captured tr ∧ returned (es ++ tr) = returned tr ∧
      (p.capture.inFbGet = true → p'.capture.inFbGet = true) := by
  cases hr with
  | fbNone | fbGet => exact absurd rfl (hget _)
  | fbReturn hpc =>
    rw [hret rfl] at hpc
    cases hpc
  | wait hpc | skip hpc | check hpc | produce hpc | log hpc | delay hpc =>
    exact ⟨rfl, rfl, rfl, fun h => by rw [hpc] at h; cases h⟩
  | _ => exact ⟨rfl, rfl, rfl, id⟩


/-- The capture task gets what it asked for. -/
theorem Rule.fbGet_cases {result : Option (ℕ × List UInt8)}
    (hr : Rule p n m (.capture (.fbGet result)) m' p' es) :
    returned (es ++ tr) = returned tr ∧
      ((result = none ∧ p'.camera = p.camera ∧ captured (es ++ tr) = captured tr) ∨
        ∃ fb : CameraFb, result = some (fb.address, fb.buf) ∧
          p'.camera.outstanding = fb.address :: p.camera.outstanding ∧
          captured (es ++ tr) = captured tr ++ [fb]) := by
  cases hr with
  | fbNone => exact ⟨rfl, Or.inl ⟨rfl, rfl, rfl⟩⟩
  | fbGet => exact ⟨rfl, Or.inr ⟨_, rfl, rfl, rfl⟩⟩

theorem Rule.fbReturn_cases {fb : CameraFb} (hpc : p.recycle = .fbReturn fb)
    (hr : Rule p n m .recycle m' p' es) :
    p'.camera.outstanding = p.camera.outstanding.erase fb.address ∧
      captured (es ++ tr) = captured tr ∧ returned (es ++ tr) = returned tr ++ [fb] ∧
      (p.capture.inFbGet = true → p'.capture.inFbGet = true) := by
  cases hr with
  | collect hpc' => rw [hpc] at hpc'; cases hpc'
  | fbReturn hpc' =>
    rw [hpc] at hpc'
    cases hpc'
    exact ⟨rfl, rfl, rfl, id⟩

end Pipeline

namespace System

variable {s s' : System} {a : Action} {es tr : List Event}

theorem pipelineTrace_append : pipelineTrace (es ++ tr) = pipelineTrace es ++ pipelineTrace tr :=
  List.filterMap_append

theorem quiet_of_step (tr : List Event) (h : s.step a = some (s', es))
    (hget : ∀ r, a ≠ .pipeline (.capture (.fbGet r)))
    (hret : a = .pipeline .recycle → s.pipeline.recycle = .receive) :
    s'.pipeline.camera = s.pipeline.camera ∧
      captured (pipelineTrace (es ++ tr)) = captured (pipelineTrace tr) ∧
      returned (pipelineTrace (es ++ tr)) = returned (pipelineTrace tr) ∧
      (s.pipeline.capture.inFbGet = true → s'.pipeline.capture.inFbGet = true) := by
  rw [pipelineTrace_append]
  cases moved_of_step h with
  | network => rw [pipelineTrace, pipeline?_map_network]; exact ⟨rfl, rfl, rfl, id⟩
  | pipeline hs =>
    rw [pipelineTrace, pipeline?_map]
    exact (Pipeline.Rule.of_step hs).quiet (fun r he => hget r (congrArg _ he))
      fun he => hret (congrArg _ he)
  | broadcast hes => rcases hes with rfl | rfl <;> exact ⟨rfl, rfl, rfl, id⟩

theorem fbGet_of_step (tr : List Event) {result : Option (ℕ × List UInt8)}
    (h : s.step (.pipeline (.capture (.fbGet result))) = some (s', es)) :
    returned (pipelineTrace (es ++ tr)) = returned (pipelineTrace tr) ∧
      ((result = none ∧ s'.pipeline.camera = s.pipeline.camera ∧
          captured (pipelineTrace (es ++ tr)) = captured (pipelineTrace tr)) ∨
        ∃ fb : CameraFb, result = some (fb.address, fb.buf) ∧
          s'.pipeline.camera.outstanding = fb.address :: s.pipeline.camera.outstanding ∧
          captured (pipelineTrace (es ++ tr)) = captured (pipelineTrace tr) ++ [fb]) := by
  rw [pipelineTrace_append]
  cases moved_of_step h with
  | pipeline hs =>
    rw [pipelineTrace, pipeline?_map]
    exact (Pipeline.Rule.of_step hs).fbGet_cases

theorem fbReturn_of_step (tr : List Event) {fb : CameraFb} (hpc : s.pipeline.recycle = .fbReturn fb)
    (h : s.step (.pipeline .recycle) = some (s', es)) :
    s'.pipeline.camera.outstanding = s.pipeline.camera.outstanding.erase fb.address ∧
      captured (pipelineTrace (es ++ tr)) = captured (pipelineTrace tr) ∧
      returned (pipelineTrace (es ++ tr)) = returned (pipelineTrace tr) ++ [fb] ∧
      (s.pipeline.capture.inFbGet = true → s'.pipeline.capture.inFbGet = true) := by
  rw [pipelineTrace_append]
  cases moved_of_step h with
  | pipeline hs =>
    rw [pipelineTrace, pipeline?_map]
    exact (Pipeline.Rule.of_step hs).fbReturn_cases hpc

/-- `esp_camera_fb_get` can always return to the task that called it. -/
theorem fbGet_isSome {result : Option (ℕ × List UInt8)}
    (hpc : s.pipeline.capture.inFbGet = true) :
    (s.step (.pipeline (.capture (.fbGet result)))).isSome = true := by
  cases hcap : s.pipeline.capture <;> rw [hcap] at hpc <;> cases hpc
  cases result <;> simp [System.step, Pipeline.step, Pipeline.captureStep, hcap, Pipeline.go]

end System

/-! ## Rules -/

namespace Device

variable {c : CamConfig}

inductive Rule (d : Device c) :
    DeviceAction → Device c → List (DeviceEvent c.frameCnt) → Prop
  /-- a task moves, and calls nothing of the driver -/
  | tasks {a : Action} {s : System} {es : List Event}
      (hget : ∀ r, a ≠ .pipeline (.capture (.fbGet r)))
      (hret : a = .pipeline .recycle → d.system.pipeline.recycle = .receive)
      (h : d.system.step a = some (s, es)) :
      Rule d (.system a) { d with system := s } (es.map .system)
  | fbReturn {fb : CameraFb} {s : System} {es : List Event}
      (hpc : d.system.pipeline.recycle = .fbReturn fb)
      (h : d.system.step (.pipeline .recycle) = some (s, es)) :
      Rule d (.system (.pipeline .recycle))
        { system := s, driver := (d.driver.give fb.address).1 }
        ((d.driver.give fb.address).2.map .driver ++ es.map .system)
  /-- the driver moves, and nothing returns to a task -/
  | driver {a : DriverAction} {driver : Driver c} {es : List (DriverEvent c.frameCnt)}
      (hgive : ∀ address, a ≠ .give address)
      (hcall : a = .take .call → d.system.pipeline.capture.inFbGet = true)
      (h : d.driver.step a = some (driver, es)) (hres : fbGetResult es = none) :
      Rule d (.driver a) { d with driver := driver } (es.map .driver)
  | fbGet {a : DriverAction} {driver : Driver c} {es : List (DriverEvent c.frameCnt)}
      {result : Option (ℕ × List UInt8)} {s : System} {fs : List Event}
      (hgive : ∀ address, a ≠ .give address) (h : d.driver.step a = some (driver, es))
      (hres : fbGetResult es = some result)
      (hs : d.system.step (.pipeline (.capture (.fbGet result))) = some (s, fs)) :
      Rule d (.driver a) { system := s, driver := driver } (fs.map .system ++ es.map .driver)

section Adequacy

variable {d d' : Device c} {es : List (DeviceEvent c.frameCnt)}

theorem Rule.of_systemStep {a : Action} (h : d.systemStep a = some (d', es)) :
    Rule d (.system a) d' es := by
  unfold systemStep at h
  split at h
  · cases h
  · split at h
    · cases h
    · rename_i hs hpc
      cases h
      exact .tasks (fun r he => by cases he) (fun _ => hpc) hs
    · rename_i hs hpc
      cases h
      exact .fbReturn hpc hs
  · rename_i hget hrecycle
    simp only [Option.map_eq_some_iff] at h
    obtain ⟨⟨s, fs⟩, hs, h⟩ := h
    cases h
    exact .tasks (fun r he => hget r he) (fun he => absurd he hrecycle) hs

theorem Rule.of_driverStep {a : DriverAction} (hgive : ∀ address, a ≠ .give address)
    (hcall : a = .take .call → d.system.pipeline.capture.inFbGet = true)
    (h : d.driverStep a = some (d', es)) : Rule d (.driver a) d' es := by
  unfold driverStep at h
  split at h
  · cases h
  · rename_i driver fs hs
    split at h
    · rename_i hres
      cases h
      exact .driver hgive hcall hs hres
    · rename_i result hres
      simp only [Option.map_eq_some_iff] at h
      obtain ⟨⟨s, gs⟩, hget, h⟩ := h
      cases h
      exact .fbGet hgive hs hres hget

theorem Rule.of_step {a : DeviceAction} (h : d.step a = some (d', es)) : Rule d a d' es := by
  unfold step at h
  split at h
  · exact .of_systemStep h
  · cases h
  · split at h
    · rename_i hpc
      exact .of_driverStep (fun _ he => by cases he) (fun _ => hpc) h
    · cases h
  · rename_i a hgive hcall
    exact .of_driverStep (fun address he => hgive address he) (fun he => absurd he hcall) h

end Adequacy

/-! ## What ties the two sides together -/

section Traces

variable {n : ℕ} {es tr : List (DeviceEvent n)} {fs : List Event} {gs : List (DriverEvent n)}

theorem systemTrace_append : systemTrace (es ++ tr) = systemTrace es ++ systemTrace tr :=
  List.filterMap_append

theorem driverTrace_append : driverTrace (es ++ tr) = driverTrace es ++ driverTrace tr :=
  List.filterMap_append

@[simp] theorem systemTrace_system : systemTrace (n := n) (fs.map .system) = fs := by
  induction fs with
  | nil => rfl
  | cons e fs ih => exact congrArg (e :: ·) ih

@[simp] theorem systemTrace_driver : systemTrace (gs.map .driver) = [] := by
  simp [systemTrace, DeviceEvent.system?]

@[simp] theorem driverTrace_driver : driverTrace (gs.map .driver) = gs := by
  induction gs with
  | nil => rfl
  | cons e gs ih => exact congrArg (e :: ·) ih

@[simp] theorem driverTrace_system : driverTrace (n := n) (fs.map .system) = [] := by
  simp [driverTrace, DeviceEvent.driver?]

/-- The two halves of a step that both sides make. -/
theorem systemTrace_both :
    systemTrace (gs.map .driver ++ fs.map .system ++ tr) = fs ++ systemTrace tr ∧
      systemTrace (fs.map .system ++ gs.map .driver ++ tr) = fs ++ systemTrace tr := by
  simp [systemTrace_append]

theorem driverTrace_both :
    driverTrace (gs.map .driver ++ fs.map .system ++ tr) = gs ++ driverTrace tr ∧
      driverTrace (fs.map .system ++ gs.map .driver ++ tr) = gs ++ driverTrace tr := by
  simp [driverTrace_append]

end Traces

/-- What the tasks know of the frames and what the driver knows of them is the same. -/
structure Joined (tr : List (DeviceEvent c.frameCnt)) (d : Device c) : Prop where
  /-- the same frames are out -/
  out : d.system.pipeline.camera.outstanding = d.driver.out.map Fin.val
  /-- `cam_take` is called by the capture task -/
  calling : d.driver.take ≠ .none → d.system.pipeline.capture.inFbGet = true
  /-- the frames captured are the frames handed out -/
  captured : (captured (pipelineTrace (systemTrace tr))).map (fun fb => (fb.address, fb.buf)) =
    (handedOuts (driverTrace tr)).map fun handed => (handed.1.val, handed.2)
  /-- a frame that is held is lent, with what the tasks take to be in it -/
  lent : ∀ fb ∈ d.system.pipeline.holders,
    ∃ x : Fin c.frameCnt, x.val = fb.address ∧ lent x (driverTrace tr) = some fb.buf

end Device

/-- The frames held before and behind some steps, by what was captured and returned in them. -/
theorem Placed.holders_append {tr tr' : List PipelineEvent} {p p' : Pipeline} {l r : List CameraFb}
    (h : Placed tr p) (h' : Placed tr' p') (hcap : captured tr' = captured tr ++ l)
    (hret : returned tr' = returned tr ++ r) : p.holders ++ l = r ++ p'.holders := by
  have heq := h'.inOrder
  rw [hcap, hret, h.inOrder, List.append_assoc, List.append_assoc] at heq
  exact List.append_cancel_left heq

namespace Device

variable {c : CamConfig} {d d' : Device c} {a : DeviceAction}
  {es tr : List (DeviceEvent c.frameCnt)} {b : System.Boot} {buf : Fin c.frameCnt → ℕ → UInt8}
  {cells : ℕ → DmaElem}

/-- What is known of the two sides at a state. -/
structure Sides (tr : List (DeviceEvent c.frameCnt)) (d : Device c) : Prop where
  placed : Placed (pipelineTrace (systemTrace tr)) d.system.pipeline
  outstanding : d.system.pipeline.camera.outstanding.Perm
    (d.system.pipeline.holders.map CameraFb.address)
  slots : Driver.Slots d.driver

theorem Joined.nodup (h : Joined tr d) (hs : Sides tr d) :
    (d.system.pipeline.holders.map CameraFb.address).Nodup := by
  have hout : d.driver.out.Nodup := by
    have hn := hs.slots.accounted.nodup
    rw [Driver.busy] at hn
    exact (List.nodup_append.mp hn).2.1
  rw [← hs.outstanding.nodup_iff, h.out]
  exact hout.map Fin.val_injective

/-- A frame that the tasks hold is out. -/
theorem Joined.out_of_held (h : Joined tr d) (hs : Sides tr d) {fb : CameraFb}
    (hfb : fb ∈ d.system.pipeline.holders) : ∃ x ∈ d.driver.out, x.val = fb.address := by
  have hmem := hs.outstanding.mem_iff.mpr (List.mem_map_of_mem (f := CameraFb.address) hfb)
  rw [h.out] at hmem
  exact List.mem_map.mp hmem

theorem Joined.tasks {a : Action} {s : System} {fs : List Event}
    (hget : ∀ r, a ≠ .pipeline (.capture (.fbGet r)))
    (hret : a = .pipeline .recycle → d.system.pipeline.recycle = .receive)
    (hstep : d.system.step a = some (s, fs)) (hs : Sides tr d)
    (hs' : Sides (fs.map .system ++ tr) { d with system := s }) (h : Joined tr d) :
    Joined (fs.map .system ++ tr) { d with system := s } := by
  obtain ⟨hcam, hcap, hreturned, hcalling⟩ :=
    System.quiet_of_step (systemTrace tr) hstep hget hret
  have hheld := hs.placed.holders_append hs'.placed (l := []) (r := [])
    (by simpa [systemTrace_append] using hcap) (by simpa [systemTrace_append] using hreturned)
  rw [List.append_nil, List.nil_append] at hheld
  refine ⟨?_, fun ht => hcalling (h.calling ht), ?_, ?_⟩
  · exact (congrArg Camera.outstanding hcam).trans h.out
  · simpa [systemTrace_append, driverTrace_append, hcap] using h.captured
  · simpa [driverTrace_append, ← hheld] using h.lent

/-- The frame that is returned is one that is out, and leaves the tasks. -/
theorem Joined.fbReturn {fb : CameraFb} {s : System} {fs : List Event}
    (hpc : d.system.pipeline.recycle = .fbReturn fb)
    (hstep : d.system.step (.pipeline .recycle) = some (s, fs)) (hs : Sides tr d)
    (hs' : Sides ((d.driver.give fb.address).2.map .driver ++ fs.map .system ++ tr)
      { system := s, driver := (d.driver.give fb.address).1 }) (h : Joined tr d) :
    Joined ((d.driver.give fb.address).2.map .driver ++ fs.map .system ++ tr)
      { system := s, driver := (d.driver.give fb.address).1 } := by
  obtain ⟨hout, hcap, hreturned, hcalling⟩ := System.fbReturn_of_step (systemTrace tr) hpc hstep
  obtain ⟨x, hx, hval⟩ := h.out_of_held hs (Pipeline.mem_holders_of_fbReturn hpc)
  have hgive : d.driver.give fb.address =
      ({ d.driver.setEn x true with out := d.driver.out.erase x }, [.given x]) := by
    rw [← hval]
    simp [Driver.give]
  have hheld := hs.placed.holders_append hs'.placed (l := []) (r := [fb])
    (by rw [systemTrace_both.1, hcap, List.append_nil]) (by rw [systemTrace_both.1, hreturned])
  rw [List.append_nil, List.singleton_append] at hheld
  have hnodup := h.nodup hs
  rw [hheld, List.map_cons, List.nodup_cons] at hnodup
  refine ⟨?_, fun ht => hcalling (h.calling ?_), ?_, fun fb' hfb' => ?_⟩
  · rw [hgive]
    show s.pipeline.camera.outstanding = (d.driver.out.erase x).map Fin.val
    rw [hout, h.out, ← hval, List.map_erase Fin.val_injective]
  · rw [hgive] at ht
    exact ht
  · rw [systemTrace_both.1, driverTrace_both.1, hcap, hgive]
    exact h.captured
  · obtain ⟨y, hy, hlent⟩ := h.lent fb' (hheld ▸ List.mem_cons_of_mem _ hfb')
    have hne : x ≠ y := fun he => hnodup.1 (by
      rw [← hval, he, hy]
      exact List.mem_map_of_mem hfb')
    refine ⟨y, hy, ?_⟩
    rw [driverTrace_both.1, hgive]
    exact (if_neg hne).trans hlent

theorem Joined.driver {a : DriverAction} {driver : Driver c}
    {gs : List (DriverEvent c.frameCnt)} (hgive : ∀ address, a ≠ .give address)
    (hcall : a = .take .call → d.system.pipeline.capture.inFbGet = true)
    (hstep : d.driver.step a = some (driver, gs)) (hres : fbGetResult gs = none)
    (h : Joined tr d) : Joined (gs.map .driver ++ tr) { d with driver := driver } := by
  obtain ⟨hout, hhanded, htake, hlent⟩ :=
    (Driver.Rule.of_step hstep).quiet (driverTrace tr) hres hgive
  refine ⟨?_, fun ht => ?_, ?_, ?_⟩
  · exact h.out.trans (congrArg (List.map Fin.val) hout.symm)
  · exact (htake ht).elim h.calling hcall
  · simpa [systemTrace_append, driverTrace_append, hhanded] using h.captured
  · simpa [driverTrace_append, hlent] using h.lent

/-- The frame that the capture task gets is one that was not out. -/
theorem Joined.fbGet {a : DriverAction} {driver : Driver c} {gs : List (DriverEvent c.frameCnt)}
    {result : Option (ℕ × List UInt8)} {s : System} {fs : List Event}
    (hstep : d.driver.step a = some (driver, gs)) (hres : fbGetResult gs = some result)
    (hget : d.system.step (.pipeline (.capture (.fbGet result))) = some (s, fs))
    (hs : Sides tr d)
    (hs' : Sides (fs.map .system ++ gs.map .driver ++ tr) { system := s, driver := driver })
    (h : Joined tr d) :
    Joined (fs.map .system ++ gs.map .driver ++ tr) { system := s, driver := driver } := by
  obtain ⟨-, -, htake, hcases⟩ := (Driver.Rule.of_step hstep).returns hs.slots hres
  obtain ⟨hreturned, hsys⟩ := System.fbGet_of_step (systemTrace tr) hget
  rcases hcases with ⟨rfl, rfl, hout⟩ | ⟨x, bytes, rfl, rfl, hout, hnot⟩
  · obtain ⟨-, hcam, hcap⟩ := hsys.resolve_right fun ⟨_, he, _⟩ => by cases he
    have hheld := hs.placed.holders_append hs'.placed (l := []) (r := [])
      (by rw [systemTrace_both.2, hcap, List.append_nil])
      (by rw [systemTrace_both.2, hreturned, List.append_nil])
    rw [List.append_nil, List.nil_append] at hheld
    refine ⟨?_, fun ht => absurd htake ht, ?_, ?_⟩
    · exact (congrArg Camera.outstanding hcam).trans
        (h.out.trans (congrArg (List.map Fin.val) hout.symm))
    · rw [systemTrace_both.2, driverTrace_both.2, hcap]
      exact h.captured
    · rw [driverTrace_both.2, ← hheld]
      exact h.lent
  · obtain ⟨fb, hfb, hcam, hcap⟩ := hsys.resolve_left fun ⟨he, _⟩ => by cases he
    obtain ⟨hval, rfl⟩ := Prod.mk.inj (Option.some.inj hfb)
    have hheld := hs.placed.holders_append hs'.placed (l := [fb]) (r := [])
      (by rw [systemTrace_both.2, hcap])
      (by rw [systemTrace_both.2, hreturned, List.append_nil])
    rw [List.nil_append] at hheld
    refine ⟨?_, fun ht => absurd htake ht, ?_, fun fb' hfb' => ?_⟩
    · show s.pipeline.camera.outstanding = driver.out.map Fin.val
      rw [hcam, hout, h.out, List.map_cons, hval]
    · rw [systemTrace_both.2, driverTrace_both.2, hcap]
      simp [handedOuts, h.captured, hval]
    · rw [driverTrace_both.2]
      rcases List.mem_append.mp (hheld ▸ hfb') with hold | hnew
      · obtain ⟨y, hy, hlent⟩ := h.lent fb' hold
        obtain ⟨z, hz, hzy⟩ := h.out_of_held hs hold
        have hne : x ≠ y := fun he => hnot (he ▸ Fin.ext (hzy.trans hy.symm) ▸ hz)
        exact ⟨y, hy, (if_neg hne).trans hlent⟩
      · rw [List.mem_singleton] at hnew
        subst hnew
        exact ⟨x, hval, if_pos rfl⟩

theorem Rule.joined (hr : Rule d a d' es) (hs : Sides tr d) (hs' : Sides (es ++ tr) d')
    (h : Joined tr d) : Joined (es ++ tr) d' := by
  cases hr with
  | tasks hget hret hstep => exact h.tasks hget hret hstep hs hs'
  | fbReturn hpc hstep => exact h.fbReturn hpc hstep hs hs'
  | driver hgive hcall hstep hres => exact h.driver hgive hcall hstep hres
  | fbGet hgive hstep hres hget => exact h.fbGet hstep hres hget hs hs'

/-! ## Every run -/

theorem joined_boot : Joined [] (boot b c buf cells) :=
  ⟨rfl, fun h => absurd rfl h, rfl, fun _ h => by cases h⟩

theorem sides_of_runs {p : System → Action → Bool} {q : Driver c → DriverAction → Bool}
    (hq : ∀ d a, q d a = true → d.GivesHeld a)
    (hs : System.SystemRun p (System.appRun b) (systemTrace tr) d.system)
    (hd : Driver.DriverRun q (Driver.init c buf cells) (driverTrace tr) d.driver) : Sides tr d := by
  have hpipe := System.SystemRun.pipeline (C := fun _ _ => True) (fun _ _ _ => trivial) hs
  exact ⟨hpipe.placed, hpipe.outstanding_perm, Driver.DriverRun.slots hq hd⟩

variable {p : System → Action → Bool} {q : Driver c → DriverAction → Bool}

/-- A step keeps each side within its own contract and within what the other side asks of it. -/
theorem Rule.advances (hr : Rule d a d' es) (hpq : within p q d a = true)
    (hp : ∀ s result, p s (.pipeline (.capture (.fbGet result))) = true)
    (hq : ∀ d address, Driver.givesHeld d (.give address) = true → q d (.give address) = true)
    (hs : Sides tr d) (h : Joined tr d) :
    Advances (StepOf System.step)
        (fun s a => (p s a && System.handsOutFresh s a) = true)
        d.system d'.system (systemTrace es) ∧
      Advances (StepOf Driver.step) (fun d a => (q d a && Driver.givesHeld d a) = true)
        d.driver d'.driver (driverTrace es) := by
  cases hr with
  | tasks hget hret hstep =>
    rename_i a s fs
    have hfresh : System.handsOutFresh d.system a = true := by
      unfold System.handsOutFresh
      split
      · exact absurd rfl (hget _)
      · rfl
    refine ⟨Or.inr ⟨a, (Bool.and_eq_true _ _).mpr ⟨hpq, hfresh⟩, ?_⟩, ?_⟩
    · rw [systemTrace_system]
      exact hstep
    · rw [driverTrace_system]
      exact .refl
  | fbReturn hpc hstep =>
    rename_i fb s fs
    obtain ⟨x, hx, hval⟩ := h.out_of_held hs (Pipeline.mem_holders_of_fbReturn hpc)
    have hgives : Driver.givesHeld d.driver (.give fb.address) = true :=
      Driver.givesHeld_iff.mpr ⟨x, hx, hval⟩
    refine ⟨Or.inr ⟨.pipeline .recycle, (Bool.and_eq_true _ _).mpr ⟨hpq, rfl⟩, ?_⟩,
      Or.inr ⟨.give fb.address, (Bool.and_eq_true _ _).mpr ⟨hq _ _ hgives, hgives⟩, ?_⟩⟩
    · rw [systemTrace_append, systemTrace_driver, systemTrace_system, List.nil_append]
      exact hstep
    · rw [driverTrace_append, driverTrace_driver, driverTrace_system, List.append_nil]
      rfl
  | driver hgive hcall hstep hres =>
    rename_i a driver fs
    have hgives : Driver.givesHeld d.driver a = true := by
      cases a with
      | give address => exact absurd rfl (hgive address)
      | _ => rfl
    refine ⟨?_, Or.inr ⟨a, (Bool.and_eq_true _ _).mpr ⟨hpq, hgives⟩, ?_⟩⟩
    · rw [systemTrace_driver]
      exact .refl
    · rw [driverTrace_driver]
      exact hstep
  | fbGet hgive hstep hres hget =>
    rename_i a driver fs result s gs
    obtain ⟨⟨input, rfl⟩, -, -, hcases⟩ := (Driver.Rule.of_step hstep).returns hs.slots hres
    have hfresh : System.handsOutFresh d.system (.pipeline (.capture (.fbGet result))) = true := by
      rcases hcases with ⟨rfl, -⟩ | ⟨x, bytes, rfl, -, -, hnot⟩
      · rfl
      · refine decide_eq_true ?_
        rw [h.out, List.mem_map]
        rintro ⟨y, hy, hval⟩
        exact hnot (Fin.ext hval ▸ hy)
    refine ⟨Or.inr ⟨_, (Bool.and_eq_true _ _).mpr ⟨hp _ _, hfresh⟩, ?_⟩,
      Or.inr ⟨.take input, (Bool.and_eq_true _ _).mpr ⟨hpq, rfl⟩, ?_⟩⟩
    · rw [systemTrace_append, systemTrace_system, systemTrace_driver, List.append_nil]
      exact hget
    · rw [driverTrace_append, driverTrace_system, driverTrace_driver, List.nil_append]
      exact hstep

theorem DeviceRun.parts (hp : ∀ s result, p s (.pipeline (.capture (.fbGet result))) = true)
    (hq : ∀ d address, Driver.givesHeld d (.give address) = true → q d (.give address) = true)
    (h : DeviceRun (within p q) (boot b c buf cells) tr d) :
    System.SystemRun (fun s a => p s a && System.handsOutFresh s a) (System.appRun b)
        (systemTrace tr) d.system ∧
      Driver.DriverRun (fun d a => q d a && Driver.givesHeld d a) (Driver.init c buf cells)
        (driverTrace tr) d.driver ∧ Joined tr d := by
  have hgives : ∀ (d : Driver c) a, (q d a && Driver.givesHeld d a) = true → d.GivesHeld a :=
    fun _ _ h => Driver.givesHeld_iff.mp ((Bool.and_eq_true _ _).mp h).2
  refine h.compose Device.system DeviceEvent.system? Device.driver DeviceEvent.driver?
    (I := Joined) joined_boot ?_
  intro tr d a d' es hsys hdrv hjoined hpq hstep
  have hr := Rule.of_step hstep
  have hsides := sides_of_runs hgives hsys hdrv
  obtain ⟨h₁, h₂⟩ := hr.advances hpq hp hq hsides hjoined
  exact ⟨h₁, h₂, fun hsys' hdrv' =>
    hr.joined hsides (sides_of_runs hgives hsys' hdrv') hjoined⟩

/-- What the driver can do by itself is never held up by the tasks. -/
theorem Joined.driver_free (h : Joined tr d) (hs : Sides tr d) {a : DriverAction}
    (hgive : ∀ address, a ≠ .give address) (hcall : a ≠ .take .call)
    (hstep : (d.driver.step a).isSome = true) : (d.step (.driver a)).isSome = true := by
  obtain ⟨⟨driver, es⟩, hstep⟩ := Option.isSome_iff_exists.mp hstep
  have hdriver : d.step (.driver a) = d.driverStep a := by
    unfold step
    split
    · rename_i he; cases he
    · rename_i he; cases he; exact absurd rfl (hgive _)
    · rename_i he; cases he; exact absurd rfl hcall
    · rename_i he; cases he; rfl
  rw [hdriver, driverStep, hstep]
  dsimp only
  cases hres : fbGetResult es with
  | none => rfl
  | some result =>
    obtain ⟨-, htake, -⟩ := (Driver.Rule.of_step hstep).returns hs.slots hres
    rw [Option.isSome_map]
    exact System.fbGet_isSome (h.calling htake)

/-- **Neither side has to trust the other.** In every run of the device, the tasks are at every step
    within what the driver asks of its caller, and the driver within what the tasks ask of it: what
    is a run of the device is for the tasks a run in which no buffer is handed out twice, and for
    the driver one in which only what is out is given back. So every property of such runs is one of
    the device, whatever further contracts `p` and `q` it is under. And the tasks hold the driver up
    in nothing but its being called. -/
theorem contracts_kept (b : System.Boot) (c : CamConfig) (buf : Fin c.frameCnt → ℕ → UInt8)
    (cells : ℕ → DmaElem) (p : System → Action → Bool) (q : Driver c → DriverAction → Bool)
    (hp : ∀ s result, p s (.pipeline (.capture (.fbGet result))) = true)
    (hq : ∀ d address, Driver.givesHeld d (.give address) = true → q d (.give address) = true)
    (tr : List (DeviceEvent c.frameCnt)) (d : Device c)
    (hrun : DeviceRun (within p q) (boot b c buf cells) tr d) :
    System.SystemRun (fun s a => p s a && System.handsOutFresh s a) (System.appRun b)
        (systemTrace tr) d.system ∧
      Driver.DriverRun (fun d a => q d a && Driver.givesHeld d a) (Driver.init c buf cells)
        (driverTrace tr) d.driver ∧
      d.system.pipeline.camera.outstanding = d.driver.out.map Fin.val ∧
      ∀ a, (∀ address, a ≠ .give address) → a ≠ .take .call → (d.driver.step a).isSome = true →
        (d.step (.driver a)).isSome = true := by
  obtain ⟨hsys, hdrv, hjoined⟩ := hrun.parts hp hq
  have hsides : Sides tr d := sides_of_runs
    (fun _ _ h => Driver.givesHeld_iff.mp ((Bool.and_eq_true _ _).mp h).2) hsys hdrv
  exact ⟨hsys, hdrv, hjoined.out, fun a hgive hcall => hjoined.driver_free hsides hgive hcall⟩

/-- The second frame of two has just been handed out. -/
theorem contracts_kept_streaming :
    ∃ (tr : List (DeviceEvent smallCamera.frameCnt)) (d : Device smallCamera),
      DeviceRun (within (fun _ _ => true) Driver.keepsUp)
          (boot System.started smallCamera (fun _ _ => 0) fun _ => ⟨0, 0, 0, 0⟩) tr d ∧
        d.driver.out.map Fin.val = [1] ∧ d.system.pipeline.camera.outstanding = [1] ∧
        (captured (pipelineTrace (systemTrace tr))).length = 2 := by
  obtain ⟨tr, d, hrun, hq⟩ := reaches (c := smallCamera)
    (p := within (fun _ _ => true) Driver.keepsUp) (b := System.started) (a := streaming)
    (q := fun d tr => decide (d.driver.out.map Fin.val = [1]) &&
      decide ((captured (pipelineTrace (systemTrace tr))).length = 2))
    (by decide +kernel)
  simp only [Bool.and_eq_true, decide_eq_true_eq] at hq
  obtain ⟨-, -, hout, -⟩ := contracts_kept System.started smallCamera _ _ (fun _ _ => true)
    Driver.keepsUp (fun _ _ => rfl) (fun _ _ h => h) tr d hrun
  exact ⟨tr, d, hrun, hq.1, hout.trans hq.1, hq.2⟩

end Device
end Esp32Eye
