import Esp32Eye.Camera
import Esp32Eye.Proof.DmaLayout

/-!
# The camera is up or down

Between the calls the camera is up, with everything whose absence would have been an error, or down,
whatever the system refused in between (`camera_up_or_down`). What carries this is `Sound`, which
holds at every point of every function: each block on the heap belongs to exactly one pointer, and
each entry in the tables of handlers, drivers and channels is one that `esp_camera_deinit` will
find. So a failure may come anywhere; from a sound state the camera goes down (`Sound.deinit`), and
what remains is what was `kept` when `cam_init` returned: the ISR service and the I2S0 module.
-/

namespace Esp32Eye

open Lib

/-! ## What the pointers point to -/

/-- The frame buffers. -/
def frameBlocks (bufs : List (Option ℕ)) : List (ℕ × Block) :=
  bufs.flatMap (Heap.owned .frameBuffer)

/-- The blocks of `cam_obj`, in the order in which `cam_deinit` gives them back. -/
def CamObj.blocks (cam : CamObj) : List (ℕ × Block) :=
  Heap.owned .camTask cam.taskHandle ++ (Heap.owned .eventQueue cam.eventQueue ++
    (Heap.owned .frameBufferQueue cam.frameBufferQueue ++
      (Heap.owned .dmaDescriptors (cam.dma.map Prod.fst) ++
        (Heap.owned .dmaBuffer cam.dmaBuffer ++
          (frameBlocks ((cam.frames.map Prod.snd).getD []) ++
            (Heap.owned .frames (cam.frames.map Prod.fst) ++
              (Heap.owned .camIntr cam.camIntrHandle ++
                Heap.owned .camObj (some cam.address))))))))

/-- What stays after `esp_camera_init`: `cam_init` asks for it as soon as it has a `cam_obj`. -/
def Lasting.afterInit (r : InitResults) (l : Lasting) : Lasting :=
  if r.camObj then
    { isrService := l.isrService || r.installIsrService, i2s0Enabled := l.i2s0Enabled + 1 }
  else l

namespace EspCamera

variable {s s' : EspCamera} {cam : CamObj} {state : CameraState} {l : List (ℕ × Block)}
  {others : ℤ → Bool} {kept : Lasting} {config : EspCameraConfig} {r : InitResults} {err : EspErr}

/-- The blocks of `cam_obj` and `s_state`. -/
def blocks (s : EspCamera) : List (ℕ × Block) :=
  (s.camObj.map CamObj.blocks).getD [] ++
    Heap.owned .cameraState (s.sState.map CameraState.address)

theorem releaseFrameBuffers_of_holds {bufs : List (Option ℕ)} :
    ∀ {h : Heap Block}, h.Holds (frameBlocks bufs ++ l) →
      ∃ h', releaseFrameBuffers bufs h = some h' ∧ h'.Holds l := by
  induction bufs with
  | nil => exact fun hl => ⟨_, rfl, hl⟩
  | cons buf bufs ih =>
    intro h hl
    rw [frameBlocks, List.flatMap_cons, List.append_assoc] at hl
    obtain ⟨h₁, he, hl⟩ := hl.release
    obtain ⟨h', he', hl'⟩ := ih hl
    refine ⟨h', ?_, hl'⟩
    rw [releaseFrameBuffers, he]
    exact he'

/-- `cam_deinit` gives back what the pointers of `cam_obj` point to, and nothing else. -/
theorem camDeinit_of_holds (hc : s.camObj = some cam) (hl : s.heap.Holds (cam.blocks ++ l)) :
    ∃ h, s.camDeinit = some (espOk,
        { s with
          heap := h
          camObj := none
          isrHandler := s.gpioIsrHandlerRemove cam.vsyncPin
          intrEnabled := Function.update s.intrEnabled cam.vsyncPin false
          dmaRunning := false }) ∧ h.Holds l := by
  simp only [CamObj.blocks, List.append_assoc] at hl
  obtain ⟨h₁, e₁, hl⟩ := hl.release
  obtain ⟨h₂, e₂, hl⟩ := hl.release
  obtain ⟨h₃, e₃, hl⟩ := hl.release
  obtain ⟨h₄, e₄, hl⟩ := hl.release
  obtain ⟨h₅, e₅, hl⟩ := hl.release
  obtain ⟨h₆, e₆, hl⟩ := releaseFrameBuffers_of_holds hl
  obtain ⟨h₇, e₇, hl⟩ := hl.release
  obtain ⟨h₈, e₈, hl⟩ := hl.release
  obtain ⟨h₉, e₉, hl⟩ := hl.release
  refine ⟨h₉, ?_, hl⟩
  unfold camDeinit
  rw [hc]
  simp only [Option.bind_eq_bind, e₁, e₂, e₃, e₄, e₅, e₆, e₇, e₈, e₉, Option.bind_some]

/-! ## The invariant -/

/-- The handlers there are for a `cam_obj`. -/
def handlers : Option CamObj → Gpio → Option ℕ
  | none => fun _ => none
  | some cam => Function.update (fun _ => none) cam.vsyncPin (some cam.address)

/-- What is there is what the static variables say is there. -/
structure Sound (others : ℤ → Bool) (kept : Lasting) (s : EspCamera) : Prop where
  holds : s.heap.Holds s.blocks
  lasting : s.lasting = kept
  handler : s.isrHandler = handlers s.camObj ∨ s.isrHandler = fun _ => none
  service : kept.isrService = false → s.isrHandler = fun _ => none
  interrupt : ∀ p, s.intrEnabled p = true → s.camObj.map CamObj.vsyncPin = some p
  dma : s.dmaRunning = true → s.camObj.isSome = true
  clock : ∀ ch, s.ledcRunning ch = true → s.gLedcChannel = some ch
  channel : s.sState = none → s.gLedcChannel = none
  port : s.sccbOwnsI2cPort = true →
    s.sccbI2cPort = sccbI2cPortDefault ∧ others sccbI2cPortDefault = false ∧ s.sState.isSome = true
  drivers : ∀ p, ¬ (s.sccbOwnsI2cPort = true ∧ p = sccbI2cPortDefault) →
    s.i2cInstalled p = others p

/-- Nothing is there but what stays, `kept`; otherwise it is as before the first call, up to what an
    address and a port number are. -/
def Down (others : ℤ → Bool) (kept : Lasting) (s : EspCamera) : Prop :=
  s.heap.live = [] ∧
    s = { boot others with heap := s.heap, lasting := kept, sccbI2cPort := s.sccbI2cPort }

theorem Down.sound (hd : Down others kept s) : Sound others kept s := by
  obtain ⟨hl, hs⟩ := hd
  rw [hs]
  exact
    { holds := List.Perm.of_eq hl
      lasting := rfl
      handler := Or.inr rfl
      service := fun _ => rfl
      interrupt := fun _ h => by cases h
      dma := fun h => by cases h
      clock := fun _ h => by cases h
      channel := fun _ => rfl
      port := fun h => by cases h
      drivers := fun _ _ => rfl }

/-- No channel runs that the static variable does not name. -/
theorem ledcRunning_stopped (h : ∀ ch, s.ledcRunning ch = true → s.gLedcChannel = some ch)
    (hg : s.gLedcChannel = none) : s.ledcRunning = fun _ => false := funext fun ch => by
  by_contra hrun
  have := h ch (by simpa using hrun)
  rw [hg] at this
  cases this

theorem cameraDisableOutClock_eq (h : ∀ ch, s.ledcRunning ch = true → s.gLedcChannel = some ch) :
    s.cameraDisableOutClock = { s with ledcRunning := fun _ => false, gLedcChannel := none } := by
  unfold cameraDisableOutClock
  cases hg : s.gLedcChannel with
  | none =>
    have hall := ledcRunning_stopped h hg
    cases s
    simp_all
  | some ch =>
    have hall : Function.update s.ledcRunning ch false = fun _ => false := funext fun ch' => by
      by_cases he : ch' = ch
      · rw [he, Function.update_self]
      · rw [Function.update_of_ne he]
        by_contra hrun
        have := h ch' (by simpa using hrun)
        rw [hg] at this
        cases this
        exact he rfl
    simp only [hall]

theorem sccbDeinit_eq
    (hport : s.sccbOwnsI2cPort = true →
      s.sccbI2cPort = sccbI2cPortDefault ∧ others sccbI2cPortDefault = false)
    (hdrivers : ∀ p, ¬ (s.sccbOwnsI2cPort = true ∧ p = sccbI2cPortDefault) →
      s.i2cInstalled p = others p) :
    s.sccbDeinit = { s with sccbOwnsI2cPort := false, i2cInstalled := others } := by
  unfold sccbDeinit
  cases hown : s.sccbOwnsI2cPort with
  | false =>
    have hall : s.i2cInstalled = others := funext fun p => hdrivers p (by simp [hown])
    cases s
    simp_all
  | true =>
    obtain ⟨hp, hfree⟩ := hport hown
    have hall : Function.update s.i2cInstalled s.sccbI2cPort false = others := funext fun p => by
      by_cases he : p = sccbI2cPortDefault
      · rw [he, hp, Function.update_self, hfree]
      · rw [hp, Function.update_of_ne he]
        exact hdrivers p fun h => he h.2
    simp only [if_pos, hall]

/-- With or without the service, no handler is left. -/
theorem Sound.gpioIsrHandlerRemove (h : Sound others kept s) (hc : s.camObj = some cam) :
    s.gpioIsrHandlerRemove cam.vsyncPin = fun _ => none := by
  unfold EspCamera.gpioIsrHandlerRemove
  rcases h.handler with hreg | hnone
  · split
    · rw [hreg, hc]
      exact (Function.update_idem _ _ _).trans (Function.update_eq_self _ _)
    · rename_i hservice
      exact h.service (h.lasting ▸ by simpa using hservice)
  · rw [hnone, Function.update_eq_self, ite_self]

theorem Sound.camDeinit (h : Sound others kept s) :
    ∃ s', s.camDeinit = some (if s.camObj.isSome then espOk else espFail, s') ∧
      Sound others kept s' ∧ s'.camObj = none ∧ s'.sState = s.sState := by
  cases hc : s.camObj with
  | none => exact ⟨s, by rw [EspCamera.camDeinit, hc]; rfl, h, hc, rfl⟩
  | some cam =>
    have hl := h.holds
    rw [blocks, hc] at hl
    obtain ⟨heap, he, hl⟩ := camDeinit_of_holds hc hl
    refine ⟨_, he,
      { h with holds := hl, handler := ?_, service := ?_, interrupt := ?_, dma := ?_ }, rfl, rfl⟩
    · exact Or.inr (h.gpioIsrHandlerRemove hc)
    · exact fun _ => h.gpioIsrHandlerRemove hc
    · intro p hp
      replace hp : Function.update s.intrEnabled cam.vsyncPin false p = true := hp
      by_cases hpin : p = cam.vsyncPin
      · rw [hpin, Function.update_self] at hp
        cases hp
      · rw [Function.update_of_ne hpin] at hp
        have := h.interrupt p hp
        rw [hc] at this
        cases this
        exact absurd rfl hpin
    · intro hrun
      cases hrun

/-- Without a `cam_obj` there is no handler, no interrupt and no DMA. -/
theorem Sound.unwired (h : Sound others kept s) (hc : s.camObj = none) :
    s.isrHandler = (fun _ => none) ∧ s.intrEnabled = (fun _ => false) ∧ s.dmaRunning = false := by
  refine ⟨?_, funext fun p => ?_, ?_⟩
  · rcases h.handler with hreg | hnone
    · rw [hreg, hc]
      rfl
    · exact hnone
  · by_contra hp
    have := h.interrupt p (by simpa using hp)
    rw [hc] at this
    cases this
  · by_contra hrun
    have := h.dma (by simpa using hrun)
    rw [hc] at this
    cases this

/-- Without an `s_state` there is no I2C driver of its own. -/
theorem Sound.unowned (h : Sound others kept s) (hs : s.sState = none) :
    s.sccbOwnsI2cPort = false ∧ s.i2cInstalled = others := by
  have hown : s.sccbOwnsI2cPort = false := by
    by_contra hown
    have := (h.port (by simpa using hown)).2.2
    rw [hs] at this
    cases this
  exact ⟨hown, funext fun p => h.drivers p (by simp [hown])⟩

theorem Sound.releaseState (h : Sound others kept s) (hc : s.camObj = none) :
    ∃ s', s.releaseState = some s' ∧ Down others kept s' := by
  obtain ⟨hisr, hintr, hdma⟩ := h.unwired hc
  have hl := h.holds
  rw [blocks, hc] at hl
  unfold EspCamera.releaseState
  rw [cameraDisableOutClock_eq h.clock]
  cases hs : s.sState with
  | none =>
    obtain ⟨hown, hdrivers⟩ := h.unowned hs
    have hkept := h.lasting
    rw [hs] at hl
    refine ⟨_, rfl, hl.live_eq_nil, ?_⟩
    cases s
    simp_all [boot]
  | some state =>
    rw [hs] at hl
    obtain ⟨heap, he, hl⟩ :=
      Heap.Holds.release (l := []) (hl.perm (List.Perm.of_eq (List.append_nil _).symm))
    dsimp only
    rw [@sccbDeinit_eq _ others]
    · rw [Option.map_some] at he
      dsimp only
      rw [he]
      refine ⟨_, rfl, hl.live_eq_nil, ?_⟩
      rw [hisr, hintr, hdma, hc, h.lasting]
      rfl
    · exact fun hown => ⟨(h.port hown).1, (h.port hown).2.1⟩
    · exact h.drivers

/-- **From a sound state the camera goes down**, and only what was kept remains. -/
theorem Sound.deinit (h : Sound others kept s) :
    ∃ s', s.espCameraDeinit = some (if s.camObj.isSome then espOk else espFail, s') ∧
      Down others kept s' := by
  obtain ⟨s₁, he₁, h₁, hc₁, -⟩ := h.camDeinit
  obtain ⟨s₂, he₂, h₂⟩ := h₁.releaseState hc₁
  refine ⟨s₂, ?_, h₂⟩
  rw [espCameraDeinit, he₁]
  simp only [Option.bind_eq_bind, Option.bind_some, he₂]

theorem Sound.fail (h : Sound others kept s) (err : EspErr) :
    ∃ s', s.fail err = some (err, s') ∧ Down others kept s' := by
  obtain ⟨s', he, hd⟩ := h.deinit
  exact ⟨s', by rw [EspCamera.fail, he]; rfl, hd⟩

/-! ## `cam_init` and `camera_probe` -/

/-- The handler of `cam_obj` is there if the calls for it have gone well. -/
def HandlerAdded (kept : Lasting) (r : InitResults) (s : EspCamera) : Prop :=
  s.isrHandler =
    if kept.isrService && r.isrHandlerAdd then handlers s.camObj else fun _ => none

theorem Down.camInit (hd : Down others kept s) :
    (∃ s', s.camInit config r = (espErrNoMem, s') ∧ Down others (kept.afterInit r) s') ∨
    (∃ s' address, s.camInit config r = (espOk, s') ∧ Sound others (kept.afterInit r) s' ∧
      s'.sState = none ∧ s'.camObj = some { address := address, vsyncPin := config.pinVsync } ∧
      HandlerAdded (kept.afterInit r) r s') := by
  have h := hd.sound
  obtain ⟨hl, hs⟩ := hd
  unfold EspCamera.camInit
  cases hok : r.camObj with
  | false =>
    refine Or.inl ⟨_, rfl, hl, ?_⟩
    rw [hs, Lasting.afterInit, if_neg (by simp [hok])]
    rfl
  | true =>
    have hc : s.camObj = none := by rw [hs]; rfl
    have hstate : s.sState = none := by rw [hs]; rfl
    obtain ⟨hisr, hintr, hdma⟩ := h.unwired hc
    have hafter : kept.afterInit r =
        { isrService := kept.isrService || r.installIsrService,
          i2s0Enabled := kept.i2s0Enabled + 1 } := if_pos hok
    let cam : CamObj := { address := s.heap.next, vsyncPin := config.pinVsync }
    have hreg : HandlerAdded (kept.afterInit r) r
        ({ s with heap := s.heap.alloc .camObj, camObj := some cam }.llCamSetPin config r
          s.heap.next).llCamConfig := by
      rw [HandlerAdded, hafter]
      show (if (s.lasting.isrService || r.installIsrService) && r.isrHandlerAdd then
        Function.update s.isrHandler config.pinVsync (some s.heap.next) else s.isrHandler) = _
      rw [hisr, h.lasting]
      rfl
    refine Or.inr ⟨_, s.heap.next, rfl,
      { h with
        holds := ?_
        lasting := ?_
        handler := ?_
        service := fun hnone => ?_
        interrupt := ?_
        dma := fun _ => rfl }, hstate, rfl, hreg⟩
    · have hl' : s.heap.Holds [] := List.Perm.of_eq hl
      refine hl'.alloc.perm (List.Perm.of_eq ?_)
      show _ = cam.blocks ++ Heap.owned .cameraState (s.sState.map CameraState.address)
      rw [hstate]
      rfl
    · rw [hafter, ← h.lasting]
      rfl
    · rw [hreg]
      exact ite_eq_or_eq _ _ _
    · rw [hreg, hnone]
      rfl
    · intro p hp
      replace hp : Function.update s.intrEnabled config.pinVsync false p = true := hp
      rw [hintr, Function.update_eq_self_iff.mpr rfl] at hp
      cases hp

/-- The same `cam_obj`, `s_state` and handlers. -/
structure Keeps (s s' : EspCamera) : Prop where
  camObj : s'.camObj = s.camObj
  sState : s'.sState = s.sState
  isrHandler : s'.isrHandler = s.isrHandler

theorem Keeps.refl : Keeps s s := ⟨rfl, rfl, rfl⟩

theorem Keeps.trans {s₁ s₂ s₃ : EspCamera} (h : Keeps s₁ s₂) (h' : Keeps s₂ s₃) : Keeps s₁ s₃ :=
  ⟨h'.camObj.trans h.camObj, h'.sState.trans h.sState, h'.isrHandler.trans h.isrHandler⟩

theorem Sound.sccbInit (h : Sound others kept s) (hs : s.sState.isSome = true)
    (hown : s.sccbOwnsI2cPort = false) (hfree : others sccbI2cPortDefault = false) :
    Sound others kept (s.sccbInit r).2 ∧ Keeps s (s.sccbInit r).2 ∧
      (s.sccbInit r).2.ledcRunning = s.ledcRunning ∧
      ((s.sccbInit r).1 = espOk → (s.sccbInit r).2.i2cInstalled sccbI2cPortDefault = true ∧
        (s.sccbInit r).2.sccbI2cPort = sccbI2cPortDefault) := by
  have hdrivers : ∀ p, p ≠ sccbI2cPortDefault → s.i2cInstalled p = others p :=
    fun p _ => h.drivers p (by simp [hown])
  have hmarked : Sound others kept
      { s with sccbI2cPort := sccbI2cPortDefault, sccbOwnsI2cPort := true } :=
    { h with
      holds := h.holds
      port := fun _ => ⟨rfl, hfree, hs⟩
      drivers := fun p hp => hdrivers p fun he => hp ⟨rfl, he⟩ }
  unfold EspCamera.sccbInit
  dsimp only
  split
  · rename_i herr
    exact ⟨hmarked, ⟨rfl, rfl, rfl⟩, rfl, fun he => absurd he herr⟩
  split
  · exact ⟨hmarked, ⟨rfl, rfl, rfl⟩, rfl, fun he => by cases he⟩
  split
  · rename_i herr
    exact ⟨hmarked, ⟨rfl, rfl, rfl⟩, rfl, fun he => absurd he herr⟩
  · have hinstalled : Function.update s.i2cInstalled sccbI2cPortDefault true sccbI2cPortDefault
        = true := Function.update_self _ _ _
    refine ⟨{ hmarked with holds := h.holds, drivers := fun p hp => ?_ }, ⟨rfl, rfl, rfl⟩, rfl,
      fun _ => ⟨hinstalled, rfl⟩⟩
    have hne : p ≠ sccbI2cPortDefault := fun he => hp ⟨rfl, he⟩
    exact (Function.update_of_ne hne _ _).trans (hdrivers p hne)

theorem Sound.sccbUsePort (h : Sound others kept s) (i2cNum : ℤ)
    (hown : s.sccbOwnsI2cPort = false) :
    Sound others kept (s.sccbUsePort i2cNum).2 ∧ Keeps s (s.sccbUsePort i2cNum).2 ∧
      (s.sccbUsePort i2cNum).2.ledcRunning = s.ledcRunning ∧
      ((s.sccbUsePort i2cNum).1 = espOk → (s.sccbUsePort i2cNum).2.i2cInstalled = others ∧
        (s.sccbUsePort i2cNum).2.sccbI2cPort = i2cNum) := by
  unfold EspCamera.sccbUsePort EspCamera.sccbDeinit
  rw [hown]
  simp only [Bool.false_eq_true, if_false]
  split
  · exact ⟨h, .refl, rfl, fun he => by cases he⟩
  · refine ⟨{ h with holds := h.holds, port := fun ho => ?_ }, ⟨rfl, rfl, rfl⟩, rfl,
      fun _ => ⟨funext fun p => h.drivers p (by simp [hown]), rfl⟩⟩
    rw [hown] at ho
    cases ho

/-- The channels that `camera_enable_out_clock` starts, if the calls for it go well. -/
def clockChannels (config : EspCameraConfig) (r : InitResults) : LedcChannel → Bool :=
  if r.ledcTimerConfig && r.ledcChannelConfig then
    Function.update (fun _ => false) config.ledcChannel true
  else fun _ => false

theorem Sound.enableOutClock (h : Sound others kept s) (hs : s.sState.isSome = true)
    (hclock : s.gLedcChannel = none) :
    Sound others kept (s.cameraEnableOutClock config r) ∧
      Keeps s (s.cameraEnableOutClock config r) ∧
      (s.cameraEnableOutClock config r).sccbOwnsI2cPort = s.sccbOwnsI2cPort ∧
      (s.cameraEnableOutClock config r).ledcRunning = clockChannels config r := by
  have hstopped := ledcRunning_stopped h.clock hclock
  have hchannel : ∀ {channel : Option LedcChannel}, s.sState = none → channel = none :=
    fun hn => by rw [hn] at hs; cases hs
  unfold cameraEnableOutClock clockChannels
  cases r.ledcTimerConfig with
  | false => exact ⟨h, .refl, rfl, hstopped⟩
  | true =>
    cases r.ledcChannelConfig with
    | false =>
      refine ⟨{ h with holds := h.holds, clock := fun ch hrun => ?_, channel := hchannel },
        ⟨rfl, rfl, rfl⟩, rfl, hstopped⟩
      replace hrun : s.ledcRunning ch = true := hrun
      rw [hstopped] at hrun
      cases hrun
    | true =>
      refine ⟨{ h with holds := h.holds, clock := fun ch hrun => ?_, channel := hchannel },
        ⟨rfl, rfl, rfl⟩, rfl, ?_⟩
      · replace hrun : Function.update s.ledcRunning config.ledcChannel true ch = true := hrun
        by_cases he : ch = config.ledcChannel
        · rw [he]
          rfl
        · rw [Function.update_of_ne he, hstopped] at hrun
          cases hrun
      · show Function.update s.ledcRunning config.ledcChannel true = _
        rw [hstopped]
        rfl

/-- What has been started where `startBus` returns `ESP_OK`: the clock if it was asked for and the
    calls for it went well, and a port for the sensor, with its own driver if the pins are given. -/
structure BusStarted (others : ℤ → Bool) (config : EspCameraConfig) (r : InitResults)
    (s : EspCamera) : Prop where
  channels : s.ledcRunning = if config.pinXclk ≥ 0 then clockChannels config r else fun _ => false
  installed : config.pinSccbSda ≠ -1 →
    s.i2cInstalled sccbI2cPortDefault = true ∧ s.sccbI2cPort = sccbI2cPortDefault
  borrowed : config.pinSccbSda = -1 → s.i2cInstalled = others ∧ s.sccbI2cPort = config.sccbI2cPort

theorem Sound.startBus (h : Sound others kept s) (hs : s.sState.isSome = true)
    (hown : s.sccbOwnsI2cPort = false) (hclock : s.gLedcChannel = none)
    (hfree : config.pinSccbSda = -1 ∨ others sccbI2cPortDefault = false) :
    Sound others kept (s.startBus config r).2 ∧ Keeps s (s.startBus config r).2 ∧
      ((s.startBus config r).1 = espOk → BusStarted others config r (s.startBus config r).2) := by
  unfold EspCamera.startBus
  generalize hs₁ : (if config.pinXclk ≥ 0 then s.cameraEnableOutClock config r else s) = s₁
  obtain ⟨h₁, hk₁, hown₁, hrun₁⟩ : Sound others kept s₁ ∧ Keeps s s₁ ∧
      s₁.sccbOwnsI2cPort = s.sccbOwnsI2cPort ∧
      s₁.ledcRunning = if config.pinXclk ≥ 0 then clockChannels config r else fun _ => false := by
    rw [← hs₁]
    split
    · exact h.enableOutClock hs hclock
    · exact ⟨h, .refl, rfl, ledcRunning_stopped h.clock hclock⟩
  rw [hown] at hown₁
  dsimp only
  split
  · rename_i hpin
    obtain ⟨h₂, hk₂, hrun₂, hok⟩ :=
      h₁.sccbInit (r := r) (hk₁.sState ▸ hs) hown₁ (hfree.resolve_left hpin)
    exact ⟨h₂, hk₁.trans hk₂, fun he => ⟨hrun₂.trans hrun₁, fun _ => hok he,
      fun hno => absurd hno hpin⟩⟩
  · rename_i hpin
    obtain ⟨h₂, hk₂, hrun₂, hok⟩ := h₁.sccbUsePort config.sccbI2cPort hown₁
    exact ⟨h₂, hk₁.trans hk₂, fun he => ⟨hrun₂.trans hrun₁, fun hyes => absurd hyes hpin,
      fun _ => hok he⟩⟩

theorem Sound.disableOutClock (h : Sound others kept s) :
    Sound others kept s.cameraDisableOutClock ∧ Keeps s s.cameraDisableOutClock := by
  rw [cameraDisableOutClock_eq h.clock]
  refine ⟨{ h with holds := h.holds, clock := fun _ hrun => ?_, channel := fun _ => rfl },
    ⟨rfl, rfl, rfl⟩⟩
  cases hrun

/-- What else `s_state` says does not matter. -/
theorem Sound.setState (h : Sound others kept s) (hs : s.sState = some state) (state' : CameraState)
    (ha : state'.address = state.address) : Sound others kept { s with sState := some state' } := by
  refine
    { h with
      holds := ?_
      channel := fun hn => by cases hn
      port := fun ho => ⟨(h.port ho).1, (h.port ho).2.1, rfl⟩ }
  have hl := h.holds
  rw [blocks, hs, Option.map_some, ← ha] at hl
  exact hl

theorem Sound.findSensor (h : Sound others kept s) (hs : s.sState = some state) :
    ∃ err info s', s.findSensor r state = (err, info, s') ∧ Sound others kept s' ∧
      s'.camObj = s.camObj ∧
      (err = espOk → ∃ i state', info = some i ∧ s' = { s with sState := some state' } ∧
        i ∈ cameraSensor ∧ i.pid = state'.pid) := by
  unfold EspCamera.findSensor
  split
  · exact ⟨_, _, _, rfl, h.disableOutClock.1, h.disableOutClock.2.camObj, fun he => by cases he⟩
  cases hd : detectSensor 0 r.detected with
  | mk pid info =>
    have h' := h.setState hs { state with pid := pid } rfl
    cases info with
    | none => exact ⟨_, _, _, rfl, h'.disableOutClock.1, h'.disableOutClock.2.camObj,
        fun he => by cases he⟩
    | some i =>
      obtain ⟨hmem, hpid⟩ := detectSensor_some hd
      exact ⟨_, _, _, rfl, h', rfl, fun _ => ⟨i, _, rfl, rfl, hmem, hpid⟩⟩

/-- `camera_probe` leaves a sound state; if it succeeds, with a sensor of the table and a bus. -/
theorem Sound.cameraProbe (h : Sound others kept s) (hs : s.sState = none)
    (hfree : config.pinSccbSda = -1 ∨ others sccbI2cPortDefault = false) :
    ∃ err info s', s.cameraProbe config r = (err, info, s') ∧ Sound others kept s' ∧
      s'.camObj = s.camObj ∧
      (err = espOk → s'.isrHandler = s.isrHandler ∧ BusStarted others config r s' ∧
        ∃ i state, info = some i ∧ s'.sState = some state ∧ i ∈ cameraSensor ∧
          i.pid = state.pid) := by
  obtain ⟨hown, -⟩ := h.unowned hs
  unfold EspCamera.cameraProbe
  rw [if_neg (by simp [hs])]
  cases r.cameraState with
  | false => exact ⟨_, _, _, rfl, { h with holds := h.holds }, rfl, fun he => by cases he⟩
  | true =>
    have h₁ : Sound others kept
        { s with
          heap := s.heap.alloc .cameraState
          sState := some { address := s.heap.next } } := by
      refine
        { h with
          holds := ?_
          channel := fun hn => by cases hn
          port := fun ho => by rw [hown] at ho; cases ho }
      have hl := h.holds
      rw [blocks, hs, Option.map_none, Heap.owned_none, List.append_nil] at hl
      exact hl.alloc.perm (List.perm_append_singleton _ _).symm
    have hbus := h₁.startBus (r := r) rfl hown (h.channel hs) hfree
    simp only [Heap.acquire, if_true]
    revert hbus
    generalize EspCamera.startBus config r _ = bus
    rintro ⟨h₂, hk₂, hbus⟩
    split
    · rename_i hret
      exact ⟨_, _, _, rfl, h₂.disableOutClock.1, h₂.disableOutClock.2.camObj.trans hk₂.camObj,
        fun he => absurd he hret⟩
    · rename_i hret
      have hstarted := hbus (not_not.mp hret)
      obtain ⟨err, info, s', hfind, h', hc', hok⟩ := h₂.findSensor (r := r) hk₂.sState
      refine ⟨err, info, s', hfind, h', hc'.trans hk₂.camObj, fun he => ?_⟩
      obtain ⟨i, state, hinfo, hs', hmem, hpid⟩ := hok he
      rw [hs']
      exact ⟨hk₂.isrHandler, ⟨hstarted.channels, hstarted.installed, hstarted.borrowed⟩, i, state,
        hinfo, rfl, hmem, hpid⟩

/-! ## `cam_config` -/

theorem count_blocks (x : ℕ × Block) :
    cam.blocks.count x =
      (Heap.owned .camTask cam.taskHandle).count x + (Heap.owned .eventQueue cam.eventQueue).count x
        + (Heap.owned .frameBufferQueue cam.frameBufferQueue).count x
        + (Heap.owned .dmaDescriptors (cam.dma.map Prod.fst)).count x
        + (Heap.owned .dmaBuffer cam.dmaBuffer).count x
        + (frameBlocks ((cam.frames.map Prod.snd).getD [])).count x
        + (Heap.owned .frames (cam.frames.map Prod.fst)).count x
        + (Heap.owned .camIntr cam.camIntrHandle).count x
        + (Heap.owned .camObj (some cam.address)).count x := by
  simp only [CamObj.blocks, List.count_append]
  omega

/-- The blocks of the heap are those of the rest and of `cam_obj`, once one of its pointers that
    was null is set. -/
theorem holds_of_count {h : Heap Block} {cam' : CamObj} (new : List (ℕ × Block))
    (hl : h.Holds (new ++ (cam.blocks ++ l)))
    (hcount : ∀ x, cam'.blocks.count x = new.count x + cam.blocks.count x) :
    h.Holds (cam'.blocks ++ l) := by
  refine hl.perm (List.perm_iff_count.mpr fun x => ?_)
  simp only [List.count_append, hcount]
  omega

theorem allocFrameBuffers_holds {h : Heap Block} {x n : ℕ} (ok : ℕ → Bool) (hl : h.Holds l) :
    (allocFrameBuffers ok h x n).1.length = n ∧
      (allocFrameBuffers ok h x n).2.Holds (frameBlocks (allocFrameBuffers ok h x n).1 ++ l) := by
  induction n generalizing h x l with
  | zero => exact ⟨rfl, hl⟩
  | succ n ih =>
    rw [allocFrameBuffers]
    cases ok x with
    | false =>
      refine ⟨List.length_replicate, ?_⟩
      have hnone : frameBlocks (List.replicate (n + 1) none) = [] :=
        List.flatMap_eq_nil_iff.mpr fun buf hbuf => by rw [List.eq_of_mem_replicate hbuf]; rfl
      show h.Holds (frameBlocks (List.replicate (n + 1) none) ++ l)
      rw [hnone]
      exact hl
    | true =>
      obtain ⟨hlen, hl'⟩ := ih (x := x + 1) hl.alloc
      exact ⟨congrArg (· + 1) hlen, hl'.perm List.perm_middle⟩

/-- What `cam_dma_config` has filled in when it succeeds. -/
structure DmaConfigured (settings : CamSettings) (cam : CamObj) : Prop where
  frames : ∃ a bufs, cam.frames = some (a, bufs) ∧ bufs.length = settings.frameCnt ∧ none ∉ bufs
  dmaBuffer : cam.dmaBuffer.isSome = true
  dma : cam.dma.map Prod.snd = some (dmaDescriptors
    (settings.dma.dmaBufferSize / settings.dma.dmaNodeBufferSize) settings.dma.dmaNodeBufferSize)

theorem camDmaConfig_holds {h : Heap Block} (settings : CamSettings) (r : InitResults)
    (hl : h.Holds (cam.blocks ++ l)) (hframes : cam.frames = none) (hbuffer : cam.dmaBuffer = none)
    (hdma : cam.dma = none) :
    ∃ err cam' h', camDmaConfig settings r cam h = (err, cam', h') ∧ h'.Holds (cam'.blocks ++ l) ∧
      cam' = { cam with
        frames := cam'.frames
        dmaBuffer := cam'.dmaBuffer
        dma := cam'.dma } ∧
      (err = espOk → DmaConfigured settings cam') := by
  unfold camDmaConfig
  cases r.frames with
  | false => exact ⟨_, cam, _, rfl, hl, rfl, fun he => by cases he⟩
  | true =>
    simp only [Heap.acquire, if_true]
    obtain ⟨hlen, hl₁⟩ := allocFrameBuffers_holds (x := 0) (n := settings.frameCnt) r.frameBuffer
      (hl.alloc (b := Block.frames))
    revert hlen hl₁
    generalize allocFrameBuffers r.frameBuffer (h.alloc .frames) 0 settings.frameCnt = p
    obtain ⟨bufs, h₁⟩ := p
    rintro hlen hl₁
    dsimp only at hlen hl₁ ⊢
    have hl₂ : h₁.Holds (({ cam with frames := some (h.next, bufs) } : CamObj).blocks ++ l) := by
      have hl₁ : h₁.Holds (frameBlocks bufs ++ [(h.next, .frames)] ++ (cam.blocks ++ l)) := by
        rw [List.append_assoc]
        exact hl₁
      refine holds_of_count _ hl₁ fun x => ?_
      simp [count_blocks, hframes, frameBlocks]
      omega
    split
    · exact ⟨_, _, _, rfl, hl₂, by rw [hbuffer, hdma], fun he => by cases he⟩
    rename_i hsome
    have hbufs : none ∉ bufs := by simpa using hsome
    cases r.dmaBuffer with
    | false => exact ⟨_, _, _, rfl, hl₂, by rw [hbuffer, hdma], fun he => by cases he⟩
    | true =>
      have hl₃ : (h₁.alloc .dmaBuffer).Holds (({ cam with
          frames := some (h.next, bufs)
          dmaBuffer := some h₁.next } : CamObj).blocks ++ l) := by
        refine holds_of_count [(h₁.next, .dmaBuffer)] hl₂.alloc fun x => ?_
        simp [count_blocks, hbuffer]
        omega
      cases r.dmaDescriptors with
      | false => exact ⟨_, _, _, rfl, hl₃, by rw [hdma], fun he => by cases he⟩
      | true =>
        refine ⟨_, _, _, rfl, ?_, rfl, fun _ => ⟨⟨_, _, rfl, hlen, hbufs⟩, rfl, rfl⟩⟩
        refine holds_of_count [((h₁.alloc .dmaBuffer).next, .dmaDescriptors)] hl₃.alloc fun x => ?_
        simp [count_blocks, hdma]
        omega

/-- What the rest of `cam_config` has filled in when it succeeds; `createTask` is what became of the
    task. -/
structure QueuesConfigured (createTask : Bool) (cam : CamObj) : Prop where
  eventQueue : cam.eventQueue.isSome = true
  frameBufferQueue : cam.frameBufferQueue.isSome = true
  camIntr : cam.camIntrHandle.isSome = true
  task : cam.taskHandle.isSome = createTask

theorem camConfigRest_holds {h : Heap Block} (r : InitResults) (hl : h.Holds (cam.blocks ++ l))
    (hevents : cam.eventQueue = none) (hqueue : cam.frameBufferQueue = none)
    (hintr : cam.camIntrHandle = none) (htask : cam.taskHandle = none) :
    ∃ err cam' h', camConfigRest r cam h = (err, cam', h') ∧ h'.Holds (cam'.blocks ++ l) ∧
      cam' = { cam with
        eventQueue := cam'.eventQueue
        frameBufferQueue := cam'.frameBufferQueue
        camIntrHandle := cam'.camIntrHandle
        taskHandle := cam'.taskHandle } ∧
      (err = espOk → QueuesConfigured r.createTask cam') := by
  unfold camConfigRest
  cases r.eventQueue with
  | false => exact ⟨_, cam, _, rfl, hl, rfl, fun he => by cases he⟩
  | true =>
    have hl₁ : (h.alloc .eventQueue).Holds
        (({ cam with eventQueue := some h.next } : CamObj).blocks ++ l) := by
      refine holds_of_count [(h.next, .eventQueue)] hl.alloc fun x => ?_
      simp [count_blocks, hevents]
      omega
    cases r.frameBufferQueue with
    | false => exact ⟨_, _, _, rfl, hl₁, by rw [hqueue, hintr, htask], fun he => by cases he⟩
    | true =>
      have hl₂ : ((h.alloc .eventQueue).alloc .frameBufferQueue).Holds
          (({ cam with
            eventQueue := some h.next
            frameBufferQueue := some (h.next + 1) } : CamObj).blocks ++ l) := by
        refine holds_of_count [(h.next + 1, .frameBufferQueue)] hl₁.alloc fun x => ?_
        simp [count_blocks, hqueue]
        omega
      cases hok : decide (r.intrAlloc = espOk) with
      | false =>
        refine ⟨espFail, _, _, ?_, hl₂, by rw [hintr, htask], fun he => by cases he⟩
        simp only [Heap.acquire, if_true, Bool.false_eq_true, if_false]
        rfl
      | true =>
        have hl₃ : (((h.alloc .eventQueue).alloc .frameBufferQueue).alloc .camIntr).Holds
            (({ cam with
              eventQueue := some h.next
              frameBufferQueue := some (h.next + 1)
              camIntrHandle := some (h.next + 2) } : CamObj).blocks ++ l) := by
          refine holds_of_count [(h.next + 2, .camIntr)] hl₂.alloc fun x => ?_
          simp [count_blocks, hintr]
          omega
        -- the task may be missing
        cases r.createTask with
        | false =>
          refine ⟨espOk, _, _, rfl, ?_, rfl, fun _ => ⟨rfl, rfl, rfl, rfl⟩⟩
          rw [← htask]
          exact hl₃
        | true =>
          have hl₄ : ((((h.alloc .eventQueue).alloc .frameBufferQueue).alloc .camIntr).alloc
              .camTask).Holds
              (({ cam with
                eventQueue := some h.next
                frameBufferQueue := some (h.next + 1)
                camIntrHandle := some (h.next + 2)
                taskHandle := some (h.next + 3) } : CamObj).blocks ++ l) := by
            refine holds_of_count [(h.next + 3, .camTask)] hl₃.alloc fun x => ?_
            simp [count_blocks, htask]
            omega
          exact ⟨espOk, _, _, rfl, hl₄, rfl, fun _ => ⟨rfl, rfl, rfl, rfl⟩⟩

/-- What `cam_obj` is when `cam_config` succeeds. -/
structure Configured (config : EspCameraConfig) (size : Framesize) (pid : ℕ) (createTask : Bool)
    (cam : CamObj) : Prop extends QueuesConfigured createTask cam where
  vsyncPin : cam.vsyncPin = config.pinVsync
  settings : ∃ settings, cam.settings = some settings ∧ DmaConfigured settings cam ∧
    camSettings config.toCameraConfig (resolution size).1 (resolution size).2 pid = .ok settings

/-- The blocks of `cam_obj` have changed, with its pointers; the rest is as it was. -/
theorem Sound.setCamObj (h : Sound others kept s) (hc : s.camObj = some cam) {cam' : CamObj}
    {heap : Heap Block} (hpin : cam'.vsyncPin = cam.vsyncPin) (haddr : cam'.address = cam.address)
    (hl : heap.Holds
      (cam'.blocks ++ Heap.owned .cameraState (s.sState.map CameraState.address))) :
    Sound others kept { s with heap := heap, camObj := some cam' } := by
  refine { h with holds := hl, handler := ?_, interrupt := fun p hp => ?_, dma := fun _ => rfl }
  · refine h.handler.imp_left fun hreg => ?_
    rw [hc, handlers, ← hpin, ← haddr] at hreg
    exact hreg
  · have := h.interrupt p hp
    rw [hc, Option.map_some, ← hpin] at this
    exact this

theorem Sound.camConfig {address : ℕ} (h : Sound others kept s) (size : Framesize) (pid : ℕ)
    (r : InitResults)
    (hc : s.camObj = some { address := address, vsyncPin := config.pinVsync })
    (hformat : config.pixelFormat ∈ [.rgb565, .yuv422, .grayscale, .jpeg]) :
    ∃ err s', s.camConfig config size pid r = some (err, s') ∧ Sound others kept s' ∧
      s'.sState = s.sState ∧
      (err = espOk → ∃ cam, s' = { s with heap := s'.heap, camObj := some cam } ∧
        cam.address = address ∧ Configured config size pid r.createTask cam) := by
  have hdown : ∀ {s₁ : EspCamera}, Sound others kept s₁ → s₁.sState = s.sState →
      ∃ err s', s₁.camDeinit.map (fun p => (espFail, p.2)) = some (err, s') ∧ Sound others kept s' ∧
        s'.sState = s.sState ∧
        (err = espOk → ∃ cam, s' = { s with heap := s'.heap, camObj := some cam } ∧
          cam.address = address ∧ Configured config size pid r.createTask cam) := by
    intro s₁ h₁ hs₁
    obtain ⟨s', he, h', -, hs'⟩ := h₁.camDeinit
    exact ⟨espFail, s', by rw [he]; rfl, h', hs'.trans hs₁, fun he => by cases he⟩
  unfold EspCamera.camConfig
  rw [hc]
  dsimp only
  rcases camSettings_supported config.toCameraConfig size pid hformat with
    hset | ⟨settings, -, hset, -, hcnt, -⟩
  · rw [hset]
    exact hdown h rfl
  rw [hset]
  dsimp only
  have hl : s.heap.Holds
      (({ address := address, vsyncPin := config.pinVsync, settings := some settings } :
          CamObj).blocks ++ Heap.owned .cameraState (s.sState.map CameraState.address)) := by
    have hl := h.holds
    rw [blocks, hc] at hl
    exact hl
  obtain ⟨err, cam₁, heap₁, he₁, hl₁, hcam₁, hok₁⟩ := camDmaConfig_holds settings r hl rfl rfl rfl
  have h₁ : Sound others kept { s with heap := heap₁, camObj := some cam₁ } :=
    h.setCamObj hc (by rw [hcam₁]) (by rw [hcam₁]) hl₁
  rw [he₁]
  dsimp only
  split
  · exact hdown h₁ rfl
  rename_i herr
  obtain ⟨hframes, hbuffer, hdma⟩ := hok₁ (not_not.mp herr)
  obtain ⟨err₂, cam₂, heap₂, he₂, hl₂, hcam₂, hok₂⟩ := camConfigRest_holds r hl₁ (by rw [hcam₁])
    (by rw [hcam₁]) (by rw [hcam₁]) (by rw [hcam₁])
  have h₂ : Sound others kept { s with heap := heap₂, camObj := some cam₂ } :=
    h₁.setCamObj rfl (by rw [hcam₂]) (by rw [hcam₂]) hl₂
  rw [he₂]
  dsimp only
  split
  · exact hdown h₂ rfl
  rename_i herr₂
  refine ⟨espOk, _, rfl, h₂, rfl, fun _ => ⟨cam₂, rfl, by rw [hcam₂, hcam₁],
    { hok₂ (not_not.mp herr₂) with
      vsyncPin := ?_
      settings := ⟨settings, ?_, ⟨?_, ?_, ?_⟩, hset⟩ }⟩⟩
  · rw [hcam₂, hcam₁]
  · rw [hcam₂, hcam₁]
  · rw [hcam₂]
    exact hframes
  · rw [hcam₂]
    exact hbuffer
  · rw [hcam₂]
    exact hdma

/-! ## `esp_camera_init` -/

/-- The frame size the sensor is set to. -/
def frameSizeFor (config : EspCameraConfig) (i : CameraSensorInfo) : Framesize :=
  if config.frameSize.ctorIdx > i.maxSize.ctorIdx then i.maxSize else config.frameSize

/-- The camera is there; `config` is what it was initialised with and `r` what the calls returned.
    Everything is there whose absence is an error: the blocks of `cam_obj` and `s_state`, the
    interrupts and a sensor on its bus. The task, the handler and the clock are there if the calls
    for them went well. -/
structure Up (others : ℤ → Bool) (kept : Lasting) (config : EspCameraConfig) (r : InitResults)
    (s : EspCamera) : Prop extends Sound others kept s, BusStarted others config r s where
  configured : ∃ cam state i, s.camObj = some cam ∧ s.sState = some state ∧ i ∈ cameraSensor ∧
    state.pid = i.pid ∧ state.framesize = frameSizeFor config i ∧
    state.pixformat = config.pixelFormat ∧ (config.pixelFormat = .jpeg → i.supportJpeg = true) ∧
    Configured config (frameSizeFor config i) i.pid r.createTask cam
  registered : HandlerAdded kept r s
  started : s.intrEnabled config.pinVsync = true

theorem Up.camObj_isSome (h : Up others kept config r s) : s.camObj.isSome = true := by
  obtain ⟨cam, _, _, hc, -⟩ := h.configured
  rw [hc]
  rfl

/-- All or nothing, with the result that says which. -/
def InitReturns (others : ℤ → Bool) (kept : Lasting) (config : EspCameraConfig) (r : InitResults)
    (err : EspErr) (s : EspCamera) : Prop :=
  err = espOk ∧ Up others kept config r s ∨ err ≠ espOk ∧ Down others kept s

theorem Sound.fail_returns (h : Sound others kept s) (he : err ≠ espOk) :
    ∃ err' s', s.fail err = some (err', s') ∧ InitReturns others kept config r err' s' := by
  obtain ⟨s', hs, hd⟩ := h.fail err
  exact ⟨err, s', hs, Or.inr ⟨he, hd⟩⟩

theorem Sound.camStart (h : Sound others kept s) (hc : s.camObj = some cam) :
    s.camStart = some
        { s with intrEnabled := Function.update s.intrEnabled cam.vsyncPin true } ∧
      Sound others kept
        { s with intrEnabled := Function.update s.intrEnabled cam.vsyncPin true } := by
  refine ⟨by rw [EspCamera.camStart, hc]; rfl,
    { h with holds := h.holds, interrupt := fun p hp => ?_ }⟩
  replace hp : Function.update s.intrEnabled cam.vsyncPin true p = true := hp
  by_cases hpin : p = cam.vsyncPin
  · rw [hc, hpin]
    rfl
  · rw [Function.update_of_ne hpin] at hp
    exact h.interrupt p hp

theorem Sound.configureSensor {address : ℕ} {i : CameraSensorInfo} (h : Sound others kept s)
    (hc : s.camObj = some { address := address, vsyncPin := config.pinVsync })
    (hs : s.sState = some state) (hmem : i ∈ cameraSensor) (hpid : i.pid = state.pid)
    (hformat : config.pixelFormat ∈ [.rgb565, .yuv422, .grayscale, .jpeg])
    (hbus : BusStarted others config r s) (hreg : HandlerAdded kept r s) :
    ∃ err s', s.configureSensor config r i = some (err, s') ∧
      InitReturns others kept config r err s' := by
  unfold EspCamera.configureSensor
  split
  · exact h.fail_returns (by decide)
  rename_i hjpeg
  obtain ⟨err, s₁, he, h₁, hs₁, hok⟩ :=
    h.camConfig (frameSizeFor config i) state.pid r hc hformat
  rw [hs]
  dsimp only
  rw [show s.camConfig config (if config.frameSize.ctorIdx > i.maxSize.ctorIdx then i.maxSize
    else config.frameSize) state.pid r = some (err, s₁) from he]
  dsimp only
  split
  · exact h₁.fail_returns ‹_›
  rename_i herr
  obtain ⟨cam, hcam, haddr, hconf⟩ := hok (not_not.mp herr)
  have h₂ := h₁.setState (hs₁.trans hs)
    { state with framesize := frameSizeFor config i, pixformat := config.pixelFormat } rfl
  split
  · exact h₂.fail_returns (by decide)
  obtain ⟨he₃, h₃⟩ := h₂.camStart (show _ = some cam by rw [hcam])
  -- what the bus and the handlers were before `cam_config`, they still are
  have hreg' : s.isrHandler =
      if kept.isrService && r.isrHandlerAdd then handlers (some cam) else fun _ => none := by
    rw [HandlerAdded, hc, handlers, ← hconf.vsyncPin, ← haddr] at hreg
    exact hreg
  refine ⟨espOk, _, by rw [← frameSizeFor, he₃]; rfl, Or.inl ⟨rfl, { h₃ with
    channels := by rw [hcam]; exact hbus.channels
    installed := by rw [hcam]; exact hbus.installed
    borrowed := by rw [hcam]; exact hbus.borrowed
    configured := ⟨cam, _, i, by rw [hcam], rfl, hmem, hpid.symm, rfl, rfl, fun hj => ?_,
      hpid ▸ hconf⟩
    registered := by rw [HandlerAdded, hcam]; exact hreg'
    started := hconf.vsyncPin ▸ Function.update_self _ _ _ }⟩⟩
  by_contra hsup
  exact hjpeg ⟨hj, by simpa using hsup⟩

theorem Down.init (hd : Down others kept s)
    (hformat : config.pixelFormat ∈ [.rgb565, .yuv422, .grayscale, .jpeg])
    (hfree : config.pinSccbSda = -1 ∨ others sccbI2cPortDefault = false) (r : InitResults) :
    ∃ err s', s.espCameraInit config r = some (err, s') ∧
      InitReturns others (kept.afterInit r) config r err s' := by
  unfold espCameraInit
  rcases hd.camInit with ⟨s', he, hd'⟩ | ⟨s₁, address, he, h₁, hs₁, hc₁, hreg⟩
  · rw [he]
    exact ⟨espErrNoMem, s', rfl, Or.inr ⟨by decide, hd'⟩⟩
  rw [he]
  obtain ⟨err, info, s₂, he₂, h₂, hc₂, hok⟩ := h₁.cameraProbe hs₁ hfree
  simp only [ne_eq, not_true_eq_false, if_false]
  rw [he₂]
  dsimp only
  split
  · exact h₂.fail_returns ‹_›
  rename_i herr
  obtain ⟨hisr, hbus, i, state, rfl, hs₂, hmem, hpid⟩ := hok (not_not.mp herr)
  refine h₂.configureSensor (hc₂.trans hc₁) hs₂ hmem hpid hformat hbus ?_
  rw [HandlerAdded, hisr, hc₂]
  exact hreg

/-! ## Runs -/

/-- The camera is down or up. -/
def Settled (others : ℤ → Bool) (s : EspCamera) : Prop :=
  Down others s.lasting s ∨ ∃ config r, Up others s.lasting config r s

theorem Down.lasting (hd : Down others kept s) : s.lasting = kept := hd.sound.lasting

namespace Settled

theorem sound (h : Settled others s) : Sound others s.lasting s := by
  rcases h with hd | ⟨_, _, hu⟩
  · exact hd.sound
  · exact hu.toSound

theorem of_down (hd : Down others kept s) : Settled others s := Or.inl (hd.lasting.symm ▸ hd)

theorem of_returns (h : InitReturns others kept config r err s) : Settled others s := by
  rcases h with ⟨-, hu⟩ | ⟨-, hd⟩
  · exact Or.inr ⟨_, _, hu.toSound.lasting.symm ▸ hu⟩
  · exact of_down hd

theorem init (h : Settled others s) (hp : asDocumented s (.init config r) = true) :
    ∃ err s', s.espCameraInit config r = some (err, s') ∧
      InitReturns others (s.lasting.afterInit r) config r err s' := by
  simp only [asDocumented, Bool.and_eq_true, decide_eq_true_eq, Bool.or_eq_true,
    Bool.not_eq_true'] at hp
  obtain ⟨⟨hnone, hformat⟩, hport⟩ := hp
  rcases h with hd | ⟨_, _, hu⟩
  · have hdrivers : s.i2cInstalled = others := by rw [hd.2]; rfl
    exact hd.init hformat (hdrivers ▸ hport) r
  · have hsome := hu.camObj_isSome
    rw [Option.isNone_iff_eq_none.mp hnone] at hsome
    cases hsome

theorem dma {running : Bool} (h : Settled others s) (hc : s.camObj.isSome = true) :
    Settled others { s with dmaRunning := running } := by
  rcases h with hd | ⟨config, r, hu⟩
  · rw [hd.2] at hc
    cases hc
  · exact Or.inr ⟨config, r, { hu with holds := hu.holds, dma := fun _ => hc }⟩

theorem step {call : CameraCall} {es : List CameraReturn} (h : Settled others s)
    (hp : asDocumented s call = true) (hs : s.step call = some (s', es)) : Settled others s' := by
  cases call with
  | init config r =>
    obtain ⟨err, s₁, he, hret⟩ := h.init hp
    rw [EspCamera.step, he] at hs
    cases hs
    exact of_returns hret
  | deinit =>
    obtain ⟨s₁, he, hd⟩ := h.sound.deinit
    rw [EspCamera.step, he] at hs
    cases hs
    exact of_down hd
  | dma running =>
    rw [EspCamera.step] at hs
    split at hs
    · cases hs
      exact h.dma ‹_›
    · cases hs

end Settled

theorem CameraRun.settled {tr : List CameraReturn}
    (h : CameraRun asDocumented (boot others) tr s) : Settled others s := by
  induction h with
  | start => exact Or.inl ⟨rfl, rfl⟩
  | step _ hp hs ih => exact ih.step hp hs

/-- **All or nothing, but for what stays.** Whatever the system refuses and whenever, as long as the
    camera is not initialised twice, its pixel format is one of the four that can be sampled and the
    default I2C port is not taken from somebody else: between the calls the camera is down or up.
    `esp_camera_init` returns `ESP_OK` exactly if it is up afterwards, and `esp_camera_deinit` takes
    it down. Nothing is given back twice, and no null pointer followed. The ISR service and the I2S0
    module stay: each `esp_camera_init` that gets as far as a `cam_obj` asks for them, whatever it
    returns, and `esp_camera_deinit` leaves them as they are. -/
theorem camera_up_or_down (others : ℤ → Bool) {tr : List CameraReturn} {s : EspCamera}
    (h : CameraRun asDocumented (boot others) tr s) :
    Settled others s ∧
      (∀ config r, asDocumented s (.init config r) = true →
        ∃ err s', s.step (.init config r) = some (s', [.init err]) ∧
          InitReturns others (s.lasting.afterInit r) config r err s') ∧
      ∃ s', s.step .deinit =
          some (s', [.deinit (if s.camObj.isSome then espOk else espFail)]) ∧
        Down others s.lasting s' := by
  have hs := CameraRun.settled h
  refine ⟨hs, fun config r hp => ?_, ?_⟩
  · obtain ⟨err, s', he, hret⟩ := hs.init hp
    exact ⟨err, s', by rw [step, he]; rfl, hret⟩
  · obtain ⟨s', he, hd⟩ := hs.sound.deinit
    exact ⟨s', by rw [step, he]; rfl, hd⟩

/-- The system has everything, and the sensor is an OV2640. -/
def granted : InitResults where
  camObj := true
  installIsrService := true
  isrHandlerAdd := true
  cameraState := true
  ledcTimerConfig := true
  ledcChannelConfig := true
  i2cParamConfig := espOk
  i2cDriverInstall := espOk
  acknowledged := fun model => model = .ov2640
  detected := [none, none, some 0x26]
  reset := espOk
  frames := true
  frameBuffer := fun _ => true
  dmaBuffer := true
  dmaDescriptors := true
  eventQueue := true
  frameBufferQueue := true
  intrAlloc := espOk
  createTask := true
  setFramesize := 0

/-- There is memory for one frame only. -/
def oneFrame : InitResults := { granted with frameBuffer := fun x => x = 0 }

/-- The camera goes up and down, then there is too little memory. The next attempt starts from a
    camera that is down, with the service there and the module enabled twice. -/
theorem camera_up_or_down_again :
    ∃ tr s, CameraRun asDocumented (boot fun _ => false) tr s ∧
      tr = [.init espFail, .deinit espOk, .init espOk] ∧
      s.lasting = { isrService := true, i2s0Enabled := 2 } ∧
      ∃ err s', s.step (.init cameraConfig granted) = some (s', [.init err]) ∧
        InitReturns (fun _ => false) (s.lasting.afterInit granted) cameraConfig granted err s' := by
  have hrun : ∃ s, exec step asDocumented
      [.init cameraConfig granted, .dma true, .deinit, .init cameraConfig oneFrame]
      (boot fun _ => false) [] = some (s, [.init espFail, .deinit espOk, .init espOk]) ∧
        asDocumented s (.init cameraConfig granted) = true ∧
        s.lasting = { isrService := true, i2s0Enabled := 2 } := by
    refine ⟨_, rfl, rfl, rfl⟩
  obtain ⟨s, hexec, hp, hlasting⟩ := hrun
  have h := run_of_exec .start hexec
  exact ⟨_, s, h, rfl, hlasting, (camera_up_or_down _ h).2.1 cameraConfig granted hp⟩

/-! ## A second call -/

end EspCamera
end Esp32Eye
