import Esp32Eye.Proof.EspCamera
import Esp32Eye.Proof.Startup

/-!
# What the tasks find of the camera

`app_main` starts the tasks only with a camera that is up, and what `cam_config` has made of the
configuration of the application is a configuration that the model of the driver runs with: JPEG,
two frames of SVGA, and a queue that has room for both. Whether `cam_task`, the clock and the
handler of the vertical sync are there is another matter: `esp_camera_init` does not look.
-/

namespace Esp32Eye

open Lib EspCamera

/-- Every sensor that can do JPEG can do SVGA. -/
theorem frameSizeFor_app {i : CameraSensorInfo} (hi : i ∈ cameraSensor)
    (hjpeg : i.supportJpeg = true) : frameSizeFor cameraConfig i = .svga := by
  revert i
  decide

/-- What the settings of this application are. -/
theorem camSettings_app {sensorPid : ℕ} {s : CamSettings}
    (h : camSettings cameraConfig.toCameraConfig (resolution .svga).1 (resolution .svga).2 sensorPid
      = .ok s) :
    ∃ c : CamConfig, c.toCamSettings = s ∧ c.jpegMode = true ∧ c.frameCnt = 2 ∧
      c.frameBufferQueueLen = 2 ∧ c.fbSize = 96000 := by
  obtain ⟨pixels, hfits, hcnt, hmode, -⟩ := camSettings_ok h
  obtain ⟨c, hc⟩ := hfits.exists_camConfig (hcnt ▸ (by decide))
  refine ⟨c, hc, ?_⟩
  cases h
  rw [hc]
  exact ⟨rfl, rfl, rfl, rfl⟩

/-- What the driver has when the camera of this application is up. -/
theorem EspCamera.Up.app {others : ℤ → Bool} {kept : Lasting} {r : InitResults} {s : EspCamera}
    (h : Up others kept cameraConfig r s) :
    ∃ (c : CamConfig) (cam : CamObj), s.camObj = some cam ∧ cam.settings = some c.toCamSettings ∧
      c.jpegMode = true ∧ c.frameCnt = 2 ∧ c.frameBufferQueueLen = 2 ∧ c.fbSize = 96000 := by
  obtain ⟨cam, state, i, hc, -, hi, -, -, -, hjpeg, hconf⟩ := h.configured
  obtain ⟨settings, hset, -, hok⟩ := hconf.settings
  rw [frameSizeFor_app hi (hjpeg rfl)] at hok
  obtain ⟨c, hcs, hc'⟩ := camSettings_app hok
  exact ⟨c, cam, hc, hcs ▸ hset, hc'⟩

/-- **No task without a camera.** Whatever `wifi_init` returned, whatever the system refuses to
    `camera_init` and `server_start`: `app_main` comes to an end. Without a network it has not asked
    for a camera; with one it leaves the camera up or down, and it creates tasks exactly if the
    camera is up, with what the driver runs on. -/
theorem App.tasks_find_camera (others : ℤ → Bool) (hfree : others sccbI2cPortDefault = false)
    (wifiInit : Status) (camera : InitResults) (server : StartResults) :
    ∃ calls s,
      App.mainWithCamera wifiInit camera server (EspCamera.boot others) = some (calls, s) ∧
      (wifiInit ≠ .success ∧ calls = [] ∧ s = EspCamera.boot others ∨
        wifiInit = .success ∧ calls = [] ∧ Down others (Lasting.afterInit camera {}) s ∨
        calls = App.run server ∧ wifiInit = .success ∧
          Up others (Lasting.afterInit camera {}) cameraConfig camera s ∧
          ∃ (c : CamConfig) (cam : CamObj), s.camObj = some cam ∧
            cam.settings = some c.toCamSettings ∧ c.jpegMode = true ∧ c.frameCnt = 2 ∧
            c.frameBufferQueueLen = 2 ∧ c.fbSize = 96000) := by
  have hdown : Down others {} (EspCamera.boot others) := ⟨rfl, rfl⟩
  unfold App.mainWithCamera
  split
  · rename_i hwifi
    exact ⟨_, _, rfl, Or.inl ⟨hwifi, rfl, rfl⟩⟩
  rename_i hwifi
  rw [not_not] at hwifi
  obtain ⟨err, s, he, hret⟩ : ∃ err s,
      (EspCamera.boot others).espCameraInit cameraConfig camera = some (err, s) ∧
        InitReturns others (Lasting.afterInit camera {}) cameraConfig camera err s :=
    hdown.init (by decide) (Or.inr hfree) camera
  rw [cameraInit, he]
  rcases hret with ⟨rfl, hu⟩ | ⟨herr, hd⟩
  · refine ⟨_, s, rfl, Or.inr (Or.inr ⟨?_, hwifi, hu, hu.app⟩)⟩
    rw [hwifi]
    rfl
  · refine ⟨_, s, rfl, Or.inr (Or.inl ⟨hwifi, ?_, hd⟩)⟩
    rw [hwifi, if_pos herr]
    rfl

/-- With everything granted the six tasks start, and there are two frames. -/
theorem App.tasks_find_camera_granted :
    ∃ calls s cam, App.mainWithCamera .success granted ⟨54, 7, 55, 0, 56, 0, 0⟩
        (EspCamera.boot fun _ => false) = some (calls, s) ∧
      calls.length = 7 ∧ s.camObj = some cam ∧
      cam.settings.map CamSettings.frameCnt = some 2 := by
  have hlen : (App.mainWithCamera .success granted ⟨54, 7, 55, 0, 56, 0, 0⟩
      (EspCamera.boot fun _ => false)).map (fun r => r.1.length) = some 7 := rfl
  obtain ⟨calls, s, he, h⟩ :=
    App.tasks_find_camera (fun _ => false) rfl .success granted ⟨54, 7, 55, 0, 56, 0, 0⟩
  rw [he] at hlen
  rcases h with ⟨-, rfl, -⟩ | ⟨-, rfl, -⟩ | ⟨-, -, -, c, cam, hc, hset, -, hcnt, -⟩
  · cases hlen
  · cases hlen
  · exact ⟨calls, s, cam, he, Option.some.inj hlen, hc, by rw [hset, Option.map_some, hcnt]⟩

end Esp32Eye
