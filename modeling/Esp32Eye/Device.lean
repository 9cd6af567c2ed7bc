import Esp32Eye.Driver
import Esp32Eye.System

/-!
# The tasks on top of the camera driver

`System` leaves open what `esp_camera_fb_get` returns, and `Driver` leaves open who calls it.
`Device` closes both: the capture task is the one that calls `esp_camera_fb_get`, and what it gets
is what `cam_take` returns; the recycle task is the one that calls `esp_camera_fb_return`, with the
pointer it has. These two are steps of both sides at once. Every other step is one of the tasks', or
one of the DMA, of an interrupt handler, of `cam_task` or within `cam_take`.

A `camera_fb_t*` is the number of the frame it is part of.
-/

namespace Esp32Eye

open Lib

structure Device (c : CamConfig) where
  system : System
  driver : Driver c

inductive DeviceAction
  | system (a : Action)
  | driver (a : DriverAction)

inductive DeviceEvent (n : ℕ)
  | system (e : Event)
  | driver (e : DriverEvent n)

namespace DeviceEvent

variable {n : ℕ}

def system? : DeviceEvent n → Option Event
  | .system e => some e
  | .driver _ => none

def driver? : DeviceEvent n → Option (DriverEvent n)
  | .system _ => none
  | .driver e => some e

end DeviceEvent

/-- What `esp_camera_fb_get` returns to the capture task, if it returns with these events. -/
def fbGetResult {n : ℕ} : List (DriverEvent n) → Option (Option (ℕ × List UInt8))
  | [.handedOut x bytes] => some (some (x.val, bytes))
  | [.gaveUp] => some none
  | _ => none

def CapturePc.inFbGet : CapturePc → Bool
  | .fbGet _ => true
  | _ => false

namespace Device

variable {c : CamConfig}

/-- A step of the tasks. -/
def systemStep (d : Device c) : Action → Option (Device c × List (DeviceEvent c.frameCnt))
  -- this comes with the step of the driver that returns
  | .pipeline (.capture (.fbGet _)) => none
  | .pipeline .recycle =>
      match d.system.step (.pipeline .recycle), d.system.pipeline.recycle with
      | none, _ => none
      | some (s, es), .receive => some ({ d with system := s }, es.map .system)
      | some (s, es), .fbReturn fb =>
          let (driver, fs) := d.driver.give fb.address
          some ({ system := s, driver := driver }, fs.map .driver ++ es.map .system)
  | a => (d.system.step a).map fun (s, es) => ({ d with system := s }, es.map .system)

/-- A step of the driver. -/
def driverStep (d : Device c) (a : DriverAction) :
    Option (Device c × List (DeviceEvent c.frameCnt)) :=
  match d.driver.step a with
  | none => none
  | some (driver, es) =>
      match fbGetResult es with
      | none => some ({ d with driver := driver }, es.map .driver)
      | some result =>
          (d.system.step (.pipeline (.capture (.fbGet result)))).map fun (s, fs) =>
            ({ system := s, driver := driver }, fs.map .system ++ es.map .driver)

def step (d : Device c) : DeviceAction → Option (Device c × List (DeviceEvent c.frameCnt))
  | .system a => d.systemStep a
  -- these are calls of the tasks
  | .driver (.give _) => none
  | .driver (.take .call) =>
      if d.system.pipeline.capture.inFbGet then d.driverStep (.take .call) else none
  | .driver a => d.driverStep a

/-- The tasks as `app_run` leaves them, the driver as `esp_camera_init` does. -/
def boot (b : System.Boot) (c : CamConfig) (buf : Fin c.frameCnt → ℕ → UInt8)
    (cells : ℕ → DmaElem) : Device c where
  system := System.appRun b
  driver := Driver.init c buf cells

/-- A contract for the tasks and one for the driver. -/
def within (p : System → Action → Bool) (q : Driver c → DriverAction → Bool) (d : Device c) :
    DeviceAction → Bool
  | .system a => p d.system a
  | .driver a => q d.driver a

/-- A run of the device under a contract. -/
abbrev DeviceRun (p : Device c → DeviceAction → Bool) (d₀ : Device c) :
    List (DeviceEvent c.frameCnt) → Device c → Prop :=
  Run (StepOf step) (fun d a => p d a = true) d₀

/-- What the tasks show of a trace. -/
def systemTrace {n : ℕ} (tr : List (DeviceEvent n)) : List Event :=
  tr.filterMap DeviceEvent.system?

/-- What the driver shows of a trace. -/
def driverTrace {n : ℕ} (tr : List (DeviceEvent n)) : List (DriverEvent n) :=
  tr.filterMap DeviceEvent.driver?

end Device
end Esp32Eye
