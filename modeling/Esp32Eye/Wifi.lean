import Esp32Eye.Lib.EventGroup
import Esp32Eye.Lib.Run

/-!
# `main/network/wifi.c`: the event handler, and the life of its registration

`wifi_event_handler` is a function on the static variables of the file, the event group behind its
handle, and the number of times `esp_wifi_connect` was called. `wifi_init` is a program of a few
points at any of which the event loop's own task may deliver an event. An event reaches the
handler only through a registration that it matches, and `wifi_init` takes both registrations back
before it returns: what is delivered afterwards, for as long as the program runs, finds no handler.

The calls of `wifi_init` that are wrapped in `ESP_ERROR_CHECK` are taken to succeed, since the
program is aborted otherwise.
-/

namespace Esp32Eye

open Lib

/-- `status_t`. -/
inductive Status
  | success
  | wifiInitializationFailed
  | cameraInitializationFailed
  | serverInitializationFailed
  deriving DecidableEq, Repr

/-! ## Events -/

/-- `esp_event_base_t`: the two bases of the file, and every other one. -/
inductive EspEventBase
  | wifi
  | ip
  | other (base : ℕ)
  deriving DecidableEq, Repr

structure EspEvent where
  base : EspEventBase
  id : ℤ
  deriving DecidableEq, Repr

def wifiEventStaStart : ℤ := 2
def wifiEventStaDisconnected : ℤ := 5
def ipEventStaGotIp : ℤ := 0

namespace EspEvent

def isStaStart (e : EspEvent) : Bool := e.base == .wifi && e.id == wifiEventStaStart
def isStaDisconnected (e : EspEvent) : Bool := e.base == .wifi && e.id == wifiEventStaDisconnected
def isStaGotIp (e : EspEvent) : Bool := e.base == .ip && e.id == ipEventStaGotIp

end EspEvent

/-! ## The handler -/

def wifiConnectedBit : EventBits := 1
def wifiFailBit : EventBits := 2
def maxRetryCount : ℕ := 5

/-- The static variables of `wifi.c`, and the calls of `esp_wifi_connect` so far. -/
structure Wifi where
  retryNum : ℕ := 0
  eventGroup : EventBits := 0
  connects : ℕ := 0
  deriving DecidableEq, Repr

namespace Wifi

/-- `esp_wifi_connect`. -/
def connect (w : Wifi) : Wifi := { w with connects := w.connects + 1 }

/-- `wifi_event_handler`. -/
def eventHandler (e : EspEvent) (w : Wifi) : Wifi :=
  if e.isStaStart then w.connect
  else if e.isStaDisconnected then
    if w.retryNum < maxRetryCount then { w.connect with retryNum := w.retryNum + 1 }
    else { w with eventGroup := w.eventGroup.setBits wifiFailBit }
  else if e.isStaGotIp then
    { w with retryNum := 0, eventGroup := w.eventGroup.setBits wifiConnectedBit }
  else w

/-- What `wifi_init` makes of the bits its wait returned. -/
def initStatus (bits : EventBits) : Status :=
  if bits &&& wifiConnectedBit ≠ 0 then .success
  else if bits &&& wifiFailBit ≠ 0 then .wifiInitializationFailed
  else .wifiInitializationFailed

end Wifi

/-! ## `wifi_init` and what comes after it -/

inductive WifiInitPc
  /-- before `xEventGroupCreate` -/
  | create
  /-- about to register the handler for any `WIFI_EVENT` -/
  | registerWifi
  /-- about to register it for `IP_EVENT_STA_GOT_IP` -/
  | registerIp
  /-- about to call `esp_wifi_start` -/
  | start
  /-- at `xEventGroupWaitBits` -/
  | wait
  | unregisterIp (status : Status)
  | unregisterWifi (status : Status)
  /-- about to delete the event group and return -/
  | delete (status : Status)
  /-- `wifi_init` has returned and the rest of the program runs -/
  | returned (status : Status)
  deriving DecidableEq, Repr

structure WifiProgram where
  pc : WifiInitPc := .create
  /-- the registration for `WIFI_EVENT`, `ESP_EVENT_ANY_ID` -/
  wifiHandler : Bool := false
  /-- the registration for `IP_EVENT`, `IP_EVENT_STA_GOT_IP` -/
  ipHandler : Bool := false
  wifi : Wifi := {}
  deriving DecidableEq, Repr

inductive WifiAction
  /-- the next statement of `wifi_init` -/
  | init
  /-- the event loop delivers an event -/
  | deliver (e : EspEvent)
  deriving DecidableEq, Repr

inductive WifiTraceEvent
  /-- an event, and whether the handler was called for it -/
  | delivered (e : EspEvent) (handled : Bool)
  | waited (bits : EventBits)
  | returned (status : Status)
  deriving DecidableEq, Repr

namespace WifiProgram

/-- Whether a registration matches the event. -/
def handles (p : WifiProgram) (e : EspEvent) : Bool :=
  (p.wifiHandler && e.base == .wifi) || (p.ipHandler && e.isStaGotIp)

/-- What the delivery of an event does. -/
def deliver (p : WifiProgram) (e : EspEvent) : WifiProgram :=
  if p.handles e then { p with wifi := p.wifi.eventHandler e } else p

/-- The next statement of `wifi_init`; `none` while it waits for a bit and once it has returned. -/
def initStep (p : WifiProgram) : Option (WifiProgram × List WifiTraceEvent) :=
  match p.pc with
  | .create => some ({ p with pc := .registerWifi, wifi := { p.wifi with eventGroup := 0 } }, [])
  | .registerWifi => some ({ p with pc := .registerIp, wifiHandler := true }, [])
  | .registerIp => some ({ p with pc := .start, ipHandler := true }, [])
  | .start => some ({ p with pc := .wait }, [])
  | .wait =>
      -- either bit is enough, and neither is cleared
      if p.wifi.eventGroup &&& (wifiConnectedBit ||| wifiFailBit) ≠ 0 then
        some ({ p with pc := .unregisterIp (Wifi.initStatus p.wifi.eventGroup) },
          [.waited p.wifi.eventGroup])
      else none
  | .unregisterIp status => some ({ p with pc := .unregisterWifi status, ipHandler := false }, [])
  | .unregisterWifi status => some ({ p with pc := .delete status, wifiHandler := false }, [])
  | .delete status => some ({ p with pc := .returned status }, [.returned status])
  | .returned _ => none

def step (p : WifiProgram) : WifiAction → Option (WifiProgram × List WifiTraceEvent)
  | .init => p.initStep
  | .deliver e => some (p.deliver e, [.delivered e (p.handles e)])

end WifiProgram

/-- A run of the program from its start, over any sequence of events. -/
abbrev WifiRun : List WifiTraceEvent → WifiProgram → Prop :=
  Run (StepOf WifiProgram.step) (fun _ _ => True) {}

end Esp32Eye
