import Esp32Eye.Lib.Run
import Esp32Eye.Pipeline

/-!
# The six tasks `app_run` starts, as one system

`System` is the mutex, the connection side (`Network`), the frame side (`Pipeline`) and the
broadcast task. A step is a step of one task, or a call of `server_disconnect_client` from
outside them; any task whose next step exists may take it, so a run is an arbitrary interleaving.

The assumptions about code outside the repository are contracts on the steps of a run, each a
documented property of the call it is about:

* `acceptsFresh`: `accept` returns a descriptor only if it is not open already;
* `acceptsWithinLimit`: and only while the socket layer has a descriptor left;
* `pollsHonestly`: `poll` reports nothing for a negative descriptor;
* `handsOutFresh`: `esp_camera_fb_get` hands out a buffer only if it is not outstanding.

None of them is part of the step itself: a theorem names the ones it needs.
-/

namespace Esp32Eye

open Lib

/-- `task_send_broadcasts`: at `server_send_broadcast`, or at `vTaskDelay`. -/
inductive BroadcastPc
  | send
  | delay
  deriving DecidableEq, Repr

structure System where
  mutex : Option Task
  network : Network
  pipeline : Pipeline
  broadcast : BroadcastPc

inductive Action
  | network (a : NetworkAction)
  | pipeline (a : PipelineAction)
  | broadcast

inductive Event
  | network (e : NetworkEvent)
  | pipeline (e : PipelineEvent)
  | broadcast (datagram : Server.Datagram)

namespace Event

def network? : Event → Option NetworkEvent
  | .network e => some e
  | _ => none

def pipeline? : Event → Option PipelineEvent
  | .pipeline e => some e
  | _ => none

end Event

namespace System

def step (s : System) : Action → Option (System × List Event)
  | .network a =>
      (s.network.step s.mutex a).map fun (m, n, es) =>
        ({ s with mutex := m, network := n }, es.map .network)
  | .pipeline a =>
      (s.pipeline.step s.mutex s.network a).map fun (m, p, es) =>
        ({ s with mutex := m, pipeline := p }, es.map .pipeline)
  | .broadcast =>
      match s.broadcast with
      | .send => some ({ s with broadcast := .delay }, [.broadcast s.network.server.sendBroadcast])
      | .delay => some ({ s with broadcast := .send }, [])

/-! ## Where a run starts -/

/-- What is decided before the tasks run: the three sockets of `server_start`, the configured
    name, and the values of `esp_random` that are drawn. -/
structure Boot where
  serverSocket : ℤ
  rtpSocket : ℤ
  broadcastSocket : ℤ
  deviceName : List UInt8
  ssidRandom : UInt32
  sequenceRandom : UInt32
  timestampRandom : UInt32

/-- `server_start` succeeded: three different descriptors. -/
def Boot.Started (b : Boot) : Prop :=
  0 ≤ b.serverSocket ∧ 0 ≤ b.rtpSocket ∧ 0 ≤ b.broadcastSocket ∧
    b.serverSocket ≠ b.rtpSocket ∧ b.serverSocket ≠ b.broadcastSocket ∧
    b.rtpSocket ≠ b.broadcastSocket

/-- The state in which `app_run` leaves the tasks, each at the start of its function. -/
def appRun (b : Boot) : System where
  mutex := none
  network :=
    { server :=
        { serverSocket := b.serverSocket
          rtpSocket := b.rtpSocket
          broadcastSocket := b.broadcastSocket
          numActiveConnections := 0
          rtpSsid := b.ssidRandom
          videoInterestMask := 0
          recvBuffer := fun _ => 0
          connections := fun _ => {} }
      eventGroup := 0
      lwip :=
        { own := {b.serverSocket, b.rtpSocket, b.broadcastSocket}
          clients := ∅
          accepted := 0
          connection := fun _ => 0 }
      deviceName := b.deviceName
      accept := .enter
      request := .wait }
  pipeline :=
    { imageProduceQueue := .create
      imageRecycleQueue := .create
      camera := { acquired := 0, outstanding := [] }
      capture := .wait
      send := .receive
      -- `(uint16_t)(esp_random() % 100)` and `esp_random() % 1000`
      sequenceNumber := (b.sequenceRandom % 100).toUInt16
      timestamp := b.timestampRandom % 1000
      recycle := .receive }
  broadcast := .send

/-! ## Contracts -/

/-- Only the tasks run: nothing else calls `server_disconnect_client`. -/
def byTasks : Action → Bool
  | .network (.disconnect _) => false
  | _ => true

def acceptsFresh (s : System) : Action → Bool
  | .network (.accept (.accepted fd _)) =>
      decide (0 ≤ fd → fd ∉ s.network.lwip.descriptors)
  | _ => true

def acceptsWithinLimit (s : System) : Action → Bool
  | .network (.accept (.accepted fd _)) =>
      decide (0 ≤ fd → s.network.lwip.descriptors.card < lwipMaxSockets)
  | _ => true

def pollsHonestly (s : System) : Action → Bool
  | .network (.request (.polled revents)) =>
      match s.network.request with
      | .poll fds => decide (∀ i, (fds i).fd < 0 → revents i = 0)
      | _ => true
  | _ => true

def handsOutFresh (s : System) : Action → Bool
  | .pipeline (.capture (.fbGet (some (address, _)))) =>
      decide (address ∉ s.pipeline.camera.outstanding)
  | _ => true

/-- A run of the system under a contract. -/
abbrev SystemRun (p : System → Action → Bool) (s₀ : System) : List Event → System → Prop :=
  Run (StepOf step) (fun s a => p s a = true) s₀

end System
end Esp32Eye
