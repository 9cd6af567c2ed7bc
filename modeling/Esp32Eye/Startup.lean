import Esp32Eye.System
import Esp32Eye.Wifi

/-!
# Before the tasks run: `server_start` and `app.c`

`server_start` is a sequence of calls into the socket layer with an early return after most of
them. The results of the calls are one record, in the order of the calls, and what the function
leaves behind is another: the static variables it has written, the descriptors it opened, and what
was achieved on them. No path of it closes a descriptor, so `opened` only grows.

`app_main` goes on to `app_run` only if `app_init` returned `ST_SUCCESS`; `app_run` calls
`server_start`, does not look at the result, and creates the six tasks.
-/

namespace Esp32Eye

open Lib

def serverPort : UInt16 := 3452

/-- `INADDR_ANY`. -/
def inaddrAny : UInt32 := 0

/-! ## `server_start` -/

/-- What the calls of `server_start` return. The result of the `setsockopt` for
    `SO_REUSEADDR | SO_REUSEPORT` is not looked at and is not here. -/
structure StartResults where
  /-- the first `socket` -/
  rtpSocket : ℤ
  /-- `esp_random` -/
  rtpSsid : UInt32
  /-- the second `socket` -/
  broadcastSocket : ℤ
  /-- `setsockopt` for `SO_BROADCAST` -/
  setBroadcast : ℤ
  /-- the third `socket` -/
  serverSocket : ℤ
  bind : ℤ
  listen : ℤ
  deriving DecidableEq, Repr

/-- The static variables `server_start` writes, and what it did to the socket layer. -/
structure ServerSockets where
  rtpSocket : ℤ := 0
  rtpSsid : UInt32 := 0
  broadcastSocket : ℤ := 0
  serverSocket : ℤ := 0
  /-- the descriptors that were opened and not closed, latest first -/
  opened : List ℤ := []
  /-- `broadcast_socket` may broadcast -/
  broadcasting : Bool := false
  /-- the address `server_socket` is bound to -/
  boundTo : Option SockaddrIn := none
  /-- the backlog with which it listens -/
  backlog : Option ℕ := none
  deriving DecidableEq, Repr

/-- A call of `socket` that returned `fd`: what is open now. -/
def socketOpened (fd : ℤ) (opened : List ℤ) : List ℤ := if 0 ≤ fd then fd :: opened else opened

/-- `server_start`. -/
def serverStart (r : StartResults) : Status × ServerSockets :=
  let s : ServerSockets := {}
  let s := { s with rtpSocket := r.rtpSocket, opened := socketOpened r.rtpSocket s.opened }
  -- `!rtp_socket`, and the same for `server_socket` below; `broadcast_socket` is compared with 0
  if r.rtpSocket = 0 then (.serverInitializationFailed, s)
  else
    let s :=
      { s with
        rtpSsid := r.rtpSsid
        broadcastSocket := r.broadcastSocket
        opened := socketOpened r.broadcastSocket s.opened }
    if r.broadcastSocket < 0 then (.serverInitializationFailed, s)
    else if r.setBroadcast < 0 then (.serverInitializationFailed, s)
    else
      let s :=
        { s with
          broadcasting := true
          serverSocket := r.serverSocket
          opened := socketOpened r.serverSocket s.opened }
      if r.serverSocket = 0 then (.serverInitializationFailed, s)
      else if r.bind < 0 then (.serverInitializationFailed, s)
      else
        let s :=
          { s with boundTo := some { sinPort := bswap16 serverPort, sinAddr := inaddrAny } }
        if r.listen < 0 then (.serverInitializationFailed, s)
        else (.success, { s with backlog := some maxConnections })

/-! ## `app.c` -/

namespace App

/-- `app_init`, from the results of `wifi_init` and `camera_init`; `nvs_init` returns `ST_SUCCESS`
    or aborts. -/
def init (wifiInit cameraInit : Status) : Status :=
  if wifiInit ≠ .success then wifiInit
  else if cameraInit ≠ .success then cameraInit
  else cameraInit

/-- What `app_run` does that can be seen: the call of `server_start` and the tasks created. -/
inductive Call
  | serverStart (status : Status)
  | createTask (t : Task)
  deriving DecidableEq, Repr

/-- `app_run`. -/
def run (r : StartResults) : List Call :=
  [.serverStart (serverStart r).1,
    .createTask .sendCameraImage, .createTask .acceptNewClients, .createTask .handleRequests,
    .createTask .sendBroadcasts, .createTask .captureCameraImage, .createTask .recycleCameraImage]

/-- `app_main`. -/
def main (wifiInit cameraInit : Status) (r : StartResults) : List Call :=
  if init wifiInit cameraInit ≠ .success then [] else run r

/-- What the tasks find, given the configured name and the values the send task draws. -/
def boot (r : StartResults) (deviceName : List UInt8)
    (sequenceRandom timestampRandom : UInt32) : System.Boot where
  serverSocket := (serverStart r).2.serverSocket
  rtpSocket := (serverStart r).2.rtpSocket
  broadcastSocket := (serverStart r).2.broadcastSocket
  deviceName := deviceName
  ssidRandom := (serverStart r).2.rtpSsid
  sequenceRandom := sequenceRandom
  timestampRandom := timestampRandom

end App
end Esp32Eye
