import Esp32Eye.Lib.EventGroup
import Esp32Eye.Server

/-!
# `main/network/tasks.c`: the two tasks that own the connections

`task_accept_new_clients` and `task_handle_requests`, with the functions of `server.c` they call
unfolded to the points at which another task can run. A program point is a constructor of
`AcceptPc` or `RequestPc` and carries the locals that are live there.

**Granularity.** A step is one of: taking the mutex; what a critical section does between two
points another task can see, together with giving the mutex back when it ends there; one
event-group call; one read of the client counter without the mutex; one blocking call. Inside the
second critical section of `server_handle_requests` every slot is a step of its own, because the
counter that changes there is read by the other task without the mutex.

A step is `none` when the task is blocked there or the action is not one for that point. The value
a blocking call returns comes with the action; what the calls of this file tell the outside is
reported as events.
-/

namespace Esp32Eye

open Lib

/-! ## Bits, tasks, descriptors -/

/-- `network_bits_t`. -/
def clientsAvailableBit : EventBits := 1
def clientConnectedBit : EventBits := 2
def clientsInterestedInVideoBit : EventBits := 4

/-- The six tasks `app_run` starts. -/
inductive Task
  | acceptNewClients
  | handleRequests
  | sendBroadcasts
  | captureCameraImage
  | recycleCameraImage
  | sendCameraImage
  deriving DecidableEq, Repr

/-- `CONFIG_LWIP_MAX_SOCKETS`. -/
def lwipMaxSockets : ℕ := 10

/-- The socket layer's own record: the descriptors `server_start` opened, those `accept` returned
    that were not closed since, and for a descriptor the number of the connection it belongs to.
    Connections are numbered in the order in which they were accepted. -/
structure Lwip where
  own : Finset ℤ
  clients : Finset ℤ
  accepted : ℕ
  connection : ℤ → ℕ

namespace Lwip

/-- A successful `accept` that returns `fd`. -/
def accept (l : Lwip) (fd : ℤ) : Lwip :=
  { l with
    clients := insert fd l.clients
    accepted := l.accepted + 1
    connection := Function.update l.connection fd l.accepted }

/-- Every descriptor that is open. -/
def descriptors (l : Lwip) : Finset ℤ := l.own ∪ l.clients

end Lwip

/-! ## Program points -/

/-- `task_accept_new_clients`, with `server_accept_connections` unfolded. -/
inductive AcceptPc
  /-- at the first `xSemaphoreTake` -/
  | enter
  /-- holding the mutex, at the capacity check -/
  | capacity
  /-- in `accept` -/
  | accept
  /-- about to send the hello message -/
  | hello (clientSocket : ℤ) (incomingAddress : SockaddrIn)
  /-- at the second `xSemaphoreTake` -/
  | registerTake (clientSocket : ℤ) (incomingAddress : SockaddrIn)
  /-- holding the mutex, at the loop over the slots -/
  | register (clientSocket : ℤ) (incomingAddress : SockaddrIn)
  /-- about to read the counter, which `server_get_clients_count` does without the mutex -/
  | clientsCount
  /-- the counter was read -/
  | setAvailable (count : ℤ)
  /-- about to set `CLIENT_CONNECTED_BIT` -/
  | setConnected
  deriving DecidableEq, Repr

/-- `task_handle_requests`, with `server_handle_requests` and `update_video_interest` unfolded. -/
inductive RequestPc
  /-- the head of the loop, at `xEventGroupWaitBits` -/
  | wait
  | snapshotTake
  /-- holding the mutex, about to fill `fds` -/
  | snapshot
  /-- in `poll` -/
  | poll (fds : Slot → Pollfd)
  | scanTake (fds : Slot → Pollfd)
  /-- holding the mutex, at slot `i` of the second loop, `requests` recorded so far -/
  | scan (fds : Slot → Pollfd) (i : ℕ) (requests : List Request)
  /-- at the head of the dispatch loop, `requests` still to go -/
  | dispatch (requests : List Request)
  /-- `update_video_interest`, its arguments evaluated -/
  | updateTake (clientIndex : ℤ) (isInterested : Bool) (requests : List Request)
  | update (clientIndex : ℤ) (isInterested : Bool) (requests : List Request)
  /-- the mutex given back, the event-group call still to be made -/
  | updateEvent (previousInterest newInterest : BitVec 16) (requests : List Request)
  | countTake
  | count
  | countClear (count : ℤ)
  | interestTake
  | interest
  | interestClear (interest : BitVec 16)

/-! ## State, actions, events -/

/-- What the two tasks share and where each of them is. -/
structure Network where
  server : Server
  eventGroup : EventBits
  lwip : Lwip
  /-- `CONFIG_DEVICE_NAME` -/
  deviceName : List UInt8
  accept : AcceptPc
  request : RequestPc

/-- What a step of the accept task gets from outside: nothing, or the result of `accept`. -/
inductive AcceptInput
  | go
  | accepted (fd : ℤ) (incomingAddress : SockaddrIn)
  deriving DecidableEq, Repr

/-- What a step of the request task gets from outside: nothing, the `revents` that `poll` wrote,
    or the result of `recv`. -/
inductive RequestInput
  | go
  | polled (revents : Slot → BitVec 16)
  | received (result : RecvResult)

inductive NetworkAction
  | accept (input : AcceptInput)
  | request (input : RequestInput)
  /-- a call of `server_disconnect_client` by no task in particular -/
  | disconnect (clientIndex : ℤ)

/-- What can be seen of a step: the calls made to the socket layer and their results, and the
    points at which the table, the descriptor set and the interest change. -/
inductive NetworkEvent
  | accepted (fd : ℤ) (connection : ℕ) (incomingAddress : SockaddrIn)
  | acceptFailed
  | hello (fd : ℤ) (message : List UInt8)
  | registered (i : Slot) (fd : ℤ)
  | snapshot
  | received (i : Slot) (fd : ℤ) (connection : ℕ) (result : RecvResult)
  | dispatched (clientIndex : ℤ) (isInterested : Bool)
  | disconnected (clientIndex : ℤ)

/-- A step's outcome: the mutex, the state and the events, newest first. -/
abbrev NetworkOutcome := Option Task × Network × List NetworkEvent

namespace Network

/-- `xSemaphoreTake` with `portMAX_DELAY`: the step exists once the mutex is free. -/
def take (mutex : Option Task) (t : Task) (n : Network) : Option NetworkOutcome :=
  if mutex = none then some (some t, n, []) else none

/-- A step outside the critical sections. -/
def go (mutex : Option Task) (n : Network) (es : List NetworkEvent) : Option NetworkOutcome :=
  some (mutex, n, es)

/-- The last step of a critical section. -/
def give (n : Network) (es : List NetworkEvent) : Option NetworkOutcome := some (none, n, es)

/-! ## `task_accept_new_clients` -/

def acceptStep (mutex : Option Task) (n : Network) : AcceptInput → Option NetworkOutcome
  | .go =>
    match n.accept with
    | .enter => take mutex .acceptNewClients { n with accept := .capacity }
    | .capacity =>
        if n.server.numActiveConnections ≥ maxConnections then give { n with accept := .enter } []
        else give { n with accept := .accept } []
    | .accept => none
    | .hello fd addr =>
        go mutex { n with accept := .registerTake fd addr }
          [.hello fd (Server.helloMessage n.deviceName)]
    | .registerTake fd addr =>
        take mutex .acceptNewClients { n with accept := .register fd addr }
    | .register fd addr =>
        match n.server.firstInactive with
        | some i =>
            give { n with server := n.server.register i fd addr, accept := .clientsCount }
              [.registered i fd]
        -- `return -1` with the descriptor still open
        | none => give { n with accept := .enter } []
    | .clientsCount =>
        go mutex { n with accept := .setAvailable n.server.numActiveConnections } []
    | .setAvailable count =>
        -- only for the first client: the bit is taken to be set for the others
        if count = 1 then
          go mutex
            { n with
              eventGroup := n.eventGroup.setBits clientsAvailableBit, accept := .setConnected } []
        else go mutex { n with accept := .setConnected } []
    | .setConnected =>
        go mutex
          { n with eventGroup := n.eventGroup.setBits clientConnectedBit, accept := .enter } []
  | .accepted fd addr =>
    match n.accept with
    | .accept =>
        if fd < 0 then go mutex { n with accept := .enter } [.acceptFailed]
        else
          go mutex { n with lwip := n.lwip.accept fd, accept := .hello fd addr }
            [.accepted fd n.lwip.accepted addr]
    | _ => none

/-! ## `task_handle_requests` -/

/-- The event-group call `update_video_interest` makes after giving the mutex back. -/
def updateEventBits (g : EventBits) (previousInterest newInterest : BitVec 16) : EventBits :=
  if previousInterest = 0 ∧ newInterest ≠ 0 then g.setBits clientsInterestedInVideoBit
  else if previousInterest ≠ 0 ∧ newInterest = 0 then g.clearBits clientsInterestedInVideoBit
  else g

/-- Whether the second loop of `server_handle_requests` calls `recv` for slot `i`. -/
def readable (n : Network) (fds : Slot → Pollfd) (i : Slot) : Bool :=
  (n.server.connections i).isActive && (fds i).revents &&& pollIn != 0

def requestStep (mutex : Option Task) (n : Network) : RequestInput → Option NetworkOutcome
  | .go =>
    match n.request with
    | .wait =>
        if n.eventGroup.allSet clientsAvailableBit then
          go mutex { n with request := .snapshotTake } []
        else none
    | .snapshotTake => take mutex .handleRequests { n with request := .snapshot }
    | .snapshot => give { n with request := .poll n.server.pollfds } [.snapshot]
    | .poll _ => none
    | .scanTake fds => take mutex .handleRequests { n with request := .scan fds 0 [] }
    | .scan fds i requests =>
        if h : i < maxConnections then
          -- a readable slot waits for the result of its `recv`
          if n.readable fds ⟨i, h⟩ then none
          else go mutex { n with request := .scan fds (i + 1) requests } []
        else give { n with request := .dispatch requests } []
    | .dispatch [] => go mutex { n with request := .countTake } []
    | .dispatch (r :: requests) =>
        if r.requestType = requestVideoInterest then
          -- `*(bool*)request.request_body`: whatever byte is there, non-zero meaning true
          go mutex
            { n with
              request :=
                .updateTake r.clientIndex (n.server.recvBuffer r.requestBody != 0) requests } []
        else go mutex { n with request := .dispatch requests } []
    | .updateTake clientIndex isInterested requests =>
        take mutex .handleRequests { n with request := .update clientIndex isInterested requests }
    | .update clientIndex isInterested requests =>
        let previousInterest := n.server.videoInterestMask
        let (server, newInterest) := n.server.updateClientVideoInterest clientIndex isInterested
        give
          { n with
            server := server, request := .updateEvent previousInterest newInterest requests }
          [.dispatched clientIndex isInterested]
    | .updateEvent previousInterest newInterest requests =>
        go mutex
          { n with
            eventGroup := updateEventBits n.eventGroup previousInterest newInterest
            request := .dispatch requests } []
    | .countTake => take mutex .handleRequests { n with request := .count }
    | .count => give { n with request := .countClear n.server.numActiveConnections } []
    | .countClear count =>
        if count = 0 then
          go mutex
            { n with
              eventGroup := n.eventGroup.clearBits clientsAvailableBit, request := .interestTake }
            []
        else go mutex { n with request := .interestTake } []
    | .interestTake => take mutex .handleRequests { n with request := .interest }
    | .interest => give { n with request := .interestClear n.server.videoInterestMask } []
    | .interestClear interest =>
        if interest = 0 then
          go mutex
            { n with
              eventGroup := n.eventGroup.clearBits clientsInterestedInVideoBit, request := .wait }
            []
        else go mutex { n with request := .wait } []
  | .polled revents =>
    match n.request with
    | .poll fds =>
        go mutex
          { n with request := .scanTake fun i => { fds i with revents := revents i } } []
    | _ => none
  | .received result =>
    match n.request with
    | .scan fds i requests =>
        if h : i < maxConnections then
          if n.readable fds ⟨i, h⟩ then
            let (server, request) := n.server.serveSlot ⟨i, h⟩ result
            go mutex
              { n with
                server := server, request := .scan fds (i + 1) (requests ++ request.toList) }
              [.received ⟨i, h⟩ (fds ⟨i, h⟩).fd (n.lwip.connection (fds ⟨i, h⟩).fd) result]
          else none
        else none
    | _ => none

/-! ## Either task, or a disconnection from outside -/

def step (mutex : Option Task) (n : Network) : NetworkAction → Option NetworkOutcome
  | .accept input => acceptStep mutex n input
  | .request input => requestStep mutex n input
  | .disconnect clientIndex =>
      if mutex = none then
        give { n with server := n.server.disconnectClientNoSync clientIndex }
          [.disconnected clientIndex]
      else none

end Network
end Esp32Eye
