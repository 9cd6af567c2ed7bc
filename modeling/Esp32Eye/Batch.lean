import Esp32Eye.Server

/-!
# `server_handle_requests` as one call

`Network.lean` has this function unfolded to the points at which another task can run. Here it is
one function of everything it meets on its way: the table it finds, the clients the accept task
registers while the call is in `poll`, the `revents` that `poll` writes and what `recv` returns for
each slot. That the tasks compute this function is `SystemRun.handleRequests`.
-/

namespace Esp32Eye

open Lib

/-- One call of `recv`: the slot it is made for, the descriptor that is passed, and what
    `connections` has in the slot at that moment. -/
structure RecvCall where
  slot : Slot
  fd : ℤ
  connection : ClientConnection
  deriving DecidableEq, Repr

/-- What the second loop has done so far: the table, `requests` up to `served_requests`, and the
    calls of `recv`. -/
structure Batch where
  server : Server
  requests : List Request
  recvCalls : List RecvCall

namespace Server

/-- The last critical section of `server_accept_connections` for one client. A full table is
    left as it is. -/
def registerNext (s : Server) (client : ℤ × SockaddrIn) : Server :=
  match s.firstInactive with
  | some i => s.register i client.1 client.2
  | none => s

/-- The accept task registers one client after another. -/
def registerAll (s : Server) (clients : List (ℤ × SockaddrIn)) : Server :=
  clients.foldl registerNext s

/-- The descriptor set once `poll` has written `revents`. -/
def polledFds (s : Server) (revents : Slot → BitVec 16) : Slot → Pollfd :=
  fun i => { s.pollfds i with revents := revents i }

/-- The body of the second loop for slot `i`. -/
def scanSlot (fds : Slot → Pollfd) (recv : Slot → RecvResult) (b : Batch) (i : Slot) : Batch :=
  if !(b.server.connections i).isActive || (fds i).revents &&& pollIn == 0 then b
  else
    let (server, request) := b.server.serveSlot i (recv i)
    { server := server
      requests := b.requests ++ request.toList
      recvCalls :=
        b.recvCalls ++ [{ slot := i, fd := (fds i).fd, connection := b.server.connections i }] }

/-- The second loop over `slots`. -/
def scan (s : Server) (fds : Slot → Pollfd) (recv : Slot → RecvResult) (slots : List Slot) :
    Batch :=
  slots.foldl (scanSlot fds recv) { server := s, requests := [], recvCalls := [] }

/-- `server_handle_requests`: the table before is `s`, `arrivals` are the clients registered
    between the two critical sections. -/
def handleRequests (s : Server) (arrivals : List (ℤ × SockaddrIn)) (revents : Slot → BitVec 16)
    (recv : Slot → RecvResult) : Batch :=
  (s.registerAll arrivals).scan (s.polledFds revents) recv (List.finRange maxConnections)

end Server
end Esp32Eye
