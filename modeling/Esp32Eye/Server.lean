import Esp32Eye.Lib.ByteOrder
import Esp32Eye.Lib.SlotTable

/-!
# `main/network/server.c`: the connection table and what is done to it

The static variables of `server.c` are one record, `Server`, and each function of the file that
touches them under the mutex is a function on that record. What a function does outside the mutex
(`accept`, `poll`, the `sendmsg` of the hello) belongs to the task that calls it and is in
`Network.lean`, which also decides where the critical sections begin and end.

Sizes and constants are the source's. A slot of the table is `Slot`, while a `client_index` stays
the `int` it is in the source, because `is_active_client` is written for any value of it.
-/

namespace Esp32Eye

open Lib

/-! ## Constants -/

def maxConnections : ℕ := 10
def maxRequestSize : ℕ := 32

def rtpPort : UInt16 := 45120
def rtpJpegPayload : UInt8 := 26
def broadcastPort : UInt16 := 45122

/-- `INADDR_BROADCAST`. -/
def inaddrBroadcast : UInt32 := 0xFFFFFFFF

/-- `MESSAGE_BROADCAST` and `MESSAGE_HELLO` of `message_header_t`. -/
def messageBroadcast : UInt32 := 0xAABB1234
def messageHello : UInt32 := 0xCABFEEFD

/-- `REQUEST_VIDEO_INTEREST`, the one member of `request_type_t`. -/
def requestVideoInterest : UInt32 := 0xAADCFBED

/-- `POLLIN`. -/
def pollIn : BitVec 16 := 1

/-- An index into `connections`. -/
abbrev Slot := Fin maxConnections

instance : NeZero maxConnections := ⟨by decide⟩
instance : NeZero maxRequestSize := ⟨by decide⟩

/-! ## Data -/

/-- `struct sockaddr_in`, the port and the address in network byte order. -/
structure SockaddrIn where
  sinPort : UInt16 := 0
  sinAddr : UInt32 := 0
  deriving DecidableEq, Repr

/-- `inet_ntoa`: the octets are in memory order, which is the order they are printed in. -/
def inetNtoa (addr : UInt32) : String :=
  ".".intercalate ((leBytes32 addr).map fun b => toString b.toNat)

/-- `struct client_connection`; the default value is the all-zero one that `memset` writes. -/
structure ClientConnection where
  isActive : Bool := false
  controlSocket : ℤ := 0
  addressString : String := ""
  rtpAddress : SockaddrIn := {}
  deriving DecidableEq, Repr

/-- The addresses of `recv_buffer`. -/
abbrev BufferAddress := Fin (maxRequestSize * maxConnections)

/-- `&recv_buffer[i * MAX_REQUEST_SIZE] + k`. -/
def chunkAddress (i : Slot) (k : Fin maxRequestSize) : BufferAddress :=
  ⟨i * maxRequestSize + k, by
    have hi := i.isLt
    have hk := k.isLt
    simp only [maxConnections, maxRequestSize] at hi hk ⊢
    omega⟩

/-- `request_t`. -/
structure Request where
  clientIndex : ℤ
  requestType : UInt32
  requestBody : BufferAddress
  requestBodyLength : UInt32
  deriving DecidableEq, Repr

/-- `struct pollfd`. -/
structure Pollfd where
  fd : ℤ
  events : BitVec 16
  revents : BitVec 16
  deriving DecidableEq, Repr

/-- What `recv` with a length of `MAX_REQUEST_SIZE` returns: a negative value, or that many bytes
    at most, none of them at the end of the stream. -/
inductive RecvResult
  | error
  | bytes (data : List UInt8) (bound : data.length ≤ maxRequestSize)
  deriving DecidableEq, Repr

/-- The static variables of `server.c`. -/
structure Server where
  serverSocket : ℤ
  rtpSocket : ℤ
  broadcastSocket : ℤ
  numActiveConnections : ℤ
  rtpSsid : UInt32
  videoInterestMask : BitVec 16
  recvBuffer : BufferAddress → UInt8
  connections : Slot → ClientConnection

namespace Server

/-! ## The table -/

/-- The slot a `client_index` names, if it names an active one. -/
def activeSlot (s : Server) (clientIndex : ℤ) : Option Slot :=
  if h : 0 ≤ clientIndex ∧ clientIndex < maxConnections then
    let i : Slot := ⟨clientIndex.toNat, by omega⟩
    if (s.connections i).isActive then some i else none
  else none

/-- `is_active_client`. -/
def isActiveClient (s : Server) (clientIndex : ℤ) : Bool := (s.activeSlot clientIndex).isSome

/-- `server_disconnect_client_no_sync`. -/
def disconnectClientNoSync (s : Server) (clientIndex : ℤ) : Server :=
  match s.activeSlot clientIndex with
  | none => s
  | some i =>
      { s with
        connections := Function.update s.connections i {}
        videoInterestMask := clearBit s.videoInterestMask i
        numActiveConnections := s.numActiveConnections - 1 }

/-- The slot at which the loop of `server_accept_connections` stops. -/
def firstInactive (s : Server) : Option Slot :=
  (List.finRange maxConnections).find? fun i => !(s.connections i).isActive

/-- What `server_accept_connections` writes into the slot it found. -/
def register (s : Server) (i : Slot) (clientSocket : ℤ) (incomingAddress : SockaddrIn) : Server :=
  { s with
    connections := Function.update s.connections i
      { isActive := true
        controlSocket := clientSocket
        addressString := inetNtoa incomingAddress.sinAddr
        rtpAddress := { incomingAddress with sinPort := bswap16 rtpPort } }
    numActiveConnections := s.numActiveConnections + 1 }

/-- The descriptor set `server_handle_requests` builds in its first critical section. The fields
    it leaves unwritten are indeterminate; `poll` ignores `events` of a negative descriptor and
    writes `revents`. -/
def pollfds (s : Server) (i : Slot) : Pollfd :=
  if (s.connections i).isActive then
    { fd := (s.connections i).controlSocket, events := pollIn, revents := 0 }
  else { fd := -1, events := 0, revents := 0 }

/-- What `recv` leaves in `recv_buffer` when it delivers `data` into the chunk of slot `i`. -/
def receiveInto (s : Server) (i : Slot) (data : List UInt8) : Server :=
  { s with
    recvBuffer := fun a =>
      if i * maxRequestSize ≤ a.val then
        data.getD (a.val - i * maxRequestSize) (s.recvBuffer a)
      else s.recvBuffer a }

/-- A byte of the chunk of slot `i`. -/
def chunkByte (s : Server) (i : Slot) (k : Fin maxRequestSize) : UInt8 :=
  s.recvBuffer (chunkAddress i k)

/-- `*(uint32_t*)recv_buffer_chunk`. -/
def chunkWord (s : Server) (i : Slot) : UInt32 :=
  leWord32 (s.chunkByte i ⟨0, by decide⟩) (s.chunkByte i ⟨1, by decide⟩)
    (s.chunkByte i ⟨2, by decide⟩) (s.chunkByte i ⟨3, by decide⟩)

/-- Where the body of a request of slot `i` is read from: `&recv_buffer_chunk[sizeof(uint32_t)]`. -/
def bodyAddress (i : Slot) : BufferAddress := chunkAddress i ⟨4, by decide⟩

/-- The part of the loop body of `server_handle_requests` that follows the call of `recv` for
    slot `i`: the table afterwards and the request that was recorded, if one was. -/
def serveSlot (s : Server) (i : Slot) : RecvResult → Server × Option Request
  | .error => (s.disconnectClientNoSync i, none)
  | .bytes data _ =>
      let s := s.receiveInto i data
      if data.length = 0 then (s.disconnectClientNoSync i, none)
      else if data.length < 4 then (s, none)
      else
        (s, some
          { clientIndex := i
            requestType := bswap32 (s.chunkWord i)
            requestBody := bodyAddress i
            requestBodyLength := UInt32.ofNat data.length - 4 })

/-- `server_update_client_video_interest`: the table afterwards and the value returned. -/
def updateClientVideoInterest (s : Server) (clientIndex : ℤ) (isInterested : Bool) :
    Server × BitVec 16 :=
  match s.activeSlot clientIndex with
  | none => (s, 0)
  | some i =>
      let m := if isInterested then setBit s.videoInterestMask i else clearBit s.videoInterestMask i
      ({ s with videoInterestMask := m }, m)

/-! ## Messages -/

/-- `hello_message_t` behind its header, as the two `iovec`s lay it out. `strncpy` copies up to
    the terminator or 32 bytes, whichever comes first, and pads with zeros. -/
def helloMessage (deviceName : List UInt8) : List UInt8 :=
  let name := (deviceName.takeWhile (· ≠ 0)).take 32
  leBytes32 (bswap32 messageHello) ++ name ++ List.replicate (32 - name.length) 0

/-- The message of `server_send_broadcast`. -/
def broadcastMessage : List UInt8 := leBytes32 (bswap32 messageBroadcast)

/-- One call of `sendmsg` on the RTP socket, or of `sendto` on the broadcast socket. -/
structure Datagram where
  socket : ℤ
  address : SockaddrIn
  payload : List UInt8
  deriving DecidableEq, Repr

/-- `server_send_broadcast`; nobody looks at what `sendto` returns. -/
def sendBroadcast (s : Server) : Datagram where
  socket := s.broadcastSocket
  address := { sinPort := bswap16 broadcastPort, sinAddr := bswap32 inaddrBroadcast }
  payload := broadcastMessage

/-- `rtp_header_t`. -/
structure RtpHeader where
  versionWithFlags : UInt8
  payloadType : UInt8
  sequenceNumber : UInt16
  timestamp : UInt32
  ssid : UInt32
  payloadLength : UInt32
  deriving DecidableEq, Repr

/-- `get_rtp_header`. -/
def getRtpHeader (s : Server) (sequenceNumber : UInt16) (timestamp payloadLength : UInt32) :
    RtpHeader where
  versionWithFlags := (2 : UInt8) <<< 6
  payloadType := rtpJpegPayload
  sequenceNumber := bswap16 sequenceNumber
  timestamp := bswap32 timestamp
  ssid := bswap32 s.rtpSsid
  payloadLength := bswap32 payloadLength

/-- The header in memory: sixteen bytes, no padding between the fields. -/
def RtpHeader.bytes (h : RtpHeader) : List UInt8 :=
  [h.versionWithFlags, h.payloadType] ++ leBytes16 h.sequenceNumber ++ leBytes32 h.timestamp
    ++ leBytes32 h.ssid ++ leBytes32 h.payloadLength

/-- What a call of `server_send_image_data` did: the calls of `sendmsg` in order, the addresses
    it logged a failure for, and its result. -/
structure SendReport where
  calls : List Datagram
  failures : List SockaddrIn
  result : Bool
  deriving DecidableEq, Repr

/-- The loop of `server_send_image_data` over the slots that remain; `sendmsg i` is what the call
    for slot `i` returns. A failure is logged and the loop goes on. -/
def sendLoop (s : Server) (payload : List UInt8) (sendmsg : Slot → ℤ) : List Slot → SendReport
  | [] => { calls := [], failures := [], result := true }
  | i :: rest =>
      let report := s.sendLoop payload sendmsg rest
      if !(s.connections i).isActive || !s.videoInterestMask.getLsbD i then report
      else
        let clientAddress := (s.connections i).rtpAddress
        { report with
          calls :=
            { socket := s.rtpSocket, address := clientAddress, payload := payload } :: report.calls
          failures :=
            if sendmsg i < 0 then clientAddress :: report.failures else report.failures }

/-- `server_send_image_data`. -/
def sendImageData (s : Server) (framebuffer : List UInt8) (sequenceNumber : UInt16)
    (timestamp : UInt32) (sendmsg : Slot → ℤ) : SendReport :=
  let header := s.getRtpHeader sequenceNumber timestamp (UInt32.ofNat framebuffer.length)
  s.sendLoop (header.bytes ++ framebuffer) sendmsg (List.finRange maxConnections)

end Server
end Esp32Eye
