import Esp32Eye.Lib.Reader
import Esp32Eye.Proof.Recipients

/-!
# The outgoing messages, read by their receiver

The README says what a client finds in the hello, in a broadcast and in an image datagram, with
every multi-byte integer in network byte order. `readHello`, `readBroadcast` and `readRtpHeader`
are that description, as a reader that knows nothing of the server's structures; the bit fields of
the RTP header are taken apart as RTP lays them out. What the server stores into its structures is
then read back field by field.
-/

namespace Esp32Eye

open Lib

/-! ## What a receiver reads -/

structure Hello where
  header : UInt32
  deviceName : List UInt8
  deriving DecidableEq, Repr

def readHello : Reader Hello := do
  let header ← Reader.be32
  let deviceName ← Reader.bytes 32
  pure { header, deviceName }

def readBroadcast : Reader UInt32 := Reader.be32

/-- The fields of the RTP header, the first two bytes taken apart. -/
structure RtpFields where
  version : ℕ
  padding : Bool
  extension : Bool
  csrcCount : ℕ
  marker : Bool
  payloadType : ℕ
  sequenceNumber : UInt16
  timestamp : UInt32
  ssid : UInt32
  payloadLength : UInt32
  deriving DecidableEq, Repr

def readRtpHeader : Reader RtpFields := do
  let first ← Reader.u8
  let second ← Reader.u8
  let sequenceNumber ← Reader.be16
  let timestamp ← Reader.be32
  let ssid ← Reader.be32
  let payloadLength ← Reader.be32
  pure
    { version := first.toNat / 64
      padding := first.toNat.testBit 5
      extension := first.toNat.testBit 4
      csrcCount := first.toNat % 16
      marker := second.toNat.testBit 7
      payloadType := second.toNat % 128
      sequenceNumber, timestamp, ssid, payloadLength }

/-- An image datagram: the fields of its header, and the frame that takes up the rest. -/
def decodeImage (datagram : List UInt8) : Option (RtpFields × List UInt8) :=
  readRtpHeader datagram

/-! ## The hello and the broadcast -/

/-- The bytes of a C string that lies at the start of `memory`. -/
def cString (memory : List UInt8) : List UInt8 := memory.takeWhile (· ≠ 0)

/-- The name as the hello carries it: cut off after 32 bytes or filled up to them. -/
def paddedName (name : List UInt8) : List UInt8 :=
  name.take 32 ++ List.replicate (32 - min 32 name.length) 0

theorem length_paddedName (name : List UInt8) : (paddedName name).length = 32 := by
  unfold paddedName
  rw [List.length_append, List.length_take, List.length_replicate]
  omega

namespace Server

theorem helloMessage_eq (deviceName : List UInt8) :
    helloMessage deviceName = beBytes32 messageHello ++ paddedName (cString deviceName) := by
  unfold helloMessage paddedName cString
  rw [leBytes32_bswap32, List.append_assoc, List.length_take]

theorem length_helloMessage (deviceName : List UInt8) : (helloMessage deviceName).length = 36 := by
  rw [helloMessage_eq, List.length_append, length_paddedName]
  rfl

theorem reads_helloMessage (deviceName : List UInt8) :
    Reads readHello (helloMessage deviceName)
      { header := messageHello, deviceName := paddedName (cString deviceName) } := by
  rw [helloMessage_eq]
  exact (Reads.be32 _).bind ((Reads.bytes (length_paddedName _)).map _)

theorem reads_broadcastMessage : Reads readBroadcast broadcastMessage messageBroadcast := by
  unfold broadcastMessage
  rw [leBytes32_bswap32]
  exact Reads.be32 _

/-! ## The image datagram -/

/-- What the header says of a frame, in the receiver's terms. -/
def rtpFields (ssid : UInt32) (sequenceNumber : UInt16) (timestamp payloadLength : UInt32) :
    RtpFields where
  version := 2
  padding := false
  extension := false
  csrcCount := 0
  marker := false
  payloadType := 26
  sequenceNumber := sequenceNumber
  timestamp := timestamp
  ssid := ssid
  payloadLength := payloadLength

theorem bytes_getRtpHeader (s : Server) (sequenceNumber : UInt16)
    (timestamp payloadLength : UInt32) :
    (s.getRtpHeader sequenceNumber timestamp payloadLength).bytes
      = [128] ++ ([26] ++ (beBytes16 sequenceNumber ++ (beBytes32 timestamp
          ++ (beBytes32 s.rtpSsid ++ beBytes32 payloadLength)))) := by
  unfold RtpHeader.bytes getRtpHeader
  simp only [leBytes32_bswap32, leBytes16_bswap16, List.append_assoc]
  rfl

theorem reads_header (s : Server) (sequenceNumber : UInt16) (timestamp payloadLength : UInt32) :
    Reads readRtpHeader (s.getRtpHeader sequenceNumber timestamp payloadLength).bytes
      (rtpFields s.rtpSsid sequenceNumber timestamp payloadLength) := by
  rw [bytes_getRtpHeader]
  exact (Reads.u8 128).bind ((Reads.u8 26).bind ((Reads.be16 _).bind ((Reads.be32 _).bind
    ((Reads.be32 _).bind ((Reads.be32 _).map _)))))

theorem decodeImage_append (s : Server) (sequenceNumber : UInt16)
    (timestamp payloadLength : UInt32) (framebuffer : List UInt8) :
    decodeImage ((s.getRtpHeader sequenceNumber timestamp payloadLength).bytes ++ framebuffer)
      = some (rtpFields s.rtpSsid sequenceNumber timestamp payloadLength, framebuffer) :=
  reads_header s sequenceNumber timestamp payloadLength framebuffer

end Server

/-- The accept task says hello with this message and no other. -/
theorem Network.Rule.hello_message {n n' : Network} {m m' : Option Task} {a : NetworkAction}
    {es : List NetworkEvent} {fd : ℤ} {message : List UInt8} (hr : n.Rule m a m' n' es)
    (he : .hello fd message ∈ es) : message = Server.helloMessage n.deviceName := by
  cases hr with
  | hello =>
    obtain ⟨-, rfl⟩ := NetworkEvent.hello.inj (List.mem_singleton.mp he)
    rfl
  | _ => simp at he

namespace System

open Server

theorem broadcast_datagram {s s' : System} {a : Action} {es : List Event} {d : Datagram}
    (h : s.step a = some (s', es)) (he : .broadcast d ∈ es) :
    d = s.network.server.sendBroadcast := by
  cases moved_of_step h with
  | network | pipeline => simp at he
  | broadcast hes =>
    rcases hes with rfl | rfl
    · cases he
    · exact Event.broadcast.inj (List.mem_singleton.mp he)

/-- **The outgoing messages decode back.** The hello and the image datagram as the README has
    them, for every name and all values of the fields; equal datagrams carry equal fields and
    frames; the datagrams `server_send_image_data` sends, one to each recipient, are of that form,
    and so are the hello of the accept task and the broadcast, which goes to port 45122. -/
theorem outgoing_messages_decode :
    (∀ deviceName : List UInt8,
      (helloMessage deviceName).length = 36 ∧
      readHello.whole (helloMessage deviceName) = some
        { header := 0xCABFEEFD
          deviceName := (cString deviceName).take 32
            ++ List.replicate (32 - min 32 (cString deviceName).length) 0 }) ∧
    (∀ (s : Server) (sequenceNumber : UInt16) (timestamp payloadLength : UInt32)
        (framebuffer : List UInt8),
      ((s.getRtpHeader sequenceNumber timestamp payloadLength).bytes ++ framebuffer).length
        = 16 + framebuffer.length ∧
      decodeImage ((s.getRtpHeader sequenceNumber timestamp payloadLength).bytes ++ framebuffer)
        = some
          ({ version := 2
             padding := false
             extension := false
             csrcCount := 0
             marker := false
             payloadType := 26
             sequenceNumber := sequenceNumber
             timestamp := timestamp
             ssid := s.rtpSsid
             payloadLength := payloadLength }, framebuffer)) ∧
    (∀ (s s' : Server) (sequenceNumber sequenceNumber' : UInt16)
        (timestamp timestamp' payloadLength payloadLength' : UInt32)
        (framebuffer framebuffer' : List UInt8),
      (s.getRtpHeader sequenceNumber timestamp payloadLength).bytes ++ framebuffer
          = (s'.getRtpHeader sequenceNumber' timestamp' payloadLength').bytes ++ framebuffer' →
        sequenceNumber = sequenceNumber' ∧ timestamp = timestamp' ∧ s.rtpSsid = s'.rtpSsid ∧
          payloadLength = payloadLength' ∧ framebuffer = framebuffer') ∧
    (∀ (s : Server) (framebuffer : List UInt8) (sequenceNumber : UInt16) (timestamp : UInt32)
        (sendmsg : Slot → ℤ),
      (s.sendImageData framebuffer sequenceNumber timestamp sendmsg).calls =
        s.recipients.map fun i =>
          { socket := s.rtpSocket
            address := (s.connections i).rtpAddress
            payload := (s.getRtpHeader sequenceNumber timestamp
              (UInt32.ofNat framebuffer.length)).bytes ++ framebuffer }) ∧
    (∀ (n n' : Network) (m m' : Option Task) (a : NetworkAction) (es : List NetworkEvent) (fd : ℤ)
        (message : List UInt8), n.step m a = some (m', n', es) → .hello fd message ∈ es →
      message = helloMessage n.deviceName) ∧
    (∀ (s s' : System) (a : Action) (es : List Event) (d : Datagram),
      s.step a = some (s', es) → .broadcast d ∈ es →
        d.socket = s.network.server.broadcastSocket ∧
        leBytes16 d.address.sinPort = beBytes16 45122 ∧
        readBroadcast.whole d.payload = some 0xAABB1234) := by
  refine ⟨fun deviceName => ⟨length_helloMessage _, (reads_helloMessage deviceName).whole⟩,
    fun s seq ts len fb => ⟨?_, decodeImage_append s seq ts len fb⟩, ?_,
    fun s fb seq ts sendmsg => sendImageData_calls,
    fun n n' m m' a es fd message h he => (Network.Rule.of_step h).hello_message he,
    fun s s' a es d h he => ?_⟩
  · rw [List.length_append, length_header]
  · intro s s' seq seq' ts ts' len len' fb fb' h
    have hd := congrArg decodeImage h
    rw [decodeImage_append, decodeImage_append, Option.some.injEq, Prod.mk.injEq] at hd
    obtain ⟨hf, hfb⟩ := hd
    simp only [rtpFields, RtpFields.mk.injEq, true_and] at hf
    obtain ⟨hseq, hts, hssid, hlen⟩ := hf
    exact ⟨hseq, hts, hssid, hlen, hfb⟩
  · rw [broadcast_datagram h he]
    exact ⟨rfl, leBytes16_bswap16 _, reads_broadcastMessage.whole⟩

end System
end Esp32Eye
