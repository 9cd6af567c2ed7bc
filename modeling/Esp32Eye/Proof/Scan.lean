import Esp32Eye.Batch
import Esp32Eye.Proof.SlotView

/-!
# The second loop of `server_handle_requests`

The loop has four ways through its body and changes the table it walks over, but a slot's turn
depends on nothing that the turns before it changed: they were about other slots. So the outcome
can be said slot by slot in terms of the table the loop started with. `Scanned` says it for the
slots visited so far, `Scanned.scanSlot` is the one step of the induction, and `scan_scanned` the
loop.
-/

namespace Esp32Eye

open Lib

namespace Server

variable {s : Server} {fds : Slot → Pollfd} {recv : Slot → RecvResult} {i : Slot}

/-! ## The turn of a slot -/

/-- `recv` is called for the slot. -/
def isReadable (s : Server) (fds : Slot → Pollfd) (i : Slot) : Bool :=
  (s.connections i).isActive && (fds i).revents &&& pollIn != 0

/-- It is called, and ends the connection. -/
def isClosed (s : Server) (fds : Slot → Pollfd) (recv : Slot → RecvResult) (i : Slot) : Bool :=
  s.isReadable fds i && (recv i).closes

/-- It is called, and delivers a header at least. -/
def isRequest (s : Server) (fds : Slot → Pollfd) (recv : Slot → RecvResult) (i : Slot) : Bool :=
  s.isReadable fds i && decide (4 ≤ (recv i).data.length)

/-- The request recorded for the slot, if one is. -/
def requestOf (s : Server) (recv : Slot → RecvResult) (i : Slot) : Request where
  clientIndex := i
  requestType := SlotView.header (SlotView.fill (s.chunkByte i) (recv i).data)
  requestBody := bodyAddress i
  requestBodyLength := UInt32.ofNat (recv i).data.length - 4

/-- The call of `recv` for the slot, if it is made. -/
def recvCallOf (s : Server) (fds : Slot → Pollfd) (i : Slot) : RecvCall where
  slot := i
  fd := (fds i).fd
  connection := s.connections i

theorem isReadable_active (h : s.isReadable fds i = true) : (s.connections i).isActive = true :=
  (Bool.and_eq_true _ _ |>.mp h).1

theorem isReadable_iff :
    s.isReadable fds i = true ↔
      (s.connections i).isActive = true ∧ (fds i).revents &&& pollIn ≠ 0 := by
  unfold isReadable
  rw [Bool.and_eq_true, bne_iff_ne]

/-- The test of the `continue`. -/
theorem not_isReadable :
    (!s.isReadable fds i) = (!(s.connections i).isActive || (fds i).revents &&& pollIn == 0) := by
  unfold isReadable
  rw [Bool.not_and, bne, Bool.not_not]

/-- The `continue` at the head of the body. -/
theorem scanSlot_skip {b : Batch} (h : b.server.isReadable fds i = false) :
    scanSlot fds recv b i = b := by
  unfold scanSlot
  rw [← not_isReadable, h]
  rfl

/-- `recv` and what follows it. -/
theorem scanSlot_serve {b : Batch} (h : b.server.isReadable fds i = true) :
    scanSlot fds recv b i =
      { server := (b.server.serveSlot i (recv i)).1
        requests := b.requests ++ (b.server.serveSlot i (recv i)).2.toList
        recvCalls := b.recvCalls ++ [b.server.recvCallOf fds i] } := by
  unfold scanSlot
  rw [← not_isReadable, h]
  rfl

theorem isReadable_congr {s' : Server} (h : s'.connections i = s.connections i) :
    s'.isReadable fds i = s.isReadable fds i := by
  unfold isReadable
  rw [h]

theorem serveSlot_chunk_self (result : RecvResult) :
    (s.serveSlot i result).1.chunkByte i = SlotView.fill (s.chunkByte i) result.data := by
  cases result with
  | error => exact disconnect_chunk
  | bytes data hb =>
    rw [serveSlot_chunk]
    exact chunkByte_receiveInto

theorem serveSlot_chunk_other {j : Slot} (result : RecvResult) (hj : j ≠ i) :
    (s.serveSlot i result).1.chunkByte j = s.chunkByte j := by
  cases result with
  | error => exact disconnect_chunk
  | bytes data hb =>
    rw [serveSlot_chunk]
    exact chunkByte_receiveInto_other hj hb

theorem serveSlot_toList :
    (s.serveSlot i (recv i)).2.toList =
      if 4 ≤ (recv i).data.length then [s.requestOf recv i] else [] := by
  unfold requestOf
  cases hr : recv i with
  | error => rfl
  | bytes data hb => exact serveSlot_requests

theorem requestOf_congr {s' : Server} (h : s'.chunkByte i = s.chunkByte i) :
    s'.requestOf recv i = s.requestOf recv i := by
  unfold requestOf
  rw [h]

/-! ## The slots visited so far -/

/-- The loop started with the table `s`, has visited `visited`, and is at `b`. -/
structure Scanned (s : Server) (fds : Slot → Pollfd) (recv : Slot → RecvResult)
    (visited : List Slot) (b : Batch) : Prop where
  connections : ∀ i, b.server.connections i =
    if i ∈ visited ∧ s.isClosed fds recv i = true then {} else s.connections i
  mask : ∀ k, b.server.videoInterestMask.getLsbD k = true ↔
    s.videoInterestMask.getLsbD k = true ∧
      ∀ i ∈ visited, s.isClosed fds recv i = true → k ≠ i
  count : b.server.numActiveConnections
    = s.numActiveConnections - (visited.filter (s.isClosed fds recv)).length
  chunk : ∀ i, b.server.chunkByte i =
    if i ∈ visited ∧ s.isReadable fds i = true then
      SlotView.fill (s.chunkByte i) (recv i).data
    else s.chunkByte i
  requests : b.requests = (visited.filter (s.isRequest fds recv)).map (s.requestOf recv)
  recvCalls : b.recvCalls = (visited.filter (s.isReadable fds)).map (s.recvCallOf fds)

namespace Scanned

variable {visited : List Slot} {b : Batch}

theorem start : Scanned s fds recv [] { server := s, requests := [], recvCalls := [] } where
  connections := fun i => by simp
  mask := fun k => by simp
  count := by simp
  chunk := fun i => by simp
  requests := rfl
  recvCalls := rfl

/-- A slot that was not visited is as it was. -/
theorem connections_new (h : Scanned s fds recv visited b) (hi : i ∉ visited) :
    b.server.connections i = s.connections i := by
  rw [h.connections, if_neg (fun hc => hi hc.1)]

theorem chunk_new (h : Scanned s fds recv visited b) (hi : i ∉ visited) :
    b.server.chunkByte i = s.chunkByte i := by
  rw [h.chunk, if_neg (fun hc => hi hc.1)]

theorem skip (h : Scanned s fds recv visited b) (hr : s.isReadable fds i = false) :
    Scanned s fds recv (visited ++ [i]) b := by
  have hclosed : s.isClosed fds recv i = false := by
    unfold isClosed
    rw [hr, Bool.false_and]
  have hrequest : s.isRequest fds recv i = false := by
    unfold isRequest
    rw [hr, Bool.false_and]
  have hmem : ∀ {p : Slot → Bool} {j : Slot}, p i = false →
      (j ∈ visited ++ [i] ∧ p j = true ↔ j ∈ visited ∧ p j = true) := by
    intro p j hp
    rw [List.mem_append, List.mem_singleton]
    constructor
    · rintro ⟨hj | rfl, hpj⟩
      · exact ⟨hj, hpj⟩
      · rw [hp] at hpj
        cases hpj
    · rintro ⟨hj, hpj⟩
      exact ⟨Or.inl hj, hpj⟩
  refine ⟨fun j => ?_, fun k => ?_, ?_, fun j => ?_, ?_, ?_⟩
  · simp only [hmem hclosed, h.connections]
  · rw [h.mask]
    refine and_congr_right fun _ => forall_congr' fun j => ?_
    exact ⟨fun hv hj hc => hv ((hmem hclosed).mp ⟨hj, hc⟩).1 hc,
      fun hv hj hc => hv (List.mem_append_left _ hj) hc⟩
  · simp [h.count, List.filter_append, hclosed]
  · simp only [hmem hr, h.chunk]
  · simp [h.requests, List.filter_append, hrequest]
  · simp [h.recvCalls, List.filter_append, hr]

theorem serve (h : Scanned s fds recv visited b) (hi : i ∉ visited)
    (hr : s.isReadable fds i = true) :
    Scanned s fds recv (visited ++ [i])
      { server := (b.server.serveSlot i (recv i)).1
        requests := b.requests ++ (b.server.serveSlot i (recv i)).2.toList
        recvCalls := b.recvCalls ++ [b.server.recvCallOf fds i] } := by
  have hact : (b.server.connections i).isActive = true := by
    rw [h.connections_new hi]
    exact isReadable_active hr
  have hclosed : s.isClosed fds recv i = (recv i).closes := by
    unfold isClosed
    rw [hr, Bool.true_and]
  have hrequest : s.isRequest fds recv i = decide (4 ≤ (recv i).data.length) := by
    unfold isRequest
    rw [hr, Bool.true_and]
  refine ⟨fun j => ?_, fun k => ?_, ?_, fun j => ?_, ?_, ?_⟩
  · show (b.server.serveSlot i (recv i)).1.connections j = _
    rcases eq_or_ne j i with rfl | hj
    · rw [serveSlot_connections hact]
      cases hc : (recv j).closes <;> simp [hclosed, hc, h.connections_new hi]
    · rw [serveSlot_other hact hj, h.connections]
      simp [hj]
  · show (b.server.serveSlot i (recv i)).1.videoInterestMask.getLsbD k = true ↔ _
    rw [serveSlot_mask hact]
    cases hc : (recv i).closes with
    | true =>
      simp [getLsbD_clearBit, h.mask, hclosed, hc, and_assoc, or_imp, forall_and]
    | false =>
      simp [h.mask, hclosed, hc, or_imp, forall_and]
  · show (b.server.serveSlot i (recv i)).1.numActiveConnections = _
    rw [serveSlot_count hact, h.count]
    cases hc : (recv i).closes with
    | true => simp [List.filter_append, hclosed, hc]; omega
    | false => simp [List.filter_append, hclosed, hc]
  · show (b.server.serveSlot i (recv i)).1.chunkByte j = _
    rcases eq_or_ne j i with rfl | hj
    · rw [serveSlot_chunk_self, h.chunk_new hi, if_pos ⟨by simp, hr⟩]
    · rw [serveSlot_chunk_other _ hj, h.chunk]
      simp [hj]
  · show b.requests ++ (b.server.serveSlot i (recv i)).2.toList = _
    rw [serveSlot_toList, requestOf_congr (h.chunk_new hi), h.requests, List.filter_append,
      List.map_append]
    by_cases h₄ : 4 ≤ (recv i).data.length <;> simp [hrequest, h₄]
  · show b.recvCalls ++ [b.server.recvCallOf fds i] = _
    have hcall : b.server.recvCallOf fds i = s.recvCallOf fds i := by
      unfold recvCallOf
      rw [h.connections_new hi]
    simp [h.recvCalls, List.filter_append, hr, hcall]

/-- **One turn of the loop.** -/
theorem scanSlot (h : Scanned s fds recv visited b) (hi : i ∉ visited) :
    Scanned s fds recv (visited ++ [i]) (Server.scanSlot fds recv b i) := by
  have hread : b.server.isReadable fds i = s.isReadable fds i :=
    isReadable_congr (h.connections_new hi)
  cases hr : s.isReadable fds i with
  | false =>
    rw [scanSlot_skip (hread.trans hr)]
    exact h.skip hr
  | true =>
    rw [scanSlot_serve (hread.trans hr)]
    exact h.serve hi hr

end Scanned

/-- **The loop, over any slots that are all different.** -/
theorem scan_scanned {slots : List Slot} (hnew : slots.Nodup) :
    Scanned s fds recv slots (s.scan fds recv slots) :=
  foldl_visited (I := fun visited b => Scanned s fds recv visited b) hnew Scanned.start
    fun hi h => h.scanSlot hi

/-- The table stays a table. -/
theorem scan_represents {slots : List Slot} {b : Batch} (h : ∃ t, Represents b.server t) :
    ∃ t, Represents (slots.foldl (Server.scanSlot fds recv) b).server t := by
  induction slots generalizing b with
  | nil => exact h
  | cons i slots ih =>
    apply ih
    obtain ⟨t, ht⟩ := h
    cases hr : b.server.isReadable fds i with
    | false =>
      rw [scanSlot_skip hr]
      exact ⟨t, ht⟩
    | true =>
      rw [scanSlot_serve hr]
      exact ⟨_, ht.serveSlot (isReadable_active hr)⟩

end Server
end Esp32Eye
