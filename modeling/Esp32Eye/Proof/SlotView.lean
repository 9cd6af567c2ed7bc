import Esp32Eye.Proof.Interest

/-!
# A slot as its own client sees it

What the messages of one client do to its own interest bit passes through a chunk of `recv_buffer`,
a recorded request and the mask, over several critical sections in which other things happen. Seen
from one slot it is simpler. `SlotView` is the interest that the slot will have once what is
recorded for it is applied (`Network.settled`), together with the bytes of its chunk, and it changes
only when something is received on that slot, by the function `SlotView.hear`
(`NetworkRun.view`). Connections, the other slots and the order of the critical sections do not
occur in it.
-/

namespace Esp32Eye

open Lib

/-! ## The abstract slot -/

structure SlotView where
  interest : Bool
  chunk : Fin maxRequestSize → UInt8

namespace SlotView

/-- The first word of the chunk, in network byte order. -/
def header (chunk : Fin maxRequestSize → UInt8) : UInt32 :=
  beWord32 (chunk 0) (chunk 1) (chunk 2) (chunk 3)

/-- The byte behind the header. -/
def value (chunk : Fin maxRequestSize → UInt8) : UInt8 := chunk 4

/-- What is received replaces the beginning of the chunk. -/
def fill (chunk : Fin maxRequestSize → UInt8) (data : List UInt8) : Fin maxRequestSize → UInt8 :=
  fun k => data.getD k (chunk k)

theorem value_fill {chunk : Fin maxRequestSize → UInt8} {data : List UInt8} :
    value (fill chunk data) = data.getD 4 (value chunk) := rfl

/-- What one `recv` does to a slot. -/
def hear (v : SlotView) : RecvResult → SlotView
  | .error => { v with interest := false }
  | .bytes data _ =>
      { interest :=
          if data.length = 0 then false
          else if 4 ≤ data.length ∧ header (fill v.chunk data) = requestVideoInterest then
            value (fill v.chunk data) != 0
          else v.interest
        chunk := fill v.chunk data }

end SlotView

/-! ## The chunk -/

namespace Server

variable {s : Server} {i j : Slot} {data : List UInt8}

theorem chunkByte_receiveInto :
    (s.receiveInto i data).chunkByte i = SlotView.fill (s.chunkByte i) data := by
  funext k
  simp [chunkByte, receiveInto, chunkAddress, SlotView.fill]

/-- `recv` writes at most one chunk. -/
theorem chunkByte_receiveInto_other (hij : i ≠ j) (hb : data.length ≤ maxRequestSize) :
    (s.receiveInto j data).chunkByte i = s.chunkByte i := by
  funext k
  have hne : (i : ℕ) ≠ j := Fin.val_ne_of_ne hij
  have hk := k.isLt
  simp only [chunkByte, receiveInto, chunkAddress]
  by_cases hle : (j : ℕ) * maxRequestSize ≤ i * maxRequestSize + k
  · rw [if_pos hle, List.getD_eq_getElem?_getD, List.getElem?_eq_none, Option.getD_none]
    simp only [maxRequestSize] at hb hk hle ⊢
    omega
  · rw [if_neg hle]

theorem chunkByte_body : s.recvBuffer (bodyAddress i) = SlotView.value (s.chunkByte i) := rfl

theorem disconnect_chunk {clientIndex : ℤ} :
    (s.disconnectClientNoSync clientIndex).chunkByte i = s.chunkByte i := by
  unfold disconnectClientNoSync
  split <;> rfl

theorem update_chunk {clientIndex : ℤ} {b : Bool} :
    (s.updateClientVideoInterest clientIndex b).1.chunkByte i = s.chunkByte i := by
  unfold updateClientVideoInterest
  split <;> rfl

theorem serveSlot_chunk {hb : data.length ≤ maxRequestSize} :
    (s.serveSlot i (.bytes data hb)).1.chunkByte = (s.receiveInto i data).chunkByte := by
  funext j
  simp only [serveSlot]
  split
  · exact disconnect_chunk
  · split <;> rfl

theorem serveSlot_requests {hb : data.length ≤ maxRequestSize} :
    (s.serveSlot i (.bytes data hb)).2.toList =
      if 4 ≤ data.length then
        [{ clientIndex := i
           requestType := SlotView.header (SlotView.fill (s.chunkByte i) data)
           requestBody := bodyAddress i
           requestBodyLength := UInt32.ofNat data.length - 4 }]
      else [] := by
  have hword : bswap32 ((s.receiveInto i data).chunkWord i)
      = SlotView.header (SlotView.fill (s.chunkByte i) data) := by
    unfold chunkWord SlotView.header
    rw [bswap32_leWord32, chunkByte_receiveInto]
    rfl
  simp only [serveSlot]
  split
  · rw [if_neg (by omega)]
    rfl
  · split
    · rw [if_neg (by omega)]
      rfl
    · rw [if_pos (by omega), hword]
      rfl

/-! ## What is recorded for a slot -/

/-- The interest of slot `i` once `requests` are applied. -/
def interestAfter (s : Server) (i : Slot) : List Request → Bool
  | [] => s.videoInterestMask.getLsbD i
  | r :: requests =>
      if r.clientIndex = (i : ℕ) then
        if r.requestType = requestVideoInterest then s.recvBuffer r.requestBody != 0
        else s.videoInterestMask.getLsbD i
      else s.interestAfter i requests

variable {requests : List Request} {r : Request}

theorem interestAfter_of_notMem (h : ((i : ℕ) : ℤ) ∉ requests.map Request.clientIndex) :
    s.interestAfter i requests = s.videoInterestMask.getLsbD i := by
  induction requests with
  | nil => rfl
  | cons r requests ih =>
    rw [List.map_cons, List.mem_cons, not_or] at h
    rw [interestAfter, if_neg (Ne.symm h.1)]
    exact ih h.2

theorem interestAfter_append_other {more : List Request}
    (h : ∀ r ∈ more, r.clientIndex ≠ (i : ℕ)) :
    s.interestAfter i (requests ++ more) = s.interestAfter i requests := by
  have hmore : s.interestAfter i more = s.videoInterestMask.getLsbD i := by
    apply interestAfter_of_notMem
    intro hmem
    obtain ⟨r, hr, he⟩ := List.mem_map.mp hmem
    exact h r hr he
  induction requests with
  | nil => exact hmore
  | cons r requests ih => rw [List.cons_append, interestAfter, interestAfter, ih]

/-- The one request of the slot is the last. -/
theorem interestAfter_concat (h : ((i : ℕ) : ℤ) ∉ requests.map Request.clientIndex)
    (hr : r.clientIndex = (i : ℕ)) :
    s.interestAfter i (requests ++ [r]) =
      if r.requestType = requestVideoInterest then s.recvBuffer r.requestBody != 0
      else s.videoInterestMask.getLsbD i := by
  induction requests with
  | nil => rw [List.nil_append, interestAfter, if_pos hr]
  | cons r' requests ih =>
    rw [List.map_cons, List.mem_cons, not_or] at h
    rw [List.cons_append, interestAfter, if_neg (Ne.symm h.1)]
    exact ih h.2

/-- Only the slot's own bit and the bodies of its own requests matter. -/
theorem interestAfter_congr {s' : Server}
    (hm : s'.videoInterestMask.getLsbD i = s.videoInterestMask.getLsbD i)
    (hb : ∀ r ∈ requests, r.clientIndex = (i : ℕ) →
      s'.recvBuffer r.requestBody = s.recvBuffer r.requestBody) :
    s'.interestAfter i requests = s.interestAfter i requests := by
  induction requests with
  | nil => exact hm
  | cons r requests ih =>
    rw [interestAfter, interestAfter, hm, ih fun r hr => hb r (List.mem_cons_of_mem _ hr)]
    split
    · rename_i hr
      rw [hb r List.mem_cons_self hr]
    · rfl

end Server

namespace Network

/-- The interest of slot `i` once everything recorded for it is applied. -/
def settled (n : Network) (i : Slot) : Bool :=
  match n.request with
  | .updateTake z b requests => if z = (i : ℕ) then b else n.server.interestAfter i requests
  | .update z b requests => if z = (i : ℕ) then b else n.server.interestAfter i requests
  | pc => n.server.interestAfter i pc.requests

def view (n : Network) (i : Slot) : SlotView where
  interest := n.settled i
  chunk := n.server.chunkByte i

variable {n n' : Network} {i : Slot}

/-- With nothing recorded for the slot its bit is what it will be. -/
theorem settled_of_notMem (h : ((i : ℕ) : ℤ) ∉ n.request.recorded) :
    n.settled i = n.server.videoInterestMask.getLsbD i := by
  unfold settled
  unfold RequestPc.recorded at h
  rw [List.mem_append, not_or] at h
  obtain ⟨hu, hq⟩ := h
  cases hpc : n.request with
  | updateTake z b requests | update z b requests =>
    rw [hpc] at hu hq
    have hz : z ≠ (i : ℕ) := fun he => hu (he ▸ List.mem_singleton_self _)
    exact (if_neg hz).trans (Server.interestAfter_of_notMem hq)
  | _ =>
    rw [hpc] at hq
    exact Server.interestAfter_of_notMem hq

end Network

/-! ## What was received on a slot -/

/-- What a `recv` delivered. -/
def RecvResult.data : RecvResult → List UInt8
  | .error => []
  | .bytes data _ => data

/-- The results of `recv` for slot `i`, newest first. -/
def receivedBy (i : Slot) : List NetworkEvent → List RecvResult
  | [] => []
  | .received j _ _ result :: tr => if j = i then result :: receivedBy i tr else receivedBy i tr
  | _ :: tr => receivedBy i tr

theorem receivedBy_append {i : Slot} {es tr : List NetworkEvent} :
    receivedBy i (es ++ tr) = receivedBy i es ++ receivedBy i tr := by
  induction es with
  | nil => rfl
  | cons e es ih =>
    cases e with
    | received j fd c result =>
      simp only [List.cons_append, receivedBy]
      split
      · rw [ih, List.cons_append]
      · exact ih
    | _ => exact ih

/-! ## One step, every run -/

namespace PendingOk

variable {n : Network} {i j : Slot}

/-- A request recorded for slot `i` has its body in the chunk of slot `i`. -/
theorem body_of {r : Request} (h : PendingOk n) (hr : r ∈ n.request.requests)
    (hi : r.clientIndex = (i : ℕ)) : r.requestBody = Server.bodyAddress i := by
  obtain ⟨j, hj, hb⟩ := h.body r hr
  have hij : j = i := Fin.ext (Int.ofNat_inj.mp (hj.symm.trans hi))
  rw [hb, hij]

/-- What is applied first is not recorded a second time. -/
theorem head_notMem {z : ℤ} {rest : List ℤ} (h : PendingOk n)
    (hr : n.request.recorded = z :: rest) : z ∉ rest := by
  have hp := h.increasing
  rw [hr] at hp
  intro hz
  exact absurd (List.rel_of_pairwise_cons hp hz) (lt_irrefl z)

end PendingOk

namespace Network

variable {n n' : Network} {m m' : Option Task} {a : NetworkAction} {es : List NetworkEvent}
  {i : Slot}

/-- `recv` for another slot is not seen. -/
theorem view_received_other {fds : Slot → Pollfd} {j : Slot} {requests : List Request}
    {result : RecvResult} (hpend : PendingOk n) (hpc : n.request = .scan fds j requests)
    (hread : n.readable fds j = true) (hij : i ≠ j) :
    ({ n with
      server := (n.server.serveSlot j result).1
      request := .scan fds (j + 1) (requests ++ (n.server.serveSlot j result).2.toList) } :
        Network).view i = n.view i := by
  have hchunk : (n.server.serveSlot j result).1.chunkByte i = n.server.chunkByte i := by
    cases result with
    | error => exact Server.disconnect_chunk
    | bytes data hb =>
      rw [Server.serveSlot_chunk]
      exact Server.chunkByte_receiveInto_other hij hb
  have hmask : (n.server.serveSlot j result).1.videoInterestMask.getLsbD i
      = n.server.videoInterestMask.getLsbD i :=
    Server.serveSlot_bit_other (readable_active hread) hij
  have hsettled : n.settled i = n.server.interestAfter i requests := by
    unfold settled
    rw [hpc]
    rfl
  unfold view
  rw [hsettled]
  congr 1
  show (n.server.serveSlot j result).1.interestAfter i (requests ++ _) = _
  rw [Server.interestAfter_append_other]
  · apply Server.interestAfter_congr hmask
    intro r hr hi
    rw [hpend.body_of (by rw [hpc]; exact hr) hi, Server.chunkByte_body, Server.chunkByte_body,
      hchunk]
  · intro r hr he
    have hr : (n.server.serveSlot j result).2 = some r := by simpa using hr
    exact hij (Fin.ext (Int.ofNat_inj.mp (he.symm.trans (Server.serveSlot_request hr).1)))

/-- `recv` for the slot itself. -/
theorem view_received_self {fds : Slot → Pollfd} {requests : List Request} {result : RecvResult}
    (hpend : PendingOk n) (hpc : n.request = .scan fds i requests)
    (hread : n.readable fds i = true) :
    ({ n with
      server := (n.server.serveSlot i result).1
      request := .scan fds (i + 1) (requests ++ (n.server.serveSlot i result).2.toList) } :
        Network).view i = (n.view i).hear result := by
  have hnone : ((i : ℕ) : ℤ) ∉ requests.map Request.clientIndex := by
    intro hmem
    exact hpend.ne_scanned hpc (by rw [hpc]; exact hmem) rfl
  have hsettled : n.settled i = n.server.videoInterestMask.getLsbD i :=
    settled_of_notMem (by rw [hpc]; exact hnone)
  have hmask : (n.server.serveSlot i result).1.videoInterestMask = _ :=
    Server.serveSlot_mask (readable_active hread)
  cases result with
  | error =>
    unfold view SlotView.hear
    congr 1
    · show (n.server.serveSlot i .error).1.interestAfter i (requests ++ []) = false
      rw [List.append_nil, Server.interestAfter_of_notMem hnone, hmask]
      simp [RecvResult.closes, getLsbD_clearBit]
    · exact Server.disconnect_chunk
  | bytes data hb =>
    have hchunk : (n.server.serveSlot i (.bytes data hb)).1.chunkByte i
        = SlotView.fill (n.server.chunkByte i) data := by
      rw [Server.serveSlot_chunk]
      exact Server.chunkByte_receiveInto
    unfold view SlotView.hear
    congr 1
    show (n.server.serveSlot i (.bytes data hb)).1.interestAfter i
      (requests ++ (n.server.serveSlot i (.bytes data hb)).2.toList) = _
    rw [Server.serveSlot_requests, hsettled]
    by_cases h₄ : 4 ≤ data.length
    · have h₀ : data.length ≠ 0 := by omega
      rw [if_pos h₄, Server.interestAfter_concat hnone rfl, Server.chunkByte_body, hchunk, hmask]
      simp [RecvResult.closes, h₀, h₄]
    · rw [if_neg h₄, List.append_nil, Server.interestAfter_of_notMem hnone, hmask]
      by_cases h₀ : data.length = 0
      · simp [RecvResult.closes, h₀, getLsbD_clearBit]
      · simp [RecvResult.closes, h₀, h₄]

/-- The updated slot has the value that was settled, the others are not concerned. -/
theorem view_update {z : ℤ} {b : Bool} {requests : List Request} (hpend : PendingOk n)
    (hpc : n.request = .update z b requests) :
    ({ n with
      server := (n.server.updateClientVideoInterest z b).1
      request := .updateEvent n.server.videoInterestMask
        (n.server.updateClientVideoInterest z b).2 requests } : Network).view i = n.view i := by
  obtain ⟨j, hj⟩ := hpend.updating hpc
  have hz : z = (j : ℕ) := (Server.activeSlot_eq_some.mp hj).1
  have hsettled : n.settled i = if z = (i : ℕ) then b else n.server.interestAfter i requests := by
    unfold settled
    rw [hpc]
  unfold view
  rw [hsettled]
  congr 1
  · show (n.server.updateClientVideoInterest z b).1.interestAfter i requests = _
    by_cases hi : z = (i : ℕ)
    · have hji : j = i := Fin.ext (Int.ofNat_inj.mp (hz.symm.trans hi))
      have hnone : ((i : ℕ) : ℤ) ∉ requests.map Request.clientIndex := by
        rw [← hi]
        exact hpend.head_notMem (by rw [hpc]; rfl)
      rw [if_pos hi, Server.interestAfter_of_notMem hnone, Server.update_bit hj, if_pos hji.symm]
    · have hne : i ≠ j := by
        intro he
        exact hi (by rw [hz, he])
      rw [if_neg hi]
      apply Server.interestAfter_congr
      · rw [Server.update_bit hj, if_neg hne]
      · intro r _ _
        unfold Server.updateClientVideoInterest
        split <;> rfl
  · exact Server.update_chunk

/-- **A slot changes by what is received on it and by nothing else.** -/
theorem Rule.view (hr : n.Rule m a m' n' es) (ha : a.ByTasks) (hpend : PendingOk n) :
    n'.view i = (receivedBy i es).foldr (fun result v => v.hear result) (n.view i) := by
  cases hr with
  | @scanReceived _ fds j requests result hpc hread =>
    unfold receivedBy
    split
    · rename_i hji
      subst hji
      exact view_received_self hpend hpc hread
    · rename_i hji
      exact view_received_other hpend hpc hread (Ne.symm hji)
  | update hpc => exact view_update hpend hpc
  | @register _ fd addr j hpc hj =>
    have hsame : ∀ requests, (n.server.register j fd addr).interestAfter i requests
        = n.server.interestAfter i requests := fun _ =>
      Server.interestAfter_congr rfl fun _ _ _ => rfl
    unfold Network.view settled
    congr 1
    cases n.request <;> simp [hsame]
  | @dispatchVideo _ r requests hpc ht =>
    have hsettled : n.settled i = n.server.interestAfter i (r :: requests) := by
      unfold settled
      rw [hpc]
      rfl
    unfold Network.view
    rw [hsettled, Server.interestAfter, if_pos ht]
    rfl
  | @dispatchOther _ r requests hpc ht =>
    -- a request of another type is dropped, and its slot has no other one behind it
    have hsettled : n.settled i = n.server.interestAfter i (r :: requests) := by
      unfold settled
      rw [hpc]
      rfl
    have hnone : r.clientIndex ∉ requests.map Request.clientIndex :=
      hpend.head_notMem (by rw [hpc]; rfl)
    unfold Network.view
    rw [hsettled, Server.interestAfter, if_neg ht]
    congr 1
    show n.server.interestAfter i requests = _
    split
    · rename_i hi
      exact Server.interestAfter_of_notMem (hi ▸ hnone)
    · rfl
  | updateTake hpc | updateEvent hpc | scanSkip hpc | scanDone hpc =>
    unfold Network.view settled
    rw [hpc]
    rfl
  | wait hpc | snapshotTake hpc | snapshot hpc | polled hpc | scanTake hpc | dispatchDone hpc
  | countTake hpc | count hpc | clearAvailable hpc | keepAvailable hpc | interestTake hpc
  | interest hpc | clearInterested hpc | keepInterested hpc =>
    unfold Network.view settled
    rw [hpc]
    rfl
  | disconnect => cases ha
  | _ => rfl

end Network

/-- Over a whole run: what was received on the slot, in order, decides it. -/
theorem NetworkRun.view {C : Network → NetworkAction → Prop} {n₀ n : Network}
    {tr : List NetworkEvent} (hC : ∀ n a, C n a → a.ByTasks) (hpend : PendingOk n₀)
    (h : NetworkRun C n₀ tr n) (i : Slot) :
    n.view i = (receivedBy i tr).foldr (fun result v => v.hear result) (n₀.view i) := by
  refine h.invariant_of (J := fun _ n => PendingOk n)
    (I := fun tr n => n.view i =
      (receivedBy i tr).foldr (fun result v => v.hear result) (n₀.view i))
    (fun hr => NetworkRun.pending hC hpend hr) rfl ?_
  intro tr n a n' es hj hn hc hs
  obtain ⟨m, m', hr⟩ := hs
  rw [hr.view (hC _ _ hc) hj, hn, receivedBy_append, List.foldr_append]

end Esp32Eye
