import Esp32Eye.Proof.Scan
import Esp32Eye.Schedule

/-!
# What a call of `server_handle_requests` yields

The loop is characterised by `Scanned`, in terms of the table it starts with. What remains is the
distance between that table and the descriptor set: the accept task may have filled slots in
between, and only free ones, so a slot that `poll` reports was active when `fds` was filled and is
what it was (`readable_held`). `RequestBatch` is the contract of the whole call.
-/

namespace Esp32Eye

open Lib

theorem RecvResult.data_length_le (result : RecvResult) : result.data.length ≤ maxRequestSize := by
  cases result with
  | error => exact Nat.zero_le _
  | bytes data hb => exact hb

namespace Server

variable {s : Server} {i : Slot} {clients : List (ℤ × SockaddrIn)} {revents : Slot → BitVec 16}
  {recv : Slot → RecvResult}

/-! ## Registrations while the call is in `poll` -/

theorem registerNext_active {client : ℤ × SockaddrIn} (h : (s.connections i).isActive = true) :
    (s.registerNext client).connections i = s.connections i := by
  unfold registerNext
  cases hf : s.firstInactive with
  | none => rfl
  | some j =>
    apply register_other
    rintro rfl
    rw [firstInactive_free hf] at h
    cases h

/-- A client that is connected keeps its slot as it is. -/
theorem registerAll_active (h : (s.connections i).isActive = true) :
    (s.registerAll clients).connections i = s.connections i := by
  unfold registerAll
  induction clients generalizing s with
  | nil => rfl
  | cons client clients ih =>
    rw [List.foldl_cons, ih (by rw [registerNext_active h]; exact h), registerNext_active h]

theorem registerAll_represents (h : ∃ t, Represents s t) :
    ∃ t, Represents (s.registerAll clients) t := by
  unfold registerAll
  induction clients generalizing s with
  | nil => exact h
  | cons client clients ih =>
    apply ih
    obtain ⟨t, ht⟩ := h
    unfold registerNext
    cases hf : s.firstInactive with
    | none => exact ⟨t, ht⟩
    | some j => exact ⟨_, ht.register (ht.empty_iff.mp (firstInactive_free hf))⟩

/-- `poll` reports nothing for a negative descriptor. -/
def HonestRevents (s : Server) (revents : Slot → BitVec 16) : Prop :=
  ∀ i, (s.pollfds i).fd < 0 → revents i = 0

/-- **What is readable was polled.** The slot has held the descriptor since `fds` was filled. -/
theorem readable_held (hpoll : s.HonestRevents revents)
    (h : (s.registerAll clients).isReadable (s.polledFds revents) i = true) :
    (s.registerAll clients).connections i = s.connections i ∧
      (s.pollfds i).fd = (s.connections i).controlSocket := by
  have hrevents : revents i ≠ 0 := by
    intro hz
    have hread := (isReadable_iff.mp h).2
    rw [show (s.polledFds revents i).revents = revents i from rfl, hz] at hread
    exact hread BitVec.zero_and
  cases hact : (s.connections i).isActive with
  | true =>
    refine ⟨registerAll_active hact, ?_⟩
    unfold pollfds
    rw [if_pos hact]
  | false =>
    have hfd : (s.pollfds i).fd = -1 := by
      unfold pollfds
      rw [hact]
      rfl
    exact absurd (hpoll i (by rw [hfd]; decide)) hrevents

/-! ## The contract of the call -/

/-- Slot `i` is active and was reported readable. -/
def Reported (s : Server) (revents : Slot → BitVec 16) (i : Slot) : Prop :=
  (s.connections i).isActive = true ∧ revents i &&& pollIn ≠ 0

/-- And its `recv` failed or came to the end of the stream. -/
def Gone (s : Server) (revents : Slot → BitVec 16) (recv : Slot → RecvResult) (i : Slot) : Prop :=
  s.Reported revents i ∧ (recv i).closes = true

instance : Decidable (s.Reported revents i) :=
  inferInstanceAs (Decidable ((s.connections i).isActive = true ∧ revents i &&& pollIn ≠ 0))

instance : Decidable (s.Gone revents recv i) :=
  inferInstanceAs (Decidable (s.Reported revents i ∧ (recv i).closes = true))

/-- `s₀` is the table the call finds, `s` the one the second loop finds, `b` the outcome. -/
structure RequestBatch (s₀ s : Server) (revents : Slot → BitVec 16) (recv : Slot → RecvResult)
    (b : Batch) : Prop where
  /-- `requests` has room for them -/
  length_le : b.requests.length ≤ maxConnections
  /-- they are in the order of their clients, each body behind the one before it -/
  increasing : b.requests.Pairwise fun r r' =>
    r.clientIndex < r'.clientIndex ∧
      r.requestBody.val + r.requestBodyLength.toNat ≤ r'.requestBody.val
  /-- there is one for each slot that is active, was reported readable and delivered a header -/
  mem_iff : ∀ i : Slot, (∃ r ∈ b.requests, r.clientIndex = (i : ℕ)) ↔
    s.Reported revents i ∧ 4 ≤ (recv i).data.length
  /-- a request is what was received: the header in network byte order, and the rest of it in the
      chunk of its own slot -/
  decoded : ∀ r ∈ b.requests, ∃ (i : Slot) (b₀ b₁ b₂ b₃ : UInt8) (body : List UInt8),
    r.clientIndex = (i : ℕ) ∧ (recv i).data = b₀ :: b₁ :: b₂ :: b₃ :: body ∧
      r.requestType = beWord32 b₀ b₁ b₂ b₃ ∧ r.requestBodyLength.toNat = body.length ∧
      i * maxRequestSize ≤ r.requestBody.val ∧
      r.requestBody.val + body.length ≤ (i + 1) * maxRequestSize ∧
      ∀ (k : ℕ) (hk : k < body.length) (a : BufferAddress), a.val = r.requestBody.val + k →
        b.server.recvBuffer a = body[k]
  gone : ∀ i, s.Gone revents recv i →
    b.server.connections i = {} ∧ b.server.videoInterestMask.getLsbD i = false
  kept : ∀ i, ¬ s.Gone revents recv i → b.server.connections i = s.connections i
  keptBits : ∀ k : ℕ, (∀ i : Slot, k = i → ¬ s.Gone revents recv i) →
    b.server.videoInterestMask.getLsbD k = s.videoInterestMask.getLsbD k
  count : b.server.numActiveConnections
    = s.numActiveConnections - (Finset.univ.filter (s.Gone revents recv)).card
  table : TableInvariant b.server
  /-- `recv` is called on the descriptor that the slot holds at that moment, which is the one that
      was polled for it and reported readable -/
  received : ∀ c ∈ b.recvCalls, c.connection.isActive = true ∧
    c.fd = c.connection.controlSocket ∧ s₀.pollfds c.slot = ⟨c.fd, pollIn, 0⟩ ∧
      revents c.slot &&& pollIn ≠ 0
  /-- and it is called once for each slot that is active and was reported readable -/
  receivedSlots : b.recvCalls.map RecvCall.slot =
    (List.finRange maxConnections).filter fun i => decide (s.Reported revents i)

/-! ## What is recorded -/

theorem requestOf_length (h : 4 ≤ (recv i).data.length) :
    (s.requestOf recv i).requestBodyLength.toNat = (recv i).data.length - 4 := by
  have hb := (recv i).data_length_le
  have hof : (UInt32.ofNat (recv i).data.length).toNat = (recv i).data.length := by
    rw [UInt32.toNat_ofNat']
    simp only [maxRequestSize] at hb
    omega
  unfold requestOf
  rw [UInt32.toNat_sub_of_le _ _ (by rw [UInt32.le_iff_toNat_le, hof]; exact h), hof]
  rfl

theorem bodyAddress_val : (bodyAddress i : ℕ) = i * maxRequestSize + 4 := rfl

/-- A body ends within the chunk of its slot. -/
theorem requestOf_end (h : 4 ≤ (recv i).data.length) :
    (s.requestOf recv i).requestBody.val + (s.requestOf recv i).requestBodyLength.toNat
      ≤ (i + 1) * maxRequestSize := by
  have hb := (recv i).data_length_le
  rw [requestOf_length h]
  show (bodyAddress i : ℕ) + _ ≤ _
  rw [bodyAddress_val, Nat.add_mul, Nat.one_mul]
  omega

/-- So it lies before the bodies of the slots behind. -/
theorem requestOf_disjoint {j : Slot} (hij : i < j) (h : 4 ≤ (recv i).data.length) :
    (s.requestOf recv i).requestBody.val + (s.requestOf recv i).requestBodyLength.toNat
      ≤ (s.requestOf recv j).requestBody.val := by
  have hlt : (i : ℕ) + 1 ≤ j := hij
  calc (s.requestOf recv i).requestBody.val + (s.requestOf recv i).requestBodyLength.toNat
      ≤ (i + 1) * maxRequestSize := requestOf_end h
    _ ≤ j * maxRequestSize := Nat.mul_le_mul_right _ hlt
    _ ≤ j * maxRequestSize + 4 := Nat.le_add_right _ _

/-- What is recorded for a slot is what was received, as long as its chunk still has it. -/
theorem requestOf_decoded {s' : Server} (h : 4 ≤ (recv i).data.length)
    (hchunk : s'.chunkByte i = SlotView.fill (s.chunkByte i) (recv i).data) :
    ∃ (b₀ b₁ b₂ b₃ : UInt8) (body : List UInt8),
      (recv i).data = b₀ :: b₁ :: b₂ :: b₃ :: body ∧
      (s.requestOf recv i).requestType = beWord32 b₀ b₁ b₂ b₃ ∧
      (s.requestOf recv i).requestBodyLength.toNat = body.length ∧
      ∀ (k : ℕ) (hk : k < body.length) (a : BufferAddress),
        a.val = (s.requestOf recv i).requestBody.val + k → s'.recvBuffer a = body[k] := by
  have hb := (recv i).data_length_le
  have hlength := requestOf_length (s := s) h
  match hdata : (recv i).data with
  | b₀ :: b₁ :: b₂ :: b₃ :: body =>
    rw [hdata] at hb hlength hchunk
    refine ⟨b₀, b₁, b₂, b₃, body, rfl, ?_, hlength, fun k hk a ha => ?_⟩
    · unfold requestOf
      rw [hdata]
      rfl
    · have hk' : k + 4 < maxRequestSize := by
        simp only [List.length_cons] at hb
        omega
      have haddr : a = chunkAddress i ⟨k + 4, hk'⟩ := by
        apply Fin.ext
        rw [ha]
        show (bodyAddress i : ℕ) + k = i * maxRequestSize + (k + 4)
        rw [bodyAddress_val, Nat.add_assoc, Nat.add_comm 4 k]
      rw [haddr]
      show s'.chunkByte i ⟨k + 4, hk'⟩ = body[k]
      rw [hchunk]
      show (b₀ :: b₁ :: b₂ :: b₃ :: body).getD (k + 4) _ = body[k]
      rw [List.getD_eq_getElem?_getD]
      simp [hk]
  | [] | [_] | [_, _] | [_, _, _] => simp [hdata] at h

/-! ## The call -/

section

variable {s₀ : Server} {arrivals : List (ℤ × SockaddrIn)}

theorem reported_iff :
    s.isReadable (s₀.polledFds revents) i = true ↔ s.Reported revents i := isReadable_iff

theorem gone_iff :
    s.isClosed (s₀.polledFds revents) recv i = true ↔ s.Gone revents recv i := by
  unfold isClosed
  rw [Bool.and_eq_true, reported_iff]
  rfl

theorem recorded_iff :
    s.isRequest (s₀.polledFds revents) recv i = true ↔
      s.Reported revents i ∧ 4 ≤ (recv i).data.length := by
  unfold isRequest
  rw [Bool.and_eq_true, reported_iff, decide_eq_true_iff]

/-- The second loop, in terms of the table it finds. -/
theorem handleRequests_scanned :
    Scanned (s₀.registerAll arrivals) (s₀.polledFds revents) recv (List.finRange maxConnections)
      (s₀.handleRequests arrivals revents recv) :=
  scan_scanned (List.nodup_finRange maxConnections)

theorem handleRequests_table (h₀ : TableInvariant s₀) :
    TableInvariant (s₀.handleRequests arrivals revents recv).server := by
  have hrep : ∃ t, Represents (s₀.handleRequests arrivals revents recv).server t :=
    scan_represents (registerAll_represents h₀.represents)
  obtain ⟨t, ht⟩ := hrep
  exact ht.tableInvariant

theorem mem_requests {r : Request} :
    r ∈ (s₀.handleRequests arrivals revents recv).requests ↔
      ∃ i, ((s₀.registerAll arrivals).Reported revents i ∧ 4 ≤ (recv i).data.length) ∧
        (s₀.registerAll arrivals).requestOf recv i = r := by
  rw [handleRequests_scanned.requests, List.mem_map]
  refine exists_congr fun i => and_congr_left fun _ => ?_
  rw [List.mem_filter, recorded_iff]
  exact ⟨fun h => h.2, fun h => ⟨List.mem_finRange i, h⟩⟩

/-- The chunk of a slot that was read from. -/
theorem handleRequests_chunk (hi : (s₀.registerAll arrivals).Reported revents i) :
    (s₀.handleRequests arrivals revents recv).server.chunkByte i
      = SlotView.fill ((s₀.registerAll arrivals).chunkByte i) (recv i).data := by
  rw [handleRequests_scanned.chunk, if_pos ⟨List.mem_finRange i, reported_iff.mpr hi⟩]

/-- A call of `recv`, and the socket it was made on. -/
theorem handleRequests_received (hpoll : s₀.HonestRevents revents) {c : RecvCall}
    (hc : c ∈ (s₀.handleRequests arrivals revents recv).recvCalls) :
    c.connection.isActive = true ∧ c.fd = c.connection.controlSocket ∧
      s₀.pollfds c.slot = ⟨c.fd, pollIn, 0⟩ ∧ revents c.slot &&& pollIn ≠ 0 := by
  rw [handleRequests_scanned.recvCalls] at hc
  obtain ⟨i, hi, rfl⟩ := List.mem_map.mp hc
  have hread := (List.mem_filter.mp hi).2
  obtain ⟨hsame, hfd⟩ := readable_held hpoll hread
  have hact := isReadable_active hread
  refine ⟨hact, ?_, ?_, (isReadable_iff.mp hread).2⟩
  · show (s₀.pollfds i).fd = ((s₀.registerAll arrivals).connections i).controlSocket
    rw [hsame, hfd]
  · rw [hsame] at hact
    show s₀.pollfds i = ⟨(s₀.pollfds i).fd, pollIn, 0⟩
    unfold pollfds
    rw [if_pos hact]

end

/-- **The call keeps its contract.** -/
theorem handleRequests_batch (s₀ : Server) (arrivals : List (ℤ × SockaddrIn))
    (revents : Slot → BitVec 16) (recv : Slot → RecvResult) (h₀ : TableInvariant s₀)
    (hpoll : s₀.HonestRevents revents) :
    RequestBatch s₀ (s₀.registerAll arrivals) revents recv
      (s₀.handleRequests arrivals revents recv) := by
  have hscan : Scanned (s₀.registerAll arrivals) (s₀.polledFds revents) recv
      (List.finRange maxConnections) (s₀.handleRequests arrivals revents recv) :=
    handleRequests_scanned
  refine
    { length_le := ?_
      increasing := ?_
      mem_iff := fun i => ?_
      decoded := fun r hr => ?_
      gone := fun i hi => ?_
      kept := fun i hi => ?_
      keptBits := fun k hk => ?_
      count := ?_
      table := handleRequests_table h₀
      received := fun c hc => handleRequests_received hpoll hc
      receivedSlots := ?_ }
  · rw [hscan.requests, List.length_map]
    exact (List.length_filter_le _ _).trans_eq List.length_finRange
  · rw [hscan.requests, List.pairwise_map, List.pairwise_filter]
    refine (List.pairwise_lt_finRange maxConnections).imp fun {i j} hij hi _ => ?_
    exact ⟨Int.ofNat_lt.mpr hij, requestOf_disjoint hij (recorded_iff.mp hi).2⟩
  · constructor
    · rintro ⟨r, hr, hri⟩
      obtain ⟨j, hj, rfl⟩ := mem_requests.mp hr
      have hji : j = i := Fin.ext (Int.ofNat_inj.mp hri)
      exact hji ▸ hj
    · intro hi
      exact ⟨_, mem_requests.mpr ⟨i, hi, rfl⟩, rfl⟩
  · obtain ⟨i, ⟨hi, h₄⟩, rfl⟩ := mem_requests.mp hr
    obtain ⟨b₀, b₁, b₂, b₃, body, hdata, htype, hlength, hbody⟩ :=
      requestOf_decoded h₄ (handleRequests_chunk hi)
    refine ⟨i, b₀, b₁, b₂, b₃, body, rfl, hdata, htype, hlength, ?_, ?_, hbody⟩
    · exact Nat.le_add_right _ _
    · rw [← hlength]
      exact requestOf_end h₄
  · have hclosed : (s₀.registerAll arrivals).isClosed (s₀.polledFds revents) recv i = true :=
      gone_iff.mpr hi
    refine ⟨?_, ?_⟩
    · rw [hscan.connections, if_pos ⟨List.mem_finRange i, hclosed⟩]
    · rw [← Bool.not_eq_true, hscan.mask]
      rintro ⟨-, hbit⟩
      exact hbit i (List.mem_finRange i) hclosed rfl
  · rw [hscan.connections, if_neg fun hc => hi (gone_iff.mp hc.2)]
  · rw [Bool.eq_iff_iff, hscan.mask]
    refine ⟨fun h => h.1, fun h => ⟨h, fun i _ hc hki => hk i hki (gone_iff.mp hc)⟩⟩
  · rw [hscan.count, length_filter_finRange]
    simp only [gone_iff]
  · rw [hscan.recvCalls, List.map_map]
    simp only [Function.comp_def, recvCallOf, List.map_id']
    refine List.filter_congr fun i _ => ?_
    rw [Bool.eq_iff_iff, reported_iff, decide_eq_true_iff]

end Server
end Esp32Eye
