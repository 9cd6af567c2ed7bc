import Esp32Eye.Proof.TableInvariant

/-!
# Requests that are recorded and not applied yet

`server_handle_requests` records requests under the mutex and `task_handle_requests` applies them
later, one critical section each. In between a request is only a slot index and a pointer into
`recv_buffer`. What makes that safe is stated here as `PendingOk`: as long as nobody but the tasks
disconnects a client, the recorded indices name pairwise different active slots, all of them behind
the scan, and each body pointer points into the chunk of its own slot.

The list of recorded indices only ever shrinks, except where the scan appends to it, so every rule
but `scanReceived` is an instance of `PendingOk.shrink`.
-/

namespace Esp32Eye

open Lib

/-! ## What a program point has recorded -/

namespace RequestPc

/-- The requests recorded and not dispatched yet. -/
def requests : RequestPc → List Request
  | .scan _ _ requests => requests
  | .dispatch requests => requests
  | .updateTake _ _ requests => requests
  | .update _ _ requests => requests
  | .updateEvent _ _ requests => requests
  | _ => []

/-- The argument of an `update_video_interest` that was called and has not updated yet. -/
def updating : RequestPc → List ℤ
  | .updateTake clientIndex _ _ => [clientIndex]
  | .update clientIndex _ _ => [clientIndex]
  | _ => []

/-- Every index that is still to be applied, in order. -/
def recorded (pc : RequestPc) : List ℤ := pc.updating ++ pc.requests.map Request.clientIndex

/-- How far the scan of this batch has come. -/
def scanned : RequestPc → ℕ
  | .scan _ k _ => k
  | _ => maxConnections

end RequestPc

structure PendingOk (n : Network) : Prop where
  increasing : n.request.recorded.Pairwise (· < ·)
  active : ∀ z ∈ n.request.recorded, ∃ i : Slot, z = (i : ℕ) ∧
    (n.server.connections i).isActive = true
  behind : ∀ z ∈ n.request.recorded, z < n.request.scanned
  body : ∀ r ∈ n.request.requests, ∃ i : Slot, r.clientIndex = (i : ℕ) ∧
    r.requestBody = Server.bodyAddress i

/-- Nobody calls `server_disconnect_client`. -/
def NetworkAction.ByTasks : NetworkAction → Prop
  | .disconnect _ => False
  | _ => True

theorem System.byTasks_network {a : NetworkAction}
    (h : System.byTasks (.network a) = true) : a.ByTasks := by
  cases a with
  | disconnect => cases h
  | accept | request => trivial

namespace Server

variable {s : Server} {i : Slot} {result : RecvResult} {r : Request}

/-- A recorded request names its own slot and points into that slot's chunk. -/
theorem serveSlot_request (h : (s.serveSlot i result).2 = some r) :
    r.clientIndex = (i : ℕ) ∧ r.requestBody = bodyAddress i := by
  cases result with
  | error => cases h
  | bytes data hb =>
    simp only [serveSlot] at h
    split at h
    · cases h
    · split at h
      · cases h
      · cases h
        exact ⟨rfl, rfl⟩

/-- No request is recorded from a `recv` that ended the connection. -/
theorem closes_of_request (h : (s.serveSlot i result).2 = some r) : result.closes = false := by
  cases result with
  | error => cases h
  | bytes data hb =>
    simp only [serveSlot] at h
    split at h
    · cases h
    · rename_i h₀
      simp [RecvResult.closes, h₀]

end Server

/-! ## One step -/

namespace PendingOk

variable {n n' : Network}

theorem shrink (h : PendingOk n) (hr : n'.request.recorded.Sublist n.request.recorded)
    (hq : n'.request.requests.Sublist n.request.requests)
    (ha : ∀ i : Slot, ((i : ℕ) : ℤ) ∈ n.request.recorded →
      (n.server.connections i).isActive = true → (n'.server.connections i).isActive = true)
    (hk : n.request.scanned ≤ n'.request.scanned) : PendingOk n' := by
  refine ⟨h.increasing.sublist hr, ?_, ?_, ?_⟩
  · intro z hz
    have hz' := hr.subset hz
    obtain ⟨i, hi, hact⟩ := h.active z hz'
    exact ⟨i, hi, ha i (hi ▸ hz') hact⟩
  · intro z hz
    have := h.behind z (hr.subset hz)
    omega
  · intro r hmem
    exact h.body r (hq.subset hmem)

/-- At a program point with nothing recorded there is nothing to show. -/
theorem idle (hu : n.request.updating = []) (hq : n.request.requests = []) : PendingOk n := by
  have hr : n.request.recorded = [] := by
    unfold RequestPc.recorded
    rw [hu, hq]
    rfl
  refine ⟨?_, ?_, ?_, ?_⟩
  · rw [hr]; exact .nil
  · rw [hr]; intro z hz; cases hz
  · rw [hr]; intro z hz; cases hz
  · rw [hq]; intro r hmem; cases hmem

/-- The scan looks at slot `i`; nothing recorded so far is about it. -/
theorem ne_scanned (h : PendingOk n) {fds : Slot → Pollfd} {i : Slot} {requests : List Request}
    (hpc : n.request = .scan fds i requests) {j : Slot}
    (hj : ((j : ℕ) : ℤ) ∈ n.request.recorded) : j ≠ i := by
  have hlt := h.behind _ hj
  rw [hpc] at hlt
  have hlt : ((j : ℕ) : ℤ) < ((i : ℕ) : ℤ) := hlt
  intro he
  rw [he] at hlt
  exact absurd hlt (lt_irrefl _)

/-- The scan records a request of slot `i` and goes on to the next one. -/
theorem record {fds : Slot → Pollfd} {i : Slot} {requests : List Request} {r : Request}
    (h : PendingOk n) (hpc : n.request = .scan fds i requests)
    (hpc' : n'.request = .scan fds (i + 1) (requests ++ [r])) (hindex : r.clientIndex = (i : ℕ))
    (hbody : r.requestBody = Server.bodyAddress i)
    (hact : (n'.server.connections i).isActive = true)
    (ha : ∀ j : Slot, ((j : ℕ) : ℤ) ∈ n.request.recorded →
      (n.server.connections j).isActive = true → (n'.server.connections j).isActive = true) :
    PendingOk n' := by
  have hrecorded : n'.request.recorded = n.request.recorded ++ [((i : ℕ) : ℤ)] := by
    rw [hpc, hpc']
    simp [RequestPc.recorded, RequestPc.updating, RequestPc.requests, hindex]
  have hbehind : ∀ z ∈ n.request.recorded, z < ((i : ℕ) : ℤ) := by
    intro z hz
    have hlt := h.behind z hz
    rw [hpc] at hlt
    exact hlt
  refine ⟨?_, ?_, ?_, ?_⟩
  · rw [hrecorded, List.pairwise_append]
    refine ⟨h.increasing, List.pairwise_singleton _ _, ?_⟩
    intro z hz w hw
    rw [List.mem_singleton.mp hw]
    exact hbehind z hz
  · rw [hrecorded]
    intro z hz
    rcases List.mem_append.mp hz with hz | hz
    · obtain ⟨j, hj, hactj⟩ := h.active z hz
      exact ⟨j, hj, ha j (hj ▸ hz) hactj⟩
    · exact ⟨i, List.mem_singleton.mp hz, hact⟩
  · rw [hrecorded, hpc']
    intro z hz
    show z < ((i + 1 : ℕ) : ℤ)
    push_cast
    rcases List.mem_append.mp hz with hz | hz
    · have hlt := hbehind z hz
      omega
    · rw [List.mem_singleton.mp hz]
      omega
  · rw [hpc']
    intro r' hmem
    rcases List.mem_append.mp hmem with hmem | hmem
    · exact h.body r' (by rw [hpc]; exact hmem)
    · rw [List.mem_singleton.mp hmem]
      exact ⟨i, hindex, hbody⟩

theorem received {fds : Slot → Pollfd} {i : Slot} {requests : List Request}
    {result : RecvResult} (h : PendingOk n) (hpc : n.request = .scan fds i requests)
    (hread : n.readable fds i = true) :
    PendingOk
      { n with
        server := (n.server.serveSlot i result).1
        request := .scan fds (i + 1) (requests ++ (n.server.serveSlot i result).2.toList) } := by
  have hconn : (n.server.serveSlot i result).1.connections = _ :=
    Server.serveSlot_connections (Network.readable_active hread)
  -- a slot that is recorded already is another one, and `recv` for slot `i` leaves it alone
  have hkeep : ∀ j : Slot, ((j : ℕ) : ℤ) ∈ n.request.recorded →
      (n.server.connections j).isActive = true →
        ((n.server.serveSlot i result).1.connections j).isActive = true := by
    intro j hj hact
    rw [Server.serveSlot_other (Network.readable_active hread) (h.ne_scanned hpc hj)]
    exact hact
  cases hq : (n.server.serveSlot i result).2 with
  | none =>
    refine h.shrink ?_ ?_ hkeep ?_ <;> rw [hpc]
    · simp [RequestPc.recorded, RequestPc.updating, RequestPc.requests]
    · simp [RequestPc.requests]
    · exact Nat.le_succ _
  | some r =>
    obtain ⟨hindex, hbody⟩ := Server.serveSlot_request hq
    refine h.record hpc rfl hindex hbody ?_ hkeep
    show ((n.server.serveSlot i result).1.connections i).isActive = true
    rw [hconn, if_neg (by simp [Server.closes_of_request hq])]
    exact Network.readable_active hread

end PendingOk

namespace Network

variable {n n' : Network} {m m' : Option Task} {a : NetworkAction} {es : List NetworkEvent}

theorem Rule.pending (hr : n.Rule m a m' n' es) (ha : a.ByTasks) (h : PendingOk n) :
    PendingOk n' := by
  cases hr with
  | register hpc hi =>
    refine h.shrink (List.Sublist.refl _) (List.Sublist.refl _) ?_ le_rfl
    intro j _ hj
    show (((n.server.register _ _ _).connections j)).isActive = true
    rw [Server.register_connections, Function.update_apply]
    split
    · rfl
    · exact hj
  | scanSkip hpc hread =>
    refine h.shrink ?_ ?_ (fun _ _ hj => hj) ?_ <;> rw [hpc]
    · exact List.Sublist.refl _
    · exact List.Sublist.refl _
    · exact Nat.le_succ _
  | scanReceived hpc hread => exact h.received hpc hread
  | scanDone hpc hk =>
    refine ⟨?_, ?_, ?_, ?_⟩
    · have := h.increasing; rw [hpc] at this; exact this
    · have := h.active; rw [hpc] at this; exact this
    · intro z hz
      obtain ⟨i, hi, -⟩ := h.active z (by rw [hpc]; exact hz)
      rw [hi]
      exact Int.ofNat_lt.mpr i.isLt
    · have := h.body; rw [hpc] at this; exact this
  | dispatchVideo hpc ht =>
    refine h.shrink ?_ ?_ (fun _ _ hj => hj) ?_ <;> rw [hpc]
    · exact List.Sublist.refl _
    · exact List.sublist_cons_self _ _
    · exact le_rfl
  | dispatchOther hpc ht =>
    refine h.shrink ?_ ?_ (fun _ _ hj => hj) ?_ <;> rw [hpc]
    · exact List.sublist_cons_self _ _
    · exact List.sublist_cons_self _ _
    · exact le_rfl
  | updateTake hpc =>
    refine h.shrink ?_ ?_ (fun _ _ hj => hj) ?_ <;> rw [hpc]
    · exact List.Sublist.refl _
    · exact List.Sublist.refl _
    · exact le_rfl
  | update hpc =>
    refine h.shrink ?_ ?_ ?_ ?_
    · rw [hpc]; exact List.sublist_cons_self _ _
    · rw [hpc]; exact List.Sublist.refl _
    · intro j _ hj
      rw [Server.update_connections]
      exact hj
    · rw [hpc]; exact le_rfl
  | updateEvent hpc =>
    refine h.shrink ?_ ?_ (fun _ _ hj => hj) ?_ <;> rw [hpc]
    · exact List.Sublist.refl _
    · exact List.Sublist.refl _
    · exact le_rfl
  | wait | snapshotTake | snapshot | polled | scanTake | dispatchDone | countTake | count
  | clearAvailable | keepAvailable | interestTake | interest | clearInterested | keepInterested =>
    exact PendingOk.idle rfl rfl
  | disconnect => cases ha
  | _ => exact ⟨h.increasing, h.active, h.behind, h.body⟩

end Network

theorem pending_appRun (b : System.Boot) : PendingOk (System.appRun b).network :=
  PendingOk.idle rfl rfl

/-- The recorded requests are in order in every state the tasks alone reach. -/
theorem NetworkRun.pending {C : Network → NetworkAction → Prop} {n₀ n : Network}
    {tr : List NetworkEvent} (hC : ∀ n a, C n a → a.ByTasks) (h₀ : PendingOk n₀)
    (h : NetworkRun C n₀ tr n) : PendingOk n := by
  refine h.invariant (I := fun _ n => PendingOk n) h₀ ?_
  intro tr n a n' es hn hc hs
  obtain ⟨m, m', hr⟩ := hs
  exact hr.pending (hC _ _ hc) hn

namespace System

variable {p : System → Action → Bool} {C : Network → NetworkAction → Prop} {b : Boot}
  {s₀ s : System} {tr : List Event}

/-- A run of the tasks, on the connection side. -/
theorem SystemRun.tasks (h : SystemRun (fun _ a => byTasks a) s₀ tr s) :
    NetworkRun (fun _ a => a.ByTasks) s₀.network (networkTrace tr) s.network :=
  h.network fun _ _ => byTasks_network

/-- The same under a further contract. -/
theorem SystemRun.tasksUnder (hC : ∀ s a, p s (.network a) = true → C s.network a)
    (h : SystemRun (fun s a => byTasks a && p s a) s₀ tr s) :
    NetworkRun (fun n a => a.ByTasks ∧ C n a) s₀.network (networkTrace tr) s.network := by
  refine h.network ?_
  intro s a ha
  rw [Bool.and_eq_true] at ha
  exact ⟨byTasks_network ha.1, hC s a ha.2⟩

theorem SystemRun.pending (h : SystemRun (fun _ a => byTasks a) (appRun b) tr s) :
    PendingOk s.network := h.tasks.pending (fun _ _ ha => ha) (pending_appRun b)

end System
end Esp32Eye
