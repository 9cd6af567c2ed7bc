import Esp32Eye.Proof.Batch
import Esp32Eye.Proof.Mutex
import Esp32Eye.Proof.Snapshot

/-!
# The tasks compute `Server.handleRequests`

From the point at which `task_handle_requests` has the mutex for the first time to the head of its
dispatch loop, everything that other tasks do to the table is to register clients, and they do it
while the call is in `poll` or waits for the mutex. `CallState` is what the interleaving has
computed at each of the points in between, as a piece of the one call; `SystemRun.handleRequests`
is the last of them.
-/

namespace Esp32Eye

open Lib

namespace Server

/-- The loop looks at the results of the slots it visits. -/
theorem scan_congr {s : Server} {fds : Slot → Pollfd} {recv recv' : Slot → RecvResult}
    {slots : List Slot} (h : ∀ i ∈ slots, recv i = recv' i) :
    s.scan fds recv slots = s.scan fds recv' slots := by
  refine List.foldl_ext _ _ _ fun b i hi => ?_
  unfold scanSlot
  rw [h i hi]

theorem scan_append {s : Server} {fds : Slot → Pollfd} {recv : Slot → RecvResult}
    {slots : List Slot} {i : Slot} :
    s.scan fds recv (slots ++ [i]) = scanSlot fds recv (s.scan fds recv slots) i := by
  unfold scan
  rw [List.foldl_append, List.foldl_cons, List.foldl_nil]

theorem registerAll_append {s : Server} {clients : List (ℤ × SockaddrIn)}
    {client : ℤ × SockaddrIn} :
    s.registerAll (clients ++ [client]) = (s.registerAll clients).registerNext client := by
  unfold registerAll
  rw [List.foldl_append, List.foldl_cons, List.foldl_nil]

/-- The loop body for a slot that was not visited, with the result its `recv` turns out to have. -/
theorem scan_turn {s : Server} {fds : Slot → Pollfd} {recv : Slot → RecvResult} {i : Slot}
    {result : RecvResult} :
    s.scan fds (Function.update recv i result) ((List.finRange maxConnections).take (i + 1))
      = scanSlot fds (Function.update recv i result)
          (s.scan fds recv ((List.finRange maxConnections).take i)) i := by
  rw [take_finRange_succ, scan_append]
  congr 1
  refine scan_congr fun j hj => Function.update_of_ne ?_ _ _
  rintro rfl
  exact not_mem_take_finRange hj

end Server

namespace RequestPc

/-- Within `server_handle_requests`, behind its first take. -/
def inCall : RequestPc → Bool
  | .snapshot | .poll _ | .scanTake _ | .scan _ _ _ => true
  | _ => false

def atSnapshot : RequestPc → Bool
  | .snapshot => true
  | _ => false

theorem atSnapshot_iff {pc : RequestPc} : pc.atSnapshot = true ↔ pc = .snapshot := by
  cases pc <;> simp [atSnapshot]

/-- What the dispatch loop is given. -/
def dispatching : RequestPc → Option (List Request)
  | .dispatch requests => some requests
  | _ => none

theorem dispatching_iff {pc : RequestPc} {requests : List Request} :
    pc.dispatching = some requests ↔ pc = .dispatch requests := by
  cases pc <;> simp [dispatching]

end RequestPc

/-- What the call that found the table `s₀` has come to. -/
inductive CallState (s₀ : Server) : RequestPc → Server → List RecvCall → Prop
  | snapshot : CallState s₀ .snapshot s₀ []
  | poll {arrivals : List (ℤ × SockaddrIn)} :
      CallState s₀ (.poll s₀.pollfds) (s₀.registerAll arrivals) []
  | scanTake {arrivals : List (ℤ × SockaddrIn)} {revents : Slot → BitVec 16}
      (hr : s₀.HonestRevents revents) :
      CallState s₀ (.scanTake (s₀.polledFds revents)) (s₀.registerAll arrivals) []
  | scan {arrivals : List (ℤ × SockaddrIn)} {revents : Slot → BitVec 16}
      {recv : Slot → RecvResult} {k : ℕ} {b : Batch}
      (hr : s₀.HonestRevents revents)
      (hb : (s₀.registerAll arrivals).scan (s₀.polledFds revents) recv
        ((List.finRange maxConnections).take k) = b) :
      CallState s₀ (.scan (s₀.polledFds revents) k b.requests) b.server b.recvCalls
  | done {arrivals : List (ℤ × SockaddrIn)} {revents : Slot → BitVec 16}
      {recv : Slot → RecvResult} {b : Batch} (hr : s₀.HonestRevents revents)
      (hb : s₀.handleRequests arrivals revents recv = b) :
      CallState s₀ (.dispatch b.requests) b.server b.recvCalls

/-- The calls of `recv` a trace shows, newest first: the slot and the descriptor. -/
def recvEvents (tr : List NetworkEvent) : List (Slot × ℤ) :=
  tr.filterMap fun
    | .received i fd _ _ => some (i, fd)
    | _ => none

def RecvCall.shown (c : RecvCall) : Slot × ℤ := (c.slot, c.fd)

/-! ## One step -/

namespace Network

variable {n n' : Network} {m m' : Option Task} {a : NetworkAction} {es : List NetworkEvent}
  {s₀ : Server} {calls : List RecvCall}

/-- A registration comes between the two critical sections. -/
theorem callState_register {fd : ℤ} {addr : SockaddrIn} {i : Slot}
    (hi : n.server.firstInactive = some i) (hin : n.request.inCall = true)
    (hout : n.request.holds = false) (h : CallState s₀ n.request n.server calls) :
    CallState s₀ n.request (n.server.register i fd addr) calls := by
  have hnext : ∀ {clients}, s₀.registerAll clients = n.server →
      n.server.register i fd addr = s₀.registerAll (clients ++ [(fd, addr)]) := by
    intro clients hs
    rw [Server.registerAll_append, hs]
    unfold Server.registerNext
    rw [hi]
  generalize hpc : n.request = pc at *
  generalize hs : n.server = s at *
  cases h with
  | snapshot | scan => cases hout
  | done => cases hin
  | poll =>
    rw [hnext rfl]
    exact .poll
  | scanTake hr =>
    rw [hnext rfl]
    exact .scanTake hr

theorem callState_snapshot {s : Server} (h : CallState s₀ .snapshot s calls) :
    CallState s₀ (.poll s.pollfds) s calls := by
  cases h with
  | snapshot => exact @CallState.poll s₀ []

theorem callState_polled {fds : Slot → Pollfd} {revents : Slot → BitVec 16} {s : Server}
    (hpoll : ∀ i, (fds i).fd < 0 → revents i = 0) (h : CallState s₀ (.poll fds) s calls) :
    CallState s₀ (.scanTake fun i => { fds i with revents := revents i }) s calls := by
  cases h with
  | poll => exact .scanTake hpoll

theorem callState_start {fds : Slot → Pollfd} {s : Server}
    (h : CallState s₀ (.scanTake fds) s calls) : CallState s₀ (.scan fds 0 []) s calls := by
  cases h with
  | @scanTake arrivals revents hr =>
    have hturn : (s₀.registerAll arrivals).scan (s₀.polledFds revents) (fun _ => .error)
        ((List.finRange maxConnections).take 0) = ⟨s₀.registerAll arrivals, [], []⟩ := rfl
    exact .scan hr hturn

/-- `recv` returns for a slot. -/
theorem callState_received {fds : Slot → Pollfd} {i : Slot} {requests : List Request}
    {result : RecvResult} {s : Server} (hread : s.isReadable fds i = true)
    (h : CallState s₀ (.scan fds i requests) s calls) :
    CallState s₀ (.scan fds (i + 1) (requests ++ (s.serveSlot i result).2.toList))
      (s.serveSlot i result).1 (calls ++ [s.recvCallOf fds i]) := by
  cases h with
  | @scan arrivals revents recv _ b hr hb =>
    have hturn : (s₀.registerAll arrivals).scan (s₀.polledFds revents)
        (Function.update recv i result) ((List.finRange maxConnections).take (i + 1)) = _ :=
      Server.scan_turn
    rw [hb, Server.scanSlot_serve hread, Function.update_self] at hturn
    exact .scan hr hturn

/-- A slot is passed over. -/
theorem callState_skip {fds : Slot → Pollfd} {i : Slot} {requests : List Request} {s : Server}
    (hread : s.isReadable fds i = false) (h : CallState s₀ (.scan fds i requests) s calls) :
    CallState s₀ (.scan fds (i + 1) requests) s calls := by
  cases h with
  | @scan arrivals revents recv _ b hr hb =>
    have hturn : (s₀.registerAll arrivals).scan (s₀.polledFds revents) recv
        ((List.finRange maxConnections).take (i + 1)) = b := by
      rw [take_finRange_succ, Server.scan_append, hb, Server.scanSlot_skip hread]
    exact .scan hr hturn

/-- The loop has run through. -/
theorem callState_done {fds : Slot → Pollfd} {k : ℕ} {requests : List Request} {s : Server}
    (hk : maxConnections ≤ k) (h : CallState s₀ (.scan fds k requests) s calls) :
    CallState s₀ (.dispatch requests) s calls := by
  cases h with
  | scan hr hb =>
    rw [List.take_of_length_le (by rw [List.length_finRange]; exact hk)] at hb
    exact .done hr hb

/-- **A step of any task, while the call is under way.** -/
theorem Rule.callState (hr : n.Rule m a m' n' es) (ha : a.ByTasks) (hpoll : n.PollsHonestly a)
    (hin : n.request.inCall = true) (hexcl : n.accept.holds = true → n.request.holds = false)
    (h : CallState s₀ n.request n.server calls) :
    ∃ new, CallState s₀ n'.request n'.server (calls ++ new) ∧
      recvEvents es = (new.map RecvCall.shown).reverse := by
  have hstill : ∀ {request server}, CallState s₀ request server calls →
      ∃ new, CallState s₀ request server (calls ++ new) ∧
        recvEvents [] = (new.map RecvCall.shown).reverse := by
    intro request server hc
    exact ⟨[], by rw [List.append_nil]; exact hc, rfl⟩
  cases hr with
  | register hpc hi =>
    exact hstill (callState_register hi hin (hexcl (by rw [hpc]; rfl)) h)
  | snapshot hpc => exact hstill (callState_snapshot (hpc ▸ h))
  | polled hpc => exact hstill (callState_polled (hpoll _ hpc) (hpc ▸ h))
  | scanTake hpc => exact hstill (callState_start (hpc ▸ h))
  | scanSkip hpc hread => exact hstill (callState_skip hread (hpc ▸ h))
  | @scanReceived _ fds i requests result hpc hread =>
    exact ⟨_, callState_received hread (hpc ▸ h), rfl⟩
  | scanDone hpc hk => exact hstill (callState_done hk (hpc ▸ h))
  | disconnect => cases ha
  | wait hpc | snapshotTake hpc | dispatchDone hpc | dispatchVideo hpc | dispatchOther hpc
  | updateTake hpc | update hpc | updateEvent hpc | countTake hpc | count hpc | clearAvailable hpc
  | keepAvailable hpc | interestTake hpc | interest hpc | clearInterested hpc
  | keepInterested hpc =>
    rw [hpc] at hin
    cases hin
  | _ => exact hstill h

end Network

/-! ## Every run -/

namespace System

variable {p : System → Action → Bool} {b : Boot} {tr₀ tr : List Event} {s₀ s : System}
  {requests : List Request}

/-- Only the tasks run, `poll` is honest, and the request task is inside the call. -/
def duringCall (s : System) (a : Action) : Bool :=
  byTasks a && pollsHonestly s a && s.network.request.inCall

theorem recvEvents_append {es tr : List NetworkEvent} :
    recvEvents (es ++ tr) = recvEvents es ++ recvEvents tr := List.filterMap_append

theorem networkTrace_append {es tr : List Event} :
    networkTrace (es ++ tr) = networkTrace es ++ networkTrace tr := List.filterMap_append

/-- The critical sections exclude each other. -/
theorem accept_excluded (hx : Exact s.mutex s.holds) (h : s.network.accept.holds = true) :
    s.network.request.holds = false := by
  rw [← Bool.not_eq_true]
  intro hr
  have heq : Task.acceptNewClients = .handleRequests := hx.unique h hr
  cases heq

theorem SystemRun.callState (hx : Exact s₀.mutex s₀.holds)
    (hpc : s₀.network.request = .snapshot) (h : SystemRun duringCall s₀ tr s) :
    ∃ calls, CallState s₀.network.server s.network.request s.network.server calls ∧
      recvEvents (networkTrace tr) = (calls.map RecvCall.shown).reverse := by
  have hboth : Exact s.mutex s.holds ∧
      ∃ calls, CallState s₀.network.server s.network.request s.network.server calls ∧
        recvEvents (networkTrace tr) = (calls.map RecvCall.shown).reverse := by
    refine h.invariant (I := fun tr s => Exact s.mutex s.holds ∧
      ∃ calls, CallState s₀.network.server s.network.request s.network.server calls ∧
        recvEvents (networkTrace tr) = (calls.map RecvCall.shown).reverse) ?_ ?_
    · refine ⟨hx, [], ?_, rfl⟩
      rw [hpc]
      exact .snapshot
    · rintro tr s a s' es ⟨hx, calls, hcall, hrecv⟩ hp hstep
      refine ⟨exact_step hstep hx, ?_⟩
      have hcontract : (byTasks a = true ∧ pollsHonestly s a = true) ∧
          s.network.request.inCall = true := by
        unfold duringCall at hp
        rw [Bool.and_eq_true, Bool.and_eq_true] at hp
        exact hp
      obtain ⟨⟨htasks, hpolls⟩, hin⟩ := hcontract
      rw [networkTrace_append]
      cases moved_of_step hstep with
      | network hr =>
        obtain ⟨new, hcall', hnew⟩ := hr.callState (byTasks_network htasks)
          (pollsHonestly_network hpolls) hin (accept_excluded hx) hcall
        refine ⟨_, hcall', ?_⟩
        rw [networkTrace, network?_map, recvEvents_append, hnew, hrecv, List.map_append,
          List.reverse_append]
      | pipeline =>
        refine ⟨calls, hcall, ?_⟩
        rw [networkTrace, network?_map_pipeline]
        exact hrecv
      | broadcast hes =>
        refine ⟨calls, hcall, ?_⟩
        rcases hes with rfl | rfl <;> exact hrecv
  exact hboth.2

/-- What the tasks compute is the call. -/
theorem SystemRun.handleRequests (hreach : SystemRun p (appRun b) tr₀ s₀)
    (hpc : s₀.network.request = .snapshot) (h : SystemRun duringCall s₀ tr s)
    (hdone : s.network.request = .dispatch requests) :
    ∃ arrivals revents recv batch,
      s₀.network.server.HonestRevents revents ∧
      s₀.network.server.handleRequests arrivals revents recv = batch ∧
      s.network.server = batch.server ∧ requests = batch.requests ∧
      recvEvents (networkTrace tr) = (batch.recvCalls.map RecvCall.shown).reverse := by
  obtain ⟨calls, hcall, hrecv⟩ := SystemRun.callState hreach.exact hpc h
  rw [hdone] at hcall
  generalize hs : s.network.server = server at hcall ⊢
  cases hcall with
  | done hr hb => exact ⟨_, _, _, _, hr, hb, rfl, rfl, hrecv⟩

/-- **The request batch.** For every table with the invariant, whatever is registered while the
    call is in `poll`, whatever `poll` reports and whatever `recv` returns, the call keeps its
    contract. And from a reachable state in which the request task has just taken the mutex, every
    interleaving that brings it to its dispatch loop is such a call, with the same table, the same
    requests and the same calls of `recv`. -/
theorem request_batch :
    (∀ (s₀ : Server) (arrivals : List (ℤ × SockaddrIn)) (revents : Slot → BitVec 16)
      (recv : Slot → RecvResult), TableInvariant s₀ → s₀.HonestRevents revents →
      Server.RequestBatch s₀ (s₀.registerAll arrivals) revents recv
        (s₀.handleRequests arrivals revents recv)) ∧
    (∀ (p : System → Action → Bool) (b : Boot) (tr₀ tr : List Event) (s₀ s : System)
      (requests : List Request), SystemRun p (appRun b) tr₀ s₀ →
      s₀.network.request = .snapshot → SystemRun duringCall s₀ tr s →
      s.network.request = .dispatch requests →
      TableInvariant s₀.network.server ∧
      ∃ arrivals revents recv batch,
        s₀.network.server.HonestRevents revents ∧
        s₀.network.server.handleRequests arrivals revents recv = batch ∧
        s.network.server = batch.server ∧ requests = batch.requests ∧
        recvEvents (networkTrace tr) = (batch.recvCalls.map RecvCall.shown).reverse) := by
  constructor
  · intro s₀ arrivals revents recv h₀ hpoll
    exact Server.handleRequests_batch s₀ arrivals revents recv h₀ hpoll
  · intro p b tr₀ tr s₀ s requests hreach hpc hrun hdone
    exact ⟨hreach.tableInvariant, SystemRun.handleRequests hreach hpc hrun hdone⟩

/-- One client is connected, on the descriptor 57. -/
def oneClient : Server := (appRun started).network.server.registerAll [(57, {})]

theorem oneClient_invariant : TableInvariant oneClient := by
  obtain ⟨t, ht⟩ := Server.registerAll_represents ⟨_, represents_appRun started⟩
  exact ht.tableInvariant

/-- `poll` reports slot 0 and no other. -/
def firstReadable : Slot → BitVec 16 := fun i => if i = 0 then pollIn else 0

theorem firstReadable_honest : oneClient.HonestRevents firstReadable := by
  unfold Server.HonestRevents
  decide +kernel

/-- The client turns its video on while a second one connects; and the request task comes from its
    first critical section to its dispatch loop. -/
theorem request_batch_one :
    (∃ r ∈ (oneClient.handleRequests [(58, {})] firstReadable fun _ =>
      .bytes (interestMessage true) (Nat.le_of_ble_eq_true rfl)).requests, r.clientIndex = 0) ∧
    ∃ (s₀ s : System) (arrivals : List (ℤ × SockaddrIn)) (revents : Slot → BitVec 16)
      (recv : Slot → RecvResult),
      s.network.request
        = .dispatch (s₀.network.server.handleRequests arrivals revents recv).requests ∧
      s.network.request ≠ .dispatch [] := by
  constructor
  · have hbatch := request_batch.1 oneClient [(58, {})] firstReadable
      (fun _ => .bytes (interestMessage true) (Nat.le_of_ble_eq_true rfl)) oneClient_invariant
      firstReadable_honest
    exact (hbatch.mem_iff 0).mpr (by decide +kernel)
  · obtain ⟨tr₀, s₀, hreach, hq⟩ := reaches (p := fun _ => byTasks) (b := started)
      (a := acceptRound 57 ++ requestSteps 2)
      (q := fun s _ => s.network.request.atSnapshot &&
        (exec step duringCall (requestSteps 1 ++ serve [delivered (interestMessage true)]) s []).any
          fun u => u.1.network.request.dispatching.any fun requests => requests ≠ [])
      (by decide +kernel)
    simp only [Bool.and_eq_true, Option.any_eq_true, decide_eq_true_eq] at hq
    obtain ⟨hat, ⟨s, tr⟩, hexec, requests, hdispatch, hne⟩ := hq
    have hdone := RequestPc.dispatching_iff.mp hdispatch
    obtain ⟨-, arrivals, revents, recv, batch, -, hbatch, -, hrequests, -⟩ :=
      request_batch.2 (fun _ => byTasks) started tr₀ tr s₀ s requests hreach
        (RequestPc.atSnapshot_iff.mp hat) (run_of_exec .start hexec) hdone
    refine ⟨s₀, s, arrivals, revents, recv, ?_, ?_⟩
    · rw [hbatch, ← hrequests, hdone]
    · rw [hdone]
      intro he
      exact hne (RequestPc.dispatch.inj he)

/-- The client leaves, and the counter does not stay what it was. -/
theorem request_batch_leaving :
    TableInvariant oneClient ∧ oneClient.HonestRevents firstReadable ∧
      (oneClient.handleRequests [] firstReadable fun _ =>
        .bytes [] (Nat.zero_le _)).server.numActiveConnections
          ≠ (oneClient.registerAll []).numActiveConnections := by
  refine ⟨oneClient_invariant, firstReadable_honest, ?_⟩
  decide +kernel

end System
end Esp32Eye
