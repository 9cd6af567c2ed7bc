import Esp32Eye.Proof.SlotView

/-!
# What a run does whatever the clients have said

The interest mask, the buffer and the one flag derived from the mask decide what the server sends.
They decide nothing about where the tasks go: which slots are filled, what is recorded and when a
task waits is the same for every content of them. `Network.erase` forgets that part of the state,
and it is again a state, so the erased system is the same program run on it. `Rule.erase` says that
every step is a step of the erased system too. Two runs under one schedule that begin alike up to
`erase` therefore stay alike (`Lockstep.step`), and receive the same.
-/

namespace Esp32Eye

open Lib

/-! ## The erased state -/

/-- A program point without the values that come from the buffer and from the mask. -/
def RequestPc.shape : RequestPc → RequestPc
  | .updateTake clientIndex _ requests => .updateTake clientIndex false requests
  | .update clientIndex _ requests => .update clientIndex false requests
  | .updateEvent _ _ requests => .updateEvent 0 0 requests
  | .interestClear _ => .interestClear 0
  | pc => pc

@[simp] theorem RequestPc.shape_shape (pc : RequestPc) : pc.shape.shape = pc.shape := by
  cases pc <;> rfl

/-- What is left once all that clients have said is forgotten; without `accepting` the accept task
    is forgotten as well. -/
def Network.erase (accepting : Bool) (n : Network) : Network where
  server :=
    { serverSocket := 0
      rtpSocket := 0
      broadcastSocket := 0
      numActiveConnections := n.server.numActiveConnections
      rtpSsid := 0
      videoInterestMask := 0
      recvBuffer := fun _ => 0
      connections := n.server.connections }
  eventGroup := n.eventGroup.clearBits clientsInterestedInVideoBit
  lwip := { own := ∅, clients := ∅, accepted := 0, connection := fun _ => 0 }
  deviceName := []
  accept := if accepting then n.accept else .enter
  request := n.request.shape

/-- An action of the accept task. -/
def NetworkAction.isAccept : NetworkAction → Bool
  | .accept _ => true
  | _ => false

namespace Network

variable {n k : Network} {accepting : Bool}

theorem erase_congr (hc : k.server.connections = n.server.connections)
    (hn : k.server.numActiveConnections = n.server.numActiveConnections)
    (hg : k.eventGroup.clearBits clientsInterestedInVideoBit
      = n.eventGroup.clearBits clientsInterestedInVideoBit)
    (ha : accepting = true → k.accept = n.accept) (hr : k.request.shape = n.request.shape) :
    k.erase accepting = n.erase accepting := by
  unfold erase
  rw [hc, hn, hg, hr]
  cases accepting with
  | false => rfl
  | true => rw [ha rfl]

/-! ## Steps that the flag and the buffer do not decide -/

theorem erase_available :
    (n.erase accepting).eventGroup.allSet clientsAvailableBit
      = n.eventGroup.allSet clientsAvailableBit := by
  apply EventBits.allSet_clearBits_of_disjoint
  decide

theorem clearInterested_update {g : EventBits} {previous new : BitVec 16} :
    (updateEventBits g previous new).clearBits clientsInterestedInVideoBit
      = g.clearBits clientsInterestedInVideoBit := by
  unfold updateEventBits
  split
  · exact EventBits.clearBits_setBits_self _ _
  · split
    · exact EventBits.clearBits_clearBits_self _ _
    · rfl

theorem clearInterested_set {g m : EventBits}
    (h : clientsInterestedInVideoBit &&& m = 0#24) :
    ((g.clearBits clientsInterestedInVideoBit).setBits m).clearBits clientsInterestedInVideoBit
      = (g.setBits m).clearBits clientsInterestedInVideoBit := by
  rw [EventBits.clearBits_setBits_comm h, EventBits.clearBits_setBits_comm h,
    EventBits.clearBits_clearBits_self]

end Network

namespace SlotView

/-- The header comes from what was received as soon as that is long enough. -/
theorem header_fill {c d : Fin maxRequestSize → UInt8} {data : List UInt8}
    (h : 4 ≤ data.length) : header (fill c data) = header (fill d data) := by
  have hk : ∀ k : Fin maxRequestSize, (k : ℕ) < 4 → fill c data k = fill d data k := by
    intro k hk
    have hlt : (k : ℕ) < data.length := by omega
    simp [fill, List.getD_eq_getElem?_getD, List.getElem?_eq_getElem hlt]
  unfold header
  rw [hk _ (by decide), hk _ (by decide), hk _ (by decide), hk _ (by decide)]

end SlotView

/-- What is recorded depends on what was received alone. -/
theorem Server.serveSlot_recorded {s s' : Server} {i : Slot} (result : RecvResult) :
    (s.serveSlot i result).2.toList = (s'.serveSlot i result).2.toList := by
  cases result with
  | error => rfl
  | bytes data hb =>
    rw [Server.serveSlot_requests, Server.serveSlot_requests]
    split
    · rename_i h
      rw [SlotView.header_fill h]
    · rfl

/-! ## One step -/

namespace Network

variable {n n' : Network} {m m' : Option Task} {es : List NetworkEvent} {accepting : Bool}

/-- `n'` is, up to `erase`, what the action makes of the erased state, and what it receives. -/
def Erases (accepting : Bool) (n : Network) (a : NetworkAction) (n' : Network)
    (es : List NetworkEvent) : Prop :=
  ∃ m k fs, (n.erase accepting).Rule none a m k fs ∧
    k.erase accepting = n'.erase accepting ∧ ∀ i, receivedBy i fs = receivedBy i es

theorem erase_accepting (h : accepting = true) : (n.erase accepting).accept = n.accept := by
  rw [h]
  rfl

/-- The accept task moves on and nothing else happens. -/
theorem erase_accept {pc : AcceptPc} :
    ({ n.erase true with accept := pc } : Network).erase true
      = ({ n with accept := pc } : Network).erase true :=
  erase_congr rfl rfl (EventBits.clearBits_clearBits_self _ _) (fun _ => rfl)
    n.request.shape_shape

/-- The request task moves on, and makes an event-group call that changes the flag alone or the
    others alike. -/
theorem erase_eventGroup {g g' : EventBits} {pc pc' : RequestPc}
    (hg : g.clearBits clientsInterestedInVideoBit = g'.clearBits clientsInterestedInVideoBit)
    (h : pc.shape = pc'.shape) :
    ({ n.erase accepting with eventGroup := g, request := pc } : Network).erase accepting
      = ({ n with eventGroup := g', request := pc' } : Network).erase accepting :=
  erase_congr rfl rfl hg erase_accepting h

/-- The request task moves on and nothing else happens. -/
theorem erase_request {pc pc' : RequestPc} (h : pc.shape = pc'.shape) :
    ({ n.erase accepting with request := pc } : Network).erase accepting
      = ({ n with request := pc' } : Network).erase accepting :=
  erase_eventGroup (EventBits.clearBits_clearBits_self _ _) h

theorem Rule.erase_acceptStep {input : AcceptInput} (hr : n.Rule m (.accept input) m' n' es) :
    Erases true n (.accept input) n' es := by
  cases hr with
  | enter hpc => exact ⟨_, _, _, .enter hpc, erase_accept, fun _ => rfl⟩
  | full hpc hc => exact ⟨_, _, _, .full hpc hc, erase_accept, fun _ => rfl⟩
  | room hpc hc => exact ⟨_, _, _, .room hpc hc, erase_accept, fun _ => rfl⟩
  | acceptFailed hpc hfd => exact ⟨_, _, _, .acceptFailed hpc hfd, erase_accept, fun _ => rfl⟩
  | accepted hpc hfd => exact ⟨_, _, _, .accepted hpc hfd, erase_accept, fun _ => rfl⟩
  | hello hpc => exact ⟨_, _, _, .hello hpc, erase_accept, fun _ => rfl⟩
  | registerTake hpc => exact ⟨_, _, _, .registerTake hpc, erase_accept, fun _ => rfl⟩
  | register hpc hi =>
    refine ⟨_, _, _, .register hpc hi, ?_, fun _ => rfl⟩
    exact erase_accept (n := { n with server := n.server.register _ _ _ })
  | registerFull hpc hi => exact ⟨_, _, _, .registerFull hpc hi, erase_accept, fun _ => rfl⟩
  | clientsCount hpc => exact ⟨_, _, _, .clientsCount hpc, erase_accept, fun _ => rfl⟩
  | setAvailable hpc =>
    refine ⟨_, _, _, .setAvailable hpc, ?_, fun _ => rfl⟩
    exact erase_congr rfl rfl (clearInterested_set (by decide)) (fun _ => rfl)
      n.request.shape_shape
  | setNothing hpc hc => exact ⟨_, _, _, .setNothing hpc hc, erase_accept, fun _ => rfl⟩
  | setConnected hpc =>
    refine ⟨_, _, _, .setConnected hpc, ?_, fun _ => rfl⟩
    exact erase_congr rfl rfl (clearInterested_set (by decide)) (fun _ => rfl)
      n.request.shape_shape

theorem Rule.erase_requestStep {input : RequestInput}
    (hr : n.Rule m (.request input) m' n' es) : Erases accepting n (.request input) n' es := by
  have hshape : ∀ {pc}, n.request = pc → (n.erase accepting).request = pc.shape :=
    fun h => congrArg RequestPc.shape h
  cases hr with
  | wait hpc hb =>
    exact ⟨_, _, _, .wait (hshape hpc) (erase_available.trans hb), erase_request rfl, fun _ => rfl⟩
  | snapshotTake hpc => exact ⟨_, _, _, .snapshotTake (hshape hpc), erase_request rfl, fun _ => rfl⟩
  | snapshot hpc => exact ⟨_, _, _, .snapshot (hshape hpc), erase_request rfl, fun _ => rfl⟩
  | polled hpc => exact ⟨_, _, _, .polled (hshape hpc), erase_request rfl, fun _ => rfl⟩
  | scanTake hpc => exact ⟨_, _, _, .scanTake (hshape hpc), erase_request rfl, fun _ => rfl⟩
  | scanSkip hpc hread =>
    exact ⟨_, _, _, .scanSkip (hshape hpc) hread, erase_request rfl, fun _ => rfl⟩
  | @scanReceived _ fds i requests result hpc hread =>
    refine ⟨_, _, _, .scanReceived (hshape hpc) hread, ?_, fun _ => rfl⟩
    have hact := readable_active hread
    have hact' : ((n.erase accepting).server.connections i).isActive = true := hact
    -- what is received may close the connection, and does so in both
    refine erase_congr ?_ ?_ (EventBits.clearBits_clearBits_self _ _) erase_accepting ?_
    · show ((n.erase accepting).server.serveSlot i result).1.connections
        = (n.server.serveSlot i result).1.connections
      rw [Server.serveSlot_connections hact, Server.serveSlot_connections hact']
      rfl
    · show ((n.erase accepting).server.serveSlot i result).1.numActiveConnections
        = (n.server.serveSlot i result).1.numActiveConnections
      rw [Server.serveSlot_count hact, Server.serveSlot_count hact']
      rfl
    · rw [Server.serveSlot_recorded]
  | scanDone hpc hk => exact ⟨_, _, _, .scanDone (hshape hpc) hk, erase_request rfl, fun _ => rfl⟩
  | dispatchDone hpc => exact ⟨_, _, _, .dispatchDone (hshape hpc), erase_request rfl, fun _ => rfl⟩
  | dispatchVideo hpc ht =>
    exact ⟨_, _, _, .dispatchVideo (hshape hpc) ht, erase_request rfl, fun _ => rfl⟩
  | dispatchOther hpc ht =>
    exact ⟨_, _, _, .dispatchOther (hshape hpc) ht, erase_request rfl, fun _ => rfl⟩
  | updateTake hpc => exact ⟨_, _, _, .updateTake (hshape hpc), erase_request rfl, fun _ => rfl⟩
  | update hpc =>
    refine ⟨_, _, _, .update (hshape hpc), ?_, fun _ => rfl⟩
    refine erase_congr ?_ ?_ (EventBits.clearBits_clearBits_self _ _) erase_accepting rfl
    · exact Server.update_connections.trans (Server.update_connections (s := n.server)).symm
    · exact Server.update_count.trans (Server.update_count (s := n.server)).symm
  | updateEvent hpc =>
    refine ⟨_, _, _, .updateEvent (hshape hpc), erase_eventGroup ?_ rfl, fun _ => rfl⟩
    rw [clearInterested_update, clearInterested_update]
    exact EventBits.clearBits_clearBits_self _ _
  | countTake hpc => exact ⟨_, _, _, .countTake (hshape hpc), erase_request rfl, fun _ => rfl⟩
  | count hpc => exact ⟨_, _, _, .count (hshape hpc), erase_request rfl, fun _ => rfl⟩
  | clearAvailable hpc =>
    refine ⟨_, _, _, .clearAvailable (hshape hpc), erase_eventGroup ?_ rfl, fun _ => rfl⟩
    rw [EventBits.clearBits_comm, EventBits.clearBits_comm n.eventGroup]
    exact congrArg (EventBits.clearBits · _) (EventBits.clearBits_clearBits_self _ _)
  | keepAvailable hpc hc =>
    exact ⟨_, _, _, .keepAvailable (hshape hpc) hc, erase_request rfl, fun _ => rfl⟩
  | interestTake hpc => exact ⟨_, _, _, .interestTake (hshape hpc), erase_request rfl, fun _ => rfl⟩
  | interest hpc => exact ⟨_, _, _, .interest (hshape hpc), erase_request rfl, fun _ => rfl⟩
  | clearInterested hpc =>
    refine ⟨_, _, _, .clearInterested (hshape hpc), erase_eventGroup ?_ rfl, fun _ => rfl⟩
    rw [EventBits.clearBits_clearBits_self, EventBits.clearBits_clearBits_self]
    exact EventBits.clearBits_clearBits_self _ _
  | keepInterested hpc hi =>
    -- the erased system has forgotten the mask and clears the flag, which it has forgotten too
    refine ⟨_, _, _, .clearInterested (hshape hpc), erase_eventGroup ?_ rfl, fun _ => rfl⟩
    rw [EventBits.clearBits_clearBits_self]
    exact EventBits.clearBits_clearBits_self _ _

/-- **A step of the tasks is a step of the erased system**, and receives the same. -/
theorem Rule.erases {a : NetworkAction} (hr : n.Rule m a m' n' es) (ha : a.ByTasks)
    (hacc : a.isAccept = true → accepting = true) : Erases accepting n a n' es := by
  cases a with
  | accept input =>
    obtain rfl := hacc rfl
    exact hr.erase_acceptStep
  | request input => exact hr.erase_requestStep
  | disconnect => cases ha

/-- The erased system is deterministic. -/
theorem Erases.unique {k k' : Network} {a : NetworkAction} {fs : List NetworkEvent}
    (h : n.erase accepting = k.erase accepting) (h₁ : Erases accepting n a n' es)
    (h₂ : Erases accepting k a k' fs) :
    n'.erase accepting = k'.erase accepting ∧ ∀ i, receivedBy i es = receivedBy i fs := by
  obtain ⟨_, n'', es', hr₁, hn, hes⟩ := h₁
  obtain ⟨_, k'', fs', hr₂, hk, hfs⟩ := h₂
  have hstep := hr₁.step
  rw [h, hr₂.step] at hstep
  cases hstep
  refine ⟨hn.symm.trans hk, fun i => ?_⟩
  rw [← hes i, hfs i]

end Network

/-! ## Two runs under one schedule -/

namespace System

/-- Two executions that are the same for all that the clients have said, and have received the
    same. -/
structure Alike (accepting : Bool) (tr : List Event) (s : System) (ur : List Event)
    (t : System) : Prop where
  erased : s.network.erase accepting = t.network.erase accepting
  received : ∀ i, receivedBy i (networkTrace tr) = receivedBy i (networkTrace ur)

/-- The action belongs to another task than the accept task, unless `accepting`. -/
def Follows (accepting : Bool) (a : Action) : Prop :=
  ∀ input, a = .network (.accept input) → accepting = true

variable {accepting : Bool} {tr ur es fs : List Event} {s s' t t' : System} {a : Action}

theorem Alike.step (h : Alike accepting tr s ur t) (ha : Follows accepting a)
    (hp : byTasks a = true) (h₁ : s.step a = some (s', es)) (h₂ : t.step a = some (t', fs)) :
    Alike accepting (es ++ tr) s' (fs ++ ur) t' := by
  have hreceived : ∀ i, receivedBy i (networkTrace es) = receivedBy i (networkTrace fs) →
      receivedBy i (networkTrace (es ++ tr)) = receivedBy i (networkTrace (fs ++ ur)) := by
    intro i he
    have hi := h.received i
    unfold networkTrace at he hi ⊢
    rw [List.filterMap_append, List.filterMap_append, receivedBy_append, receivedBy_append, he, hi]
  cases moved_of_step h₁ with
  | @network a _ _ es hr₁ =>
    cases moved_of_step h₂ with
    | @network _ _ _ fs hr₂ =>
      have hacc : a.isAccept = true → accepting = true := by
        cases a with
        | accept input => exact fun _ => ha input rfl
        | _ => exact fun hc => absurd hc (by simp [NetworkAction.isAccept])
      have htasks := byTasks_network hp
      obtain ⟨hn, hes⟩ := (hr₁.erases htasks hacc).unique h.erased (hr₂.erases htasks hacc)
      refine ⟨hn, fun i => hreceived i ?_⟩
      unfold networkTrace
      rw [network?_map, network?_map]
      exact hes i
  | pipeline =>
    cases moved_of_step h₂ with
    | pipeline =>
      refine ⟨h.erased, fun i => hreceived i ?_⟩
      unfold networkTrace
      rw [network?_map_pipeline, network?_map_pipeline]
  | broadcast hes =>
    cases moved_of_step h₂ with
    | broadcast hfs =>
      refine ⟨h.erased, fun i => hreceived i ?_⟩
      rcases hes with rfl | rfl <;> rcases hfs with rfl | rfl <;> rfl

/-- **What the clients have said does not change where the tasks go.** -/
theorem Alike.exec {as : List Action} (h : Alike accepting tr s ur t)
    (ha : ∀ a ∈ as, Follows accepting a) {es fs : List Event}
    (h₁ : Lib.exec System.step (fun _ a => byTasks a) as s tr = some (s', es))
    (h₂ : Lib.exec System.step (fun _ a => byTasks a) as t ur = some (t', fs)) :
    Alike accepting es s' fs t' :=
  exec_lockstep (fun ha hp h hn₁ hn₂ => h.step ha hp hn₁ hn₂) ha h h₁ h₂

end System
end Esp32Eye
