import Esp32Eye.Proof.Availability
import Esp32Eye.Proof.Startup

/-!
# Socket descriptors

`accept` opens a descriptor and nothing in the repository closes one. The table remembers it as
long as the client is there; `server_disconnect_client_no_sync` zeroes the slot and the descriptor
is lost. So the descriptors that are open are the sockets of the active slots (and the one between
`accept` and its registration) as long as no `recv` has returned an error or the end of the stream,
and from the first such return on at least one is open that the table has forgotten. `Tracked` is
both halves, over the trace.
-/

namespace Esp32Eye

open Lib

/-- Whether the event is a `recv` that ends its connection. -/
def NetworkEvent.ends : NetworkEvent → Bool
  | .received _ _ _ result => result.closes
  | _ => false

/-- No `recv` has returned an error or the end of the stream. -/
def NoneEnded (tr : List NetworkEvent) : Prop := ∀ e ∈ tr, e.ends = false

instance (tr : List NetworkEvent) : Decidable (NoneEnded tr) := by
  unfold NoneEnded
  infer_instance

namespace Network

/-- The `control_socket`s of the active slots. -/
def activeSockets (n : Network) : Finset ℤ :=
  (Finset.univ.filter fun i => (n.server.connections i).isActive = true).image fun i =>
    (n.server.connections i).controlSocket

/-- Slot and counter account for every descriptor: the ones `accept` returned are the sockets of
    the active slots, and with the server's own there are three more than clients. -/
def Conserved (n : Network) : Prop :=
  n.lwip.clients = n.activeSockets ∧
    (n.lwip.descriptors.card : ℤ) = 3 + n.server.numActiveConnections

/-- The socket layer has a descriptor left for the next `accept`. -/
def CanAccept (n : Network) : Prop := n.lwip.descriptors.card < lwipMaxSockets

/-- The descriptor is the socket of an active slot. -/
def Tracks (n : Network) (fd : ℤ) : Prop :=
  ∃ i, (n.server.connections i).isActive = true ∧ (n.server.connections i).controlSocket = fd

theorem mem_activeSockets {n : Network} {fd : ℤ} : fd ∈ n.activeSockets ↔ n.Tracks fd := by
  simp [activeSockets, Tracks]

end Network

structure Tracked (tr : List NetworkEvent) (n : Network) : Prop where
  kept : NoneEnded tr → ∀ fd ∈ n.lwip.clients, n.accept.pending = some fd ∨ n.Tracks fd
  lost : ¬ NoneEnded tr → ∃ fd ∈ n.lwip.clients, n.accept.pending ≠ some fd ∧ ¬ n.Tracks fd

/-- Between the capacity check and the registration the table has room: only this task fills it. -/
def Roomy (n : Network) : Prop :=
  (n.accept = .accept ∨ n.accept.pending.isSome = true) →
    n.server.numActiveConnections < maxConnections

/-- The server's own sockets are not handed out again. -/
def OwnApart (own : Finset ℤ) (n : Network) : Prop :=
  n.lwip.own = own ∧ Disjoint own n.lwip.clients

/-! ## One step -/

theorem noneEnded_append {es tr : List NetworkEvent} (hes : ∀ e ∈ es, e.ends = false) :
    NoneEnded (es ++ tr) ↔ NoneEnded tr := by
  unfold NoneEnded
  constructor
  · intro h e he
    exact h e (List.mem_append_right _ he)
  · intro h e he
    rcases List.mem_append.mp he with he | he
    · exact hes e he
    · exact h e he

theorem noneEnded_cons {e : NetworkEvent} {tr : List NetworkEvent} (he : e.ends = false) :
    NoneEnded (e :: tr) ↔ NoneEnded tr := by
  simp [NoneEnded, he]

namespace Server

variable {s : Server} {i : Slot}

theorem disconnect_count_le {clientIndex : ℤ} :
    (s.disconnectClientNoSync clientIndex).numActiveConnections ≤ s.numActiveConnections := by
  cases ha : s.activeSlot clientIndex with
  | none => rw [disconnect_inactive ha]
  | some i => rw [disconnect_count ha]; omega

theorem serveSlot_count_le {result : RecvResult} (ha : (s.connections i).isActive = true) :
    (s.serveSlot i result).1.numActiveConnections ≤ s.numActiveConnections := by
  rw [serveSlot_count ha]
  split <;> omega

end Server

namespace Tracked

variable {n n' : Network} {tr es : List NetworkEvent}

/-- A step that opens nothing, ends nothing and keeps every slot's socket. -/
theorem same (h : Tracked tr n) (hes : ∀ e ∈ es, e.ends = false)
    (hl : n'.lwip.clients = n.lwip.clients)
    (hs : n'.server.connections = n.server.connections)
    (hp : n'.accept.pending = n.accept.pending) : Tracked (es ++ tr) n' := by
  have ht : ∀ fd, n'.Tracks fd ↔ n.Tracks fd := by
    intro fd
    unfold Network.Tracks
    rw [hs]
  refine ⟨?_, ?_⟩
  · rw [noneEnded_append hes, hl, hp]
    intro hnone fd hfd
    exact (h.kept hnone fd hfd).imp_right (ht fd).mpr
  · rw [noneEnded_append hes, hl, hp]
    intro hsome
    obtain ⟨fd, hfd, hne, hnot⟩ := h.lost hsome
    exact ⟨fd, hfd, hne, fun hc => hnot ((ht fd).mp hc)⟩

theorem accepted {fd : ℤ} {addr : SockaddrIn} (h : Tracked tr n) (hpc : n.accept = .accept)
    (hfresh : fd ∉ n.lwip.descriptors) :
    Tracked (.accepted fd n.lwip.accepted addr :: tr)
      { n with lwip := n.lwip.accept fd, accept := .hello fd addr } := by
  have hends : NoneEnded (.accepted fd n.lwip.accepted addr :: tr) ↔ NoneEnded tr :=
    noneEnded_cons rfl
  have hnew : fd ∉ n.lwip.clients := fun hm => hfresh (Finset.mem_union_right _ hm)
  refine ⟨?_, ?_⟩
  · rw [hends]
    intro hnone fd' hfd'
    rcases Finset.mem_insert.mp hfd' with he | hfd'
    · rw [he]
      exact Or.inl rfl
    · rcases h.kept hnone fd' hfd' with hp | ht
      · rw [hpc] at hp; cases hp
      · exact Or.inr ht
  · rw [hends]
    intro hsome
    obtain ⟨fd', hfd', -, hnot⟩ := h.lost hsome
    refine ⟨fd', Finset.mem_insert_of_mem hfd', ?_, hnot⟩
    intro hp
    have he : fd = fd' := Option.some.inj hp
    exact hnew (he ▸ hfd')

theorem register {fd : ℤ} {addr : SockaddrIn} {i : Slot} (h : Tracked tr n)
    (hpc : n.accept = .register fd addr) (hi : n.server.firstInactive = some i) :
    Tracked (.registered i fd :: tr)
      { n with server := n.server.register i fd addr, accept := .clientsCount } := by
  have hends : NoneEnded (.registered i fd :: tr) ↔ NoneEnded tr := noneEnded_cons rfl
  have hfree := Server.firstInactive_free hi
  have hself : (n.server.register i fd addr).connections i
      = (ClientTable.arriving fd addr).connection := by
    rw [Server.register_connections, Function.update_self]
  refine ⟨?_, ?_⟩
  · rw [hends]
    intro hnone fd' hfd'
    refine Or.inr ?_
    rcases h.kept hnone fd' hfd' with hp | ⟨j, hj, hsock⟩
    · rw [hpc] at hp
      have he : fd = fd' := Option.some.inj hp
      refine ⟨i, ?_, ?_⟩
      · show ((n.server.register i fd addr).connections i).isActive = true
        rw [hself]; rfl
      · show ((n.server.register i fd addr).connections i).controlSocket = fd'
        rw [hself]; exact he
    · have hji : j ≠ i := by
        intro he
        rw [he, hfree] at hj
        cases hj
      refine ⟨j, ?_, ?_⟩
      · show ((n.server.register i fd addr).connections j).isActive = true
        rw [Server.register_other hji]; exact hj
      · show ((n.server.register i fd addr).connections j).controlSocket = fd'
        rw [Server.register_other hji]; exact hsock
  · rw [hends]
    intro hsome
    obtain ⟨fd', hfd', hne, hnot⟩ := h.lost hsome
    refine ⟨fd', hfd', (fun hp => nomatch hp), ?_⟩
    intro ht
    obtain ⟨j, hj, hsock⟩ := ht
    have hj : ((n.server.register i fd addr).connections j).isActive = true := hj
    have hsock : ((n.server.register i fd addr).connections j).controlSocket = fd' := hsock
    rcases eq_or_ne j i with hji | hji
    · rw [hji, hself] at hsock
      have hsock : fd = fd' := hsock
      rw [hpc] at hne
      exact hne (congrArg some hsock)
    · rw [Server.register_other hji] at hj hsock
      exact hnot ⟨j, hj, hsock⟩

/-- `recv` keeps the slot's client, or its descriptor is open and nobody's from here on. -/
theorem received {fds : Slot → Pollfd} {i : Slot} {requests : List Request} {fd : ℤ} {c : ℕ}
    {result : RecvResult} (h : Tracked tr n) (hs : Sockets n)
    (hact : (n.server.connections i).isActive = true) :
    Tracked (.received i fd c result :: tr)
      { n with
        server := (n.server.serveSlot i result).1, request := .scan fds (i + 1) requests } := by
  have hconn : (n.server.serveSlot i result).1.connections = _ :=
    Server.serveSlot_connections hact
  cases hclose : result.closes with
  | false =>
    rw [hclose, if_neg (by simp)] at hconn
    show Tracked ([.received i fd c result] ++ tr) _
    exact h.same (by simp [NetworkEvent.ends, hclose]) rfl hconn rfl
  | true =>
    rw [hclose, if_pos rfl] at hconn
    -- the descriptor that is lost is the one this slot had
    have hended : ¬ NoneEnded (.received i fd c result :: tr) := by
      intro hnone
      have := hnone _ List.mem_cons_self
      simp [NetworkEvent.ends, hclose] at this
    refine ⟨fun hnone => absurd hnone hended, fun _ => ?_⟩
    refine ⟨(n.server.connections i).controlSocket, hs.isOpen i hact, ?_, ?_⟩
    · intro hp
      exact hs.pendingNew _ hp i hact rfl
    · intro ht
      obtain ⟨j, hj, hsock⟩ := ht
      have hj : ((n.server.serveSlot i result).1.connections j).isActive = true := hj
      have hsock : ((n.server.serveSlot i result).1.connections j).controlSocket = _ := hsock
      rw [hconn] at hj hsock
      rcases eq_or_ne j i with hji | hji
      · rw [hji, Function.update_self] at hj
        cases hj
      · rw [Function.update_of_ne hji] at hj hsock
        exact hji (hs.distinct j i hj hact hsock)

end Tracked

namespace Network

variable {n n' : Network} {m m' : Option Task} {a : NetworkAction} {tr es : List NetworkEvent}

theorem Rule.roomy (hr : n.Rule m a m' n' es) (h : Roomy n) : Roomy n' := by
  cases hr with
  | room hpc hc => exact fun _ => hc
  | accepted hpc hfd => exact fun _ => h (Or.inl hpc)
  | hello hpc | registerTake hpc => exact fun _ => h (Or.inr (by rw [hpc]; rfl))
  | scanReceived _ hread =>
    exact fun hp => lt_of_le_of_lt (Server.serveSlot_count_le (readable_active hread)) (h hp)
  | update =>
    intro hp
    show (Server.updateClientVideoInterest _ _ _).1.numActiveConnections < _
    rw [Server.update_count]
    exact h hp
  | disconnect => exact fun hp => lt_of_le_of_lt Server.disconnect_count_le (h hp)
  | enter | full | acceptFailed | register | registerFull | clientsCount | setAvailable
  | setNothing | setConnected =>
    intro hp
    simp [AcceptPc.pending] at hp
  | _ => exact h

theorem Rule.ownApart {own : Finset ℤ} (hr : n.Rule m a m' n' es) (hfresh : n.AcceptsFresh a)
    (h : OwnApart own n) : OwnApart own n' := by
  cases hr with
  | accepted hpc hfd =>
    refine ⟨h.1, ?_⟩
    have hnew := hfresh hfd
    unfold Lwip.descriptors at hnew
    rw [Finset.mem_union, h.1, not_or] at hnew
    exact Finset.disjoint_insert_right.mpr ⟨hnew.1, h.2⟩
  | _ => exact h

/-- The registration finds a slot: nothing that was accepted is dropped. -/
theorem Rule.tracked {t : ClientTable} (hr : n.Rule m a m' n' es) (ha : a.ByTasks)
    (hfresh : n.AcceptsFresh a) (hs : Sockets n) (hroom : Roomy n)
    (ht : Represents n.server t) (h : Tracked tr n) : Tracked (es ++ tr) n' := by
  cases hr with
  | accepted hpc hfd => exact h.accepted hpc (hfresh hfd)
  | register hpc hi => exact h.register hpc hi
  | registerFull hpc hi =>
    -- this task saw room for one more, and the other can only have made more room
    exfalso
    have hlt := hroom (Or.inr (by rw [hpc]; rfl))
    obtain ⟨i, hfree⟩ := ht.exists_free hlt
    rw [hi] at hfree
    cases hfree
  | scanReceived hpc hread => exact h.received hs (readable_active hread)
  | update hpc => exact h.same (by simp [NetworkEvent.ends]) rfl Server.update_connections rfl
  | disconnect => cases ha
  | hello hpc | registerTake hpc =>
    exact h.same (by simp [NetworkEvent.ends]) rfl rfl (by rw [hpc]; rfl)
  | enter hpc | full hpc | room hpc | acceptFailed hpc | clientsCount hpc | setAvailable hpc
  | setNothing hpc | setConnected hpc =>
    exact h.same (by simp [NetworkEvent.ends]) rfl rfl (by rw [hpc]; rfl)
  | _ => exact h.same (by simp [NetworkEvent.ends]) rfl rfl rfl

end Network

/-! ## Every run -/

theorem tracked_appRun (b : System.Boot) : Tracked [] (System.appRun b).network where
  kept := fun _ _ hfd => nomatch hfd
  lost := fun hsome => absurd (fun _ he => nomatch he) hsome

theorem roomy_appRun (b : System.Boot) : Roomy (System.appRun b).network := by
  intro hp
  simp [System.appRun, AcceptPc.pending] at hp

section

variable {C : Network → NetworkAction → Prop} {n : Network} {tr : List NetworkEvent}
  {b : System.Boot}

theorem NetworkRun.roomy (h : NetworkRun C (System.appRun b).network tr n) : Roomy n := by
  refine h.invariant (I := fun _ n => Roomy n) (roomy_appRun b) ?_
  intro tr n a n' es hn hc hs
  obtain ⟨m, m', hr⟩ := hs
  exact hr.roomy hn

theorem NetworkRun.ownApart (hC : ∀ n a, C n a → a.ByTasks ∧ n.AcceptsFresh a)
    (h : NetworkRun C (System.appRun b).network tr n) :
    OwnApart {b.serverSocket, b.rtpSocket, b.broadcastSocket} n := by
  refine h.invariant (I := fun _ n => OwnApart _ n) ⟨rfl, Finset.disjoint_empty_right _⟩ ?_
  intro tr n a n' es hn hc hs
  obtain ⟨m, m', hr⟩ := hs
  exact hr.ownApart (hC _ _ hc).2 hn

theorem NetworkRun.tracked (hC : ∀ n a, C n a → a.ByTasks ∧ n.AcceptsFresh a)
    (h : NetworkRun C (System.appRun b).network tr n) : Tracked tr n := by
  refine h.invariant_of (J := fun _ n => Sockets n ∧ Roomy n ∧ ∃ t, Represents n.server t)
    (I := Tracked) ?_ (tracked_appRun b) ?_
  · intro tr n hr
    refine ⟨NetworkRun.sockets (fun _ _ hc => (hC _ _ hc).2) (sockets_appRun b) hr, ?_, ?_⟩
    · exact NetworkRun.roomy hr
    · exact NetworkRun.represents (represents_appRun b) hr
  · intro tr n a n' es hj hn hc hs
    obtain ⟨hsock, hroom, t, ht⟩ := hj
    obtain ⟨m, m', hr⟩ := hs
    exact hr.tracked (hC _ _ hc).1 (hC _ _ hc).2 hsock hroom ht hn

end

/-- There are as many active sockets as active slots. -/
theorem Sockets.card_activeSockets {n : Network} (h : Sockets n) (hi : TableInvariant n.server) :
    (n.activeSockets.card : ℤ) = n.server.numActiveConnections := by
  rw [hi.count]
  unfold Network.activeSockets
  rw [Finset.card_image_of_injOn]
  intro i hi j hj heq
  have hi : (n.server.connections i).isActive = true := by simpa using hi
  have hj : (n.server.connections j).isActive = true := by simpa using hj
  exact h.distinct i j hi hj heq

/-- With nothing pending, the clients' descriptors are the table's as long as nobody has left. -/
theorem Tracked.clients_iff {tr : List NetworkEvent} {n : Network} (h : Tracked tr n)
    (hsock : Sockets n) (hp : n.accept.pending = none) :
    n.lwip.clients = n.activeSockets ↔ NoneEnded tr := by
  constructor
  · intro hc
    by_contra hsome
    obtain ⟨fd, hfd, -, hnot⟩ := h.lost hsome
    rw [hc, Network.mem_activeSockets] at hfd
    exact hnot hfd
  · intro hnone
    ext fd
    rw [Network.mem_activeSockets]
    constructor
    · intro hfd
      rcases h.kept hnone fd hfd with hpend | htracks
      · rw [hp] at hpend
        cases hpend
      · exact htracks
    · intro htracks
      obtain ⟨i, hi, he⟩ := htracks
      exact he ▸ hsock.isOpen i hi

namespace System

/-- The server's own sockets are three. -/
theorem Boot.Started.card {b : Boot} (hb : b.Started) :
    ({b.serverSocket, b.rtpSocket, b.broadcastSocket} : Finset ℤ).card = 3 := by
  obtain ⟨-, -, -, h₁, h₂, h₃⟩ := hb
  rw [Finset.card_insert_of_notMem (by simp [h₁, h₂]),
    Finset.card_insert_of_notMem (by simp [h₃]), Finset.card_singleton]

/-- **Descriptors are conserved exactly as long as nobody leaves.** In every reachable state with
    no connection on its way into the table: the descriptors account for the clients if and only
    if no `recv` has ended a connection yet. And they do so with room for the next client, however
    many are connected, if and only if moreover the clients leave room for the server's own three
    sockets. -/
theorem descriptors_conserved (b : Boot) (hb : b.Started) (tr : List Event) (s : System)
    (hrun : SystemRun (fun s a => byTasks a && acceptsFresh s a) (appRun b) tr s)
    (hpending : s.network.accept.pending = none) :
    (s.network.Conserved ↔ NoneEnded (networkTrace tr)) ∧
    (s.network.Conserved ∧
        (s.network.server.numActiveConnections < lwipMaxSockets → s.network.CanAccept) ↔
      NoneEnded (networkTrace tr) ∧
        (s.network.server.numActiveConnections < lwipMaxSockets →
          s.network.server.numActiveConnections + 3 < lwipMaxSockets)) := by
  have hnet := hrun.tasksUnder fun _ _ => acceptsFresh_network
  have htracked := hnet.tracked fun _ _ hc => hc
  have hsock := hnet.sockets (fun _ _ hc => hc.2) (sockets_appRun b)
  obtain ⟨hown, hdisj⟩ := hnet.ownApart fun _ _ hc => hc
  have hclients := htracked.clients_iff hsock hpending
  have hcons : s.network.Conserved ↔ NoneEnded (networkTrace tr) := by
    refine ⟨fun hc => hclients.mp hc.1, fun hnone => ⟨hclients.mpr hnone, ?_⟩⟩
    have hcard := hsock.card_activeSockets hrun.tableInvariant
    unfold Lwip.descriptors
    rw [hown, Finset.card_union_of_disjoint hdisj, hb.card, hclients.mpr hnone]
    push_cast
    rw [hcard]
  refine ⟨hcons, ?_⟩
  rw [hcons]
  refine and_congr_right ?_
  intro hnone
  have hcard := (hcons.mpr hnone).2
  unfold Network.CanAccept
  refine forall_congr' fun _ => ?_
  constructor
  · intro hlt; omega
  · intro hlt; omega

/-- Two clients are connected and nobody has left. -/
theorem descriptors_conserved_two :
    ∃ tr s, SystemRun (fun s a => byTasks a && acceptsFresh s a) (appRun started) tr s ∧
      s.network.accept.pending = none ∧ s.network.server.numActiveConnections = 2 ∧
      s.network.Conserved := by
  obtain ⟨tr, s, hrun, hq⟩ := reaches (p := fun s a => byTasks a && acceptsFresh s a)
    (b := started) (a := acceptRound 57 ++ acceptRound 58)
    (q := fun s tr => decide (s.network.accept.pending = none) &&
      decide (s.network.server.numActiveConnections = 2) && decide (NoneEnded (networkTrace tr)))
    (by decide +kernel)
  simp only [Bool.and_eq_true, decide_eq_true_eq] at hq
  obtain ⟨⟨hp, hnum⟩, hnone⟩ := hq
  have hstarted : started.Started :=
    @App.boot_started ⟨54, 7, 55, 0, 56, 0, 0⟩ [99, 97, 109] 0 0
      (by unfold StartResults.Passed; decide) (by decide) (by decide) (by decide) (by decide)
      (by decide)
  have h := descriptors_conserved started hstarted tr s hrun hp
  exact ⟨tr, s, hrun, hp, hnum, h.1.mpr hnone⟩

/-- A client connects and leaves, and the next one does the same. -/
def comeAndGo (fd : ℤ) : List Action :=
  acceptRound fd ++ intoPoll ++ serve [delivered []] ++ finishSteps

/-- Seven clients have come and gone, one at a time. Nobody is connected, and the socket layer has
    no descriptor left. -/
theorem descriptors_leak :
    ∃ tr s, SystemRun (fun s a => honest s a && acceptsWithinLimit s a) (appRun started) tr s ∧
      s.network.accept.pending = none ∧ s.network.server.numActiveConnections = 0 ∧
      s.network.lwip.clients ≠ s.network.activeSockets ∧ ¬ s.network.CanAccept := by
  obtain ⟨tr, s, hrun, hq⟩ := reaches (p := fun s a => honest s a && acceptsWithinLimit s a)
    (b := started) (a := (List.range 7).flatMap fun k => comeAndGo (57 + k))
    (q := fun s _ => decide (s.network.accept.pending = none) &&
      decide (s.network.server.numActiveConnections = 0) &&
      decide (s.network.lwip.clients ≠ s.network.activeSockets) &&
      !decide (s.network.lwip.descriptors.card < lwipMaxSockets))
    (by decide +kernel)
  simp only [Bool.and_eq_true, decide_eq_true_eq, Bool.not_eq_true', decide_eq_false_iff_not] at hq
  obtain ⟨⟨⟨hp, hnum⟩, hne⟩, hfull⟩ := hq
  exact ⟨tr, s, hrun, hp, hnum, hne, hfull⟩

end System
end Esp32Eye
