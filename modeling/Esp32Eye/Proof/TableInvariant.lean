import Esp32Eye.Proof.Components
import Esp32Eye.Proof.Table
import Esp32Eye.Schedule

/-!
# The connection table over whole runs

Every step of the connection side is, on the table, one of the operations of `ClientTable` or
nothing (`Rule.table`), so the layout represents *some* table in every reachable state, whatever
`accept`, `poll` and `recv` return and whoever calls `server_disconnect_client`.

Distinct sockets need one thing from outside, that `accept` does not return a descriptor that is
open, and one thing from inside: the descriptor that was accepted and is not in the table yet. It
is carried by the program point of the accept task, and the invariant `Sockets` speaks of it.
-/

namespace Esp32Eye

open Lib

/-! ## The layout represents a table -/

/-- What a step of the connection side does to the table. -/
inductive TableStep (t : ClientTable) : ClientTable → Prop
  | same : TableStep t t
  | connect {i : Slot} {fd : ℤ} {addr : SockaddrIn} (h : t i = none) :
      TableStep t (t.connect i (ClientTable.arriving fd addr))
  | disconnect {i : Slot} : TableStep t (t.disconnect i)
  | interest {i : Slot} {b : Bool} : TableStep t (t.setInterest i b)

namespace Network

variable {n n' : Network} {m m' : Option Task} {a : NetworkAction} {es : List NetworkEvent}
  {t : ClientTable}

theorem readable_active {fds : Slot → Pollfd} {i : Slot} (h : n.readable fds i = true) :
    (n.server.connections i).isActive = true := by
  unfold readable at h
  exact (Bool.and_eq_true _ _ |>.mp h).1

/-- **The code's table refines the abstract one.** -/
theorem Rule.table (hr : n.Rule m a m' n' es) (h : Represents n.server t) :
    ∃ t', TableStep t t' ∧ Represents n'.server t' := by
  cases hr with
  | register hpc hi =>
    have ht : t _ = none := h.empty_iff.mp (Server.firstInactive_free hi)
    exact ⟨_, .connect ht, h.register ht⟩
  | @scanReceived _ fds i requests result hpc hread =>
    have hs : Represents (n.server.serveSlot i result).1 _ := h.serveSlot (readable_active hread)
    split at hs
    · exact ⟨_, .disconnect, hs⟩
    · exact ⟨_, .same, hs⟩
  | @update _ clientIndex isInterested _ hpc =>
    cases ha : n.server.activeSlot clientIndex with
    | none =>
      refine ⟨t, .same, ?_⟩
      rw [Server.update_inactive ha]
      exact h
    | some i => exact ⟨_, .interest, h.update ha⟩
  | @disconnect clientIndex =>
    cases ha : n.server.activeSlot clientIndex with
    | none =>
      refine ⟨t, .same, ?_⟩
      show Represents (n.server.disconnectClientNoSync clientIndex) t
      rw [Server.disconnect_inactive ha]
      exact h
    | some i => exact ⟨_, .disconnect, h.disconnect ha⟩
  | _ => exact ⟨t, .same, h⟩

end Network

theorem represents_appRun (b : System.Boot) :
    Represents (System.appRun b).network.server fun _ => none := by
  refine ⟨fun _ => rfl, by simp [System.appRun, occupied], fun k => ?_⟩
  simp [System.appRun]

/-- In every reachable state the static variables represent some table. -/
theorem NetworkRun.represents {C : Network → NetworkAction → Prop} {n₀ n : Network}
    {tr : List NetworkEvent} {t₀ : ClientTable} (h₀ : Represents n₀.server t₀)
    (h : NetworkRun C n₀ tr n) : ∃ t, Represents n.server t := by
  refine h.invariant (I := fun _ n => ∃ t, Represents n.server t) ⟨t₀, h₀⟩ ?_
  rintro tr n a n' es ⟨t, ht⟩ - ⟨m, m', hr⟩
  obtain ⟨t', -, ht'⟩ := hr.table ht
  exact ⟨t', ht'⟩

/-! ## What the server's functions do to the slots -/

namespace Server

variable {s : Server} {i : Slot}

theorem register_connections {fd : ℤ} {addr : SockaddrIn} :
    (s.register i fd addr).connections
      = Function.update s.connections i (ClientTable.arriving fd addr).connection := rfl

/-- Registering changes no other slot. -/
theorem register_other {fd : ℤ} {addr : SockaddrIn} {j : Slot} (hj : j ≠ i) :
    (s.register i fd addr).connections j = s.connections j := by
  rw [register_connections, Function.update_of_ne hj]

theorem disconnect_connections {clientIndex : ℤ} (ha : s.activeSlot clientIndex = some i) :
    (s.disconnectClientNoSync clientIndex).connections
      = Function.update s.connections i {} := by
  unfold disconnectClientNoSync
  rw [ha]

theorem serveSlot_connections {result : RecvResult} (ha : (s.connections i).isActive = true) :
    (s.serveSlot i result).1.connections
      = if result.closes then Function.update s.connections i {} else s.connections := by
  obtain ⟨data, hd⟩ := serveSlot_table (s := s) (i := i) result
  rw [hd]
  split
  · exact disconnect_connections (activeSlot_coe ha)
  · rfl

/-- `recv` for one slot changes no other. -/
theorem serveSlot_other {result : RecvResult} {j : Slot} (ha : (s.connections i).isActive = true)
    (hj : j ≠ i) : (s.serveSlot i result).1.connections j = s.connections j := by
  rw [serveSlot_connections ha]
  split
  · rw [Function.update_of_ne hj]
  · rfl

theorem disconnect_count {clientIndex : ℤ} (ha : s.activeSlot clientIndex = some i) :
    (s.disconnectClientNoSync clientIndex).numActiveConnections = s.numActiveConnections - 1 := by
  unfold disconnectClientNoSync
  rw [ha]

theorem serveSlot_count {result : RecvResult} (ha : (s.connections i).isActive = true) :
    (s.serveSlot i result).1.numActiveConnections
      = if result.closes then s.numActiveConnections - 1 else s.numActiveConnections := by
  obtain ⟨data, hd⟩ := serveSlot_table (s := s) (i := i) result
  rw [hd]
  split
  · exact disconnect_count (activeSlot_coe ha)
  · rfl

theorem update_connections {clientIndex : ℤ} {b : Bool} :
    (s.updateClientVideoInterest clientIndex b).1.connections = s.connections := by
  unfold updateClientVideoInterest
  split <;> rfl

theorem update_count {clientIndex : ℤ} {b : Bool} :
    (s.updateClientVideoInterest clientIndex b).1.numActiveConnections
      = s.numActiveConnections := by
  unfold updateClientVideoInterest
  split <;> rfl

end Server

/-! ## Distinct sockets -/

/-- The descriptor that was accepted and is not registered yet. -/
def AcceptPc.pending : AcceptPc → Option ℤ
  | .hello fd _ => some fd
  | .registerTake fd _ => some fd
  | .register fd _ => some fd
  | _ => none

/-- `accept` returns a descriptor only if it is not open. -/
def Network.AcceptsFresh (n : Network) : NetworkAction → Prop
  | .accept (.accepted fd _) => 0 ≤ fd → fd ∉ n.lwip.descriptors
  | _ => True

/-- The sockets of the table and the accepted one are open, and no two of them are equal. -/
structure Sockets (n : Network) : Prop where
  isOpen : ∀ i, (n.server.connections i).isActive = true →
    (n.server.connections i).controlSocket ∈ n.lwip.clients
  pendingOpen : ∀ fd, n.accept.pending = some fd → fd ∈ n.lwip.clients
  pendingNew : ∀ fd, n.accept.pending = some fd →
    ∀ i, (n.server.connections i).isActive = true → (n.server.connections i).controlSocket ≠ fd
  distinct : ∀ i j, (n.server.connections i).isActive = true →
    (n.server.connections j).isActive = true →
    (n.server.connections i).controlSocket = (n.server.connections j).controlSocket → i = j

namespace Sockets

variable {n n' : Network}

/-- Emptying a slot cannot break it. -/
theorem clear {i : Slot} (h : Sockets n) (hl : n'.lwip = n.lwip) (hp : n'.accept = n.accept)
    (hc : n'.server.connections = Function.update n.server.connections i {}) : Sockets n' := by
  have key : ∀ j, (n'.server.connections j).isActive = true →
      (n.server.connections j).isActive = true ∧
        n'.server.connections j = n.server.connections j := by
    intro j hj
    rw [hc] at hj ⊢
    rcases eq_or_ne j i with rfl | hne
    · simp at hj
    · rw [Function.update_of_ne hne] at hj ⊢
      exact ⟨hj, rfl⟩
  refine ⟨fun j hj => ?_, ?_, fun fd hfd j hj => ?_, fun j k hj hk he => ?_⟩
  · rw [(key j hj).2, hl]; exact h.isOpen j (key j hj).1
  · rw [hp, hl]; exact h.pendingOpen
  · rw [(key j hj).2]; exact h.pendingNew fd (hp ▸ hfd) j (key j hj).1
  · rw [(key j hj).2, (key k hk).2] at he
    exact h.distinct j k (key j hj).1 (key k hk).1 he

/-- A step that leaves the slots and the socket layer alone keeps it, as long as it does not
    invent a pending descriptor. -/
theorem same (h : Sockets n) (hl : n'.lwip = n.lwip)
    (hc : n'.server.connections = n.server.connections)
    (hp : n'.accept.pending = none ∨ n'.accept.pending = n.accept.pending) : Sockets n' := by
  have hpend : ∀ fd, n'.accept.pending = some fd → n.accept.pending = some fd := by
    intro fd hfd
    rcases hp with hp | hp
    · rw [hp] at hfd; cases hfd
    · rw [← hp]; exact hfd
  refine ⟨?_, fun fd hfd => ?_, fun fd hfd => ?_, ?_⟩
  · rw [hc, hl]; exact h.isOpen
  · rw [hl]; exact h.pendingOpen fd (hpend fd hfd)
  · rw [hc]; exact h.pendingNew fd (hpend fd hfd)
  · rw [hc]; exact h.distinct

theorem accepted {fd : ℤ} {addr : SockaddrIn} (h : Sockets n)
    (hfresh : fd ∉ n.lwip.descriptors) :
    Sockets { n with lwip := n.lwip.accept fd, accept := .hello fd addr } := by
  have hnew : fd ∉ n.lwip.clients := fun hm => hfresh (Finset.mem_union_right _ hm)
  refine ⟨fun i hi => ?_, ?_, ?_, h.distinct⟩
  · exact Finset.mem_insert_of_mem (h.isOpen i hi)
  · rintro _ ⟨⟩
    exact Finset.mem_insert_self _ _
  · rintro _ ⟨⟩ i hi he
    exact hnew (he ▸ h.isOpen i hi)

theorem register {fd : ℤ} {addr : SockaddrIn} {i : Slot} (h : Sockets n)
    (hpc : n.accept = .register fd addr) :
    Sockets { n with server := n.server.register i fd addr, accept := .clientsCount } := by
  have hp : n.accept.pending = some fd := by rw [hpc]; rfl
  have hself : (n.server.register i fd addr).connections i
      = (ClientTable.arriving fd addr).connection := by
    rw [Server.register_connections, Function.update_self]
  have hother : ∀ j, j ≠ i →
      (n.server.register i fd addr).connections j = n.server.connections j := by
    intro j hj
    rw [Server.register_connections, Function.update_of_ne hj]
  refine ⟨fun j hj => ?_, ?_, ?_, fun j k hj hk he => ?_⟩
  · show ((n.server.register i fd addr).connections j).controlSocket ∈ n.lwip.clients
    rcases eq_or_ne j i with rfl | hne
    · rw [hself]; exact h.pendingOpen fd hp
    · rw [hother j hne]; exact h.isOpen j (by rw [← hother j hne]; exact hj)
  · rintro _ ⟨⟩
  · rintro _ ⟨⟩
  · simp only at hj hk he
    -- the new socket is the pending one, which no other slot has
    rcases eq_or_ne j i with rfl | hji
    · rcases eq_or_ne k j with rfl | hki
      · rfl
      · rw [hself, hother k hki] at he
        exact absurd he.symm (h.pendingNew fd hp k (by rw [← hother k hki]; exact hk))
    · rcases eq_or_ne k i with rfl | hki
      · rw [hself, hother j hji] at he
        exact absurd he (h.pendingNew fd hp j (by rw [← hother j hji]; exact hj))
      · rw [hother j hji, hother k hki] at he
        rw [hother j hji] at hj
        rw [hother k hki] at hk
        exact h.distinct j k hj hk he

end Sockets

/-- **One step keeps the sockets apart.** -/
theorem Network.Rule.sockets {n n' : Network} {m m' : Option Task} {a : NetworkAction}
    {es : List NetworkEvent} (hr : n.Rule m a m' n' es) (hfresh : n.AcceptsFresh a)
    (h : Sockets n) : Sockets n' := by
  cases hr with
  | accepted hpc hfd => exact h.accepted (hfresh hfd)
  | register hpc hi => exact h.register hpc
  | @scanReceived _ fds i requests result hpc hread =>
    have hc : (n.server.serveSlot i result).1.connections = _ :=
      Server.serveSlot_connections (readable_active hread)
    split at hc
    · exact h.clear rfl rfl hc
    · exact h.same rfl hc (Or.inr rfl)
  | update hpc => exact h.same rfl Server.update_connections (Or.inr rfl)
  | @disconnect clientIndex =>
    cases ha : n.server.activeSlot clientIndex with
    | none => exact h.same rfl (by rw [Server.disconnect_inactive ha]) (Or.inr rfl)
    | some i => exact h.clear rfl rfl (Server.disconnect_connections ha)
  | hello hpc | registerTake hpc => exact h.same rfl rfl (Or.inr (by rw [hpc]; rfl))
  | enter | full | room | acceptFailed | registerFull | clientsCount | setAvailable | setNothing
  | setConnected => exact h.same rfl rfl (Or.inl rfl)
  | _ => exact h.same rfl rfl (Or.inr rfl)

theorem sockets_appRun (b : System.Boot) : Sockets (System.appRun b).network where
  isOpen := fun _ hi => absurd hi (by simp [System.appRun])
  pendingOpen := fun _ hfd => absurd hfd (by simp [System.appRun, AcceptPc.pending])
  pendingNew := fun _ hfd => absurd hfd (by simp [System.appRun, AcceptPc.pending])
  distinct := fun _ _ hi => absurd hi (by simp [System.appRun])

/-- In every state a run reaches under `AcceptsFresh` the sockets are apart. -/
theorem NetworkRun.sockets {n₀ n : Network} {tr : List NetworkEvent}
    {C : Network → NetworkAction → Prop} (hC : ∀ n a, C n a → n.AcceptsFresh a)
    (h₀ : Sockets n₀) (h : NetworkRun C n₀ tr n) : Sockets n := by
  refine h.invariant (I := fun _ n => Sockets n) h₀ ?_
  rintro tr n a n' es hn hc ⟨m, m', hr⟩
  exact hr.sockets (hC _ _ hc) hn

namespace System

theorem SystemRun.tableInvariant {p : System → Action → Bool} {b : Boot} {tr : List Event}
    {s : System} (h : SystemRun p (appRun b) tr s) : TableInvariant s.network.server := by
  have hnet := h.network (C := fun _ _ => True) fun _ _ _ => trivial
  obtain ⟨t, ht⟩ := hnet.represents (represents_appRun b)
  exact ht.tableInvariant

/-- The contract `acceptsFresh` is the one the connection side speaks of. -/
theorem acceptsFresh_network {s : System} {a : NetworkAction}
    (h : acceptsFresh s (.network a) = true) : s.network.AcceptsFresh a := by
  match a with
  | .accept (.accepted fd _) =>
    have h' : 0 ≤ fd → fd ∉ s.network.lwip.descriptors := of_decide_eq_true h
    exact h'
  | .accept .go | .request _ | .disconnect _ => trivial

/-- **The connection-table invariant.** For every run, with `server_disconnect_client` called by
    anyone with any index and every call to the outside returning anything: the counter, the
    interest mask and the zeroed slots agree with the flags whenever the mutex is free. If
    `accept` never returns an open descriptor, the active slots hold pairwise distinct sockets. -/
theorem connection_table_invariant (b : Boot) :
    (∀ tr s, SystemRun (fun _ _ => true) (appRun b) tr s → s.mutex = none →
      TableInvariant s.network.server) ∧
    (∀ tr s, SystemRun acceptsFresh (appRun b) tr s → s.mutex = none →
      ∀ i j, (s.network.server.connections i).isActive = true →
        (s.network.server.connections j).isActive = true → i ≠ j →
        (s.network.server.connections i).controlSocket
          ≠ (s.network.server.connections j).controlSocket) := by
  constructor
  · intro tr s hrun _
    exact hrun.tableInvariant
  · intro tr s hrun _ i j hi hj hij heq
    have hnet := hrun.network (C := Network.AcceptsFresh) fun _ _ => acceptsFresh_network
    have hs := hnet.sockets (fun _ _ h => h) (sockets_appRun b)
    exact hij (hs.distinct i j hi hj heq)

/-- Two clients have connected. -/
theorem connection_table_invariant_two :
    ∃ tr s, SystemRun acceptsFresh (appRun started) tr s ∧
      s.network.server.numActiveConnections = 2 ∧ TableInvariant s.network.server ∧
      (s.network.server.connections 0).controlSocket
        ≠ (s.network.server.connections 1).controlSocket := by
  obtain ⟨tr, s, hrun, hq⟩ := reaches (p := acceptsFresh) (b := started)
    (a := acceptRound 57 ++ acceptRound 58)
    (q := fun s _ => decide (s.mutex = none) &&
      decide (s.network.server.numActiveConnections = 2) &&
      (s.network.server.connections 0).isActive && (s.network.server.connections 1).isActive)
    (by decide +kernel)
  simp only [Bool.and_eq_true, decide_eq_true_eq] at hq
  obtain ⟨⟨⟨hm, hn⟩, h₀⟩, h₁⟩ := hq
  have hany : SystemRun (fun _ _ => true) (appRun started) tr s := hrun.mono fun _ _ _ => rfl
  have hinv := connection_table_invariant started
  exact ⟨tr, s, hrun, hn, hinv.1 tr s hany hm, hinv.2 tr s hrun hm 0 1 h₀ h₁ (by decide)⟩

end System
end Esp32Eye
