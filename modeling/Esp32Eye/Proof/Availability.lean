import Esp32Eye.Proof.Coverage

/-!
# `CLIENTS_AVAILABLE_BIT` and the number of clients

Both tasks read the counter in one step and write the bit in a later one, and the setter acts only
on a count of exactly one. The only step that clears the bit is the one after a count of zero, so
everything depends on what has happened by the time it is made (`clearsConsistently`): either still
nobody is connected and the accept task is not about to set the bit for a client that has left
again, or exactly one client has come and the accept task has not set the bit for it yet.

Under that condition `AvailableOk` holds throughout. A clear bit with a client connected means
that the accept task is on its way to set it; a set bit with nobody connected means that the
request task is on its way to clear it.
-/

namespace Esp32Eye

open Lib

def Network.available (n : Network) : Bool := n.eventGroup.allSet clientsAvailableBit

namespace RequestPc

/-- Between the wait that saw the bit set and the decision whether to clear it. -/
def inside : RequestPc → Bool
  | .wait => false
  | .interestTake => false
  | .interest => false
  | .interestClear _ => false
  | _ => true

/-- Where the count is still to be read, after the only loop that lowers it, or was read as zero. -/
def clearing : RequestPc → Bool
  | .scan _ _ _ => true
  | .dispatch _ => true
  | .updateTake _ _ _ => true
  | .update _ _ _ => true
  | .updateEvent _ _ _ => true
  | .countTake => true
  | .count => true
  | .countClear c => c = 0
  | _ => false

end RequestPc

structure AvailableOk (n : Network) : Prop where
  set : n.available = false → 0 < n.server.numActiveConnections →
    n.accept = .clientsCount ∧ n.server.numActiveConnections = 1 ∨ n.accept = .setAvailable 1
  seen : n.request.inside = true → n.available = true
  clear : n.available = true → n.server.numActiveConnections = 0 → n.request.clearing = true
  late : n.accept = .setAvailable 1 → n.server.numActiveConnections = 0 →
    n.request.clearing = true
  counted : ∀ count, n.request = .countClear count → count ≠ 0 →
    0 < n.server.numActiveConnections

/-- What the clearing of the bit must not overlap with. -/
def Network.ClearsConsistently (n : Network) : NetworkAction → Prop
  | .request .go =>
      n.request = .countClear 0 →
        n.server.numActiveConnections = 0 ∧ n.accept ≠ .setAvailable 1 ∨
        n.server.numActiveConnections = 1 ∧
          (n.accept = .clientsCount ∨ n.accept = .setAvailable 1)
  | _ => True

/-! ## The other event-group calls -/

section

variable {g : EventBits}

theorem available_setConnected :
    (g.setBits clientConnectedBit).allSet clientsAvailableBit = g.allSet clientsAvailableBit := by
  apply EventBits.allSet_setBits_of_disjoint
  decide

theorem available_clearInterested :
    (g.clearBits clientsInterestedInVideoBit).allSet clientsAvailableBit
      = g.allSet clientsAvailableBit := by
  apply EventBits.allSet_clearBits_of_disjoint
  decide

theorem available_clearAvailable :
    (g.clearBits clientsAvailableBit).allSet clientsAvailableBit = false := by
  apply EventBits.allSet_clearBits_self
  decide

theorem available_updateEventBits {previous new : BitVec 16} :
    (Network.updateEventBits g previous new).allSet clientsAvailableBit
      = g.allSet clientsAvailableBit := by
  unfold Network.updateEventBits
  split
  · apply EventBits.allSet_setBits_of_disjoint
    decide
  · split
    · exact available_clearInterested
    · rfl

end

/-! ## One step -/

namespace AvailableOk

variable {n n' : Network}

/-- The accept task moves where it is not concerned with the bit. -/
theorem accept_moves (h : AvailableOk n) (hs : n'.server = n.server)
    (hb : n'.available = n.available) (hr : n'.request = n.request)
    (hfrom : n.accept ≠ .clientsCount ∧ n.accept ≠ .setAvailable 1)
    (hto : n'.accept ≠ .setAvailable 1) : AvailableOk n' := by
  refine ⟨?_, ?_, ?_, ?_, ?_⟩
  · intro hclear hpos
    rw [hs] at hpos
    rw [hb] at hclear
    rcases h.set hclear hpos with hc | hc
    · exact absurd hc.1 hfrom.1
    · exact absurd hc hfrom.2
  · rw [hr, hb]; exact h.seen
  · rw [hr, hb, hs]; exact h.clear
  · intro he
    exact absurd he hto
  · rw [hr, hs]; exact h.counted

/-- The request task moves without touching counter or bit, towards the clearing if at all. -/
theorem request_moves (h : AvailableOk n)
    (hn : n'.server.numActiveConnections = n.server.numActiveConnections)
    (hb : n'.available = n.available) (ha : n'.accept = n.accept)
    (hin : n'.request.inside = true → n.request.inside = true)
    (hclear : n.request.clearing = true → n'.request.clearing = true)
    (hcount : ∀ count, n'.request ≠ .countClear count) : AvailableOk n' := by
  refine ⟨?_, ?_, ?_, ?_, ?_⟩
  · rw [hb, hn, ha]; exact h.set
  · intro hi
    rw [hb]
    exact h.seen (hin hi)
  · rw [hb, hn]
    intro hset hzero
    exact hclear (h.clear hset hzero)
  · rw [ha, hn]
    intro hset hzero
    exact hclear (h.late hset hzero)
  · intro count hc
    exact absurd hc (hcount count)

theorem register {fd : ℤ} {addr : SockaddrIn} {i : Slot} (h : AvailableOk n)
    (hpos : 0 ≤ n.server.numActiveConnections) (hpc : n.accept = .register fd addr) :
    AvailableOk { n with server := n.server.register i fd addr, accept := .clientsCount } := by
  have hcount : (n.server.register i fd addr).numActiveConnections
      = n.server.numActiveConnections + 1 := rfl
  refine ⟨?_, h.seen, ?_, ?_, ?_⟩
  · intro hclear _
    -- a clear bit means that nobody was connected, or the accept task would not be here
    have hzero : ¬ 0 < n.server.numActiveConnections := by
      intro hlt
      rcases h.set hclear hlt with hc | hc
      · rw [hpc] at hc; cases hc.1
      · rw [hpc] at hc; cases hc
    refine Or.inl ⟨rfl, ?_⟩
    show (n.server.register i fd addr).numActiveConnections = 1
    omega
  · intro _ hzero
    have hzero : (n.server.register i fd addr).numActiveConnections = 0 := hzero
    omega
  · intro he
    cases he
  · intro count hc hne
    have := h.counted count hc hne
    show 0 < (n.server.register i fd addr).numActiveConnections
    omega

/-- The scan may lower the counter; it is where the clearing begins. -/
theorem received {fds : Slot → Pollfd} {i : Slot} {requests requests' : List Request}
    {server : Server} (h : AvailableOk n) (hpc : n.request = .scan fds i requests) :
    AvailableOk { n with server := server, request := .scan fds (i + 1) requests' } := by
  have hset : n.available = true := h.seen (by rw [hpc]; rfl)
  refine ⟨?_, fun _ => hset, fun _ _ => rfl, fun _ _ => rfl, fun _ hc => nomatch hc⟩
  intro hclear
  have hclear : n.available = false := hclear
  rw [hset] at hclear
  cases hclear

/-- The accept task reads the counter. -/
theorem clientsCount (h : AvailableOk n) (hpc : n.accept = .clientsCount) :
    AvailableOk { n with accept := .setAvailable n.server.numActiveConnections } := by
  refine ⟨?_, h.seen, h.clear, ?_, h.counted⟩
  · intro hclear hlt
    rcases h.set hclear hlt with hc | hc
    · exact Or.inr (congrArg AcceptPc.setAvailable hc.2)
    · rw [hpc] at hc; cases hc
  · intro he hzero
    have he := AcceptPc.setAvailable.inj he
    have hzero : n.server.numActiveConnections = 0 := hzero
    omega

/-- It was the first client. -/
theorem setAvailable (h : AvailableOk n) (hpc : n.accept = .setAvailable 1) :
    AvailableOk { n with
      eventGroup := n.eventGroup.setBits clientsAvailableBit, accept := .setConnected } := by
  have hset : (n.eventGroup.setBits clientsAvailableBit).allSet clientsAvailableBit = true :=
    EventBits.allSet_setBits_self _ _
  refine ⟨?_, fun _ => hset, fun _ hzero => h.late hpc hzero, (fun he => nomatch he),
    h.counted⟩
  intro hclear
  have hclear : (n.eventGroup.setBits clientsAvailableBit).allSet clientsAvailableBit = false :=
    hclear
  rw [hset] at hclear
  cases hclear

/-- The request task finds the bit set. -/
theorem wait (h : AvailableOk n) (hpc : n.request = .wait) (hb : n.available = true) :
    AvailableOk { n with request := .snapshotTake } := by
  -- at the wait nothing is under way that would clear the bit, so nobody can be missing
  refine ⟨h.set, fun _ => hb, ?_, ?_, fun _ hc => nomatch hc⟩
  · intro _ hzero
    have := h.clear hb hzero
    rw [hpc] at this
    cases this
  · intro hset hzero
    have := h.late hset hzero
    rw [hpc] at this
    cases this

/-- It reads the counter. -/
theorem count (h : AvailableOk n) (hpos : 0 ≤ n.server.numActiveConnections)
    (hpc : n.request = .count) :
    AvailableOk { n with request := .countClear n.server.numActiveConnections } := by
  refine ⟨h.set, fun _ => h.seen (by rw [hpc]; rfl), ?_, ?_, ?_⟩
  · exact fun _ hzero => decide_eq_true hzero
  · exact fun _ hzero => decide_eq_true hzero
  · intro count hc hne
    have hc := RequestPc.countClear.inj hc
    rw [← hc] at hne
    show 0 < n.server.numActiveConnections
    omega

/-- The one step that can lose an update. -/
theorem clearAvailable
    (hclears : n.server.numActiveConnections = 0 ∧ n.accept ≠ .setAvailable 1 ∨
      n.server.numActiveConnections = 1 ∧
        (n.accept = .clientsCount ∨ n.accept = .setAvailable 1)) :
    AvailableOk { n with
      eventGroup := n.eventGroup.clearBits clientsAvailableBit, request := .interestTake } := by
  have hbit : (n.eventGroup.clearBits clientsAvailableBit).allSet clientsAvailableBit = false :=
    available_clearAvailable
  refine ⟨?_, (fun hin => nomatch hin), ?_, ?_, (fun _ hc => nomatch hc)⟩
  · intro _ hlt
    have hlt : 0 < n.server.numActiveConnections := hlt
    rcases hclears with ⟨hzero, -⟩ | ⟨hone, hacc⟩
    · omega
    · exact hacc.imp_left fun hc => ⟨hc, hone⟩
  · intro hset
    have hset : (n.eventGroup.clearBits clientsAvailableBit).allSet clientsAvailableBit = true :=
      hset
    rw [hbit] at hset
    cases hset
  · intro hset hzero
    have hzero : n.server.numActiveConnections = 0 := hzero
    rcases hclears with ⟨-, hne⟩ | ⟨hone, -⟩
    · exact absurd hset hne
    · omega

/-- Somebody is connected. -/
theorem keepAvailable {count : ℤ} (h : AvailableOk n) (hpc : n.request = .countClear count)
    (hc : count ≠ 0) : AvailableOk { n with request := .interestTake } := by
  have hlt := h.counted count hpc hc
  refine ⟨h.set, (fun hin => nomatch hin), ?_, ?_, (fun _ hc' => nomatch hc')⟩
  · intro _ hzero
    have hzero : n.server.numActiveConnections = 0 := hzero
    omega
  · intro _ hzero
    have hzero : n.server.numActiveConnections = 0 := hzero
    omega

end AvailableOk

namespace Network

variable {n n' : Network} {m m' : Option Task} {a : NetworkAction} {es : List NetworkEvent}

theorem Rule.availableOk (hr : n.Rule m a m' n' es) (ha : a.ByTasks)
    (hclears : n.ClearsConsistently a) (hpos : 0 ≤ n.server.numActiveConnections)
    (h : AvailableOk n) : AvailableOk n' := by
  cases hr with
  | register hpc hi => exact h.register hpos hpc
  | clientsCount hpc => exact h.clientsCount hpc
  | setAvailable hpc => exact h.setAvailable hpc
  | setNothing hpc hc =>
    exact h.accept_moves rfl rfl rfl (by simp [hpc, hc]) (by simp)
  | setConnected hpc =>
    exact h.accept_moves rfl available_setConnected rfl (by simp [hpc]) (by simp)
  | wait hpc hb => exact h.wait hpc hb
  | scanReceived hpc hread => exact h.received hpc
  | update hpc =>
    exact h.request_moves Server.update_count rfl rfl (by simp [hpc, RequestPc.inside])
      (by simp [RequestPc.clearing]) (by simp)
  | updateEvent hpc =>
    exact h.request_moves rfl available_updateEventBits rfl (by simp [hpc, RequestPc.inside])
      (by simp [RequestPc.clearing]) (by simp)
  | count hpc => exact h.count hpos hpc
  | clearAvailable hpc => exact .clearAvailable (hclears hpc)
  | keepAvailable hpc hc => exact h.keepAvailable hpc hc
  | clearInterested hpc =>
    exact h.request_moves rfl available_clearInterested rfl (by simp [RequestPc.inside])
      (by simp [hpc, RequestPc.clearing]) (by simp)
  | disconnect => cases ha
  | enter hpc | full hpc | room hpc | acceptFailed hpc | accepted hpc | hello hpc
  | registerTake hpc | registerFull hpc =>
    exact h.accept_moves rfl rfl rfl (by simp [hpc]) (by simp)
  | snapshotTake hpc | snapshot hpc | polled hpc | scanTake hpc | scanSkip hpc | scanDone hpc
  | dispatchDone hpc | dispatchVideo hpc | dispatchOther hpc | updateTake hpc | countTake hpc
  | interestTake hpc | interest hpc | keepInterested hpc =>
    exact h.request_moves rfl rfl rfl (by simp [hpc, RequestPc.inside])
      (by simp [hpc, RequestPc.clearing]) (by simp)

/-- `poll` is entered with the socket of a client in the set. -/
theorem Rule.poll_nonempty {t : ClientTable} (hr : n.Rule m a m' n' es) (h : AvailableOk n)
    (ht : Represents n.server t) (hsock : Nonneg n)
    (hn : ∀ fds, n.request = .poll fds → ∃ j, (fds j).fd ≠ -1) :
    ∀ fds, n'.request = .poll fds → ∃ j, (fds j).fd ≠ -1 := by
  cases hr with
  | snapshot hpc =>
    intro fds hfds
    cases hfds
    have hset := h.seen (by rw [hpc]; rfl)
    have hne : n.server.numActiveConnections ≠ 0 := by
      intro hzero
      have := h.clear hset hzero
      rw [hpc] at this
      cases this
    have hpos := ht.tableInvariant.range.1
    obtain ⟨j, hj⟩ := ht.count_pos.mp (by omega)
    refine ⟨j, ?_⟩
    have := hsock.socket j hj
    unfold Server.pollfds
    rw [if_pos hj]
    show (n.server.connections j).controlSocket ≠ -1
    omega
  | enter | full | room | acceptFailed | accepted | hello | registerTake | register | registerFull
  | clientsCount | setAvailable | setNothing | setConnected | disconnect => exact hn
  | _ => exact fun fds hfds => nomatch hfds

end Network

/-! ## Every run -/

theorem availableOk_appRun (b : System.Boot) : AvailableOk (System.appRun b).network where
  set := fun _ hpos => absurd hpos (lt_irrefl _)
  seen := fun hin => nomatch hin
  clear := fun hset => by simp [System.appRun, Network.available, EventBits.allSet,
    clientsAvailableBit] at hset
  late := fun hset => nomatch hset
  counted := fun _ hc => nomatch hc

section

variable {C : Network → NetworkAction → Prop} {n : Network} {tr : List NetworkEvent}
  {b : System.Boot}

theorem NetworkRun.availableOk (hC : ∀ n a, C n a → a.ByTasks ∧ n.ClearsConsistently a)
    (h : NetworkRun C (System.appRun b).network tr n) : AvailableOk n := by
  refine h.invariant_of (J := fun _ n => ∃ t, Represents n.server t) (I := fun _ n => AvailableOk n)
    (fun hr => NetworkRun.represents (represents_appRun b) hr) (availableOk_appRun b) ?_
  intro tr n a n' es hj hn hc hs
  obtain ⟨t, ht⟩ := hj
  obtain ⟨m, m', hr⟩ := hs
  exact hr.availableOk (hC _ _ hc).1 (hC _ _ hc).2 ht.tableInvariant.range.1 hn

theorem NetworkRun.poll_nonempty (hC : ∀ n a, C n a → a.ByTasks ∧ n.ClearsConsistently a)
    (h : NetworkRun C (System.appRun b).network tr n) :
    ∀ fds, n.request = .poll fds → ∃ j, (fds j).fd ≠ -1 := by
  refine h.invariant_of
    (J := fun _ n => AvailableOk n ∧ Nonneg n ∧ ∃ t, Represents n.server t)
    (I := fun _ n => ∀ fds, n.request = .poll fds → ∃ j, (fds j).fd ≠ -1) ?_ ?_ ?_
  · intro tr n hr
    refine ⟨NetworkRun.availableOk hC hr, NetworkRun.nonneg (nonneg_appRun b) hr, ?_⟩
    exact NetworkRun.represents (represents_appRun b) hr
  · intro fds hfds
    cases hfds
  · intro tr n a n' es hj hn hc hs
    obtain ⟨hav, hsock, t, ht⟩ := hj
    obtain ⟨m, m', hr⟩ := hs
    exact hr.poll_nonempty hav ht hsock hn

end

namespace System

/-- The step does not clear the bit at a moment at which that overlaps with a connection. -/
def clearsConsistently (s : System) : Action → Bool
  | .network (.request .go) =>
      match s.network.request with
      | .countClear 0 =>
          decide (s.network.server.numActiveConnections = 0 ∧
              s.network.accept ≠ .setAvailable 1 ∨
            s.network.server.numActiveConnections = 1 ∧
              (s.network.accept = .clientsCount ∨ s.network.accept = .setAvailable 1))
      | _ => true
  | _ => true

theorem clearsConsistently_network {s : System} {a : NetworkAction}
    (h : clearsConsistently s (.network a) = true) : s.network.ClearsConsistently a := by
  match a with
  | .request .go =>
    intro hpc
    simp only [clearsConsistently, hpc] at h
    exact of_decide_eq_true h
  | .request (.polled _) | .request (.received _) | .accept _ | .disconnect _ => trivial

/-- **The client-availability flag.** In every run in which the bit is cleared consistently: with
    the accept task blocked in `accept` and the request task at its wait the bit is set exactly
    when a client is connected; whenever the accept task is blocked in `accept` a connected client
    has the bit set, so nobody is parked on it; and `poll` never waits on nothing. -/
theorem available_flag (b : Boot) (tr : List Event) (s : System)
    (hrun : SystemRun (fun s a => byTasks a && clearsConsistently s a) (appRun b) tr s) :
    (s.network.accept = .accept → s.network.request = .wait →
      (s.network.eventGroup.allSet clientsAvailableBit = true
        ↔ 0 < s.network.server.numActiveConnections)) ∧
    (s.network.accept = .accept → 0 < s.network.server.numActiveConnections →
      s.network.eventGroup.allSet clientsAvailableBit = true) ∧
    ∀ fds, s.network.request = .poll fds → ∃ j, (fds j).fd ≠ -1 := by
  have hnet := hrun.tasksUnder fun _ _ => clearsConsistently_network
  have h := hnet.availableOk fun _ _ hc => hc
  have hset : s.network.accept = .accept → 0 < s.network.server.numActiveConnections →
      s.network.available = true := by
    intro hacc hlt
    rw [← Bool.not_eq_false]
    intro hclear
    rcases h.set hclear hlt with hc | hc
    · rw [hacc] at hc; cases hc.1
    · rw [hacc] at hc; cases hc
  refine ⟨?_, hset, hnet.poll_nonempty fun _ _ hc => hc⟩
  intro hacc hwait
  refine ⟨?_, hset hacc⟩
  intro hbit
  obtain ⟨t, ht⟩ := hnet.represents (represents_appRun b)
  have hpos := ht.tableInvariant.range.1
  have hne : s.network.server.numActiveConnections ≠ 0 := by
    intro hzero
    have := h.clear hbit hzero
    rw [hwait] at this
    cases this
  omega

/-- The only client leaves, the bit is cleared, and a second client comes afterwards. -/
theorem available_flag_next_client :
    ∃ tr s, SystemRun (fun s a => byTasks a && clearsConsistently s a) (appRun started) tr s ∧
      s.network.accept = .accept ∧ s.network.request = .wait ∧
      s.network.server.numActiveConnections = 1 ∧
      s.network.eventGroup.allSet clientsAvailableBit = true := by
  obtain ⟨tr, s, hrun, hq⟩ := reaches (p := fun s a => byTasks a && clearsConsistently s a)
    (b := started)
    (a := acceptRound 57 ++ intoPoll ++ serve [delivered []] ++ finishSteps ++ acceptRound 58
      ++ acceptSteps 2)
    (q := fun s _ => decide (s.network.accept = .accept) && s.network.request.atWait &&
      decide (s.network.server.numActiveConnections = 1))
    (by decide +kernel)
  simp only [Bool.and_eq_true, decide_eq_true_eq] at hq
  obtain ⟨⟨hacc, hat⟩, hnum⟩ := hq
  have hwait : s.network.request = .wait := RequestPc.atWait_iff.mp hat
  refine ⟨tr, s, hrun, hacc, hwait, hnum, ?_⟩
  apply ((available_flag started tr s hrun).1 hacc hwait).mpr
  rw [hnum]
  decide

/-- The second client comes between the request task's reading zero and its clearing the bit. The
    accept task sets the bit before it is cleared; the client stays connected and is not served. -/
theorem available_flag_lost_update :
    ∃ tr s, SystemRun honest (appRun started) tr s ∧ s.network.accept = .accept ∧
      s.network.request = .wait ∧ s.network.server.numActiveConnections = 1 ∧
      s.network.eventGroup.allSet clientsAvailableBit = false := by
  obtain ⟨tr, s, hrun, hq⟩ := reaches (p := honest) (b := started)
    (a := acceptRound 57 ++ intoPoll ++ serve [delivered []] ++ requestSteps 3 ++ acceptRound 58
      ++ acceptSteps 2 ++ requestSteps 4)
    (q := fun s _ => decide (s.network.accept = .accept) && s.network.request.atWait &&
      decide (s.network.server.numActiveConnections = 1) &&
      !s.network.eventGroup.allSet clientsAvailableBit)
    (by decide +kernel)
  simp only [Bool.and_eq_true, decide_eq_true_eq, Bool.not_eq_true'] at hq
  obtain ⟨⟨⟨hacc, hat⟩, hnum⟩, hbit⟩ := hq
  exact ⟨tr, s, hrun, hacc, RequestPc.atWait_iff.mp hat, hnum, hbit⟩

end System
end Esp32Eye
