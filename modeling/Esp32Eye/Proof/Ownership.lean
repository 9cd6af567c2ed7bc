import Esp32Eye.Proof.Interest
import Esp32Eye.Proof.Snapshot

/-!
# Interest belongs to the connection

A connection is the `accept` that created it, and `Lwip.connection` says which one a descriptor
stands for. `last c` reads off a trace what connection `c` asked for last: the newest dispatch of a
request that came in on `c`. `Owned` relates the two, bit by bit, and it needs to know three things
more to be kept by every step: different sockets are different connections, a connection that has
just been accepted was never heard, and whatever is recorded and not applied yet was received from
the client its slot still holds.
-/

namespace Esp32Eye

open Lib

/-! ## What a trace says about a connection -/

/-- The connection that the newest `recv` for slot `z` was made on. -/
def receivedOn (z : ℤ) : List NetworkEvent → Option ℕ
  | [] => none
  | .received i _ c _ :: tr => if ((i : ℕ) : ℤ) = z then some c else receivedOn z tr
  | _ :: tr => receivedOn z tr

/-- The truth value of the newest interest request dispatched that was received on `c`. -/
def last (c : ℕ) : List NetworkEvent → Bool
  | [] => false
  | .dispatched z isInterested :: tr =>
      if receivedOn z tr = some c then isInterested else last c tr
  | _ :: tr => last c tr

/-- Nothing was ever received on `c`. -/
def Unheard (c : ℕ) (tr : List NetworkEvent) : Prop :=
  ∀ i fd c' result, .received i fd c' result ∈ tr → c' ≠ c

/-- An event that neither receives nor dispatches. -/
def NetworkEvent.Quiet : NetworkEvent → Prop
  | .received _ _ _ _ => False
  | .dispatched _ _ => False
  | _ => True

section

variable {c : ℕ} {z : ℤ} {e : NetworkEvent} {tr : List NetworkEvent}

theorem receivedOn_quiet (h : e.Quiet) : receivedOn z (e :: tr) = receivedOn z tr := by
  cases e with
  | received | dispatched => cases h
  | _ => rfl

theorem last_quiet (h : e.Quiet) : last c (e :: tr) = last c tr := by
  cases e with
  | received | dispatched => cases h
  | _ => rfl

theorem Unheard.quiet (h : e.Quiet) (hu : Unheard c tr) : Unheard c (e :: tr) := by
  intro i fd c' result hmem
  rcases List.mem_cons.mp hmem with he | hmem
  · rw [← he] at h
    cases h
  · exact hu i fd c' result hmem

theorem Unheard.received {i : Slot} {fd : ℤ} {c' : ℕ} {result : RecvResult} (hu : Unheard c tr)
    (hne : c' ≠ c) : Unheard c (.received i fd c' result :: tr) := by
  intro j fd' c'' result' hmem
  rcases List.mem_cons.mp hmem with he | hmem
  · cases he
    exact hne
  · exact hu j fd' c'' result' hmem

theorem Unheard.dispatched {z' : ℤ} {b : Bool} (hu : Unheard c tr) :
    Unheard c (.dispatched z' b :: tr) := by
  intro i fd c' result hmem
  rcases List.mem_cons.mp hmem with he | hmem
  · cases he
  · exact hu i fd c' result hmem

theorem Unheard.receivedOn (hu : Unheard c tr) : receivedOn z tr ≠ some c := by
  induction tr with
  | nil => simp [Esp32Eye.receivedOn]
  | cons e tr ih =>
    have hu' : Unheard c tr := fun i fd c' result hmem =>
      hu i fd c' result (List.mem_cons_of_mem _ hmem)
    cases e with
    | received i fd c' result =>
      unfold Esp32Eye.receivedOn
      split
      · have := hu i fd c' result List.mem_cons_self
        simpa using this
      · exact ih hu'
    | _ => exact ih hu'

/-- A connection nothing was received on has asked for nothing. -/
theorem Unheard.last (hu : Unheard c tr) : last c tr = false := by
  induction tr with
  | nil => rfl
  | cons e tr ih =>
    have hu' : Unheard c tr := fun i fd c' result hmem =>
      hu i fd c' result (List.mem_cons_of_mem _ hmem)
    cases e with
    | dispatched z b =>
      unfold Esp32Eye.last
      rw [if_neg hu'.receivedOn]
      exact ih hu'
    | _ => exact ih hu'

end

/-! ## The relation between the trace and the table -/

/-- The connection that occupies slot `i`. -/
def Network.occupant (n : Network) (i : Slot) : ℕ :=
  n.lwip.connection (n.server.connections i).controlSocket

structure Owned (tr : List NetworkEvent) (n : Network) : Prop where
  below : ∀ fd ∈ n.lwip.clients, n.lwip.connection fd < n.lwip.accepted
  injective : ∀ fd ∈ n.lwip.clients, ∀ fd' ∈ n.lwip.clients,
    n.lwip.connection fd = n.lwip.connection fd' → fd = fd'
  future : ∀ c, n.lwip.accepted ≤ c → Unheard c tr
  arriving : ∀ fd, n.accept.pending = some fd → Unheard (n.lwip.connection fd) tr
  recorded : ∀ i : Slot, ((i : ℕ) : ℤ) ∈ n.request.recorded →
    receivedOn (i : ℕ) tr = some (n.occupant i)
  bit : ∀ i, (n.server.connections i).isActive = true →
    n.server.videoInterestMask.getLsbD i = last (n.occupant i) tr

namespace Owned

variable {n n' : Network} {tr es : List NetworkEvent}

/-- Two active slots are two connections. -/
theorem occupant_ne (h : Owned tr n) (hs : Sockets n) {i j : Slot} (hij : i ≠ j)
    (hi : (n.server.connections i).isActive = true)
    (hj : (n.server.connections j).isActive = true) : n.occupant i ≠ n.occupant j := by
  intro he
  apply hij
  apply hs.distinct i j hi hj
  exact h.injective _ (hs.isOpen i hi) _ (hs.isOpen j hj) he

/-- A step that changes neither the table nor the mask nor the descriptors, and forgets recorded
    requests at most. -/
theorem quiet (h : Owned tr n) (hes : ∀ e ∈ es, e.Quiet) (hl : n'.lwip = n.lwip)
    (hs : n'.server = n.server)
    (hp : n'.accept.pending = none ∨ n'.accept.pending = n.accept.pending)
    (hr : ∀ z ∈ n'.request.recorded, z ∈ n.request.recorded) : Owned (es ++ tr) n' := by
  induction es with
  | nil =>
    have hocc : n'.occupant = n.occupant := by
      funext i
      unfold Network.occupant
      rw [hl, hs]
    refine ⟨?_, ?_, ?_, ?_, ?_, ?_⟩
    · rw [hl]; exact h.below
    · rw [hl]; exact h.injective
    · rw [hl]; exact h.future
    · intro fd hfd
      rw [hl]
      rcases hp with hp | hp
      · rw [hp] at hfd; cases hfd
      · exact h.arriving fd (hp ▸ hfd)
    · intro i hi
      rw [hocc]
      exact h.recorded i (hr _ hi)
    · intro i hi
      rw [hs] at hi ⊢
      rw [hocc]
      exact h.bit i hi
  | cons e es ih =>
    have hq : e.Quiet := hes e List.mem_cons_self
    have h' := ih fun e he => hes e (List.mem_cons_of_mem _ he)
    refine ⟨h'.below, h'.injective, ?_, ?_, ?_, ?_⟩
    · intro c hc
      exact (h'.future c hc).quiet hq
    · intro fd hfd
      exact (h'.arriving fd hfd).quiet hq
    · intro i hi
      rw [List.cons_append, receivedOn_quiet hq]
      exact h'.recorded i hi
    · intro i hi
      rw [List.cons_append, last_quiet hq]
      exact h'.bit i hi

/-- A new connection comes in; nobody has heard of it. -/
theorem accepted {fd : ℤ} {addr : SockaddrIn} (h : Owned tr n) (hs : Sockets n)
    (hpend : PendingOk n) (hfresh : fd ∉ n.lwip.descriptors) :
    Owned (.accepted fd n.lwip.accepted addr :: tr)
      { n with lwip := n.lwip.accept fd, accept := .hello fd addr } := by
  have hnew : fd ∉ n.lwip.clients := fun hm => hfresh (Finset.mem_union_right _ hm)
  have hself : (n.lwip.accept fd).connection fd = n.lwip.accepted := Function.update_self ..
  have hold : ∀ fd' ∈ n.lwip.clients,
      (n.lwip.accept fd).connection fd' = n.lwip.connection fd' := by
    intro fd' hfd'
    apply Function.update_of_ne
    intro he
    exact hnew (he ▸ hfd')
  have hocc : ∀ i, (n.server.connections i).isActive = true →
      (n.lwip.accept fd).connection (n.server.connections i).controlSocket = n.occupant i :=
    fun i hi => hold _ (hs.isOpen i hi)
  have hq : NetworkEvent.Quiet (.accepted fd n.lwip.accepted addr) := trivial
  refine ⟨?_, ?_, ?_, ?_, ?_, ?_⟩
  · intro fd' hfd'
    show (n.lwip.accept fd).connection fd' < n.lwip.accepted + 1
    rcases Finset.mem_insert.mp hfd' with he | hfd'
    · rw [he, hself]; exact Nat.lt_succ_self _
    · rw [hold _ hfd']; exact Nat.lt_succ_of_lt (h.below _ hfd')
  -- the new number is above every number given so far
  · intro a ha b hb
    show (n.lwip.accept fd).connection a = (n.lwip.accept fd).connection b → a = b
    rcases Finset.mem_insert.mp ha with ha | ha <;> rcases Finset.mem_insert.mp hb with hb | hb
    · intro _; rw [ha, hb]
    · rw [ha, hself, hold _ hb]
      intro he
      exact absurd (he ▸ h.below _ hb) (lt_irrefl _)
    · rw [hb, hself, hold _ ha]
      intro he
      exact absurd (he ▸ h.below _ ha) (lt_irrefl _)
    · rw [hold _ ha, hold _ hb]
      exact h.injective _ ha _ hb
  · intro c hc
    exact (h.future c (Nat.le_of_succ_le hc)).quiet hq
  · intro fd' hfd'
    cases hfd'
    show Unheard ((n.lwip.accept fd).connection fd) _
    rw [hself]
    exact (h.future _ le_rfl).quiet hq
  · intro i hi
    obtain ⟨j, hj, hact⟩ := hpend.active _ hi
    have hij : i = j := Fin.ext (Int.ofNat_inj.mp hj)
    rw [receivedOn_quiet hq, h.recorded i hi]
    exact congrArg some (hocc i (hij ▸ hact)).symm
  · intro i hi
    rw [last_quiet hq]
    exact (h.bit i hi).trans (congrArg (fun c => last c tr) (hocc i hi).symm)

/-- The new connection is put into a slot whose bit is clear. -/
theorem register {fd : ℤ} {addr : SockaddrIn} {i : Slot} {t : ClientTable} (h : Owned tr n)
    (hpend : PendingOk n) (ht : Represents n.server t) (hpc : n.accept = .register fd addr)
    (hi : n.server.firstInactive = some i) :
    Owned (.registered i fd :: tr)
      { n with server := n.server.register i fd addr, accept := .clientsCount } := by
  have hfree := Server.firstInactive_free hi
  have hq : NetworkEvent.Quiet (.registered i fd) := trivial
  have hother : ∀ j, j ≠ i →
      (n.server.register i fd addr).connections j = n.server.connections j :=
    fun _ hj => Server.register_other hj
  refine ⟨h.below, h.injective, ?_, ?_, ?_, ?_⟩
  · intro c hc
    exact (h.future c hc).quiet hq
  · intro fd' hfd'
    cases hfd'
  · intro j hj
    obtain ⟨k, hk, hact⟩ := hpend.active _ hj
    have hjk : j = k := Fin.ext (Int.ofNat_inj.mp hk)
    have hji : j ≠ i := by
      intro he
      rw [← hjk, he, hfree] at hact
      cases hact
    rw [receivedOn_quiet hq, h.recorded j hj]
    show some (n.lwip.connection _) = some (n.lwip.connection _)
    rw [hother j hji]
  · intro j hj
    rw [last_quiet hq]
    show n.server.videoInterestMask.getLsbD j = last (n.lwip.connection _) tr
    rcases eq_or_ne j i with hji | hji
    -- the slot was empty, and nobody has heard of the client that fills it
    · rw [hji, ht.mask.of_empty (ht.empty_iff.mp hfree)]
      have hsock : ((n.server.register i fd addr).connections i).controlSocket = fd := by
        rw [Server.register_connections, Function.update_self]
        rfl
      rw [hsock]
      exact ((h.arriving fd (by rw [hpc]; rfl)).last).symm
    · rw [hother j hji]
      have hj' : ((n.server.register i fd addr).connections j).isActive = true := hj
      rw [hother j hji] at hj'
      exact h.bit j hj'

/-- What a scan has recorded by the end of the turn of slot `i` was received from the clients that
    are still there. -/
theorem recorded_received {fds : Slot → Pollfd} {i j : Slot} {requests : List Request}
    {result : RecvResult} {fd : ℤ} (h : Owned tr n) (hpend : PendingOk n)
    (hpc : n.request = .scan fds i requests) (hact : (n.server.connections i).isActive = true)
    (hj : ((j : ℕ) : ℤ) ∈
      (requests ++ (n.server.serveSlot i result).2.toList).map Request.clientIndex) :
    receivedOn (j : ℕ) (.received i fd (n.occupant i) result :: tr)
      = some (n.lwip.connection ((n.server.serveSlot i result).1.connections j).controlSocket) := by
  unfold Esp32Eye.receivedOn
  rw [List.map_append] at hj
  rcases List.mem_append.mp hj with hold | hnew
  -- recorded earlier in this scan, so for a slot further down
  · have hold : ((j : ℕ) : ℤ) ∈ n.request.recorded := by rw [hpc]; exact hold
    have hji : j ≠ i := hpend.ne_scanned hpc hold
    rw [if_neg (fun he => hji (Fin.ext (Int.ofNat_inj.mp he)).symm), h.recorded j hold,
      Server.serveSlot_other hact hji]
    rfl
  · obtain ⟨r, hr, hz⟩ := List.mem_map.mp hnew
    have hr : (n.server.serveSlot i result).2 = some r := by simpa using hr
    have hji : j = i := by
      apply Fin.ext
      have := (Server.serveSlot_request hr).1.symm.trans hz
      exact (Int.ofNat_inj.mp this).symm
    rw [hji, if_pos rfl, Server.serveSlot_connections hact,
      if_neg (by simp [Server.closes_of_request hr])]
    rfl

/-- The turn of slot `i` leaves the bit of every client that stays. -/
theorem bit_received {i j : Slot} {result : RecvResult} (h : Owned tr n)
    (hact : (n.server.connections i).isActive = true)
    (hj : ((n.server.serveSlot i result).1.connections j).isActive = true) :
    (n.server.serveSlot i result).1.videoInterestMask.getLsbD j
      = last (n.lwip.connection
          ((n.server.serveSlot i result).1.connections j).controlSocket) tr := by
  rcases eq_or_ne j i with hji | hji
  · rw [hji, Server.serveSlot_connections hact] at hj
    rw [hji, Server.serveSlot_connections hact, Server.serveSlot_mask hact]
    split at hj
    · rw [Function.update_self] at hj
      cases hj
    · rename_i hclose
      rw [if_neg hclose, if_neg hclose]
      exact h.bit i hact
  · rw [Server.serveSlot_other hact hji] at hj ⊢
    rw [Server.serveSlot_bit_other hact hji]
    exact h.bit j hj

/-- `recv` for slot `i`, on the socket the slot holds. -/
theorem received {fds : Slot → Pollfd} {i : Slot} {requests : List Request}
    {result : RecvResult} (h : Owned tr n) (hs : Sockets n) (hpend : PendingOk n)
    (hsnap : n.SnapshotOk) (hpc : n.request = .scan fds i requests)
    (hread : n.readable fds i = true) :
    Owned (.received i (fds i).fd (n.lwip.connection (fds i).fd) result :: tr)
      { n with
        server := (n.server.serveSlot i result).1
        request := .scan fds (i + 1) (requests ++ (n.server.serveSlot i result).2.toList) } := by
  obtain ⟨hact, hfd⟩ := hsnap.readable hpc hread
  have hc : n.lwip.connection (fds i).fd = n.occupant i := by
    unfold Network.occupant
    rw [hfd]
  rw [hc]
  refine ⟨h.below, h.injective, ?_, ?_, fun j hj => h.recorded_received hpend hpc hact hj,
    fun j hj => h.bit_received hact hj⟩
  · intro c hc'
    refine (h.future c hc').received ?_
    have := h.below _ (hs.isOpen i hact)
    exact Nat.ne_of_lt (Nat.lt_of_lt_of_le this hc')
  · intro fd hfd'
    refine (h.arriving fd hfd').received ?_
    intro he
    have hsock := h.injective _ (hs.isOpen i hact) _ (hs.pendingOpen fd hfd') he
    exact hs.pendingNew fd hfd' i hact hsock

/-- A recorded request is applied. -/
theorem update {z : ℤ} {b : Bool} {requests : List Request} (h : Owned tr n) (hs : Sockets n)
    (hpend : PendingOk n) (hpc : n.request = .update z b requests) :
    Owned (.dispatched z b :: tr)
      { n with
        server := (n.server.updateClientVideoInterest z b).1
        request := .updateEvent n.server.videoInterestMask
          (n.server.updateClientVideoInterest z b).2 requests } := by
  obtain ⟨i, hi⟩ := hpend.updating hpc
  obtain ⟨hz, hact⟩ := Server.activeSlot_eq_some.mp hi
  have hrecv : receivedOn z tr = some (n.occupant i) := by
    rw [hz]
    exact h.recorded i (by rw [hpc, ← hz]; exact List.mem_cons_self)
  refine ⟨h.below, h.injective, ?_, ?_, ?_, ?_⟩
  · intro c hc
    exact (h.future c hc).dispatched
  · intro fd hfd
    exact (h.arriving fd hfd).dispatched
  · intro j hj
    show receivedOn (j : ℕ) tr = some (n.lwip.connection _)
    rw [Server.update_connections]
    exact h.recorded j (by rw [hpc]; exact List.mem_cons_of_mem _ hj)
  · intro j hj
    have hj : (n.server.connections j).isActive = true := Server.update_connections ▸ hj
    show (n.server.updateClientVideoInterest z b).1.videoInterestMask.getLsbD j
      = last (n.lwip.connection _) (.dispatched z b :: tr)
    have hocc : n.lwip.connection (n.server.connections j).controlSocket = n.occupant j := rfl
    rw [Server.update_connections, Server.update_bit hi, hocc]
    unfold Esp32Eye.last
    rw [hrecv]
    rcases eq_or_ne j i with hji | hji
    · rw [hji, if_pos rfl, if_pos rfl]
    · rw [if_neg hji, if_neg (fun he => h.occupant_ne hs hji.symm hact hj (Option.some.inj he))]
      exact h.bit j hj

end Owned

/-! ## One step, every run -/

namespace Network

variable {n n' : Network} {m m' : Option Task} {a : NetworkAction} {tr es : List NetworkEvent}

theorem Rule.owned {t : ClientTable} (hr : n.Rule m a m' n' es) (ha : a.ByTasks)
    (hfresh : n.AcceptsFresh a) (hs : Sockets n) (hpend : PendingOk n) (hsnap : n.SnapshotOk)
    (ht : Represents n.server t) (h : Owned tr n) : Owned (es ++ tr) n' := by
  cases hr with
  | accepted hpc hfd => exact h.accepted hs hpend (hfresh hfd)
  | register hpc hi => exact h.register hpend ht hpc hi
  | scanReceived hpc hread => exact h.received hs hpend hsnap hpc hread
  | update hpc => exact h.update hs hpend hpc
  | disconnect => cases ha
  | hello hpc =>
    exact h.quiet (by simp [NetworkEvent.Quiet]) rfl rfl (Or.inr (by rw [hpc]; rfl)) fun _ hz => hz
  | registerTake hpc =>
    exact h.quiet (by simp) rfl rfl (Or.inr (by rw [hpc]; rfl)) fun _ hz => hz
  | acceptFailed hpc =>
    exact h.quiet (by simp [NetworkEvent.Quiet]) rfl rfl (Or.inl rfl) fun _ hz => hz
  | enter | full | room | registerFull | clientsCount | setAvailable | setNothing
  | setConnected => exact h.quiet (by simp) rfl rfl (Or.inl rfl) fun _ hz => hz
  | snapshot hpc =>
    exact h.quiet (by simp [NetworkEvent.Quiet]) rfl rfl (Or.inr rfl) fun z hz => nomatch hz
  | scanSkip hpc | scanDone hpc | dispatchVideo hpc | updateTake hpc | updateEvent hpc =>
    refine h.quiet (by simp) rfl rfl (Or.inr rfl) ?_
    intro z hz
    rw [hpc]
    exact hz
  | dispatchOther hpc =>
    refine h.quiet (by simp) rfl rfl (Or.inr rfl) ?_
    intro z hz
    rw [hpc]
    exact List.mem_cons_of_mem _ hz
  | _ => exact h.quiet (by simp) rfl rfl (Or.inr rfl) fun z hz => nomatch hz

end Network

theorem owned_appRun (b : System.Boot) : Owned [] (System.appRun b).network where
  below := by intro fd hfd; cases hfd
  injective := by intro fd hfd; cases hfd
  future := by intro c hc i fd c' result hmem; cases hmem
  arriving := by intro fd hfd; cases hfd
  recorded := by intro i hi; cases hi
  bit := by intro i hi; cases hi

/-- What is assumed of the environment where requests are traced back to connections. -/
structure NetworkHonest (n : Network) (a : NetworkAction) : Prop where
  byTasks : a.ByTasks
  acceptsFresh : n.AcceptsFresh a
  pollsHonestly : n.PollsHonestly a

theorem NetworkRun.owned {tr : List NetworkEvent} {b : System.Boot} {n : Network}
    (h : NetworkRun NetworkHonest (System.appRun b).network tr n) : Owned tr n := by
  refine h.invariant_of
    (J := fun _ n => (Sockets n ∧ ∃ t, Represents n.server t) ∧ PendingOk n ∧ n.SnapshotOk)
    (I := Owned) ?_ (owned_appRun b) ?_
  · intro tr n hr
    refine ⟨⟨?_, ?_⟩, ?_, ?_⟩
    · exact NetworkRun.sockets (fun _ _ hc => hc.acceptsFresh) (sockets_appRun b) hr
    · exact NetworkRun.represents (represents_appRun b) hr
    · exact NetworkRun.pending (fun _ _ hc => hc.byTasks) (pending_appRun b) hr
    · exact NetworkRun.snapshotOk (fun _ _ hc => hc.byTasks) (fun _ _ hc => hc.pollsHonestly)
        (snapshotOk_appRun b) hr
  · intro tr n a n' es hj hn hc hs
    obtain ⟨⟨hsock, t, ht⟩, hpend, hsnap⟩ := hj
    obtain ⟨m, m', hr⟩ := hs
    exact hr.owned hc.byTasks hc.acceptsFresh hsock hpend hsnap ht hn

namespace System

/-- The contract of a run in which the tasks are alone with an honest socket layer. -/
def honest (s : System) (a : Action) : Bool := byTasks a && acceptsFresh s a && pollsHonestly s a

theorem honest_network {s : System} {a : NetworkAction} (h : honest s (.network a) = true) :
    NetworkHonest s.network a := by
  simp only [honest, Bool.and_eq_true] at h
  exact ⟨byTasks_network h.1.1, acceptsFresh_network h.1.2, pollsHonestly_network h.2⟩

/-- **Interest belongs to the connection.** In every reachable state, whoever holds the mutex, the
    bit of an active slot is what the connection in it asked for last, over any number of reuses of
    the slot; and a request that is recorded and not applied yet was received from the connection
    that its slot still holds. -/
theorem interest_of_connection (b : Boot) (tr : List Event) (s : System)
    (hrun : SystemRun honest (appRun b) tr s) :
    (∀ i, (s.network.server.connections i).isActive = true →
      s.network.server.videoInterestMask.getLsbD i
        = last (s.network.occupant i) (networkTrace tr)) ∧
    ∀ z ∈ s.network.request.recorded, ∃ i : Slot, z = (i : ℕ) ∧
      (s.network.server.connections i).isActive = true ∧
      receivedOn z (networkTrace tr) = some (s.network.occupant i) := by
  have hnet := hrun.network (C := NetworkHonest) fun _ _ => honest_network
  have h := hnet.owned
  refine ⟨h.bit, ?_⟩
  intro z hz
  have hpend := hnet.pending (fun _ _ hc => hc.byTasks) (pending_appRun b)
  obtain ⟨i, hi, hact⟩ := hpend.active z hz
  exact ⟨i, hi, hact, hi ▸ h.recorded i (hi ▸ hz)⟩

/-- A slot is used twice: its first client turned video on and left, and the second one, which has
    said nothing, does not get any. -/
theorem interest_of_connection_reuse :
    ∃ tr s, SystemRun honest (appRun started) tr s ∧
      (s.network.server.connections 0).controlSocket = 58 ∧ s.network.occupant 0 = 1 ∧
      last 0 (networkTrace tr) = true ∧
      s.network.server.videoInterestMask.getLsbD 0 = last 1 (networkTrace tr) := by
  obtain ⟨tr, s, hrun, hq⟩ := reaches (p := honest) (b := started)
    (a := acceptRound 57 ++ intoPoll ++ serve [delivered (interestMessage true)]
      ++ dispatchSteps ++ finishSteps ++ intoPoll ++ serve [delivered []] ++ acceptRound 58)
    (q := fun s tr => (s.network.server.connections 0).isActive &&
      decide ((s.network.server.connections 0).controlSocket = 58) &&
      decide (s.network.occupant 0 = 1) && last 0 (networkTrace tr))
    (by decide +kernel)
  simp only [Bool.and_eq_true, decide_eq_true_eq] at hq
  obtain ⟨⟨⟨hact, hsock⟩, hocc⟩, hlast⟩ := hq
  have h := (interest_of_connection started tr s hrun).1 0 hact
  rw [hocc] at h
  exact ⟨tr, s, hrun, hsock, hocc, hlast, h⟩

end System
end Esp32Eye
