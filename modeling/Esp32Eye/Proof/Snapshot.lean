import Esp32Eye.Proof.Pending

/-!
# The descriptor set and the table it was taken from

`server_handle_requests` fills `fds` in one critical section and looks at the table again in
another, with `poll` in between. Until the second one the other task can only fill free slots, so
an entry of `fds` that names a descriptor still names the socket of its slot; an entry that names
none is the one that may have a client by now, and `poll` reports nothing for it. So whatever the
scan finds readable, it reads from the socket its slot holds (`SnapshotOk.readable`).
-/

namespace Esp32Eye

open Lib

/-- Slot `j` is active on `fd`. -/
def Network.Holds (n : Network) (j : Slot) (fd : ℤ) : Prop :=
  (n.server.connections j).isActive = true ∧ (n.server.connections j).controlSocket = fd

/-- What `fds` still says about the table, at each point that has it. -/
def SnapshotOk (n : Network) : RequestPc → Prop
  | .poll fds => ∀ j, (fds j).fd < 0 ∨ n.Holds j (fds j).fd
  | .scanTake fds => ∀ j, (fds j).revents = 0 ∨ n.Holds j (fds j).fd
  | .scan fds k _ => ∀ j : Slot, k ≤ j → (fds j).revents = 0 ∨ n.Holds j (fds j).fd
  | _ => True

def Network.SnapshotOk (n : Network) : Prop := Esp32Eye.SnapshotOk n n.request

/-- `poll` reports nothing for a negative descriptor. -/
def Network.PollsHonestly (n : Network) : NetworkAction → Prop
  | .request (.polled revents) => ∀ fds, n.request = .poll fds → ∀ i, (fds i).fd < 0 → revents i = 0
  | _ => True

theorem System.pollsHonestly_network {s : System} {a : NetworkAction}
    (h : System.pollsHonestly s (.network a) = true) : s.network.PollsHonestly a := by
  match a with
  | .request (.polled revents) =>
    intro fds hpc
    simp only [System.pollsHonestly, hpc] at h
    exact of_decide_eq_true h
  | .request .go | .request (.received _) | .accept _ | .disconnect _ => trivial

namespace Network

variable {n n' : Network} {m m' : Option Task} {a : NetworkAction} {es : List NetworkEvent}

/-- Steps of the accept task cannot invalidate the snapshot. -/
theorem SnapshotOk.mono (h : n.SnapshotOk) (hpc : n'.request = n.request)
    (hh : ∀ j fd, n.Holds j fd → n'.Holds j fd) : n'.SnapshotOk := by
  unfold Network.SnapshotOk at h ⊢
  rw [hpc]
  cases hr : n.request with
  | poll fds => rw [hr] at h; exact fun j => (h j).imp_right (hh j _)
  | scanTake fds => rw [hr] at h; exact fun j => (h j).imp_right (hh j _)
  | scan fds k requests => rw [hr] at h; exact fun j hj => (h j hj).imp_right (hh j _)
  | _ => trivial

/-- What the scan finds readable is read from the socket of its slot. -/
theorem SnapshotOk.readable (h : n.SnapshotOk) {fds : Slot → Pollfd} {i : Slot}
    {requests : List Request} (hpc : n.request = .scan fds i requests)
    (hread : n.readable fds i = true) : n.Holds i (fds i).fd := by
  unfold Network.SnapshotOk at h
  rw [hpc] at h
  rcases h i le_rfl with hz | hh
  · unfold Network.readable at hread
    rw [hz] at hread
    simp at hread
  · exact hh

theorem Rule.snapshot_table (hr : n.Rule m a m' n' es) (ha : a.ByTasks)
    (hpoll : n.PollsHonestly a) (h : n.SnapshotOk) : n'.SnapshotOk := by
  cases hr with
  | @register _ fd addr i hpc hi =>
    refine h.mono rfl ?_
    -- the slot that is filled was free, so no entry of `fds` is about it
    intro j fd' hj
    have hne : j ≠ i := by
      intro he
      have := Server.firstInactive_free hi
      rw [← he, hj.1] at this
      cases this
    have hsame : (n.server.register i fd addr).connections j = n.server.connections j :=
      Server.register_other hne
    exact ⟨hsame ▸ hj.1, hsame ▸ hj.2⟩
  | snapshot hpc =>
    intro j
    unfold Server.pollfds
    by_cases hact : (n.server.connections j).isActive = true
    · rw [if_pos hact]
      exact Or.inr ⟨hact, rfl⟩
    · rw [if_neg hact]
      exact Or.inl (by decide)
  | @polled _ fds revents hpc =>
    unfold Network.SnapshotOk at h
    rw [hpc] at h
    intro j
    -- "no descriptor" becomes "nothing to read"
    rcases h j with hneg | hh
    · exact Or.inl (hpoll fds hpc j hneg)
    · exact Or.inr hh
  | scanTake hpc =>
    unfold Network.SnapshotOk at h
    rw [hpc] at h
    exact fun j _ => h j
  | scanSkip hpc hread =>
    unfold Network.SnapshotOk at h
    rw [hpc] at h
    intro j hj
    exact h j (Nat.le_of_succ_le hj)
  | @scanReceived _ fds i requests result hpc hread =>
    unfold Network.SnapshotOk at h
    rw [hpc] at h
    intro j hj
    refine (h j (Nat.le_of_succ_le hj)).imp_right ?_
    intro hh
    have hne : j ≠ i := by
      intro he
      rw [he] at hj
      exact absurd hj (Nat.not_succ_le_self _)
    have hsame : (n.server.serveSlot i result).1.connections j = n.server.connections j :=
      Server.serveSlot_other (readable_active hread) hne
    exact ⟨hsame ▸ hh.1, hsame ▸ hh.2⟩
  | wait | snapshotTake | scanDone | dispatchDone | dispatchVideo | dispatchOther | updateTake
  | update | updateEvent | countTake | count | clearAvailable | keepAvailable | interestTake
  | interest | clearInterested | keepInterested => trivial
  | disconnect => cases ha
  | _ => exact h.mono rfl fun _ _ hj => hj

end Network

/-! ## Sockets are descriptors -/

/-- The sockets of the table, and the one on its way into it, are not negative. -/
structure Nonneg (n : Network) : Prop where
  socket : ∀ i, (n.server.connections i).isActive = true →
    0 ≤ (n.server.connections i).controlSocket
  pending : ∀ fd, n.accept.pending = some fd → 0 ≤ fd

namespace Nonneg

variable {n n' : Network}

/-- A step that leaves the slots alone. -/
theorem same (h : Nonneg n) (hc : n'.server.connections = n.server.connections)
    (hp : ∀ fd, n'.accept.pending = some fd → n.accept.pending = some fd) : Nonneg n' := by
  refine ⟨?_, fun fd hfd => h.pending fd (hp fd hfd)⟩
  rw [hc]
  exact h.socket

/-- A step that writes slot `i`. -/
theorem write {i : Slot} {c : ClientConnection} (h : Nonneg n)
    (hc : n'.server.connections = Function.update n.server.connections i c)
    (hi : c.isActive = true → 0 ≤ c.controlSocket)
    (hp : ∀ fd, n'.accept.pending = some fd → n.accept.pending = some fd) : Nonneg n' := by
  refine ⟨?_, fun fd hfd => h.pending fd (hp fd hfd)⟩
  intro j
  rw [hc, Function.update_apply]
  split
  · exact hi
  · exact h.socket j

end Nonneg

theorem Network.Rule.nonneg {n n' : Network} {m m' : Option Task} {a : NetworkAction}
    {es : List NetworkEvent} (hr : n.Rule m a m' n' es) (h : Nonneg n) : Nonneg n' := by
  cases hr with
  | accepted hpc hfd =>
    refine ⟨h.socket, ?_⟩
    intro fd' hfd'
    cases hfd'
    exact hfd
  | @register _ fd addr i hpc hi =>
    refine h.write Server.register_connections (fun _ => ?_) fun _ hfd => nomatch hfd
    exact h.pending fd (by rw [hpc]; rfl)
  | @scanReceived _ _ i _ result hpc hread =>
    have hc : (n.server.serveSlot i result).1.connections = _ :=
      Server.serveSlot_connections (readable_active hread)
    split at hc
    · exact h.write hc (fun hi => nomatch hi) fun _ => id
    · exact h.same hc fun _ => id
  | update => exact h.same Server.update_connections fun _ => id
  | @disconnect z =>
    cases ha : n.server.activeSlot z with
    | none => exact h.same (congrArg _ (Server.disconnect_inactive ha)) fun _ => id
    | some i => exact h.write (Server.disconnect_connections ha) (fun hi => nomatch hi) fun _ => id
  | hello hpc | registerTake hpc => exact h.same rfl fun _ hfd => by rw [hpc]; exact hfd
  | enter | full | room | acceptFailed | registerFull | clientsCount | setAvailable | setNothing
  | setConnected => exact h.same rfl fun _ hfd => nomatch hfd
  | _ => exact h.same rfl fun _ => id

theorem nonneg_appRun (b : System.Boot) : Nonneg (System.appRun b).network where
  socket := fun _ hi => nomatch hi
  pending := fun _ hfd => nomatch hfd

theorem NetworkRun.nonneg {C : Network → NetworkAction → Prop} {n₀ n : Network}
    {tr : List NetworkEvent} (h₀ : Nonneg n₀) (h : NetworkRun C n₀ tr n) : Nonneg n := by
  refine h.invariant (I := fun _ n => Nonneg n) h₀ ?_
  intro tr n a n' es hn hc hs
  obtain ⟨m, m', hr⟩ := hs
  exact hr.nonneg hn

/-! ## Every run -/

theorem snapshotOk_appRun (b : System.Boot) : (System.appRun b).network.SnapshotOk := trivial

theorem NetworkRun.snapshotOk {C : Network → NetworkAction → Prop} {n₀ n : Network}
    {tr : List NetworkEvent} (hC : ∀ n a, C n a → a.ByTasks)
    (hpoll : ∀ n a, C n a → n.PollsHonestly a) (h₀ : n₀.SnapshotOk)
    (h : NetworkRun C n₀ tr n) : n.SnapshotOk := by
  refine h.invariant (I := fun _ n => n.SnapshotOk) h₀ ?_
  intro tr n a n' es hn hc hs
  obtain ⟨m, m', hr⟩ := hs
  exact hr.snapshot_table (hC _ _ hc) (hpoll _ _ hc) hn

end Esp32Eye
