import Esp32Eye.Proof.Descriptors

/-!
# What becomes of an accepted client

The capacity check of `server_accept_connections` and its loop over the slots are two critical
sections, with `accept` and the hello between them. What the check found stays true in between:
this task alone fills slots, and `Roomy` says that the others only make room. So the loop finds a
slot, and the exit behind it is not reached.

The call is followed through the interleaving: `Accepted fd addr` is the stretch of program points
from the return of `accept` to the loop, no step of anyone else leaves it (`Rule.accepted_or`), and
a run that goes on from there is still in it or has passed the registration (`Fate`).
-/

namespace Esp32Eye

open Lib

/-- `accept` returned `fd` with the peer's address and the client is not in the table yet. -/
def AcceptPc.Accepted (fd : ℤ) (addr : SockaddrIn) (pc : AcceptPc) : Prop :=
  pc = .hello fd addr ∨ pc = .registerTake fd addr ∨ pc = .register fd addr

/-- What registering `fd` in slot `i` does to the table. -/
structure Registered (s s' : Server) (i : Slot) (fd : ℤ) (addr : SockaddrIn) : Prop where
  free : (s.connections i).isActive = false
  slot : s'.connections i =
    { isActive := true
      controlSocket := fd
      addressString := inetNtoa addr.sinAddr
      rtpAddress := { addr with sinPort := bswap16 45120 } }
  /-- in memory the port is 45120 in network byte order -/
  port : leBytes16 (s'.connections i).rtpAddress.sinPort = beBytes16 45120
  bit : s'.videoInterestMask.getLsbD i = false
  count : s'.numActiveConnections = s.numActiveConnections + 1
  other : ∀ j, j ≠ i → s'.connections j = s.connections j
  mask : s'.videoInterestMask = s.videoInterestMask

theorem Server.registered {s : Server} {i : Slot} {fd : ℤ} {addr : SockaddrIn}
    (h : TableInvariant s) (hi : (s.connections i).isActive = false) :
    Registered s (s.register i fd addr) i fd addr := by
  have hslot : (s.register i fd addr).connections i =
      { isActive := true
        controlSocket := fd
        addressString := inetNtoa addr.sinAddr
        rtpAddress := { addr with sinPort := bswap16 45120 } } := by
    rw [register_connections, Function.update_self]
    rfl
  refine ⟨hi, hslot, ?_, ?_, rfl, fun j hj => register_other hj, rfl⟩
  · rw [hslot]
    exact leBytes16_bswap16 _
  · rw [← Bool.not_eq_true]
    intro hbit
    obtain ⟨_, hact⟩ := h.mask i hbit
    exact absurd hact (by simp [hi])

namespace Network

variable {n n' : Network} {m m' : Option Task} {a : NetworkAction} {es : List NetworkEvent}
  {fd : ℤ} {addr : SockaddrIn}

/-- Only the registration leaves the stretch. -/
theorem Rule.accepted_or (hr : n.Rule m a m' n' es) (h : n.accept.Accepted fd addr) :
    n'.accept.Accepted fd addr ∨ (n.accept = .register fd addr ∧ a = .accept .go) := by
  cases hr with
  | @hello _ fd' addr' hpc =>
    rw [hpc] at h
    rcases h with h | h | h <;> cases h
    exact Or.inl (Or.inr (Or.inl rfl))
  | @registerTake fd' addr' hpc =>
    rw [hpc] at h
    rcases h with h | h | h <;> cases h
    exact Or.inl (Or.inr (Or.inr rfl))
  | register hpc | registerFull hpc =>
    rw [hpc] at h
    rcases h with h | h | h <;> cases h
    exact Or.inr ⟨hpc, rfl⟩
  | enter hpc | full hpc | room hpc | acceptFailed hpc | accepted hpc | clientsCount hpc
  | setAvailable hpc | setNothing hpc | setConnected hpc =>
    rw [hpc] at h
    rcases h with h | h | h <;> cases h
  | _ => exact Or.inl h

theorem Rule.accepted_hello (hr : n.Rule m (.accept (.accepted fd addr)) m' n' es)
    (hfd : 0 ≤ fd) : n'.accept = .hello fd addr := by
  cases hr with
  | acceptFailed _ hneg => exact absurd hneg (not_lt.mpr hfd)
  | accepted => rfl

/-- Of the steps of the accept task only the registration changes the table. -/
theorem Rule.accept_server {input : AcceptInput} (hr : n.Rule m (.accept input) m' n' es) :
    n'.server = n.server ∨
      ∃ fd addr i, n.accept = .register fd addr ∧ n.server.firstInactive = some i ∧
        es = [.registered i fd] ∧ n'.accept = .clientsCount ∧
        n'.server = n.server.register i fd addr := by
  cases hr with
  | register hpc hi => exact Or.inr ⟨_, _, _, hpc, hi, rfl, rfl, rfl⟩
  | _ => exact Or.inl rfl

end Network

namespace System

/-- A run from the return of `accept` on: the call has not come to the loop over the slots yet, or
    it has registered the client in a slot that was free, somewhere along the run. -/
def Fate (p : System → Action → Bool) (fd : ℤ) (addr : SockaddrIn) (s : System) (tr : List Event)
    (s' : System) : Prop :=
  s'.network.accept.Accepted fd addr ∨
    ∃ i before after s₁ s₂, tr = after ++ .network (.registered i fd) :: before ∧
      SystemRun p s before s₁ ∧ s₁.network.accept = .register fd addr ∧
      s₁.step (.network (.accept .go)) = some (s₂, [.network (.registered i fd)]) ∧
      Registered s₁.network.server s₂.network.server i fd addr ∧
      SystemRun p s₂ after s'

section

variable {p : System → Action → Bool} {b : Boot} {s s' s₀ : System} {tr tr' : List Event}
  {fd : ℤ} {addr : SockaddrIn}

/-- Where the loop over the slots runs there is a free slot. -/
theorem SystemRun.exists_free (h : SystemRun p (appRun b) tr s)
    (hpc : s.network.accept = .register fd addr) :
    ∃ i, s.network.server.firstInactive = some i := by
  have hnet := h.network (C := fun _ _ => True) fun _ _ _ => trivial
  obtain ⟨t, ht⟩ := hnet.represents (represents_appRun b)
  exact ht.exists_free (hnet.roomy (Or.inr (by rw [hpc]; rfl)))

/-- The step at the loop over the slots. -/
theorem SystemRun.registers (h : SystemRun p (appRun b) tr s)
    (hpc : s.network.accept = .register fd addr) :
    ∃ i s', s.step (.network (.accept .go)) = some (s', [.network (.registered i fd)]) ∧
      Registered s.network.server s'.network.server i fd addr := by
  obtain ⟨i, hi⟩ := h.exists_free hpc
  have hstep := (Network.Rule.register (m := s.mutex) hpc hi).step
  have hs : s.step (.network (.accept .go)) = some
      ({ s with
          mutex := none
          network :=
            { s.network with
              server := s.network.server.register i fd addr, accept := .clientsCount } },
        [.network (.registered i fd)]) := by
    simp only [step, hstep]
    rfl
  exact ⟨i, _, hs, Server.registered h.tableInvariant (Server.firstInactive_free hi)⟩

theorem SystemRun.fate (h : SystemRun p (appRun b) tr s) (hpc : s.network.accept.Accepted fd addr)
    (hrun : SystemRun p s tr' s') : Fate p fd addr s tr' s' := by
  induction hrun with
  | start => exact Or.inl hpc
  | @step tr' es s₁ s₂ a hrun hp hs ih =>
    rcases ih with hacc | ⟨i, before, after, u, v, rfl, hu, hupc, huv, hreg, hv⟩
    · have hreach : SystemRun p (appRun b) (tr' ++ tr) s₁ := h.trans hrun
      cases moved_of_step hs with
      | network hr =>
        rcases hr.accepted_or hacc with hacc' | ⟨hpc₁, rfl⟩
        · exact Or.inl hacc'
        · obtain ⟨i, s₃, hgo, hreg⟩ := hreach.registers hpc₁
          have hs' : s₁.step (.network (.accept .go)) = _ := hs
          rw [hgo, Option.some.injEq, Prod.mk.injEq] at hs'
          obtain ⟨rfl, hes⟩ := hs'
          rw [← hes]
          exact Or.inr ⟨i, tr', [], s₁, _, rfl, hrun, hpc₁, hgo, hreg, .start⟩
      | pipeline => exact Or.inl hacc
      | broadcast => exact Or.inl hacc
    · refine Or.inr ⟨i, before, es ++ after, u, v, ?_, hu, hupc, huv, hreg, hv.step hp hs⟩
      rw [List.append_assoc]

/-- Nothing in the stretch waits for anything but the mutex. -/
theorem SystemRun.accepted_proceeds (h : SystemRun p (appRun b) tr s)
    (hpc : s.network.accept.Accepted fd addr)
    (hm : s.mutex = none ∨ s.network.accept ≠ .registerTake fd addr) :
    (s.step (.network (.accept .go))).isSome = true := by
  have hsome : ∀ {m n es}, s.network.step s.mutex (.accept .go) = some (m, n, es) →
      (s.step (.network (.accept .go))).isSome = true := by
    intro m n es hs
    simp [step, hs]
  rcases hpc with hpc | hpc | hpc
  · exact hsome (Network.Rule.hello hpc).step
  · have hnone := hm.resolve_right (not_not.mpr hpc)
    rw [hnone] at hsome
    exact hsome (Network.Rule.registerTake hpc).step
  · obtain ⟨i, hi⟩ := h.exists_free hpc
    exact hsome (Network.Rule.register hpc hi).step

end

/-- **Accept never drops a client.** In every run of the tasks, with anyone calling
    `server_disconnect_client`: a descriptor that `accept` returned is registered in a slot that
    was free, with the peer's address and a clear interest bit, or the call is still on its way
    there with nothing but the mutex to wait for; no other step of the call changes the table; and
    where the loop over the slots runs there is a free slot. -/
theorem accept_never_drops (p : System → Action → Bool) (b : Boot) (tr : List Event) (s : System)
    (hrun : SystemRun p (appRun b) tr s) :
    (∀ fd addr s₁ es, 0 ≤ fd → p s (.network (.accept (.accepted fd addr))) = true →
      s.step (.network (.accept (.accepted fd addr))) = some (s₁, es) →
        ∀ tr' s', SystemRun p s₁ tr' s' → Fate p fd addr s₁ tr' s') ∧
    (∀ fd addr, s.network.accept.Accepted fd addr →
      s.mutex = none ∨ s.network.accept ≠ .registerTake fd addr →
        (s.step (.network (.accept .go))).isSome = true) ∧
    (∀ input s₁ es, s.step (.network (.accept input)) = some (s₁, es) →
      s₁.network.server = s.network.server ∨
        ∃ fd addr i, s.network.accept = .register fd addr ∧ es = [.network (.registered i fd)] ∧
          s₁.network.accept = .clientsCount) ∧
    (∀ fd addr, s.network.accept = .register fd addr → s.network.server.firstInactive ≠ none) := by
  refine ⟨fun fd addr s₁ es hfd hp hs tr' s' hrun' => ?_, fun fd addr hpc hm => ?_,
    fun input s₁ es hs => ?_, fun fd addr hpc => ?_⟩
  · have hrun₁ : SystemRun p (appRun b) (es ++ tr) s₁ := hrun.step hp hs
    have hpc : s₁.network.accept = .hello fd addr := by
      cases moved_of_step hs with
      | network hr => exact hr.accepted_hello hfd
    exact hrun₁.fate (Or.inl hpc) hrun'
  · exact hrun.accepted_proceeds hpc hm
  · cases moved_of_step hs with
    | network hr =>
      rcases hr.accept_server with hsame | ⟨fd, addr, i, hpc, -, rfl, hpc', -⟩
      · exact Or.inl hsame
      · exact Or.inr ⟨fd, addr, i, hpc, rfl, hpc'⟩
  · obtain ⟨i, hi⟩ := hrun.exists_free hpc
    rw [hi]
    exact Option.some_ne_none i

/-- The first client of a device that has just started, up to its registration. -/
theorem accept_never_drops_first :
    ∃ tr s, SystemRun (fun _ _ => true) (appRun started) tr s ∧
      ∃ s₁ tr' s', SystemRun (fun _ _ => true) s₁ tr' s' ∧ s'.network.accept = .clientsCount ∧
        Fate (fun _ _ => true) 57 { sinPort := 0, sinAddr := 1 } s₁ tr' s' := by
  obtain ⟨tr, s, hrun, hq⟩ := reaches (p := fun _ _ => true) (b := started) (a := acceptSteps 2)
    (q := fun s _ => (s.step (.network (.accept (.accepted 57
        { sinPort := 0, sinAddr := 1 })))).any fun u =>
      (exec step (fun _ _ => true) (acceptSteps 3) u.1 []).any fun v =>
        v.1.network.accept == .clientsCount) (by decide +kernel)
  simp only [Option.any_eq_true, beq_iff_eq] at hq
  obtain ⟨⟨s₁, es⟩, hs₁, ⟨s', tr'⟩, hs', hpc⟩ := hq
  have hrun' : SystemRun (fun _ _ => true) s₁ tr' s' := run_of_exec .start hs'
  exact ⟨tr, s, hrun, s₁, tr', s', hrun', hpc,
    (accept_never_drops _ started tr s hrun).1 57 _ s₁ es (by decide) rfl hs₁ tr' s' hrun'⟩

end System
end Esp32Eye
