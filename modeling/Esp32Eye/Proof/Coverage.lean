import Esp32Eye.Proof.Ownership

/-!
# What `poll` is waiting on

The descriptor set is filled once per iteration and `poll` has no timeout, so a client that is
registered while the request task waits is not in the set. `CoverageOk` says exactly what is in it:
the sockets of the slots that are active and were so when the set was filled. From there the set is
complete when nobody was registered since (`registeredSince`), and, sockets being distinct, only
then.
-/

namespace Esp32Eye

open Lib

/-- The slots registered since the descriptor set was last filled. -/
def registeredSince : List NetworkEvent → List Slot
  | [] => []
  | .snapshot :: _ => []
  | .registered i _ :: tr => i :: registeredSince tr
  | _ :: tr => registeredSince tr

/-- The socket of every active connection is one of the descriptors in `fds`. -/
def Network.Covers (n : Network) (fds : Slot → Pollfd) : Prop :=
  ∀ i, (n.server.connections i).isActive = true →
    ∃ j, (fds j).fd = (n.server.connections i).controlSocket

instance (n : Network) (fds : Slot → Pollfd) : Decidable (n.Covers fds) := by
  unfold Network.Covers
  infer_instance

/-- The request task is in `poll` with a client missing from its set. -/
def Network.uncovered (n : Network) : Bool :=
  match n.request with
  | .poll fds => !decide (n.Covers fds)
  | _ => false

theorem Network.uncovered_iff {n : Network} :
    n.uncovered = true ↔ ∃ fds, n.request = .poll fds ∧ ¬ n.Covers fds := by
  unfold Network.uncovered
  cases n.request <;> simp

/-- What the descriptor set contains while `poll` waits on it. -/
structure PollSet (tr : List NetworkEvent) (n : Network) (fds : Slot → Pollfd) : Prop where
  entry : ∀ k, (fds k).fd =
    if (n.server.connections k).isActive = true ∧ k ∉ registeredSince tr then
      (n.server.connections k).controlSocket
    else -1
  since : ∀ k ∈ registeredSince tr, (n.server.connections k).isActive = true

def CoverageOk (tr : List NetworkEvent) (n : Network) : Prop :=
  ∀ fds, n.request = .poll fds → PollSet tr n fds

namespace PollSet

variable {tr : List NetworkEvent} {n : Network} {fds : Slot → Pollfd}

theorem covers (h : PollSet tr n fds) (hs : registeredSince tr = []) : n.Covers fds := by
  intro i hi
  refine ⟨i, ?_⟩
  rw [h.entry i, hs, if_pos ⟨hi, List.not_mem_nil⟩]

/-- A client registered since is missing: its socket is nobody else's and is a descriptor. -/
theorem registered_uncovered (h : PollSet tr n fds) (hsock : Sockets n) (hpos : Nonneg n)
    {k : Slot} (hk : k ∈ registeredSince tr) :
    ¬ n.Covers fds := by
  intro hcov
  have hact := h.since k hk
  obtain ⟨j, hj⟩ := hcov k hact
  rw [h.entry j] at hj
  split at hj
  · rename_i hc
    have hjk := hsock.distinct j k hc.1 hact hj
    exact hc.2 (hjk ▸ hk)
  · have := hpos.socket k hact
    omega

theorem register {fd : ℤ} {addr : SockaddrIn} {i : Slot} (h : PollSet tr n fds)
    (hi : n.server.firstInactive = some i) :
    PollSet (.registered i fd :: tr)
      { n with server := n.server.register i fd addr, accept := .clientsCount } fds := by
  have hfree := Server.firstInactive_free hi
  refine ⟨?_, ?_⟩
  · intro k
    show _ = if ((n.server.register i fd addr).connections k).isActive = true ∧
      k ∉ i :: registeredSince tr then
        ((n.server.register i fd addr).connections k).controlSocket else -1
    rw [h.entry k]
    rcases eq_or_ne k i with hki | hki
    · rw [hki, hfree]
      simp
    · rw [Server.register_other hki]
      simp [hki]
  · intro k hk
    show ((n.server.register i fd addr).connections k).isActive = true
    rcases List.mem_cons.mp hk with hki | hk
    · rw [hki, Server.register_connections, Function.update_self]
      rfl
    · have hact := h.since k hk
      rw [Server.register_other]
      · exact hact
      · intro he
        rw [he, hfree] at hact
        cases hact

end PollSet

namespace Network

variable {n n' : Network} {m m' : Option Task} {a : NetworkAction} {tr es : List NetworkEvent}

theorem Rule.coverage (hr : n.Rule m a m' n' es) (ha : a.ByTasks) (h : CoverageOk tr n) :
    CoverageOk (es ++ tr) n' := by
  cases hr with
  -- the set is not filled again, the slot joins those registered since
  | register hpc hi => exact fun fds hfds => (h fds hfds).register hi
  | snapshot hpc =>
    intro fds hfds
    cases hfds
    refine ⟨?_, ?_⟩
    · intro k
      unfold Server.pollfds
      by_cases hact : (n.server.connections k).isActive = true
      · simp [hact, registeredSince]
      · simp [hact]
    · intro k hk
      cases hk
  | disconnect => cases ha
  | enter | full | room | acceptFailed | accepted | hello | registerTake | registerFull
  | clientsCount | setAvailable | setNothing | setConnected =>
    intro fds hfds
    have hp := h fds hfds
    exact ⟨hp.entry, hp.since⟩
  | _ => exact fun fds hfds => nomatch hfds

end Network

theorem NetworkRun.coverage {C : Network → NetworkAction → Prop} {n₀ n : Network}
    {tr : List NetworkEvent} (hC : ∀ n a, C n a → a.ByTasks) (h₀ : CoverageOk [] n₀)
    (h : NetworkRun C n₀ tr n) : CoverageOk tr n := by
  refine h.invariant h₀ ?_
  intro tr n a n' es hn hc hs
  obtain ⟨m, m', hr⟩ := hs
  exact hr.coverage (hC _ _ hc) hn

theorem coverageOk_appRun (b : System.Boot) : CoverageOk [] (System.appRun b).network := by
  intro fds hfds
  cases hfds

/-- No client is registered while `poll` waits. -/
def Network.RegistersOutsidePoll (n : Network) : NetworkAction → Prop
  | .accept .go => ∀ fds, n.request = .poll fds → ∀ fd addr, n.accept ≠ .register fd addr
  | _ => True

/-- With no registration in between, `poll` waits on a set filled after the last one. -/
theorem NetworkRun.registeredSince_nil {C : Network → NetworkAction → Prop} {n₀ n : Network}
    {tr : List NetworkEvent} (hC : ∀ n a, C n a → n.RegistersOutsidePoll a)
    (h₀ : ∀ fds, n₀.request ≠ .poll fds) (h : NetworkRun C n₀ tr n) :
    ∀ fds, n.request = .poll fds → registeredSince tr = [] := by
  refine h.invariant (I := fun tr n => ∀ fds, n.request = .poll fds → registeredSince tr = [])
    (fun fds hfds => absurd hfds (h₀ fds)) ?_
  intro tr n a n' es hn hc hs
  obtain ⟨m, m', hr⟩ := hs
  have hout := hC _ _ hc
  cases hr with
  | register hpc hi => exact fun fds hfds => absurd hpc (hout fds hfds _ _)
  | enter | full | room | acceptFailed | accepted | hello | registerTake | registerFull
  | clientsCount | setAvailable | setNothing | setConnected | disconnect => exact hn
  | snapshot => exact fun _ _ => rfl
  | _ => exact fun fds hfds => nomatch hfds

namespace System

/-- The step is not the registration of a client while the request task is in `poll`. -/
def registersOutsidePoll (s : System) : Action → Bool
  | .network (.accept .go) =>
      match s.network.request, s.network.accept with
      | .poll _, .register _ _ => false
      | _, _ => true
  | _ => true

theorem registersOutsidePoll_network {s : System} {a : NetworkAction}
    (h : registersOutsidePoll s (.network a) = true) : s.network.RegistersOutsidePoll a := by
  match a with
  | .accept .go =>
    intro fds hfds fd addr hpc
    simp [registersOutsidePoll, hfds, hpc] at h
  | .accept (.accepted _ _) | .request _ | .disconnect _ => trivial

/-- **What `poll` covers.** In a run in which no client is registered while the request task is in
    `poll`, the descriptor set covers every active connection whenever both tasks are blocked. In
    any run it does so exactly when no client was registered since the set was filled. -/
theorem poll_coverage (b : Boot) :
    (∀ tr s fds, SystemRun (fun s a => byTasks a && registersOutsidePoll s a) (appRun b) tr s →
      s.network.request = .poll fds → s.network.accept = .accept → s.network.Covers fds) ∧
    ∀ tr s fds, SystemRun (fun s a => byTasks a && acceptsFresh s a) (appRun b) tr s →
      s.network.request = .poll fds → s.network.accept = .accept →
        (s.network.Covers fds ↔ registeredSince (networkTrace tr) = []) := by
  constructor
  · intro tr s fds hrun hpc _
    have hnet := hrun.tasksUnder fun _ _ => registersOutsidePoll_network
    have hset := hnet.coverage (fun _ _ hc => hc.1) (coverageOk_appRun b) fds hpc
    exact hset.covers (hnet.registeredSince_nil (fun _ _ hc => hc.2) (by simp [appRun]) fds hpc)
  · intro tr s fds hrun hpc _
    have hnet := hrun.tasksUnder fun _ _ => acceptsFresh_network
    have hset := hnet.coverage (fun _ _ hc => hc.1) (coverageOk_appRun b) fds hpc
    have hsock := hnet.sockets (fun _ _ hc => hc.2) (sockets_appRun b)
    have hpos := hnet.nonneg (nonneg_appRun b)
    refine ⟨?_, hset.covers⟩
    intro hcov
    rw [List.eq_nil_iff_forall_not_mem]
    intro k hk
    exact hset.registered_uncovered hsock hpos hk hcov

/-- A client connects while nobody is waiting in `poll`, and is waited for. -/
theorem poll_coverage_first :
    ∃ tr s fds, SystemRun (fun s a => byTasks a && registersOutsidePoll s a) (appRun started) tr s ∧
      s.network.request = .poll fds ∧ s.network.server.numActiveConnections = 1 ∧
      s.network.Covers fds := by
  obtain ⟨tr, s, hrun, hq⟩ := reaches (p := fun s a => byTasks a && registersOutsidePoll s a)
    (b := started) (a := acceptRound 57 ++ intoPoll ++ acceptSteps 2)
    (q := fun s _ => s.network.request.inPoll && decide (s.network.accept = .accept) &&
      decide (s.network.server.numActiveConnections = 1))
    (by decide +kernel)
  simp only [Bool.and_eq_true, decide_eq_true_eq] at hq
  obtain ⟨⟨hpoll, hacc⟩, hnum⟩ := hq
  obtain ⟨fds, hfds⟩ := RequestPc.inPoll_iff.mp hpoll
  exact ⟨tr, s, fds, hrun, hfds, hnum, (poll_coverage started).1 tr s fds hrun hfds hacc⟩

/-- The second client connects while the request task is in `poll` for the first. Both tasks are
    blocked now, and nothing the second client does is noticed until the first does something. -/
theorem poll_misses_second_client :
    ∃ tr s fds, SystemRun honest (appRun started) tr s ∧ s.network.request = .poll fds ∧
      s.network.accept = .accept ∧ ¬ s.network.Covers fds := by
  obtain ⟨tr, s, hrun, hq⟩ := reaches (p := honest) (b := started)
    (a := acceptRound 57 ++ intoPoll ++ acceptRound 58 ++ acceptSteps 2)
    (q := fun s _ => decide (s.network.accept = .accept) && s.network.uncovered)
    (by decide +kernel)
  rw [Bool.and_eq_true, decide_eq_true_eq] at hq
  obtain ⟨fds, hpc, hnot⟩ := Network.uncovered_iff.mp hq.2
  exact ⟨tr, s, fds, hrun, hpc, hq.1, hnot⟩

end System
end Esp32Eye
