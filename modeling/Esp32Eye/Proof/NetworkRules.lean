import Esp32Eye.Network

/-!
# What a step of the connection side can do

`Network.step` is a function that is read beside the source. A proof reads it the other way: given
that a step happened, which statement was it, where was the task, and what is the state now?
`Rule` is that reading, one constructor for each statement at which another task can have run in
between, and `rule_iff_step` says that it is the same relation. No proof below unfolds `step`.
-/

namespace Esp32Eye
namespace Network

open Lib

/-- One step, as a rule: the state and the mutex before, the action, the mutex and the state
    after, and the events. -/
inductive Rule (n : Network) :
    Option Task → NetworkAction → Option Task → Network → List NetworkEvent → Prop
  | enter (h : n.accept = .enter) :
      Rule n none (.accept .go) (some .acceptNewClients) { n with accept := .capacity } []
  | full {m : Option Task} (h : n.accept = .capacity)
      (hc : n.server.numActiveConnections ≥ maxConnections) :
      Rule n m (.accept .go) none { n with accept := .enter } []
  | room {m : Option Task} (h : n.accept = .capacity)
      (hc : n.server.numActiveConnections < maxConnections) :
      Rule n m (.accept .go) none { n with accept := .accept } []
  | acceptFailed {m : Option Task} {fd : ℤ} {addr : SockaddrIn} (h : n.accept = .accept)
      (hfd : fd < 0) :
      Rule n m (.accept (.accepted fd addr)) m { n with accept := .enter } [.acceptFailed]
  | accepted {m : Option Task} {fd : ℤ} {addr : SockaddrIn} (h : n.accept = .accept)
      (hfd : 0 ≤ fd) :
      Rule n m (.accept (.accepted fd addr)) m
        { n with lwip := n.lwip.accept fd, accept := .hello fd addr }
        [.accepted fd n.lwip.accepted addr]
  | hello {m : Option Task} {fd : ℤ} {addr : SockaddrIn} (h : n.accept = .hello fd addr) :
      Rule n m (.accept .go) m { n with accept := .registerTake fd addr }
        [.hello fd (Server.helloMessage n.deviceName)]
  | registerTake {fd : ℤ} {addr : SockaddrIn} (h : n.accept = .registerTake fd addr) :
      Rule n none (.accept .go) (some .acceptNewClients)
        { n with accept := .register fd addr } []
  | register {m : Option Task} {fd : ℤ} {addr : SockaddrIn} {i : Slot}
      (h : n.accept = .register fd addr) (hi : n.server.firstInactive = some i) :
      Rule n m (.accept .go) none
        { n with server := n.server.register i fd addr, accept := .clientsCount }
        [.registered i fd]
  | registerFull {m : Option Task} {fd : ℤ} {addr : SockaddrIn}
      (h : n.accept = .register fd addr) (hi : n.server.firstInactive = none) :
      Rule n m (.accept .go) none { n with accept := .enter } []
  | clientsCount {m : Option Task} (h : n.accept = .clientsCount) :
      Rule n m (.accept .go) m
        { n with accept := .setAvailable n.server.numActiveConnections } []
  | setAvailable {m : Option Task} (h : n.accept = .setAvailable 1) :
      Rule n m (.accept .go) m
        { n with
          eventGroup := n.eventGroup.setBits clientsAvailableBit, accept := .setConnected } []
  | setNothing {m : Option Task} {count : ℤ} (h : n.accept = .setAvailable count)
      (hc : count ≠ 1) :
      Rule n m (.accept .go) m { n with accept := .setConnected } []
  | setConnected {m : Option Task} (h : n.accept = .setConnected) :
      Rule n m (.accept .go) m
        { n with eventGroup := n.eventGroup.setBits clientConnectedBit, accept := .enter } []
  | wait {m : Option Task} (h : n.request = .wait)
      (hb : n.eventGroup.allSet clientsAvailableBit = true) :
      Rule n m (.request .go) m { n with request := .snapshotTake } []
  | snapshotTake (h : n.request = .snapshotTake) :
      Rule n none (.request .go) (some .handleRequests) { n with request := .snapshot } []
  | snapshot {m : Option Task} (h : n.request = .snapshot) :
      Rule n m (.request .go) none { n with request := .poll n.server.pollfds } [.snapshot]
  | polled {m : Option Task} {fds : Slot → Pollfd} {revents : Slot → BitVec 16}
      (h : n.request = .poll fds) :
      Rule n m (.request (.polled revents)) m
        { n with request := .scanTake fun i => { fds i with revents := revents i } } []
  | scanTake {fds : Slot → Pollfd} (h : n.request = .scanTake fds) :
      Rule n none (.request .go) (some .handleRequests) { n with request := .scan fds 0 [] } []
  | scanSkip {m : Option Task} {fds : Slot → Pollfd} {i : Slot} {requests : List Request}
      (h : n.request = .scan fds i requests) (hr : n.readable fds i = false) :
      Rule n m (.request .go) m { n with request := .scan fds (i + 1) requests } []
  | scanReceived {m : Option Task} {fds : Slot → Pollfd} {i : Slot} {requests : List Request}
      {result : RecvResult}
      (h : n.request = .scan fds i requests) (hr : n.readable fds i = true) :
      Rule n m (.request (.received result)) m
        { n with
          server := (n.server.serveSlot i result).1
          request := .scan fds (i + 1) (requests ++ (n.server.serveSlot i result).2.toList) }
        [.received i (fds i).fd (n.lwip.connection (fds i).fd) result]
  | scanDone {m : Option Task} {fds : Slot → Pollfd} {k : ℕ} {requests : List Request}
      (h : n.request = .scan fds k requests) (hk : maxConnections ≤ k) :
      Rule n m (.request .go) none { n with request := .dispatch requests } []
  | dispatchDone {m : Option Task} (h : n.request = .dispatch []) :
      Rule n m (.request .go) m { n with request := .countTake } []
  | dispatchVideo {m : Option Task} {r : Request} {requests : List Request}
      (h : n.request = .dispatch (r :: requests)) (ht : r.requestType = requestVideoInterest) :
      Rule n m (.request .go) m
        { n with
          request :=
            .updateTake r.clientIndex (n.server.recvBuffer r.requestBody != 0) requests } []
  | dispatchOther {m : Option Task} {r : Request} {requests : List Request}
      (h : n.request = .dispatch (r :: requests)) (ht : r.requestType ≠ requestVideoInterest) :
      Rule n m (.request .go) m { n with request := .dispatch requests } []
  | updateTake {clientIndex : ℤ} {isInterested : Bool} {requests : List Request}
      (h : n.request = .updateTake clientIndex isInterested requests) :
      Rule n none (.request .go) (some .handleRequests)
        { n with request := .update clientIndex isInterested requests } []
  | update {m : Option Task} {clientIndex : ℤ} {isInterested : Bool} {requests : List Request}
      (h : n.request = .update clientIndex isInterested requests) :
      Rule n m (.request .go) none
        { n with
          server := (n.server.updateClientVideoInterest clientIndex isInterested).1
          request := .updateEvent n.server.videoInterestMask
            (n.server.updateClientVideoInterest clientIndex isInterested).2 requests }
        [.dispatched clientIndex isInterested]
  | updateEvent {m : Option Task} {previous new : BitVec 16} {requests : List Request}
      (h : n.request = .updateEvent previous new requests) :
      Rule n m (.request .go) m
        { n with
          eventGroup := updateEventBits n.eventGroup previous new
          request := .dispatch requests } []
  | countTake (h : n.request = .countTake) :
      Rule n none (.request .go) (some .handleRequests) { n with request := .count } []
  | count {m : Option Task} (h : n.request = .count) :
      Rule n m (.request .go) none
        { n with request := .countClear n.server.numActiveConnections } []
  | clearAvailable {m : Option Task} (h : n.request = .countClear 0) :
      Rule n m (.request .go) m
        { n with
          eventGroup := n.eventGroup.clearBits clientsAvailableBit, request := .interestTake } []
  | keepAvailable {m : Option Task} {count : ℤ} (h : n.request = .countClear count)
      (hc : count ≠ 0) :
      Rule n m (.request .go) m { n with request := .interestTake } []
  | interestTake (h : n.request = .interestTake) :
      Rule n none (.request .go) (some .handleRequests) { n with request := .interest } []
  | interest {m : Option Task} (h : n.request = .interest) :
      Rule n m (.request .go) none
        { n with request := .interestClear n.server.videoInterestMask } []
  | clearInterested {m : Option Task} (h : n.request = .interestClear 0) :
      Rule n m (.request .go) m
        { n with
          eventGroup := n.eventGroup.clearBits clientsInterestedInVideoBit, request := .wait } []
  | keepInterested {m : Option Task} {interest : BitVec 16}
      (h : n.request = .interestClear interest) (hi : interest ≠ 0) :
      Rule n m (.request .go) m { n with request := .wait } []
  | disconnect {clientIndex : ℤ} :
      Rule n none (.disconnect clientIndex) none
        { n with server := n.server.disconnectClientNoSync clientIndex }
        [.disconnected clientIndex]

section Adequacy

variable {n n' : Network} {m m' : Option Task} {es : List NetworkEvent}

theorem of_take {t : Task} {k : Network} (h : take m t k = some (m', n', es)) :
    m = none ∧ m' = some t ∧ n' = k ∧ es = [] := by
  unfold take at h
  split at h
  · rename_i hm
    cases h
    exact ⟨hm, rfl, rfl, rfl⟩
  · cases h

theorem Rule.of_acceptStep {input : AcceptInput} (h : acceptStep m n input = some (m', n', es)) :
    Rule n m (.accept input) m' n' es := by
  cases input with
  | go =>
    unfold acceptStep at h
    cases hpc : n.accept <;> simp only [hpc] at h
    case enter => obtain ⟨rfl, rfl, rfl, rfl⟩ := of_take h; exact .enter hpc
    case capacity =>
      split at h
      · rename_i hc; cases h; exact .full hpc hc
      · rename_i hc; cases h; exact .room hpc (lt_of_not_ge hc)
    case accept => cases h
    case hello => cases h; exact .hello hpc
    case registerTake => obtain ⟨rfl, rfl, rfl, rfl⟩ := of_take h; exact .registerTake hpc
    case register =>
      cases hi : n.server.firstInactive with
      | none => rw [hi] at h; cases h; exact .registerFull hpc hi
      | some i => rw [hi] at h; cases h; exact .register hpc hi
    case clientsCount => cases h; exact .clientsCount hpc
    case setAvailable count =>
      split at h
      · rename_i hc; subst hc; cases h; exact .setAvailable hpc
      · rename_i hc; cases h; exact .setNothing hpc hc
    case setConnected => cases h; exact .setConnected hpc
  | accepted fd addr =>
    unfold acceptStep at h
    cases hpc : n.accept <;> simp only [hpc] at h
    case accept =>
      split at h
      · rename_i hfd; cases h; exact .acceptFailed hpc hfd
      · rename_i hfd; cases h; exact .accepted hpc (not_lt.mp hfd)
    all_goals cases h

theorem Rule.of_requestStep {input : RequestInput}
    (h : requestStep m n input = some (m', n', es)) : Rule n m (.request input) m' n' es := by
  cases input with
  | go =>
    unfold requestStep at h
    cases hpc : n.request <;> simp only [hpc] at h
    case wait =>
      split at h
      · rename_i hb; cases h; exact .wait hpc hb
      · cases h
    case snapshotTake => obtain ⟨rfl, rfl, rfl, rfl⟩ := of_take h; exact .snapshotTake hpc
    case snapshot => cases h; exact .snapshot hpc
    case poll => cases h
    case scanTake => obtain ⟨rfl, rfl, rfl, rfl⟩ := of_take h; exact .scanTake hpc
    case scan fds k requests =>
      split at h
      · rename_i hk
        split at h
        · cases h
        · rename_i hr
          cases h
          exact .scanSkip (i := ⟨k, hk⟩) hpc (by simpa using hr)
      · rename_i hk; cases h; exact .scanDone hpc (not_lt.mp hk)
    case dispatch requests =>
      cases requests with
      | nil => cases h; exact .dispatchDone hpc
      | cons r requests =>
        dsimp only at h
        split at h
        · rename_i ht; cases h; exact .dispatchVideo hpc ht
        · rename_i ht; cases h; exact .dispatchOther hpc ht
    case updateTake => obtain ⟨rfl, rfl, rfl, rfl⟩ := of_take h; exact .updateTake hpc
    case update => cases h; exact .update hpc
    case updateEvent => cases h; exact .updateEvent hpc
    case countTake => obtain ⟨rfl, rfl, rfl, rfl⟩ := of_take h; exact .countTake hpc
    case count => cases h; exact .count hpc
    case countClear count =>
      split at h
      · rename_i hc; subst hc; cases h; exact .clearAvailable hpc
      · rename_i hc; cases h; exact .keepAvailable hpc hc
    case interestTake => obtain ⟨rfl, rfl, rfl, rfl⟩ := of_take h; exact .interestTake hpc
    case interest => cases h; exact .interest hpc
    case interestClear interest =>
      split at h
      · rename_i hi; subst hi; cases h; exact .clearInterested hpc
      · rename_i hi; cases h; exact .keepInterested hpc hi
  | polled revents =>
    unfold requestStep at h
    cases hpc : n.request <;> simp only [hpc] at h
    case poll => cases h; exact .polled hpc
    all_goals cases h
  | received result =>
    unfold requestStep at h
    cases hpc : n.request <;> simp only [hpc] at h
    case scan fds k requests =>
      split at h
      · rename_i hk
        split at h
        · rename_i hr; cases h; exact .scanReceived (i := ⟨k, hk⟩) hpc hr
        · cases h
      · cases h
    all_goals cases h

theorem Rule.of_step {a : NetworkAction} (h : n.step m a = some (m', n', es)) :
    Rule n m a m' n' es := by
  cases a with
  | accept input => exact .of_acceptStep h
  | request input => exact .of_requestStep h
  | disconnect clientIndex =>
    simp only [step] at h
    split at h
    · rename_i hm; subst hm; cases h; exact .disconnect
    · cases h

theorem Rule.step {a : NetworkAction} (h : Rule n m a m' n' es) :
    n.step m a = some (m', n', es) := by
  cases h <;>
    simp_all [Network.step, acceptStep, requestStep, take, give, go]

/-- **The rules are the steps.** -/
theorem rule_iff_step {a : NetworkAction} :
    Rule n m a m' n' es ↔ n.step m a = some (m', n', es) :=
  ⟨Rule.step, Rule.of_step⟩

end Adequacy

end Network
end Esp32Eye
