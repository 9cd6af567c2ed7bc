import Esp32Eye.Lib.Simulation
import Esp32Eye.Lib.Subscription
import Esp32Eye.Proof.Ownership
import Esp32Eye.Proof.PipelineRules
import Esp32Eye.Proof.Recipients
import Esp32Eye.Proof.Registration

/-!
# What the six tasks are for

Connections come in, are greeted, become members of the table, ask for video or for no video, and
leave; every frame goes to those who asked for it. That is a service with subscribers, and it is a
much simpler thing than the tasks: it has no slots that are used again, no interest mask, no chunks,
no requests recorded in one critical section and applied in another, and no mutex.

`Serves` relates the two: it says what phase a connection is in by where the accept task is with it
and by the slot it occupies. Each step of the tasks, at any program point of any task, is one step
of the service or none (`Network.Rule.serves`, `Pipeline.Rule.serves`), so every run of the tasks is
explained by a run of the service. `Explains` is what the two traces have to do with each other,
event by event.
-/

namespace Esp32Eye

open Lib

/-! ## The two traces -/

/-- The newest `accept`: the descriptor and the connection it began. -/
def newestAccept : List NetworkEvent → Option (ℤ × ℕ)
  | [] => none
  | .accepted fd c _ :: _ => some (fd, c)
  | _ :: tr => newestAccept tr

/-- What the service is concerned with: not that `poll` was entered or a queue was used. -/
def Event.visible : Event → Bool
  | .network (.accepted _ _ _) | .network (.hello _ _) | .network (.registered _ _)
  | .network (.dispatched _ _) | .pipeline (.sent _ _ _ _ _) => true
  | .network (.received _ _ _ result) => result.closes
  | _ => false

/-- Where video for a peer goes: to the address it came from, at the RTP port. -/
def rtpAddressOf (incomingAddress : SockaddrIn) : SockaddrIn :=
  { incomingAddress with sinPort := bswap16 rtpPort }

/-- An event of the service; connections are numbered as they are accepted. -/
abbrev VideoEvent := ServiceEvent ℕ SockaddrIn CameraFb

/-- Each visible event of the tasks is one event of the service, on the connection it is about: a
    connection is made with the address `accept` returned, at the RTP port; the hello and the
    registration are on the one accepted last, a dispatch on the one the request was received from,
    and what ends a connection on the one whose `recv` it was. A frame published is the frame sent,
    in one datagram for each recipient. -/
inductive Explains : List Event → List VideoEvent → Prop
  | nil : Explains [] []
  | silent {tr : List Event} {ur : List VideoEvent} {e : Event} (h : Explains tr ur)
      (he : e.visible = false) : Explains (e :: tr) ur
  | connected {tr : List Event} {ur : List VideoEvent} {fd : ℤ} {c : ℕ} {addr : SockaddrIn}
      (h : Explains tr ur) :
      Explains (.network (.accepted fd c addr) :: tr) (.connected c (rtpAddressOf addr) :: ur)
  | greeted {tr : List Event} {ur : List VideoEvent} {fd : ℤ} {c : ℕ} {message : List UInt8}
      (h : Explains tr ur) (hc : newestAccept (networkTrace tr) = some (fd, c)) :
      Explains (.network (.hello fd message) :: tr) (.greeted c :: ur)
  | joined {tr : List Event} {ur : List VideoEvent} {i : Slot} {fd : ℤ} {c : ℕ}
      (h : Explains tr ur) (hc : newestAccept (networkTrace tr) = some (fd, c)) :
      Explains (.network (.registered i fd) :: tr) (.joined c :: ur)
  | asked {tr : List Event} {ur : List VideoEvent} {z : ℤ} {b : Bool} {c : ℕ}
      (h : Explains tr ur) (hc : receivedOn z (networkTrace tr) = some c) :
      Explains (.network (.dispatched z b) :: tr) (.asked c b :: ur)
  | left {tr : List Event} {ur : List VideoEvent} {i : Slot} {fd : ℤ} {c : ℕ}
      {result : RecvResult} (h : Explains tr ur) (hr : result.closes = true) :
      Explains (.network (.received i fd c result) :: tr) (.left c :: ur)
  | published {tr : List Event} {ur : List VideoEvent} {fb : CameraFb} {sequenceNumber : UInt16}
      {timestamp : UInt32} {start : UInt64} {report : Server.SendReport}
      {recipients : List (ℕ × SockaddrIn)} (h : Explains tr ur)
      (hto : report.calls.map Server.Datagram.address = recipients.map Prod.snd)
      (hfb : ∀ d ∈ report.calls, ∃ header : List UInt8,
        header.length = 16 ∧ d.payload = header ++ fb.buf) :
      Explains (.pipeline (.sent fb sequenceNumber timestamp start report) :: tr)
        (.published fb recipients :: ur)

theorem Explains.append_silent {tr es : List Event} {ur : List VideoEvent} (h : Explains tr ur)
    (hes : ∀ e ∈ es, e.visible = false) : Explains (es ++ tr) ur := by
  induction es with
  | nil => exact h
  | cons e es ih =>
    refine .silent (ih fun e he => hes e (List.mem_cons_of_mem _ he)) ?_
    exact hes e List.mem_cons_self

/-! ## The two states -/

/-- The connection the accept task is about to put in the table, and how far it is with it. -/
def AcceptPc.newcomer : AcceptPc → Option (ℤ × Phase SockaddrIn)
  | .hello fd addr => some (fd, .connected (rtpAddressOf addr))
  | .registerTake fd addr | .register fd addr => some (fd, .greeted (rtpAddressOf addr))
  | _ => none

theorem AcceptPc.newcomer_pending {pc : AcceptPc} {fd : ℤ} {p : Phase SockaddrIn}
    (h : pc.newcomer = some (fd, p)) : pc.pending = some fd := by
  cases pc <;> cases h <;> rfl

/-- The phase of each connection, as the variables of the tasks have it. -/
structure Serves (tr : List NetworkEvent) (n : Network) (t : Service ℕ SockaddrIn) : Prop where
  unknown : ∀ c, n.lwip.accepted ≤ c → t c = .unknown
  newcomer : ∀ fd p, n.accept.newcomer = some (fd, p) →
    t (n.lwip.connection fd) = p ∧ newestAccept tr = some (fd, n.lwip.connection fd)
  member : ∀ i, (n.server.connections i).isActive = true →
    t (n.occupant i) =
      .member (n.server.connections i).rtpAddress (n.server.videoInterestMask.getLsbD i)
  only : ∀ c a w, t c = .member a w →
    ∃ i, (n.server.connections i).isActive = true ∧ n.occupant i = c

/-- What else is known of the tasks. -/
structure Known (tr : List NetworkEvent) (n : Network) : Prop where
  owned : Owned tr n
  sockets : Sockets n
  pending : PendingOk n
  snapshot : n.SnapshotOk
  table : ∃ t, Represents n.server t
  roomy : ∀ fd addr, n.accept = .register fd addr → ∃ i, n.server.firstInactive = some i

section

variable {tr : List NetworkEvent} {n n' : Network} {t : Service ℕ SockaddrIn} {fd : ℤ}
  {addr : SockaddrIn} {i : Slot}

theorem Owned.occupant_lt (h : Owned tr n) (hs : Sockets n)
    (hi : (n.server.connections i).isActive = true) : n.occupant i < n.lwip.accepted :=
  h.below _ (hs.isOpen i hi)

/-- The newcomer occupies no slot. -/
theorem Owned.occupant_ne_newcomer (h : Owned tr n) (hs : Sockets n)
    (hp : n.accept.pending = some fd) (hi : (n.server.connections i).isActive = true) :
    n.occupant i ≠ n.lwip.connection fd := by
  intro he
  have hsock := h.injective _ (hs.isOpen i hi) _ (hs.pendingOpen fd hp) he
  exact hs.pendingNew fd hp i hi hsock

namespace Serves

/-- What happens to a connection that was accepted leaves those still to come unknown. -/
theorem unknown_update {c : ℕ} {p : Phase SockaddrIn} (h : Serves tr n t)
    (hc : c < n.lwip.accepted) :
    ∀ c', n.lwip.accepted ≤ c' → Function.update t c p c' = .unknown := by
  intro c' hc'
  rw [Function.update_of_ne (Nat.ne_of_gt (Nat.lt_of_lt_of_le hc hc'))]
  exact h.unknown c' hc'

/-- What happens to a member does not concern the newcomer. -/
theorem newcomer_update {q : Phase SockaddrIn} (h : Serves tr n t) (hk : Known tr n)
    (hi : (n.server.connections i).isActive = true) :
    ∀ fd p, n.accept.newcomer = some (fd, p) →
      Function.update t (n.occupant i) q (n.lwip.connection fd) = p ∧
        newestAccept tr = some (fd, n.lwip.connection fd) := by
  intro fd p hp
  have hne := hk.owned.occupant_ne_newcomer hk.sockets (AcceptPc.newcomer_pending hp) hi
  rw [Function.update_of_ne hne.symm]
  exact h.newcomer fd p hp

/-- A connection that is made anything but a member is not the member that is asked for. -/
theorem member_of_update {c c' : ℕ} {p : Phase SockaddrIn} {a : SockaddrIn} {w : Bool}
    (hp : ∀ a w, p ≠ .member a w) (h : Function.update t c p c' = .member a w) :
    c' ≠ c ∧ t c' = .member a w := by
  have hne : c' ≠ c := by
    rintro rfl
    rw [Function.update_self] at h
    exact hp a w h
  rw [Function.update_of_ne hne] at h
  exact ⟨hne, h⟩

/-- A step that none of this is about. -/
theorem quiet (es : List NetworkEvent) (h : Serves tr n t) (hl : n'.lwip = n.lwip)
    (hc : n'.server.connections = n.server.connections)
    (hm : n'.server.videoInterestMask = n.server.videoInterestMask)
    (hp : n'.accept.newcomer = none ∨ n'.accept.newcomer = n.accept.newcomer)
    (hes : newestAccept (es ++ tr) = newestAccept tr) : Serves (es ++ tr) n' t := by
  have hocc : n'.occupant = n.occupant := by
    funext i
    unfold Network.occupant
    rw [hl, hc]
  refine ⟨?_, fun fd p hfd => ?_, ?_, ?_⟩
  · rw [hl]
    exact h.unknown
  · rw [hl, hes]
    rcases hp with hp | hp
    · rw [hp] at hfd
      cases hfd
    · exact h.newcomer fd p (hp ▸ hfd)
  · rw [hc, hm, hocc]
    exact h.member
  · rw [hc, hocc]
    exact h.only

/-- `accept` returned. -/
theorem accepted (h : Serves tr n t) (hk : Known tr n) (hfresh : fd ∉ n.lwip.descriptors) :
    Serves (.accepted fd n.lwip.accepted addr :: tr)
      { n with lwip := n.lwip.accept fd, accept := .hello fd addr }
      (Function.update t n.lwip.accepted (.connected (rtpAddressOf addr))) := by
  have hself : (n.lwip.accept fd).connection fd = n.lwip.accepted := Function.update_self ..
  have hocc : ∀ i, (n.server.connections i).isActive = true →
      (n.lwip.accept fd).connection (n.server.connections i).controlSocket = n.occupant i := by
    intro i hi
    apply Function.update_of_ne
    intro he
    exact hfresh (Finset.mem_union_right _ (he ▸ hk.sockets.isOpen i hi))
  refine ⟨fun c hc => ?_, fun fd' p hp => ?_, fun i hi => ?_, fun c a w hc => ?_⟩
  · have hne : c ≠ n.lwip.accepted := Nat.ne_of_gt hc
    rw [Function.update_of_ne hne]
    exact h.unknown c (Nat.le_of_succ_le hc)
  · cases hp
    show Function.update t _ _ ((n.lwip.accept fd).connection fd) = _ ∧
      some _ = some (fd, (n.lwip.accept fd).connection fd)
    rw [hself, Function.update_self]
    exact ⟨rfl, rfl⟩
  · have hne : n.occupant i ≠ n.lwip.accepted :=
      Nat.ne_of_lt (hk.owned.occupant_lt hk.sockets hi)
    show Function.update t _ _ ((n.lwip.accept fd).connection _) = _
    rw [hocc i hi, Function.update_of_ne hne]
    exact h.member i hi
  · obtain ⟨-, hc⟩ := member_of_update (fun a w he => by cases he) hc
    obtain ⟨i, hi, hic⟩ := h.only c a w hc
    exact ⟨i, hi, (hocc i hi).trans hic⟩

/-- The newcomer is greeted. -/
theorem greeted {message : List UInt8} (h : Serves tr n t) (hk : Known tr n)
    (hpc : n.accept = .hello fd addr) :
    Serves (.hello fd message :: tr) { n with accept := .registerTake fd addr }
      (Function.update t (n.lwip.connection fd) (.greeted (rtpAddressOf addr))) := by
  have hpend : n.accept.pending = some fd := by rw [hpc]; rfl
  obtain ⟨-, hnew⟩ := h.newcomer fd _ (by rw [hpc]; rfl)
  have hlt := hk.owned.below fd (hk.sockets.pendingOpen fd hpend)
  refine ⟨h.unknown_update hlt, fun fd' p hp => ?_, fun i hi => ?_, fun c a w hc => ?_⟩
  · cases hp
    exact ⟨Function.update_self .., hnew⟩
  · have hne := hk.owned.occupant_ne_newcomer hk.sockets hpend hi
    show Function.update t _ _ (n.occupant i) = _
    rw [Function.update_of_ne hne]
    exact h.member i hi
  · obtain ⟨-, hc⟩ := member_of_update (fun a w he => by cases he) hc
    exact h.only c a w hc

/-- The newcomer is put in a slot. -/
theorem joined (h : Serves tr n t) (hk : Known tr n) (hpc : n.accept = .register fd addr)
    (hi : n.server.firstInactive = some i) :
    Serves (.registered i fd :: tr)
      { n with server := n.server.register i fd addr, accept := .clientsCount }
      (Function.update t (n.lwip.connection fd) (.member (rtpAddressOf addr) false)) := by
  have hfree := Server.firstInactive_free hi
  have hpend : n.accept.pending = some fd := by rw [hpc]; rfl
  have hself : (n.server.register i fd addr).connections i
      = (ClientTable.arriving fd addr).connection := by
    rw [Server.register_connections, Function.update_self]
  have hbit : n.server.videoInterestMask.getLsbD i = false := by
    obtain ⟨table, htable⟩ := hk.table
    exact htable.mask.of_empty (htable.empty_iff.mp hfree)
  have hother : ∀ j, j ≠ i →
      (n.server.register i fd addr).connections j = n.server.connections j :=
    fun _ hj => Server.register_other hj
  have hlt := hk.owned.below fd (hk.sockets.pendingOpen fd hpend)
  refine ⟨h.unknown_update hlt, fun fd' p hp => ?_, fun j hj => ?_, fun c a w hc => ?_⟩
  · cases hp
  · show Function.update t _ _
      (n.lwip.connection ((n.server.register i fd addr).connections j).controlSocket) =
        .member ((n.server.register i fd addr).connections j).rtpAddress
          (n.server.videoInterestMask.getLsbD j)
    rcases eq_or_ne j i with rfl | hji
    · rw [hself, hbit]
      exact Function.update_self ..
    · have hj : (n.server.connections j).isActive = true := hother j hji ▸ hj
      have hne : n.lwip.connection (n.server.connections j).controlSocket ≠ n.lwip.connection fd :=
        hk.owned.occupant_ne_newcomer hk.sockets hpend hj
      rw [hother j hji, Function.update_of_ne hne]
      exact h.member j hj
  · rcases eq_or_ne c (n.lwip.connection fd) with rfl | hne
    · refine ⟨i, ?_, ?_⟩
      · show ((n.server.register i fd addr).connections i).isActive = true
        rw [hself]
        rfl
      · show n.lwip.connection ((n.server.register i fd addr).connections i).controlSocket = _
        rw [hself]
        rfl
    · rw [Function.update_of_ne hne] at hc
      obtain ⟨j, hj, hjc⟩ := h.only c a w hc
      have hji : j ≠ i := by
        rintro rfl
        rw [hfree] at hj
        cases hj
      refine ⟨j, ?_, ?_⟩
      · show ((n.server.register i fd addr).connections j).isActive = true
        rw [hother j hji]
        exact hj
      · show n.lwip.connection ((n.server.register i fd addr).connections j).controlSocket = c
        rw [hother j hji]
        exact hjc

/-- The connection in slot `i` ends. -/
theorem left {result : RecvResult} {request : RequestPc} (h : Serves tr n t) (hk : Known tr n)
    (hi : (n.server.connections i).isActive = true) (hr : result.closes = true) :
    Serves (.received i fd (n.occupant i) result :: tr)
      { n with server := (n.server.serveSlot i result).1, request := request }
      (Function.update t (n.occupant i) .gone) := by
  have hconn : (n.server.serveSlot i result).1.connections
      = Function.update n.server.connections i {} := by
    rw [Server.serveSlot_connections hi, if_pos hr]
  -- an active slot is another one than `i`, and as it was
  have hactive : ∀ j, ((n.server.serveSlot i result).1.connections j).isActive = true →
      j ≠ i ∧ (n.server.connections j).isActive = true ∧
        (n.server.serveSlot i result).1.connections j = n.server.connections j := by
    intro j hj
    have hji : j ≠ i := by
      rintro rfl
      rw [hconn, Function.update_self] at hj
      cases hj
    have hother : (n.server.serveSlot i result).1.connections j = n.server.connections j :=
      Server.serveSlot_other hi hji
    exact ⟨hji, hother ▸ hj, hother⟩
  refine ⟨h.unknown_update (hk.owned.occupant_lt hk.sockets hi), h.newcomer_update hk hi,
    fun j hj => ?_, fun c a w hc => ?_⟩
  · obtain ⟨hji, hact, hsame⟩ := hactive j hj
    have hne : n.lwip.connection (n.server.connections j).controlSocket ≠ n.occupant i :=
      hk.owned.occupant_ne hk.sockets hji hact hi
    show Function.update t _ _
      (n.lwip.connection ((n.server.serveSlot i result).1.connections j).controlSocket) =
        .member ((n.server.serveSlot i result).1.connections j).rtpAddress
          ((n.server.serveSlot i result).1.videoInterestMask.getLsbD j)
    rw [hsame, Server.serveSlot_bit_other hi hji, Function.update_of_ne hne]
    exact h.member j hact
  · obtain ⟨hne, hc⟩ := member_of_update (fun a w he => by cases he) hc
    obtain ⟨j, hj, hjc⟩ := h.only c a w hc
    have hji : j ≠ i := by
      rintro rfl
      exact hne hjc.symm
    have hother : (n.server.serveSlot i result).1.connections j = n.server.connections j :=
      Server.serveSlot_other hi hji
    refine ⟨j, ?_, ?_⟩
    · show ((n.server.serveSlot i result).1.connections j).isActive = true
      rw [hother]
      exact hj
    · show n.lwip.connection ((n.server.serveSlot i result).1.connections j).controlSocket = c
      rw [hother]
      exact hjc

/-- What came in is recorded, or is too short. -/
theorem heard {result : RecvResult} {request : RequestPc} {c : ℕ} (h : Serves tr n t)
    (hi : (n.server.connections i).isActive = true) (hr : result.closes = false) :
    Serves (.received i fd c result :: tr)
      { n with server := (n.server.serveSlot i result).1, request := request } t := by
  have hr : ¬ result.closes = true := by rw [hr]; exact Bool.false_ne_true
  have hconn : (n.server.serveSlot i result).1.connections = n.server.connections := by
    rw [Server.serveSlot_connections hi, if_neg hr]
  have hmask : (n.server.serveSlot i result).1.videoInterestMask = n.server.videoInterestMask := by
    rw [Server.serveSlot_mask hi, if_neg hr]
  exact h.quiet [.received i fd c result] rfl hconn hmask (Or.inr rfl) rfl

/-- A recorded request is applied. -/
theorem asked {z : ℤ} {b : Bool} {request : RequestPc} (h : Serves tr n t) (hk : Known tr n)
    (hi : n.server.activeSlot z = some i) :
    Serves (.dispatched z b :: tr)
      { n with server := (n.server.updateClientVideoInterest z b).1, request := request }
      (Function.update t (n.occupant i) (.member (n.server.connections i).rtpAddress b)) := by
  obtain ⟨-, hact⟩ := Server.activeSlot_eq_some.mp hi
  refine ⟨h.unknown_update (hk.owned.occupant_lt hk.sockets hact), h.newcomer_update hk hact,
    fun j hj => ?_, fun c a w hc => ?_⟩
  · have hj : (n.server.connections j).isActive = true := Server.update_connections ▸ hj
    show Function.update t _ _
      (n.lwip.connection
        ((n.server.updateClientVideoInterest z b).1.connections j).controlSocket) =
        .member ((n.server.updateClientVideoInterest z b).1.connections j).rtpAddress
          ((n.server.updateClientVideoInterest z b).1.videoInterestMask.getLsbD j)
    rw [Server.update_connections, Server.update_bit hi]
    rcases eq_or_ne j i with rfl | hji
    · rw [if_pos rfl]
      exact Function.update_self ..
    · have hne : n.lwip.connection (n.server.connections j).controlSocket ≠ n.occupant i :=
        hk.owned.occupant_ne hk.sockets hji hj hact
      rw [if_neg hji, Function.update_of_ne hne]
      exact h.member j hj
  · have hocc : ∀ j, n.lwip.connection
        ((n.server.updateClientVideoInterest z b).1.connections j).controlSocket
          = n.occupant j := by
      intro j
      rw [Server.update_connections]
      rfl
    have hkept : ∀ j, ((n.server.updateClientVideoInterest z b).1.connections j).isActive
        = (n.server.connections j).isActive := by
      intro j
      rw [Server.update_connections]
    rcases eq_or_ne c (n.occupant i) with rfl | hne
    · exact ⟨i, (hkept i).trans hact, hocc i⟩
    · rw [Function.update_of_ne hne] at hc
      obtain ⟨j, hj, hjc⟩ := h.only c a w hc
      exact ⟨j, (hkept j).trans hj, (hocc j).trans hjc⟩

end Serves

/-! ## One step, every run -/

/-- What a step of the tasks is in the service. -/
def ServedBy (tr : List Event) (ur : List VideoEvent) (t : Service ℕ SockaddrIn) (n' : Network)
    (es : List Event) : Prop :=
  ∃ t' ds, Advances Service.Step (fun _ _ => True) t t' ds ∧ Explains (es ++ tr) (ds ++ ur) ∧
    Serves (networkTrace (es ++ tr)) n' t'

end

section

variable {tr : List Event} {ur : List VideoEvent} {t : Service ℕ SockaddrIn} {n n' : Network}
  {m m' : Option Task} {a : NetworkAction} {es : List NetworkEvent}

/-- A step the service has no part in. -/
theorem Serves.idle (h : Serves (networkTrace tr) n t) (hx : Explains tr ur)
    (hl : n'.lwip = n.lwip) (hs : n'.server = n.server)
    (hp : n'.accept.newcomer = none ∨ n'.accept.newcomer = n.accept.newcomer)
    (hes : es = [] ∨ es = [.snapshot] ∨ es = [.acceptFailed]) :
    ServedBy tr ur t n' (es.map .network) := by
  refine ⟨t, [], Advances.refl, ?_, ?_⟩
  · refine hx.append_silent ?_
    rcases hes with rfl | rfl | rfl <;> simp [Event.visible]
  · rcases hes with rfl | rfl | rfl
    · exact h.quiet [] hl (by rw [hs]) (by rw [hs]) hp rfl
    · exact h.quiet [.snapshot] hl (by rw [hs]) (by rw [hs]) hp rfl
    · exact h.quiet [.acceptFailed] hl (by rw [hs]) (by rw [hs]) hp rfl

/-- **Each step of the connection side is one step of the service or none.** -/
theorem Network.Rule.serves (hr : n.Rule m a m' n' es) (ha : a.ByTasks)
    (hfresh : n.AcceptsFresh a) (hk : Known (networkTrace tr) n)
    (h : Serves (networkTrace tr) n t) (hx : Explains tr ur) :
    ServedBy tr ur t n' (es.map .network) := by
  cases hr with
  | @accepted _ fd addr hpc hfd =>
    exact ⟨_, _, Or.inr ⟨_, trivial, .connected (h.unknown _ le_rfl)⟩, hx.connected,
      h.accepted hk (hfresh hfd)⟩
  | @hello _ fd addr hpc =>
    obtain ⟨hphase, hnew⟩ := h.newcomer fd _ (by rw [hpc]; rfl)
    exact ⟨_, _, Or.inr ⟨_, trivial, .greeted hphase⟩, hx.greeted hnew, h.greeted hk hpc⟩
  | @register _ fd addr i hpc hi =>
    obtain ⟨hphase, hnew⟩ := h.newcomer fd _ (by rw [hpc]; rfl)
    exact ⟨_, _, Or.inr ⟨_, trivial, .joined hphase⟩, hx.joined hnew, h.joined hk hpc hi⟩
  | @registerFull _ fd addr hpc hi =>
    obtain ⟨i, hi'⟩ := hk.roomy fd addr hpc
    rw [hi] at hi'
    cases hi'
  | @scanReceived _ fds i requests result hpc hread =>
    obtain ⟨hact, hfd⟩ := hk.snapshot.readable hpc hread
    have hocc : n.lwip.connection (fds i).fd = n.occupant i := by rw [← hfd]; rfl
    rw [hocc]
    cases hclose : result.closes with
    | true =>
      exact ⟨_, _, Or.inr ⟨_, trivial, .left (h.member i hact)⟩, hx.left hclose,
        h.left hk hact hclose⟩
    | false =>
      exact ⟨t, [], Advances.refl, hx.silent hclose, h.heard hact hclose⟩
  | @update _ z b requests hpc =>
    obtain ⟨i, hi⟩ := hk.pending.updating hpc
    obtain ⟨hz, hact⟩ := Server.activeSlot_eq_some.mp hi
    have hfrom : receivedOn z (networkTrace tr) = some (n.occupant i) := by
      rw [hz]
      exact hk.owned.recorded i (by rw [hpc, ← hz]; exact List.mem_cons_self)
    exact ⟨_, _, Or.inr ⟨_, trivial, .asked (h.member i hact)⟩, hx.asked hfrom, h.asked hk hi⟩
  | disconnect => cases ha
  | acceptFailed => exact h.idle hx rfl rfl (Or.inl rfl) (Or.inr (Or.inr rfl))
  | snapshot => exact h.idle hx rfl rfl (Or.inr rfl) (Or.inr (Or.inl rfl))
  | registerTake hpc => exact h.idle hx rfl rfl (Or.inr (by rw [hpc]; rfl)) (Or.inl rfl)
  | enter | full | room | clientsCount | setAvailable | setNothing | setConnected =>
    exact h.idle hx rfl rfl (Or.inl rfl) (Or.inl rfl)
  | _ => exact h.idle hx rfl rfl (Or.inr rfl) (Or.inl rfl)

/-- **A frame that is sent is published**, to the members that watch. -/
theorem Serves.sent {fb : CameraFb} {sequenceNumber : UInt16} {timestamp : UInt32}
    {start : UInt64} {result : Slot → ℤ} (hk : Known (networkTrace tr) n)
    (h : Serves (networkTrace tr) n t) (hx : Explains tr ur) :
    ServedBy tr ur t n [.pipeline (.sent fb sequenceNumber timestamp start
      (n.server.sendImageData fb.buf sequenceNumber timestamp result))] := by
  have hactive : ∀ i ∈ n.server.recipients, (n.server.connections i).isActive = true ∧
      n.server.videoInterestMask.getLsbD i = true := by
    intro i hi
    exact (Bool.and_eq_true _ _).mp (Server.mem_recipients.mp hi)
  let receivers : List (ℕ × SockaddrIn) :=
    n.server.recipients.map fun i => (n.occupant i, (n.server.connections i).rtpAddress)
  refine ⟨t, [.published fb receivers], Or.inr ⟨_, trivial, .published ?_ fun c a => ?_⟩,
    hx.published ?_ ?_, h⟩
  · show ((n.server.recipients.map _).map Prod.fst).Nodup
    rw [List.map_map]
    refine List.Nodup.map_on (fun i hi j hj he => ?_) ?_
    · by_contra hij
      exact hk.owned.occupant_ne hk.sockets hij (hactive i hi).1 (hactive j hj).1 he
    · exact (List.nodup_finRange _).filter _
  · constructor
    · intro hmem
      obtain ⟨i, hi, he⟩ := List.mem_map.mp hmem
      cases he
      rw [h.member i (hactive i hi).1, (hactive i hi).2]
    · intro hc
      obtain ⟨i, hi, rfl⟩ := h.only c a true hc
      rw [h.member i hi] at hc
      obtain ⟨ha, hbit⟩ := Phase.member.inj hc
      refine List.mem_map.mpr ⟨i, Server.mem_recipients.mpr ?_, by rw [ha]⟩
      exact (Bool.and_eq_true _ _).mpr ⟨hi, hbit⟩
  · rw [Server.sendImageData_calls, List.map_map, List.map_map]
    rfl
  · intro d hd
    rw [Server.sendImageData_calls] at hd
    obtain ⟨i, -, rfl⟩ := List.mem_map.mp hd
    exact ⟨_, Server.length_header, rfl⟩

/-- The frame side only publishes. -/
theorem Pipeline.Rule.serves {p p' : Pipeline} {a : PipelineAction} {es : List PipelineEvent}
    (hr : Pipeline.Rule p n m a m' p' es) (hk : Known (networkTrace tr) n)
    (h : Serves (networkTrace tr) n t) (hx : Explains tr ur) :
    ServedBy tr ur t n (es.map .pipeline) := by
  cases hr with
  | @send _ fb start result hpc =>
    have hx' : Explains ([.pipeline (.read .sendCameraImage fb .len),
        .pipeline (.read .sendCameraImage fb .buf)] ++ tr) ur :=
      hx.append_silent (by simp [Event.visible])
    exact Serves.sent hk h hx'
  | _ => exact ⟨t, [], Advances.refl, hx.append_silent (by simp [Event.visible]), h⟩

end

namespace System

theorem serves_appRun (b : Boot) : Serves [] (appRun b).network Service.initial where
  unknown := fun _ _ => rfl
  newcomer := by
    intro fd p hp
    cases hp
  member := by
    intro i hi
    cases hi
  only := by
    intro c a w hc
    cases hc

theorem SystemRun.known {b : Boot} {tr : List Event} {s : System}
    (h : SystemRun honest (appRun b) tr s) : Known (networkTrace tr) s.network := by
  have hnet := h.network (C := NetworkHonest) fun _ _ => honest_network
  exact
    { owned := hnet.owned
      sockets := hnet.sockets (fun _ _ hc => hc.acceptsFresh) (sockets_appRun b)
      pending := hnet.pending (fun _ _ hc => hc.byTasks) (pending_appRun b)
      snapshot := hnet.snapshotOk (fun _ _ hc => hc.byTasks) (fun _ _ hc => hc.pollsHonestly)
        (snapshotOk_appRun b)
      table := hnet.represents (represents_appRun b)
      roomy := fun _ _ hpc => h.exists_free hpc }

/-- **The six tasks are a video service.** Every run of them, in any interleaving and with any
    socket layer that is honest, is explained by a run of the service, event by event. In it each
    connection is opened, greeted once, made a member once, asks as often as it likes and leaves
    once, in this order; and each frame sent goes, once and at the address it connected from, to
    exactly the connections that have asked for video and have not changed their minds or left. -/
theorem video_service (b : Boot) (tr : List Event) (s : System)
    (hrun : SystemRun honest (appRun b) tr s) :
    ∃ (ur : List VideoEvent) (t : Service ℕ SockaddrIn), ServiceRun ur t ∧ Explains tr ur ∧
      Serves (networkTrace tr) s.network t ∧ (∀ c, Life c (history c ur) (t c)) ∧
      RightRecipients ur := by
  have hsim : ∃ (ur : List VideoEvent) (t : Service ℕ SockaddrIn), ServiceRun ur t ∧
      Explains tr ur ∧ Serves (networkTrace tr) s.network t := by
    refine hrun.simulates (R := fun tr (s : System) ur t =>
      Explains tr ur ∧ Serves (networkTrace tr) s.network t) ⟨.nil, serves_appRun b⟩ ?_
    intro tr s a s' es ur t hrun _ hR hp hstep
    obtain ⟨hx, hs⟩ := hR
    have hk := SystemRun.known hrun
    cases moved_of_step hstep with
    | network hr =>
      have hhonest := honest_network hp
      exact hr.serves hhonest.byTasks hhonest.acceptsFresh hk hs hx
    | pipeline hmoved => exact (Pipeline.Rule.of_step hmoved).serves hk hs hx
    | broadcast hes =>
      refine ⟨t, [], Advances.refl, hx.append_silent ?_, ?_⟩
      · rcases hes with rfl | rfl <;> simp [Event.visible]
      · rcases hes with rfl | rfl <;> exact hs
  obtain ⟨ur, t, hservice, hx, hs⟩ := hsim
  exact ⟨ur, t, hservice, hx, hs, ServiceRun.life hservice, ServiceRun.recipients hservice⟩

/-- A client that has just turned its video on: the service knows. -/
theorem video_service_watching :
    ∃ tr s ur, SystemRun honest (appRun started) tr s ∧ Explains tr ur ∧
      ∃ l, history 0 ur = .asked 0 true :: l := by
  obtain ⟨tr, s, hrun, hq⟩ := reaches (p := honest) (b := started) (a := watching)
    (q := fun s _ => (s.network.server.connections 0).isActive &&
      decide (s.network.occupant 0 = 0) && s.network.server.videoInterestMask.getLsbD 0)
    (by decide +kernel)
  simp only [Bool.and_eq_true, decide_eq_true_eq] at hq
  obtain ⟨⟨hact, hocc⟩, hbit⟩ := hq
  obtain ⟨ur, t, -, hx, hs, hlife, -⟩ := video_service started tr s hrun
  have hmember := hs.member 0 hact
  rw [hocc, show ((0 : Slot) : ℕ) = 0 from rfl, hbit] at hmember
  exact ⟨tr, s, ur, hrun, hx, (hlife 0).watching_iff.mp ⟨_, hmember⟩⟩

end System
end Esp32Eye
