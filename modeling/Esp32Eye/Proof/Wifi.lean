import Esp32Eye.Lib.RetryCounter
import Esp32Eye.Wifi

/-!
# The retry state machine

`wifi_event_handler` keeps a retry counter with `IP_EVENT_STA_GOT_IP` as the reset and
`WIFI_EVENT_STA_DISCONNECTED` as the hit. Four lemmas say what one event does to the counter, to
the number of calls of `esp_wifi_connect` and to the two bits; everything that is known of a
history follows by induction over it, histories being newest first as traces are.

For the program as a whole there is one invariant, `Handled`: the static variables are what the
handler made of the events that reached it. Which events those are is decided by where `wifi_init`
is, and that is `registered`.
-/

namespace Esp32Eye

open Lib

namespace EspEvent

variable {e : EspEvent}

theorem isStaStart_iff : e.isStaStart = true ↔ e.base = .wifi ∧ e.id = wifiEventStaStart := by
  simp [isStaStart]

theorem isStaDisconnected_iff :
    e.isStaDisconnected = true ↔ e.base = .wifi ∧ e.id = wifiEventStaDisconnected := by
  simp [isStaDisconnected]

theorem isStaGotIp_iff : e.isStaGotIp = true ↔ e.base = .ip ∧ e.id = ipEventStaGotIp := by
  simp [isStaGotIp]

theorem not_disconnected_of_start (h : e.isStaStart = true) : e.isStaDisconnected = false := by
  rw [← Bool.not_eq_true, isStaDisconnected_iff, (isStaStart_iff.mp h).2]
  rintro ⟨-, hid⟩
  cases hid

theorem not_gotIp_of_wifi (h : e.base = .wifi) : e.isStaGotIp = false := by
  rw [← Bool.not_eq_true, isStaGotIp_iff, h]
  rintro ⟨hb, -⟩
  cases hb

theorem not_gotIp_of_disconnected (h : e.isStaDisconnected = true) : e.isStaGotIp = false :=
  not_gotIp_of_wifi (isStaDisconnected_iff.mp h).1

end EspEvent

namespace Wifi

open EspEvent RetryCounter

variable {e : EspEvent} {w : Wifi}

/-! ## One event -/

theorem retryNum_eventHandler :
    (eventHandler e w).retryNum
      = next isStaGotIp isStaDisconnected maxRetryCount e w.retryNum := by
  unfold eventHandler next
  cases hs : e.isStaStart with
  | true =>
    simp [not_gotIp_of_wifi (isStaStart_iff.mp hs).1, not_disconnected_of_start hs, connect]
  | false =>
    cases hd : e.isStaDisconnected with
    | true => by_cases hlt : w.retryNum < maxRetryCount <;> simp [not_gotIp_of_disconnected hd, hlt]
    | false => cases hg : e.isStaGotIp <;> simp

theorem connects_eventHandler :
    (eventHandler e w).connects
      = w.connects + (if e.isStaStart then 1 else 0)
        + if e.isStaDisconnected && decide (w.retryNum < maxRetryCount) then 1 else 0 := by
  unfold eventHandler
  cases hs : e.isStaStart with
  | true => simp [not_disconnected_of_start hs, connect]
  | false =>
    cases hd : e.isStaDisconnected with
    | true => by_cases hlt : w.retryNum < maxRetryCount <;> simp [hlt, connect]
    | false => cases hg : e.isStaGotIp <;> simp

theorem failBit_eventHandler :
    (eventHandler e w).eventGroup.allSet wifiFailBit = true ↔
      w.eventGroup.allSet wifiFailBit = true ∨
        (e.isStaDisconnected = true ∧ maxRetryCount ≤ w.retryNum) := by
  unfold eventHandler
  cases hs : e.isStaStart with
  | true => simp [not_disconnected_of_start hs, connect]
  | false =>
    cases hd : e.isStaDisconnected with
    | true =>
      by_cases hlt : w.retryNum < maxRetryCount
      · simp [hlt, connect]
      · simp [hlt, not_lt.mp hlt]
    | false =>
      have hdisj : wifiFailBit &&& wifiConnectedBit = 0#24 := by decide
      cases hg : e.isStaGotIp <;> simp [EventBits.allSet_setBits_of_disjoint hdisj]

theorem connectedBit_eventHandler :
    (eventHandler e w).eventGroup.allSet wifiConnectedBit = true ↔
      w.eventGroup.allSet wifiConnectedBit = true ∨ e.isStaGotIp = true := by
  unfold eventHandler
  cases hs : e.isStaStart with
  | true => simp [not_gotIp_of_wifi (isStaStart_iff.mp hs).1, connect]
  | false =>
    cases hd : e.isStaDisconnected with
    | true =>
      have hdisj : wifiConnectedBit &&& wifiFailBit = 0#24 := by decide
      by_cases hlt : w.retryNum < maxRetryCount <;>
        simp [hlt, not_gotIp_of_disconnected hd, connect,
          EventBits.allSet_setBits_of_disjoint hdisj]
    | false => cases hg : e.isStaGotIp <;> simp

/-! ## A history of events -/

/-- What the handler makes of a history that starts with `wifi_init`. -/
def afterEvents (events : List EspEvent) : Wifi := events.foldr eventHandler {}

theorem retryNum_afterEvents (events : List EspEvent) :
    (afterEvents events).retryNum
      = min maxRetryCount (hitsSince isStaGotIp isStaDisconnected events) := by
  rw [← foldr_next]
  induction events with
  | nil => rfl
  | cons e events ih =>
    rw [List.foldr_cons, ← ih]
    exact retryNum_eventHandler

/-- The counter is below the limit when the number it is cut off from is. -/
theorem retryNum_lt_iff (events : List EspEvent) :
    (afterEvents events).retryNum < maxRetryCount ↔
      hitsSince isStaGotIp isStaDisconnected events < maxRetryCount := by
  rw [retryNum_afterEvents, min_lt_iff]
  exact or_iff_right (lt_irrefl _)

theorem connects_afterEvents (events : List EspEvent) :
    (afterEvents events).connects
      = events.countP isStaStart
        + granted isStaGotIp isStaDisconnected maxRetryCount events := by
  induction events with
  | nil => rfl
  | cons e events ih =>
    show (eventHandler e (afterEvents events)).connects = _
    rw [connects_eventHandler, ih, List.countP_cons, granted]
    simp only [retryNum_lt_iff]
    omega

theorem failBit_afterEvents (events : List EspEvent) :
    (afterEvents events).eventGroup.allSet wifiFailBit = true ↔
      Exceeded isStaGotIp isStaDisconnected maxRetryCount events := by
  induction events with
  | nil => exact iff_of_false (by decide) not_exceeded_nil
  | cons e events ih =>
    show (eventHandler e (afterEvents events)).eventGroup.allSet wifiFailBit = true ↔ _
    rw [failBit_eventHandler, ih, exceeded_cons not_gotIp_of_disconnected, ← not_lt, ← not_lt,
      retryNum_lt_iff]

theorem connectedBit_afterEvents (events : List EspEvent) :
    (afterEvents events).eventGroup.allSet wifiConnectedBit = true ↔
      ∃ e ∈ events, e.isStaGotIp = true := by
  induction events with
  | nil => exact iff_of_false (by decide) (by simp)
  | cons e events ih =>
    show (eventHandler e (afterEvents events)).eventGroup.allSet wifiConnectedBit = true ↔ _
    rw [connectedBit_eventHandler, ih, List.exists_mem_cons_iff, or_comm]

/-! ## The status -/

theorem initStatus_eq_success {bits : EventBits} :
    initStatus bits = .success ↔ bits.allSet wifiConnectedBit = true := by
  have hbit : bits &&& wifiConnectedBit ≠ 0 ↔ bits.allSet wifiConnectedBit = true :=
    EventBits.and_twoPow_ne_zero (k := 0) (by decide)
  rw [← hbit]
  unfold initStatus
  constructor
  · intro h hz
    rw [if_neg (not_not.mpr hz), ite_self] at h
    cases h
  · intro h
    rw [if_pos h]

theorem initStatus_of_ne {bits : EventBits} (h : initStatus bits ≠ .success) :
    initStatus bits = .wifiInitializationFailed := by
  unfold initStatus at h ⊢
  rw [ite_self] at h ⊢
  split at h
  · exact absurd rfl h
  · rw [if_neg ‹_›]

end Wifi

/-! ## The program -/

/-- Where `wifi_init` has a registration for `WIFI_EVENT`. -/
def WifiInitPc.wifiRegistered : WifiInitPc → Bool
  | .registerIp | .start | .wait | .unregisterIp _ | .unregisterWifi _ => true
  | _ => false

/-- Where it has one for `IP_EVENT_STA_GOT_IP`. -/
def WifiInitPc.ipRegistered : WifiInitPc → Bool
  | .start | .wait | .unregisterIp _ => true
  | _ => false

/-- The status `wifi_init` is going to return or has returned. -/
def WifiInitPc.status? : WifiInitPc → Option Status
  | .unregisterIp status | .unregisterWifi status | .delete status | .returned status =>
    some status
  | _ => none

namespace WifiTraceEvent

/-- An event that was delivered, whoever handled it. -/
def delivered? : WifiTraceEvent → Option EspEvent
  | .delivered e _ => some e
  | _ => none

/-- An event that reached the handler. -/
def handled? : WifiTraceEvent → Option EspEvent
  | .delivered e true => some e
  | _ => none

end WifiTraceEvent

def deliveredEvents (tr : List WifiTraceEvent) : List EspEvent :=
  tr.filterMap WifiTraceEvent.delivered?

def handledEvents (tr : List WifiTraceEvent) : List EspEvent :=
  tr.filterMap WifiTraceEvent.handled?

/-- What holds of the program wherever it is. -/
structure Handled (tr : List WifiTraceEvent) (p : WifiProgram) : Prop where
  wifiHandler : p.wifiHandler = p.pc.wifiRegistered
  ipHandler : p.ipHandler = p.pc.ipRegistered
  /-- the static variables are what the handler made of the events that reached it -/
  wifi : p.wifi = Wifi.afterEvents (handledEvents tr)
  unhandled : p.pc = .create → handledEvents tr = []
  status : ∀ status, p.pc.status? = some status →
    ∃ bits, .waited bits ∈ tr ∧ status = Wifi.initStatus bits
  returned : ∀ status, .returned status ∈ tr → p.pc = .returned status

namespace Handled

variable {tr : List WifiTraceEvent} {p p' : WifiProgram} {es : List WifiTraceEvent}

theorem start : Handled [] {} :=
  ⟨rfl, rfl, rfl, fun _ => rfl, fun _ h => (by cases h), fun _ h => (by cases h)⟩

/-- An event is handled where there is a registration for it. -/
theorem handles_eq (h : Handled tr p) (e : EspEvent) :
    p.handles e
      = ((p.pc.wifiRegistered && e.base == .wifi) || (p.pc.ipRegistered && e.isStaGotIp)) := by
  unfold WifiProgram.handles
  rw [h.wifiHandler, h.ipHandler]

theorem deliver (h : Handled tr p) (e : EspEvent) :
    Handled (.delivered e (p.handles e) :: tr) (p.deliver e) := by
  have hpc : (p.deliver e).pc = p.pc := by
    unfold WifiProgram.deliver
    split <;> rfl
  refine ⟨?_, ?_, ?_, fun hc => ?_, fun status hs => ?_, fun status hs => ?_⟩
  · rw [hpc, ← h.wifiHandler]
    unfold WifiProgram.deliver
    split <;> rfl
  · rw [hpc, ← h.ipHandler]
    unfold WifiProgram.deliver
    split <;> rfl
  · unfold WifiProgram.deliver
    cases he : p.handles e with
    | true =>
      rw [if_pos rfl]
      show Wifi.eventHandler e p.wifi = Wifi.eventHandler e (Wifi.afterEvents (handledEvents tr))
      rw [h.wifi]
    | false => exact h.wifi
  · rw [hpc] at hc
    have he : p.handles e = false := by
      rw [h.handles_eq, hc]
      rfl
    rw [he]
    exact h.unhandled hc
  · rw [hpc] at hs
    obtain ⟨bits, hb, rfl⟩ := h.status status hs
    exact ⟨bits, List.mem_cons_of_mem _ hb, rfl⟩
  · rcases List.mem_cons.mp hs with hs | hs
    · cases hs
    · rw [hpc]
      exact h.returned status hs

/-- A statement of `wifi_init` that leaves the static variables and the trace alone and is not at
    a status yet. -/
theorem moved (h : Handled tr p) (hw : p'.wifiHandler = p'.pc.wifiRegistered)
    (hi : p'.ipHandler = p'.pc.ipRegistered) (hwifi : p'.wifi = p.wifi) (hc : p'.pc ≠ .create)
    (hs : p'.pc.status? = p.pc.status?) (hr : ∀ status, p.pc ≠ .returned status) :
    Handled tr p' :=
  ⟨hw, hi, hwifi.trans h.wifi, fun hpc => absurd hpc hc, fun status hst => h.status status (hs ▸ hst),
    fun status hst => absurd (h.returned status hst) (hr status)⟩

/-- A statement that determines the status, or returns it. -/
theorem decided (h : Handled tr p) {d : WifiTraceEvent} {status : Status}
    (hw : p'.wifiHandler = p'.pc.wifiRegistered) (hi : p'.ipHandler = p'.pc.ipRegistered)
    (hwifi : p'.wifi = p.wifi) (hd : d.handled? = none) (hc : p'.pc ≠ .create)
    (hs : p'.pc.status? = some status)
    (hbits : ∃ bits, .waited bits ∈ d :: tr ∧ status = Wifi.initStatus bits)
    (hr : ∀ status, p.pc ≠ .returned status)
    (hret : ∀ status, d = .returned status → p'.pc = .returned status) :
    Handled (d :: tr) p' := by
  have hhandled : handledEvents (d :: tr) = handledEvents tr := List.filterMap_cons_none hd
  refine ⟨hw, hi, ?_, fun hpc => absurd hpc hc, fun st hst => ?_, fun st hst => ?_⟩
  · rw [hwifi, hhandled]
    exact h.wifi
  · rw [hs] at hst
    cases hst
    exact hbits
  · rcases List.mem_cons.mp hst with hst | hst
    · exact hret st hst.symm
    · exact absurd (h.returned st hst) (hr st)

theorem init (h : Handled tr p) (hs : p.initStep = some (p', es)) : Handled (es ++ tr) p' := by
  have hw := h.wifiHandler
  have hi := h.ipHandler
  unfold WifiProgram.initStep at hs
  cases hpc : p.pc with
  | create =>
    simp only [hpc, Option.some.injEq, Prod.mk.injEq] at hs hw hi
    obtain ⟨rfl, rfl⟩ := hs
    -- the new group is what the variables start with
    have hempty : p.wifi = {} := by rw [h.wifi, h.unhandled hpc]; rfl
    exact h.moved hw hi (by rw [hempty]) (by simp) (by rw [hpc]; rfl) (by simp [hpc])
  | registerWifi =>
    simp only [hpc, Option.some.injEq, Prod.mk.injEq] at hs hi
    obtain ⟨rfl, rfl⟩ := hs
    exact h.moved rfl hi rfl (by simp) (by rw [hpc]; rfl) (by simp [hpc])
  | registerIp =>
    simp only [hpc, Option.some.injEq, Prod.mk.injEq] at hs hw
    obtain ⟨rfl, rfl⟩ := hs
    exact h.moved hw rfl rfl (by simp) (by rw [hpc]; rfl) (by simp [hpc])
  | start =>
    simp only [hpc, Option.some.injEq, Prod.mk.injEq] at hs hw hi
    obtain ⟨rfl, rfl⟩ := hs
    exact h.moved hw hi rfl (by simp) (by rw [hpc]; rfl) (by simp [hpc])
  | wait =>
    simp only [hpc] at hs hw hi
    split at hs
    · simp only [Option.some.injEq, Prod.mk.injEq] at hs
      obtain ⟨rfl, rfl⟩ := hs
      exact h.decided hw hi rfl rfl nofun rfl ⟨_, List.mem_cons_self, rfl⟩ (by simp [hpc]) nofun
    · cases hs
  | unregisterIp status =>
    simp only [hpc, Option.some.injEq, Prod.mk.injEq] at hs hw
    obtain ⟨rfl, rfl⟩ := hs
    exact h.moved hw rfl rfl (by simp) (by rw [hpc]; rfl) (by simp [hpc])
  | unregisterWifi status =>
    simp only [hpc, Option.some.injEq, Prod.mk.injEq] at hs hi
    obtain ⟨rfl, rfl⟩ := hs
    exact h.moved rfl hi rfl (by simp) (by rw [hpc]; rfl) (by simp [hpc])
  | delete status =>
    simp only [hpc, Option.some.injEq, Prod.mk.injEq] at hs hw hi
    obtain ⟨rfl, rfl⟩ := hs
    obtain ⟨bits, hb, hstatus⟩ := h.status status (by rw [hpc]; rfl)
    refine h.decided hw hi rfl rfl nofun rfl ⟨bits, List.mem_cons_of_mem _ hb, hstatus⟩
      (by simp [hpc]) ?_
    rintro _ ⟨⟩
    rfl
  | returned status =>
    simp only [hpc] at hs
    cases hs

end Handled

theorem WifiRun.handled {tr : List WifiTraceEvent} {p : WifiProgram} (h : WifiRun tr p) :
    Handled tr p := by
  refine h.invariant Handled.start ?_
  rintro tr p a p' es hp - hs
  cases a with
  | init => exact hp.init hs
  | deliver e =>
    cases hs
    exact hp.deliver e

namespace WifiProgram

open EspEvent RetryCounter

/-! ## The state machine -/

/-- **The retry state machine.** The counter, the calls of `esp_wifi_connect` and the two bits, in
    terms of the events alone; in a run the events are those that reached the handler; and the
    status `wifi_init` returns is decided by `WIFI_CONNECTED_BIT` among the bits of its wait. -/
theorem retry_state_machine :
    (∀ events : List EspEvent,
      (Wifi.afterEvents events).retryNum
        = min maxRetryCount (hitsSince isStaGotIp isStaDisconnected events) ∧
      (Wifi.afterEvents events).connects
        = events.countP isStaStart
          + granted isStaGotIp isStaDisconnected maxRetryCount events ∧
      ((Wifi.afterEvents events).eventGroup.allSet wifiFailBit = true ↔
        ∃ segment, segment <:+: events ∧ (∀ e ∈ segment, e.isStaGotIp = false) ∧
          maxRetryCount < segment.countP isStaDisconnected) ∧
      ((Wifi.afterEvents events).eventGroup.allSet wifiConnectedBit = true ↔
        ∃ e ∈ events, e.isStaGotIp = true)) ∧
    (∀ tr p, WifiRun tr p →
      p.wifi = Wifi.afterEvents (handledEvents tr) ∧
      ∀ status, .returned status ∈ tr → ∃ bits, .waited bits ∈ tr ∧
        (status = .success ↔ bits.allSet wifiConnectedBit = true) ∧
        (status ≠ .success → status = .wifiInitializationFailed)) := by
  constructor
  · intro events
    exact ⟨Wifi.retryNum_afterEvents events, Wifi.connects_afterEvents events,
      Wifi.failBit_afterEvents events, Wifi.connectedBit_afterEvents events⟩
  · intro tr p h
    refine ⟨h.handled.wifi, fun status hs => ?_⟩
    have hpc := h.handled.returned status hs
    obtain ⟨bits, hb, rfl⟩ := h.handled.status status (by rw [hpc]; rfl)
    exact ⟨bits, hb, Wifi.initStatus_eq_success, Wifi.initStatus_of_ne⟩

/-- What the evaluation of a schedule says is true of a run. -/
theorem reaches {a : List WifiAction} {q : WifiProgram → List WifiTraceEvent → Bool}
    (h : ((exec step (fun _ _ => true) a {} []).any fun r => q r.1 r.2) = true) :
    ∃ tr p, WifiRun tr p ∧ q p tr = true := by
  rw [Option.any_eq_true] at h
  obtain ⟨⟨p, tr⟩, hr, hq⟩ := h
  have hrun : Run (StepOf step) (fun _ _ => true = true) {} tr p := run_of_exec .start hr
  exact ⟨tr, p, hrun.mono fun _ _ _ => trivial, hq⟩

def staStart : EspEvent := { base := .wifi, id := wifiEventStaStart }
def staDisconnected : EspEvent := { base := .wifi, id := wifiEventStaDisconnected }
def staGotIp : EspEvent := { base := .ip, id := ipEventStaGotIp }

/-- `wifi_init` up to its wait, and the start of the station. -/
def intoWait : List WifiAction := List.replicate 4 .init ++ [.deliver staStart]

/-- One loss while `wifi_init` waits, then an address. -/
theorem retry_state_machine_once : ∃ tr p, WifiRun tr p ∧ p.wifi.retryNum = 0 ∧
    p.wifi = Wifi.afterEvents (handledEvents tr) ∧ .returned .success ∈ tr := by
  obtain ⟨tr, p, hrun, hq⟩ := reaches
    (a := intoWait ++ [.deliver staDisconnected, .deliver staGotIp] ++ List.replicate 4 .init)
    (q := fun p tr => p.wifi.retryNum == 0 && tr.contains (.returned .success)) (by decide)
  simp only [Bool.and_eq_true, beq_iff_eq, List.contains_iff_mem] at hq
  exact ⟨tr, p, hrun, hq.1, (retry_state_machine.2 tr p hrun).1, hq.2⟩

/-! ## After `wifi_init` -/

/-- The law of reconnection for what may be delivered next: a loss of the connection within the
    budget leads to a call of `esp_wifi_connect`. -/
def Reconnects (tr : List WifiTraceEvent) (p : WifiProgram) : Prop :=
  ∀ e : EspEvent, e.isStaDisconnected = true →
    hitsSince isStaGotIp isStaDisconnected (deliveredEvents tr) < maxRetryCount →
      (p.deliver e).wifi.connects = p.wifi.connects + 1

/-- The station gets its address, `wifi_init` returns `ST_SUCCESS`, and the connection is lost. -/
theorem reconnection_lost : ∃ tr p, WifiRun tr p ∧ .returned .success ∈ tr ∧
    ¬ Reconnects tr p := by
  obtain ⟨tr, p, hrun, hq⟩ := reaches
    (a := intoWait ++ [.deliver staGotIp] ++ List.replicate 4 .init)
    (q := fun p tr => tr.contains (.returned .success) &&
      decide (hitsSince isStaGotIp isStaDisconnected (deliveredEvents tr) < maxRetryCount) &&
      (p.deliver staDisconnected).wifi.connects == p.wifi.connects) (by decide)
  simp only [Bool.and_eq_true, beq_iff_eq, decide_eq_true_eq, List.contains_iff_mem] at hq
  refine ⟨tr, p, hrun, hq.1.1, fun h => ?_⟩
  have := h staDisconnected rfl hq.1.2
  omega

/-- **Reconnection lasts as long as the registration.** A loss of the connection leads to one call
    of `esp_wifi_connect` exactly when it is delivered while the handler is registered and after
    fewer than `MAX_RETRY_COUNT` losses since the last address; once `wifi_init` has returned no
    event changes anything. -/
theorem reconnection_while_registered (tr : List WifiTraceEvent) (p : WifiProgram)
    (hrun : WifiRun tr p) :
    (∀ e : EspEvent, e.isStaDisconnected = true →
      (p.deliver e).wifi.connects = p.wifi.connects
        + if p.pc.wifiRegistered = true ∧
            hitsSince isStaGotIp isStaDisconnected (handledEvents tr) < maxRetryCount
          then 1 else 0) ∧
    (∀ status, .returned status ∈ tr → ∀ e : EspEvent, p.deliver e = p) := by
  have hh := hrun.handled
  refine ⟨fun e he => ?_, fun status hs e => ?_⟩
  · have hhandles : p.handles e = p.pc.wifiRegistered := by
      rw [hh.handles_eq, (isStaDisconnected_iff.mp he).1, not_gotIp_of_disconnected he]
      simp
    have hstart : e.isStaStart = false := by
      by_contra hne
      rw [not_disconnected_of_start (by simpa using hne)] at he
      cases he
    unfold deliver
    rw [hhandles]
    cases hreg : p.pc.wifiRegistered with
    | false => simp
    | true =>
      rw [if_pos rfl, Wifi.connects_eventHandler, hstart, he, hh.wifi]
      simp [Wifi.retryNum_lt_iff]
  · have hpc := hh.returned status hs
    unfold deliver
    rw [if_neg]
    rw [hh.handles_eq, hpc]
    simp [WifiInitPc.wifiRegistered, WifiInitPc.ipRegistered]

/-- A loss while `wifi_init` waits is retried. -/
theorem reconnection_while_waiting : ∃ tr p, WifiRun tr p ∧
    (p.deliver staDisconnected).wifi.connects = p.wifi.connects + 1 := by
  obtain ⟨tr, p, hrun, hq⟩ := reaches (a := intoWait)
    (q := fun p tr => p.pc.wifiRegistered &&
      decide (hitsSince isStaGotIp isStaDisconnected (handledEvents tr) < maxRetryCount))
    (by decide)
  simp only [Bool.and_eq_true, decide_eq_true_eq] at hq
  have h := (reconnection_while_registered tr p hrun).1 staDisconnected rfl
  rw [if_pos hq] at h
  exact ⟨tr, p, hrun, h⟩

end WifiProgram
end Esp32Eye
