import Esp32Eye.Proof.Pending
import Esp32Eye.Schedule

/-!
# `CLIENTS_INTERESTED_IN_VIDEO_BIT` follows the mask

`update_video_interest` keeps the bit by comparing the mask before and after its own update, and a
disconnection clears bits of the mask without telling anybody. So the bit cannot be exact at every
moment. Inside an iteration only one direction holds, a non-zero mask has the bit set, and the
clean-up at the end of the loop restores the other. `InterestOk` is that, with what the two
program points that have read the mask already remember of it.
-/

namespace Esp32Eye

open Lib

def Network.interested (n : Network) : Bool := n.eventGroup.allSet clientsInterestedInVideoBit

/-- What is known of the mask and the bit at each point of `task_handle_requests`. -/
def InterestOk (mask : BitVec 16) (bit : Bool) : RequestPc → Prop
  | .wait => bit = true ↔ mask ≠ 0
  | .updateEvent previous new _ => new = mask ∧ (previous ≠ 0 → bit = true)
  | .interestClear interest => interest = mask ∧ (mask ≠ 0 → bit = true)
  | _ => mask ≠ 0 → bit = true

def Network.InterestOk (n : Network) : Prop :=
  Esp32Eye.InterestOk n.server.videoInterestMask n.interested n.request

/-! ## The event group -/

section

variable {g : EventBits}

theorem interested_setAvailable :
    (g.setBits clientsAvailableBit).allSet clientsInterestedInVideoBit
      = g.allSet clientsInterestedInVideoBit := by
  apply EventBits.allSet_setBits_of_disjoint
  decide

theorem interested_setConnected :
    (g.setBits clientConnectedBit).allSet clientsInterestedInVideoBit
      = g.allSet clientsInterestedInVideoBit := by
  apply EventBits.allSet_setBits_of_disjoint
  decide

theorem interested_clearAvailable :
    (g.clearBits clientsAvailableBit).allSet clientsInterestedInVideoBit
      = g.allSet clientsInterestedInVideoBit := by
  apply EventBits.allSet_clearBits_of_disjoint
  decide

theorem interested_clearInterested :
    (g.clearBits clientsInterestedInVideoBit).allSet clientsInterestedInVideoBit = false := by
  apply EventBits.allSet_clearBits_self
  decide

/-- Edge detection is enough: if the bit was right before the update, it is right after. -/
theorem interested_updateEventBits {previous new : BitVec 16}
    (h : previous ≠ 0 → g.allSet clientsInterestedInVideoBit = true) (hnew : new ≠ 0) :
    (Network.updateEventBits g previous new).allSet clientsInterestedInVideoBit = true := by
  unfold Network.updateEventBits
  by_cases hp : previous = 0
  · rw [if_pos ⟨hp, hnew⟩]
    exact EventBits.allSet_setBits_self _ _
  · rw [if_neg (fun hc => hp hc.1), if_neg (fun hc => hnew hc.2)]
    exact h hp

end

/-! ## The mask -/

namespace Server

variable {s : Server} {i : Slot}

theorem disconnect_mask {clientIndex : ℤ} (ha : s.activeSlot clientIndex = some i) :
    (s.disconnectClientNoSync clientIndex).videoInterestMask
      = clearBit s.videoInterestMask i := by
  unfold disconnectClientNoSync
  rw [ha]

theorem serveSlot_mask {result : RecvResult} (ha : (s.connections i).isActive = true) :
    (s.serveSlot i result).1.videoInterestMask
      = if result.closes then clearBit s.videoInterestMask i else s.videoInterestMask := by
  obtain ⟨data, hd⟩ := serveSlot_table (s := s) (i := i) result
  rw [hd]
  split
  · exact disconnect_mask (activeSlot_coe ha)
  · rfl

/-- For an active client the value returned is the mask it leaves. -/
theorem update_returns {clientIndex : ℤ} {b : Bool} (ha : s.activeSlot clientIndex = some i) :
    (s.updateClientVideoInterest clientIndex b).2
      = (s.updateClientVideoInterest clientIndex b).1.videoInterestMask := by
  unfold updateClientVideoInterest
  rw [ha]

theorem update_mask {clientIndex : ℤ} {b : Bool} (ha : s.activeSlot clientIndex = some i) :
    (s.updateClientVideoInterest clientIndex b).1.videoInterestMask
      = if b then setBit s.videoInterestMask i else clearBit s.videoInterestMask i := by
  unfold updateClientVideoInterest
  rw [ha]

/-- `recv` for one slot decides no other bit. -/
theorem serveSlot_bit_other {result : RecvResult} {j : Slot}
    (ha : (s.connections i).isActive = true) (hj : j ≠ i) :
    (s.serveSlot i result).1.videoInterestMask.getLsbD j = s.videoInterestMask.getLsbD j := by
  rw [serveSlot_mask ha]
  split
  · rw [getLsbD_clearBit, decide_eq_false (Fin.val_ne_of_ne hj), Bool.not_false, Bool.and_true]
  · rfl

/-- An update decides the bit of its slot. -/
theorem update_bit {clientIndex : ℤ} {b : Bool} (ha : s.activeSlot clientIndex = some i)
    (j : Slot) :
    (s.updateClientVideoInterest clientIndex b).1.videoInterestMask.getLsbD j
      = if j = i then b else s.videoInterestMask.getLsbD j := by
  have hw : (i : ℕ) < 16 := Nat.lt_trans i.isLt (by decide)
  have hval : (j : ℕ) = i ↔ j = i := Fin.ext_iff.symm
  rw [update_mask ha]
  cases b with
  | true =>
    rw [if_pos rfl, getLsbD_setBit hw]
    by_cases hj : j = i <;> simp [hval, hj]
  | false =>
    rw [if_neg (by simp), getLsbD_clearBit]
    by_cases hj : j = i <;> simp [hval, hj]

theorem ne_zero_of_clearBit {w : ℕ} {m : BitVec w} {k : ℕ} (h : clearBit m k ≠ 0) : m ≠ 0 := by
  intro hm
  apply h
  rw [hm]
  simp [clearBit]

end Server

/-- The request being applied names an active slot. -/
theorem PendingOk.updating {n : Network} (h : PendingOk n) {z : ℤ} {b : Bool}
    {requests : List Request} (hpc : n.request = .update z b requests) :
    ∃ i, n.server.activeSlot z = some i := by
  obtain ⟨i, hi, hact⟩ := h.active z (by rw [hpc]; exact List.mem_cons_self)
  exact ⟨i, Server.activeSlot_eq_some.mpr ⟨hi, hact⟩⟩

/-! ## One step, every run -/

/-- At every point but one, and there the mask has just been changed, the weaker half holds. -/
theorem InterestOk.bit_of_mask {mask : BitVec 16} {bit : Bool} {pc : RequestPc}
    (h : InterestOk mask bit pc) (hpc : ∀ p q rs, pc ≠ .updateEvent p q rs) (hm : mask ≠ 0) :
    bit = true := by
  cases pc with
  | wait => exact h.mpr hm
  | updateEvent p q rs => exact absurd rfl (hpc p q rs)
  | interestClear => exact h.2 hm
  | _ => exact h hm

namespace Network

variable {n n' : Network} {m m' : Option Task} {a : NetworkAction} {es : List NetworkEvent}

theorem Rule.interest_bit (hr : n.Rule m a m' n' es) (ha : a.ByTasks) (hp : PendingOk n)
    (h : n.InterestOk) : n'.InterestOk := by
  have hbit : (∀ p q rs, n.request ≠ .updateEvent p q rs) →
      n.server.videoInterestMask ≠ 0 → n.interested = true := h.bit_of_mask
  unfold Network.InterestOk Network.interested at h ⊢
  cases hr with
  | setAvailable => rw [interested_setAvailable]; exact h
  | setConnected => rw [interested_setConnected]; exact h
  | scanReceived hpc hread =>
    -- a disconnection only clears bits, so the mask was not zero before
    intro hm
    have hmask := hm
    rw [Server.serveSlot_mask (readable_active hread)] at hmask
    refine hbit (by simp [hpc]) ?_
    split at hmask
    · exact Server.ne_zero_of_clearBit hmask
    · exact hmask
  | @update _ z b requests hpc =>
    obtain ⟨i, hi⟩ := hp.updating hpc
    exact ⟨Server.update_returns hi, hbit (by simp [hpc])⟩
  | updateEvent hpc =>
    rw [hpc] at h
    intro hm
    exact interested_updateEventBits h.2 (h.1 ▸ hm)
  | clearAvailable hpc =>
    rw [interested_clearAvailable]
    exact hbit (by simp [hpc])
  | interest hpc => exact ⟨rfl, hbit (by simp [hpc])⟩
  | clearInterested hpc =>
    rw [hpc] at h
    show _ = true ↔ _
    rw [interested_clearInterested]
    simp [← h.1]
  | keepInterested hpc hi =>
    -- the value that was read is still the mask: nothing else changes it at this point
    rw [hpc] at h
    have hm : n.server.videoInterestMask ≠ 0 := h.1 ▸ hi
    exact ⟨fun _ => hm, fun _ => h.2 hm⟩
  | wait hpc | snapshotTake hpc | snapshot hpc | polled hpc | scanTake hpc | scanSkip hpc
  | scanDone hpc | dispatchDone hpc | dispatchVideo hpc | dispatchOther hpc | updateTake hpc
  | countTake hpc | count hpc | keepAvailable hpc | interestTake hpc =>
    exact hbit (by simp [hpc])
  | disconnect => cases ha
  | _ => exact h

end Network

theorem interestOk_appRun (b : System.Boot) : (System.appRun b).network.InterestOk := by
  show _ = true ↔ _
  simp [System.appRun, Network.interested, EventBits.allSet, clientsInterestedInVideoBit]

theorem NetworkRun.interestOk {C : Network → NetworkAction → Prop} {n₀ n : Network}
    {tr : List NetworkEvent} (hC : ∀ n a, C n a → a.ByTasks) (hp : PendingOk n₀)
    (h₀ : n₀.InterestOk) (h : NetworkRun C n₀ tr n) : n.InterestOk := by
  refine h.invariant_of (J := fun _ n => PendingOk n) (I := fun _ n => n.InterestOk)
    (fun hr => NetworkRun.pending hC hp hr) h₀ ?_
  intro tr n a n' es hpend hn hc hs
  obtain ⟨m, m', hr⟩ := hs
  exact hr.interest_bit (hC _ _ hc) hpend hn

namespace System

/-- At the head of the loop the bit is what the mask says. -/
theorem SystemRun.interested_iff {b : Boot} {tr : List Event} {s : System}
    (h : SystemRun (fun _ a => byTasks a) (appRun b) tr s) (hpc : s.network.request = .wait) :
    s.network.interested = true ↔ s.network.server.videoInterestMask ≠ 0 := by
  have hok := h.tasks.interestOk (fun _ _ ha => ha) (pending_appRun b) (interestOk_appRun b)
  unfold Network.InterestOk at hok
  rw [hpc] at hok
  exact hok

/-- **The video-interest flag.** In every run of the six tasks the bit is exact whenever
    `task_handle_requests` is at the head of its loop, and a non-zero mask has it set everywhere
    else but between a mask update and the event-group call that follows it. -/
theorem interest_flag (b : Boot) (tr : List Event) (s : System)
    (hrun : SystemRun (fun _ a => byTasks a) (appRun b) tr s) :
    (s.network.request = .wait →
      (s.network.eventGroup.allSet clientsInterestedInVideoBit = true
        ↔ s.network.server.videoInterestMask ≠ 0)) ∧
    ((∀ previous new requests, s.network.request ≠ .updateEvent previous new requests) →
      s.network.server.videoInterestMask ≠ 0 →
        s.network.eventGroup.allSet clientsInterestedInVideoBit = true) := by
  have h := hrun.tasks.interestOk (fun _ _ ha => ha) (pending_appRun b) (interestOk_appRun b)
  exact ⟨hrun.interested_iff, h.bit_of_mask⟩

/-- A client turns its video on, and the request task comes back to the head of its loop. -/
theorem interest_flag_on :
    ∃ tr s, SystemRun (fun _ a => byTasks a) (appRun started) tr s ∧
      s.network.request = .wait ∧ s.network.server.videoInterestMask = 1 ∧
      s.network.eventGroup.allSet clientsInterestedInVideoBit = true := by
  obtain ⟨tr, s, hrun, hq⟩ := reaches (p := fun _ a => byTasks a) (b := started)
    (a := acceptRound 57 ++ intoPoll ++ serve [delivered (interestMessage true)]
      ++ dispatchSteps ++ finishSteps)
    (q := fun s _ => s.network.request.atWait && decide (s.network.server.videoInterestMask = 1))
    (by decide +kernel)
  simp only [Bool.and_eq_true, decide_eq_true_eq] at hq
  have hwait : s.network.request = .wait := RequestPc.atWait_iff.mp hq.1
  refine ⟨tr, s, hrun, hwait, hq.2, (interest_flag started tr s hrun).1 hwait |>.mpr ?_⟩
  rw [hq.2]
  decide

end System
end Esp32Eye
