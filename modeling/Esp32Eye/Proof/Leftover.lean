import Esp32Eye.Proof.Lockstep
import Esp32Eye.Proof.Ownership

/-!
# What an earlier message leaves behind

`server_handle_requests` records a request with the length of its body, and nothing reads that
length: `task_handle_requests` takes the body's first byte through the pointer alone. When `recv`
returned the four bytes of a header and no more, the byte it takes is the one that was in the slot's
chunk of `recv_buffer` before. This file compares two runs of one iteration of the request task that
differ in the buffer alone, and says that this is the only way in which they can come apart.
-/

namespace Esp32Eye

open Lib

/-! ## Once round the loop -/

/-- How many times the descriptor set was filled. -/
def rounds (tr : List NetworkEvent) : ℕ :=
  tr.countP fun | .snapshot => true | _ => false

namespace RequestPc

/-- In front of the descriptor set of this iteration. -/
def filling : RequestPc → Bool
  | .wait => true
  | .snapshotTake => true
  | .snapshot => true
  | _ => false

/-- Slot `i` is still to be looked at in this iteration. -/
def unread (i : Slot) : RequestPc → Bool
  | .poll _ => true
  | .scanTake _ => true
  | .scan _ k _ => decide (k ≤ i)
  | _ => false

end RequestPc

/-- Nothing is received before the descriptor set is filled, and from then on every slot is looked
    at once. -/
structure RoundOk (tr : List NetworkEvent) (n : Network) : Prop where
  before : rounds tr = 0 → n.request.filling = true ∧ ∀ i, receivedBy i tr = []
  within : rounds tr = 1 → ∀ i, (receivedBy i tr).length ≤ 1 ∧
    (n.request.unread i = true → receivedBy i tr = [])

namespace RoundOk

variable {n n' : Network} {tr es : List NetworkEvent}

theorem quiet (h : RoundOk tr n) (hr : rounds es = 0) (hes : ∀ i, receivedBy i es = [])
    (hf : n.request.filling = true → n'.request.filling = true)
    (hu : ∀ i, n'.request.unread i = true → n.request.unread i = true) :
    RoundOk (es ++ tr) n' := by
  have hrounds : rounds (es ++ tr) = rounds tr := by
    unfold rounds at hr ⊢
    rw [List.countP_append, hr, Nat.zero_add]
  have hreceived : ∀ i, receivedBy i (es ++ tr) = receivedBy i tr := by
    intro i
    rw [receivedBy_append, hes i, List.nil_append]
  refine ⟨?_, ?_⟩
  · intro h₀
    obtain ⟨hfill, hnil⟩ := h.before (hrounds ▸ h₀)
    exact ⟨hf hfill, fun i => (hreceived i).trans (hnil i)⟩
  · intro h₁ i
    obtain ⟨hlen, hnil⟩ := h.within (hrounds ▸ h₁) i
    rw [hreceived i]
    exact ⟨hlen, fun hi => hnil (hu i hi)⟩

theorem snapshot {fds : Slot → Pollfd} (h : RoundOk tr n) :
    RoundOk ([.snapshot] ++ tr) { n with request := .poll fds } := by
  have hrounds : rounds ([.snapshot] ++ tr) = rounds tr + 1 := by
    unfold rounds
    rw [List.countP_append, Nat.add_comm]
    rfl
  refine ⟨?_, ?_⟩
  · intro h₀
    omega
  · intro h₁ i
    have hnil : receivedBy i tr = [] := (h.before (by omega)).2 i
    have hsame : receivedBy i ([.snapshot] ++ tr) = receivedBy i tr := rfl
    rw [hsame, hnil]
    exact ⟨Nat.zero_le _, fun _ => rfl⟩

theorem received {fds : Slot → Pollfd} {j : Slot} {requests requests' : List Request} {fd : ℤ}
    {c : ℕ} {result : RecvResult} {s : Server} (h : RoundOk tr n)
    (hpc : n.request = .scan fds j requests) :
    RoundOk ([.received j fd c result] ++ tr)
      { n with server := s, request := .scan fds (j + 1) requests' } := by
  have hrounds : rounds ([.received j fd c result] ++ tr) = rounds tr := by
    unfold rounds
    rw [List.countP_append]
    exact Nat.zero_add _
  refine ⟨?_, ?_⟩
  -- nothing is received before the set is filled
  · intro h₀
    have hfill := (h.before (hrounds ▸ h₀)).1
    rw [hpc] at hfill
    cases hfill
  · intro h₁ i
    obtain ⟨hlen, hnil⟩ := h.within (hrounds ▸ h₁) i
    rw [hpc] at hnil
    show (receivedBy i (.received j fd c result :: tr)).length ≤ 1 ∧ _
    rw [List.singleton_append, receivedBy]
    split
    · rename_i hij
      subst hij
      rw [hnil (decide_eq_true le_rfl)]
      exact ⟨le_rfl, fun hu => absurd (of_decide_eq_true hu) (Nat.not_succ_le_self _)⟩
    · exact ⟨hlen, fun hu => hnil (decide_eq_true (Nat.le_of_succ_le (of_decide_eq_true hu)))⟩

end RoundOk

theorem Network.Rule.roundOk {n n' : Network} {m m' : Option Task} {a : NetworkAction}
    {tr es : List NetworkEvent} (hr : n.Rule m a m' n' es) (h : RoundOk tr n) :
    RoundOk (es ++ tr) n' := by
  cases hr with
  | snapshot hpc => exact h.snapshot
  | scanReceived hpc hread => exact h.received hpc
  | scanSkip hpc hread =>
    refine h.quiet rfl (fun _ => rfl) ?_ ?_
    · rw [hpc]
      exact id
    · intro i hi
      rw [hpc]
      exact decide_eq_true (Nat.le_of_succ_le (of_decide_eq_true hi))
  | wait hpc | snapshotTake hpc =>
    exact h.quiet rfl (fun _ => rfl) (fun _ => rfl) (fun _ hi => by cases hi)
  | polled hpc | scanTake hpc =>
    refine h.quiet rfl (fun _ => rfl) ?_ ?_ <;> rw [hpc]
    · exact id
    · exact fun _ _ => rfl
  | scanDone hpc | dispatchDone hpc | dispatchVideo hpc | dispatchOther hpc | updateTake hpc
  | update hpc | updateEvent hpc | countTake hpc | count hpc | clearAvailable hpc
  | keepAvailable hpc | interestTake hpc | interest hpc | clearInterested hpc
  | keepInterested hpc =>
    refine h.quiet rfl (fun _ => rfl) ?_ (fun _ hi => by cases hi)
    rw [hpc]
    intro hf
    cases hf
  | _ => exact h.quiet rfl (fun _ => rfl) id (fun _ => id)

/-- In every run that begins at the head of the loop. -/
theorem NetworkRun.roundOk {C : Network → NetworkAction → Prop} {n₀ n : Network}
    {tr : List NetworkEvent} (h₀ : n₀.request = .wait) (h : NetworkRun C n₀ tr n) :
    RoundOk tr n := by
  refine h.invariant (I := RoundOk) ?_ ?_
  · refine ⟨fun _ => ⟨by rw [h₀]; rfl, fun _ => rfl⟩, fun hc => absurd hc (by simp [rounds])⟩
  · intro tr n a n' es hn _ hs
    obtain ⟨m, m', hr⟩ := hs
    exact hr.roundOk hn

/-! ## Two buffers -/

/-- The header of an interest message and nothing behind it. -/
def interestHeader : List UInt8 := [0xAA, 0xDC, 0xFB, 0xED]

theorem interestHeader_iff {x₀ x₁ x₂ x₃ : UInt8} :
    beWord32 x₀ x₁ x₂ x₃ = requestVideoInterest ↔ [x₀, x₁, x₂, x₃] = interestHeader := by
  have hreq : requestVideoInterest = beWord32 0xAA 0xDC 0xFB 0xED := by decide
  rw [hreq, beWord32_inj]
  simp [interestHeader]

namespace SlotView

variable {v w : SlotView} {data : List UInt8} {hb : data.length ≤ maxRequestSize}

theorem value_fill_long {c d : Fin maxRequestSize → UInt8} (h : 5 ≤ data.length) :
    value (fill c data) = value (fill d data) := by
  rw [value_fill, value_fill, List.getD_eq_getElem?_getD, List.getD_eq_getElem?_getD,
    List.getElem?_eq_getElem h]
  rfl

/-- A recv of four bytes decides the header and leaves the value as it was. -/
theorem hear_bare {x₀ x₁ x₂ x₃ : UInt8} {hb : [x₀, x₁, x₂, x₃].length ≤ maxRequestSize} :
    (v.hear (.bytes [x₀, x₁, x₂, x₃] hb)).interest
      = if [x₀, x₁, x₂, x₃] = interestHeader then value v.chunk != 0 else v.interest := by
  have hheader : header (fill v.chunk [x₀, x₁, x₂, x₃]) = requestVideoInterest ↔
      [x₀, x₁, x₂, x₃] = interestHeader := interestHeader_iff
  have hvalue : value (fill v.chunk [x₀, x₁, x₂, x₃]) = value v.chunk := value_fill
  unfold hear
  dsimp only
  rw [if_neg (by simp), hvalue]
  simp only [hheader, List.length_cons, List.length_nil, le_refl, true_and]

/-- A recv of any other length decides everything it is asked for. -/
theorem hear_whole (hi : v.interest = w.interest) (h₄ : data.length ≠ 4) :
    (v.hear (.bytes data hb)).interest = (w.hear (.bytes data hb)).interest := by
  unfold hear
  dsimp only
  by_cases h₅ : 5 ≤ data.length
  · rw [header_fill (d := w.chunk) (by omega), value_fill_long (d := w.chunk) h₅, hi]
  · have hshort : ¬ 4 ≤ data.length := by omega
    simp only [hshort, false_and, if_false, hi]

/-- **When the rest of the buffer matters.** Two slots with the same interest hear the same thing;
    they agree afterwards unless it is a bare header and the bytes behind it say different things. -/
theorem hear_interest_iff (hi : v.interest = w.interest) (r : RecvResult) :
    (v.hear r).interest = (w.hear r).interest ↔
      (r.data = interestHeader → (value v.chunk = 0 ↔ value w.chunk = 0)) := by
  cases r with
  | error => exact iff_of_true rfl fun hd => absurd hd (by simp [RecvResult.data, interestHeader])
  | bytes data hb =>
    by_cases h₄ : data.length = 4
    · obtain ⟨x₀, x₁, x₂, x₃, rfl⟩ := List.length_eq_four.mp h₄
      show _ ↔ ([x₀, x₁, x₂, x₃] = interestHeader → _)
      rw [hear_bare, hear_bare]
      by_cases hd : [x₀, x₁, x₂, x₃] = interestHeader
      · rw [if_pos hd, if_pos hd, imp_iff_right hd, Bool.eq_iff_iff, bne_iff_ne, bne_iff_ne]
        exact not_iff_not
      · rw [if_neg hd, if_neg hd]
        exact iff_of_true hi fun h => absurd h hd
    · refine iff_of_true (hear_whole hi h₄) fun hd => absurd ?_ h₄
      exact congrArg List.length hd

end SlotView

namespace System

/-! ## The comparison -/

/-- The schedule `as` takes `task_handle_requests` once round its loop, and the other tasks
    wherever they get to on the way. -/
structure Iteration (as : List Action) (s : System) (tr : List Event) (s' : System) : Prop where
  begins : s.network.request = .wait
  runs : exec step (fun _ a => byTasks a) as s [] = some (s', tr)
  ends : s'.network.request = .wait
  once : rounds (networkTrace tr) = 1

/-- The connection table, the interest mask and the event bits are the same. -/
structure Agree (s t : System) : Prop where
  connections : s.network.server.connections = t.network.server.connections
  mask : s.network.server.videoInterestMask = t.network.server.videoInterestMask
  bits : s.network.eventGroup = t.network.eventGroup

section

variable {b b' : Boot} {tr tr' ur vr : List Event} {s s' t t' : System} {as : List Action}

theorem Iteration.run (h : Iteration as s tr s') :
    SystemRun (fun _ a => byTasks a) s tr s' := run_of_exec .start h.runs

/-- The interest bit after an iteration, from the bit and the chunk before it. -/
theorem Iteration.interest (h : Iteration as s ur s')
    (hs : SystemRun (fun _ a => byTasks a) (appRun b) tr s) (i : Slot) :
    s'.network.server.videoInterestMask.getLsbD i
      = ((receivedBy i (networkTrace ur)).foldr (fun r v => SlotView.hear v r)
          { interest := s.network.server.videoInterestMask.getLsbD i
            chunk := s.network.server.chunkByte i }).interest := by
  have hview := h.run.tasks.view (fun _ _ h => h) hs.pending i
  have hsettled : ∀ {u : System}, u.network.request = .wait →
      u.network.settled i = u.network.server.videoInterestMask.getLsbD i := by
    intro u hu
    apply Network.settled_of_notMem
    rw [hu]
    exact List.not_mem_nil
  rw [← hsettled h.ends, ← hsettled h.begins]
  exact congrArg SlotView.interest hview

/-- In one iteration a slot receives once at most. -/
theorem Iteration.received (h : Iteration as s ur s') (i : Slot) :
    receivedBy i (networkTrace ur) = [] ∨ ∃ r, receivedBy i (networkTrace ur) = [r] := by
  have hlen := ((h.run.tasks.roundOk h.begins).within h.once i).1
  cases hr : receivedBy i (networkTrace ur) with
  | nil => exact Or.inl rfl
  | cons r rs =>
    rw [hr] at hlen
    cases rs with
    | nil => exact Or.inr ⟨r, rfl⟩
    | cons => simp at hlen

/-- States that agree look alike to the tasks. -/
theorem Agree.alike {accepting : Bool} (h : Agree s t)
    (hs : SystemRun (fun _ a => byTasks a) (appRun b) tr s)
    (ht : SystemRun (fun _ a => byTasks a) (appRun b') tr' t)
    (ha : accepting = true → s.network.accept = t.network.accept)
    (hr : s.network.request = t.network.request) : Alike accepting [] s [] t := by
  refine ⟨Network.erase_congr h.connections ?_ ?_ ha ?_, fun _ => rfl⟩
  · rw [hs.tableInvariant.count, ht.tableInvariant.count, h.connections]
  · rw [h.bits]
  · rw [hr]

/-- At the head of the loop the flag follows from the mask, and the other bits are the same. -/
theorem eventGroup_of_mask {accepting : Bool} (h : Alike accepting ur s' vr t')
    (hs : SystemRun (fun _ a => byTasks a) (appRun b) tr s')
    (ht : SystemRun (fun _ a => byTasks a) (appRun b') tr' t') (hsw : s'.network.request = .wait)
    (htw : t'.network.request = .wait)
    (hm : s'.network.server.videoInterestMask = t'.network.server.videoInterestMask) :
    s'.network.eventGroup = t'.network.eventGroup := by
  have hbit : clientsInterestedInVideoBit = BitVec.twoPow 24 2 := by decide
  have hrest := congrArg Network.eventGroup h.erased
  have hboth : s'.network.interested = t'.network.interested := by
    rw [Bool.eq_iff_iff, hs.interested_iff hsw, ht.interested_iff htw, hm]
  unfold Network.erase at hrest
  unfold Network.interested at hboth
  rw [hbit] at hrest hboth
  exact EventBits.eq_of_clearBits_twoPow (by decide) hrest hboth

end

/-- **Received data only.** Take two reachable states at the head of the loop of
    `task_handle_requests` that agree on the table, the mask and the event bits, whatever is in
    their buffers, and let the same schedule, with the same results of `poll` and `recv` in it,
    take the task once round its loop in both. Mask and event bits are the same again if and only
    if, for each slot on which `recv` returned a header and nothing more, the byte behind it was
    zero in both buffers or in neither. -/
theorem received_data_only (b b' : Boot) (tr tr' ur vr : List Event) (s t s' t' : System)
    (as : List Action) (hs : SystemRun (fun _ a => byTasks a) (appRun b) tr s)
    (ht : SystemRun (fun _ a => byTasks a) (appRun b') tr' t) (hagree : Agree s t)
    (haccept : (∃ input, .network (.accept input) ∈ as) → s.network.accept = t.network.accept)
    (hs' : Iteration as s ur s') (ht' : Iteration as t vr t') :
    s'.network.server.videoInterestMask = t'.network.server.videoInterestMask ∧
        s'.network.eventGroup = t'.network.eventGroup ↔
      ∀ i, ∀ r ∈ receivedBy i (networkTrace ur), r.data = interestHeader →
        (SlotView.value (s.network.server.chunkByte i) = 0 ↔
          SlotView.value (t.network.server.chunkByte i) = 0) := by
  -- the accept task takes part in the comparison only if the schedule has steps of it
  obtain ⟨accepting, hfollow, hacc⟩ : ∃ accepting, (∀ a ∈ as, Follows accepting a) ∧
      (accepting = true → s.network.accept = t.network.accept) := by
    by_cases h : ∃ input, .network (.accept input) ∈ as
    · exact ⟨true, fun _ _ _ _ => rfl, fun _ => haccept h⟩
    · refine ⟨false, ?_, fun hc => by cases hc⟩
      rintro a ha input rfl
      exact absurd ⟨input, ha⟩ h
  have halike : Alike accepting ur s' vr t' :=
    (hagree.alike hs ht hacc (hs'.begins.trans ht'.begins.symm)).exec hfollow hs'.runs ht'.runs
  have hreach : SystemRun (fun _ a => byTasks a) (appRun b) (ur ++ tr) s' := hs.trans hs'.run
  have hreach' : SystemRun (fun _ a => byTasks a) (appRun b') (vr ++ tr') t' := ht.trans ht'.run
  have hslot : ∀ i : Slot, s'.network.server.videoInterestMask.getLsbD i
      = t'.network.server.videoInterestMask.getLsbD i ↔
        ∀ r ∈ receivedBy i (networkTrace ur), r.data = interestHeader →
          (SlotView.value (s.network.server.chunkByte i) = 0 ↔
            SlotView.value (t.network.server.chunkByte i) = 0) := by
    intro i
    rw [hs'.interest hs i, ht'.interest ht i, ← halike.received i]
    rcases hs'.received i with hnil | ⟨r, hr⟩
    · rw [hnil]
      exact iff_of_true (by rw [hagree.mask]; rfl) fun r hr => by cases hr
    · rw [hr, List.forall_mem_singleton]
      exact SlotView.hear_interest_iff (congrArg (BitVec.getLsbD · i) hagree.mask) r
  constructor
  · intro h i
    rw [← hslot i, h.1]
  · intro h
    have hmask : s'.network.server.videoInterestMask = t'.network.server.videoInterestMask := by
      apply hreach.tableInvariant.mask_ext hreach'.tableInvariant
      exact fun i => (hslot i).mpr (h i)
    exact ⟨hmask, eventGroup_of_mask halike hreach hreach' hs'.ends ht'.ends hmask⟩

/-- The states agree, and each of the two continuations is an iteration. -/
def compared (s t : System) (u v : System × List Event) : Bool :=
  decide (s.network.server.connections = t.network.server.connections) &&
    decide (s.network.server.videoInterestMask = t.network.server.videoInterestMask) &&
    decide (s.network.eventGroup = t.network.eventGroup) &&
    s.network.request.atWait && t.network.request.atWait &&
    u.1.network.request.atWait && v.1.network.request.atWait &&
    decide (rounds (networkTrace u.2) = 1) && decide (rounds (networkTrace v.2) = 1)

theorem iterations_of_compared {s t : System} {u v : System × List Event} {c : List Action}
    (hu : Lib.exec step (fun _ a => byTasks a) c s [] = some u)
    (hv : Lib.exec step (fun _ a => byTasks a) c t [] = some v) (h : compared s t u v = true) :
    Agree s t ∧ Iteration c s u.2 u.1 ∧ Iteration c t v.2 v.1 := by
  simp only [compared, Bool.and_eq_true, decide_eq_true_eq, RequestPc.atWait_iff] at h
  obtain ⟨⟨⟨⟨⟨⟨⟨⟨hconn, hmask⟩, hbits⟩, hs⟩, ht⟩, hs'⟩, ht'⟩, hr⟩, hr'⟩ := h
  exact ⟨⟨hconn, hmask, hbits⟩, ⟨hs, hu, hs', hr⟩, ⟨ht, hv, ht', hr'⟩⟩

/-- Slot 0 is served `data`, and the request task comes back to the head of its loop. -/
def served (data : List UInt8) : List Action :=
  intoPoll ++ serve [delivered data] ++ dispatchSteps ++ finishSteps

/-- The next client sends a whole message, and what was left does not matter. -/
theorem received_data_only_whole :
    ∃ s t s' t' ur vr as, Agree s t ∧ Iteration as s ur s' ∧ Iteration as t vr t' ∧
      SlotView.value (s.network.server.chunkByte 0) = 1 ∧
      SlotView.value (t.network.server.chunkByte 0) = 0 ∧
      s'.network.server.videoInterestMask = t'.network.server.videoInterestMask ∧
      s'.network.eventGroup = t'.network.eventGroup := by
  obtain ⟨tr, s, tr', t, ⟨s', ur⟩, ⟨t', vr⟩, hs, ht, hu, hv, hq⟩ :=
    reaches_both (p := fun _ a => byTasks a) (r := fun _ a => byTasks a) (b := started)
      (a := replaced true) (d := replaced false) (c := served (interestMessage true))
      (q := fun s t u v => compared s t u v &&
        decide (SlotView.value (s.network.server.chunkByte 0) = 1) &&
        decide (SlotView.value (t.network.server.chunkByte 0) = 0) &&
        decide (s.network.accept = t.network.accept) &&
        decide (∀ i, ∀ r ∈ receivedBy i (networkTrace u.2), r.data ≠ interestHeader))
      (by decide +kernel)
  simp only [Bool.and_eq_true, decide_eq_true_eq] at hq
  obtain ⟨⟨⟨⟨hc, hs₄⟩, ht₄⟩, hacc⟩, hdata⟩ := hq
  obtain ⟨hagree, his, hit⟩ := iterations_of_compared hu hv hc
  have hsame := received_data_only started started tr tr' ur vr s t s' t' _ hs ht hagree
    (fun _ => hacc) his hit
  have hlast := hsame.mpr fun i r hr hd => absurd hd (hdata i r hr)
  exact ⟨s, t, s', t', ur, vr, _, hagree, his, hit, hs₄, ht₄, hlast⟩

/-- The next client sends a header and nothing behind it. What the client before it wanted is taken
    for its answer. -/
theorem received_data_leftover :
    ∃ tr s tr' t as ur s' vr t', SystemRun honest (appRun started) tr s ∧
      SystemRun honest (appRun started) tr' t ∧ Agree s t ∧
      s.network.accept = t.network.accept ∧ Iteration as s ur s' ∧ Iteration as t vr t' ∧
      s'.network.server.videoInterestMask = 1 ∧ t'.network.server.videoInterestMask = 0 := by
  obtain ⟨tr, s, tr', t, ⟨s', ur⟩, ⟨t', vr⟩, hs, ht, hu, hv, hq⟩ :=
    reaches_both (p := honest) (r := fun _ a => byTasks a) (b := started)
      (a := replaced true) (d := replaced false) (c := served interestHeader)
      (q := fun s t u v => compared s t u v && decide (s.network.accept = t.network.accept) &&
        decide (u.1.network.server.videoInterestMask = 1) &&
        decide (v.1.network.server.videoInterestMask = 0))
      (by decide +kernel)
  simp only [Bool.and_eq_true, decide_eq_true_eq] at hq
  obtain ⟨⟨⟨hc, hacc⟩, hmask⟩, hmask'⟩ := hq
  obtain ⟨hagree, his, hit⟩ := iterations_of_compared hu hv hc
  exact ⟨tr, s, tr', t, _, ur, s', vr, t', hs, ht, hagree, hacc, his, hit, hmask, hmask'⟩

end System
end Esp32Eye
