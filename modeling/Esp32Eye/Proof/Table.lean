import Esp32Eye.Server

/-!
# The connection table, and what it is a table of

`connections`, `num_active_connections` and `video_interest_mask` are three views of one thing:
which client, if any, is in each slot, and whether it wants video. `ClientTable` is that thing.
Its operations are what the component is for, namely a client comes, a client goes, a client says
whether it is interested, and in it the redundancy cannot go wrong because there is none.

`Represents s t` says that the static variables of `server.c` are the table `t` in the layout the
source gives it. Each function of `server.c` is then shown to do to the layout what an operation
does to the table, so a table that was represented stays represented (`Represents.register`,
`.disconnect`, `.update`, `.serveSlot`). What the layout promises by itself, the equation between
the counter and the flags and the rest of it, is `TableInvariant`, and it is read off a represented
table in one place.
-/

namespace Esp32Eye

open Lib

/-! ## The table as such -/

/-- A connected client. -/
structure Client where
  socket : ℤ
  addressString : String
  rtpAddress : SockaddrIn
  interested : Bool
  deriving DecidableEq, Repr

/-- The client in each slot. -/
abbrev ClientTable := Slot → Option Client

namespace ClientTable

/-- A client that has just connected has not said that it wants video. -/
def arriving (socket : ℤ) (address : SockaddrIn) : Client where
  socket := socket
  addressString := inetNtoa address.sinAddr
  rtpAddress := { address with sinPort := bswap16 rtpPort }
  interested := false

def connect (t : ClientTable) (i : Slot) (c : Client) : ClientTable :=
  Function.update t i (some c)

def disconnect (t : ClientTable) (i : Slot) : ClientTable := Function.update t i none

def setInterest (t : ClientTable) (i : Slot) (b : Bool) : ClientTable :=
  Function.update t i ((t i).map fun c => { c with interested := b })

end ClientTable

/-- How `server.c` writes a client down. -/
def Client.connection (c : Client) : ClientConnection where
  isActive := true
  controlSocket := c.socket
  addressString := c.addressString
  rtpAddress := c.rtpAddress

/-- The static variables are the table `t`, laid out. -/
structure Represents (s : Server) (t : ClientTable) : Prop where
  slot : ∀ i, s.connections i = ((t i).map Client.connection).getD {}
  count : s.numActiveConnections = (occupied t).card
  mask : Marks Client.interested t s.videoInterestMask

/-! ## What the layout promises -/

/-- The table invariant, in the source's own terms. -/
structure TableInvariant (s : Server) : Prop where
  /-- the counter counts the active slots -/
  count : s.numActiveConnections
    = (Finset.univ.filter fun i => (s.connections i).isActive = true).card
  /-- and is in range -/
  range : 0 ≤ s.numActiveConnections ∧ s.numActiveConnections ≤ maxConnections
  /-- an interest bit belongs to an active slot -/
  mask : ∀ k, s.videoInterestMask.getLsbD k = true →
    ∃ hk : k < maxConnections, (s.connections ⟨k, hk⟩).isActive = true
  /-- an inactive slot is all zero -/
  zero : ∀ i, (s.connections i).isActive = false → s.connections i = {}

section

variable {s : Server} {t : ClientTable} {i : Slot}

theorem Represents.isActive (h : Represents s t) :
    (s.connections i).isActive = (t i).isSome := by
  rw [h.slot i]
  cases t i <;> rfl

theorem Represents.empty_iff (h : Represents s t) :
    (s.connections i).isActive = false ↔ t i = none := by
  rw [h.isActive]
  cases t i <;> simp

theorem Represents.active_iff (h : Represents s t) :
    (s.connections i).isActive = true ↔ ∃ c, t i = some c := by
  rw [h.isActive, Option.isSome_iff_exists]

theorem Represents.connection (h : Represents s t) {c : Client} (hc : t i = some c) :
    s.connections i = c.connection := by
  rw [h.slot i, hc]; rfl

theorem Represents.tableInvariant (h : Represents s t) : TableInvariant s := by
  have hfilter : (Finset.univ.filter fun i => (s.connections i).isActive = true) = occupied t := by
    ext i
    simp [h.isActive]
  refine ⟨by rw [h.count, hfilter], ⟨?_, ?_⟩, fun k hk => ?_, fun i hi => ?_⟩
  · rw [h.count]; exact Int.natCast_nonneg _
  · rw [h.count]; exact Int.ofNat_le.mpr (card_occupied_le t)
  · obtain ⟨i, rfl, c, hc, -⟩ := (h.mask k).mp hk
    exact ⟨i.isLt, h.active_iff.mpr ⟨c, hc⟩⟩
  · rw [h.slot i, h.empty_iff.mp hi]; rfl

/-- And what it promises is all there is to it: such a layout is that of a table. -/
theorem TableInvariant.represents (h : TableInvariant s) : ∃ t, Represents s t := by
  let t : ClientTable := fun i =>
    if (s.connections i).isActive then
      some
        { socket := (s.connections i).controlSocket
          addressString := (s.connections i).addressString
          rtpAddress := (s.connections i).rtpAddress
          interested := s.videoInterestMask.getLsbD i }
    else none
  have hsome : ∀ i, (t i).isSome = (s.connections i).isActive := by
    intro i
    cases ha : (s.connections i).isActive <;> simp [t, ha]
  refine ⟨t, fun i => ?_, ?_, marks_iff.mpr ⟨fun i => ?_, fun k hk => ?_⟩⟩
  · cases ha : (s.connections i).isActive with
    | false => simpa [t, ha] using h.zero i ha
    | true =>
      simp only [t, ha, if_true, Option.map_some, Option.getD_some]
      unfold Client.connection
      rw [← ha]
  · have hfilter : (Finset.univ.filter fun i => (s.connections i).isActive = true) = occupied t := by
      ext i
      simp [hsome]
    rw [h.count, hfilter]
  · cases ha : (s.connections i).isActive with
    | false =>
      have hbit : s.videoInterestMask.getLsbD i = false := by
        rw [← Bool.not_eq_true]
        intro hb
        obtain ⟨_, hact⟩ := h.mask i hb
        rw [ha] at hact
        cases hact
      simp [t, ha, hbit]
    | true => simp [t, ha]
  · rw [← Bool.not_eq_true]
    intro hb
    exact absurd (h.mask k hb).1 (by omega)

/-- The mask has no other bits than those of the slots. -/
theorem TableInvariant.mask_ext {s' : Server} (h : TableInvariant s) (h' : TableInvariant s')
    (hm : ∀ i : Slot, s.videoInterestMask.getLsbD i = s'.videoInterestMask.getLsbD i) :
    s.videoInterestMask = s'.videoInterestMask := by
  apply BitVec.eq_of_getLsbD_eq
  intro k _
  by_cases hk : k < maxConnections
  · exact hm ⟨k, hk⟩
  · have hclear : ∀ {u : Server}, TableInvariant u → u.videoInterestMask.getLsbD k = false := by
      intro u hu
      rw [← Bool.not_eq_true]
      intro hb
      exact hk (hu.mask k hb).1
    rw [hclear h, hclear h']

/-- The counter is zero exactly when nobody is connected. -/
theorem Represents.count_pos (h : Represents s t) :
    0 < s.numActiveConnections ↔ ∃ i, (s.connections i).isActive = true := by
  rw [h.count, Int.natCast_pos, card_occupied_pos]
  exact exists_congr fun i => h.active_iff.symm

/-! ## The functions of `server.c` -/

theorem Server.activeSlot_eq_some {clientIndex : ℤ} :
    s.activeSlot clientIndex = some i ↔
      clientIndex = (i : ℕ) ∧ (s.connections i).isActive = true := by
  unfold Server.activeSlot
  split
  · rename_i hr
    dsimp only
    split
    · rename_i ha
      rw [Option.some.injEq]
      constructor
      · rintro rfl; exact ⟨by simp [hr.1], ha⟩
      · rintro ⟨rfl, -⟩; exact Fin.ext (by simp)
    · rename_i ha
      refine ⟨fun h => (by cases h), ?_⟩
      rintro ⟨rfl, hi⟩
      exact absurd hi (by simpa using ha)
  · rename_i hr
    refine ⟨fun h => (by cases h), ?_⟩
    rintro ⟨rfl, -⟩
    exact absurd ⟨Int.natCast_nonneg _, Int.ofNat_lt.mpr i.isLt⟩ hr

theorem Server.activeSlot_coe (ha : (s.connections i).isActive = true) :
    s.activeSlot ((i : ℕ) : ℤ) = some i := Server.activeSlot_eq_some.mpr ⟨rfl, ha⟩

/-- The loop of `server_accept_connections` stops at a slot that is free. -/
theorem Server.firstInactive_free (h : s.firstInactive = some i) :
    (s.connections i).isActive = false := by
  have := List.find?_some h
  simpa using this

/-- It runs through only when the table is full. -/
theorem Server.firstInactive_none (h : s.firstInactive = none) :
    (s.connections i).isActive = true := by
  have := List.find?_eq_none.mp h i (List.mem_finRange i)
  simpa using this

/-- A table that is not full has a slot to stop at. -/
theorem Represents.exists_free (h : Represents s t)
    (hlt : s.numActiveConnections < maxConnections) : ∃ i, s.firstInactive = some i := by
  rw [← Option.ne_none_iff_exists']
  intro hnone
  have hall : ∀ i, (t i).isSome = true := fun i =>
    h.isActive.symm.trans (Server.firstInactive_none hnone)
  have hcard : (occupied t).card = maxConnections := by
    have : occupied t = Finset.univ := by
      ext i
      simp [hall i]
    rw [this, Finset.card_univ, Fintype.card_fin]
  rw [h.count, hcard] at hlt
  exact absurd hlt (lt_irrefl _)

theorem Represents.register {fd : ℤ} {addr : SockaddrIn} (h : Represents s t)
    (hi : t i = none) :
    Represents (s.register i fd addr) (t.connect i (ClientTable.arriving fd addr)) := by
  refine ⟨fun j => ?_, ?_, h.mask.fill hi rfl⟩
  · show Function.update s.connections i _ j = _
    unfold ClientTable.connect
    rcases eq_or_ne j i with rfl | hj
    · rw [Function.update_self, Function.update_self]; rfl
    · rw [Function.update_of_ne hj, Function.update_of_ne hj]; exact h.slot j
  · show s.numActiveConnections + 1 = _
    unfold ClientTable.connect
    rw [card_occupied_fill hi, h.count]
    push_cast
    rfl

theorem Represents.disconnect {clientIndex : ℤ} (h : Represents s t)
    (ha : s.activeSlot clientIndex = some i) :
    Represents (s.disconnectClientNoSync clientIndex) (t.disconnect i) := by
  obtain ⟨c, hc⟩ := h.active_iff.mp (Server.activeSlot_eq_some.mp ha).2
  unfold Server.disconnectClientNoSync ClientTable.disconnect
  rw [ha]
  refine ⟨fun j => ?_, ?_, h.mask.clear⟩
  · show Function.update s.connections i _ j = _
    rcases eq_or_ne j i with rfl | hj
    · rw [Function.update_self, Function.update_self]; rfl
    · rw [Function.update_of_ne hj, Function.update_of_ne hj]; exact h.slot j
  · show s.numActiveConnections - 1 = _
    rw [h.count, ← card_occupied_clear hc]
    push_cast
    exact add_sub_cancel_right _ _

/-- An index that names no active client changes nothing. -/
theorem Server.disconnect_inactive {clientIndex : ℤ} (ha : s.activeSlot clientIndex = none) :
    s.disconnectClientNoSync clientIndex = s := by
  unfold Server.disconnectClientNoSync
  rw [ha]

theorem Represents.receiveInto {data : List UInt8} (h : Represents s t) :
    Represents (s.receiveInto i data) t := ⟨h.slot, h.count, h.mask⟩

theorem Represents.update {clientIndex : ℤ} {b : Bool} (h : Represents s t)
    (ha : s.activeSlot clientIndex = some i) :
    Represents (s.updateClientVideoInterest clientIndex b).1 (t.setInterest i b) := by
  obtain ⟨c, hc⟩ := h.active_iff.mp (Server.activeSlot_eq_some.mp ha).2
  have ht : t.setInterest i b = Function.update t i (some { c with interested := b }) := by
    unfold ClientTable.setInterest
    rw [hc]; rfl
  unfold Server.updateClientVideoInterest
  rw [ha, ht]
  refine ⟨fun j => ?_, ?_, ?_⟩
  · show s.connections j = _
    rcases eq_or_ne j i with rfl | hj
    · rw [Function.update_self]; exact (h.connection hc).trans rfl
    · rw [Function.update_of_ne hj]; exact h.slot j
  · show s.numActiveConnections = _
    rw [card_occupied_rewrite hc, h.count]
  · exact h.mask.rewrite (a := { c with interested := b }) (by decide)

theorem Server.update_inactive {clientIndex : ℤ} {b : Bool}
    (ha : s.activeSlot clientIndex = none) :
    s.updateClientVideoInterest clientIndex b = (s, 0) := by
  unfold Server.updateClientVideoInterest
  rw [ha]

/-- Whether a result of `recv` ends the connection. -/
def RecvResult.closes : RecvResult → Bool
  | .error => true
  | .bytes data _ => data.length = 0

/-- After `recv` the client of that slot is gone or everything but `recv_buffer` is as it was. -/
theorem Server.serveSlot_table (result : RecvResult) :
    ∃ data, (s.serveSlot i result).1
      = if result.closes then (s.receiveInto i data).disconnectClientNoSync i
        else s.receiveInto i data := by
  cases result with
  | error =>
    refine ⟨[], ?_⟩
    have : s.receiveInto i [] = s := by
      unfold Server.receiveInto
      simp
    rw [this]; rfl
  | bytes data hb =>
    refine ⟨data, ?_⟩
    by_cases h₀ : data.length = 0
    · simp [Server.serveSlot, RecvResult.closes, h₀]
    · by_cases h₄ : data.length < 4 <;> simp [Server.serveSlot, RecvResult.closes, h₀, h₄]

theorem Represents.serveSlot {result : RecvResult} (h : Represents s t)
    (ha : (s.connections i).isActive = true) :
    Represents (s.serveSlot i result).1 (if result.closes then t.disconnect i else t) := by
  obtain ⟨data, hd⟩ := Server.serveSlot_table (s := s) (i := i) result
  rw [hd]
  have hr : Represents (s.receiveInto i data) t := h.receiveInto
  split
  · exact hr.disconnect (Server.activeSlot_coe ha)
  · exact hr

end

end Esp32Eye
