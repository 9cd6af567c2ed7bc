import Esp32Eye.Proof.SlotView
import Esp32Eye.Proof.Ownership

/-!
# Messages and chunks

A client sends its messages as a stream of bytes, and TCP hands the stream to `recv` in chunks that
need not begin or end where a message does. The server takes every chunk by itself: it looks at the
first word, ignores the chunk if that is not the header, and otherwise applies the byte that lies
behind the header in `recv_buffer`, whether or not that byte came with the chunk.

So the bit that is left once a whole stream has been received is decided by where the chunks were
cut. What is kept of a chunk is its `Span`; it is *heard* when it begins with a message and contains
the whole header. `KeepsUp` says when the last one that is heard leaves the value of the last message.
-/

namespace Esp32Eye

open Lib

/-! ## Streams of interest messages -/

/-- What a client sends that sends these values one after the other. -/
def interestStream (bs : List Bool) : List UInt8 := bs.flatMap interestMessage

/-- Every byte of the stream belongs to the message it falls into. -/
theorem interestStream_getElem? (bs : List Bool) (p : ℕ) :
    (interestStream bs)[p]? = (bs[p / 5]?).map fun b => (interestMessage b).getD (p % 5) 0 := by
  induction bs generalizing p with
  | nil => simp [interestStream]
  | cons b bs ih =>
    have hsplit : interestStream (b :: bs) = interestMessage b ++ interestStream bs := rfl
    have hlen : (interestMessage b).length = 5 := rfl
    rw [hsplit]
    by_cases hp : p < 5
    · rw [List.getElem?_append_left (by rw [hlen]; exact hp), Nat.div_eq_of_lt hp,
        Nat.mod_eq_of_lt hp, List.getElem?_cons_zero, Option.map_some,
        List.getD_eq_getElem?_getD, List.getElem?_eq_getElem (by rw [hlen]; exact hp)]
      rfl
    · obtain ⟨q, rfl⟩ : ∃ q, p = q + 5 := ⟨p - 5, by omega⟩
      have hdiv : (q + 5) / 5 = q / 5 + 1 := by omega
      have hmod : (q + 5) % 5 = q % 5 := by omega
      rw [List.getElem?_append_right (by rw [hlen]; omega), hlen, Nat.add_sub_cancel, ih q, hdiv,
        hmod, List.getElem?_cons_succ]

/-- The fifth byte of a message is its value. -/
theorem interestStream_value (bs : List Bool) (k : ℕ) :
    ((interestStream bs).getD (5 * k + 4) 0 != 0) = bs.getD k false := by
  have hdiv : (5 * k + 4) / 5 = k := by omega
  have hmod : (5 * k + 4) % 5 = 4 := by omega
  rw [List.getD_eq_getElem?_getD, interestStream_getElem?, hdiv, hmod,
    List.getD_eq_getElem?_getD]
  cases bs[k]? with
  | none => rfl
  | some b => cases b <;> rfl

/-- Four bytes of the stream are the header exactly where a message begins. -/
theorem header_iff {bs : List Bool} {o : ℕ} {x₀ x₁ x₂ x₃ : UInt8}
    (h₀ : (interestStream bs)[o]? = some x₀) (h₁ : (interestStream bs)[o + 1]? = some x₁)
    (h₂ : (interestStream bs)[o + 2]? = some x₂) (h₃ : (interestStream bs)[o + 3]? = some x₃) :
    beWord32 x₀ x₁ x₂ x₃ = requestVideoInterest ↔ o % 5 = 0 := by
  have hreq : requestVideoInterest = beWord32 0xAA 0xDC 0xFB 0xED := by decide
  rw [hreq, beWord32_inj]
  rw [interestStream_getElem?, Option.map_eq_some_iff] at h₀ h₁ h₂ h₃
  obtain ⟨b₀, -, rfl⟩ := h₀
  obtain ⟨b₁, -, rfl⟩ := h₁
  obtain ⟨b₂, -, rfl⟩ := h₂
  obtain ⟨b₃, -, rfl⟩ := h₃
  constructor
  · intro h
    have hlt : o % 5 < 5 := Nat.mod_lt _ (by decide)
    have hfirst := h.1
    generalize o % 5 = r at hlt hfirst ⊢
    -- of the five bytes of a message only the first one is the header's first
    match r, hlt with
    | 0, _ => rfl
    | 1, _ | 2, _ | 3, _ => cases hfirst
    | 4, _ => cases b₀ <;> cases hfirst
  · intro h
    have hm₁ : (o + 1) % 5 = 1 := by omega
    have hm₂ : (o + 2) % 5 = 2 := by omega
    have hm₃ : (o + 3) % 5 = 3 := by omega
    rw [h, hm₁, hm₂, hm₃]
    exact ⟨rfl, rfl, rfl, rfl⟩

/-! ## Chunks -/

/-- Where a chunk of the stream begins and how long it is. -/
structure Span where
  offset : ℕ
  length : ℕ
  deriving DecidableEq, Repr

/-- The chunk begins with a message and contains its whole header. -/
def Span.heard (p : Span) : Bool := p.offset % 5 = 0 ∧ 4 ≤ p.length

/-- The spans of chunks, the newest first. -/
def spans : List (List UInt8) → List Span
  | [] => []
  | c :: older => { offset := (older.map List.length).sum, length := c.length } :: spans older

/-- The byte that lies behind the header in the slot's chunk of the buffer: the fifth of the last
    chunk that had so many, or the one that was there before. -/
def fifthByte (stream : List UInt8) (left : UInt8) (ps : List Span) : UInt8 :=
  match ps.find? fun p => 5 ≤ p.length with
  | some p => stream.getD (p.offset + 4) 0
  | none => left

/-- The interest after the chunks `ps` of `stream`, `bit` and `left` being the interest and the byte
    behind the header before them. -/
def flagAfter (stream : List UInt8) (bit : Bool) (left : UInt8) (ps : List Span) : Bool :=
  match ps.dropWhile fun p => !p.heard with
  | [] => bit
  | p :: older => fifthByte stream left (p :: older) != 0

/-- **When the last value is the one that is left.** If no chunk was heard, the bit has that value
    already. If the last one heard goes on to the value of its message, that message has the same
    value as the last one. If it ends with the header, the byte that lies behind the header in the
    buffer has that truth value. -/
def KeepsUp (bs : List Bool) (hbs : bs ≠ []) (bit : Bool) (left : UInt8) (ps : List Span) : Prop :=
  match ps.dropWhile fun p => !p.heard with
  | [] => bit = bs.getLast hbs
  | p :: older =>
      if 5 ≤ p.length then bs.getD (p.offset / 5) false = bs.getLast hbs
      else (fifthByte (interestStream bs) left older != 0) = bs.getLast hbs

theorem keepsUp_iff {bs : List Bool} {hbs : bs ≠ []} {bit : Bool} {left : UInt8}
    {ps : List Span} :
    KeepsUp bs hbs bit left ps ↔ flagAfter (interestStream bs) bit left ps = bs.getLast hbs := by
  unfold KeepsUp flagAfter
  cases hd : ps.dropWhile fun p => !p.heard with
  | nil => exact Iff.rfl
  | cons p older =>
    have hheard : p.heard = true := by
      have := List.head_dropWhile_not (fun p : Span => !p.heard) (by rw [hd]; simp)
      simpa [hd] using this
    simp only [Span.heard, decide_eq_true_eq] at hheard
    dsimp only
    split
    · rename_i h₅
      have hoff : p.offset + 4 = 5 * (p.offset / 5) + 4 := by omega
      have hfifth : fifthByte (interestStream bs) left (p :: older)
          = (interestStream bs).getD (5 * (p.offset / 5) + 4) 0 := by
        unfold fifthByte
        rw [List.find?_cons_of_pos (by simpa using h₅), ← hoff]
      rw [hfifth, interestStream_value]
    · rename_i h₅
      have hfifth : fifthByte (interestStream bs) left (p :: older)
          = fifthByte (interestStream bs) left older := by
        unfold fifthByte
        rw [List.find?_cons_of_neg (by simpa using h₅)]
      rw [hfifth]

/-! ## What a slot hears of a stream -/

section

variable {bs : List Bool} {v : SlotView}

/-- The chunk that comes after `older`, byte by byte. -/
theorem chunk_getElem? {stream older data : List UInt8} (h : older ++ data <+: stream) {k : ℕ}
    (hk : k < data.length) : stream[older.length + k]? = data[k]? := by
  obtain ⟨rest, rfl⟩ := h
  rw [List.append_assoc, List.getElem?_append_right (Nat.le_add_right _ _), Nat.add_sub_cancel_left,
    List.getElem?_append_left hk]

theorem hear_chunk {older data : List UInt8} {hb : data.length ≤ maxRequestSize} {bit : Bool}
    {left : UInt8} {ps : List Span} (hne : data ≠ [])
    (hpre : older ++ data <+: interestStream bs)
    (hi : v.interest = flagAfter (interestStream bs) bit left ps)
    (hc : SlotView.value v.chunk = fifthByte (interestStream bs) left ps) :
    (v.hear (.bytes data hb)).interest = flagAfter (interestStream bs) bit left
        ({ offset := older.length, length := data.length } :: ps) ∧
      SlotView.value (v.hear (.bytes data hb)).chunk = fifthByte (interestStream bs) left
        ({ offset := older.length, length := data.length } :: ps) := by
  have hat : ∀ k (hk : k < data.length) d, (interestStream bs)[older.length + k]?
      = some (data.getD k d) := by
    intro k hk d
    rw [chunk_getElem? hpre hk, List.getD_eq_getElem?_getD, List.getElem?_eq_getElem hk]
    rfl
  have hvalue : SlotView.value (SlotView.fill v.chunk data) = fifthByte (interestStream bs) left
      ({ offset := older.length, length := data.length } :: ps) := by
    rw [SlotView.value_fill]
    unfold fifthByte
    by_cases h₅ : 5 ≤ data.length
    · rw [List.find?_cons_of_pos (by simpa using h₅)]
      show _ = (interestStream bs).getD (older.length + 4) 0
      rw [(interestStream bs).getD_eq_getElem?_getD, hat 4 h₅ (SlotView.value v.chunk)]
      rfl
    · rw [List.find?_cons_of_neg (by simpa using h₅)]
      show _ = fifthByte (interestStream bs) left ps
      rw [← hc, List.getD_eq_getElem?_getD, List.getElem?_eq_none (by omega)]
      rfl
  refine ⟨?_, hvalue⟩
  have hlen : data.length ≠ 0 := fun h => hne (List.length_eq_zero_iff.mp h)
  unfold SlotView.hear flagAfter
  dsimp only
  rw [if_neg hlen]
  by_cases h₄ : 4 ≤ data.length
  · have hheader : SlotView.header (SlotView.fill v.chunk data) = requestVideoInterest ↔
        older.length % 5 = 0 :=
      header_iff (hat 0 (by omega) _) (hat 1 (by omega) _) (hat 2 (by omega) _)
        (hat 3 (by omega) _)
    by_cases hal : older.length % 5 = 0
    · rw [if_pos ⟨h₄, hheader.mpr hal⟩, hvalue, List.dropWhile_cons_of_neg]
      simp [Span.heard, hal, h₄]
    · rw [if_neg (fun h => hal (hheader.mp h.2)), List.dropWhile_cons_of_pos]
      · exact hi
      · simp [Span.heard, hal]
  · rw [if_neg (fun h => h₄ h.1), List.dropWhile_cons_of_pos]
    · exact hi
    · simp [Span.heard, h₄]

/-- **A slot and a stream.** What is left of a stream that was received in non-empty chunks is a
    matter of the spans of the chunks alone. -/
theorem hear_stream : ∀ {results : List RecvResult},
    (∀ r ∈ results, r.data ≠ []) →
    (results.map RecvResult.data).reverse.flatten <+: interestStream bs →
    (results.foldr (fun r v => v.hear r) v).interest
        = flagAfter (interestStream bs) v.interest (SlotView.value v.chunk)
          (spans (results.map RecvResult.data)) ∧
      SlotView.value (results.foldr (fun r v => v.hear r) v).chunk
        = fifthByte (interestStream bs) (SlotView.value v.chunk)
          (spans (results.map RecvResult.data)) := by
  intro results
  -- the newest chunk is in front, so what the induction gives is about the stream before it
  induction results with
  | nil => exact fun _ _ => ⟨rfl, rfl⟩
  | cons r results ih =>
    intro hne hpre
    have hsplit : ((r :: results).map RecvResult.data).reverse.flatten
        = (results.map RecvResult.data).reverse.flatten ++ r.data := by
      simp
    have hoff : ((results.map RecvResult.data).map List.length).sum
        = ((results.map RecvResult.data).reverse.flatten).length := by
      rw [List.length_flatten, List.map_reverse, List.sum_reverse]
    rw [hsplit] at hpre
    obtain ⟨hi, hc⟩ := ih (fun r hr => hne r (List.mem_cons_of_mem _ hr))
      ((List.prefix_append _ _).trans hpre)
    have hr := hne r List.mem_cons_self
    rw [List.map_cons, spans, hoff, List.foldr_cons]
    cases r with
    | error => exact absurd rfl hr
    | bytes data hb => exact hear_chunk hr hpre hi hc

end

namespace System

/-- The chunks `recv` delivered for slot `i`, the newest first. -/
def chunksOf (i : Slot) (tr : List Event) : List (List UInt8) :=
  (receivedBy i (networkTrace tr)).map RecvResult.data

/-- **Framing.** Take any reachable state with nothing recorded for slot `i`, and any run of the
    tasks from there in which the slot receives, in non-empty chunks, exactly a stream of interest
    messages, up to a state in which all of it is dispatched. Then the slot's bit is the value of
    the last message if and only if the chunks kept up with the messages. -/
theorem interest_stream (b : Boot) (tr₀ tr : List Event) (s s' : System) (i : Slot)
    (bs : List Bool) (hbs : bs ≠ [])
    (hreach : SystemRun (fun _ a => byTasks a) (appRun b) tr₀ s)
    (hnew : ((i : ℕ) : ℤ) ∉ s.network.request.recorded)
    (hrun : SystemRun (fun _ a => byTasks a) s tr s')
    (hchunks : ∀ c ∈ chunksOf i tr, c ≠ [])
    (hstream : (chunksOf i tr).reverse.flatten = interestStream bs)
    (hdone : ((i : ℕ) : ℤ) ∉ s'.network.request.recorded) :
    s'.network.server.videoInterestMask.getLsbD i = bs.getLast hbs ↔
      KeepsUp bs hbs (s.network.server.videoInterestMask.getLsbD i)
        (SlotView.value (s.network.server.chunkByte i)) (spans (chunksOf i tr)) := by
  have hview := hrun.tasks.view (fun _ _ h => h) hreach.pending i
  have hheard := @hear_stream bs (s.network.view i) _
    (fun r hr => hchunks _ (List.mem_map_of_mem hr)) (hstream ▸ List.prefix_refl _)
  rw [← hview] at hheard
  have hinterest := hheard.1
  rw [keepsUp_iff]
  have hs' : (s'.network.view i).interest = s'.network.server.videoInterestMask.getLsbD i :=
    Network.settled_of_notMem hdone
  have hs : (s.network.view i).interest = s.network.server.videoInterestMask.getLsbD i :=
    Network.settled_of_notMem hnew
  rw [hs', hs] at hinterest
  rw [hinterest]
  exact Iff.rfl

/-- The message arrives in one piece. -/
theorem interest_stream_whole :
    ∃ tr s, SystemRun (fun _ a => byTasks a) (appRun started) tr s ∧
      chunksOf 0 tr = [interestMessage true] ∧
      s.network.server.videoInterestMask.getLsbD 0 = true := by
  obtain ⟨tr, s, hrun, hq⟩ := reaches (p := fun _ a => byTasks a) (b := started)
    (a := acceptRound 57 ++ intoPoll ++ serve [delivered (interestMessage true)]
      ++ dispatchSteps)
    (q := fun s tr => decide (chunksOf 0 tr = [interestMessage true]) &&
      decide (s.network.request.recorded = []))
    (by decide +kernel)
  simp only [Bool.and_eq_true, decide_eq_true_eq] at hq
  obtain ⟨hchunks, hdone⟩ := hq
  refine ⟨tr, s, hrun, hchunks, ?_⟩
  apply (interest_stream started [] tr (appRun started) s 0 [true] (by simp) .start
    (by simp [appRun, RequestPc.recorded, RequestPc.updating, RequestPc.requests]) hrun
    (by simp [hchunks, interestMessage]) (by rw [hchunks]; rfl) (by rw [hdone]; simp)).mpr
  rw [hchunks]
  simp [KeepsUp, spans, Span.heard, interestMessage]

/-- The message arrives as its header and, in the next chunk, its value. The header is taken for a
    message of its own, with the zero that happens to lie behind it, and the value is dropped. -/
theorem interest_stream_split :
    ∃ tr s, SystemRun honest (appRun started) tr s ∧
      chunksOf 0 tr = [[1], [0xAA, 0xDC, 0xFB, 0xED]] ∧
      (chunksOf 0 tr).reverse.flatten = interestStream [true] ∧ s.network.request = .wait ∧
      (s.network.server.connections 0).isActive = true ∧
      s.network.server.videoInterestMask.getLsbD 0 = false := by
  obtain ⟨tr, s, hrun, hq⟩ := reaches (p := honest) (b := started)
    (a := acceptRound 57 ++ intoPoll ++ serve [delivered [0xAA, 0xDC, 0xFB, 0xED]]
      ++ dispatchSteps ++ finishSteps ++ intoPoll ++ serve [delivered [1]] ++ finishSteps)
    (q := fun s tr => decide (chunksOf 0 tr = [[1], [0xAA, 0xDC, 0xFB, 0xED]]) &&
      s.network.request.atWait && (s.network.server.connections 0).isActive &&
      !s.network.server.videoInterestMask.getLsbD 0)
    (by decide +kernel)
  simp only [Bool.and_eq_true, decide_eq_true_eq, Bool.not_eq_true'] at hq
  obtain ⟨⟨⟨hchunks, hat⟩, hact⟩, hbit⟩ := hq
  refine ⟨tr, s, hrun, hchunks, ?_, RequestPc.atWait_iff.mp hat, hact, hbit⟩
  rw [hchunks]
  rfl

end System
end Esp32Eye
