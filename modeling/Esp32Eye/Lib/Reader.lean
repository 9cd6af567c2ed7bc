import Esp32Eye.Lib.ByteOrder

/-!
# Reading a message field by field

A reader takes a field off the front of a byte string, or fails when there are too few bytes.
`Reads r bs a` says that `r` takes exactly the bytes `bs` and reads them as `a`, whatever comes
behind them. It is the only thing said of a reader: the fields have a `Reads` lemma each,
`Reads.bind` puts two of them after one another, and a round trip over a whole format is the
composition. Multi-byte fields are read in network byte order.
-/

namespace Esp32Eye
namespace Lib

abbrev Reader := StateT (List UInt8) Option

namespace Reader

def u8 : Reader UInt8
  | b :: rest => some (b, rest)
  | [] => none

def be16 : Reader UInt16
  | b₀ :: b₁ :: rest => some (beWord16 b₀ b₁, rest)
  | _ => none

def be32 : Reader UInt32
  | b₀ :: b₁ :: b₂ :: b₃ :: rest => some (beWord32 b₀ b₁ b₂ b₃, rest)
  | _ => none

/-- A field of `n` bytes. -/
def bytes (n : ℕ) : Reader (List UInt8) := fun message =>
  if n ≤ message.length then some (message.take n, message.drop n) else none

/-- The reader's result when it leaves nothing of the message. -/
def whole {α : Type} (r : Reader α) (message : List UInt8) : Option α :=
  match r message with
  | some (a, []) => some a
  | _ => none

end Reader

/-- `r` takes `bs` and reads it as `a`. -/
def Reads {α : Type} (r : Reader α) (bs : List UInt8) (a : α) : Prop :=
  ∀ rest, r (bs ++ rest) = some (a, rest)

namespace Reads

variable {α β : Type} {r : Reader α} {f : α → Reader β} {a : α} {b : β} {bs cs : List UInt8}

theorem pure (a : α) : Reads (pure a) [] a := fun _ => rfl

theorem bind (hr : Reads r bs a) (hf : Reads (f a) cs b) : Reads (r >>= f) (bs ++ cs) b := by
  intro rest
  show (r (bs ++ cs ++ rest)).bind (fun p => f p.1 p.2) = some (b, rest)
  rw [List.append_assoc, hr (cs ++ rest)]
  exact hf rest

/-- A reader that only computes a result from the last field. -/
theorem map (hr : Reads r bs a) (g : α → β) : Reads (r >>= fun a => Pure.pure (g a)) bs (g a) := by
  have := hr.bind (f := fun a => Pure.pure (g a)) (pure (g a))
  rwa [List.append_nil] at this

theorem u8 (x : UInt8) : Reads Reader.u8 [x] x := fun _ => rfl

theorem be16 (x : UInt16) : Reads Reader.be16 (beBytes16 x) x := by
  intro rest
  show some (beWord16 _ _, rest) = some (x, rest)
  rw [beWord16_beBytes]

theorem be32 (x : UInt32) : Reads Reader.be32 (beBytes32 x) x := by
  intro rest
  show some (beWord32 _ _ _ _, rest) = some (x, rest)
  rw [beWord32_beBytes]

theorem bytes {n : ℕ} (h : bs.length = n) : Reads (Reader.bytes n) bs bs := by
  intro rest
  unfold Reader.bytes
  rw [if_pos (by rw [List.length_append]; omega), ← h, List.take_left, List.drop_left]

theorem whole (h : Reads r bs a) : r.whole bs = some a := by
  have := h []
  rw [List.append_nil] at this
  unfold Reader.whole
  rw [this]

end Reads
end Lib
end Esp32Eye
