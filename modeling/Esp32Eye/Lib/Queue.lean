import Mathlib.Data.List.Basic

/-!
# Bounded queues

A FreeRTOS queue of fixed length: first in, first out, and a sender that finds it full waits. The
bound is a field, so a queue that holds more than it has room for cannot be written down; what a
proof uses of the two operations is what they do to `items`.
-/

namespace Esp32Eye
namespace Lib

/-- A queue created with room for `capacity` items, oldest first. -/
structure Queue (capacity : ℕ) (α : Type*) where
  items : List α
  bound : items.length ≤ capacity

namespace Queue

variable {capacity : ℕ} {α : Type*}

/-- `xQueueCreate`. -/
def create : Queue capacity α := ⟨[], Nat.zero_le _⟩

/-- `uxQueueMessagesWaiting`. -/
def messagesWaiting (q : Queue capacity α) : ℕ := q.items.length

/-- `xQueueSendToBack`; `none` while the sender is blocked on a full queue. -/
def sendToBack (q : Queue capacity α) (a : α) : Option (Queue capacity α) :=
  if h : q.items.length < capacity then
    some ⟨q.items ++ [a], by rw [List.length_append]; exact h⟩
  else none

/-- `xQueueReceive`; `none` while the receiver is blocked on an empty queue. -/
def receive (q : Queue capacity α) : Option (α × Queue capacity α) :=
  match q.items, q.bound with
  | [], _ => none
  | a :: rest, h => some (a, ⟨rest, Nat.le_of_succ_le h⟩)

theorem items_of_sendToBack {q q' : Queue capacity α} {a : α} (h : q.sendToBack a = some q') :
    q'.items = q.items ++ [a] := by
  unfold sendToBack at h
  split at h
  · rw [Option.some.injEq] at h
    exact h ▸ rfl
  · cases h

theorem items_of_receive {q q' : Queue capacity α} {a : α} (h : q.receive = some (a, q')) :
    q.items = a :: q'.items := by
  obtain ⟨items, bound⟩ := q
  unfold receive at h
  cases items with
  | nil => cases h
  | cons b rest =>
    simp only [Option.some.injEq, Prod.mk.injEq] at h
    obtain ⟨rfl, rfl⟩ := h
    rfl

/-- A sender does not wait while there is room. -/
theorem sendToBack_isSome {q : Queue capacity α} {a : α} (h : q.items.length < capacity) :
    (q.sendToBack a).isSome = true := by
  unfold sendToBack
  rw [dif_pos h]
  rfl

/-- A receiver does not wait while there is something. -/
theorem receive_isSome {q : Queue capacity α} (h : q.items ≠ []) : q.receive.isSome = true := by
  obtain ⟨items, bound⟩ := q
  unfold receive
  cases items with
  | nil => exact absurd rfl h
  | cons a rest => rfl

end Queue
end Lib
end Esp32Eye
