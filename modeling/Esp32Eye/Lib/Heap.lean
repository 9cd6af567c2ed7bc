import Mathlib.Data.List.Perm.Basic
import Mathlib.Data.List.Perm.Lattice

/-!
# What has been handed out and not been given back

A `Heap` is a list of blocks, each an address with what it was asked for: memory, a queue, a task,
anything that a system hands out and takes back. An address is never handed out twice, so a block
can be given back once (`free_twice`), and giving back what is not there has no result.

The program knows the blocks by pointers, which may be null. `Holds h l` says that `l` is all there
is; an invariant of a program is a `Holds` with the blocks its variables point to. A request keeps
it, successful or not (`Holds.acquire`), as long as the pointer is kept, and so does the release of
a pointer, null or not (`Holds.release`). A block that no variable points to is a leak.
-/

namespace Esp32Eye
namespace Lib

section Heap

variable {β : Type*}

structure Heap (β : Type*) where
  live : List (ℕ × β)
  /-- the next address to be handed out -/
  next : ℕ
  lt_next : ∀ x ∈ live, x.1 < next
  nodup : (live.map Prod.fst).Nodup

namespace Heap

def empty : Heap β where
  live := []
  next := 0
  lt_next := fun _ hx => by cases hx
  nodup := List.nodup_nil

/-- A block is handed out, at `h.next`. -/
def alloc (h : Heap β) (b : β) : Heap β where
  live := (h.next, b) :: h.live
  next := h.next + 1
  lt_next := fun x hx => by
    rcases List.mem_cons.mp hx with rfl | hx
    · exact Nat.lt_succ_self _
    · exact Nat.lt_succ_of_lt (h.lt_next x hx)
  nodup := by
    refine List.nodup_cons.mpr ⟨fun hm => ?_, h.nodup⟩
    obtain ⟨x, hx, he⟩ := List.mem_map.mp hm
    exact absurd (h.lt_next x hx) (he ▸ Nat.lt_irrefl _)

/-- A request, and the pointer that comes back. -/
def acquire (ok : Bool) (b : β) (h : Heap β) : Option ℕ × Heap β :=
  if ok then (some h.next, h.alloc b) else (none, h)

/-- The block a pointer points to. -/
def owned (b : β) (p : Option ℕ) : List (ℕ × β) := p.toList.map fun a => (a, b)

variable {h h' : Heap β} {l l' : List (ℕ × β)} {a : ℕ} {b : β} {p : Option ℕ}

@[simp] theorem owned_none : owned b none = [] := rfl
@[simp] theorem owned_some : owned b (some a) = [(a, b)] := rfl

/-- The blocks are those of `l`. -/
def Holds (h : Heap β) (l : List (ℕ × β)) : Prop := h.live.Perm l

namespace Holds

theorem perm (hl : h.Holds l) (hp : l.Perm l') : h.Holds l' := hl.trans hp

theorem live_eq_nil (hl : h.Holds []) : h.live = [] := List.Perm.eq_nil hl

theorem alloc (hl : h.Holds l) : (h.alloc b).Holds ((h.next, b) :: l) := hl.cons _

theorem acquire {ok : Bool} (hl : h.Holds l) :
    (h.acquire ok b).2.Holds (owned b (h.acquire ok b).1 ++ l) := by
  cases ok with
  | false => exact hl
  | true => exact hl.alloc

end Holds

/-! ## Giving back -/

variable [DecidableEq β]

/-- A block is given back, `none` if it is not there. -/
def free (a : ℕ) (b : β) (h : Heap β) : Option (Heap β) :=
  if (a, b) ∈ h.live then
    some
      { live := h.live.erase (a, b)
        next := h.next
        lt_next := fun x hx => h.lt_next x (List.mem_of_mem_erase hx)
        nodup := h.nodup.sublist (List.erase_sublist.map Prod.fst) }
  else none

/-- A pointer is given back, which may be null. -/
def release (b : β) (p : Option ℕ) (h : Heap β) : Option (Heap β) :=
  match p with
  | none => some h
  | some a => h.free a b

/-- Nothing is given back twice. -/
theorem free_twice (hf : h.free a b = some h') : h'.free a b = none := by
  unfold free at hf
  split at hf
  · cases hf
    have hn : h.live.Nodup := h.nodup.of_map
    rw [free, if_neg]
    exact hn.not_mem_erase
  · cases hf

namespace Holds

theorem free (hl : h.Holds ((a, b) :: l)) : ∃ h', h.free a b = some h' ∧ h'.Holds l := by
  have hmem : (a, b) ∈ h.live := hl.mem_iff.mpr List.mem_cons_self
  refine ⟨_, if_pos hmem, ?_⟩
  have hp := hl.erase (a, b)
  rw [List.erase_cons_head] at hp
  exact hp

theorem release (hl : h.Holds (owned b p ++ l)) : ∃ h', h.release b p = some h' ∧ h'.Holds l := by
  cases p with
  | none => exact ⟨h, rfl, hl⟩
  | some a => exact hl.free

end Holds
end Heap
end Heap

end Lib
end Esp32Eye
