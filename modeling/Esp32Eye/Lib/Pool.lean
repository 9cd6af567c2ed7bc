import Mathlib.Data.Fintype.Card
import Mathlib.Data.List.Perm.Basic
import Mathlib.Logic.Function.Basic

/-!
# Pools of numbered buffers

Each buffer has a flag that says whether it is free. Whoever takes a buffer clears its flag and
whoever is done with it sets the flag again; in between, the buffer's number is in some queue or
some local variable. `Accounted` says that the two pictures agree: the buffers whose flag is clear
are exactly those that somebody has, and nobody else has them too. Moving a buffer from one holder
to another is a permutation of `busy`.
-/

namespace Esp32Eye
namespace Lib

section Pool

variable {ι : Type*}

/-- The buffers that are not free are the busy ones, each with one holder. -/
structure Accounted (free : ι → Bool) (busy : List ι) : Prop where
  nodup : busy.Nodup
  flags : ∀ x, free x = false ↔ x ∈ busy

namespace Accounted

variable {free free' : ι → Bool} {busy busy' : List ι} {x : ι}

theorem all_free (h : ∀ x, free x = true) : Accounted free [] :=
  ⟨List.nodup_nil, fun x => by simp [h x]⟩

/-- A buffer changes hands. -/
theorem perm (h : Accounted free busy) (hp : busy'.Perm busy) (hf : ∀ x, free' x = free x) :
    Accounted free' busy' :=
  ⟨hp.nodup_iff.mpr h.nodup, fun x => by rw [hf, h.flags, hp.mem_iff]⟩

theorem not_mem (h : Accounted free busy) (hx : free x = true) : x ∉ busy := fun hm => by
  rw [(h.flags x).mpr hm] at hx
  cases hx

/-- A free buffer is taken. -/
theorem take [DecidableEq ι] (h : Accounted free busy) (hx : free x = true)
    (hp : busy'.Perm (x :: busy)) (hf : ∀ y, free' y = if y = x then false else free y) :
    Accounted free' busy' := by
  refine ⟨hp.nodup_iff.mpr (List.nodup_cons.mpr ⟨h.not_mem hx, h.nodup⟩), fun y => ?_⟩
  rw [hf, hp.mem_iff, List.mem_cons]
  split
  · rename_i hy; simp [hy]
  · rename_i hy; simp [hy, h.flags]

/-- A buffer is made free by the one who has it. -/
theorem release [DecidableEq ι] (h : Accounted free busy) (hp : busy.Perm (x :: busy'))
    (hf : ∀ y, free' y = if y = x then true else free y) : Accounted free' busy' := by
  have hn := List.nodup_cons.mp (hp.nodup_iff.mp h.nodup)
  refine ⟨hn.2, fun y => ?_⟩
  rw [hf]
  split
  · rename_i hy; subst hy; simp [hn.1]
  · rename_i hy; rw [h.flags, hp.mem_iff, List.mem_cons]; simp [hy]

theorem length_le {n : ℕ} {free : Fin n → Bool} {busy : List (Fin n)} (h : Accounted free busy) :
    busy.length ≤ n := by
  simpa using h.nodup.length_le_card

end Accounted
end Pool

end Lib
end Esp32Eye
