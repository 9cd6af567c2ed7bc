import Mathlib.Data.List.Forall2
import Mathlib.Data.List.Pairwise
import Mathlib.Data.Nat.Basic

/-!
# Relays that may lose but not reorder

Messages are numbered in the order in which they arise. A relay holds some of them in `pending`,
oldest first, and has passed some on as `out`; it may drop a message it holds at any time. What is
seen of a message, while it is held and when it is passed on, need not show its number, so `Relays`
says that numbers can be found: increasing from the first message passed on to the last one held,
each message matching its number by `D` or by `Q`. Every move of a relay keeps this, and a
run of any relay then passes on each message at most once and in order (`Relays.out_sorted`).
-/

namespace Esp32Eye
namespace Lib

section Relays

variable {α β : Type*}

/-- The messages below `n`, some of which are passed on and some held. -/
def Relays (n : ℕ) (D : ℕ → β → Prop) (Q : ℕ → α → Prop) (out : List β) (pending : List α) :
    Prop :=
  ∃ ds ks : List ℕ, (ds ++ ks).Pairwise (· < ·) ∧ (∀ k ∈ ds ++ ks, k < n) ∧
    List.Forall₂ D ds out ∧ List.Forall₂ Q ks pending

variable {n m : ℕ} {D D' : ℕ → β → Prop} {Q Q' : ℕ → α → Prop} {out : List β}
  {pending pending' : List α} {a : α} {b : β}

theorem forall₂_of_sublist {ks : List ℕ} (h : List.Forall₂ Q ks pending)
    (hs : pending'.Sublist pending) : ∃ ks', ks'.Sublist ks ∧ List.Forall₂ Q ks' pending' := by
  induction hs generalizing ks with
  | slnil => exact ⟨[], List.nil_sublist _, .nil⟩
  | cons _ _ ih =>
    cases h with
    | cons _ h =>
      obtain ⟨ks', hks, h'⟩ := ih h
      exact ⟨ks', hks.cons _, h'⟩
  | cons_cons _ _ ih =>
    cases h with
    | cons hq h =>
      obtain ⟨ks', hks, h'⟩ := ih h
      exact ⟨_, hks.cons_cons _, .cons hq h'⟩

namespace Relays

theorem nil : Relays n D Q [] ([] : List α) :=
  ⟨[], [], by simp, by simp, .nil, .nil⟩

/-- More messages, and other ways to recognise the old ones. -/
theorem imp (h : Relays n D Q out pending) (hnm : n ≤ m) (hD : ∀ k < n, ∀ b, D k b → D' k b)
    (hQ : ∀ k < n, ∀ a ∈ pending, Q k a → Q' k a) : Relays m D' Q' out pending := by
  obtain ⟨ds, ks, hp, hlt, hd, hk⟩ := h
  refine ⟨ds, ks, hp, fun k hk => Nat.lt_of_lt_of_le (hlt k hk) hnm, ?_, ?_⟩
  · refine List.forall₂_iff_zip.mpr ⟨hd.length_eq, fun {k b} hmem => ?_⟩
    exact hD k (hlt k (List.mem_append_left _ (List.of_mem_zip hmem).1)) b
      (List.forall₂_zip hd hmem)
  · refine List.forall₂_iff_zip.mpr ⟨hk.length_eq, fun {k a} hmem => ?_⟩
    obtain ⟨hmk, hma⟩ := List.of_mem_zip hmem
    exact hQ k (hlt k (List.mem_append_right _ hmk)) a hma (List.forall₂_zip hk hmem)

/-- A new message is taken in. -/
theorem publish (h : Relays n D Q out pending) (ha : Q n a) :
    Relays (n + 1) D Q out (pending ++ [a]) := by
  obtain ⟨ds, ks, hp, hlt, hd, hk⟩ := h
  refine ⟨ds, ks ++ [n], ?_, ?_, hd, List.rel_append hk (.cons ha .nil)⟩
  · rw [← List.append_assoc]
    exact List.pairwise_append.mpr
      ⟨hp, List.pairwise_singleton _ _, fun k hk _ hn => List.mem_singleton.mp hn ▸ hlt k hk⟩
  · intro k hk
    rw [← List.append_assoc] at hk
    rcases List.mem_append.mp hk with hk | hk
    · exact Nat.lt_succ_of_lt (hlt k hk)
    · exact List.mem_singleton.mp hk ▸ n.lt_succ_self

/-- Held messages are lost. -/
theorem drop (h : Relays n D Q out pending) (hs : pending'.Sublist pending) :
    Relays n D Q out pending' := by
  obtain ⟨ds, ks, hp, hlt, hd, hk⟩ := h
  obtain ⟨ks', hsub, hk'⟩ := forall₂_of_sublist hk hs
  have hss : (ds ++ ks').Sublist (ds ++ ks) := (List.append_sublist_append_left ds).mpr hsub
  exact ⟨ds, ks', hp.sublist hss, fun k hk => hlt k (hss.subset hk), hd, hk'⟩

/-- The oldest message is passed on. -/
theorem deliver (h : Relays n D Q out (a :: pending)) (hab : ∀ k < n, Q k a → D k b) :
    Relays n D Q (out ++ [b]) pending := by
  obtain ⟨ds, ks, hp, hlt, hd, hk⟩ := h
  cases hk with
  | cons hq hk =>
    rename_i k ks
    refine ⟨ds ++ [k], ks, ?_, ?_, ?_, hk⟩
    · simpa using hp
    · simpa using hlt
    · exact List.rel_append hd (.cons (hab k (hlt k (by simp)) hq) .nil)

/-- **Nothing is passed on twice or out of order.** -/
theorem out_sorted (h : Relays n D Q out pending) :
    ∃ ds : List ℕ, ds.Pairwise (· < ·) ∧ List.Forall₂ D ds out := by
  obtain ⟨ds, ks, hp, -, hd, -⟩ := h
  exact ⟨ds, (List.pairwise_append.mp hp).1, hd⟩

end Relays
end Relays

end Lib
end Esp32Eye
