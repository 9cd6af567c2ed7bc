import Mathlib.Data.Finset.Card
import Mathlib.Data.Fintype.Basic
import Mathlib.Data.BitVec

/-!
# Tables of slots, their count and their marks

A table of `n` slots is a map `Fin n → Option α`. Programs keep such a table together with two
redundant views of it, a counter and a bit mask, and update the three by separate statements.
What the two views have to agree with is stated here once:

* `occupied t` is the set of filled slots, and a counter is right when it is its cardinality;
* `Marks p t m` says that bit `k` of the word `m` is set exactly when slot `k` is filled with an
  entry that `p` holds of.

Filling, clearing and rewriting a slot are `Function.update`; each has a lemma for the count and
one for the marks. A loop that visits every slot once has its invariant rule in `foldl_visited`.
-/

namespace Esp32Eye
namespace Lib

variable {n w : ℕ} {α : Type*}

/-! ## The count -/

/-- The filled slots. -/
def occupied (t : Fin n → Option α) : Finset (Fin n) :=
  Finset.univ.filter fun i => (t i).isSome

@[simp] theorem mem_occupied {t : Fin n → Option α} {i : Fin n} :
    i ∈ occupied t ↔ (t i).isSome = true := by
  simp [occupied]

theorem card_occupied_le (t : Fin n → Option α) : (occupied t).card ≤ n := by
  have := Finset.card_le_univ (occupied t)
  rwa [Fintype.card_fin] at this

/-- Filling an empty slot. -/
theorem card_occupied_fill {t : Fin n → Option α} {i : Fin n} {a : α} (h : t i = none) :
    (occupied (Function.update t i (some a))).card = (occupied t).card + 1 := by
  have hi : i ∉ occupied t := by simp [h]
  have : occupied (Function.update t i (some a)) = insert i (occupied t) := by
    ext j
    rcases eq_or_ne j i with rfl | hj
    · simp
    · simp [hj]
  rw [this, Finset.card_insert_of_notMem hi]

/-- Clearing a filled slot. -/
theorem card_occupied_clear {t : Fin n → Option α} {i : Fin n} {a : α} (h : t i = some a) :
    (occupied (Function.update t i none)).card + 1 = (occupied t).card := by
  have hi : i ∈ occupied t := by simp [h]
  have : occupied (Function.update t i none) = (occupied t).erase i := by
    ext j
    rcases eq_or_ne j i with rfl | hj
    · simp
    · simp [hj]
  rw [this, Finset.card_erase_add_one hi]

/-- Rewriting a filled slot. -/
theorem card_occupied_rewrite {t : Fin n → Option α} {i : Fin n} {a b : α} (h : t i = some a) :
    (occupied (Function.update t i (some b))).card = (occupied t).card := by
  congr 1
  ext j
  rcases eq_or_ne j i with rfl | hj
  · simp [h]
  · simp [Function.update_of_ne hj]

theorem card_occupied_pos {t : Fin n → Option α} :
    0 < (occupied t).card ↔ ∃ i a, t i = some a := by
  rw [Finset.card_pos]
  constructor
  · rintro ⟨i, hi⟩
    exact ⟨i, Option.isSome_iff_exists.mp (mem_occupied.mp hi)⟩
  · rintro ⟨i, a, h⟩
    exact ⟨i, by simp [h]⟩

/-! ## One bit of a word -/

/-- `m | (1 << i)`. -/
def setBit (m : BitVec w) (i : ℕ) : BitVec w := m ||| 1#w <<< i

/-- `m & ~(1 << i)`. -/
def clearBit (m : BitVec w) (i : ℕ) : BitVec w := m &&& ~~~(1#w <<< i)

theorem getLsbD_setBit {m : BitVec w} {i k : ℕ} (hi : i < w) :
    (setBit m i).getLsbD k = (m.getLsbD k || decide (k = i)) := by
  unfold setBit
  rw [← BitVec.twoPow_eq, BitVec.getLsbD_or, BitVec.getLsbD_twoPow]
  simp [hi, eq_comm]

theorem getLsbD_clearBit {m : BitVec w} {i k : ℕ} :
    (clearBit m i).getLsbD k = (m.getLsbD k && !decide (k = i)) := by
  unfold clearBit
  rw [← BitVec.twoPow_eq, BitVec.getLsbD_and, BitVec.getLsbD_not, BitVec.getLsbD_twoPow]
  by_cases hk : k < w
  · rcases eq_or_ne k i with rfl | hne
    · simp [hk]
    · simp [hk, hne, Ne.symm hne]
  · simp [BitVec.getLsbD_of_ge _ _ (Nat.le_of_not_lt hk)]

/-! ## The marks -/

/-- Bit `k` of `m` is set exactly when slot `k` holds an entry with `p`. -/
def Marks (p : α → Bool) (t : Fin n → Option α) (m : BitVec w) : Prop :=
  ∀ k, m.getLsbD k = true ↔ ∃ i : Fin n, i.val = k ∧ ∃ a, t i = some a ∧ p a = true

section

variable {p : α → Bool} {t : Fin n → Option α} {m : BitVec w} {i : Fin n}

theorem Marks.slot (h : Marks p t m) :
    m.getLsbD i = true ↔ ∃ a, t i = some a ∧ p a = true := by
  rw [h i]
  constructor
  · rintro ⟨j, hj, a, ha⟩
    rw [Fin.ext hj] at ha
    exact ⟨a, ha⟩
  · rintro ⟨a, ha⟩
    exact ⟨i, rfl, a, ha⟩

theorem Marks.of_empty (h : Marks p t m) (hi : t i = none) : m.getLsbD i = false := by
  rw [← Bool.not_eq_true, h.slot]
  rintro ⟨a, ha, -⟩
  rw [hi] at ha
  cases ha

/-- The marks are decided slot by slot once the bits beyond the table are clear. -/
theorem marks_iff : Marks p t m ↔
    (∀ i : Fin n, m.getLsbD i = true ↔ ∃ a, t i = some a ∧ p a = true) ∧
      ∀ k, n ≤ k → m.getLsbD k = false := by
  constructor
  · intro h
    refine ⟨fun i => h.slot, fun k hk => ?_⟩
    rw [← Bool.not_eq_true, h k]
    rintro ⟨i, rfl, -⟩
    exact absurd i.isLt (by omega)
  · rintro ⟨hs, hb⟩ k
    by_cases hk : k < n
    · rw [hs ⟨k, hk⟩]
      constructor
      · rintro ⟨a, ha⟩
        exact ⟨⟨k, hk⟩, rfl, a, ha⟩
      · rintro ⟨i, rfl, a, ha⟩
        exact ⟨a, ha⟩
    · rw [hb k (by omega)]
      constructor
      · intro h; exact absurd h (by simp)
      · rintro ⟨i, rfl, -⟩
        exact absurd i.isLt hk

/-- An unmarked entry may be filled in without touching the word. -/
theorem Marks.fill {a : α} (h : Marks p t m) (hi : t i = none) (ha : p a = false) :
    Marks p (Function.update t i (some a)) m := by
  refine marks_iff.mpr ⟨fun j => ?_, (marks_iff.mp h).2⟩
  rcases eq_or_ne j i with rfl | hj
  · rw [Function.update_self, h.of_empty hi]
    simp [ha]
  · rw [Function.update_of_ne hj, h.slot]

/-- Clearing a slot goes with clearing its bit. -/
theorem Marks.clear (h : Marks p t m) : Marks p (Function.update t i none) (clearBit m i) := by
  refine marks_iff.mpr ⟨fun j => ?_, fun k hk => ?_⟩
  · rw [getLsbD_clearBit]
    rcases eq_or_ne j i with rfl | hj
    · simp
    · rw [Function.update_of_ne hj, ← h.slot]
      simp [Fin.val_ne_of_ne hj]
  · rw [getLsbD_clearBit, (marks_iff.mp h).2 k hk, Bool.false_and]

/-- Rewriting a slot goes with setting its bit or clearing it, as `p` says of the new entry. -/
theorem Marks.rewrite {a : α} (h : Marks p t m) (hw : n ≤ w) :
    Marks p (Function.update t i (some a)) (if p a then setBit m i else clearBit m i) := by
  have hiw : i.val < w := Nat.lt_of_lt_of_le i.isLt hw
  refine marks_iff.mpr ⟨fun j => ?_, fun k hk => ?_⟩
  · rcases eq_or_ne j i with rfl | hj
    · cases ha : p a <;> simp [getLsbD_setBit hiw, getLsbD_clearBit, ha]
    · have hji : (j : ℕ) ≠ i := Fin.val_ne_of_ne hj
      rw [Function.update_of_ne hj, ← h.slot]
      cases p a <;> simp [getLsbD_setBit hiw, getLsbD_clearBit, hji]
  · have hki : k ≠ i := by have := i.isLt; omega
    have hb := (marks_iff.mp h).2 k hk
    cases p a <;> simp [getLsbD_setBit hiw, getLsbD_clearBit, hki, hb]

end

/-! ## Loops over the slots -/

theorem length_filter_finRange (p : Fin n → Bool) :
    ((List.finRange n).filter p).length = (Finset.univ.filter fun i => p i = true).card := by
  rw [Finset.card_def, Finset.filter_val, Finset.val_univ_fin, Multiset.filter_coe,
    Multiset.coe_card]
  simp only [Bool.decide_eq_true]

/-- The slots before the `k`th, and that one. -/
theorem take_finRange_succ {k : Fin n} :
    (List.finRange n).take (k + 1) = (List.finRange n).take k ++ [k] := by
  rw [List.take_succ_eq_append_getElem (by simp), List.getElem_finRange]
  rfl

theorem not_mem_take_finRange {k : Fin n} : k ∉ (List.finRange n).take k := by
  have hnew := (List.nodup_finRange n).sublist (List.take_sublist (k + 1) (List.finRange n))
  rw [take_finRange_succ] at hnew
  intro hk
  exact (List.nodup_append.mp hnew).2.2 k hk k (List.mem_singleton_self k) rfl

/-- **The loop rule.** `I` speaks of the slots visited so far; the body is entered only for one
    that was not. -/
theorem foldl_visited {ι β : Type*} {f : β → ι → β} {I : List ι → β → Prop} {b : β}
    {slots : List ι} (hnew : slots.Nodup) (h₀ : I [] b)
    (hstep : ∀ {visited i b}, i ∉ visited → I visited b → I (visited ++ [i]) (f b i)) :
    I slots (slots.foldl f b) := by
  induction slots using List.reverseRecOn with
  | nil => exact h₀
  | append_singleton slots i ih =>
    rw [List.foldl_append, List.foldl_cons, List.foldl_nil]
    have hsplit := List.nodup_append.mp hnew
    refine hstep ?_ (ih hsplit.1)
    intro hi
    exact hsplit.2.2 i hi i (List.mem_singleton_self i) rfl

end Lib
end Esp32Eye
