import Esp32Eye.Dma

/-!
# What the copy makes of a half buffer

Each filter goes through the elements in groups of four or eight. When the half buffer is a whole
number of groups, nothing is left over, and the result is the samples in order: as many bytes as the
filter says it wrote.
-/

namespace Esp32Eye
namespace DmaFilter

variable {els : List DmaElem} {k : ℕ}

/-! ## Groups -/

theorem exists_four {α : Type*} {l : List α} (h : l.length = 4 * (k + 1)) :
    ∃ a b c d rest, l = a :: b :: c :: d :: rest ∧ rest.length = 4 * k := by
  match l with
  | a :: b :: c :: d :: rest =>
    refine ⟨a, b, c, d, rest, rfl, ?_⟩
    simp only [List.length_cons] at h
    omega
  | [] | [_] | [_, _] | [_, _, _] =>
    simp only [List.length_cons, List.length_nil] at h
    omega

theorem exists_eight {α : Type*} {l : List α} (h : l.length = 8 * (k + 1)) :
    ∃ a b c d e f g i rest, l = a :: b :: c :: d :: e :: f :: g :: i :: rest ∧
      rest.length = 8 * k := by
  obtain ⟨a, b, c, d, rest, rfl, hrest⟩ :=
    exists_four (l := l) (k := 2 * k + 1) (by omega)
  obtain ⟨e, f, g, i, rest, rfl, hrest⟩ := exists_four (l := rest) (k := 2 * k) (by omega)
  exact ⟨a, b, c, d, e, f, g, i, rest, rfl, by omega⟩

/-! ## The four loops -/

theorem firstSamples_eq (h : els.length = 4 * k) :
    firstSamples els = els.map DmaElem.sample1 := by
  induction k generalizing els with
  | zero => rw [List.eq_nil_of_length_eq_zero h]; rfl
  | succ k ih =>
    obtain ⟨a, b, c, d, rest, rfl, hrest⟩ := exists_four h
    rw [firstSamples, ih hrest]
    rfl

theorem bothSamples_eq (h : els.length = 4 * k) :
    bothSamples els = els.flatMap fun e => [e.sample1, e.sample2] := by
  induction k generalizing els with
  | zero => rw [List.eq_nil_of_length_eq_zero h]; rfl
  | succ k ih =>
    obtain ⟨a, b, c, d, rest, rfl, hrest⟩ := exists_four h
    rw [bothSamples, ih hrest]
    rfl

theorem everyElement_eq (h : els.length = 8 * k) :
    everyElement els = els.map DmaElem.sample1 := by
  induction k generalizing els with
  | zero => rw [List.eq_nil_of_length_eq_zero h]; rfl
  | succ k ih =>
    obtain ⟨a, b, c, d, e, f, g, i, rest, rfl, hrest⟩ := exists_eight h
    rw [everyElement, ih hrest]
    rfl

theorem length_everyOther (h : els.length = 8 * k) : (everyOther els).length = 4 * k := by
  induction k generalizing els with
  | zero => rw [List.eq_nil_of_length_eq_zero h]; rfl
  | succ k ih =>
    obtain ⟨a, b, c, d, e, f, g, i, rest, rfl, hrest⟩ := exists_eight h
    simp only [everyOther, List.length_cons, ih hrest]
    omega

/-! ## The filters -/

theorem jpeg_ok (h : els.length = 4 * k) :
    (jpeg els).bytes = els.map DmaElem.sample1 ∧ (jpeg els).length = els.length :=
  ⟨firstSamples_eq h, rfl⟩

theorem grayscale_ok (h : els.length = 4 * k) :
    (grayscale els).bytes.length = els.length ∧ (grayscale els).length = els.length := by
  refine ⟨?_, rfl⟩
  rw [grayscale, firstSamples_eq h, List.length_map]

theorem yuyv_ok (h : els.length = 4 * k) :
    (yuyv els).bytes.length = els.length * 2 ∧ (yuyv els).length = els.length * 2 := by
  refine ⟨?_, rfl⟩
  rw [yuyv, bothSamples_eq h]
  simp [List.length_flatMap, List.map_const']

theorem yuyvHighspeed_ok (h : els.length = 8 * k) :
    (yuyvHighspeed els).bytes.length = els.length ∧
      (yuyvHighspeed els).length = els.length := by
  refine ⟨?_, if_pos (by omega)⟩
  rw [yuyvHighspeed, everyElement_eq h, List.length_map]

theorem grayscaleHighspeed_ok (h : els.length = 8 * k) :
    (grayscaleHighspeed els).bytes.length = els.length / 2 ∧
      (grayscaleHighspeed els).length = els.length / 2 := by
  refine ⟨?_, ?_⟩
  · rw [grayscaleHighspeed, length_everyOther h]
    omega
  · rw [grayscaleHighspeed, if_pos (by omega)]

end DmaFilter
end Esp32Eye
