import HtmlTemplate.Text.Basic
import Mathlib.Data.List.Lex
import Mathlib.Order.Lattice

/-!
# The order of texts

Code points are in the order of their numbers, and texts in the lexical order of their code points (`lessThan_iff`).
Both orders are linear, so sorting by texts that are all different puts them into strictly ascending order
(`pairwise_lt_mergeSort`).
-/

namespace HtmlTemplate

instance : LinearOrder CodePoint :=
  LinearOrder.lift' CodePoint.toNat fun _ _ h => CodePoint.toNat_inj.mp h

namespace Text

theorem lessThan_iff {s t : Text} : lessThan s t = true ↔ s < t := by
  induction s generalizing t with
  | nil =>
    cases t with
    | nil => exact iff_of_false (by decide) (List.lt_irrefl _)
    | cons b t => exact iff_of_true rfl (List.nil_lt_cons b t)
  | cons a s ih =>
    cases t with
    | nil => exact iff_of_false Bool.false_ne_true (List.not_lt_nil _)
    | cons b t =>
      rw [lessThan, List.cons_lt_cons_iff]
      by_cases hab : a = b
      · rw [if_pos hab, ih]
        exact ⟨fun h => .inr ⟨hab, h⟩, fun h => (h.resolve_left (hab ▸ lt_irrefl a)).2⟩
      · rw [if_neg hab, decide_eq_true_eq]
        exact ⟨.inl, fun h => h.resolve_right fun h => hab h.1⟩

theorem atMost_iff {s t : Text} : atMost s t = true ↔ s ≤ t := by
  rw [atMost, Bool.not_eq_true', ← Bool.not_eq_true, lessThan_iff, not_lt]

theorem atMost_total (s t : Text) : (atMost s t || atMost t s) = true := by
  rw [Bool.or_eq_true, atMost_iff, atMost_iff]
  exact le_total s t

theorem atMost_trans (s t u : Text) (h : atMost s t = true) (h' : atMost t u = true) : atMost s u = true := by
  rw [atMost_iff] at *
  exact h.trans h'

/-- What has different keys is sorted into strictly ascending order of the keys. -/
theorem pairwise_lt_mergeSort {α : Type} (key : α → Text) {xs : List α} (h : (xs.map key).Nodup) :
    (xs.mergeSort fun x y => atMost (key x) (key y)).Pairwise fun x y => key x < key y := by
  have hsorted : (xs.mergeSort fun x y => atMost (key x) (key y)).Pairwise fun x y => atMost (key x) (key y) = true :=
    List.pairwise_mergeSort (fun x y z => atMost_trans (key x) (key y) (key z))
      (fun x y => atMost_total (key x) (key y)) xs
  have hdistinct : (xs.mergeSort fun x y => atMost (key x) (key y)).Pairwise fun x y => key x ≠ key y := by
    have hperm := (List.mergeSort_perm xs fun x y => atMost (key x) (key y)).map key
    exact List.pairwise_map.mp (hperm.nodup_iff.mpr h)
  exact hsorted.imp₂ (fun x y hle hne => lt_of_le_of_ne (atMost_iff.mp hle) hne) hdistinct

end Text

end HtmlTemplate
