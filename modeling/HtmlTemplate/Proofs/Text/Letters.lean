import HtmlTemplate.Proofs.Text.Normal
import HtmlTemplate.Text.Fold
import Mathlib.Data.List.Forall2

/-!
# Letters that are the same but for case

There are two ways to ignore case: to compare lower-case forms, and to compare characters one by one. They agree on
texts of ASCII letters: if the lower-case form is one, it has been made character by character (`map_lowerCode`), so
texts with that form are the same but for case (`sameIgnoringCase_of_lower_eq`).
-/

namespace HtmlTemplate

theorem contains_formsOf (n : Nat) : (formsOf n).contains n = true := by
  rw [formsOf]
  split
  · rename_i forms hforms
    have hfound := List.find?_some hforms
    exact hfound
  · simp

theorem sameIgnoringCase_of_lowerCode_eq {c d : CodePoint} (h : lowerCode c.toNat = lowerCode d.toNat) :
    sameIgnoringCase c d = true := by
  rw [sameIgnoringCase, ← h]
  exact contains_formsOf _

/-- A form that is a letter has the code point that the tables give. -/
theorem lowerCode_of_lowerChar {c : CodePoint} (h : (lowerChar c).toNat ≠ 0) :
    lowerCode c.toNat = (lowerChar c).toNat := (CodePoint.toNat_ofNat_of_ne_zero h).symm

namespace Text

/-- Whether all characters of a text are in ASCII, and none is the null character. -/
def isAscii (s : Text) : Bool := s.all fun c => 0 < c.toNat && c.toNat < 0x80

theorem isAscii_cons {c : CodePoint} {s : Text} :
    isAscii (c :: s) = true ↔ (0 < c.toNat ∧ c.toNat < 0x80) ∧ isAscii s = true := by
  simp [isAscii]

/-- A lower-case form in ASCII has been made character by character. -/
theorem map_lowerCode {s : Text} (h : s.lower.isAscii = true) :
    s.map (fun c => lowerCode c.toNat) = s.lower.map CodePoint.toNat := by
  have hafter : ∀ (before s : Text), (lowerAfter before s).isAscii = true →
      s.map (fun c => lowerCode c.toNat) = (lowerAfter before s).map CodePoint.toNat := by
    intro before s
    induction s generalizing before with
    | nil => exact fun _ => rfl
    | cons c rest ih =>
      rw [lowerAfter]
      split
      · intro h
        rw [List.cons_append, List.cons_append, isAscii_cons, isAscii_cons] at h
        exact absurd h.2.1.2 (by decide)
      · split
        · intro h
          rw [List.cons_append, isAscii_cons] at h
          split at h
          · exact absurd h.1.2 (by decide)
          · exact absurd h.1.2 (by decide)
        · intro h
          rw [List.cons_append, isAscii_cons] at h
          rw [List.map_cons, List.cons_append, List.map_cons, lowerCode_of_lowerChar h.1.1.ne', ih _ h.2]
          rfl
  exact hafter [] s h

/-- Texts whose lower-case form is the same text in ASCII are the same but for case. -/
theorem sameIgnoringCase_of_lower_eq {s t : Text} (h : s.lower = t.lower) (hascii : t.lower.isAscii = true) :
    List.Forall₂ (fun c d => sameIgnoringCase c d = true) s t := by
  have hcodes : s.map (fun c => lowerCode c.toNat) = t.map fun c => lowerCode c.toNat := by
    rw [map_lowerCode hascii, map_lowerCode (h ▸ hascii), h]
  have hforall : List.Forall₂ (fun c d : CodePoint => lowerCode c.toNat = lowerCode d.toNat) s t := by
    rw [← List.forall₂_eq_eq_eq] at hcodes
    exact (List.forall₂_map_left_iff.mp (List.forall₂_map_right_iff.mp hcodes))
  exact hforall.imp fun _ _ => sameIgnoringCase_of_lowerCode_eq

end Text

end HtmlTemplate
