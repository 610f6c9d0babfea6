/-!
# Code points

A text may hold surrogates: an escape names one by its number, and a name of the file system holds one for a byte that
stands for no character. No encoding writes a surrogate. What is said of the characters of a text elsewhere is said of
its code points.
-/

namespace HtmlTemplate

/-- A code point: a character, or a surrogate by its place among the surrogates. -/
inductive CodePoint where
  | char (c : Char)
  | surrogate (place : Fin 0x800)
  deriving DecidableEq, Repr

namespace CodePoint

instance : Coe Char CodePoint := ⟨.char⟩

/-- The number of a code point. -/
def toNat : CodePoint → Nat
  | .char c => c.toNat
  | .surrogate place => 0xD800 + place

/-- The code point of a number; a number beyond the last code point has that of zero. -/
def ofNat (n : Nat) : CodePoint :=
  if h : 0xD800 ≤ n ∧ n < 0xE000 then .surrogate ⟨n - 0xD800, by omega⟩ else .char (Char.ofNat n)

/-- Code points are in the order of their numbers. -/
instance : LE CodePoint := ⟨fun a b => a.toNat ≤ b.toNat⟩

instance : LT CodePoint := ⟨fun a b => a.toNat < b.toNat⟩

instance (a b : CodePoint) : Decidable (a ≤ b) := inferInstanceAs (Decidable (a.toNat ≤ b.toNat))

instance (a b : CodePoint) : Decidable (a < b) := inferInstanceAs (Decidable (a.toNat < b.toNat))

/-- Whether a code point is a character with a property. -/
def any (f : Char → Bool) : CodePoint → Bool
  | .char c => f c
  | .surrogate _ => false

/-- The code point with a function applied to it if it is a character. -/
def map (f : Char → Char) : CodePoint → CodePoint
  | .char c => f c
  | .surrogate place => .surrogate place

/-- Whether a code point is a surrogate. -/
def isSurrogate : CodePoint → Bool
  | .char _ => false
  | .surrogate _ => true

theorem le_def {a b : CodePoint} : a ≤ b ↔ a.toNat ≤ b.toNat := Iff.rfl

@[simp]
theorem toNat_char (c : Char) : (char c).toNat = c.toNat := rfl

theorem char_toNat_eq (c : Char) : c.toNat < 0xD800 ∨ 0xE000 ≤ c.toNat := by
  have h : c.toNat.isValidChar := c.valid
  unfold Nat.isValidChar at h
  omega

@[simp]
theorem isSurrogate_char (c : Char) : (char c).isSurrogate = false := rfl

theorem isSurrogate_iff {c : CodePoint} : c.isSurrogate = true ↔ 0xD800 ≤ c.toNat ∧ c.toNat < 0xE000 := by
  cases c with
  | char c =>
    have := char_toNat_eq c
    exact iff_of_false Bool.false_ne_true (by rw [toNat_char]; omega)
  | surrogate place => exact iff_of_true rfl (by simp only [toNat]; omega)

theorem toNat_ofNat {n : Nat} (h : n < 0x110000) : (ofNat n).toNat = n := by
  unfold ofNat
  split
  · simp only [toNat]
    omega
  · have hvalid : n.isValidChar := by
      rw [Nat.isValidChar]
      omega
    rw [toNat_char, Char.ofNat, dif_pos hvalid]
    rfl

/-- The number of a code point is the one that it was made of, but that a number beyond the last gives zero. -/
theorem toNat_ofNat_of_ne_zero {n : Nat} (h : (ofNat n).toNat ≠ 0) : (ofNat n).toNat = n := by
  by_cases hn : n < 0x110000
  · exact toNat_ofNat hn
  · refine absurd ?_ h
    rw [ofNat, dif_neg (by omega), toNat_char, Char.ofNat, dif_neg (by rw [Nat.isValidChar]; omega)]
    rfl

theorem toNat_inj {a b : CodePoint} : a.toNat = b.toNat ↔ a = b := by
  constructor
  · intro h
    cases a with
    | char c =>
      cases b with
      | char d => simpa [Char.toNat_inj] using h
      | surrogate q => simp only [toNat] at h; have := char_toNat_eq c; omega
    | surrogate p =>
      cases b with
      | char d => simp only [toNat] at h; have := char_toNat_eq d; omega
      | surrogate q => simp only [toNat] at h; congr; omega
  · exact fun h => h ▸ rfl

@[simp]
theorem ofNat_toNat (c : CodePoint) : ofNat c.toNat = c := by
  cases c with
  | char c =>
    have := char_toNat_eq c
    rw [ofNat, dif_neg (by simp only [toNat_char]; omega), toNat_char, Char.ofNat_toNat]
  | surrogate p => simp [ofNat, toNat]; omega

end CodePoint

end HtmlTemplate
