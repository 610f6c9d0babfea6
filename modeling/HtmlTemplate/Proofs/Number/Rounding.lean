import HtmlTemplate.Number.Basic
import Mathlib.Algebra.Order.Field.Power
import Mathlib.Algebra.Order.Field.Rat
import Mathlib.Tactic.FieldSimp
import Mathlib.Tactic.Linarith
import Mathlib.Tactic.NormNum
import Mathlib.Tactic.Positivity
import Mathlib.Tactic.Ring

/-!
# Rounding to double precision

- `Representable`: the rational numbers that are numbers of double precision, and `Nearest`: the one nearest to a
  rational number, a half going to the even significand.
- A fraction of natural numbers is rounded to the nearest such number, or to an infinity if it is not below `overflow`
  (`ofRatio_eq_infinity`, `exists_ofRatio_eq_finite`).
- What is representable stays as it is (`Nearest.eq_of_representable`, `exists_ofRatio_eq_self`).
-/

namespace HtmlTemplate.Double

/-- The rational numbers that a number of double precision can be. -/
def Representable (q : ℚ) : Prop :=
  ∃ (m : ℕ) (e : ℤ), m < 2 ^ 53 ∧ minExponent ≤ e ∧ e ≤ maxExponent ∧ |q| = m * 2 ^ e

/-- The numbers of double precision with an even significand; the exponent is the least one that leaves room for it. -/
def HasEvenSignificand (q : ℚ) : Prop :=
  ∃ (m : ℕ) (e : ℤ), Even m ∧ m < 2 ^ 53 ∧ (2 ^ 52 ≤ m ∨ e = minExponent) ∧ |q| = m * 2 ^ e

/-- Whether `w` is the representable number nearest to `q`, and the even one if there are two. -/
structure Nearest (q w : ℚ) : Prop where
  representable : Representable w
  le : ∀ v, Representable v → |w - q| ≤ |v - q|
  even : ∀ v, Representable v → v ≠ w → |v - q| = |w - q| → HasEvenSignificand w

/-- From here on a number is beyond the largest one of double precision, and half a unit more. -/
def overflow : ℕ := (twoTo 54 - 1) * twoTo 970

theorem twoTo_eq (n : ℕ) : twoTo n = 2 ^ n := rfl

theorem zpow_two_pos (e : ℤ) : (0 : ℚ) < 2 ^ e := zpow_pos two_pos e

theorem cast_overflow : (overflow : ℚ) = (2 ^ 53 - 1 / 2) * 2 ^ maxExponent := by
  have h : (2 : ℚ) ^ maxExponent = 2 ^ (970 : ℤ) * 2 := by
    rw [maxExponent, ← zpow_add_one₀ two_ne_zero]
    norm_num only
  rw [h, overflow, twoTo_eq, twoTo_eq, Nat.cast_mul, Nat.cast_pow, Nat.cast_ofNat]
  have h54 : ((2 ^ 54 - 1 : ℕ) : ℚ) = 2 ^ 54 - 1 := by norm_num only
  have h970 : (2 : ℚ) ^ (970 : ℤ) = 2 ^ 970 := zpow_natCast 2 970
  rw [h54, ← h970]
  ring

/-! ## Representable numbers -/

section Representable

variable {q w : ℚ}

theorem Representable.neg (h : Representable q) : Representable (-q) := by
  rwa [Representable, abs_neg]

theorem representable_abs : Representable |q| ↔ Representable q := by
  rw [Representable, abs_abs, Representable]

/-- An integer of at most 53 binary digits is representable. -/
theorem representable_intCast {n : ℤ} (h : n.natAbs < 2 ^ 53) : Representable n :=
  ⟨n.natAbs, 0, h, by decide, by decide, by rw [zpow_zero, mul_one, Nat.cast_natAbs, Int.cast_abs]⟩

/-- Two to the 53rd is representable, too. -/
theorem representable_twoTo : Representable (2 ^ 53) :=
  ⟨2 ^ 52, 1, by norm_num only, by decide, by decide, by norm_num⟩

theorem Representable.abs_lt_overflow (h : Representable q) : |q| < overflow := by
  obtain ⟨m, e, hm, -, he, hq⟩ := h
  have hm' : (m : ℚ) ≤ 2 ^ 53 - 1 := by
    have : (m : ℚ) + 1 ≤ 2 ^ 53 := by exact_mod_cast hm
    linarith
  have he' : (2 : ℚ) ^ e ≤ 2 ^ maxExponent := zpow_le_zpow_right₀ one_le_two he
  calc |q| = m * 2 ^ e := hq
    _ ≤ (2 ^ 53 - 1) * 2 ^ maxExponent := mul_le_mul hm' he' (zpow_two_pos e).le (by norm_num)
    _ < (2 ^ 53 - 1 / 2) * 2 ^ maxExponent := by
      refine mul_lt_mul_of_pos_right ?_ (zpow_two_pos _)
      norm_num
    _ = overflow := cast_overflow.symm

/-- A representable number is nearest to itself alone. -/
theorem Nearest.eq_of_representable (h : Nearest q w) (hq : Representable q) : w = q := by
  have hle := h.le q hq
  rw [sub_self, abs_zero] at hle
  exact sub_eq_zero.mp (abs_eq_zero.mp (le_antisymm hle (abs_nonneg _)))

theorem Nearest.neg (h : Nearest q w) : Nearest (-q) (-w) := by
  have hflip : ∀ v : ℚ, |v - -q| = |-v - q| := fun v => by rw [← abs_neg]; ring_nf
  refine ⟨h.representable.neg, fun v hv => ?_, fun v hv hne heq => ?_⟩
  · rw [hflip, hflip, neg_neg]
    exact h.le (-v) hv.neg
  · rw [hflip, hflip, neg_neg] at heq
    have heven := h.even (-v) hv.neg (fun h' => hne (by rw [← h', neg_neg])) heq
    rwa [HasEvenSignificand, abs_neg]

/-- For a positive number only positive candidates count. -/
theorem nearest_of_nonneg (hq : 0 ≤ q) (hw : Representable w) (hw0 : 0 ≤ w)
    (hle : ∀ v, Representable v → 0 ≤ v → |w - q| ≤ |v - q|)
    (heven : ∀ v, Representable v → 0 ≤ v → v ≠ w → |v - q| = |w - q| → HasEvenSignificand w) : Nearest q w := by
  have hfold : ∀ v : ℚ, |(|v| - q)| ≤ |v - q| := fun v => by
    have h := abs_abs_sub_abs_le v q
    rwa [abs_of_nonneg hq] at h
  refine ⟨hw, fun v hv => (hle |v| (representable_abs.mpr hv) (abs_nonneg v)).trans (hfold v), fun v hv hne heq => ?_⟩
  have hv' := hle |v| (representable_abs.mpr hv) (abs_nonneg v)
  by_cases h : |v| = w
  · -- the other one is below nought and just as near, so both are nought
    have hvw : v = -w := by
      rcases abs_choice v with hc | hc
      · exact absurd (hc.symm.trans h) hne
      · rw [← h, hc, neg_neg]
    have hq0 : q = 0 ∨ w = 0 := by
      rw [hvw, ← abs_neg (-w - q), neg_sub, sub_neg_eq_add, abs_of_nonneg (add_nonneg hq hw0)] at heq
      rcases abs_choice (w - q) with hc | hc
      · left; linarith
      · right; linarith
    rcases hq0 with rfl | rfl
    · have h0 := hle 0 ⟨0, 0, by norm_num only, by decide, by decide, by norm_num⟩ le_rfl
      rw [sub_zero, sub_zero, abs_zero, abs_of_nonneg hw0] at h0
      have hw' : w = 0 := le_antisymm h0 hw0
      exact absurd (by rw [hvw, hw', neg_zero]) hne
    · exact absurd (by rw [hvw, neg_zero]) hne
  · exact heven |v| (representable_abs.mpr hv) (abs_nonneg v) h (le_antisymm ((hfold v).trans heq.le) hv')

end Representable

/-! ## Fractions of natural numbers -/

/-- Whether `n` is the natural number nearest to `x`, a half going to the even one. -/
structure NearestNat (x : ℚ) (n : ℕ) : Prop where
  le_half : |(n : ℚ) - x| ≤ 1 / 2
  even : |(n : ℚ) - x| = 1 / 2 → Even n

theorem nearestNat_nearest {num den : ℕ} (hd : den ≠ 0) : NearestNat (num / den) (nearest num den) := by
  have hpos : (0 : ℚ) < den := by exact_mod_cast Nat.pos_of_ne_zero hd
  have hnum : (num : ℚ) = (num / den : ℕ) * den + (num % den : ℕ) := by
    exact_mod_cast (Nat.div_add_mod' num den).symm
  generalize hq : num / den = q at hnum
  generalize hr : num % den = r at hnum
  have hx : (num : ℚ) / den = q + r / den := by
    rw [hnum]
    field_simp
  rw [nearest, hq, hr, hx]
  -- the part behind the point is below, above or at a half
  have hr0 : (0 : ℚ) ≤ r / den := by positivity
  rcases lt_trichotomy (2 * r) den with h | h | h
  · have hhalf : (r : ℚ) / den < 1 / 2 := by
      rw [div_lt_iff₀ hpos]
      have : (2 : ℚ) * r < den := by exact_mod_cast h
      linarith
    rw [if_pos h]
    refine ⟨?_, fun heq => ?_⟩
    · rw [sub_add_cancel_left, abs_neg, abs_of_nonneg hr0]
      exact hhalf.le
    · rw [sub_add_cancel_left, abs_neg, abs_of_nonneg hr0] at heq
      exact absurd heq hhalf.ne
  · have hhalf : (r : ℚ) / den = 1 / 2 := by
      rw [div_eq_iff hpos.ne']
      have : (2 : ℚ) * r = den := by exact_mod_cast h
      linarith
    rw [if_neg (by omega), if_neg (by omega), hhalf]
    split
    · rename_i heven
      refine ⟨?_, fun _ => Nat.even_iff.mpr heven⟩
      rw [sub_add_cancel_left, abs_neg, abs_of_nonneg (by norm_num)]
    · rename_i hodd
      refine ⟨?_, fun _ => Nat.even_iff.mpr (by omega)⟩
      rw [Nat.cast_add_one, add_sub_add_left_eq_sub, abs_of_nonneg (by norm_num)]
      norm_num
  · have hhalf : 1 / 2 < (r : ℚ) / den := by
      rw [lt_div_iff₀ hpos]
      have : (den : ℚ) < 2 * r := by exact_mod_cast h
      linarith
    have hone : (r : ℚ) / den < 1 := by
      rw [div_lt_one hpos, ← hr]
      exact_mod_cast Nat.mod_lt num (Nat.pos_of_ne_zero hd)
    rw [if_neg (by omega), if_pos h]
    refine ⟨?_, fun heq => ?_⟩
    · rw [Nat.cast_add_one, add_sub_add_left_eq_sub, abs_of_pos (by linarith)]
      linarith
    · rw [Nat.cast_add_one, add_sub_add_left_eq_sub, abs_of_pos (by linarith)] at heq
      linarith

/-- No natural number is nearer than the nearest one, and another one is as near only if that is even. -/
theorem NearestNat.le {x : ℚ} {n : ℕ} (h : NearestNat x n) (k : ℕ) :
    |(n : ℚ) - x| ≤ |(k : ℚ) - x| ∧ (k ≠ n → |(k : ℚ) - x| = |(n : ℚ) - x| → Even n) := by
  by_cases hk : k = n
  · rw [hk]
    exact ⟨le_rfl, fun h => absurd rfl h⟩
  have hone : (1 : ℚ) ≤ |(k : ℚ) - n| := by
    have : (1 : ℤ) ≤ |(k : ℤ) - n| := Int.one_le_abs (by omega)
    exact_mod_cast this
  have htriangle : |(k : ℚ) - n| ≤ |(k : ℚ) - x| + |(n : ℚ) - x| := by
    rw [abs_sub_comm (n : ℚ) x]
    exact abs_sub_le _ _ _
  have hhalf := h.le_half
  exact ⟨by linarith, fun _ heq => h.even (by linarith)⟩

theorem scale_eq (num : ℕ) {den : ℕ} (hd : den ≠ 0) (e : ℤ) :
    (scale num den e).2 ≠ 0 ∧ ((scale num den e).1 : ℚ) / (scale num den e).2 = num / den / 2 ^ e := by
  rw [scale]
  split
  · rename_i h
    obtain ⟨k, rfl⟩ := Int.eq_ofNat_of_zero_le h
    rw [Int.toNat_natCast, Nat.shiftLeft_eq, zpow_natCast]
    refine ⟨by positivity, ?_⟩
    push_cast
    rw [div_div]
  · rename_i h
    obtain ⟨k, hk⟩ := Int.eq_ofNat_of_zero_le (show 0 ≤ -e by omega)
    obtain rfl : e = -(k : ℤ) := by omega
    rw [neg_neg, Int.toNat_natCast, Nat.shiftLeft_eq, zpow_neg, zpow_natCast]
    refine ⟨hd, ?_⟩
    push_cast
    rw [div_inv_eq_mul, mul_div_right_comm]

/-- Whether `e` is the exponent at which `q` is rounded: the significand has 53 binary digits there, or the exponent is
the smallest one. -/
structure Placed (q : ℚ) (e : ℤ) : Prop where
  least : minExponent ≤ e
  lt : q < 2 ^ 53 * 2 ^ e
  ge : 2 ^ 52 * 2 ^ e ≤ q ∨ e = minExponent

theorem log2_bounds {n : ℕ} (h : n ≠ 0) : (2 : ℚ) ^ (n.log2 : ℤ) ≤ n ∧ (n : ℚ) < 2 ^ (n.log2 + 1 : ℤ) := by
  constructor
  · rw [zpow_natCast]
    exact_mod_cast Nat.log2_self_le h
  · have hcast : (n.log2 + 1 : ℤ) = (n.log2 + 1 : ℕ) := by push_cast; rfl
    rw [hcast, zpow_natCast]
    exact_mod_cast Nat.lt_log2_self

/-- The first guess of an exponent leaves 52 or 53 binary digits. -/
theorem guess_bounds {num den : ℕ} (hn : num ≠ 0) (hd : den ≠ 0) :
    let guess : ℤ := (num.log2 : ℤ) - (den.log2 : ℤ) - 52
    2 ^ 51 * 2 ^ guess < (num : ℚ) / den ∧ (num : ℚ) / den < 2 ^ 53 * 2 ^ guess := by
  intro guess
  obtain ⟨hnum, hnum'⟩ := log2_bounds hn
  obtain ⟨hden, hden'⟩ := log2_bounds hd
  have hpos : (0 : ℚ) < den := by exact_mod_cast Nat.pos_of_ne_zero hd
  have hguess : ∀ k : ℤ, (2 : ℚ) ^ (52 + k) * 2 ^ guess * 2 ^ ((den.log2 : ℤ) - k) = 2 ^ (num.log2 : ℤ) := by
    intro k
    rw [← zpow_add₀ two_ne_zero, ← zpow_add₀ two_ne_zero]
    congr 1
    omega
  constructor
  · rw [lt_div_iff₀ hpos]
    calc (2 : ℚ) ^ 51 * 2 ^ guess * den < 2 ^ 51 * 2 ^ guess * 2 ^ ((den.log2 : ℤ) + 1) :=
          mul_lt_mul_of_pos_left hden' (mul_pos (by positivity) (zpow_two_pos _))
      _ = 2 ^ (num.log2 : ℤ) := by rw [← hguess (-1), sub_neg_eq_add]; norm_cast
      _ ≤ num := hnum
  · rw [div_lt_iff₀ hpos]
    calc (num : ℚ) < 2 ^ ((num.log2 : ℤ) + 1) := hnum'
      _ = 2 ^ 53 * 2 ^ guess * 2 ^ (den.log2 : ℤ) := by
        rw [zpow_add_one₀ two_ne_zero, ← hguess 0, sub_zero, add_zero]
        norm_cast
        ring
      _ ≤ 2 ^ 53 * 2 ^ guess * den :=
        mul_le_mul_of_nonneg_left hden (mul_pos (by positivity) (zpow_two_pos _)).le

theorem placed_exponentFor {num den : ℕ} (hn : num ≠ 0) (hd : den ≠ 0) :
    Placed (num / den) (exponentFor num den) := by
  obtain ⟨hlow, hhigh⟩ := guess_bounds hn hd
  rw [exponentFor]
  generalize (num.log2 : ℤ) - (den.log2 : ℤ) - 52 = guess at hlow hhigh ⊢
  obtain ⟨hb, hscale⟩ := scale_eq num hd guess
  generalize scale num den guess = ab at hb hscale
  obtain ⟨a, b⟩ := ab
  have hpos : (0 : ℚ) < b := by exact_mod_cast Nat.pos_of_ne_zero hb
  have hsucc : (2 : ℚ) ^ guess = 2 ^ (guess - 1) * 2 := by
    rw [← zpow_add_one₀ two_ne_zero, sub_add_cancel]
  -- the exponent, were there no smallest one
  have hfree : ∀ e : ℤ, (num : ℚ) / den < 2 ^ 53 * 2 ^ e → 2 ^ 52 * 2 ^ e ≤ (num : ℚ) / den →
      Placed (num / den) (max e minExponent) := by
    intro e hlt hge
    rcases le_total minExponent e with he | he
    · rw [max_eq_left he]
      exact ⟨he, hlt, .inl hge⟩
    · rw [max_eq_right he]
      have hmono : (2 : ℚ) ^ e ≤ 2 ^ minExponent := zpow_le_zpow_right₀ one_le_two he
      exact ⟨le_rfl, hlt.trans_le (mul_le_mul_of_nonneg_left hmono (by norm_num)), .inr rfl⟩
  have hfloor : a / b < twoTo 52 ↔ (num : ℚ) / den < 2 ^ 52 * 2 ^ guess := by
    rw [Nat.div_lt_iff_lt_mul (Nat.pos_of_ne_zero hb), twoTo_eq, ← div_lt_iff₀ (zpow_two_pos guess), ← hscale,
      div_lt_iff₀ hpos]
    norm_cast
  dsimp only
  split
  · rename_i h
    have hlt := hfloor.mp h
    refine hfree _ ?_ ?_
    · rw [hsucc] at hlt
      linarith
    · rw [hsucc] at hlow
      linarith
  · rename_i h
    exact hfree _ hhigh (not_lt.mp fun hlt => h (hfloor.mpr hlt))

/-! ## Rounding -/

section Rounding

variable {q : ℚ} {e : ℤ} {n : ℕ}

theorem Placed.le_twoTo (h : Placed q e) (hn : NearestNat (q / 2 ^ e) n) : n ≤ 2 ^ 53 := by
  have hx : q / 2 ^ e < 2 ^ 53 := (div_lt_iff₀ (zpow_two_pos e)).mpr h.lt
  have hhalf := (abs_le.mp hn.le_half).2
  have hlt : (n : ℚ) < 2 ^ 53 + 1 := by linarith
  have : n < 2 ^ 53 + 1 := by exact_mod_cast hlt
  omega

/-- The number nearest to `q` has the significand nearest to `q` at its exponent. -/
theorem Placed.nearest (h : Placed q e) (hq : 0 ≤ q) (hn : NearestNat (q / 2 ^ e) n) (hw : Representable (n * 2 ^ e))
    (heven : Even n → HasEvenSignificand (n * 2 ^ e)) : Nearest q (n * 2 ^ e) := by
  have hpos := zpow_two_pos e
  have hdist : ∀ k : ℚ, |k * 2 ^ e - q| = |k - q / 2 ^ e| * 2 ^ e := by
    intro k
    rw [← abs_of_pos hpos, ← abs_mul, abs_of_pos hpos, sub_mul, div_mul_cancel₀ q hpos.ne']
  -- a candidate of an exponent that is not smaller has a significand at this one; the others are farther than `2 ^ 52`
  have hother : ∀ v, Representable v → 0 ≤ v → (∃ k : ℕ, v = k * 2 ^ e) ∨ |n * 2 ^ e - q| < |v - q| := by
    rintro v ⟨m, f, hm, hf, -, hv⟩ hv0
    rw [abs_of_nonneg hv0] at hv
    rcases le_or_gt e f with hef | hef
    · obtain ⟨k, hk⟩ := Int.eq_ofNat_of_zero_le (show 0 ≤ f - e by omega)
      refine .inl ⟨m * 2 ^ k, ?_⟩
      obtain rfl : f = k + e := by omega
      rw [hv, zpow_add₀ two_ne_zero, zpow_natCast]
      push_cast
      ring
    · right
      have hge : 2 ^ 52 * 2 ^ e ≤ q := h.ge.resolve_right (by omega)
      have hlt : v < 2 ^ 52 * 2 ^ e := by
        have hm' : (m : ℚ) < 2 ^ 53 := by exact_mod_cast hm
        have hsucc : (2 : ℚ) ^ e = 2 ^ (e - 1) * 2 := by rw [← zpow_add_one₀ two_ne_zero, sub_add_cancel]
        have hfe : (2 : ℚ) ^ f ≤ 2 ^ (e - 1) := zpow_le_zpow_right₀ one_le_two (by omega)
        calc v = m * 2 ^ f := hv
          _ < 2 ^ 53 * 2 ^ f := mul_lt_mul_of_pos_right hm' (zpow_two_pos f)
          _ ≤ 2 ^ 53 * 2 ^ (e - 1) := mul_le_mul_of_nonneg_left hfe (by norm_num)
          _ = 2 ^ 52 * 2 ^ e := by rw [hsucc]; ring
      have hnear := (hn.le (2 ^ 52)).1
      calc |n * 2 ^ e - q| = |(n : ℚ) - q / 2 ^ e| * 2 ^ e := hdist n
        _ ≤ |((2 ^ 52 : ℕ) : ℚ) - q / 2 ^ e| * 2 ^ e := mul_le_mul_of_nonneg_right hnear hpos.le
        _ = |2 ^ 52 * 2 ^ e - q| := by rw [← hdist]; push_cast; rfl
        _ < |v - q| := by
          rw [abs_of_nonpos (by linarith), abs_of_nonpos (by linarith)]
          linarith
  refine nearest_of_nonneg hq hw (mul_nonneg (Nat.cast_nonneg n) hpos.le) (fun v hv hv0 => ?_)
    (fun v hv hv0 hne heq => ?_)
  · rcases hother v hv hv0 with ⟨k, rfl⟩ | hlt
    · rw [hdist, hdist]
      exact mul_le_mul_of_nonneg_right (hn.le k).1 hpos.le
    · exact hlt.le
  · rcases hother v hv hv0 with ⟨k, rfl⟩ | hlt
    · rw [hdist, hdist] at heq
      exact heven ((hn.le k).2 (fun hk => hne (by rw [hk])) (mul_right_cancel₀ hpos.ne' heq))
    · exact absurd heq hlt.ne'

/-- A number that is rounded up to an exponent above the largest one overflows, and only such a number. -/
theorem Placed.overflows_iff (h : Placed q e) (hn : NearestNat (q / 2 ^ e) n) :
    (maxExponent < e ∨ n = 2 ^ 53 ∧ maxExponent < e + 1) ↔ overflow ≤ q := by
  have hpos := zpow_two_pos e
  have hx : q = q / 2 ^ e * 2 ^ e := (div_mul_cancel₀ q hpos.ne').symm
  have hhalf := abs_le.mp hn.le_half
  rw [cast_overflow]
  rcases lt_trichotomy maxExponent e with he | he | he
  · refine iff_of_true (.inl he) ?_
    have hge : 2 ^ 52 * 2 ^ e ≤ q := h.ge.resolve_right (by rw [maxExponent] at he; rw [minExponent]; omega)
    have hmono : (2 : ℚ) ^ (maxExponent + 1) ≤ 2 ^ e := zpow_le_zpow_right₀ one_le_two he
    rw [zpow_add_one₀ two_ne_zero] at hmono
    have := zpow_two_pos maxExponent
    linarith
  · rw [he]
    have hiff : (2 ^ 53 - 1 / 2) * 2 ^ e ≤ q ↔ (2 ^ 53 - 1 / 2 : ℚ) ≤ q / 2 ^ e := (le_div_iff₀ hpos).symm
    rw [hiff]
    constructor
    · rintro (h' | ⟨rfl, -⟩)
      · exact absurd h' (lt_irrefl e)
      · push_cast at hhalf
        linarith
    · intro hge
      refine .inr ⟨?_, by omega⟩
      by_contra hne
      have hn53 : n + 1 ≤ 2 ^ 53 := by have := h.le_twoTo hn; omega
      have hn53' : (n : ℚ) + 1 ≤ 2 ^ 53 := by exact_mod_cast hn53
      -- it is half a unit off the odd significand in front of `2 ^ 53`
      have hq : q / 2 ^ e = n + 1 / 2 := by linarith
      have hn' : n + 1 = 2 ^ 53 := by
        have : (2 ^ 53 : ℚ) ≤ n + 1 := by linarith
        have : 2 ^ 53 ≤ n + 1 := by exact_mod_cast this
        omega
      have heven := hn.even (by rw [hq, sub_add_cancel_left, abs_neg, abs_of_pos (by norm_num)])
      rw [Nat.even_iff] at heven
      omega
  · refine iff_of_false (by omega) (not_le.mpr ?_)
    have hmono : (2 : ℚ) ^ (e + 1) ≤ 2 ^ maxExponent := zpow_le_zpow_right₀ one_le_two he
    rw [zpow_add_one₀ two_ne_zero] at hmono
    have := h.lt
    linarith

end Rounding

/-- The significand that a fraction is rounded to, and its exponent. -/
theorem ofRatio_eq (s : Bool) {num den : ℕ} (hn : num ≠ 0) (hd : den ≠ 0) :
    ∃ e n, Placed (num / den) e ∧ NearestNat (num / den / 2 ^ e) n ∧
      ofRatio s num den =
        if n = 2 ^ 53 then if maxExponent < e + 1 then .infinity s else .finite s (2 ^ 52) (e + 1)
        else if maxExponent < e then .infinity s else .finite s n e := by
  obtain ⟨hb, hscale⟩ := scale_eq num hd (exponentFor num den)
  refine ⟨exponentFor num den, nearest (scale num den (exponentFor num den)).1 (scale num den (exponentFor num den)).2,
    placed_exponentFor hn hd, ?_, ?_⟩
  · rw [← hscale]
    exact nearestNat_nearest hb
  · rw [ofRatio, if_neg hn]
    dsimp only
    rw [twoTo_eq, twoTo_eq]
    split <;> rfl

/-- A fraction that is not below the bound is rounded to an infinity. -/
theorem ofRatio_eq_infinity (s : Bool) {num den : ℕ} (hd : den ≠ 0) (h : (overflow : ℚ) ≤ num / den) :
    ofRatio s num den = .infinity s := by
  have hn : num ≠ 0 := by
    rintro rfl
    rw [Nat.cast_zero, zero_div, cast_overflow] at h
    have := zpow_two_pos maxExponent
    linarith
  obtain ⟨e, n, hplaced, hnear, heq⟩ := ofRatio_eq s hn hd
  rw [heq]
  have hover := (hplaced.overflows_iff hnear).mpr h
  split
  · rw [if_pos (by omega)]
  · rw [if_pos (by omega)]

/-- The other fractions are rounded to the nearest number. -/
theorem exists_ofRatio_eq_finite (s : Bool) {num den : ℕ} (hd : den ≠ 0) (h : (num : ℚ) / den < overflow) :
    ∃ m e, ofRatio s num den = .finite s m e ∧ m < 2 ^ 53 ∧ minExponent ≤ e ∧ e ≤ maxExponent ∧
      Nearest (num / den) (m * 2 ^ e) := by
  by_cases hn : num = 0
  · refine ⟨0, minExponent, by rw [ofRatio, if_pos hn, nought], by norm_num only, le_rfl, by decide, ?_⟩
    rw [hn, Nat.cast_zero, zero_div, zero_mul]
    refine ⟨⟨0, 0, by norm_num only, by decide, by decide, by norm_num⟩, fun v _ => ?_, fun v _ hne heq => ?_⟩
    · rw [sub_zero, abs_zero]
      exact abs_nonneg _
    · rw [sub_zero, sub_zero, abs_zero, abs_eq_zero] at heq
      exact absurd heq hne
  obtain ⟨e, n, hplaced, hnear, heq⟩ := ofRatio_eq s hn hd
  have hover := mt (hplaced.overflows_iff hnear).mp (not_le.mpr h)
  have hq : (0 : ℚ) ≤ num / den := by positivity
  have hle := hplaced.le_twoTo hnear
  have hleast := hplaced.least
  rw [heq]
  have habs : ∀ (m : ℕ) (f : ℤ), |(m : ℚ) * 2 ^ f| = m * 2 ^ f := fun m f =>
    abs_of_nonneg (mul_nonneg (Nat.cast_nonneg m) (zpow_two_pos f).le)
  split
  · rename_i hcarry
    have hsame : ((2 ^ 52 : ℕ) : ℚ) * 2 ^ (e + 1) = n * 2 ^ e := by
      rw [hcarry, zpow_add_one₀ two_ne_zero]
      push_cast
      ring
    rw [if_neg (by omega)]
    refine ⟨2 ^ 52, e + 1, rfl, by norm_num only, by omega, by omega, ?_⟩
    rw [hsame]
    refine hplaced.nearest hq hnear ⟨2 ^ 52, e + 1, by norm_num only, by omega, by omega, ?_⟩ fun _ =>
      ⟨2 ^ 52, e + 1, by decide, by norm_num only, .inl le_rfl, ?_⟩
    · rw [habs, hsame]
    · rw [habs, hsame]
  · rename_i hcarry
    rw [if_neg (by omega)]
    refine ⟨n, e, rfl, by omega, hleast, by omega, ?_⟩
    refine hplaced.nearest hq hnear ⟨n, e, by omega, hleast, by omega, habs n e⟩ fun heven =>
      ⟨n, e, heven, by omega, ?_, habs n e⟩
    refine hplaced.ge.imp_left fun hge => ?_
    have hge' : (2 ^ 52 : ℚ) ≤ num / den / 2 ^ e := (le_div_iff₀ (zpow_two_pos e)).mpr hge
    by_contra hlt
    have hlt' : (n : ℚ) + 1 ≤ 2 ^ 52 := by exact_mod_cast not_le.mp hlt
    have := (abs_le.mp hnear.le_half).1
    linarith

/-- A fraction that is representable stays as it is. -/
theorem exists_ofRatio_eq_self (s : Bool) {num den : ℕ} (hd : den ≠ 0) (h : Representable (num / den)) :
    ∃ m e, ofRatio s num den = .finite s m e ∧ (m : ℚ) * 2 ^ e = num / den := by
  have hq : (0 : ℚ) ≤ num / den := by positivity
  have hlt := h.abs_lt_overflow
  rw [abs_of_nonneg hq] at hlt
  obtain ⟨m, e, heq, -, -, -, hnear⟩ := exists_ofRatio_eq_finite s hd hlt
  exact ⟨m, e, heq, hnear.eq_of_representable h⟩

end HtmlTemplate.Double
