import HtmlTemplate.Expr.Operation
import HtmlTemplate.Proofs.Number.Rounding

/-!
# Remainders of integers

The operator `%` takes two integers to double precision, and the remainder there is exact (`remainder?_eq`). So it is the
truncated remainder of the two numbers of double precision nearest to the integers (`mod_integers`), which is that of
the integers themselves if they are representable, but not in general (`remainder_of_rounded`). An integer that
overflows has no remainder.
-/

namespace HtmlTemplate

/-- Whether `r` is the remainder of the division of `a` by `b` that rounds toward nought. -/
structure IsRemainder (a b r : ℤ) : Prop where
  quotient : ∃ q, a = b * q + r
  lt : |r| < |b|
  sign : r = 0 ∨ r.sign = a.sign

theorem isRemainder_tmod (a : ℤ) {b : ℤ} (hb : b ≠ 0) : IsRemainder a b (a.tmod b) := by
  refine ⟨⟨a.tdiv b, (Int.mul_tdiv_add_tmod a b).symm⟩, ?_, ?_⟩
  · rw [Int.abs_eq_natAbs, Int.abs_eq_natAbs, Int.natAbs_tmod]
    exact_mod_cast Nat.mod_lt _ (Int.natAbs_pos.mpr hb)
  · by_cases h : a.tmod b = 0
    · exact .inl h
    · right
      rcases lt_trichotomy a 0 with ha | rfl | ha
      · have hle := Int.tmod_nonneg (a := -a) b (by omega)
        rw [Int.neg_tmod] at hle
        rw [Int.sign_eq_neg_one_of_neg ha, Int.sign_eq_neg_one_of_neg (by omega)]
      · exact absurd (Int.zero_tmod b) h
      · have hle := Int.tmod_nonneg b ha.le
        rw [Int.sign_eq_one_of_pos ha, Int.sign_eq_one_of_pos (by omega)]

namespace Double

/-- The integer of a sign and a magnitude. -/
def signed (negative : Bool) (k : ℕ) : ℤ := if negative then -k else k

theorem natAbs_signed (s : Bool) (k : ℕ) : (signed s k).natAbs = k := by
  cases s
  · exact Int.natAbs_natCast k
  · exact Int.natAbs_neg k

theorem signed_tmod (s t : Bool) (k l : ℕ) : (signed s k).tmod (signed t l) = signed s (k % l) := by
  have h : (k : ℤ).tmod l = (k % l : ℕ) := (Int.ofNat_tmod k l).symm
  cases s <;> cases t <;> simp only [signed, if_true, Bool.false_eq_true, if_false, Int.neg_tmod, Int.tmod_neg, h]

/-- A number that stands for an integer is read as that integer. -/
theorem toInt?_finite (s : Bool) {m k : ℕ} {e : ℤ} (h : (m : ℚ) * 2 ^ e = k) :
    (Double.finite s m e).toInt? = some (signed s k) := by
  obtain ⟨hb, hscale⟩ := scale_eq m one_ne_zero (-e)
  rw [Nat.cast_one, div_one, zpow_neg, div_inv_eq_mul, h] at hscale
  rw [toInt?, ratio?]
  generalize scale m 1 (-e) = ab at hb hscale
  obtain ⟨a, b⟩ := ab
  have hb' : (b : ℚ) ≠ 0 := by exact_mod_cast hb
  obtain rfl : a = k * b := by
    rw [div_eq_iff hb'] at hscale
    exact_mod_cast hscale
  have hsigned : (if s = true then -((k * b : ℕ) : ℤ) else ((k * b : ℕ) : ℤ)) = signed s k * b := by
    cases s <;> simp [signed]
  simp only [hsigned, Int.mul_emod_left, if_true]
  rw [Int.mul_ediv_cancel _ (by exact_mod_cast hb)]

/-! ## Integers in double precision -/

/-- An integer that does not overflow becomes the nearest whole number of its sign. -/
theorem exists_ofInt_eq_finite {n : ℤ} (h : n.natAbs < overflow) :
    ∃ (k m : ℕ) (e : ℤ), ofInt n = .finite (decide (n < 0)) m e ∧ m < 2 ^ 53 ∧ minExponent ≤ e ∧ e ≤ maxExponent ∧
      (m : ℚ) * 2 ^ e = k ∧ Nearest n (signed (decide (n < 0)) k) := by
  have hq : (n.natAbs : ℚ) / (1 : ℕ) = n.natAbs := by rw [Nat.cast_one, div_one]
  obtain ⟨m, e, heq, hm, he, he', hnear⟩ := exists_ofRatio_eq_finite (decide (n < 0)) one_ne_zero
    (show (n.natAbs : ℚ) / (1 : ℕ) < overflow by rw [hq]; exact_mod_cast h)
  rw [hq] at hnear
  -- what is rounded at all has no places behind the point
  obtain ⟨k, hk⟩ : ∃ k : ℕ, (m : ℚ) * 2 ^ e = k := by
    rcases lt_or_ge n.natAbs (2 ^ 53) with hlt | hge
    · refine ⟨n.natAbs, hnear.eq_of_representable ?_⟩
      have := representable_intCast (n := n.natAbs) (by rwa [Int.natAbs_natCast])
      rwa [Int.cast_natCast] at this
    · have hge' : (2 : ℚ) ^ 53 ≤ n.natAbs := by exact_mod_cast hge
      have hlarge : (2 : ℚ) ^ 53 ≤ m * 2 ^ e := by
        by_contra hlt
        have hle := hnear.le _ representable_twoTo
        rw [not_le] at hlt
        rw [abs_of_neg (by linarith), abs_of_nonpos (by linarith)] at hle
        linarith
      have hpos : 0 < e := by
        by_contra hneg
        have hone : (2 : ℚ) ^ e ≤ 1 := zpow_le_one_of_nonpos₀ one_le_two (by omega)
        have hm' : (m : ℚ) < 2 ^ 53 := by exact_mod_cast hm
        have := mul_le_mul_of_nonneg_left hone (Nat.cast_nonneg (α := ℚ) m)
        linarith
      obtain ⟨i, rfl⟩ := Int.eq_ofNat_of_zero_le hpos.le
      exact ⟨m * 2 ^ i, by rw [zpow_natCast]; push_cast; rfl⟩
  refine ⟨k, m, e, heq, hm, he, he', hk, ?_⟩
  rw [hk] at hnear
  rcases lt_or_ge n 0 with hneg | hpos
  · have hn : (n : ℚ) = -n.natAbs := by
      rw [Nat.cast_natAbs, abs_of_neg hneg, Int.cast_neg, neg_neg]
    rw [decide_eq_true hneg, signed, if_pos rfl, hn]
    push_cast
    exact hnear.neg
  · have hn : (n : ℚ) = n.natAbs := by rw [Nat.cast_natAbs, abs_of_nonneg hpos]
    rw [decide_eq_false (not_lt.mpr hpos), signed, if_neg Bool.false_ne_true, hn]
    exact hnear

theorem ofInt_eq_infinity {n : ℤ} (h : overflow ≤ n.natAbs) : ofInt n = .infinity (decide (n < 0)) :=
  ofRatio_eq_infinity _ one_ne_zero (by rw [Nat.cast_one, div_one]; exact_mod_cast h)

/-- An integer other than nought does not become nought. -/
theorem Nearest.ne_zero {n x : ℤ} (h : Nearest n x) (hn : n ≠ 0) : x ≠ 0 := by
  rintro rfl
  have hone : Representable n.sign := by
    refine representable_intCast ?_
    rw [Int.natAbs_sign_of_ne_zero hn]
    norm_num only
  have hle := h.le _ hone
  rw [← Int.cast_sub, ← Int.cast_sub, ← Int.cast_abs, ← Int.cast_abs, Int.cast_le, Int.abs_eq_natAbs,
    Int.abs_eq_natAbs] at hle
  rcases lt_trichotomy n 0 with hlt | h0 | hgt
  · rw [Int.sign_eq_neg_one_of_neg hlt] at hle
    omega
  · exact hn h0
  · rw [Int.sign_eq_one_of_pos hgt] at hle
    omega

/-! ## The remainder in double precision -/

/-- Remainders are taken of significands at one exponent. -/
theorem mod_mul_zpow {m n k l : ℕ} {e : ℤ} (hm : (m : ℚ) * 2 ^ e = k) (hn : (n : ℚ) * 2 ^ e = l) :
    ((m % n : ℕ) : ℚ) * 2 ^ e = (k % l : ℕ) := by
  rcases le_total 0 e with he | he
  · obtain ⟨i, rfl⟩ := Int.eq_ofNat_of_zero_le he
    rw [zpow_natCast] at hm hn ⊢
    obtain rfl : k = m * 2 ^ i := by exact_mod_cast hm.symm
    obtain rfl : l = n * 2 ^ i := by exact_mod_cast hn.symm
    rw [Nat.mul_mod_mul_right]
    push_cast
    rfl
  · obtain ⟨i, hi⟩ := Int.eq_ofNat_of_zero_le (show 0 ≤ -e by omega)
    obtain rfl : e = -(i : ℤ) := by omega
    have hpos : (2 : ℚ) ^ i ≠ 0 := by positivity
    rw [zpow_neg, zpow_natCast, mul_inv_eq_iff_eq_mul₀ hpos] at hm hn ⊢
    obtain rfl : m = k * 2 ^ i := by exact_mod_cast hm
    obtain rfl : n = l * 2 ^ i := by exact_mod_cast hn
    rw [Nat.mul_mod_mul_right]
    push_cast
    rfl

/-- A significand at a lower exponent. -/
theorem shiftLeft_mul_zpow (m : ℕ) {e low : ℤ} (h : low ≤ e) :
    ((m <<< (e - low).toNat : ℕ) : ℚ) * 2 ^ low = m * 2 ^ e := by
  obtain ⟨i, hi⟩ := Int.eq_ofNat_of_zero_le (show 0 ≤ e - low by omega)
  obtain rfl : e = i + low := by omega
  rw [add_sub_cancel_right, Int.toNat_natCast, Nat.shiftLeft_eq, zpow_add₀ two_ne_zero, zpow_natCast]
  push_cast
  ring

/-- The remainder of whole numbers is exact. -/
theorem remainder?_eq (s t : Bool) {m n k l : ℕ} {e f : ℤ} (hm : m < 2 ^ 53) (hn : n < 2 ^ 53)
    (he : minExponent ≤ e ∧ e ≤ maxExponent) (hf : minExponent ≤ f ∧ f ≤ maxExponent) (hk : (m : ℚ) * 2 ^ e = k)
    (hl : (n : ℚ) * 2 ^ f = l) (hl0 : l ≠ 0) :
    ∃ m' e', (Double.finite s m e).remainder? (.finite t n f) = some (.finite s m' e') ∧
      (m' : ℚ) * 2 ^ e' = (k % l : ℕ) := by
  have hn0 : n ≠ 0 := by
    rintro rfl
    rw [Nat.cast_zero, zero_mul] at hl
    exact hl0 (by exact_mod_cast hl.symm)
  rw [remainder?, if_neg hn0]
  dsimp only
  generalize hlow : min e f = low
  have hlow_e : low ≤ e := hlow ▸ min_le_left e f
  have hlow_f : low ≤ f := hlow ▸ min_le_right e f
  have hM := (shiftLeft_mul_zpow m hlow_e).trans hk
  have hN := (shiftLeft_mul_zpow n hlow_f).trans hl
  -- one of the two stands at the lower exponent as it is, so the remainder has not more than 53 binary digits
  have hsmall : m <<< (e - low).toNat % n <<< (f - low).toNat < 2 ^ 53 := by
    rcases min_choice e f with h | h
    · rw [← hlow, h, sub_self, Int.toNat_zero, Nat.shiftLeft_zero]
      exact (Nat.mod_le _ _).trans_lt hm
    · rw [← hlow, h, sub_self, Int.toNat_zero, Nat.shiftLeft_zero]
      exact (Nat.mod_lt _ (Nat.pos_of_ne_zero hn0)).trans hn
  have hvalue := mod_mul_zpow hM hN
  generalize m <<< (e - low).toNat % n <<< (f - low).toNat = r at hsmall hvalue
  obtain ⟨hb, hscale⟩ := scale_eq r one_ne_zero (-low)
  rw [Nat.cast_one, div_one, zpow_neg, div_inv_eq_mul] at hscale
  obtain ⟨m', e', heq, hsame⟩ := exists_ofRatio_eq_self s hb
    (show Representable ((scale r 1 (-low)).1 / (scale r 1 (-low)).2) by
      rw [hscale]
      refine ⟨r, low, hsmall, by omega, by omega, abs_of_nonneg ?_⟩
      exact mul_nonneg (Nat.cast_nonneg r) (zpow_two_pos low).le)
  exact ⟨m', e', by rw [heq], by rw [hsame, hscale, hvalue]⟩

end Double

/-! ## The operator -/

namespace Number

open Double (Nearest overflow signed)

theorem toDouble_int_of_overflow {n : ℤ} (h : overflow ≤ n.natAbs) :
    (Number.int n).toDouble = .error .integerTooLarge := by
  rw [toDouble, Double.ofInt_eq_infinity h]

theorem toDouble_int {n : ℤ} {s : Bool} {m : ℕ} {e : ℤ} (h : Double.ofInt n = .finite s m e) :
    (Number.int n).toDouble = .ok (.finite s m e) := by
  rw [toDouble, h]

theorem isZero_int {n : ℤ} (h : n ≠ 0) : (Number.int n).isZero = false := by
  rw [isZero, beq_eq_false_iff_ne]
  exact h

/-- The remainder of two integers is that of the nearest whole numbers of double precision. -/
theorem exists_mod_int {a b : ℤ} (hb : b ≠ 0) (ha' : a.natAbs < overflow) (hb' : b.natAbs < overflow) :
    ∃ x y : ℤ, Nearest a x ∧ Nearest b y ∧ mod (.int a) (.int b) = .ok (.int (x.tmod y)) := by
  obtain ⟨k, m, e, hx, hm, he, he', hk, hnear⟩ := Double.exists_ofInt_eq_finite ha'
  obtain ⟨l, n, f, hy, hn, hf, hf', hl, hnear'⟩ := Double.exists_ofInt_eq_finite hb'
  refine ⟨_, _, hnear, hnear', ?_⟩
  have hl0 : l ≠ 0 := by
    rw [← Double.natAbs_signed (decide (b < 0)) l, Int.natAbs_ne_zero]
    exact hnear'.ne_zero hb
  obtain ⟨m', e', hrem, hr⟩ :=
    Double.remainder?_eq (decide (a < 0)) (decide (b < 0)) hm hn ⟨he, he'⟩ ⟨hf, hf'⟩ hk hl hl0
  rw [mod, isZero_int hb, if_neg Bool.false_ne_true, toDouble_int hx, toDouble_int hy]
  simp only [bind, Except.bind, hrem, Double.toInt?_finite _ hr, Option.getD_some, Double.signed_tmod]
  rfl

/-- There is no remainder if one of two integers overflows. -/
theorem mod_int_of_overflow {a b : ℤ} (hb : b ≠ 0) (h : overflow ≤ a.natAbs ∨ overflow ≤ b.natAbs) :
    mod (.int a) (.int b) = .error .integerTooLarge := by
  rw [mod, isZero_int hb, if_neg Bool.false_ne_true]
  rcases lt_or_ge a.natAbs overflow with ha | ha
  · obtain ⟨k, m, e, hx, -⟩ := Double.exists_ofInt_eq_finite ha
    rw [toDouble_int hx, toDouble_int_of_overflow (h.resolve_left (not_le.mpr ha))]
    rfl
  · rw [toDouble_int_of_overflow ha]
    rfl

end Number

namespace Expr

open Double (Nearest Representable overflow)

/-- **Remainders of integers.** The operator `%` gives the truncated remainder of the numbers of double precision
nearest to two integers, and fails if one of these overflows. So it gives the truncated remainder of the integers
themselves if they are numbers of double precision, as all below `2 ^ 53` are. -/
theorem mod_integers (a b : ℤ) (hb : b ≠ 0) :
    (overflow ≤ a.natAbs ∨ overflow ≤ b.natAbs →
      BinaryOp.mod.apply (.ofInt a) (.ofInt b) = .error (.number .integerTooLarge)) ∧
    (a.natAbs < overflow → b.natAbs < overflow →
      ∃ x y r : ℤ, Nearest a x ∧ Nearest b y ∧ IsRemainder x y r ∧
        BinaryOp.mod.apply (.ofInt a) (.ofInt b) = .ok (.ofInt r)) ∧
    (Representable a → Representable b →
      ∃ r : ℤ, IsRemainder a b r ∧ BinaryOp.mod.apply (.ofInt a) (.ofInt b) = .ok (.ofInt r)) := by
  have happly : BinaryOp.mod.apply (.ofInt a) (.ofInt b) = arithmetic .mod Number.mod (.ofInt a) (.ofInt b) := rfl
  have hrounded : a.natAbs < overflow → b.natAbs < overflow →
      ∃ x y r : ℤ, Nearest a x ∧ Nearest b y ∧ IsRemainder x y r ∧
        BinaryOp.mod.apply (.ofInt a) (.ofInt b) = .ok (.ofInt r) := by
    intro ha' hb'
    obtain ⟨x, y, hx, hy, hmod⟩ := Number.exists_mod_int hb ha' hb'
    refine ⟨x, y, x.tmod y, hx, hy, isRemainder_tmod x (hy.ne_zero hb), ?_⟩
    rw [happly, arithmetic]
    simp only [Value.ofInt, Value.number?, hmod]
  refine ⟨fun h => ?_, hrounded, fun ha hb' => ?_⟩
  · rw [happly, arithmetic]
    simp only [Value.ofInt, Value.number?, Number.mod_int_of_overflow hb h]
  · have hlt : ∀ {n : ℤ}, Representable n → n.natAbs < overflow := by
      intro n hn
      have h := hn.abs_lt_overflow
      rw [← Int.cast_abs, Int.abs_eq_natAbs] at h
      exact_mod_cast h
    obtain ⟨x, y, r, hx, hy, hr, hok⟩ := hrounded (hlt ha) (hlt hb')
    obtain rfl : x = a := by exact_mod_cast hx.eq_of_representable ha
    obtain rfl : y = b := by exact_mod_cast hy.eq_of_representable hb'
    exact ⟨r, hr, hok⟩

theorem mod_integers_samples :
    (3 : ℤ) ≠ 0 ∧ Representable (-7 : ℤ) ∧ Representable (3 : ℤ) ∧ overflow ≤ (10 ^ 309 : ℤ).natAbs ∧
      (2 ^ 64 - 1 : ℤ).natAbs < overflow ∧ (3 : ℤ).natAbs < overflow ∧
      (∃ r : ℤ, IsRemainder (-7) 3 r ∧ BinaryOp.mod.apply (.ofInt (-7)) (.ofInt 3) = .ok (.ofInt r)) ∧
      BinaryOp.mod.apply (.ofInt (10 ^ 309)) (.ofInt 3) = .error (.number .integerTooLarge) ∧
      ∃ x y r : ℤ, Nearest (2 ^ 64 - 1 : ℤ) x ∧ Nearest (3 : ℤ) y ∧ IsRemainder x y r ∧
        BinaryOp.mod.apply (.ofInt (2 ^ 64 - 1)) (.ofInt 3) = .ok (.ofInt r) := by
  have h3 : (3 : ℤ) ≠ 0 := by decide
  have hseven : Representable (-7 : ℤ) := Double.representable_intCast (by decide)
  have hthree : Representable (3 : ℤ) := Double.representable_intCast (by decide)
  have hlarge : overflow ≤ (10 ^ 309 : ℤ).natAbs := by decide +kernel
  have hmiddle : (2 ^ 64 - 1 : ℤ).natAbs < overflow := by decide +kernel
  have hsmall : (3 : ℤ).natAbs < overflow := by decide +kernel
  exact ⟨h3, hseven, hthree, hlarge, hmiddle, hsmall, (mod_integers (-7) 3 h3).2.2 hseven hthree,
    (mod_integers (10 ^ 309) 3 h3).1 (.inl hlarge), (mod_integers (2 ^ 64 - 1) 3 h3).2.1 hmiddle hsmall⟩

/-- An odd integer of 54 binary digits is even once it is rounded, and one of a thousand digits has no remainder. -/
theorem remainder_of_rounded :
    BinaryOp.mod.apply (.ofInt (2 ^ 53 + 1)) (.ofInt 2) = .ok (.ofInt 0) ∧ ¬ IsRemainder (2 ^ 53 + 1) 2 0 ∧
      BinaryOp.mod.apply (.ofInt 3) (.ofInt (10 ^ 1000)) = .error (.number .integerTooLarge) := by
  have hodd : Number.mod (.int (2 ^ 53 + 1)) (.int 2) = .ok (.int 0) := by decide +kernel
  have hlarge : Number.mod (.int 3) (.int (10 ^ 1000)) = .error .integerTooLarge := by decide +kernel
  refine ⟨?_, ?_, ?_⟩
  · simp only [BinaryOp.apply, arithmetic, Value.ofInt, Value.number?, hodd]
  · rintro ⟨⟨q, hq⟩, -, -⟩
    omega
  · simp only [BinaryOp.apply, arithmetic, Value.ofInt, Value.number?, hlarge]

end Expr

end HtmlTemplate
