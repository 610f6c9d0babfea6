import HtmlTemplate.Proofs.Expr.Language
import Mathlib.Data.List.TakeWhile
/-!
# Integers of too many digits

A text of figures is one numeral, and it is no expression if it has more figures than an integer is read with
(`parse_of_long_figures`). The reader goes down the levels of the grammar to the numeral, and each of them passes the
failure on.
-/

namespace HtmlTemplate

/-- A figure is a digit, and neither a blank nor a part of a numeral that is none. -/
theorem isFigure_cases {c : CodePoint} (h : isFigure c = true) :
    isDigit c = true ∧ isBlank c = false ∧ (c = '.' || c = 'e' || c = 'E') = false := by
  have hlow : 48 ≤ c.toNat ∧ c.toNat ≤ 57 := by
    simpa [isFigure, CodePoint.le_def] using h
  have hall : ∀ n ∈ List.range 10,
      isDigit (CodePoint.ofNat (48 + n)) = true ∧ isBlank (CodePoint.ofNat (48 + n)) = false ∧
      (CodePoint.ofNat (48 + n) = '.' || CodePoint.ofNat (48 + n) = 'e' || CodePoint.ofNat (48 + n) = 'E') = false := by
    decide
  have hc := hall (c.toNat - 48) (List.mem_range.mpr (by omega))
  rwa [show 48 + (c.toNat - 48) = c.toNat by omega, CodePoint.ofNat_toNat] at hc

namespace Expr

/-! ## A text of figures -/

theorem numeral_of_digits {s : Text} (h : ∀ c ∈ s, isDigit c = true) : numeral s = s := by
  have hwhole : s.takeWhile isDigit = s := List.takeWhile_eq_self_iff.mpr h
  unfold numeral
  simp only [hwhole, List.drop_length]
  cases s with
  | nil => rfl
  | cons c rest => simp [fractionPart, exponentPart]

theorem tokens_of_figures {c : CodePoint} {rest : Text} (h : ∀ d ∈ c :: rest, isFigure d = true) :
    tokens (c :: rest) = .ok [⟨.number (c :: rest), 0⟩] := by
  have hblank := (isFigure_cases (h c List.mem_cons_self)).2.1
  have hscan : scan c rest = some ⟨some (.number (c :: rest)), rest.length⟩ := by
    unfold scan
    rw [hblank, numeral_of_digits fun d hd => (isFigure_cases (h d hd)).1]
    rfl
  rw [tokens, tokensFrom, hscan]
  simp [tokensFrom]

/-! ## A numeral without a value -/

section

variable {text : Text} {e : NumeralTooLong} (h : numeralValue text = .error e) (place : Nat) (rest : Parser.Tokens)

include h

theorem unary_of_long_numeral (n : Nat) :
    Parser.unary (n + 3) (⟨.number text, place⟩ :: rest) = .error (.numeralTooLong e.digits) := by
  have hprimary : Parser.primary (n + 1) (⟨.number text, place⟩ :: rest) = .error (.numeralTooLong e.digits) := by
    simp [Parser.primary, h]
  have haccess : Parser.access (n + 2) (⟨.number text, place⟩ :: rest) = .error (.numeralTooLong e.digits) := by
    rw [Parser.access, hprimary]
    rfl
  simpa [Parser.unary, unary?] using haccess

theorem binary_of_long_numeral (n : Nat) :
    Parser.binary (n + 17) .orElse (⟨.number text, place⟩ :: rest) = .error (.numeralTooLong e.digits) := by
  have fails {l : Level} {k : Nat} {x : TokenError}
      (hx : Parser.operand k l (⟨.number text, place⟩ :: rest) = .error x) :
      Parser.binary (k + 1) l (⟨.number text, place⟩ :: rest) = .error x := by
    rw [Parser.binary, hx]
    rfl
  -- each level reads its first operand before it looks for a sign
  have product := fails (l := .product) (k := n + 4) (unary_of_long_numeral h place rest n)
  have sum := fails (l := .sum) (k := n + 6) product
  have relation := fails (l := .relation) (k := n + 8) sum
  have equality := fails (l := .equality) (k := n + 10) relation
  have both := fails (l := .both) (k := n + 12) equality
  have either := fails (l := .either) (k := n + 14) both
  exact fails (l := .orElse) (k := n + 16) either

end

theorem ofTokens_of_long_numeral {text : Text} {e : NumeralTooLong} (h : numeralValue text = .error e)
    (place : Nat) :
    ofTokens [⟨.number text, place⟩] = .error (.numeralTooLong e.digits) := by
  have hread : Parser.expression (stepsFor 1) [⟨.number text, place⟩] = .error (.numeralTooLong e.digits) := by
    rw [stepsFor, Parser.expression, binary_of_long_numeral h]
    rfl
  rw [ofTokens]
  · rw [List.length_singleton, hread]
    rfl
  · simp

/-- A text of too many figures is no expression. -/
theorem parse_of_long_figures {text : Text} (h : ∀ c ∈ text, isFigure c = true)
    (hlong : maxIntegerDigits < text.length) :
    parse text = .error (.numeralTooLong text.length) := by
  cases text with
  | nil => cases hlong
  | cons c rest =>
    have hdecimal : isDecimal (c :: rest) = false :=
      List.any_eq_false.mpr fun d hd => by simp [(isFigure_cases (h d hd)).2.2]
    have hvalue : numeralValue (c :: rest) = .error ⟨(c :: rest).length⟩ := by
      rw [numeralValue, hdecimal, if_neg Bool.false_ne_true, if_pos hlong]
    rw [parse, tokens_of_figures h]
    simp only [ofTokens_of_long_numeral hvalue]

end Expr
end HtmlTemplate
