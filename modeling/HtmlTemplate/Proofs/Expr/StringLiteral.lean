import HtmlTemplate.Proofs.Expr.Language
import HtmlTemplate.Proofs.Expr.Lexing

/-!
# Strings stand for the texts that they write

A text is written between quotes with every character as it is, or as a backslash and its sign, or as `\u` and four
hexadecimal digits (`Quotes q s body`). However the ways are mixed, the lexer reads the string as one token whose value
is the text (`tokens_of_quotes`): where the string ends is settled by the quotes and the backslashes alone
(`Quotes.isBody`), and replacing the escapes gives the text back (`Quotes.unescape`).
-/

namespace HtmlTemplate.Expr

/-! ## The ways to write a text -/

/-- The signs that may follow a backslash, each with the character that it stands for. -/
def escapeSigns : List (CodePoint × CodePoint) :=
  [('n', '\n'), ('t', '\t'), ('r', '\r'), ('b', '\x08'), ('f', '\x0C'), ('v', '\x0B'), ('0', '\x00'), ('\\', '\\'),
    ('\x27', '\x27'), ('\x22', '\x22')]

/-- Four hexadecimal digits that write the code point of a character. -/
structure IsCode (digits : Text) (c : CodePoint) : Prop where
  length_eq : digits.length = 4
  value : hexNumber? digits = some c.toNat

/-- Between two quotes `q` the text `body` writes the text `s`. A quote `q` and a backslash are always escaped, and
whatever else has an escape may be. -/
inductive Quotes (q : CodePoint) : Text → Text → Prop
  | empty : Quotes q [] []
  | plain {c : CodePoint} {s body : Text} : c ≠ q → c ≠ '\\' → Quotes q s body → Quotes q (c :: s) (c :: body)
  | sign {sign c : CodePoint} {s body : Text} : (sign, c) ∈ escapeSigns → Quotes q s body →
      Quotes q (c :: s) ('\\' :: sign :: body)
  | code {c : CodePoint} {digits s body : Text} : IsCode digits c → Quotes q s body →
      Quotes q (c :: s) ('\\' :: 'u' :: (digits ++ body))

/-- The text as it stands between quotes `q` if only these and the backslashes are escaped. -/
def escapeQuotes (q : CodePoint) (s : Text) : Text :=
  s.flatMap fun c : CodePoint => if c = '\\' ∨ c = q then ['\\', c] else [c]

theorem mem_escapeSigns_of_isQuote {q : CodePoint} (h : IsQuote q) : (q, q) ∈ escapeSigns := by
  rcases h with rfl | rfl <;> decide

/-- The plain way to write a text is one of the ways. -/
theorem quotes_escapeQuotes {q : CodePoint} (hq : IsQuote q) (s : Text) : Quotes q s (escapeQuotes q s) := by
  induction s with
  | nil => exact .empty
  | cons c s ih =>
    rw [escapeQuotes, List.flatMap_cons]
    by_cases hc : c = '\\' ∨ c = q
    · rw [if_pos hc]
      refine .sign ?_ ih
      rcases hc with rfl | rfl
      · decide
      · exact mem_escapeSigns_of_isQuote hq
    · rw [if_neg hc]
      rw [not_or] at hc
      exact .plain hc.2 hc.1 ih

/-! ## Hexadecimal digits -/

theorem hexNumber?_four (a b c d : CodePoint) : hexNumber? [a, b, c, d] = hexCode? a b c d := by
  simp only [hexNumber?, hexCode?, List.foldlM_cons, List.foldlM_nil]
  cases hexValue? a <;> cases hexValue? b <;> cases hexValue? c <;> cases hexValue? d <;> simp [Nat.mul_comm]

theorem IsCode.exists_four {digits : Text} {x : CodePoint} (h : IsCode digits x) :
    ∃ a b c d, digits = [a, b, c, d] ∧ hexCode? a b c d = some x.toNat := by
  obtain ⟨hlength, hvalue⟩ := h
  obtain ⟨a, b, c, d, rfl⟩ : ∃ a b c d, digits = [a, b, c, d] := by
    match digits, hlength with
    | [a, b, c, d], _ => exact ⟨a, b, c, d, rfl⟩
  exact ⟨a, b, c, d, rfl, hexNumber?_four a b c d ▸ hvalue⟩

/-- A hexadecimal digit is no quote and no backslash. -/
theorem isSome_hexValue?_ne {c q : CodePoint} (hq : IsQuote q) (h : (hexValue? c).isSome = true) :
    c ≠ q ∧ c ≠ '\\' := by
  refine ⟨?_, ?_⟩
  · rintro rfl
    rcases hq with rfl | rfl <;> cases h
  · rintro rfl
    cases h

theorem isSome_hexValue?_of_hexCode? {a b c d : CodePoint} {n : Nat} (h : hexCode? a b c d = some n) :
    ∀ x ∈ [a, b, c, d], (hexValue? x).isSome = true := by
  simp only [hexCode?, Option.bind_eq_bind, Option.bind_eq_some_iff] at h
  obtain ⟨_, ha, _, hb, _, hc, _, hd, -⟩ := h
  simp [ha, hb, hc, hd]

theorem hexValue?_digitChar {n : Nat} (h : n < 16) : hexValue? (Nat.digitChar n) = some n := by
  have hall : ∀ n < 16, hexValue? (Nat.digitChar n) = some n := by decide
  exact hall n h

/-- Every character up to U+FFFF can be written by its code point. -/
theorem exists_isCode {c : CodePoint} (h : c.toNat ≤ 0xFFFF) : ∃ digits, IsCode digits c := by
  let n := c.toNat
  refine ⟨[Nat.digitChar (n / 4096), Nat.digitChar (n / 256 % 16), Nat.digitChar (n / 16 % 16), Nat.digitChar (n % 16)],
    rfl, ?_⟩
  rw [hexNumber?_four, hexCode?, hexValue?_digitChar (by omega), hexValue?_digitChar (by omega),
    hexValue?_digitChar (by omega), hexValue?_digitChar (by omega)]
  show some _ = some n
  congr 1
  omega

/-! ## Reading what is written -/

section Unescape

variable {c : CodePoint} {rest : Text}

theorem unescape_plain (h : c ≠ '\\') : unescape (c :: rest) = c :: unescape rest := by
  rw [unescape]
  exact fun _ _ heq => absurd heq h

theorem unescape_sign {sign : CodePoint} (h : (sign, c) ∈ escapeSigns) :
    unescape ('\\' :: sign :: rest) = c :: unescape rest := by
  have hu : ∀ entry ∈ escapeSigns, entry.1 ≠ 'u' ∧ escaped entry.1 = entry.2 := by decide
  obtain ⟨hne, hc⟩ := hu _ h
  have hcode : codeEscape? (sign :: rest) = none := by
    unfold codeEscape?
    split
    · next heq => exact absurd (List.cons.inj heq).1 hne
    · rfl
  rw [unescape, hcode]
  exact congrArg (· :: unescape rest) hc

theorem unescape_code {digits : Text} (h : IsCode digits c) :
    unescape ('\\' :: 'u' :: (digits ++ rest)) = c :: unescape rest := by
  obtain ⟨w, x, y, z, rfl, hcode⟩ := h.exists_four
  have hescape : codeEscape? ('u' :: ([w, x, y, z] ++ rest)) = some c := by
    show (hexCode? w x y z).map CodePoint.ofNat = some c
    rw [hcode, Option.map_some, CodePoint.ofNat_toNat]
  rw [unescape, hescape]
  rfl

end Unescape

namespace Quotes

variable {q : CodePoint} {s body : Text}

/-- Replacing the escapes undoes the writing. -/
theorem unescape (h : Quotes q s body) : unescape body = s := by
  induction h with
  | empty => rw [Expr.unescape]
  | plain _ hplain _ ih => rw [unescape_plain hplain, ih]
  | sign hsign _ ih => rw [unescape_sign hsign, ih]
  | code hcode _ ih => rw [unescape_code hcode, ih]

/-- A text that is written between quotes does not close them. -/
theorem isBody (hq : IsQuote q) (h : Quotes q s body) : IsBody q body := by
  induction h with
  | empty => exact .empty
  | plain hne hplain _ ih => exact .char hne hplain ih
  | sign _ _ ih => exact .escape ih
  | @code c digits s body hcode _ ih =>
    obtain ⟨w, x, y, z, rfl, hvalue⟩ := hcode.exists_four
    have digit : ∀ d ∈ [w, x, y, z], ∀ {behind}, IsBody q behind → IsBody q (d :: behind) := fun d hd _ hbehind => by
      obtain ⟨hne, hplain⟩ := isSome_hexValue?_ne hq (isSome_hexValue?_of_hexCode? hvalue d hd)
      exact .char hne hplain hbehind
    exact .escape (digit w (by simp) (digit x (by simp) (digit y (by simp) (digit z (by simp) ih))))

end Quotes

/-- A string that goes to the end of the text is its only token. -/
theorem tokens_of_isBody {q : CodePoint} {body : Text} (hq : IsQuote q) (h : IsBody q body) :
    tokens (q :: (body ++ [q])) = .ok [⟨.string (unescape body), 0⟩] := by
  obtain ⟨back, hback, hlongest⟩ := longest_string hq (quotedBody_of_isBody hq.ne_backslash h [])
  obtain rfl : back = [] := by simpa using hback
  have hread : tokensFrom 0 _ = _ := tokensFrom_longest hlongest
  rw [List.append_nil, tokensFrom_nil] at hread
  exact hread

theorem parse_of_string {s text : Text} (h : tokens text = .ok [⟨.string s, 0⟩]) :
    parse text = .ok (.literal (.string s)) := by
  rw [parse_of_tokens h]
  rfl

/-- **A string stands for the text that it writes.** Between quotes of either kind, a text whose quotes and backslashes
are escaped is read as one token with the text as its value, up to the end, and so is every other way to write the text:
characters may stand behind a backslash by their signs, and all up to U+FFFF, which have the digits for it, by their
code points. -/
theorem tokens_of_quotes {q : CodePoint} (hq : IsQuote q) :
    (∀ s, tokens (q :: (escapeQuotes q s ++ [q])) = .ok [⟨.string s, 0⟩]) ∧
    (∀ s body, Quotes q s body → tokens (q :: (body ++ [q])) = .ok [⟨.string s, 0⟩] ∧
      parse (q :: (body ++ [q])) = .ok (.literal (.string s))) ∧
    ∀ c : CodePoint, c.toNat ≤ 0xFFFF → ∃ digits, IsCode digits c := by
  have hread : ∀ {s body}, Quotes q s body → tokens (q :: (body ++ [q])) = .ok [⟨.string s, 0⟩] := fun h => by
    rw [tokens_of_isBody hq (h.isBody hq), h.unescape]
  exact ⟨fun s => hread (quotes_escapeQuotes hq s), fun s body h => ⟨hread h, parse_of_string (hread h)⟩,
    fun _ => exists_isCode⟩

/-- A text with a backslash and a `u` behind it, a line end, a quote and a letter beyond ASCII. -/
def mixedText : Text := ['\\', 'u', '\n', '\x22', 'é']

/-- A way to write `mixedText`, with `\n` by its sign and the letter by its code point. -/
def mixedBody : Text := ['\\', '\\', 'u', '\\', 'n', '\\', '\x22', '\\', 'u', '0', '0', 'E', '9']

theorem tokens_of_quotes_mixed :
    IsQuote '\x22' ∧ Quotes '\x22' mixedText mixedBody ∧
      tokens ('\x22' :: (mixedBody ++ (['\x22'] : Text))) = .ok [⟨.string mixedText, 0⟩] ∧
      parse ('\x22' :: (mixedBody ++ (['\x22'] : Text))) = .ok (.literal (.string mixedText)) ∧
      tokens "\x22\\\\u\n\\\x22é\x22".text = .ok [⟨.string mixedText, 0⟩] ∧
      ('é' : CodePoint).toNat ≤ 0xFFFF ∧ ∃ digits, IsCode digits 'é' := by
  have hq : IsQuote '\x22' := .inl rfl
  have hdigits : IsCode ['0', '0', 'E', '9'] 'é' := ⟨rfl, by decide⟩
  have hletter : Quotes '\x22' ['é'] ['\\', 'u', '0', '0', 'E', '9'] := .code hdigits .empty
  have hquotes : Quotes '\x22' mixedText mixedBody :=
    .sign (by decide) (.plain (by decide) (by decide) (.sign (by decide) (.sign (by decide) hletter)))
  have hcode : 'é'.toNat ≤ 0xFFFF := by decide
  obtain ⟨hplain, hall, hcodes⟩ := tokens_of_quotes hq
  exact ⟨hq, hquotes, (hall _ _ hquotes).1, (hall _ _ hquotes).2, hplain mixedText, hcode, hcodes 'é' hcode⟩

end HtmlTemplate.Expr
