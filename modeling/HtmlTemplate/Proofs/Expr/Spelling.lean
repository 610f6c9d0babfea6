import HtmlTemplate.Expr.Lexer
import HtmlTemplate.Proofs.Text.Normal

/-!
# How tokens are written

The spellings of numerals, strings, names, signs and marks, each by a rule of its own: `Spells s t` says that the text
`s` is written for the token `t`. Nothing in this module mentions the scanner.

What the scanner relies on: the first character of a spelling tells the kind of the token, but for a lone point
(`Spells.kind_eq`); a text is written for one token at most (`Spells.unique`); the quotes of a string are closed in one
place only (`IsBody.unique`), and no other token has a blank in it (`Spells.not_isBlank`). So the longest spelling at
the front of a text stays the longest one whatever stands behind a blank (`Longest.of_blank`).
-/

namespace HtmlTemplate.Expr

/-! ## The rules -/

/-- A point and one or more digits, or nothing. -/
inductive IsFraction : Text → Prop
  | missing : IsFraction []
  | point {digits : Text} : digits ≠ [] → (∀ c ∈ digits, isDigit c = true) → IsFraction ('.' :: digits)

/-- The letter of an exponent, a sign if there is one, and one or more digits; or nothing. -/
inductive IsExponent : Text → Prop
  | missing : IsExponent []
  | letter {c : CodePoint} {sign digits : Text} : c = 'e' ∨ c = 'E' → sign ∈ ([[], ['+'], ['-']] : List Text) →
      digits ≠ [] → (∀ c ∈ digits, isDigit c = true) → IsExponent (c :: (sign ++ digits))

/-- Digits, a fraction and an exponent; the exponent may be missing, and so may one of the others. -/
inductive IsNumeral : Text → Prop
  | parts {whole fraction exponent : Text} : (∀ c ∈ whole, isDigit c = true) → IsFraction fraction →
      IsExponent exponent → whole ≠ [] ∨ fraction ≠ [] → IsNumeral (whole ++ (fraction ++ exponent))

/-- A quotation mark of strings. -/
def IsQuote (q : CodePoint) : Prop := q = '\x22' ∨ q = '\x27'

/-- What may stand between the quotes `q`: a backslash only with the character behind it, and no other quote `q`. -/
inductive IsBody (q : CodePoint) : Text → Prop
  | empty : IsBody q []
  | char {c : CodePoint} {rest : Text} : c ≠ q → c ≠ '\\' → IsBody q rest → IsBody q (c :: rest)
  | escape {c : CodePoint} {rest : Text} : IsBody q rest → IsBody q ('\\' :: c :: rest)

/-- A text that begins and goes on like a name. -/
def IsName : Text → Prop
  | [] => False
  | c :: rest => isNameStart c = true ∧ ∀ d ∈ rest, isNamePart d = true

/-- The text is written for the token. -/
inductive Spells : Text → Token → Prop
  | number {s : Text} : IsNumeral s → Spells s (.number s)
  | string {q : CodePoint} {body : Text} : IsQuote q → IsBody q body →
      Spells (q :: (body ++ [q])) (.string (unescape body))
  | identifier {s : Text} : IsName s → (∀ word : Keyword, s ≠ word.text) → Spells s (.identifier s)
  | keyword (word : Keyword) : Spells word.text (.keyword word)
  | operator (sign : Operator) : Spells sign.text (.operator sign)
  | punct (mark : Punct) : Spells [mark.char] (.punct mark)

/-- `front` is written for the token `t`, and nothing longer at the front of `front ++ rest` is written for any token. -/
structure Longest (front rest : Text) (t : Token) : Prop where
  spells : Spells front t
  le : ∀ s u, Spells s u → s <+: front ++ rest → s.length ≤ front.length

/-! ## Characters -/

section Characters

variable {c : CodePoint}

theorem toNat_of_isDigit (h : isDigit c = true) : 48 ≤ c.toNat ∧ c.toNat ≤ 57 ∨ 127 < c.toNat := by
  rw [isDigit, digitValue?, Option.isSome_map, List.find?_isSome] at h
  obtain ⟨start, hmem, hrange⟩ := h
  have hzero : ∀ z ∈ digitZeros, z = 48 ∨ 127 < z := by decide
  rw [Bool.and_eq_true, decide_eq_true_eq, decide_eq_true_eq] at hrange
  have := hzero start hmem
  omega

theorem not_isBlank_of_isDigit (h : isDigit c = true) : isBlank c = false := by
  by_contra hblank
  obtain ⟨⟨first, last⟩, hmem, hrange⟩ := exists_of_hasCode (Bool.not_eq_false _ ▸ hblank)
  rw [isDigit, digitValue?, Option.isSome_map, List.find?_isSome] at h
  obtain ⟨start, hstart, hdigit⟩ := h
  have hapart : ∀ z ∈ digitZeros, ∀ range ∈ blankTable, z + 9 < range.1 ∨ range.2 < z := by decide +kernel
  rw [Bool.and_eq_true, decide_eq_true_eq, decide_eq_true_eq] at hdigit
  have := hapart start hstart _ hmem
  omega

theorem toNat_of_isNameStart (h : isNameStart c = true) :
    65 ≤ c.toNat ∧ c.toNat ≤ 90 ∨ 97 ≤ c.toNat ∧ c.toNat ≤ 122 ∨ c.toNat = 95 ∨ c.toNat = 36 := by
  simp only [isNameStart, Bool.or_eq_true, Bool.and_eq_true, decide_eq_true_eq, CodePoint.le_def] at h
  rcases h with ((h | h) | rfl) | rfl
  · exact .inl h
  · exact .inr (.inl h)
  · exact .inr (.inr (.inl rfl))
  · exact .inr (.inr (.inr rfl))

theorem not_isDigit_of_isNameStart (h : isNameStart c = true) : isDigit c = false := by
  by_contra hdigit
  have := toNat_of_isDigit (Bool.not_eq_false _ ▸ hdigit)
  have := toNat_of_isNameStart h
  omega

theorem not_isBlank_of_isNamePart (h : isNamePart c = true) : isBlank c = false := by
  rw [isNamePart, Bool.or_eq_true, decide_eq_true_eq] at h
  rcases h with h | rfl
  · exact not_isBlank_of_isWord h
  · decide

theorem not_isBlank_of_isNameStart (h : isNameStart c = true) : isBlank c = false := by
  by_contra hblank
  obtain ⟨range, hmem, hrange⟩ := exists_of_hasCode (Bool.not_eq_false _ ▸ hblank)
  have hapart : ∀ range ∈ blankTable, range.2 < 36 ∨ 122 < range.1 := by decide
  have := hapart range hmem
  have := toNat_of_isNameStart h
  omega

/-- A text is searched for a blank more easily than all characters are. -/
theorem not_isBlank_of_any {s : Text} (h : s.any isBlank = false) : ∀ c ∈ s, isBlank c = false :=
  fun c hc => Bool.eq_false_iff.mpr (List.any_eq_false.mp h c hc)

end Characters

/-! ## Kinds of tokens -/

/-- The kinds of tokens. -/
inductive Kind where
  | numeral | quoted | named | sign | mark
  deriving DecidableEq, Repr

/-- The kind of a token. -/
def Token.kind : Token → Kind
  | .number _ => .numeral
  | .string _ => .quoted
  | .identifier _ | .keyword _ => .named
  | .operator _ => .sign
  | .punct _ => .mark

/-- The kind of the tokens that a character begins, if it begins any. -/
def kindAt (c : CodePoint) : Kind :=
  if isDigit c = true ∨ c = '.' then .numeral
  else if c = '\x22' ∨ c = '\x27' then .quoted
  else if isNameStart c = true then .named
  else if ∃ sign ∈ Operator.all, sign.text.head? = some c then .sign
  else .mark

theorem kindAt_numeral {c : CodePoint} (h : isDigit c = true ∨ c = '.') : kindAt c = .numeral := if_pos h

theorem kindAt_quote {q : CodePoint} (h : IsQuote q) : kindAt q = .quoted := by
  rcases h with rfl | rfl <;> decide

theorem kindAt_nameStart {c : CodePoint} (h : isNameStart c = true) : kindAt c = .named := by
  have hpoint : c ≠ '.' := by rintro rfl; cases h
  have hdouble : c ≠ '\x22' := by rintro rfl; cases h
  have hsingle : c ≠ '\x27' := by rintro rfl; cases h
  rw [kindAt, if_neg (by simp [not_isDigit_of_isNameStart h, hpoint]), if_neg (by simp [hdouble, hsingle]), if_pos h]

theorem kindAt_sign (sign : Operator) : ∃ c rest, sign.text = c :: rest ∧ kindAt c = .sign := by
  cases sign <;> exact ⟨_, _, rfl, by decide⟩

theorem kindAt_mark (mark : Punct) (h : mark ≠ .dot) : kindAt mark.char = .mark := by
  cases mark <;> first | exact absurd rfl h | decide

/-! ## What a spelling tells -/

theorem IsNumeral.first {s : Text} (h : IsNumeral s) :
    ∃ c rest, s = c :: rest ∧ (isDigit c = true ∨ c = '.') ∧ s ≠ (['.'] : Text) := by
  obtain ⟨hwhole, hfraction, -, hsome⟩ := h
  rename_i whole fraction exponent
  cases whole with
  | cons c whole =>
    refine ⟨c, _, rfl, .inl (hwhole c List.mem_cons_self), fun h => ?_⟩
    have hc := hwhole c List.mem_cons_self
    rw [(List.cons.inj h).1] at hc
    exact absurd hc (by decide)
  | nil =>
    cases hfraction with
    | missing => simp at hsome
    | point hne _ => exact ⟨'.', _, rfl, .inr rfl, by simp [hne]⟩

theorem not_isBlank_of_digits {s : Text} (h : ∀ c ∈ s, isDigit c = true) : ∀ c ∈ s, isBlank c = false :=
  fun c hc => not_isBlank_of_isDigit (h c hc)

theorem IsNumeral.not_isBlank {s : Text} (h : IsNumeral s) : ∀ c ∈ s, isBlank c = false := by
  obtain ⟨hwhole, hfraction, hexponent, -⟩ := h
  refine List.forall_mem_append.mpr ⟨not_isBlank_of_digits hwhole, List.forall_mem_append.mpr ⟨?_, ?_⟩⟩
  · cases hfraction with
    | missing => exact nofun
    | point _ hdigits => exact List.forall_mem_cons.mpr ⟨by decide, not_isBlank_of_digits hdigits⟩
  · cases hexponent with
    | missing => exact nofun
    | letter hletter hsign _ hdigits =>
      refine List.forall_mem_cons.mpr ⟨?_, List.forall_mem_append.mpr ⟨?_, not_isBlank_of_digits hdigits⟩⟩
      · rcases hletter with rfl | rfl <;> decide
      · simp only [List.mem_cons, List.not_mem_nil, or_false] at hsign
        rcases hsign with rfl | rfl | rfl <;> exact not_isBlank_of_any (by decide)

theorem isName_text (word : Keyword) : IsName word.text := by
  cases word <;> exact ⟨by decide, List.all_eq_true.mp (by decide +kernel)⟩

theorem IsName.first {s : Text} (h : IsName s) :
    ∃ c rest, s = c :: rest ∧ isNameStart c = true ∧ ∀ d ∈ rest, isNamePart d = true := by
  cases s with
  | nil => exact h.elim
  | cons c rest => exact ⟨c, rest, rfl, h⟩

theorem IsName.not_isBlank {s : Text} (h : IsName s) : ∀ c ∈ s, isBlank c = false := by
  obtain ⟨c, rest, rfl, hc, hrest⟩ := h.first
  exact List.forall_mem_cons.mpr
    ⟨not_isBlank_of_isNameStart hc, fun d hd => not_isBlank_of_isNamePart (hrest d hd)⟩

/-- The quotes that a text begins with are closed in one place. -/
theorem IsBody.unique {q : CodePoint} {body other after behind : Text} (hq : q ≠ '\\') (h : IsBody q body)
    (h' : IsBody q other) (heq : body ++ q :: after = other ++ q :: behind) : body = other := by
  induction h generalizing other with
  | empty =>
    cases h' with
    | empty => rfl
    | char hne _ _ => exact absurd (List.cons.inj heq).1.symm hne
    | escape _ => exact absurd (List.cons.inj heq).1 hq
  | char hne hplain _ ih =>
    cases h' with
    | empty => exact absurd (List.cons.inj heq).1 hne
    | char _ _ h' =>
      obtain ⟨rfl, htail⟩ := List.cons.inj heq
      rw [ih h' htail]
    | escape _ => exact absurd (List.cons.inj heq).1 hplain
  | escape _ ih =>
    cases h' with
    | empty => exact absurd (List.cons.inj heq).1.symm hq
    | char _ hplain _ => exact absurd (List.cons.inj heq).1.symm hplain
    | escape h' =>
      obtain ⟨rfl, htail⟩ := List.cons.inj (List.cons.inj heq).2
      rw [ih h' htail]

theorem IsQuote.ne_backslash {q : CodePoint} (h : IsQuote q) : q ≠ '\\' := by
  rcases h with rfl | rfl <;> decide

namespace Spells

variable {s : Text} {t u : Token}

/-- The first character tells what kind of token a text is written for, but for a lone point. -/
theorem kind_eq (h : Spells s t) :
    ∃ c rest, s = c :: rest ∧ (kindAt c = t.kind ∨ s = (['.'] : Text) ∧ t = .punct .dot) := by
  cases h with
  | number h =>
    obtain ⟨c, rest, rfl, hc, -⟩ := h.first
    exact ⟨c, rest, rfl, .inl (kindAt_numeral hc)⟩
  | string hq _ => exact ⟨_, _, rfl, .inl (kindAt_quote hq)⟩
  | identifier h _ =>
    obtain ⟨c, rest, rfl, hc, -⟩ := h.first
    exact ⟨c, rest, rfl, .inl (kindAt_nameStart hc)⟩
  | keyword word =>
    obtain ⟨c, rest, hword, hc, -⟩ := (isName_text word).first
    exact ⟨c, rest, hword, .inl (kindAt_nameStart hc)⟩
  | operator sign =>
    obtain ⟨c, rest, hsign, hc⟩ := kindAt_sign sign
    exact ⟨c, rest, hsign, .inl hc⟩
  | punct mark =>
    by_cases hdot : mark = .dot
    · subst hdot
      exact ⟨_, _, rfl, .inr ⟨rfl, rfl⟩⟩
    · exact ⟨_, _, rfl, .inl (kindAt_mark mark hdot)⟩

theorem ne_nil (h : Spells s t) : s ≠ [] := by
  obtain ⟨c, rest, rfl, -⟩ := h.kind_eq
  exact List.cons_ne_nil c rest

/-- Only strings have blanks in them. -/
theorem not_isBlank (h : Spells s t) (ht : t.kind ≠ .quoted) : ∀ c ∈ s, isBlank c = false := by
  cases h with
  | number h => exact h.not_isBlank
  | string => exact absurd rfl ht
  | identifier h _ => exact h.not_isBlank
  | keyword word => exact (isName_text word).not_isBlank
  | operator sign => cases sign <;> exact not_isBlank_of_any (by decide)
  | punct mark => cases mark <;> exact not_isBlank_of_any (by decide)

/-- No token begins with a blank. -/
theorem head?_not_isBlank (h : Spells s t) : ∀ c ∈ s.head?, isBlank c = false := by
  by_cases ht : t.kind = .quoted
  · cases h with
    | string hq _ =>
      rintro c ⟨⟩
      rcases hq with rfl | rfl <;> decide
    | _ => cases ht
  · exact fun c hc => h.not_isBlank ht c (List.mem_of_mem_head? hc)

theorem kind_unique (h : Spells s t) (h' : Spells s u) : t.kind = u.kind := by
  have hpoint : ∀ {t}, Spells ['.'] t → t = .punct .dot := by
    intro t h
    generalize hs : (['.'] : Text) = s at h
    cases h with
    | number h =>
      obtain ⟨_, _, -, -, hne⟩ := h.first
      exact absurd hs.symm hne
    | string hq _ =>
      obtain rfl := (List.cons.inj hs).1
      rcases hq with h | h <;> cases h
    | identifier h _ =>
      subst hs
      cases h.1
    | keyword word => cases word <;> cases hs
    | operator sign => cases sign <;> cases hs
    | punct mark => cases mark <;> first | rfl | cases hs
  obtain ⟨c, rest, rfl, hkind | ⟨hs, rfl⟩⟩ := h.kind_eq
  · obtain ⟨_, _, heq, hkind' | ⟨hs, rfl⟩⟩ := h'.kind_eq
    · obtain ⟨rfl, -⟩ := List.cons.inj heq
      rw [← hkind, hkind']
    · rw [hs] at h
      rw [hpoint h]
  · rw [hs] at h'
    rw [hpoint h']

/-- A text is written for one token at most. -/
theorem unique (h : Spells s t) (h' : Spells s u) : t = u := by
  have hkind := h.kind_unique h'
  cases h with
  | number => cases h' <;> first | rfl | cases hkind
  | string hq hbody =>
    generalize hs : _ :: (_ ++ [_]) = s at h'
    cases h' with
    | string hq' hbody' =>
      obtain ⟨rfl, heq⟩ := List.cons.inj hs
      rw [hbody.unique hq.ne_backslash hbody' heq]
    | _ => cases hkind
  | identifier _ hword =>
    cases h' with
    | identifier => rfl
    | keyword word => exact absurd rfl (hword word)
    | _ => cases hkind
  | keyword word =>
    generalize hs : word.text = s at h'
    cases h' with
    | identifier _ hword => exact absurd hs.symm (hword word)
    | keyword word' => cases word <;> cases word' <;> first | rfl | cases hs
    | _ => cases hkind
  | operator sign =>
    generalize hs : sign.text = s at h'
    cases h' with
    | operator sign' => cases sign <;> cases sign' <;> first | rfl | cases hs
    | _ => cases hkind
  | punct mark =>
    generalize hs : [mark.char] = s at h'
    cases h' with
    | punct mark' => cases mark <;> cases mark' <;> first | rfl | cases hs
    | _ => cases hkind

/-- Nothing is written in front of a string's end but the string. -/
theorem eq_nil_of_quoted {more : Text} (h : Spells s t) (h' : Spells (s ++ more) u) (hu : u.kind = .quoted) :
    more = [] := by
  obtain ⟨c, rest, rfl, hc⟩ := h.kind_eq
  generalize hs : c :: rest ++ more = whole at h'
  cases h' with
  | @string q body hq hbody =>
    obtain ⟨rfl, hinner⟩ := List.cons.inj hs
    have hquoted : t.kind = .quoted := by
      rcases hc with hc | ⟨hc, -⟩
      · rw [← hc, kindAt_quote hq]
      · rw [(List.cons.inj hc).1] at hq
        rcases hq with hq | hq <;> cases hq
    generalize hfront : c :: rest = front at h
    cases h with
    | @string q' body' hq' hbody' =>
      obtain ⟨rfl, rfl⟩ := List.cons.inj hfront
      have htail : body' ++ c :: more = body ++ [c] := (List.append_cons body' c more).trans hinner
      rw [hbody'.unique hq.ne_backslash hbody htail] at htail
      exact (List.cons.inj (List.append_cancel_left htail)).2
    | _ => cases hquoted
  | _ => cases hu

end Spells

/-! ## The longest spelling -/

namespace Longest

variable {front rest : Text} {t u : Token}

/-- A text has one longest spelling at its front, for one token. -/
theorem unique {front' rest' : Text} (h : Longest front rest t) (h' : Longest front' rest' u)
    (heq : front ++ rest = front' ++ rest') : front = front' ∧ rest = rest' ∧ t = u := by
  have hle : front.length ≤ front'.length := h'.le front t h.spells ⟨rest, heq⟩
  have hge : front'.length ≤ front.length := h.le front' u h'.spells ⟨rest', heq.symm⟩
  obtain ⟨rfl, rfl⟩ := List.append_inj heq (Nat.le_antisymm hle hge)
  exact ⟨rfl, rfl, h.spells.unique h'.spells⟩

/-- What comes behind the end or behind a blank does not make another spelling the longest. -/
theorem of_blank {middle tail other : Text} (h : Longest front (middle ++ tail) t)
    (hother : ∀ c ∈ other.head?, isBlank c = true) : Longest front (middle ++ other) t where
  spells := h.spells
  le s u hs hstart := by
    obtain ⟨after, hafter⟩ := hstart
    rw [← List.append_assoc] at hafter
    rcases List.append_eq_append_iff.mp hafter with ⟨back, hmiddle, -⟩ | ⟨more, rfl, hmore⟩
    · refine h.le s u hs ⟨back ++ tail, ?_⟩
      rw [← List.append_assoc, ← hmiddle, List.append_assoc]
    · cases more with
      | nil => exact h.le _ u hs ⟨tail, by simp⟩
      | cons c more =>
        -- a spelling that goes on behind the blank is a string, which its quotes have closed before
        have hblank : isBlank c = true := hother c (by rw [hmore]; rfl)
        by_cases hu : u.kind = .quoted
        · rw [List.append_assoc] at hs
          cases List.append_eq_nil_iff.mp (h.spells.eq_nil_of_quoted hs hu) |>.2
        · rw [hs.not_isBlank hu c (by simp)] at hblank
          cases hblank

end Longest

end HtmlTemplate.Expr
