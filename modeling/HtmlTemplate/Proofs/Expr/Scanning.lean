import HtmlTemplate.Proofs.Expr.Spelling

/-!
# The scanner takes the longest spelling

What `scan` finds at a place is the longest spelling of a token there (`longest_of_scan`); where it finds nothing, no
token is written and no blank stands (`stuck_of_scan`). There is one section for each kind of token: what the reader of
that kind takes is a spelling, and every other spelling at the place is at the front of it.
-/

namespace HtmlTemplate.Expr

/-! ## Runs of characters -/

section Runs

variable {p : CodePoint → Bool} {front more s : Text}

theorem prefix_takeWhile (hfront : ∀ c ∈ front, p c = true) (h : front <+: s) : front <+: s.takeWhile p := by
  obtain ⟨rest, rfl⟩ := h
  rw [List.takeWhile_append_of_pos hfront]
  exact List.prefix_append _ _

/-- A run that another character ends. -/
theorem takeWhile_eq_of_prefix (hfront : ∀ c ∈ front, p c = true) (hmore : ∃ c ∈ more.head?, p c = false)
    (h : front ++ more <+: s) : s.takeWhile p = front := by
  obtain ⟨rest, rfl⟩ := h
  obtain ⟨c, hc, hp⟩ := hmore
  obtain ⟨more, rfl⟩ := List.head?_eq_some_iff.mp hc
  rw [List.append_assoc, List.takeWhile_append_of_pos hfront, List.cons_append,
    List.takeWhile_cons_of_neg (by simp [hp]), List.append_nil]

end Runs

/-! ## Numerals -/

section Numerals

variable {s whole fraction exponent : Text}

theorem fractionPart_point (rest : Text) :
    fractionPart ('.' :: rest) =
      if rest.takeWhile isDigit = [] then [] else ('.' : CodePoint) :: rest.takeWhile isDigit := by
  rw [fractionPart]
  split
  · next h => rw [if_pos h]
  · next h => rw [if_neg h]

theorem isFraction_fractionPart (s : Text) : IsFraction (fractionPart s) := by
  unfold fractionPart
  split
  · split
    · exact .missing
    · next h => exact .point h fun c hc => List.mem_takeWhile_imp hc
  · exact .missing

theorem fractionPart_at_front (s : Text) : fractionPart s <+: s := by
  unfold fractionPart
  split
  · split
    · exact List.nil_prefix
    · exact List.cons_prefix_cons.mpr ⟨rfl, List.takeWhile_prefix _⟩
  · exact List.nil_prefix

theorem prefix_fractionPart (h : IsFraction fraction) (hs : fraction <+: s) : fraction <+: fractionPart s := by
  cases h with
  | missing => exact List.nil_prefix
  | point hne hdigits =>
    obtain ⟨rest, rfl⟩ := hs
    have hrun := prefix_takeWhile hdigits (List.prefix_append _ rest)
    rw [List.cons_append, fractionPart_point, if_neg fun hnil => hne (List.prefix_nil.mp (by rwa [hnil] at hrun))]
    exact List.cons_prefix_cons.mpr ⟨rfl, hrun⟩

theorem IsExponent.head? (h : IsExponent exponent) (hne : exponent ≠ []) :
    ∃ c ∈ exponent.head?, isDigit c = false ∧ c ≠ '.' := by
  cases h with
  | missing => exact absurd rfl hne
  | letter hletter => exact ⟨_, rfl, by rcases hletter with rfl | rfl <;> decide⟩

/-- A fraction with an exponent behind it. -/
theorem fractionPart_eq (h : IsFraction fraction) (he : IsExponent exponent) (hne : exponent ≠ [])
    (hs : fraction ++ exponent <+: s) : fractionPart s = fraction := by
  obtain ⟨c, hc, hdigit, hpoint⟩ := he.head? hne
  cases h with
  | missing =>
    obtain ⟨rest, rfl⟩ := hs
    obtain ⟨more, rfl⟩ := List.head?_eq_some_iff.mp hc
    unfold fractionPart
    split
    · next heq => exact absurd (List.cons.inj heq).1 hpoint
    · rfl
  | point hne hdigits =>
    obtain ⟨rest, rfl⟩ := hs
    have hrun := takeWhile_eq_of_prefix hdigits ⟨c, hc, hdigit⟩ (List.prefix_append _ rest)
    rw [List.cons_append, List.cons_append, fractionPart_point, hrun, if_neg hne]

theorem exponentPart_letter {c : CodePoint} (hc : c = 'e' ∨ c = 'E') (rest : Text) :
    exponentPart (c :: rest) =
      if (rest.drop (signPart rest).length).takeWhile isDigit = [] then []
      else c :: (signPart rest ++ (rest.drop (signPart rest).length).takeWhile isDigit) := by
  rw [exponentPart, if_pos (by simpa using hc)]
  dsimp only
  split
  · next h => rw [if_pos h]
  · next h => rw [if_neg h]; rfl

theorem signPart_at_front (s : Text) : signPart s <+: s ∧ signPart s ∈ ([[], ['+'], ['-']] : List Text) := by
  unfold signPart
  split
  · exact ⟨⟨_, rfl⟩, by simp⟩
  · exact ⟨⟨_, rfl⟩, by simp⟩
  · exact ⟨List.nil_prefix, by simp⟩

theorem signPart_eq {sign digits : Text} (hsign : sign ∈ ([[], ['+'], ['-']] : List Text)) (hne : digits ≠ [])
    (hdigits : ∀ c ∈ digits, isDigit c = true) (rest : Text) : signPart (sign ++ digits ++ rest) = sign := by
  simp only [List.mem_cons, List.not_mem_nil, or_false] at hsign
  rcases hsign with rfl | rfl | rfl
  · obtain ⟨c, digits, rfl⟩ := List.exists_cons_of_ne_nil hne
    have hc := hdigits c List.mem_cons_self
    unfold signPart
    split
    · next heq => rw [(List.cons.inj heq).1] at hc; exact absurd hc (by decide)
    · next heq => rw [(List.cons.inj heq).1] at hc; exact absurd hc (by decide)
    · rfl
  · rfl
  · rfl

theorem isExponent_exponentPart (s : Text) : IsExponent (exponentPart s) := by
  cases s with
  | nil => exact .missing
  | cons c rest =>
    by_cases hc : c = 'e' ∨ c = 'E'
    · rw [exponentPart_letter hc]
      split
      · exact .missing
      · next h => exact .letter hc (signPart_at_front rest).2 h fun d hd => List.mem_takeWhile_imp hd
    · rw [exponentPart, if_neg (by simpa using hc)]
      exact .missing

theorem exponentPart_at_front (s : Text) : exponentPart s <+: s := by
  cases s with
  | nil => exact List.nil_prefix
  | cons c rest =>
    by_cases hc : c = 'e' ∨ c = 'E'
    · rw [exponentPart_letter hc]
      split
      · exact List.nil_prefix
      · refine List.cons_prefix_cons.mpr ⟨rfl, ?_⟩
        have hsign := List.prefix_iff_eq_append.mp (signPart_at_front rest).1
        conv_rhs => rw [← hsign]
        exact (List.prefix_append_right_inj _).mpr (List.takeWhile_prefix _)
    · rw [exponentPart, if_neg (by simpa using hc)]
      exact List.nil_prefix

theorem prefix_exponentPart (h : IsExponent exponent) (hs : exponent <+: s) : exponent <+: exponentPart s := by
  cases h with
  | missing => exact List.nil_prefix
  | letter hc hsign hne hdigits =>
    obtain ⟨rest, rfl⟩ := hs
    rw [List.cons_append, exponentPart_letter hc, signPart_eq hsign hne hdigits, List.append_assoc, List.drop_left]
    have hrun := prefix_takeWhile hdigits (List.prefix_append _ rest)
    rw [if_neg fun hnil => hne (List.prefix_nil.mp (by rwa [hnil] at hrun))]
    exact List.cons_prefix_cons.mpr ⟨rfl, (List.prefix_append_right_inj _).mpr hrun⟩

theorem drop_takeWhile (p : CodePoint → Bool) (s : Text) : s.drop (s.takeWhile p).length = s.dropWhile p := by
  have h : (s.takeWhile p ++ s.dropWhile p).drop (s.takeWhile p).length = s.dropWhile p := List.drop_left
  rwa [List.takeWhile_append_dropWhile] at h

theorem numeral_eq (s : Text) :
    numeral s =
      if s.takeWhile isDigit = [] ∧ fractionPart (s.dropWhile isDigit) = [] then []
      else s.takeWhile isDigit ++ (fractionPart (s.dropWhile isDigit) ++
        exponentPart ((s.dropWhile isDigit).drop (fractionPart (s.dropWhile isDigit)).length)) := by
  rw [numeral]
  simp only [drop_takeWhile, ← List.drop_drop, Bool.and_eq_true, decide_eq_true_eq, List.append_assoc]

theorem isNumeral_numeral (h : numeral s ≠ []) : IsNumeral (numeral s) := by
  rw [numeral_eq] at h ⊢
  split at h
  · exact absurd rfl h
  · next hsome =>
    rw [if_neg hsome]
    exact .parts (fun c hc => List.mem_takeWhile_imp hc) (isFraction_fractionPart _) (isExponent_exponentPart _)
      (not_and_or.mp hsome)

theorem numeral_at_front (s : Text) : numeral s <+: s := by
  rw [numeral_eq]
  split
  · exact List.nil_prefix
  · conv_rhs => rw [← List.takeWhile_append_dropWhile (p := isDigit) (l := s)]
    refine (List.prefix_append_right_inj _).mpr ?_
    conv_rhs => rw [← List.prefix_iff_eq_append.mp (fractionPart_at_front (s.dropWhile isDigit))]
    exact (List.prefix_append_right_inj _).mpr (exponentPart_at_front _)

/-- The digits at the front of a numeral that goes on behind them, and what follows them. -/
theorem whole_of_prefix (hwhole : ∀ c ∈ whole, isDigit c = true) (hfraction : IsFraction fraction)
    (hexponent : IsExponent exponent) (hne : fraction ++ exponent ≠ []) (hs : whole ++ (fraction ++ exponent) <+: s) :
    s.takeWhile isDigit = whole ∧ fraction ++ exponent <+: s.dropWhile isDigit := by
  have hhead : ∃ c ∈ (fraction ++ exponent).head?, isDigit c = false := by
    cases hfraction with
    | missing =>
      obtain ⟨c, hc, hdigit, -⟩ := hexponent.head? hne
      exact ⟨c, hc, hdigit⟩
    | point => exact ⟨'.', rfl, by decide⟩
  have hrun := takeWhile_eq_of_prefix hwhole hhead hs
  refine ⟨hrun, ?_⟩
  rw [← List.takeWhile_append_dropWhile (p := isDigit) (l := s), hrun] at hs
  exact (List.prefix_append_right_inj _).mp hs

/-- Every numeral at the front of a text is at the front of the numeral that is read. -/
theorem prefix_numeral {front : Text} (h : IsNumeral front) (hs : front <+: s) : front <+: numeral s := by
  obtain ⟨hwhole, hfraction, hexponent, hsome⟩ := h
  rename_i whole fraction exponent
  rw [numeral_eq]
  by_cases hne : fraction ++ exponent = []
  · obtain ⟨rfl, rfl⟩ := List.append_eq_nil_iff.mp hne
    rw [List.append_nil, List.append_nil] at hs ⊢
    have hrun := prefix_takeWhile hwhole hs
    have hread : s.takeWhile isDigit ≠ [] := fun hnil =>
      hsome.elim (fun hw => hw (List.prefix_nil.mp (hnil ▸ hrun))) (absurd rfl)
    rw [if_neg (not_and_of_not_left _ hread)]
    exact hrun.trans (List.prefix_append _ _)
  · obtain ⟨hrun, hrest⟩ := whole_of_prefix hwhole hfraction hexponent hne hs
    have hpart := prefix_fractionPart hfraction ((List.prefix_append _ _).trans hrest)
    have hread : whole ≠ [] ∨ fractionPart (s.dropWhile isDigit) ≠ [] :=
      hsome.imp_right fun hf hnil => hf (List.prefix_nil.mp (hnil ▸ hpart))
    rw [hrun, if_neg (not_and_or.mpr hread)]
    refine (List.prefix_append_right_inj _).mpr ?_
    by_cases hexp : exponent = []
    · subst hexp
      rw [List.append_nil]
      exact hpart.trans (List.prefix_append _ _)
    · rw [fractionPart_eq hfraction hexponent hexp hrest, List.prefix_append_right_inj]
      refine prefix_exponentPart hexponent ?_
      obtain ⟨more, hmore⟩ := hrest
      rw [← hmore, List.append_assoc, List.drop_left]
      exact List.prefix_append _ _

end Numerals

/-! ## Strings, names and signs -/

theorem isBody_of_quotedBody {q : CodePoint} {s body : Text} (h : quotedBody? q s = some body) :
    IsBody q body ∧ body ++ [q] <+: s := by
  induction s using quotedBody?.induct q generalizing body with
  | case1 => cases h
  | case2 => cases h
  | case3 c rest ih =>
    rw [quotedBody?, Option.map_eq_some_iff] at h
    obtain ⟨inner, hinner, rfl⟩ := h
    obtain ⟨hbody, hstart⟩ := ih hinner
    exact ⟨.escape hbody, List.cons_prefix_cons.mpr ⟨rfl, List.cons_prefix_cons.mpr ⟨rfl, hstart⟩⟩⟩
  | case4 rest hlast hescape =>
    rw [quotedBody?, if_pos rfl] at h
    · obtain rfl := Option.some.inj h
      exact ⟨.empty, List.cons_prefix_cons.mpr ⟨rfl, List.nil_prefix⟩⟩
    all_goals assumption
  | case5 c rest hlast hescape hne ih =>
    rw [quotedBody?, if_neg hne, Option.map_eq_some_iff] at h
    · obtain ⟨inner, hinner, rfl⟩ := h
      obtain ⟨hbody, hstart⟩ := ih hinner
      refine ⟨.char hne ?_ hbody, List.cons_prefix_cons.mpr ⟨rfl, hstart⟩⟩
      rintro rfl
      cases rest with
      | nil => exact hlast rfl rfl
      | cons d rest => exact hescape d rest rfl rfl
    all_goals assumption

theorem quotedBody_of_isBody {q : CodePoint} (hq : q ≠ '\\') {body : Text} (h : IsBody q body) (rest : Text) :
    quotedBody? q (body ++ q :: rest) = some body := by
  induction h with
  | empty =>
    rw [List.nil_append, quotedBody?, if_pos rfl]
    · exact fun h => absurd h hq
    · exact fun _ _ h => absurd h hq
  | char hne hplain _ ih =>
    rw [List.cons_append, quotedBody?, if_neg hne, ih]
    · rfl
    · exact fun h => absurd h hplain
    · exact fun _ _ h => absurd h hplain
  | escape _ ih =>
    rw [List.cons_append, List.cons_append, quotedBody?, ih]
    rfl

theorem lookup_spellings_eq_some {s : Text} {word : Keyword} (h : Keyword.spellings.lookup s = some word) :
    s = word.text := by
  have hspelled : ∀ entry ∈ Keyword.spellings, entry.1 = entry.2.text := by decide
  obtain ⟨before, behind, hall, -⟩ := List.lookup_eq_some_iff.mp h
  exact hspelled (s, word) (by rw [hall]; simp)

theorem lookup_spellings_text (word : Keyword) : Keyword.spellings.lookup word.text = some word := by
  cases word <;> decide

theorem spells_nameToken {s : Text} (h : IsName s) : Spells s (nameToken s) := by
  rw [nameToken]
  split
  · next word hword =>
    rw [lookup_spellings_eq_some hword]
    exact .keyword word
  · next hnone =>
    refine .identifier h fun word hword => ?_
    rw [hword, lookup_spellings_text] at hnone
    cases hnone

theorem mem_all (sign : Operator) : sign ∈ Operator.all := by
  cases sign <;> decide

/-- The signs are tried from the longest to the shortest. -/
theorem le_of_find_sign {s : Text} {sign other : Operator}
    (h : Operator.all.find? (fun sign => sign.text.isPrefixOf s) = some sign) (hother : other.text <+: s) :
    other.text.length ≤ sign.text.length := by
  have hsorted : Operator.all.Pairwise fun a b => b.text.length ≤ a.text.length := by decide
  obtain ⟨-, before, behind, hall, hbefore⟩ := List.find?_eq_some_iff_append.mp h
  have hmem := mem_all other
  rw [hall] at hmem hsorted
  rcases List.mem_append.mp hmem with hmem | hmem
  · have hnot := hbefore other hmem
    rw [List.isPrefixOf_iff_prefix.mpr hother] at hnot
    cases hnot
  · rcases List.mem_cons.mp hmem with rfl | hmem
    · exact Nat.le_refl _
    · exact (List.pairwise_cons.mp (List.pairwise_append.mp hsorted).2.1).1 other hmem

/-! ## What the scanner finds -/

/-- A spelling that is as long as the others of its kind, where the first character shows the kind. -/
theorem Longest.of_kind {c : CodePoint} {front rest : Text} {t : Token} (h : Spells (c :: front) t)
    (hkind : kindAt c = t.kind)
    (hle : ∀ s u, Spells s u → u.kind = t.kind → s <+: c :: (front ++ rest) → s.length ≤ (c :: front).length) :
    Longest (c :: front) rest t where
  spells := h
  le s u hs hstart := by
    obtain ⟨d, more, rfl, hkind' | ⟨hpoint, -⟩⟩ := hs.kind_eq
    · obtain ⟨rfl, -⟩ := List.cons_prefix_cons.mp hstart
      exact hle _ u hs (hkind'.symm.trans hkind) hstart
    · rw [hpoint]
      simp

section Scan

variable {c : CodePoint} {rest : Text}

theorem longest_numeral {more : Text} {d : CodePoint} (h : numeral (c :: rest) = d :: more) :
    ∃ back, rest = more ++ back ∧ Longest (c :: more) back (.number (d :: more)) := by
  have hnumeral := isNumeral_numeral (s := c :: rest) (by rw [h]; exact List.cons_ne_nil d more)
  have hstart := numeral_at_front (c :: rest)
  rw [h] at hnumeral hstart
  obtain ⟨rfl, back, rfl⟩ := List.cons_prefix_cons.mp hstart
  refine ⟨back, rfl, .of_kind (.number hnumeral) ?_ fun s u hs hu hfront => ?_⟩
  · obtain ⟨_, _, heq, hfirst, -⟩ := hnumeral.first
    rw [(List.cons.inj heq).1]
    exact kindAt_numeral hfirst
  · cases hs with
    | number hs =>
      have := (prefix_numeral hs hfront).length_le
      rwa [h] at this
    | _ => cases hu

theorem longest_string {body : Text} (hc : IsQuote c) (h : quotedBody? c rest = some body) :
    ∃ back, rest = (body ++ [c]) ++ back ∧ Longest (c :: (body ++ [c])) back (.string (unescape body)) := by
  obtain ⟨hbody, back, rfl⟩ := isBody_of_quotedBody h
  refine ⟨back, rfl, .of_kind (.string hc hbody) (kindAt_quote hc) fun s u hs hu hfront => ?_⟩
  cases hs with
  | @string q other hq hother =>
    obtain ⟨rfl, tail, htail⟩ := List.cons_prefix_cons.mp hfront
    rw [← htail, List.append_assoc, List.singleton_append, quotedBody_of_isBody hq.ne_backslash hother] at h
    rw [Option.some.inj h]
  | _ => cases hu

theorem longest_name (hc : isNameStart c = true) (rest : Text) :
    ∃ back, rest = rest.takeWhile isNamePart ++ back ∧
      Longest (c :: rest.takeWhile isNamePart) back (nameToken (c :: rest.takeWhile isNamePart)) := by
  have hname : IsName (c :: rest.takeWhile isNamePart) := ⟨hc, fun d hd => List.mem_takeWhile_imp hd⟩
  have hkind : (nameToken (c :: rest.takeWhile isNamePart)).kind = .named := by
    rw [nameToken]
    split <;> rfl
  refine ⟨rest.dropWhile isNamePart, List.takeWhile_append_dropWhile.symm,
    .of_kind (spells_nameToken hname) (hkind ▸ kindAt_nameStart hc) fun s u hs hu hfront => ?_⟩
  rw [List.takeWhile_append_dropWhile] at hfront
  have hread : IsName s := by
    rw [hkind] at hu
    cases hs with
    | identifier h _ => exact h
    | keyword word => exact isName_text word
    | _ => cases hu
  obtain ⟨d, more, rfl, -, hmore⟩ := hread.first
  exact Nat.succ_le_succ (prefix_takeWhile hmore (List.cons_prefix_cons.mp hfront).2).length_le

theorem longest_sign {sign : Operator}
    (h : Operator.all.find? (fun sign => sign.text.isPrefixOf (c :: rest)) = some sign) :
    ∃ front back, sign.text = c :: front ∧ rest = front ++ back ∧ Longest (c :: front) back (.operator sign) := by
  have hstart := List.isPrefixOf_iff_prefix.mp (List.find?_eq_some_iff_append.mp h).1
  obtain ⟨d, front, hsign, hkind⟩ := kindAt_sign sign
  rw [hsign] at hstart
  obtain ⟨rfl, back, rfl⟩ := List.cons_prefix_cons.mp hstart
  refine ⟨front, back, hsign, rfl, .of_kind (hsign ▸ .operator sign) hkind fun s u hs hu hfront => ?_⟩
  cases hs with
  | operator other => exact hsign ▸ le_of_find_sign h hfront
  | _ => cases hu

theorem kind_ne_numeral {s : Text} {t : Token} (h : Spells s t) (hstart : s <+: c :: rest)
    (hnone : numeral (c :: rest) = []) : t.kind ≠ .numeral := by
  rintro ht
  cases h with
  | number h =>
    obtain ⟨d, more, rfl, -⟩ := h.first
    have := prefix_numeral h hstart
    rw [hnone] at this
    cases List.prefix_nil.mp this
  | _ => cases ht

theorem longest_mark {mark : Punct} (hnone : numeral (mark.char :: rest) = []) :
    Longest [mark.char] rest (.punct mark) := by
  by_cases hdot : mark = .dot
  · -- a point alone also has the look of a numeral
    subst hdot
    refine ⟨.punct .dot, fun s u hs hstart => ?_⟩
    obtain ⟨d, more, rfl, hkind | ⟨hpoint, -⟩⟩ := hs.kind_eq
    · obtain ⟨rfl, -⟩ := List.cons_prefix_cons.mp hstart
      exact absurd hkind.symm (kind_ne_numeral hs hstart hnone)
    · rw [hpoint]
      exact Nat.le_refl 1
  · refine .of_kind (.punct mark) (kindAt_mark mark hdot) fun s u hs hu _ => ?_
    cases hs with
    | punct other => exact Nat.le_refl 1
    | _ => cases hu

theorem isBlank_of_scan {n : Nat} (h : scan c rest = some ⟨none, n⟩) : isBlank c = true := by
  by_contra hblank
  unfold scan at h
  rw [if_neg hblank] at h
  split at h
  · cases h
  split at h
  · cases h
  split at h
  · cases h
  split at h
  · cases h
  · obtain ⟨mark, -, heq⟩ := Option.map_eq_some_iff.mp h
    cases heq

/-- The token that the scanner finds has the longest spelling there. -/
theorem longest_of_scan {t : Token} {n : Nat} (h : scan c rest = some ⟨some t, n⟩) :
    isBlank c = false ∧ ∃ front back, rest = front ++ back ∧ front.length = n ∧ Longest (c :: front) back t := by
  unfold scan at h
  split at h
  · cases h
  next hblank =>
  refine ⟨Bool.not_eq_true _ ▸ hblank, ?_⟩
  split at h
  · next d more hnumeral =>
    cases h
    obtain ⟨back, hrest, hlongest⟩ := longest_numeral hnumeral
    exact ⟨more, back, hrest, rfl, hlongest⟩
  next hnone =>
  split at h
  · next body hbody =>
    cases h
    split at hbody
    · next hquote =>
      obtain ⟨back, hrest, hlongest⟩ := longest_string (by simpa [IsQuote] using hquote) hbody
      exact ⟨body ++ [c], back, hrest, by simp, hlongest⟩
    · cases hbody
  split at h
  · next hname =>
    cases h
    obtain ⟨back, hrest, hlongest⟩ := longest_name hname rest
    exact ⟨_, back, hrest, rfl, hlongest⟩
  split at h
  · next sign hsign =>
    cases h
    obtain ⟨front, back, htext, hrest, hlongest⟩ := longest_sign hsign
    exact ⟨front, back, hrest, by rw [htext]; rfl, hlongest⟩
  · obtain ⟨mark, hmark, heq⟩ := Option.map_eq_some_iff.mp h
    cases heq
    obtain rfl := of_decide_eq_true (List.find?_eq_some_iff_append.mp hmark).1
    exact ⟨[], rest, rfl, rfl, longest_mark hnone⟩

/-- Where the scanner finds nothing, no blank stands and nothing is written. -/
theorem stuck_of_scan (h : scan c rest = none) : isBlank c = false ∧ ∀ s t, Spells s t → ¬ s <+: c :: rest := by
  unfold scan at h
  split at h
  · cases h
  next hblank =>
  refine ⟨Bool.not_eq_true _ ▸ hblank, fun s t hs hstart => ?_⟩
  split at h
  · cases h
  next hnumeral =>
  split at h
  · cases h
  next hquoted =>
  split at h
  · cases h
  next hname =>
  split at h
  · cases h
  next hsign =>
  have hmark := Option.map_eq_none_iff.mp h
  cases hs with
  | number hs => exact kind_ne_numeral (.number hs) hstart hnumeral rfl
  | string hq hbody =>
    obtain ⟨rfl, more, rfl⟩ := List.cons_prefix_cons.mp hstart
    rw [if_pos (by simpa [IsQuote] using hq), List.append_assoc, List.singleton_append,
      quotedBody_of_isBody hq.ne_backslash hbody] at hquoted
    cases hquoted
  | identifier hs _ =>
    obtain ⟨d, more, rfl, hd, -⟩ := hs.first
    exact hname ((List.cons_prefix_cons.mp hstart).1 ▸ hd)
  | keyword word =>
    obtain ⟨d, more, htext, hd, -⟩ := (isName_text word).first
    rw [htext] at hstart
    exact hname ((List.cons_prefix_cons.mp hstart).1 ▸ hd)
  | operator sign =>
    have := List.find?_eq_none.mp hsign sign (mem_all sign)
    exact this (List.isPrefixOf_iff_prefix.mpr hstart)
  | punct mark =>
    have := List.find?_eq_none.mp hmark mark (by cases mark <;> decide)
    exact this (decide_eq_true (List.cons_prefix_cons.mp hstart).1)

end Scan

end HtmlTemplate.Expr
