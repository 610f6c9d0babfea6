import HtmlTemplate.Expr.Parser
import HtmlTemplate.Proofs.Except
import HtmlTemplate.Proofs.Expr.Scanning
import Mathlib.Algebra.Module.Submodule.Lattice
import Mathlib.Computability.Primrec.List

/-!
# The lexer accounts for every character

A walk over a text takes a blank or the longest spelling of a token at a time (`Reaches`). There is one walk as far as it
goes: the lexer takes it to the end of the text (`tokens_eq_ok_iff`), or up to the one place where no blank stands and no
token is written, and reports that place (`tokens_eq_error_iff`).
-/

namespace HtmlTemplate.Expr

/-! ## Walks -/

/-- The tokens `ts` and the blanks between them are what `front` is made of, in a text that goes on with `rest`. -/
inductive Reaches : List Located → Text → Text → Prop
  | start (s : Text) : Reaches [] [] s
  | blank {ts : List Located} {front rest : Text} {c : CodePoint} : Reaches ts front (c :: rest) → isBlank c = true →
      Reaches ts (front ++ [c]) rest
  | token {ts : List Located} {front written rest : Text} {t : Token} : Reaches ts front (written ++ rest) →
      Longest written rest t → Reaches (ts ++ [⟨t, front.length⟩]) (front ++ written) rest

/-- There is a character, but it is no blank, and no token is written there. -/
def Stuck : Text → Prop
  | [] => False
  | c :: rest => isBlank c = false ∧ ∀ s t, Spells s t → ¬ s <+: c :: rest

/-! ## Steps of the lexer -/

section Steps

variable {position : Nat} {c : CodePoint} {written rest : Text} {t : Token}

theorem tokensFrom_nil (position : Nat) : tokensFrom position [] = .ok [] := by
  rw [tokensFrom]

theorem scan_of_blank (h : isBlank c = true) : scan c rest = some ⟨none, (rest.takeWhile isBlank).length⟩ := if_pos h

theorem scan_of_longest (h : Longest (c :: written) rest t) :
    scan c (written ++ rest) = some ⟨some t, written.length⟩ := by
  match hscan : scan c (written ++ rest) with
  | none => exact absurd ⟨rest, rfl⟩ ((stuck_of_scan hscan).2 _ t h.spells)
  | some ⟨none, n⟩ =>
    have hblank := isBlank_of_scan hscan
    rw [h.spells.head?_not_isBlank c rfl] at hblank
    cases hblank
  | some ⟨some u, n⟩ =>
    obtain ⟨-, front, back, heq, rfl, hlongest⟩ := longest_of_scan hscan
    obtain ⟨hfront, -, rfl⟩ := h.unique hlongest (congrArg (c :: ·) heq)
    rw [(List.cons.inj hfront).2]

theorem scan_eq_none_iff : scan c rest = none ↔ Stuck (c :: rest) := by
  refine ⟨stuck_of_scan, fun ⟨hblank, hspelled⟩ => ?_⟩
  match hscan : scan c rest with
  | none => rfl
  | some ⟨none, n⟩ =>
    rw [isBlank_of_scan hscan] at hblank
    cases hblank
  | some ⟨some u, n⟩ =>
    obtain ⟨-, front, back, rfl, -, hlongest⟩ := longest_of_scan hscan
    exact absurd ⟨back, rfl⟩ (hspelled _ u hlongest.spells)

theorem tokensFrom_stuck (h : Stuck (c :: rest)) : tokensFrom position (c :: rest) = .error ⟨scanFault c, position⟩ := by
  rw [tokensFrom, scan_eq_none_iff.mpr h]

theorem tokensFrom_longest (h : Longest written rest t) : tokensFrom position (written ++ rest) =
    (tokensFrom (position + written.length) rest).map (⟨t, position⟩ :: ·) := by
  obtain ⟨c, written, rfl⟩ := List.exists_cons_of_ne_nil h.spells.ne_nil
  rw [List.cons_append, tokensFrom, scan_of_longest h]
  dsimp only
  rw [List.drop_left, Nat.add_assoc]
  cases tokensFrom (position + (written.length + 1)) rest <;> rfl

/-- The lexer takes a run of blanks at once. -/
theorem tokensFrom_run (position : Nat) (s : Text) :
    tokensFrom position s = tokensFrom (position + (s.takeWhile isBlank).length) (s.dropWhile isBlank) := by
  cases s with
  | nil => rfl
  | cons c rest =>
    by_cases hc : isBlank c = true
    · rw [List.takeWhile_cons_of_pos hc, List.dropWhile_cons_of_pos hc, tokensFrom, scan_of_blank hc]
      dsimp only
      rw [drop_takeWhile, List.length_cons, Nat.add_assoc]
      cases tokensFrom (position + ((rest.takeWhile isBlank).length + 1)) (rest.dropWhile isBlank) <;> rfl
    · rw [List.takeWhile_cons_of_neg hc, List.dropWhile_cons_of_neg hc]
      rfl

theorem tokensFrom_blank (h : isBlank c = true) : tokensFrom position (c :: rest) = tokensFrom (position + 1) rest := by
  rw [tokensFrom_run position, tokensFrom_run (position + 1), List.takeWhile_cons_of_pos h, List.dropWhile_cons_of_pos h,
    List.length_cons, Nat.add_assoc, Nat.add_comm 1]

end Steps

/-! ## The lexer walks -/

namespace Reaches

variable {ts us : List Located} {front rest back s : Text} {fault : SyntaxFault}

/-- The lexer goes on from each place that is reached. -/
theorem tokens_eq (h : Reaches ts front rest) :
    tokens (front ++ rest) = (tokensFrom front.length rest).map (ts ++ ·) := by
  generalize hs : front ++ rest = s
  induction h with
  | start s =>
    subst hs
    rw [List.nil_append, tokens, List.length_nil]
    cases tokensFrom 0 s <;> rfl
  | blank _ hblank ih =>
    rw [ih (by rw [← hs, List.append_assoc]; rfl), tokensFrom_blank hblank, List.length_append]
    rfl
  | token _ hlongest ih =>
    rw [ih (by rw [← hs, List.append_assoc]), tokensFrom_longest hlongest, List.length_append]
    cases tokensFrom _ _ with
    | error fault => rfl
    | ok us => simp [Except.map]

theorem tokens_eq_ok (h : Reaches ts s []) : tokens s = .ok ts := by
  have hgo := h.tokens_eq
  rwa [List.append_nil, tokensFrom_nil, Except.map, List.append_nil] at hgo

theorem tokens_eq_error {c : CodePoint} (h : Reaches ts front (c :: rest)) (hstuck : Stuck (c :: rest)) :
    tokens (front ++ c :: rest) = .error ⟨scanFault c, front.length⟩ := by
  rw [h.tokens_eq, tokensFrom_stuck hstuck]
  rfl

/-- A walk goes on to the end of the text or to a place where nothing begins. -/
theorem goes_on (h : Reaches ts front rest) : (∃ us, Reaches us (front ++ rest) []) ∨
    ∃ us before c back, front ++ rest = before ++ c :: back ∧ Reaches us before (c :: back) ∧ Stuck (c :: back) := by
  generalize hn : rest.length = n
  induction n using Nat.strongRecOn generalizing ts front rest with
  | ind n ih =>
    cases rest with
    | nil => exact .inl ⟨ts, by rwa [List.append_nil]⟩
    | cons c rest =>
      match hscan : scan c rest with
      | none => exact .inr ⟨ts, front, c, rest, rfl, h, scan_eq_none_iff.mp hscan⟩
      | some ⟨none, n⟩ =>
        have hgo := ih rest.length (by rw [← hn]; simp) (h.blank (isBlank_of_scan hscan)) rfl
        rwa [List.append_assoc] at hgo
      | some ⟨some t, n⟩ =>
        obtain ⟨-, written, back, rfl, -, hlongest⟩ := longest_of_scan hscan
        have hshort : back.length < (c :: (written ++ back)).length := by
          rw [List.length_cons, List.length_append]
          omega
        have hgo := ih back.length (hn ▸ hshort) (h.token hlongest) rfl
        rwa [List.append_assoc] at hgo

end Reaches

section

variable {s : Text} {ts : List Located} {fault : SyntaxFault}

/-- The lexer succeeds with the tokens of a walk to the end. -/
theorem tokens_eq_ok_iff : tokens s = .ok ts ↔ Reaches ts s [] := by
  refine ⟨fun h => ?_, Reaches.tokens_eq_ok⟩
  rcases (Reaches.start s).goes_on with ⟨us, hus⟩ | ⟨us, before, c, back, heq, hus, hstuck⟩
  · rw [List.nil_append] at hus
    rw [hus.tokens_eq_ok] at h
    cases h
    exact hus
  · obtain rfl : s = before ++ c :: back := heq
    rw [hus.tokens_eq_error hstuck] at h
    cases h

/-- The lexer fails at the place where a walk gets stuck. -/
theorem tokens_eq_error_iff : tokens s = .error fault ↔
    ∃ ts front c back, s = front ++ c :: back ∧ Reaches ts front (c :: back) ∧ Stuck (c :: back) ∧
      fault = ⟨scanFault c, front.length⟩ := by
  constructor
  · intro h
    rcases (Reaches.start s).goes_on with ⟨us, hus⟩ | ⟨us, before, c, back, heq, hus, hstuck⟩
    · rw [List.nil_append] at hus
      rw [hus.tokens_eq_ok] at h
      cases h
    · obtain rfl : s = before ++ c :: back := heq
      rw [hus.tokens_eq_error hstuck] at h
      cases h
      exact ⟨us, before, c, back, rfl, hus, hstuck, rfl⟩
  · rintro ⟨ts, front, c, back, rfl, h, hstuck, rfl⟩
    exact h.tokens_eq_error hstuck

end

/-! ## Every character has its place -/

/-- The text `s` consists of the tokens and of blanks between them, up to the place where the last token ends. -/
inductive Accounts (s : Text) : List Located → Nat → Prop
  | start : Accounts s [] 0
  | token {ts : List Located} {last stop : Nat} {t : Located} : Accounts s ts last → last ≤ t.position →
      (∀ c ∈ s.extract last t.position, isBlank c = true) → t.position < stop →
      Spells (s.extract t.position stop) t.token → Accounts s (ts ++ [t]) stop

theorem extract_append (front middle back : Text) :
    (front ++ (middle ++ back)).extract front.length (front ++ middle).length = middle := by
  simp [List.extract]

/-- A walk leaves only blanks behind its last token. -/
theorem Reaches.accounts {ts : List Located} {front rest : Text} (h : Reaches ts front rest) :
    ∃ written gap, front = written ++ gap ∧ (∀ c ∈ gap, isBlank c = true) ∧ Accounts (front ++ rest) ts written.length := by
  induction h with
  | start s => exact ⟨[], [], rfl, nofun, .start⟩
  | @blank ts front rest c _ hblank ih =>
    obtain ⟨written, gap, rfl, hgap, haccounts⟩ := ih
    refine ⟨written, gap ++ [c], List.append_assoc .., ?_, ?_⟩
    · simpa [or_imp, forall_and, hblank] using hgap
    · rwa [List.append_assoc, List.singleton_append]
  | @token ts front written rest t _ hlongest ih =>
    obtain ⟨before, gap, rfl, hgap, haccounts⟩ := ih
    refine ⟨before ++ gap ++ written, [], (List.append_nil _).symm, nofun, ?_⟩
    rw [List.append_assoc (before ++ gap)]
    refine .token haccounts (by simp) ?_ ?_ ?_
    · rwa [List.append_assoc, extract_append]
    · simp [List.length_pos_iff.mpr hlongest.spells.ne_nil]
    · rw [extract_append]
      exact hlongest.spells

/-- **The lexer accounts for every character.** A text that has tokens consists of them and of blanks, and a fault that
shows behind the last token is at the end of the text. Any other text is refused at the first place that can be reached
over whole tokens and blanks and where no token and no blank begins. -/
theorem tokens_account_for_text (s : Text) :
    (∀ ts, tokens s = .ok ts →
      (∃ last ≤ s.length, Accounts s ts last ∧ ∀ c ∈ s.drop last, isBlank c = true) ∧
      ∀ cause, ofTokens ts = .error (.unexpected cause none) → parse s = .error (.malformed ⟨cause, s.length⟩)) ∧
    ∀ fault, tokens s = .error fault →
      parse s = .error (.malformed fault) ∧
      ∃ ts front c back, s = front ++ c :: back ∧ Reaches ts front (c :: back) ∧ Stuck (c :: back) ∧
        fault = ⟨scanFault c, front.length⟩ ∧
        ∀ us before rest, s = before ++ rest → Reaches us before rest → Stuck rest → front.length ≤ before.length := by
  refine ⟨fun ts hts => ⟨?_, fun cause hcause => ?_⟩, fun fault hfault => ⟨?_, ?_⟩⟩
  · obtain ⟨written, gap, rfl, hgap, haccounts⟩ := (tokens_eq_ok_iff.mp hts).accounts
    rw [List.append_nil] at haccounts
    exact ⟨written.length, by simp, haccounts, by rwa [List.drop_left]⟩
  · rw [parse, hts]
    simp only [hcause]
    rfl
  · rw [parse, hfault]
  · obtain ⟨ts, front, c, back, rfl, hreaches, hstuck, rfl⟩ := tokens_eq_error_iff.mp hfault
    refine ⟨ts, front, c, back, rfl, hreaches, hstuck, rfl, fun us before rest heq hus hrest => ?_⟩
    cases rest with
    | nil => exact hrest.elim
    | cons d rest =>
      rw [heq, hus.tokens_eq_error hrest] at hfault
      exact (SyntaxFault.mk.inj (Except.error.inj hfault)).2.ge

/-- A text with a string, signs without blanks between them, and blanks at its ends. -/
def tightText : Text := " a.b===.5+'c d'\n".text

/-- The tokens of `tightText`. -/
def tightTokens : List Located :=
  [⟨.identifier ['a'], 1⟩, ⟨.punct .dot, 2⟩, ⟨.identifier ['b'], 3⟩, ⟨.operator .strictEqual, 4⟩,
    ⟨.number ['.', '5'], 7⟩, ⟨.operator .plus, 9⟩, ⟨.string ['c', ' ', 'd'], 10⟩]

/-- A text with a quote that is not closed. -/
def openText : Text := "a ?? 'b".text

/-- A text that ends in front of an operand. -/
def shortText : Text := "a + ".text

set_option maxRecDepth 4000 in
theorem tokens_account_for_text_tight :
    (tokens tightText = .ok tightTokens ∧
      ∃ last ≤ tightText.length, Accounts tightText tightTokens last ∧
        ∀ c ∈ tightText.drop last, isBlank c = true) ∧
    parse shortText = .error (.malformed ⟨.unexpectedEnd, 4⟩) ∧
    tokens openText = .error ⟨.unterminatedString, 5⟩ ∧ parse openText = .error (.malformed ⟨.unterminatedString, 5⟩) := by
  have htight : tokens tightText = .ok tightTokens := by cbv
  have hshort : tokens shortText = .ok [⟨.identifier ['a'], 0⟩, ⟨.operator .plus, 2⟩] := by cbv
  have hopen : tokens openText = .error ⟨.unterminatedString, 5⟩ := by cbv
  exact ⟨⟨htight, ((tokens_account_for_text tightText).1 _ htight).1⟩,
    ((tokens_account_for_text shortText).1 _ hshort).2 _ (by cbv), hopen,
    ((tokens_account_for_text openText).2 _ hopen).1⟩

end HtmlTemplate.Expr
