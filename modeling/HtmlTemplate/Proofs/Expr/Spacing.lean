import HtmlTemplate.Proofs.Expr.Language
import HtmlTemplate.Proofs.Expr.Lexing

/-!
# Blanks between tokens

Whatever stands behind a blank leaves the tokens in front of it as they are (`Reaches.extend`), and the place where a
text begins changes nothing but the positions of its tokens (`tokensFrom_add`). So the tokens of two texts with blanks
between them are those of the one and of the other, and blanks between two tokens are not seen by the parser.
-/

namespace HtmlTemplate.Expr

/-- The token, `n` places further on. -/
def Located.shift (n : Nat) (t : Located) : Located := ⟨t.token, t.position + n⟩

theorem map_token_shift (n : Nat) (ts : List Located) :
    (ts.map (Located.shift n)).map Located.token = ts.map Located.token := by
  rw [List.map_map]
  rfl

/-- The lexer takes the same tokens wherever a text begins. -/
theorem tokensFrom_add (position n : Nat) (s : Text) :
    tokensFrom (position + n) s =
      match tokensFrom position s with
      | .ok ts => .ok (ts.map (Located.shift n))
      | .error fault => .error ⟨fault.cause, fault.position + n⟩ := by
  generalize hlength : s.length = k
  induction k using Nat.strongRecOn generalizing s position with
  | ind k ih =>
    cases s with
    | nil => simp [tokensFrom_nil]
    | cons c rest =>
      rw [tokensFrom, tokensFrom]
      cases scan c rest with
      | none => rfl
      | some lexeme =>
        have hrest := ih (rest.drop lexeme.extra).length (by rw [← hlength, List.length_drop, List.length_cons]; omega)
          (position + lexeme.extra + 1) (rest.drop lexeme.extra) rfl
        dsimp only
        rw [show position + n + lexeme.extra + 1 = position + lexeme.extra + 1 + n by omega, hrest]
        cases tokensFrom (position + lexeme.extra + 1) (rest.drop lexeme.extra) with
        | error fault => rfl
        | ok ts => simp [Located.shift]

namespace Reaches

variable {ts : List Located} {front tail other rest w : Text}

/-- The tokens that have been taken stay the same when another text stands behind a blank. -/
theorem extend (middle : Text) (h : Reaches ts front (middle ++ tail))
    (hother : ∀ c ∈ other.head?, isBlank c = true) : Reaches ts front (middle ++ other) := by
  generalize hrest : middle ++ tail = rest at h
  induction h generalizing middle with
  | start => exact .start _
  | @blank _ _ _ c _ hblank ih => exact (ih (c :: middle) (congrArg _ hrest)).blank hblank
  | token _ hlongest ih =>
    subst hrest
    have hgo := ih _ (List.append_assoc ..)
    rw [List.append_assoc] at hgo
    exact hgo.token (hlongest.of_blank hother)

theorem skip (h : Reaches ts front (w ++ rest)) (hw : ∀ c ∈ w, isBlank c = true) : Reaches ts (front ++ w) rest := by
  induction w generalizing front with
  | nil => rwa [List.append_nil]
  | cons c w ih =>
    rw [List.forall_mem_cons] at hw
    have hgo := ih (h.blank hw.1) hw.2
    rwa [List.append_assoc] at hgo

/-- Blanks can be put in wherever a token has ended. -/
theorem insert (h : Reaches ts front rest) (hw : ∀ c ∈ w, isBlank c = true) : Reaches ts (front ++ w) rest := by
  cases w with
  | nil => rwa [List.append_nil]
  | cons c w =>
    refine skip (extend [] h ?_) hw
    rintro d ⟨⟩
    exact hw c List.mem_cons_self

end Reaches

theorem parse_of_error {s : Text} {fault : SyntaxFault} (h : tokens s = .error fault) :
    parse s = .error (.malformed fault) := by
  rw [parse, h]

/-- Blanks that are put in where a token has ended do not change the tree. -/
theorem Reaches.parse_insert {ts : List Located} {front back w : Text} (h : Reaches ts front back)
    (hw : ∀ c ∈ w, isBlank c = true) (e : Expr) :
    parse (front ++ w ++ back) = .ok e ↔ parse (front ++ back) = .ok e := by
  have hspaced := (h.insert hw).tokens_eq
  have hplain := h.tokens_eq
  rw [List.length_append, tokensFrom_add] at hspaced
  cases hback : tokensFrom front.length back with
  | error fault =>
    rw [hback] at hspaced hplain
    rw [parse_of_error hspaced, parse_of_error hplain]
    exact iff_of_false nofun nofun
  | ok us =>
    rw [hback] at hspaced hplain
    rw [parse_of_tokens hspaced, parse_of_tokens hplain, ofTokens_eq_ok_iff, ofTokens_eq_ok_iff, List.map_append,
      map_token_shift, ← List.map_append]

/-- **Blanks keep tokens apart.** Two texts with blanks between them have the tokens of the one and of the other, these
further on by what stands in front of them; and wherever blanks are put in between two tokens of a text, or at one of its
ends, it has the tree that it had. -/
theorem tokens_across_blanks :
    (∀ (s w t : Text) (ts us : List Located), w ≠ [] → (∀ c ∈ w, isBlank c = true) → tokens s = .ok ts →
      tokens t = .ok us → tokens (s ++ w ++ t) = .ok (ts ++ us.map (Located.shift (s.length + w.length)))) ∧
    ∀ (front w back : Text) (ts : List Located), Reaches ts front back → (∀ c ∈ w, isBlank c = true) →
      ∀ e, parse (front ++ w ++ back) = .ok e ↔ parse (front ++ back) = .ok e := by
  refine ⟨fun s w t ts us hne hw hts hus => ?_, fun front w back ts h hw e => h.parse_insert hw e⟩
  have hhead : ∀ c ∈ (w ++ t).head?, isBlank c = true := by
    obtain ⟨c, w, rfl⟩ := List.exists_cons_of_ne_nil hne
    rintro d ⟨⟩
    exact hw c List.mem_cons_self
  have hfront : Reaches ts s (w ++ t) := .extend [] (tokens_eq_ok_iff.mp hts) hhead
  have hbehind : Reaches ts (s ++ w) t := hfront.skip hw
  have hshift := tokensFrom_add 0 (s ++ w).length t
  rw [← tokens, hus, Nat.zero_add] at hshift
  rw [hbehind.tokens_eq, hshift, List.length_append]
  rfl

set_option maxRecDepth 2000 in
theorem tokens_across_blanks_quoted :
    tokens "'a b' \t-1".text = .ok [⟨.string ['a', ' ', 'b'], 0⟩, ⟨.operator .minus, 7⟩, ⟨.number ['1'], 8⟩] ∧
      parse "a \n.b".text = .ok (.member (.identifier ['a']) ['b']) := by
  have hleft : tokens "'a b'".text = .ok [⟨.string ['a', ' ', 'b'], 0⟩] := by cbv
  have hright : tokens "-1".text = .ok [⟨.operator .minus, 0⟩, ⟨.number ['1'], 1⟩] := by cbv
  have hname : Reaches [⟨.identifier ['a'], 0⟩] ['a'] ".b".text := by
    have hscan : scan 'a' ".b".text = some ⟨some (.identifier ['a']), 0⟩ := by cbv
    obtain ⟨-, front, back, hrest, hlength, hlongest⟩ := longest_of_scan hscan
    obtain rfl := List.length_eq_zero_iff.mp hlength
    rw [List.nil_append] at hrest
    rw [hrest]
    exact .token (.start ('a' :: back)) hlongest
  exact ⟨tokens_across_blanks.1 _ [' ', '\t'] _ _ _ (by decide) (List.all_eq_true.mp (by decide)) hleft hright,
    (tokens_across_blanks.2 ['a'] [' ', '\n'] ".b".text _ hname (List.all_eq_true.mp (by decide)) _).mpr (by cbv)⟩

end HtmlTemplate.Expr
