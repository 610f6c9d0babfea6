import HtmlTemplate.Proofs.Expr.Completeness
import Mathlib.Algebra.Module.Submodule.Lattice
import Mathlib.Computability.Primrec.List

/-!
# The language of the parser

The parser is given more steps than it takes on any tokens, be they an expression or not (`ofTokens_settles`). So a
text that the grammar does not derive is refused for a fault of syntax (`parse_accepts_grammar`).
-/

namespace HtmlTemplate.Expr

namespace Parser

/-! ## Steps -/

/-- The steps were enough. -/
def Settles {α : Type} (x : Except TokenError α) : Prop := x ≠ .error .outOfSteps

section Settling

variable {α β : Type} {ts rest : Tokens} {s : Symbol} {e : Expr}

/-- What a parser leaves is shorter than what it had. -/
theorem Reads.shorter (h : Reads s ts e rest) : rest.length < ts.length := by
  obtain ⟨front, rfl, d⟩ := h
  obtain ⟨t, more, ht, -⟩ := d.first
  obtain ⟨_, _, rfl, -⟩ := List.map_eq_cons_iff.mp ht
  simp only [List.length_append, List.length_cons]
  omega

/-- A reader that settles, and a second one that settles on what the first leaves. -/
theorem Settles.bind {x : Except TokenError (α × Tokens)} {f : α × Tokens → Except TokenError β}
    {tree : α → Expr} (hx : Settles x) (reads : Faithful ts (fun a => Reads s ts (tree a)) x)
    (hf : ∀ a rest, rest.length < ts.length → Settles (f (a, rest))) : Settles (x >>= f) := by
  match x, hx, reads with
  | .ok (a, rest), _, reads => exact hf a rest reads.shorter
  | .error fault, hx, _ => exact fun h => hx (by cases h; rfl)

theorem Settles.expect {mark : Token} {cause : SyntaxCause} {f : Tokens → Except TokenError β}
    (hf : ∀ rest, rest.length < ts.length → Settles (f rest)) : Settles (expect mark cause ts >>= f) := by
  unfold Parser.expect
  split
  · rename_i t rest
    split
    · exact hf rest (by simp)
    · exact fun h => by cases h
  · exact fun h => by cases h

end Settling

/-- With `n` steps the parsers settle on tokens that are not too many. -/
structure Steady (n : Nat) : Prop where
  expression : ∀ ts : Tokens, 20 * ts.length + 18 ≤ n → Settles (expression n ts)
  binary : ∀ (l : Level) (ts : Tokens), 20 * ts.length + (Symbol.level l).rank ≤ n → Settles (binary n l ts)
  operands : ∀ (l : Level) (left : Expr) (ts : Tokens), 20 * ts.length < n → Settles (operands n l left ts)
  operand : ∀ (l : Level) (ts : Tokens), 20 * ts.length + l.operand.rank < n → Settles (operand n l ts)
  unary : ∀ ts : Tokens, 20 * ts.length + 3 ≤ n → Settles (unary n ts)
  access : ∀ ts : Tokens, 20 * ts.length + 2 ≤ n → Settles (access n ts)
  accesses : ∀ (object : Expr) (ts : Tokens), 20 * ts.length < n → Settles (accesses n object ts)
  primary : ∀ ts : Tokens, 20 * ts.length < n → Settles (primary n ts)
  items : ∀ ts : Tokens, 20 * ts.length + 19 ≤ n → Settles (items n ts)

namespace Steady

variable {n : Nat}

theorem zero : Steady 0 where
  expression _ hn := absurd hn (by omega)
  binary l _ hn := absurd hn (by have := l.rank_operand; omega)
  operands _ _ _ hn := absurd hn (by omega)
  operand _ _ hn := absurd hn (by omega)
  unary _ hn := absurd hn (by omega)
  access _ hn := absurd hn (by omega)
  accesses _ _ hn := absurd hn (by omega)
  primary _ hn := absurd hn (by omega)
  items _ hn := absurd hn (by omega)

theorem expression_succ (h : Steady n) (ts : Tokens) (hn : 20 * ts.length + 18 ≤ n + 1) :
    Settles (Parser.expression (n + 1) ts) := by
  rw [Parser.expression]
  refine (h.binary .orElse ts (by simp only [Symbol.rank, Level.rank]; omega)).bind ((sound n).binary .orElse ts) ?_
  intro test rest hr
  dsimp only
  split
  · rename_i rest
    simp only [List.length_cons] at hr
    refine (h.expression rest (by omega)).bind ((sound n).expression rest) ?_
    intro consequent rest hr
    dsimp only
    refine Settles.expect ?_
    intro rest hr
    refine (h.expression rest (by omega)).bind ((sound n).expression rest) ?_
    exact fun _ _ _ h => by cases h
  · exact fun h => by cases h

theorem binary_succ (h : Steady n) (l : Level) (ts : Tokens) (hn : 20 * ts.length + (Symbol.level l).rank ≤ n + 1) :
    Settles (Parser.binary (n + 1) l ts) := by
  have loose := l.rank_operand
  rw [Parser.binary]
  refine (h.operand l ts (by omega)).bind ((sound n).operand l ts) ?_
  intro left rest hr
  exact h.operands l left rest (by omega)

theorem operands_succ (h : Steady n) (l : Level) (left : Expr) (ts : Tokens) (hn : 20 * ts.length < n + 1) :
    Settles (Parser.operands (n + 1) l left ts) := by
  cases ts with
  | nil => exact fun h => by cases h
  | cons t ts =>
    simp only [List.length_cons] at hn
    rw [Parser.operands]
    split
    · exact fun h => by cases h
    · rename_i join hj
      have tight : l.operand.rank ≤ 15 := by cases l <;> decide
      refine (h.operand l ts (by omega)).bind ((sound n).operand l ts) ?_
      intro right rest hr
      exact h.operands l _ rest (by omega)

theorem operand_succ (h : Steady n) (l : Level) (ts : Tokens) (hn : 20 * ts.length + l.operand.rank < n + 1) :
    Settles (Parser.operand (n + 1) l ts) := by
  rw [Parser.operand]
  have hn := Nat.le_of_lt_succ hn
  cases l <;> first | exact h.binary _ ts hn | exact h.unary ts hn

theorem unary_succ (h : Steady n) (ts : Tokens) (hn : 20 * ts.length + 3 ≤ n + 1) :
    Settles (Parser.unary (n + 1) ts) := by
  rw [Parser.unary]
  split
  · rename_i op hu
    obtain ⟨t, ht, -⟩ := Option.bind_eq_some_iff.mp hu
    obtain ⟨ts, rfl⟩ := List.head?_eq_some_iff.mp ht
    simp only [List.length_cons] at hn
    refine (h.unary ts (by omega)).bind ((sound n).unary ts) ?_
    exact fun _ _ _ h => by cases h
  · exact h.access ts (by omega)

theorem access_succ (h : Steady n) (ts : Tokens) (hn : 20 * ts.length + 2 ≤ n + 1) :
    Settles (Parser.access (n + 1) ts) := by
  rw [Parser.access]
  refine (h.primary ts (by omega)).bind ((sound n).primary ts) ?_
  intro object rest hr
  exact h.accesses object rest (by omega)

theorem accesses_succ (h : Steady n) (object : Expr) (ts : Tokens) (hn : 20 * ts.length < n + 1) :
    Settles (Parser.accesses (n + 1) object ts) := by
  unfold Parser.accesses
  split
  · rename_i heq
    cases heq
  · rename_i heq
    cases heq
    split
    · simp only [List.length_cons] at hn
      split
      · exact h.accesses _ _ (by omega)
      · exact fun h => by cases h
    · exact fun h => by cases h
  · rename_i ts heq
    cases heq
    simp only [List.length_cons] at hn
    refine (h.expression ts (by omega)).bind ((sound n).expression ts) ?_
    intro key rest hr
    dsimp only
    refine Settles.expect ?_
    intro rest hr
    exact h.accesses _ rest (by omega)
  · exact fun h => by cases h

theorem primary_succ (h : Steady n) (ts : Tokens) (hn : 20 * ts.length < n + 1) :
    Settles (Parser.primary (n + 1) ts) := by
  cases ts with
  | nil => exact fun h => by cases h
  | cons t ts =>
    simp only [List.length_cons] at hn
    unfold Parser.primary
    dsimp only
    split
    · split <;> exact fun h => by cases h
    · refine (h.expression ts (by omega)).bind ((sound n).expression ts) ?_
      intro inner rest hr
      exact Settles.expect fun _ _ h => by cases h
    · split
      · exact fun h => by cases h
      · refine (h.items ts (by omega)).bind ((sound n).items ts) ?_
        intro es rest hr
        exact Settles.expect fun _ _ h => by cases h
    · split <;> exact fun h => by cases h

theorem items_succ (h : Steady n) (ts : Tokens) (hn : 20 * ts.length + 19 ≤ n + 1) :
    Settles (Parser.items (n + 1) ts) := by
  rw [Parser.items]
  refine (h.expression ts (by omega)).bind ((sound n).expression ts) ?_
  intro item rest hr
  dsimp only
  split
  · rename_i rest
    simp only [List.length_cons] at hr
    refine (h.items rest (by omega)).bind ((sound n).items rest) ?_
    exact fun _ _ _ h => by cases h
  · exact fun h => by cases h

theorem succ (h : Steady n) : Steady (n + 1) :=
  ⟨h.expression_succ, h.binary_succ, h.operands_succ, h.operand_succ, h.unary_succ, h.access_succ, h.accesses_succ,
    h.primary_succ, h.items_succ⟩

end Steady

/-- The parsers settle, with any number of steps that suits the tokens. -/
theorem steady : ∀ n, Steady n
  | 0 => .zero
  | n + 1 => (steady n).succ

end Parser

/-- **The steps are enough**, whether the tokens are an expression or not. -/
theorem ofTokens_settles (ts : List Located) : ofTokens ts ≠ .error .outOfSteps := by
  have settled := (Parser.steady (stepsFor ts.length)).expression ts (by unfold stepsFor; omega)
  obtain ⟨e, -, he⟩ | ⟨fault, hx, he⟩ | ⟨cause, position, -, he⟩ := ofTokens_cases ts
  · rw [he]
    exact fun h => by cases h
  · rw [hx] at settled
    rw [he]
    rintro ⟨⟩
    exact settled rfl
  · rw [he]
    exact fun h => by cases h

/-! ## The language -/

/-- Tokens that the grammar derives are an expression. -/
theorem ofTokens_of_derives {ts : List Located} {e : Expr} (h : Derives .expression (ts.map Located.token) e) :
    ofTokens ts = .ok e := by
  have answer := Parser.complete h (stepsFor ts.length) [] (by simp only [Symbol.rank, stepsFor]; omega) (.nil _)
  simp only [Parser.reader, List.append_nil] at answer
  obtain ⟨e', hx, he⟩ | ⟨fault, hx, -⟩ | ⟨cause, position, rfl | ⟨e', t, rest, hx⟩, -⟩ := ofTokens_cases ts
  · rw [answer] at hx
    cases hx
    exact he
  · rw [answer] at hx
    cases hx
  · obtain ⟨t, more, hts, -⟩ := h.first
    cases hts
  · rw [answer] at hx
    cases hx

/-- The parser gives a tree for tokens if and only if the grammar derives them with it. -/
theorem ofTokens_eq_ok_iff {ts : List Located} {e : Expr} :
    ofTokens ts = .ok e ↔ Derives .expression (ts.map Located.token) e :=
  ⟨derives_of_ofTokens, ofTokens_of_derives⟩

/-- Tokens are derived from a symbol with one tree at most. -/
theorem Derives.unique {s : Symbol} {xs : List Token} {e e' : Expr} (h : Derives s xs e) (h' : Derives s xs e') :
    e = e' := by
  have hxs : (xs.map (Located.mk · 0)).map Located.token = xs := by simp [Function.comp_def]
  rw [← hxs] at h h'
  have answer := Parser.complete h _ [] (Nat.le_refl _) (.nil _)
  rw [Parser.complete h' _ [] (Nat.le_refl _) (.nil _)] at answer
  cases answer
  rfl

/-- The text splits into tokens that the grammar derives, with the tree `e`. -/
def Writes (text : Text) (e : Expr) : Prop :=
  ∃ ts, tokens text = .ok ts ∧ Derives .expression (ts.map Located.token) e

/-- No integer in the text has more digits than are read. -/
def IntegersFit (text : Text) : Prop := ∀ ts, tokens text = .ok ts → ∀ t ∈ ts, ¬ t.token.TooLong

/-- The trees of a text are the trees of its tokens. -/
theorem parse_of_tokens {text : Text} {ts : List Located} {e : Expr} (h : tokens text = .ok ts) :
    parse text = .ok e ↔ ofTokens ts = .ok e := by
  unfold parse
  rw [h]
  dsimp only
  split
  · rename_i e' he
    rw [he, Except.ok.injEq, Except.ok.injEq]
  all_goals
    rename_i he
    rw [he]
    exact ⟨nofun, nofun⟩

theorem parse_eq_ok_iff {text : Text} {e : Expr} : parse text = .ok e ↔ Writes text e := by
  cases h : tokens text with
  | error fault =>
    have none : parse text = .error (.malformed fault) := by rw [parse, h]
    rw [none]
    refine ⟨nofun, fun ⟨ts, hts, _⟩ => ?_⟩
    rw [h] at hts
    cases hts
  | ok ts =>
    rw [parse_of_tokens h, ofTokens_eq_ok_iff]
    refine ⟨fun d => ⟨ts, h, d⟩, fun ⟨us, hus, d⟩ => ?_⟩
    rw [h] at hus
    cases hus
    exact d

/-- The fault shows in the text: at a character where no token begins, or at a token where the parser stops. -/
def Shows (text : Text) (fault : SyntaxFault) : Prop :=
  tokens text = .error fault ∨ ∃ ts position, tokens text = .ok ts ∧
    ofTokens ts = .error (.unexpected fault.cause position) ∧ fault.position = position.getD text.length

/-- A text whose integers fit is refused for a fault that shows in it. -/
theorem parse_of_not_writes {text : Text} (fit : IntegersFit text) (h : ∀ e, ¬ Writes text e) :
    ∃ fault, parse text = .error (.malformed fault) ∧ Shows text fault := by
  unfold parse Shows
  cases ht : tokens text with
  | error fault => exact ⟨fault, rfl, .inl rfl⟩
  | ok ts =>
    cases hp : ofTokens ts with
    | ok e => exact absurd ⟨ts, ht, derives_of_ofTokens hp⟩ (h e)
    | error fault =>
      cases fault with
      | unexpected cause position =>
        exact ⟨⟨cause, position.getD text.length⟩, by simp only [hp], .inr ⟨ts, position, rfl, hp, rfl⟩⟩
      | numeralTooLong digits =>
        obtain ⟨t, mem, long⟩ := tooLong_of_ofTokens hp
        exact absurd long (fit ts ht t mem)
      | outOfSteps => exact absurd hp (ofTokens_settles ts)

/-- **The parser accepts the grammar.** A text has the tree that the grammar derives for its tokens, and no tokens
have two. A text without a derivation is refused for a fault of syntax, if its integers fit. -/
theorem parse_accepts_grammar (text : Text) :
    (∀ e, parse text = .ok e ↔ Writes text e) ∧
    (IntegersFit text → (∀ e, ¬ Writes text e) →
      ∃ fault, parse text = .error (.malformed fault) ∧ Shows text fault) ∧
    ∀ (s : Symbol) (xs : List Token) (e e' : Expr), Derives s xs e → Derives s xs e' → e = e' :=
  ⟨fun _ => parse_eq_ok_iff, parse_of_not_writes, fun _ _ _ _ => Derives.unique⟩

/-- A text with a word for a sign, a keyword for a name and two signs of one level. -/
def sample : Text := "a or b ? c.null : [d - e - f]".text

/-- The tree of `sample`. -/
def sampleTree : Expr :=
  .conditional (.logical .either (.identifier ['a']) (.identifier ['b'])) (.member (.identifier ['c']) "null".text)
    (.array [.binary .sub (.binary .sub (.identifier ['d']) (.identifier ['e'])) (.identifier ['f'])])

/-- A text that ends too early. -/
def unfinished : Text := "a +".text

set_option maxRecDepth 2000 in
theorem parse_accepts_grammar_sample :
    Writes sample sampleTree ∧ (∀ e, Writes sample e → e = sampleTree) ∧ IntegersFit unfinished ∧
      ∃ fault, parse unfinished = .error (.malformed fault) ∧ Shows unfinished fault := by
  obtain ⟨trees, -, unique⟩ := parse_accepts_grammar sample
  obtain ⟨trees', refusal, -⟩ := parse_accepts_grammar unfinished
  have read : parse sample = .ok sampleTree := by cbv
  have refused : parse unfinished = .error (.malformed ⟨.unexpectedEnd, 3⟩) := by cbv
  have marks : tokens unfinished = .ok [⟨.identifier ['a'], 0⟩, ⟨.operator .plus, 2⟩] := by cbv
  have fit : IntegersFit unfinished := by
    intro ts hts t ht
    rw [marks] at hts
    cases hts
    simp only [List.mem_cons, List.not_mem_nil, or_false] at ht
    rcases ht with rfl | rfl <;> exact id
  refine ⟨(trees _).mp read, fun e he => ?_, fit, refusal fit fun e he => ?_⟩
  · obtain ⟨ts, hts, d⟩ := (trees _).mp read
    obtain ⟨us, hus, d'⟩ := he
    rw [hts] at hus
    cases hus
    exact unique _ _ _ _ d' d
  · rw [(trees' e).mpr he] at refused
    cases refused

end HtmlTemplate.Expr
