import HtmlTemplate.Proofs.Expr.Soundness

/-!
# What the grammar derives is read by the parsers

Tokens that a symbol yields are read by its parser to the end, with the tree of the derivation, whatever comes after
them, as long as the next token cannot go on with a phrase of the symbol (`complete`).

The induction is on the derivation. A rule that repeats a symbol is read by a loop, which does not come back between
two operands; there the induction says where the loop stands behind the tokens (`Advances`), and not that the parser
stops (`Answers`).

The symbols are ranked by how loosely they bind. The rank serves twice: a token goes on with the phrases of a rank at
least its own `reach`, and a parser needs 20 steps for every token and as many more as the rank of its symbol.
-/

namespace HtmlTemplate.Expr

/-! ## Ranks -/

/-- How loosely a level binds. -/
def Level.rank : Level → Nat
  | .product => 5
  | .sum => 7
  | .relation => 9
  | .equality => 11
  | .both => 13
  | .either => 15
  | .orElse => 17

/-- How loosely a symbol binds. -/
def Symbol.rank : Symbol → Nat
  | .primary => 1
  | .postfixed => 2
  | .unary => 3
  | .level l => l.rank
  | .expression | .conditional => 18
  | .items => 19

/-- The least rank of the symbols whose phrases a token can go on with. -/
def Token.reach : Token → Nat
  | .punct .dot | .punct .openBracket => 2
  | .operator .times | .operator .slash | .operator .modulo => 5
  | .operator .plus | .operator .minus => 7
  | .operator .less | .operator .atMost | .operator .greater | .operator .atLeast => 9
  | .operator .equal | .operator .unequal | .operator .strictEqual | .operator .strictUnequal => 11
  | .operator .both | .keyword .and => 13
  | .operator .either | .keyword .or => 15
  | .operator .orElse => 17
  | .operator .question => 18
  | .punct .comma => 19
  | _ => 20

theorem Symbol.rank_pos (s : Symbol) : 0 < s.rank := by
  cases s with
  | level l => cases l <;> decide
  | _ => decide

/-- The operands of a level bind tighter than the level. -/
theorem Level.rank_operand (l : Level) : l.operand.rank + 2 ≤ (Symbol.level l).rank := by
  cases l <;> decide

/-- The parsers join operands at the signs of the grammar, which reach the rank of their level. -/
theorem joins?_of_mem_signs {l : Level} {sign : Token} {join : Expr → Expr → Expr} (h : (sign, join) ∈ l.signs) :
    l.joins? sign = some join ∧ sign.reach = (Symbol.level l).rank := by
  have all : ∀ p ∈ l.signs, l.joins? p.1 = some p.2 ∧ p.1.reach = (Symbol.level l).rank := by
    cases l <;> simp [Level.signs, Level.joins?, Symbol.rank, Level.rank, Token.reach]
  exact all (sign, join) h

theorem unary?_of_mem_leadingSigns {sign : Token} {op : UnaryOp} (h : (sign, op) ∈ leadingSigns) :
    unary? sign = some op := by
  have all : ∀ p ∈ leadingSigns, unary? p.1 = some p.2 := by simp [leadingSigns, unary?]
  exact all (sign, op) h

theorem atom?_of_mem_constants {word : Keyword} {value : Value} (h : (word, value) ∈ constants) :
    atom? (.keyword word) = some (.literal value) := by
  have all : ∀ p ∈ constants, atom? (.keyword p.1) = some (.literal p.2) := by simp [constants, atom?]
  exact all (word, value) h

/-! ## First tokens -/

/-- Tokens that a symbol yields begin with a token that closes no bracket, and with no sign if the symbol is tight. -/
theorem Derives.first {s : Symbol} {xs : List Token} {e : Expr} (h : Derives s xs e) :
    ∃ t rest, xs = t :: rest ∧ t ≠ .punct .closeBracket ∧ (s.rank ≤ 2 → unary? t = none) := by
  induction h with
  | expression _ ih | test _ ih | last _ ih =>
    obtain ⟨t, rest, rfl, hc, -⟩ := ih
    exact ⟨t, rest, rfl, hc, fun hr => absurd hr (by decide)⟩
  | choice _ _ _ ih | more _ _ ih =>
    obtain ⟨t, rest, rfl, hc, -⟩ := ih
    exact ⟨t, _, rfl, hc, fun hr => absurd hr (by decide)⟩
  | @operand l _ _ _ ih | @joined l _ _ _ _ _ _ _ _ _ ih =>
    obtain ⟨t, rest, rfl, hc, -⟩ := ih
    exact ⟨t, _, rfl, hc, fun hr => absurd hr (by cases l <;> decide)⟩
  | signed mem =>
    refine ⟨_, _, rfl, ?_, fun hr => absurd hr (by decide)⟩
    rintro rfl
    cases unary?_of_mem_leadingSigns mem
  | unsigned _ ih =>
    obtain ⟨t, rest, rfl, hc, -⟩ := ih
    exact ⟨t, rest, rfl, hc, fun hr => absurd hr (by decide)⟩
  | whole _ ih | property _ ih | keywordProperty _ ih | index _ _ ih =>
    obtain ⟨t, rest, rfl, hc, hu⟩ := ih
    exact ⟨t, _, rfl, hc, fun _ => hu (by decide)⟩
  | number | string | name | group | emptyArray | array => exact ⟨_, _, rfl, nofun, fun _ => rfl⟩
  | @constant word _ mem =>
    refine ⟨_, _, rfl, nofun, fun _ => ?_⟩
    cases word <;> first | rfl | cases atom?_of_mem_constants mem

namespace Parser

/-! ## Answers -/

/-- The parser of a symbol; the parser of items gives them as an array. -/
def reader : Symbol → Nat → Tokens → Parsed
  | .expression | .conditional => expression
  | .level l => fun n ts => binary n l ts
  | .unary => unary
  | .postfixed => access
  | .primary => primary
  | .items => fun n ts => (items n ts).map fun (es, rest) => (.array es, rest)

/-- The next token cannot go on with a phrase of the symbol. -/
def Ends (s : Symbol) (rest : Tokens) : Prop := ∀ t ∈ rest.head?, s.rank < t.token.reach

/-- The parser of `s` reads `ts`, and no more, as `e`. -/
def Answers (s : Symbol) (ts : Tokens) (e : Expr) : Prop :=
  ∀ n rest, 20 * ts.length + s.rank ≤ n → Ends s rest → reader s n (ts ++ rest) = .ok (e, rest)

/-- The parser of `whole`, which repeats `inner`, reads `ts` as `e` and goes on behind them. -/
def Advances (whole inner : Symbol) (goOn : Nat → Expr → Tokens → Parsed) (ts : Tokens) (e : Expr) : Prop :=
  ∀ n rest, 20 * ts.length + whole.rank ≤ n → Ends inner rest →
    ∃ m, n ≤ m + 20 * ts.length + 1 ∧ reader whole n (ts ++ rest) = goOn m e rest

theorem Ends.nil (s : Symbol) : Ends s [] := nofun

theorem Ends.cons {s : Symbol} {token : Token} {place : Nat} {rest : Tokens} (h : s.rank < token.reach) :
    Ends s (⟨token, place⟩ :: rest) := by
  rintro _ ⟨⟩
  exact h

theorem Ends.mono {s s' : Symbol} {rest : Tokens} (h : Ends s rest) (hs : s'.rank ≤ s.rank) : Ends s' rest :=
  fun t ht => Nat.lt_of_le_of_lt hs (h t ht)

/-- A parser that has steps for some tokens has a first one. -/
theorem exists_succ {s : Symbol} {ts : Tokens} {n : Nat} (h : 20 * ts.length + s.rank ≤ n) : ∃ k, n = k + 1 :=
  Nat.exists_eq_add_one.mpr (by have := s.rank_pos; omega)

theorem ok_bind {α β : Type} (a : α) (f : α → Except TokenError β) : (Except.ok a >>= f) = f a := rfl

theorem expect_mark {mark : Token} {cause : SyntaxCause} {t : Located} {rest : Tokens} (h : t.token = mark) :
    expect mark cause (t :: rest) = .ok rest := if_pos h

/-! ## Levels of operators -/

section Levels

variable {l : Level} {xs ys ts : Tokens} {t : Located} {e e₁ e₂ : Expr}

theorem operand_of_answers (h : Answers l.operand ts e) {n : Nat} {rest : Tokens}
    (hn : 20 * ts.length + l.operand.rank < n) (hr : Ends l.operand rest) :
    operand n l (ts ++ rest) = .ok (e, rest) := by
  obtain ⟨k, rfl⟩ := Nat.exists_eq_add_one_of_ne_zero (Nat.ne_zero_of_lt hn)
  have hk := h k rest (by omega) hr
  rw [operand]
  cases l <;> exact hk

/-- Signs end before a token that binds looser than the level. -/
theorem operands_end {n : Nat} {rest : Tokens} (hr : Ends (.level l) rest) :
    operands (n + 1) l e rest = .ok (e, rest) := by
  cases rest with
  | nil => rfl
  | cons t rest =>
    rw [operands]
    cases hj : l.joins? t.token with
    | none => rfl
    | some join =>
      have reach := (joins?_of_mem_signs (mem_signs_of_joins? hj)).2
      exact absurd (hr t rfl) (by omega)

theorem Advances.operand (h : Answers l.operand ts e) : Advances (.level l) l.operand (operands · l) ts e := by
  intro n rest hn hr
  have loose := l.rank_operand
  obtain ⟨k, rfl⟩ := exists_succ hn
  refine ⟨k, by omega, ?_⟩
  simp only [reader, binary, operand_of_answers h (n := k) (by omega) hr, ok_bind]

theorem Advances.joined {join : Expr → Expr → Expr} (left : Advances (.level l) l.operand (operands · l) xs e₁)
    (mem : (t.token, join) ∈ l.signs) (right : Answers l.operand ys e₂) :
    Advances (.level l) l.operand (operands · l) (xs ++ t :: ys) (join e₁ e₂) := by
  intro n rest hn hr
  have loose := l.rank_operand
  obtain ⟨joins, reach⟩ := joins?_of_mem_signs mem
  simp only [List.length_append, List.length_cons] at hn
  obtain ⟨m, hm, hleft⟩ := left n (t :: (ys ++ rest)) (by omega) (.cons (by omega))
  obtain ⟨k, rfl⟩ : ∃ k, m = k + 1 := Nat.exists_eq_add_one.mpr (by omega)
  refine ⟨k, by simp only [List.length_append, List.length_cons]; omega, ?_⟩
  rw [List.append_assoc, List.cons_append, hleft]
  simp only [operands, joins, operand_of_answers right (n := k) (by omega) hr, ok_bind]

theorem Advances.level (h : Advances (.level l) l.operand (operands · l) ts e) : Answers (.level l) ts e := by
  intro n rest hn hr
  have loose := l.rank_operand
  obtain ⟨m, hm, hread⟩ := h n rest hn (hr.mono (by omega))
  obtain ⟨k, rfl⟩ : ∃ k, m = k + 1 := Nat.exists_eq_add_one.mpr (by omega)
  rw [hread]
  exact operands_end hr

end Levels

/-! ## Operands -/

section Operands

variable {xs ys ts : Tokens} {t d : Located} {e key : Expr}

theorem Advances.whole (h : Answers .primary ts e) : Advances .postfixed .primary accesses ts e := by
  intro n rest hn hr
  obtain ⟨k, rfl⟩ := exists_succ hn
  have hk := h k rest (by simp only [Symbol.rank] at hn ⊢; omega) hr
  refine ⟨k, by omega, ?_⟩
  simp only [reader] at hk
  simp only [reader, access, hk, ok_bind]

theorem Advances.property {name : Text} (h : Advances .postfixed .primary accesses xs e)
    (dot : d.token = .punct .dot) (named : propertyName? t.token = some name) :
    Advances .postfixed .primary accesses (xs ++ [d, t]) (.member e name) := by
  intro n rest hn hr
  obtain ⟨_, place⟩ := d
  cases dot
  simp only [List.length_append, List.length_cons] at hn
  obtain ⟨m, hm, hread⟩ := h n (⟨.punct .dot, place⟩ :: t :: rest) (by omega) (.cons (by decide))
  obtain ⟨k, rfl⟩ : ∃ k, m = k + 1 := Nat.exists_eq_add_one.mpr (by omega)
  refine ⟨k, by simp only [List.length_append, List.length_cons]; omega, ?_⟩
  rw [List.append_assoc]
  simp only [List.cons_append, List.nil_append, hread, accesses, named]

theorem Advances.index {b c : Located} (h : Advances .postfixed .primary accesses xs e)
    (opens : b.token = .punct .openBracket) (inner : Answers .expression ys key)
    (closes : c.token = .punct .closeBracket) :
    Advances .postfixed .primary accesses (xs ++ b :: (ys ++ [c])) (.index e key) := by
  intro n rest hn hr
  obtain ⟨_, place⟩ := b
  cases opens
  simp only [List.length_append, List.length_cons, Symbol.rank] at hn
  obtain ⟨m, hm, hread⟩ := h n (⟨.punct .openBracket, place⟩ :: (ys ++ c :: rest))
    (by simp only [Symbol.rank]; omega) (.cons (by decide))
  obtain ⟨k, rfl⟩ : ∃ k, m = k + 1 := Nat.exists_eq_add_one.mpr (by omega)
  have hk := inner k (c :: rest) (by simp only [Symbol.rank]; omega) (.cons (by rw [closes]; decide))
  simp only [reader] at hk
  refine ⟨k, by simp only [List.length_append, List.length_cons]; omega, ?_⟩
  simp only [List.append_assoc, List.cons_append, List.nil_append, hread, accesses, hk, ok_bind, expect_mark closes]

theorem Advances.postfixed (h : Advances .postfixed .primary accesses ts e) : Answers .postfixed ts e := by
  intro n rest hn hr
  obtain ⟨m, hm, hread⟩ := h n rest hn (hr.mono (by decide))
  simp only [Symbol.rank] at hn
  obtain ⟨k, rfl⟩ : ∃ k, m = k + 1 := Nat.exists_eq_add_one.mpr (by omega)
  rw [hread]
  refine accesses_end fun t ht => ⟨fun dot => ?_, fun bracket => ?_⟩
  · exact absurd (hr t ht) (by rw [dot]; decide)
  · exact absurd (hr t ht) (by rw [bracket]; decide)

theorem Answers.unsigned (h : Answers .postfixed (t :: ts) e) (plain : unary? t.token = none) :
    Answers .unary (t :: ts) e := by
  intro n rest hn hr
  obtain ⟨k, rfl⟩ := exists_succ hn
  have hk := h k rest (by simp only [Symbol.rank] at hn ⊢; omega) (hr.mono (by decide))
  simpa only [reader, unary, List.cons_append, List.head?_cons, Option.bind_some, plain] using hk

theorem Answers.signed {op : UnaryOp} (h : Answers .unary ts e) (sign : unary? t.token = some op) :
    Answers .unary (t :: ts) (.unary op e) := by
  intro n rest hn hr
  obtain ⟨k, rfl⟩ := exists_succ hn
  have hk := h k rest (by simp only [List.length_cons] at hn; omega) hr
  simp only [reader] at hk
  simp only [reader, unary, List.cons_append, List.head?_cons, Option.bind_some, sign, List.drop_one, List.tail_cons,
    hk, ok_bind]
  rfl

end Operands

/-! ## Primaries -/

section Primaries

variable {ts : Tokens} {t b c : Located} {e : Expr}

theorem Answers.number {text : Text} {value : Value} (ht : t.token = .number text)
    (hv : numeralValue text = .ok value) : Answers .primary [t] (.literal value) := by
  intro n rest hn _
  obtain ⟨k, rfl⟩ := exists_succ hn
  simp only [reader, List.cons_append, List.nil_append, primary, ht, hv]
  rfl

theorem Answers.atom (ht : atom? t.token = some e) : Answers .primary [t] e := by
  intro n rest hn _
  obtain ⟨k, rfl⟩ := exists_succ hn
  obtain ⟨token, place⟩ := t
  simp only [reader, List.cons_append, List.nil_append]
  unfold primary
  dsimp only at ht ⊢
  split
  · cases ht
  · cases ht
  · cases ht
  · rw [ht]
    rfl

theorem Answers.group (opens : b.token = .punct .openParen) (inner : Answers .expression ts e)
    (closes : c.token = .punct .closeParen) : Answers .primary (b :: (ts ++ [c])) e := by
  intro n rest hn _
  obtain ⟨k, rfl⟩ := exists_succ hn
  simp only [List.length_append, List.length_cons] at hn
  have hk := inner k (c :: rest) (by simp only [Symbol.rank]; omega) (.cons (by rw [closes]; decide))
  simp only [reader] at hk
  simp only [reader, List.cons_append, List.append_assoc, List.nil_append, primary, opens, hk, ok_bind,
    expect_mark closes]
  rfl

theorem Answers.emptyArray (opens : b.token = .punct .openBracket) (closes : c.token = .punct .closeBracket) :
    Answers .primary [b, c] (.array []) := by
  intro n rest hn _
  obtain ⟨k, rfl⟩ := exists_succ hn
  obtain ⟨_, place⟩ := c
  cases closes
  simp only [reader, List.cons_append, List.nil_append, primary, opens]
  rfl

/-- The parser of items gives items. -/
theorem items_of_reader {n : Nat} {rest : Tokens} (h : reader .items n ts = .ok (e, rest)) :
    ∃ es, items n ts = .ok (es, rest) ∧ e = .array es := by
  simp only [reader] at h
  cases hi : items n ts with
  | error fault => rw [hi] at h; cases h
  | ok result => rw [hi] at h; cases h; exact ⟨_, rfl, rfl⟩

theorem Answers.array (opens : b.token = .punct .openBracket) (inner : Answers .items (t :: ts) e)
    (first : t.token ≠ .punct .closeBracket) (closes : c.token = .punct .closeBracket) :
    Answers .primary (b :: (t :: ts ++ [c])) e := by
  intro n rest hn _
  obtain ⟨k, rfl⟩ := exists_succ hn
  simp only [List.length_append, List.length_cons] at hn
  obtain ⟨es, hk, rfl⟩ := items_of_reader (inner k (c :: rest)
    (by simp only [Symbol.rank, List.length_cons]; omega) (.cons (by rw [closes]; decide)))
  simp only [List.cons_append] at hk
  simp only [reader, List.cons_append, List.append_assoc, List.nil_append, primary, opens]
  split
  · rename_i heq
    cases heq
    exact absurd rfl first
  · simp only [hk, ok_bind, expect_mark closes]
    rfl

end Primaries

/-! ## Conditionals and items -/

section Expressions

variable {xs ys zs ts : Tokens} {t q c : Located} {e e₁ e₂ e₃ : Expr} {es : List Expr}

theorem Answers.test (h : Answers (.level .orElse) ts e) : Answers .conditional ts e := by
  intro n rest hn hr
  obtain ⟨k, rfl⟩ := exists_succ hn
  have hk := h k rest (by simp only [Symbol.rank, Level.rank] at hn ⊢; omega) (hr.mono (by decide))
  simp only [reader] at hk
  simp only [reader, expression, hk, ok_bind]
  split
  · exact absurd (hr _ rfl) (by simp [Symbol.rank, Token.reach])
  · rfl

theorem Answers.choice (left : Answers (.level .orElse) xs e₁) (mark : q.token = .operator .question)
    (middle : Answers .expression ys e₂) (colon : c.token = .operator .colon) (right : Answers .expression zs e₃) :
    Answers .conditional (xs ++ q :: (ys ++ c :: zs)) (.conditional e₁ e₂ e₃) := by
  intro n rest hn hr
  obtain ⟨k, rfl⟩ := exists_succ hn
  obtain ⟨_, place⟩ := q
  cases mark
  simp only [List.length_append, List.length_cons, Symbol.rank] at hn
  have h₁ := left k (⟨.operator .question, place⟩ :: (ys ++ c :: (zs ++ rest)))
    (by simp only [Symbol.rank, Level.rank]; omega) (.cons (by decide))
  have h₂ := middle k (c :: (zs ++ rest)) (by simp only [Symbol.rank]; omega) (.cons (by rw [colon]; decide))
  have h₃ := right k rest (by simp only [Symbol.rank]; omega) hr
  simp only [reader] at h₁ h₂ h₃
  simp only [reader, List.cons_append, List.append_assoc, expression, h₁, ok_bind, h₂, expect_mark colon, h₃]
  rfl

theorem Answers.last (h : Answers .expression ts e) : Answers .items ts (.array [e]) := by
  intro n rest hn hr
  obtain ⟨k, rfl⟩ := exists_succ hn
  have hk := h k rest (by simp only [Symbol.rank] at hn ⊢; omega) (hr.mono (by decide))
  simp only [reader] at hk
  simp only [reader, items, hk, ok_bind]
  split
  · exact absurd (hr _ rfl) (by simp [Symbol.rank, Token.reach])
  · rfl

theorem Answers.more (item : Answers .expression xs e) (comma : c.token = .punct .comma)
    (others : Answers .items ys (.array es)) : Answers .items (xs ++ c :: ys) (.array (e :: es)) := by
  intro n rest hn hr
  obtain ⟨k, rfl⟩ := exists_succ hn
  obtain ⟨_, place⟩ := c
  cases comma
  simp only [List.length_append, List.length_cons] at hn
  have h₁ := item k (⟨.punct .comma, place⟩ :: (ys ++ rest))
    (by simp only [Symbol.rank] at hn ⊢; omega) (.cons (by decide))
  obtain ⟨_, h₂, ⟨⟩⟩ := items_of_reader (others k rest (by omega) hr)
  simp only [reader] at h₁
  simp only [reader, List.cons_append, List.append_assoc, items, h₁, ok_bind, h₂]
  rfl

end Expressions

/-! ## All derivations -/

/-- What the induction carries: the parsers that repeat advance, the others answer. -/
def Goes : Symbol → Tokens → Expr → Prop
  | .level l => Advances (.level l) l.operand (operands · l)
  | .postfixed => Advances .postfixed .primary accesses
  | s => Answers s

theorem Goes.answers {s : Symbol} {ts : Tokens} {e : Expr} (h : Goes s ts e) : Answers s ts e := by
  cases s with
  | level l => exact Advances.level h
  | postfixed => exact Advances.postfixed h
  | _ => exact h

theorem goes {s : Symbol} {xs : List Token} {e : Expr} (h : Derives s xs e) :
    ∀ ts : Tokens, ts.map Located.token = xs → Goes s ts e := by
  induction h with
  | expression _ ih => exact fun ts hts => (ih ts hts : Answers .conditional ts _)
  | test _ ih => exact fun ts hts => Answers.test (ih ts hts).answers
  | choice _ _ _ ih₁ ih₂ ih₃ =>
    intro ts hts
    obtain ⟨first, _, rfl, h₁, hts⟩ := List.map_eq_append_iff.mp hts
    obtain ⟨q, _, rfl, mark, hts⟩ := List.map_eq_cons_iff.mp hts
    obtain ⟨second, _, rfl, h₂, hts⟩ := List.map_eq_append_iff.mp hts
    obtain ⟨c, third, rfl, colon, h₃⟩ := List.map_eq_cons_iff.mp hts
    exact Answers.choice (ih₁ _ h₁).answers mark (ih₂ _ h₂) colon (ih₃ _ h₃)
  | operand _ ih => exact fun ts hts => Advances.operand (ih ts hts).answers
  | joined _ mem _ ih₁ ih₂ =>
    intro ts hts
    obtain ⟨first, _, rfl, h₁, hts⟩ := List.map_eq_append_iff.mp hts
    obtain ⟨t, second, rfl, rfl, h₂⟩ := List.map_eq_cons_iff.mp hts
    exact Advances.joined (ih₁ _ h₁) mem (ih₂ _ h₂).answers
  | signed mem _ ih =>
    intro ts hts
    obtain ⟨t, rest, rfl, rfl, h⟩ := List.map_eq_cons_iff.mp hts
    exact Answers.signed (ih _ h) (unary?_of_mem_leadingSigns mem)
  | unsigned d ih =>
    intro ts hts
    obtain ⟨_, _, rfl, -, plain⟩ := d.first
    obtain ⟨t, rest, rfl, rfl, -⟩ := List.map_eq_cons_iff.mp hts
    exact Answers.unsigned (ih _ hts).answers (plain (by decide))
  | whole _ ih => exact fun ts hts => Advances.whole (ih ts hts)
  | property _ ih | keywordProperty _ ih =>
    intro ts hts
    obtain ⟨first, _, rfl, h₁, hts⟩ := List.map_eq_append_iff.mp hts
    obtain ⟨d, _, rfl, dot, hts⟩ := List.map_eq_cons_iff.mp hts
    obtain ⟨t, _, rfl, named, hts⟩ := List.map_eq_cons_iff.mp hts
    obtain rfl := List.map_eq_nil_iff.mp hts
    exact Advances.property (ih _ h₁) dot (by rw [named]; rfl)
  | index _ _ ih₁ ih₂ =>
    intro ts hts
    obtain ⟨first, _, rfl, h₁, hts⟩ := List.map_eq_append_iff.mp hts
    obtain ⟨b, _, rfl, opens, hts⟩ := List.map_eq_cons_iff.mp hts
    obtain ⟨second, _, rfl, h₂, hts⟩ := List.map_eq_append_iff.mp hts
    obtain ⟨c, rfl, closes⟩ := List.map_eq_singleton_iff.mp hts
    exact Advances.index (ih₁ _ h₁) opens (ih₂ _ h₂) closes
  | number hv =>
    intro ts hts
    obtain ⟨t, rfl, ht⟩ := List.map_eq_singleton_iff.mp hts
    exact Answers.number ht hv
  | string | name =>
    intro ts hts
    obtain ⟨t, rfl, ht⟩ := List.map_eq_singleton_iff.mp hts
    exact Answers.atom (by rw [ht]; rfl)
  | constant mem =>
    intro ts hts
    obtain ⟨t, rfl, ht⟩ := List.map_eq_singleton_iff.mp hts
    exact Answers.atom (by rw [ht]; exact atom?_of_mem_constants mem)
  | group _ ih =>
    intro ts hts
    obtain ⟨b, _, rfl, opens, hts⟩ := List.map_eq_cons_iff.mp hts
    obtain ⟨inner, _, rfl, h, hts⟩ := List.map_eq_append_iff.mp hts
    obtain ⟨c, rfl, closes⟩ := List.map_eq_singleton_iff.mp hts
    exact Answers.group opens (ih _ h) closes
  | emptyArray =>
    intro ts hts
    obtain ⟨b, _, rfl, opens, hts⟩ := List.map_eq_cons_iff.mp hts
    obtain ⟨c, rfl, closes⟩ := List.map_eq_singleton_iff.mp hts
    exact Answers.emptyArray opens closes
  | array d ih =>
    intro ts hts
    obtain ⟨_, _, rfl, first, -⟩ := d.first
    obtain ⟨b, _, rfl, opens, hts⟩ := List.map_eq_cons_iff.mp hts
    obtain ⟨inner, _, rfl, h, hc⟩ := List.map_eq_append_iff.mp hts
    obtain ⟨c, rfl, closes⟩ := List.map_eq_singleton_iff.mp hc
    obtain ⟨t, rest, rfl, rfl, -⟩ := List.map_eq_cons_iff.mp h
    exact Answers.array opens (ih _ h) first closes
  | last _ ih => exact fun ts hts => Answers.last (ih ts hts)
  | more _ _ ih₁ ih₂ =>
    intro ts hts
    obtain ⟨first, _, rfl, h₁, hts⟩ := List.map_eq_append_iff.mp hts
    obtain ⟨c, second, rfl, comma, h₂⟩ := List.map_eq_cons_iff.mp hts
    exact Answers.more (ih₁ _ h₁) comma (ih₂ _ h₂)

/-- **What the grammar derives is read**, whatever comes after it. -/
theorem complete {s : Symbol} {ts : Tokens} {e : Expr} (h : Derives s (ts.map Located.token) e) : Answers s ts e :=
  (goes h ts rfl).answers

end Parser

end HtmlTemplate.Expr
