import HtmlTemplate.Expr.Parser
import HtmlTemplate.Proofs.Expr.Grammar

/-!
# What the parsers read is derived by the grammar

A parser that gives a tree has read tokens that its symbol yields by a derivation with that tree (`sound`). A parser
that complains of the length of a numeral has such a numeral before it; every other refusal is a fault of syntax.

The induction is on the number of steps, over all the parsers at once: `Sound n` says what they do with `n` steps, and
there is one lemma per parser for one step more.
-/

namespace HtmlTemplate.Expr

/-- An integer of more digits than are read. -/
def Token.TooLong : Token → Prop
  | .number text => isDecimal text = false ∧ maxIntegerDigits < text.length
  | _ => False

/-- A numeral without a value is an integer of too many digits. -/
theorem tooLong_of_numeralValue {text : Text} {e : NumeralTooLong} (h : numeralValue text = .error e) :
    Token.TooLong (.number text) := by
  unfold numeralValue at h
  split at h
  · cases h
  · rename_i hd
    split at h
    · rename_i hl
      exact ⟨by simpa using hd, hl⟩
    · cases h

namespace Parser

/-! ## Readings -/

section Readings

variable {α β : Type} {ts us : Tokens} {post : α → Tokens → Prop} {post' : β → Tokens → Prop}

/-- The tree `e` is derived for the tokens of `ts` before `rest`. -/
def Reads (symbol : Symbol) (ts : Tokens) (e : Expr) (rest : Tokens) : Prop :=
  ∃ front, ts = front ++ rest ∧ Derives symbol (front.map Located.token) e

/-- What a reader of `ts` gives is as `post` says, and the numeral that it finds too long is one of `ts`. -/
def Faithful (ts : Tokens) (post : α → Tokens → Prop) : Except TokenError (α × Tokens) → Prop
  | .ok (a, rest) => post a rest
  | .error (.numeralTooLong _) => ∃ t ∈ ts, t.token.TooLong
  | .error _ => True

theorem Faithful.pure {a : α} {rest : Tokens} (h : post a rest) :
    Faithful ts post (Pure.pure (a, rest) : Except TokenError (α × Tokens)) := h

theorem Faithful.fail (cause : SyntaxCause) : Faithful ts post (fail cause us) := trivial

/-- A reader of some tokens of `ts`, and a second one on what the first leaves. -/
theorem Faithful.bind {x : Except TokenError (α × Tokens)} {f : α × Tokens → Except TokenError (β × Tokens)}
    (hx : Faithful us post x) (sub : us ⊆ ts) (hf : ∀ a rest, post a rest → Faithful ts post' (f (a, rest))) :
    Faithful ts post' (x >>= f) := by
  match x, hx with
  | .ok (a, rest), hx => exact hf a rest hx
  | .error (.numeralTooLong _), ⟨t, mem, long⟩ => exact ⟨t, sub mem, long⟩
  | .error (.unexpected ..), _ => exact trivial
  | .error .outOfSteps, _ => exact trivial

theorem Faithful.mono {post' : α → Tokens → Prop} {x : Except TokenError (α × Tokens)} (hx : Faithful us post x)
    (sub : us ⊆ ts) (imp : ∀ a rest, post a rest → post' a rest) : Faithful ts post' x := by
  match x, hx with
  | .ok (a, rest), hx => exact imp a rest hx
  | .error (.numeralTooLong _), ⟨t, mem, long⟩ => exact ⟨t, sub mem, long⟩
  | .error (.unexpected ..), _ => exact trivial
  | .error .outOfSteps, _ => exact trivial

/-- A mark that must come first, and a reader on what follows it. -/
theorem Faithful.expect {mark : Token} {cause : SyntaxCause} {f : Tokens → Except TokenError (α × Tokens)}
    (hf : ∀ t rest, us = t :: rest → t.token = mark → Faithful ts post (f rest)) :
    Faithful ts post (expect mark cause us >>= f) := by
  unfold Parser.expect
  split
  · rename_i t rest
    split
    · rename_i hm
      exact hf t rest rfl hm
    · exact trivial
  · exact trivial

end Readings

/-! ## The tables of the parsers -/

/-- A token joins the operands of a level only if the grammar has it there. -/
theorem mem_signs_of_joins? {l : Level} {sign : Token} {join : Expr → Expr → Expr} (h : l.joins? sign = some join) :
    (sign, join) ∈ l.signs := by
  unfold Level.joins? at h
  split at h <;> first | (cases h; simp [Level.signs]) | cases h

theorem mem_leadingSigns_of_unary? {sign : Token} {op : UnaryOp} (h : unary? sign = some op) :
    (sign, op) ∈ leadingSigns := by
  unfold unary? at h
  split at h <;> first | (cases h; simp [leadingSigns]) | cases h

/-- A token that names a property makes an access to it. -/
theorem derives_property {xs : List Token} {token : Token} {e : Expr} {name : Text}
    (h : propertyName? token = some name) (object : Derives .postfixed xs e) :
    Derives .postfixed (xs ++ [.punct .dot, token]) (.member e name) := by
  unfold propertyName? at h
  split at h
  · cases h; exact .property object
  · cases h; exact .keywordProperty object
  · cases h

theorem derives_of_atom? {token : Token} {e : Expr} (h : atom? token = some e) : Derives .primary [token] e := by
  unfold atom? at h
  split at h
  · cases h; exact .string
  iterate 4 cases h; exact .constant (by simp [constants])
  · cases h; exact .name
  · cases h

/-- Accesses end before a token that is no dot and no bracket. -/
theorem accesses_end {n : Nat} {object : Expr} {ts : Tokens}
    (h : ∀ t ∈ ts.head?, t.token ≠ .punct .dot ∧ t.token ≠ .punct .openBracket) :
    accesses (n + 1) object ts = .ok (object, ts) := by
  cases ts with
  | nil => rfl
  | cons t ts =>
    obtain ⟨dot, bracket⟩ := h t rfl
    unfold accesses
    split
    · rename_i hn; cases hn
    · rename_i ht; cases ht; exact absurd rfl dot
    · rename_i ht; cases ht; exact absurd rfl bracket
    · rfl

/-! ## One step more -/

/-- The parsers with `n` steps read what their symbols yield. -/
structure Sound (n : Nat) : Prop where
  expression : ∀ ts, Faithful ts (Reads .expression ts) (expression n ts)
  binary : ∀ l ts, Faithful ts (Reads (.level l) ts) (binary n l ts)
  operands : ∀ l front left ts, Derives (.level l) (front.map Located.token) left →
    Faithful ts (Reads (.level l) (front ++ ts)) (operands n l left ts)
  operand : ∀ l ts, Faithful ts (Reads l.operand ts) (operand n l ts)
  unary : ∀ ts, Faithful ts (Reads .unary ts) (unary n ts)
  access : ∀ ts, Faithful ts (Reads .postfixed ts) (access n ts)
  accesses : ∀ front object ts, Derives .postfixed (front.map Located.token) object →
    Faithful ts (Reads .postfixed (front ++ ts)) (accesses n object ts)
  primary : ∀ ts, Faithful ts (Reads .primary ts) (primary n ts)
  items : ∀ ts, Faithful ts (fun es => Reads .items ts (.array es)) (items n ts)

namespace Sound

variable {n : Nat}

theorem zero : Sound 0 := by
  constructor <;> intros <;> simp only [Parser.expression, Parser.binary, Parser.operands, Parser.operand,
    Parser.unary, Parser.access, Parser.accesses, Parser.primary, Parser.items] <;> exact trivial

theorem expression_succ (h : Sound n) (ts : Tokens) :
    Faithful ts (Reads .expression ts) (Parser.expression (n + 1) ts) := by
  rw [Parser.expression]
  refine (h.binary .orElse ts).bind (List.Subset.refl _) ?_
  rintro test _ ⟨front, rfl, left⟩
  dsimp only
  split
  · rename_i position rest
    refine (h.expression rest).bind (fun t ht => by simp [ht]) ?_
    rintro consequent _ ⟨second, rfl, middle⟩
    refine Faithful.expect ?_
    rintro ⟨_, place⟩ rest rfl rfl
    refine (h.expression rest).bind (fun t ht => by simp [ht]) ?_
    rintro alternate rest ⟨third, rfl, right⟩
    refine Faithful.pure ⟨front ++ ⟨.operator .question, position⟩ :: (second ++ ⟨.operator .colon, place⟩ :: third),
      by simp, .expression ?_⟩
    simpa using Derives.choice left middle right
  · exact Faithful.pure ⟨front, rfl, .expression (.test left)⟩

theorem binary_succ (h : Sound n) (l : Level) (ts : Tokens) :
    Faithful ts (Reads (.level l) ts) (Parser.binary (n + 1) l ts) := by
  rw [Parser.binary]
  refine (h.operand l ts).bind (List.Subset.refl _) ?_
  rintro left rest ⟨front, rfl, first⟩
  exact (h.operands l front left rest (.operand first)).mono (fun t ht => by simp [ht]) fun _ _ hr => hr

/-- The operands that are read already are a derivation of their own; a sign and an operand extend it. -/
theorem operands_succ (h : Sound n) (l : Level) (front : Tokens) (left : Expr) (ts : Tokens)
    (first : Derives (.level l) (front.map Located.token) left) :
    Faithful ts (Reads (.level l) (front ++ ts)) (Parser.operands (n + 1) l left ts) := by
  cases ts with
  | nil => exact Faithful.pure ⟨front, rfl, first⟩
  | cons t ts =>
    rw [Parser.operands]
    split
    · exact Faithful.pure ⟨front, rfl, first⟩
    · rename_i join hj
      refine (h.operand l ts).bind (fun t ht => by simp [ht]) ?_
      rintro right rest ⟨second, rfl, next⟩
      have both : Derives (.level l) ((front ++ t :: second).map Located.token) (join left right) := by
        simpa using Derives.joined first (mem_signs_of_joins? hj) next
      exact (h.operands l _ _ rest both).mono (fun t ht => by simp [ht]) fun _ _ hr => by simpa using hr

theorem operand_succ (h : Sound n) (l : Level) (ts : Tokens) :
    Faithful ts (Reads l.operand ts) (Parser.operand (n + 1) l ts) := by
  rw [Parser.operand]
  cases l <;> first | exact h.binary _ ts | exact h.unary ts

theorem unary_succ (h : Sound n) (ts : Tokens) : Faithful ts (Reads .unary ts) (Parser.unary (n + 1) ts) := by
  rw [Parser.unary]
  split
  · rename_i op hu
    obtain ⟨t, ht, ho⟩ := Option.bind_eq_some_iff.mp hu
    obtain ⟨ts, rfl⟩ := List.head?_eq_some_iff.mp ht
    refine (h.unary ts).bind (fun t ht => by simp [ht]) ?_
    rintro inner rest ⟨front, rfl, operand⟩
    exact Faithful.pure ⟨t :: front, rfl, .signed (mem_leadingSigns_of_unary? ho) operand⟩
  · exact (h.access ts).mono (List.Subset.refl _) fun _ _ ⟨front, hf, d⟩ => ⟨front, hf, .unsigned d⟩

theorem access_succ (h : Sound n) (ts : Tokens) :
    Faithful ts (Reads .postfixed ts) (Parser.access (n + 1) ts) := by
  rw [Parser.access]
  refine (h.primary ts).bind (List.Subset.refl _) ?_
  rintro object rest ⟨front, rfl, first⟩
  exact (h.accesses front object rest (.whole first)).mono (fun t ht => by simp [ht]) fun _ _ hr => hr

theorem accesses_succ (h : Sound n) (front : Tokens) (object : Expr) (ts : Tokens)
    (first : Derives .postfixed (front.map Located.token) object) :
    Faithful ts (Reads .postfixed (front ++ ts)) (Parser.accesses (n + 1) object ts) := by
  by_cases more : ∃ t ∈ ts.head?, t.token = .punct .dot ∨ t.token = .punct .openBracket
  · obtain ⟨⟨token, position⟩, ht, rfl | rfl⟩ := more <;> obtain ⟨ts, rfl⟩ := List.head?_eq_some_iff.mp ht
    · simp only [Parser.accesses]
      split
      · rename_i t rest
        split
        · rename_i name hp
          have longer : Derives .postfixed ((front ++ [⟨.punct .dot, position⟩, t]).map Located.token)
              (.member object name) := by
            simpa using derives_property hp first
          exact (h.accesses _ _ rest longer).mono (fun t ht => by simp [ht]) fun _ _ hr => by simpa using hr
        · exact Faithful.fail _
      · exact Faithful.fail _
    · simp only [Parser.accesses]
      refine (h.expression ts).bind (fun t ht => by simp [ht]) ?_
      rintro key _ ⟨second, rfl, inner⟩
      refine Faithful.expect ?_
      rintro ⟨_, place⟩ rest rfl rfl
      refine (h.accesses (front ++ ⟨.punct .openBracket, position⟩ :: (second ++ [⟨.punct .closeBracket, place⟩]))
        _ rest ?_).mono (fun t ht => by simp [ht]) fun _ _ hr => by simpa using hr
      simpa using Derives.index first inner
  · rw [accesses_end fun t ht => ⟨fun hd => more ⟨t, ht, .inl hd⟩, fun hb => more ⟨t, ht, .inr hb⟩⟩]
    exact Faithful.pure ⟨front, rfl, first⟩

theorem primary_succ (h : Sound n) (ts : Tokens) : Faithful ts (Reads .primary ts) (Parser.primary (n + 1) ts) := by
  cases ts with
  | nil => exact Faithful.fail _
  | cons t ts =>
    obtain ⟨token, position⟩ := t
    unfold Parser.primary
    dsimp only
    split
    · split
      · rename_i value hv
        exact Faithful.pure ⟨[⟨.number _, position⟩], rfl, .number hv⟩
      · rename_i e hv
        exact ⟨_, List.mem_cons_self, tooLong_of_numeralValue hv⟩
    · refine (h.expression ts).bind (fun t ht => by simp [ht]) ?_
      rintro inner _ ⟨second, rfl, d⟩
      refine Faithful.expect ?_
      rintro ⟨_, place⟩ rest rfl rfl
      refine Faithful.pure ⟨⟨.punct .openParen, position⟩ :: (second ++ [⟨.punct .closeParen, place⟩]), by simp, ?_⟩
      simpa using Derives.group d
    · split
      · rename_i place rest
        exact Faithful.pure ⟨[⟨.punct .openBracket, position⟩, ⟨.punct .closeBracket, place⟩], rfl, .emptyArray⟩
      · refine (h.items ts).bind (fun t ht => by simp [ht]) ?_
        rintro es _ ⟨second, rfl, d⟩
        refine Faithful.expect ?_
        rintro ⟨_, place⟩ rest rfl rfl
        refine Faithful.pure ⟨⟨.punct .openBracket, position⟩ :: (second ++ [⟨.punct .closeBracket, place⟩]), by simp,
          ?_⟩
        simpa using Derives.array d
    · split
      · rename_i e ha
        exact Faithful.pure ⟨[⟨token, position⟩], rfl, derives_of_atom? ha⟩
      · exact Faithful.fail _

theorem items_succ (h : Sound n) (ts : Tokens) :
    Faithful ts (fun es => Reads .items ts (.array es)) (Parser.items (n + 1) ts) := by
  rw [Parser.items]
  refine (h.expression ts).bind (List.Subset.refl _) ?_
  rintro item _ ⟨front, rfl, first⟩
  dsimp only
  split
  · rename_i position rest
    refine (h.items rest).bind (fun t ht => by simp [ht]) ?_
    rintro others rest ⟨second, rfl, d⟩
    refine Faithful.pure ⟨front ++ ⟨.punct .comma, position⟩ :: second, by simp, ?_⟩
    simpa using Derives.more first d
  · exact Faithful.pure ⟨front, rfl, .last first⟩

theorem succ (h : Sound n) : Sound (n + 1) :=
  ⟨h.expression_succ, h.binary_succ, h.operands_succ, h.operand_succ, h.unary_succ, h.access_succ, h.accesses_succ,
    h.primary_succ, h.items_succ⟩

end Sound

/-- **What the parsers read is derived**, with any number of steps. -/
theorem sound : ∀ n, Sound n
  | 0 => .zero
  | n + 1 => (sound n).succ

end Parser

/-! ## All the tokens -/

/-- The tokens are an expression if they are read to their end; a refusal is that of the reader, or it is for the lack
of tokens or for a token that is left. -/
theorem ofTokens_cases (ts : List Located) :
    (∃ e, Parser.expression (stepsFor ts.length) ts = .ok (e, []) ∧ ofTokens ts = .ok e) ∨
    (∃ fault, Parser.expression (stepsFor ts.length) ts = .error fault ∧ ofTokens ts = .error fault) ∨
    ∃ cause position, (ts = [] ∨ ∃ e t rest, Parser.expression (stepsFor ts.length) ts = .ok (e, t :: rest)) ∧
      ofTokens ts = .error (.unexpected cause position) := by
  unfold ofTokens
  split
  · exact .inr (.inr ⟨_, _, .inl rfl, rfl⟩)
  · cases Parser.expression (stepsFor ts.length) ts with
    | error fault => exact .inr (.inl ⟨fault, rfl, rfl⟩)
    | ok result =>
      obtain ⟨e, rest⟩ := result
      cases rest with
      | nil => exact .inl ⟨e, rfl, rfl⟩
      | cons t rest => exact .inr (.inr ⟨_, _, .inr ⟨e, t, rest, rfl⟩, rfl⟩)

/-- A tree of some tokens is the tree of a derivation of them. -/
theorem derives_of_ofTokens {ts : List Located} {e : Expr} (h : ofTokens ts = .ok e) :
    Derives .expression (ts.map Located.token) e := by
  have read := (Parser.sound (stepsFor ts.length)).expression ts
  obtain ⟨e', hx, he⟩ | ⟨fault, -, he⟩ | ⟨cause, position, -, he⟩ := ofTokens_cases ts
  · rw [hx] at read
    obtain ⟨front, hts, d⟩ := read
    rw [he] at h
    cases h
    rw [hts, List.append_nil]
    exact d
  · rw [he] at h
    cases h
  · rw [he] at h
    cases h

/-- The numeral that makes tokens no expression by its length is one of them. -/
theorem tooLong_of_ofTokens {ts : List Located} {digits : Nat} (h : ofTokens ts = .error (.numeralTooLong digits)) :
    ∃ t ∈ ts, t.token.TooLong := by
  have read := (Parser.sound (stepsFor ts.length)).expression ts
  obtain ⟨e', -, he⟩ | ⟨fault, hx, he⟩ | ⟨cause, position, -, he⟩ := ofTokens_cases ts
  · rw [he] at h
    cases h
  · rw [he] at h
    cases h
    rw [hx] at read
    exact read
  · rw [he] at h
    cases h

end HtmlTemplate.Expr
