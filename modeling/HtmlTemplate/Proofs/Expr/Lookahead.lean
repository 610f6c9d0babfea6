import HtmlTemplate.Proofs.Expr.Language
import HtmlTemplate.Proofs.Expr.Lexing

/-!
# The parsers look one token ahead

A parser that stops before a token, with a tree or for a fault of syntax, has seen nothing behind that token: it stops
there in the same way whatever else comes, and with any more steps. What it has read up to a fault is at the front of
some phrase of its symbol. Both together are `LooksAhead`; the induction is on the number of steps, over all the parsers
at once (`Watchful`), as in the proof that they are sound.

So the fault of a text is at the first token that no expression goes on with (`fault_at_first_offending_token`): if one
did, the parsers would read it, and they have stopped.
-/

namespace HtmlTemplate.Expr

/-! ## Fronts of phrases -/

/-- The tokens are at the front of a phrase of the symbol. -/
def Begins (s : Symbol) (xs : List Token) : Prop := ∃ ys e, Derives s (xs ++ ys) e

/-- Items have the tree of an array. -/
theorem Derives.items {xs : List Token} {e : Expr} (h : Derives .items xs e) : ∃ es, e = .array es := by
  cases h <;> exact ⟨_, rfl⟩

/-- A name is a phrase of each symbol. -/
theorem exists_derives_name (s : Symbol) : ∃ e, Derives s [.identifier ['x']] e := by
  have unary : Derives .unary [.identifier ['x']] (.identifier ['x']) := .unsigned (.whole .name)
  have product := Derives.operand (l := .product) unary
  have sum := Derives.operand (l := .sum) product
  have relation := Derives.operand (l := .relation) sum
  have equality := Derives.operand (l := .equality) relation
  have both := Derives.operand (l := .both) equality
  have either := Derives.operand (l := .either) both
  have orElse := Derives.operand (l := .orElse) either
  have expression : Derives .expression [.identifier ['x']] (.identifier ['x']) := .expression (.test orElse)
  cases s with
  | expression => exact ⟨_, expression⟩
  | conditional => exact ⟨_, .test orElse⟩
  | level l => cases l <;> exact ⟨_, by assumption⟩
  | unary => exact ⟨_, unary⟩
  | postfixed => exact ⟨_, .whole .name⟩
  | primary => exact ⟨_, .name⟩
  | items => exact ⟨_, .last expression⟩

namespace Begins

variable {s : Symbol} {l : Level} {xs ys : List Token} {sign : Token} {e e₁ e₂ : Expr}

theorem of_derives (h : Derives s xs e) : Begins s xs := ⟨[], e, by rwa [List.append_nil]⟩

/-- A front of a front. -/
theorem of_append (h : Begins s (xs ++ ys)) : Begins s xs := by
  obtain ⟨zs, e, d⟩ := h
  exact ⟨ys ++ zs, e, by rwa [← List.append_assoc]⟩

theorem test (h : Begins (.level .orElse) xs) : Begins .expression xs := by
  obtain ⟨ys, e, d⟩ := h
  exact ⟨ys, e, .expression (.test d)⟩

theorem operand (h : Begins l.operand xs) : Begins (.level l) xs := by
  obtain ⟨ys, e, d⟩ := h
  exact ⟨ys, e, .operand d⟩

theorem joined {join : Expr → Expr → Expr} (left : Derives (.level l) xs e) (mem : (sign, join) ∈ l.signs)
    (h : Begins l.operand ys) : Begins (.level l) (xs ++ sign :: ys) := by
  obtain ⟨zs, e', d⟩ := h
  exact ⟨zs, join e e', by simpa using left.joined mem d⟩

theorem signed {op : UnaryOp} (mem : (sign, op) ∈ leadingSigns) (h : Begins .unary xs) :
    Begins .unary (sign :: xs) := by
  obtain ⟨ys, e, d⟩ := h
  exact ⟨ys, .unary op e, .signed mem d⟩

theorem unsigned (h : Begins .postfixed xs) : Begins .unary xs := by
  obtain ⟨ys, e, d⟩ := h
  exact ⟨ys, e, .unsigned d⟩

theorem whole (h : Begins .primary xs) : Begins .postfixed xs := by
  obtain ⟨ys, e, d⟩ := h
  exact ⟨ys, e, .whole d⟩

theorem property (object : Derives .postfixed xs e) : Begins .postfixed (xs ++ [.punct .dot]) :=
  ⟨[.identifier ['x']], .member e ['x'], by simpa using object.property⟩

theorem index (object : Derives .postfixed xs e) (h : Begins .expression ys) :
    Begins .postfixed (xs ++ .punct .openBracket :: ys) := by
  obtain ⟨zs, key, d⟩ := h
  exact ⟨zs ++ [.punct .closeBracket], .index e key, by simpa using object.index d⟩

theorem group (h : Begins .expression xs) : Begins .primary (.punct .openParen :: xs) := by
  obtain ⟨ys, e, d⟩ := h
  exact ⟨ys ++ [.punct .closeParen], e, by simpa using d.group⟩

theorem array (h : Begins .items xs) : Begins .primary (.punct .openBracket :: xs) := by
  obtain ⟨ys, e, d⟩ := h
  exact ⟨ys ++ [.punct .closeBracket], e, by simpa using d.array⟩

theorem last (h : Begins .expression xs) : Begins .items xs := by
  obtain ⟨ys, e, d⟩ := h
  exact ⟨ys, .array [e], .last d⟩

theorem more (item : Derives .expression xs e) (h : Begins .items ys) : Begins .items (xs ++ .punct .comma :: ys) := by
  obtain ⟨zs, others, d⟩ := h
  obtain ⟨es, rfl⟩ := d.items
  exact ⟨zs, .array (e :: es), by simpa using item.more d⟩

theorem nil (s : Symbol) : Begins s [] := by
  obtain ⟨e, d⟩ := exists_derives_name s
  exact ⟨_, e, d⟩

/-- The middle of a conditional. -/
theorem consequent (left : Derives (.level .orElse) xs e) (h : Begins .expression ys) :
    Begins .expression (xs ++ .operator .question :: ys) := by
  obtain ⟨zs, e₂, middle⟩ := h
  obtain ⟨e₃, right⟩ := exists_derives_name .expression
  exact ⟨zs ++ [.operator .colon, .identifier ['x']], .conditional e e₂ e₃,
    .expression (by simpa using left.choice middle right)⟩

theorem alternate (left : Derives (.level .orElse) xs e₁) (middle : Derives .expression ys e₂) {zs : List Token}
    (h : Begins .expression zs) :
    Begins .expression (xs ++ .operator .question :: (ys ++ .operator .colon :: zs)) := by
  obtain ⟨more, e, right⟩ := h
  exact ⟨more, .conditional e₁ e₂ e, .expression (by simpa using left.choice middle right)⟩

end Begins

namespace Parser

/-! ## Looking ahead -/

section Looking

variable {α β : Type} {n : Nat} {ts us rest : Tokens} {V V' : List Token → Prop} {a : α} {cause : SyntaxCause}

/-- The reader, on these tokens and with `n` steps, stops for what is in front of it: it stops with the same result on
all tokens that have the same front and the same token behind it, and with any more steps. What is in front of a fault
is as `V` says. -/
def LooksAhead (V : List Token → Prop) (p : Nat → Tokens → Except TokenError (α × Tokens)) (n : Nat) (ts : Tokens) :
    Prop :=
  match p n ts with
  | .ok (a, rest) => ∃ front, ts = front ++ rest ∧
      ∀ m rest', n ≤ m → rest'.head? = rest.head? → p m (front ++ rest') = .ok (a, rest')
  | .error (.unexpected cause position) => ∃ front rest, ts = front ++ rest ∧
      position = rest.head?.map Located.position ∧ V (front.map Located.token) ∧
      ∀ m rest', n ≤ m → rest'.head? = rest.head? → p m (front ++ rest') = .error (.unexpected cause position)
  | .error _ => True

namespace LooksAhead

variable {p q : Nat → Tokens → Except TokenError (α × Tokens)}

theorem done (a : α) : LooksAhead V (fun _ us => .ok (a, us)) n ts := ⟨[], rfl, fun _ _ _ _ => rfl⟩

theorem fail (hV : V []) (cause : SyntaxCause) :
    LooksAhead V (fun _ us => (Parser.fail cause us : Except TokenError (α × Tokens))) n ts :=
  ⟨[], ts, rfl, rfl, hV, fun _ _ _ hhead => by
    simp only [List.nil_append, Parser.fail, hhead]⟩

/-- A reader that takes some tokens and goes on as another one does. -/
theorem after (front : Tokens) (h : LooksAhead (fun xs => V (front.map Located.token ++ xs)) q n rest)
    (hp : ∀ m rest', n ≤ m → rest'.head? = rest.head? → p m (front ++ rest') = q m rest') :
    LooksAhead V p n (front ++ rest) := by
  have hread := hp n rest (Nat.le_refl n) rfl
  have hhead : ∀ (more back back' : Tokens), back'.head? = back.head? → (more ++ back').head? = (more ++ back).head? :=
    fun more back back' hback => by rw [List.head?_append, List.head?_append, hback]
  unfold LooksAhead at h ⊢
  rw [hread]
  split at h
  · obtain ⟨more, rfl, hstays⟩ := h
    refine ⟨front ++ more, (List.append_assoc ..).symm, fun m back hm hback => ?_⟩
    rw [List.append_assoc, hp m _ hm (hhead more _ back hback)]
    exact hstays m back hm hback
  · obtain ⟨more, back, rfl, hposition, hv, hstays⟩ := h
    refine ⟨front ++ more, back, (List.append_assoc ..).symm, hposition, by rwa [List.map_append], ?_⟩
    intro m back' hm hback
    rw [List.append_assoc, hp m _ hm (hhead more back back' hback)]
    exact hstays m back' hm hback
  · trivial

/-- A reader that does as another one does before this token. -/
theorem congr (h : LooksAhead V q n ts) (hp : ∀ m us, us.head? = ts.head? → p m us = q m us) : LooksAhead V p n ts :=
  h.after [] fun m us _ => hp m us

theorem mono (h : LooksAhead V' p n ts) (hV : ∀ xs, V' xs → V xs) : LooksAhead V p n ts := by
  unfold LooksAhead at h ⊢
  generalize p n ts = result at h ⊢
  match result, h with
  | .ok _, h => exact h
  | .error (.unexpected ..), ⟨front, back, hts, hposition, hv, hstays⟩ =>
    exact ⟨front, back, hts, hposition, hV _ hv, hstays⟩
  | .error (.numeralTooLong _), _ => trivial
  | .error .outOfSteps, _ => trivial

theorem succ (h : LooksAhead V (fun m us => p (m + 1) us) n ts) : LooksAhead V p (n + 1) ts := by
  have hstep : ∀ {m us result}, (∀ k, n ≤ k → p (k + 1) us = result) → n + 1 ≤ m → p m us = result := by
    intro m us result hk hm
    obtain ⟨k, rfl⟩ := Nat.exists_eq_add_one.mpr (Nat.lt_of_lt_of_le n.succ_pos hm)
    exact hk k (Nat.le_of_succ_le_succ hm)
  unfold LooksAhead at h ⊢
  dsimp only at h
  generalize p (n + 1) ts = result at h ⊢
  match result, h with
  | .ok _, ⟨front, hts, hstays⟩ =>
    exact ⟨front, hts, fun m back hm hback => hstep (fun k hk => hstays k back hk hback) hm⟩
  | .error (.unexpected ..), ⟨front, back, hts, hposition, hv, hstays⟩ =>
    exact ⟨front, back, hts, hposition, hv, fun m back' hm hback => hstep (fun k hk => hstays k back' hk hback) hm⟩
  | .error (.numeralTooLong _), _ => trivial
  | .error .outOfSteps, _ => trivial

/-- A reader, and a second one on what the first leaves. -/
theorem bind {s : Symbol} {f : Nat → α × Tokens → Except TokenError (β × Tokens)} {tree : α → Expr}
    (hp : LooksAhead V' p n ts) (reads : Faithful ts (fun a => Reads s ts (tree a)) (p n ts)) (hV : ∀ xs, V' xs → V xs)
    (hf : ∀ a front rest, ts = front ++ rest → Derives s (front.map Located.token) (tree a) →
      LooksAhead (fun xs => V (front.map Located.token ++ xs)) (fun m us => f m (a, us)) n rest) :
    LooksAhead V (fun m us => p m us >>= f m) n ts := by
  unfold LooksAhead at hp
  match hread : p n ts with
  | .ok (a, rest) =>
    rw [hread] at hp reads
    obtain ⟨front, rfl, hstays⟩ := hp
    obtain ⟨front', heq, hd⟩ := reads
    obtain rfl := List.append_cancel_right heq
    refine (hf a front rest rfl hd).after front fun m us hm hhead => ?_
    rw [hstays m us hm hhead]
    rfl
  | .error (.unexpected cause position) =>
    rw [hread] at hp
    obtain ⟨front, back, rfl, hposition, hv, hstays⟩ := hp
    have hfail : LooksAhead V (fun m us => p m us >>= f m) n (front ++ back) := by
      unfold LooksAhead
      dsimp only
      rw [hread]
      refine ⟨front, back, rfl, hposition, hV _ hv, fun m back' hm hback => ?_⟩
      rw [hstays m back' hm hback]
      rfl
    exact hfail
  | .error (.numeralTooLong _) =>
    unfold LooksAhead
    dsimp only
    rw [hread]
    trivial
  | .error .outOfSteps =>
    unfold LooksAhead
    dsimp only
    rw [hread]
    trivial

/-- A mark that must come first, and a reader on what follows it. -/
theorem expect {mark : Token} {cause : SyntaxCause} {f : Nat → Tokens → Except TokenError (α × Tokens)} (hV : V [])
    (hf : ∀ t rest, ts = t :: rest → t.token = mark → LooksAhead (fun xs => V (mark :: xs)) f n rest) :
    LooksAhead V (fun m us => Parser.expect mark cause us >>= f m) n ts := by
  by_cases hmark : ∃ t rest, ts = t :: rest ∧ t.token = mark
  · obtain ⟨t, rest, rfl, rfl⟩ := hmark
    refine (hf t rest rfl rfl).after [t] fun m us _ _ => ?_
    rw [List.singleton_append, expect_mark rfl]
    rfl
  · refine (fail hV cause).congr fun m us hhead => ?_
    unfold Parser.expect
    split
    · next t us =>
      obtain ⟨rest, rfl⟩ := List.head?_eq_some_iff.mp hhead.symm
      rw [if_neg fun htoken => hmark ⟨t, rest, rfl, htoken⟩]
      rfl
    · rfl

end LooksAhead

end Looking

/-! ## One step more -/

/-- The parsers with `n` steps look one token ahead. -/
structure Watchful (n : Nat) : Prop where
  expression : ∀ ts, LooksAhead (Begins .expression) expression n ts
  binary : ∀ l ts, LooksAhead (Begins (.level l)) (binary · l) n ts
  operands : ∀ l front left ts, Derives (.level l) front left →
    LooksAhead (fun xs => Begins (.level l) (front ++ xs)) (operands · l left) n ts
  operand : ∀ l ts, LooksAhead (Begins l.operand) (operand · l) n ts
  unary : ∀ ts, LooksAhead (Begins .unary) unary n ts
  access : ∀ ts, LooksAhead (Begins .postfixed) access n ts
  accesses : ∀ front object ts, Derives .postfixed front object →
    LooksAhead (fun xs => Begins .postfixed (front ++ xs)) (accesses · object) n ts
  primary : ∀ ts, LooksAhead (Begins .primary) primary n ts
  items : ∀ ts, LooksAhead (Begins .items) items n ts

namespace Watchful

variable {n : Nat}

theorem zero : Watchful 0 := by
  constructor <;> intros <;> simp only [LooksAhead, Parser.expression, Parser.binary, Parser.operands, Parser.operand,
    Parser.unary, Parser.access, Parser.accesses, Parser.primary, Parser.items]

theorem expression_succ (h : Watchful n) (ts : Tokens) :
    LooksAhead (Begins .expression) Parser.expression (n + 1) ts := by
  refine .succ ?_
  simp only [Parser.expression]
  refine (h.binary .orElse ts).bind ((sound n).binary .orElse ts) (fun _ => Begins.test) ?_
  intro test front rest _ left
  by_cases hquestion : ∃ place more, rest = ⟨.operator .question, place⟩ :: more
  · obtain ⟨place, more, rfl⟩ := hquestion
    refine LooksAhead.after [⟨.operator .question, place⟩] ?_ fun _ _ _ _ => rfl
    dsimp only
    refine (h.expression more).bind ((sound n).expression more) (fun xs hxs => ?_) ?_
    · simpa using hxs.consequent left
    intro consequent second rest _ middle
    dsimp only
    refine .expect ?_ ?_
    · simpa using (Begins.of_derives middle).consequent left
    rintro ⟨_, place'⟩ rest rfl rfl
    refine (h.expression rest).bind ((sound n).expression rest) (fun xs hxs => ?_)
      fun alternate _ _ _ _ => .done (Expr.conditional test consequent alternate)
    simpa using hxs.alternate left middle
  · refine (LooksAhead.done test).congr fun m us hhead => ?_
    dsimp only
    split
    · next place more =>
      obtain ⟨behind, rfl⟩ := List.head?_eq_some_iff.mp hhead.symm
      exact absurd ⟨place, behind, rfl⟩ hquestion
    · rfl

theorem binary_succ (h : Watchful n) (l : Level) (ts : Tokens) :
    LooksAhead (Begins (.level l)) (Parser.binary · l) (n + 1) ts := by
  refine .succ ?_
  simp only [Parser.binary]
  refine (h.operand l ts).bind ((sound n).operand l ts) (fun _ => Begins.operand) ?_
  exact fun left front rest _ d => h.operands l _ left rest (.operand d)

theorem operands_succ (h : Watchful n) (l : Level) (front : List Token) (left : Expr) (ts : Tokens)
    (first : Derives (.level l) front left) :
    LooksAhead (fun xs => Begins (.level l) (front ++ xs)) (Parser.operands · l left) (n + 1) ts := by
  refine .succ ?_
  by_cases hjoin : ∃ t rest join, ts = t :: rest ∧ l.joins? t.token = some join
  · obtain ⟨t, rest, join, rfl, hjoin⟩ := hjoin
    have mem := mem_signs_of_joins? hjoin
    refine LooksAhead.after [t] ?_ fun m us _ _ => by rw [List.singleton_append, Parser.operands, hjoin]
    refine (h.operand l rest).bind ((sound n).operand l rest) (fun xs hxs => ?_) ?_
    · simpa using hxs.joined first mem
    intro right second rest _ d
    have longer := h.operands l _ (join left right) rest (first.joined mem d)
    simpa using longer
  · refine (LooksAhead.done left).congr fun m us hhead => ?_
    cases us with
    | nil => rfl
    | cons t us =>
      obtain ⟨rest, rfl⟩ := List.head?_eq_some_iff.mp hhead.symm
      rw [Parser.operands]
      split
      · rfl
      · next join hj => exact absurd ⟨t, rest, join, rfl, hj⟩ hjoin

theorem operand_succ (h : Watchful n) (l : Level) (ts : Tokens) :
    LooksAhead (Begins l.operand) (Parser.operand · l) (n + 1) ts := by
  refine .succ ?_
  simp only [Parser.operand]
  cases l <;> first | exact h.binary _ ts | exact h.unary ts

theorem unary_succ (h : Watchful n) (ts : Tokens) : LooksAhead (Begins .unary) Parser.unary (n + 1) ts := by
  refine .succ ?_
  cases hsign : ts.head?.bind (unary? ·.token) with
  | some op =>
    obtain ⟨t, ht, hop⟩ := Option.bind_eq_some_iff.mp hsign
    obtain ⟨rest, rfl⟩ := List.head?_eq_some_iff.mp ht
    have mem := mem_leadingSigns_of_unary? hop
    refine LooksAhead.after [t] ?_ fun m us _ _ => by
      rw [List.singleton_append, Parser.unary, List.head?_cons, Option.bind_some, hop]
    refine (h.unary rest).bind ((sound n).unary rest) (fun xs hxs => ?_) fun _ _ _ _ _ => .done _
    simpa using hxs.signed mem
  | none =>
    exact ((h.access ts).mono fun _ => Begins.unsigned).congr fun m us hhead => by rw [Parser.unary, hhead, hsign]

theorem access_succ (h : Watchful n) (ts : Tokens) : LooksAhead (Begins .postfixed) Parser.access (n + 1) ts := by
  refine .succ ?_
  simp only [Parser.access]
  refine (h.primary ts).bind ((sound n).primary ts) (fun _ => Begins.whole) ?_
  exact fun object front rest _ d => h.accesses _ object rest (.whole d)

theorem accesses_succ (h : Watchful n) (front : List Token) (object : Expr) (ts : Tokens)
    (first : Derives .postfixed front object) :
    LooksAhead (fun xs => Begins .postfixed (front ++ xs)) (Parser.accesses · object) (n + 1) ts := by
  refine .succ ?_
  by_cases hmore : ∃ t ∈ ts.head?, t.token = .punct .dot ∨ t.token = .punct .openBracket
  · obtain ⟨⟨token, place⟩, ht, rfl | rfl⟩ := hmore <;> obtain ⟨ts, rfl⟩ := List.head?_eq_some_iff.mp ht
    · by_cases hname : ∃ t rest name, ts = t :: rest ∧ propertyName? t.token = some name
      · obtain ⟨t, rest, name, rfl, hname⟩ := hname
        have longer := h.accesses _ (.member object name) rest (derives_property hname first)
        refine LooksAhead.after [⟨.punct .dot, place⟩, t] (by simpa using longer) fun m us _ _ => ?_
        simp only [List.cons_append, List.nil_append, Parser.accesses, hname]
      · refine LooksAhead.after [⟨.punct .dot, place⟩] (.fail ?_ .expectedProperty) fun m us _ hhead => ?_
        · simpa using Begins.property first
        · simp only [List.cons_append, List.nil_append, Parser.accesses]
          split
          · next t us =>
            obtain ⟨rest, rfl⟩ := List.head?_eq_some_iff.mp hhead.symm
            split
            · next name hp => exact absurd ⟨t, rest, name, rfl, hp⟩ hname
            · rfl
          · rfl
    · refine LooksAhead.after [⟨.punct .openBracket, place⟩] ?_ fun m us _ _ => by
        rw [List.singleton_append, Parser.accesses]
      refine (h.expression ts).bind ((sound n).expression ts) (fun xs hxs => ?_) ?_
      · simpa using hxs.index first
      intro key second rest _ d
      dsimp only
      refine .expect ?_ ?_
      · simpa using (Begins.of_derives d).index first
      rintro ⟨_, place'⟩ rest rfl rfl
      have longer := h.accesses _ (.index object key) rest (first.index d)
      simpa using longer
  · refine (LooksAhead.done object).congr fun m us hhead => ?_
    exact accesses_end fun t ht => ⟨fun hd => hmore ⟨t, hhead ▸ ht, .inl hd⟩, fun hb => hmore ⟨t, hhead ▸ ht, .inr hb⟩⟩

/-- A bracket opens an array, and what is in it is read if there is anything. -/
theorem array_succ (h : Watchful n) (place : Nat) (ts : Tokens) :
    LooksAhead (Begins .primary) (fun m us => Parser.primary (m + 1) us) n (⟨.punct .openBracket, place⟩ :: ts) := by
  by_cases hclosed : ∃ place' rest, ts = ⟨.punct .closeBracket, place'⟩ :: rest
  · obtain ⟨place', rest, rfl⟩ := hclosed
    exact LooksAhead.after [⟨.punct .openBracket, place⟩, ⟨.punct .closeBracket, place'⟩] (.done (.array []))
      fun m us _ _ => rfl
  · have hitems : LooksAhead (fun xs => Begins .primary ([.punct .openBracket] ++ xs))
        (fun m us => Parser.items m us >>= fun x => Parser.expect (.punct .closeBracket) .expectedArrayEnd x.2 >>=
          fun rest => .ok (Expr.array x.1, rest)) n ts := by
      refine (h.items ts).bind ((sound n).items ts) (fun xs hxs => hxs.array) ?_
      intro es second rest _ d
      refine .expect ?_ fun _ _ _ _ => .done (Expr.array es)
      simpa using (Begins.of_derives d).array
    refine LooksAhead.after [⟨.punct .openBracket, place⟩] hitems fun m us _ hhead => ?_
    simp only [List.cons_append, List.nil_append, Parser.primary]
    split
    · next place' us =>
      obtain ⟨rest, rfl⟩ := List.head?_eq_some_iff.mp hhead.symm
      exact absurd ⟨place', rest, rfl⟩ hclosed
    · rfl

theorem primary_succ (h : Watchful n) (ts : Tokens) : LooksAhead (Begins .primary) Parser.primary (n + 1) ts := by
  refine .succ ?_
  have hfail : ∀ cause, LooksAhead (Begins .primary) (fun _ us => (Parser.fail cause us : Parsed)) n ts :=
    fun cause => .fail (.nil .primary) cause
  cases ts with
  | nil =>
    refine (hfail .unexpectedEnd).congr fun m us hhead => ?_
    rw [List.head?_eq_none_iff.mp hhead]
    rfl
  | cons t ts =>
    obtain ⟨token, place⟩ := t
    by_cases hnumber : ∃ text, token = .number text
    · obtain ⟨text, rfl⟩ := hnumber
      cases hvalue : numeralValue text with
      | ok value =>
        refine LooksAhead.after [⟨.number text, place⟩] (.done (.literal value)) fun m us _ _ => ?_
        simp only [List.cons_append, List.nil_append, Parser.primary, hvalue]
        rfl
      | error e => simp only [LooksAhead, Parser.primary, hvalue]
    by_cases hgroup : token = .punct .openParen
    · subst hgroup
      have hinner : LooksAhead (fun xs => Begins .primary ([.punct .openParen] ++ xs))
          (fun m us => Parser.expression m us >>= fun x => Parser.expect (.punct .closeParen) .expectedGroupEnd x.2 >>=
            fun rest => .ok (x.1, rest)) n ts := by
        refine (h.expression ts).bind ((sound n).expression ts) (fun xs hxs => hxs.group) ?_
        intro inner second rest _ d
        refine .expect ?_ fun _ _ _ _ => .done inner
        simpa using (Begins.of_derives d).group
      exact hinner.after [⟨.punct .openParen, place⟩] fun m us _ _ => rfl
    by_cases harray : token = .punct .openBracket
    · subst harray
      exact h.array_succ place ts
    have hatoms : ∀ m us, Parser.primary (m + 1) (⟨token, place⟩ :: us) =
        (atom? token).elim (Parser.fail (.unexpectedToken token) (⟨token, place⟩ :: us)) fun e => .ok (e, us) := by
      intro m us
      unfold Parser.primary
      dsimp only
      split
      · exact absurd ⟨_, rfl⟩ hnumber
      · exact absurd rfl hgroup
      · exact absurd rfl harray
      · cases atom? token <;> rfl
    cases hatom : atom? token with
    | some e =>
      refine LooksAhead.after [⟨token, place⟩] (.done e) fun m us _ _ => ?_
      rw [List.singleton_append, hatoms, hatom, Option.elim_some]
    | none =>
      refine (hfail (.unexpectedToken token)).congr fun m us hhead => ?_
      obtain ⟨rest, rfl⟩ := List.head?_eq_some_iff.mp hhead
      rw [hatoms, hatom, Option.elim_none]

theorem items_succ (h : Watchful n) (ts : Tokens) : LooksAhead (Begins .items) Parser.items (n + 1) ts := by
  refine .succ ?_
  simp only [Parser.items]
  refine (h.expression ts).bind ((sound n).expression ts) (fun _ => Begins.last) ?_
  intro item front rest _ first
  by_cases hcomma : ∃ place more, rest = ⟨.punct .comma, place⟩ :: more
  · obtain ⟨place, more, rfl⟩ := hcomma
    refine LooksAhead.after [⟨.punct .comma, place⟩] ?_ fun _ _ _ _ => rfl
    dsimp only
    refine (h.items more).bind ((sound n).items more) (fun xs hxs => ?_) fun others _ _ _ _ => .done (item :: others)
    simpa using hxs.more first
  · refine (LooksAhead.done [item]).congr fun m us hhead => ?_
    dsimp only
    split
    · next place more =>
      obtain ⟨behind, rfl⟩ := List.head?_eq_some_iff.mp hhead.symm
      exact absurd ⟨place, behind, rfl⟩ hcomma
    · rfl

theorem succ (h : Watchful n) : Watchful (n + 1) :=
  ⟨h.expression_succ, h.binary_succ, h.operands_succ, h.operand_succ, h.unary_succ, h.access_succ, h.accesses_succ,
    h.primary_succ, h.items_succ⟩

end Watchful

/-- **The parsers look one token ahead**, with any number of steps. -/
theorem watchful : ∀ n, Watchful n
  | 0 => .zero
  | n + 1 => (watchful n).succ

/-! ## The place of a fault -/

/-- Before a token where the parser stops whatever comes behind it, no expression goes on with that token. -/
theorem not_begins_of_stays {n : Nat} {front : Tokens} {t : Located}
    (hstays : ∀ m rest e, n ≤ m → rest.head? = some t → expression m (front ++ rest) ≠ .ok (e, [])) :
    ¬ Begins .expression ((front ++ [t]).map Located.token) := by
  rintro ⟨ys, e, d⟩
  have hmap : (front ++ t :: ys.map (Located.mk · 0)).map Located.token = (front ++ [t]).map Located.token ++ ys := by
    simp [Function.comp_def]
  rw [← hmap] at d
  have hread := complete d (n + (20 * (front ++ t :: ys.map (Located.mk · 0)).length + 18)) [] (by
    simp only [Symbol.rank]; omega) (.nil _)
  rw [List.append_nil] at hread
  exact hstays _ _ e (Nat.le_add_right n _) rfl hread

/-- Tokens that are no expression have a first one that no expression goes on with, or they end too early. -/
theorem exists_offending {ts : Tokens} (hne : ts ≠ []) (hfit : ∀ t ∈ ts, ¬ t.token.TooLong)
    (hbad : ∀ e, ofTokens ts ≠ .ok e) :
    ∃ cause front back, ts = front ++ back ∧
      ofTokens ts = .error (.unexpected cause (back.head?.map Located.position)) ∧
      Begins .expression (front.map Located.token) ∧
      ∀ t ∈ back.head?, ¬ Begins .expression ((front ++ [t]).map Located.token) := by
  have hwatch := (watchful (stepsFor ts.length)).expression ts
  have hsound := (sound (stepsFor ts.length)).expression ts
  have hparse : ofTokens ts = (expression (stepsFor ts.length) ts >>= fun x =>
      x.2.head?.elim (.ok x.1) fun t => fail (.unexpectedToken t.token) x.2) := by
    obtain ⟨t, more, rfl⟩ := List.exists_cons_of_ne_nil hne
    change (expression (stepsFor (t :: more).length) (t :: more) >>= _) = _
    cases expression (stepsFor (t :: more).length) (t :: more) with
    | error => rfl
    | ok result => rcases result with ⟨e, _ | _⟩ <;> rfl
  unfold LooksAhead at hwatch
  cases hread : expression (stepsFor ts.length) ts with
  | ok result =>
    obtain ⟨e, rest⟩ := result
    cases rest with
    | nil => exact absurd (by rw [hparse, hread]; rfl) (hbad e)
    | cons t rest =>
      rw [hread] at hwatch hsound
      obtain ⟨front, hts, hstays⟩ := hwatch
      obtain ⟨front', hts', d⟩ := hsound
      obtain rfl := List.append_cancel_right (hts.symm.trans hts')
      refine ⟨.unexpectedToken t.token, front, t :: rest, hts, by rw [hparse, hread]; rfl, .of_derives d, ?_⟩
      rintro _ ⟨⟩
      refine not_begins_of_stays (n := stepsFor ts.length) fun m us e' hm hus hdone => ?_
      rw [hstays m us hm hus] at hdone
      obtain rfl : us = [] := (Prod.mk.inj (Except.ok.inj hdone)).2
      cases hus
  | error fault =>
    cases fault with
    | unexpected cause position =>
      rw [hread] at hwatch
      obtain ⟨front, back, hts, rfl, hbegins, hstays⟩ := hwatch
      refine ⟨cause, front, back, hts, by rw [hparse, hread]; rfl, hbegins, fun t ht => ?_⟩
      refine not_begins_of_stays (n := stepsFor ts.length) fun m us e' hm hus hdone => ?_
      rw [hstays m us hm (hus.trans (Option.mem_def.mp ht).symm)] at hdone
      cases hdone
    | numeralTooLong digits =>
      rw [hread] at hsound
      obtain ⟨t, mem, long⟩ := hsound
      exact absurd long (hfit t mem)
    | outOfSteps => exact absurd (by rw [hparse, hread]; rfl) (ofTokens_settles ts)

end Parser

/-- A text without tokens is blank. -/
theorem allBlank_of_tokens {text : Text} (h : tokens text = .ok []) : text.allBlank = true := by
  obtain ⟨written, gap, rfl, hgap, haccounts⟩ := (tokens_eq_ok_iff.mp h).accounts
  generalize hlast : written.length = last at haccounts
  generalize hts : ([] : List Located) = ts at haccounts
  cases haccounts with
  | start =>
    obtain rfl := List.length_eq_zero_iff.mp hlast
    simpa [Text.allBlank] using hgap
  | token => simp at hts

/-- **A fault of syntax is at the first offending token.** In a text that has tokens, is not blank, has no integer of too
many digits and is no expression, the tokens in front of the fault begin some expression, and none goes on with the token
there; no token before it offends. If the fault is at the end of the text, all its tokens begin an expression, but they
are none. -/
theorem fault_at_first_offending_token {text : Text} {ts : List Located} (htokens : tokens text = .ok ts)
    (hblank : text.allBlank = false) (hfit : IntegersFit text) (hbad : ∀ e, parse text ≠ .ok e) :
    ∃ cause front back, ts = front ++ back ∧
      parse text = .error (.malformed ⟨cause, (back.head?.map Located.position).getD text.length⟩) ∧
      Begins .expression (front.map Located.token) ∧
      (∀ t ∈ back.head?, ¬ Begins .expression ((front ++ [t]).map Located.token)) ∧
      (back = [] → ∀ e, ¬ Derives .expression (front.map Located.token) e) ∧
      ∀ before t behind, ts = before ++ t :: behind → ¬ Begins .expression ((before ++ [t]).map Located.token) →
        front.length ≤ before.length := by
  have hne : ts ≠ [] := by
    rintro rfl
    rw [allBlank_of_tokens htokens] at hblank
    cases hblank
  have hnone : ∀ e, ofTokens ts ≠ .ok e := fun e he => hbad e ((parse_of_tokens htokens).mpr he)
  obtain ⟨cause, front, back, rfl, hfault, hbegins, hoffends⟩ := Parser.exists_offending hne (hfit ts htokens) hnone
  refine ⟨cause, front, back, rfl, ?_, hbegins, hoffends, fun hback e d => ?_, fun before t behind heq hnot => ?_⟩
  · rw [parse, htokens]
    dsimp only
    rw [hfault]
  · subst hback
    rw [List.append_nil] at hnone
    exact hnone e (ofTokens_of_derives d)
  · by_contra hlt
    -- a token in front of the fault is one of those that begin an expression
    have hstart : before ++ [t] <+: front := by
      refine List.prefix_of_prefix_length_le ⟨behind, ?_⟩ (List.prefix_append front back) ?_
      · rw [heq, List.append_assoc]
        rfl
      · simp
        omega
    obtain ⟨more, rfl⟩ := hstart
    rw [List.map_append] at hbegins
    exact hnot hbegins.of_append

/-- A conditional in a group, with a second colon. -/
def twoColons : Text := "(a ? [b] : c : d)".text

/-- The tokens of `twoColons`. -/
def twoColonsTokens : List Located :=
  [⟨.punct .openParen, 0⟩, ⟨.identifier ['a'], 1⟩, ⟨.operator .question, 3⟩, ⟨.punct .openBracket, 5⟩,
    ⟨.identifier ['b'], 6⟩, ⟨.punct .closeBracket, 7⟩, ⟨.operator .colon, 9⟩, ⟨.identifier ['c'], 11⟩,
    ⟨.operator .colon, 13⟩, ⟨.identifier ['d'], 15⟩, ⟨.punct .closeParen, 16⟩]

set_option maxRecDepth 4000 in
theorem fault_at_first_offending_token_twoColons :
    parse twoColons = .error (.malformed ⟨.expectedGroupEnd, 13⟩) ∧
      Begins .expression ((twoColonsTokens.take 8).map Located.token) ∧
      ¬ Begins .expression ((twoColonsTokens.take 9).map Located.token) := by
  have htokens : tokens twoColons = .ok twoColonsTokens := by cbv
  have hparse : parse twoColons = .error (.malformed ⟨.expectedGroupEnd, 13⟩) := by cbv
  have hfit : IntegersFit twoColons := by
    intro ts hts
    rw [htokens] at hts
    cases hts
    simp [twoColonsTokens, Token.TooLong]
  obtain ⟨cause, front, back, hts, hfault, hbegins, hoffends, -⟩ :=
    fault_at_first_offending_token htokens (by decide) hfit fun e he => by rw [hparse] at he; cases he
  -- the position tells how many tokens are in front of the fault
  have hfront : front = twoColonsTokens.take front.length := by rw [hts, List.take_left]
  have hback : back = twoColonsTokens.drop front.length := by rw [hts, List.drop_left]
  have hplace : ∀ k ≤ twoColonsTokens.length,
      ((twoColonsTokens.drop k).head?.map Located.position).getD twoColons.length = 13 → k = 8 := by decide
  have hlength : front.length = 8 := by
    refine hplace _ (by rw [hts, List.length_append]; omega) ?_
    rw [← hback]
    rw [hparse] at hfault
    exact (SyntaxFault.mk.inj (ParseError.malformed.inj (Except.error.inj hfault))).2.symm
  rw [hlength] at hfront hback
  rw [hfront] at hbegins hoffends
  refine ⟨hparse, hbegins, hoffends ⟨.operator .colon, 13⟩ ?_⟩
  rw [hback]
  rfl

end HtmlTemplate.Expr
