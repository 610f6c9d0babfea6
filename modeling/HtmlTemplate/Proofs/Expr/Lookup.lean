import HtmlTemplate.Expr.Eval
import HtmlTemplate.Proofs.Expr.Language
import HtmlTemplate.Proofs.Value.Display

/-!
# Looking up never fails

An expression that only looks up parts, by name or by literal keys, chooses between values and compares them has a
value in every scope, and over data as JSON has them the value is such data again (`LooksUp.exists_eval`). The one thing
that could go wrong is a key that is a number which cannot be shown, and no such number is written in an expression: its
integers have no more digits than the limit for showing them (`shows_of_derives`). Nothing is found below a value that
is absent (`eval_accesses`).
-/

namespace HtmlTemplate

/-! ## Data as JSON has them -/

namespace Value

/-- The values of JSON, and `undefined`, to any depth. -/
inductive Plain : Value → Prop
  | undefined : Plain .undefined
  | null : Plain .null
  | bool (b : Bool) : Plain (.bool b)
  | number (n : Number) : Plain (.number n)
  | string (s : Text) : Plain (.string s)
  | list {items : List Value} : (∀ v ∈ items, Plain v) → Plain (.list items)
  | mapping {entries : List (Text × Value)} : (∀ e ∈ entries, Plain e.2) → Plain (.mapping entries)

theorem plain_getD {v? : Option Value} (h : ∀ v, v? = some v → v.Plain) : (v?.getD .undefined).Plain := by
  cases v? with
  | none => exact .undefined
  | some v => exact h v rfl

theorem plain_lookup {entries : Entries Value} (h : ∀ e ∈ entries, e.2.Plain) (key : Text) :
    ((entries.lookup key).getD .undefined).Plain := by
  refine plain_getD fun v hv => ?_
  obtain ⟨front, back, rfl, -⟩ := List.lookup_eq_some_iff.mp hv
  exact h (key, v) (by simp)

theorem plain_getElem? {items : List Value} (h : ∀ v ∈ items, v.Plain) (i : Nat) :
    (items[i]?.getD .undefined).Plain :=
  plain_getD fun v hv => h v (List.mem_of_getElem? hv)

theorem plain_lengthOr (count : Nat) (name : Text) : (lengthOr count name).Plain := by
  unfold lengthOr
  split
  · exact .number _
  · exact .undefined

theorem plain_numberPart (n : Number) (name : Text) : (numberPart n name).Plain := by
  unfold numberPart
  repeat' split
  all_goals first | exact .number _ | exact .undefined

theorem Plain.member {v : Value} (h : v.Plain) (name : Text) : (v.member name).Plain := by
  cases h with
  | undefined => exact .undefined
  | null => exact .undefined
  | bool b =>
    rw [Value.member]
    exact plain_numberPart _ name
  | number n => exact plain_numberPart n name
  | string s => exact plain_lengthOr _ name
  | list _ => exact plain_lengthOr _ name
  | mapping h => exact plain_lookup h name

/-- Reading an entry of a mapping finds one of its values. -/
theorem plain_entry {entries : Entries Value} (h : ∀ e ∈ entries, e.2.Plain) {key part : Value}
    (hpart : entry entries key = .ok part) : part.Plain := by
  unfold entry at hpart
  split at hpart
  · cases hpart
  · split at hpart
    · cases hpart
      exact plain_lookup h _
    · cases hpart
      exact .undefined
    · cases hpart
      exact .undefined
    · split at hpart
      · cases hpart
      · cases hpart
        exact plain_lookup h _

theorem Plain.index {v key part : Value} (h : v.Plain) (hpart : v.index key = .ok part) : part.Plain := by
  unfold Value.index at hpart
  split at hpart
  · cases hpart
    exact .undefined
  · cases hpart
    exact .undefined
  · cases h with
    | mapping h => exact plain_entry h hpart
  · split at hpart
    · cases hpart
      exact h.member _
    · cases hpart
      split
      · refine plain_getD fun v hv => ?_
        obtain ⟨c, -, rfl⟩ := Option.map_eq_some_iff.mp hv
        exact .string _
      · cases h with
        | list h => exact plain_getElem? h _
      · cases h
      · exact .undefined

/-! ## Keys that can be read -/

/-- The value can be shown. -/
def Shows (v : Value) : Prop := ∃ shown, v.display = .ok shown

/-- A text or a number. -/
inductive IsName : Value → Prop
  | string (s : Text) : IsName (.string s)
  | number (n : Number) : IsName (.number n)

/-- A text or a number that can be shown is a key of whatever value there is. -/
theorem exists_index {key : Value} (hkey : key.IsName) (hshows : key.Shows) (v : Value) :
    ∃ part, v.index key = .ok part := by
  obtain ⟨shown, hshown⟩ := hshows
  cases v with
  | mapping entries =>
    cases hkey with
    | string s => exact ⟨_, rfl⟩
    | number n =>
      refine ⟨(entries.lookup shown).getD .undefined, ?_⟩
      simp [index, entry, isKey, hshown]
  | _ => cases hkey <;> exact ⟨_, rfl⟩

/-- There is nothing below null and undefined, under whatever key. -/
theorem index_of_isNullish {v : Value} (h : v.isNullish = true) (key : Value) : v.index key = .ok .undefined := by
  cases v <;> first | rfl | cases h

theorem member_of_isNullish {v : Value} (h : v.isNullish = true) (name : Text) : v.member name = .undefined := by
  cases v <;> first | rfl | cases h

end Value

namespace Expr

/-! ## Literals -/

mutual

/-- The values of the literals of an expression, in order. -/
def literals : Expr → List Value
  | .literal v => [v]
  | .identifier _ => []
  | .member object _ => literals object
  | .index object key => literals object ++ literals key
  | .array items => literalsOf items
  | .unary _ operand => literals operand
  | .binary _ left right => literals left ++ literals right
  | .logical _ left right => literals left ++ literals right
  | .conditional test consequent alternate => literals test ++ (literals consequent ++ literals alternate)

/-- The values of the literals of some expressions, in order. -/
def literalsOf : List Expr → List Value
  | [] => []
  | e :: rest => literals e ++ literalsOf rest

end

theorem mem_literalsOf {items : List Expr} {v : Value} : v ∈ literalsOf items ↔ ∃ e ∈ items, v ∈ e.literals := by
  induction items with
  | nil => simp [literalsOf]
  | cons e rest ih => rw [literalsOf, List.mem_append, List.exists_mem_cons_iff, ih]

theorem digitValue?_getD_le (c : CodePoint) : (digitValue? c).getD 0 ≤ 9 := by
  cases h : digitValue? c with
  | none => exact Nat.zero_le _
  | some n =>
    rw [digitValue?, Option.map_eq_some_iff] at h
    obtain ⟨start, hstart, rfl⟩ := h
    have hrange := List.find?_some hstart
    rw [Bool.and_eq_true, decide_eq_true_eq, decide_eq_true_eq] at hrange
    show c.toNat - start ≤ 9
    omega

/-- Digits write a number below the power of ten that has one digit more. -/
theorem digitsValue_lt (s : Text) : digitsValue s < 10 ^ s.length := by
  have hfold : ∀ (s : Text) (n bound : Nat), n < bound →
      s.foldl (fun n c => 10 * n + (digitValue? c).getD 0) n < bound * 10 ^ s.length := by
    intro s
    induction s with
    | nil => intro n bound h; simpa using h
    | cons c s ih =>
      intro n bound h
      have hc := digitValue?_getD_le c
      have hstep := ih (10 * n + (digitValue? c).getD 0) (bound * 10) (by omega)
      rw [List.foldl_cons, List.length_cons, Nat.pow_succ', ← Nat.mul_assoc]
      exact hstep
  simpa [digitsValue] using hfold s 0 1 Nat.one_pos

theorem pow_le_tenTo {m n : Nat} (h : m ≤ n) : 10 ^ m ≤ tenTo n := Nat.pow_le_pow_right (by decide) h

/-- A number can be shown unless it is an integer of too many digits. -/
theorem shows_number {x : Number} (h : ∀ n, x = .int n → n.natAbs < tenTo maxIntegerDigits) :
    (Value.number x).Shows := by
  cases hd : (Value.number x).display with
  | ok shown => exact ⟨shown, hd⟩
  | error e =>
    rw [Value.display, Number.display_eq_error_iff] at hd
    obtain ⟨n, hn, hlong⟩ := hd
    exact absurd hlong (not_le.mpr (h n hn))

/-- The value of a numeral is a number that can be shown. -/
theorem numeralValue_shows {text : Text} {v : Value} (h : numeralValue text = .ok v) : v.Shows ∧ v.Plain := by
  unfold numeralValue at h
  split at h
  · cases h
    exact ⟨shows_number nofun, .number _⟩
  · split at h
    · cases h
    · next hshort =>
      cases h
      refine ⟨shows_number fun n hn => ?_, .number _⟩
      cases hn
      exact (digitsValue_lt text).trans_le (pow_le_tenTo (not_lt.mp hshort))

theorem literals_of_mem_signs {l : Level} {sign : Token} {join : Expr → Expr → Expr} (h : (sign, join) ∈ l.signs)
    (left right : Expr) : (join left right).literals = left.literals ++ right.literals := by
  have hall : ∀ entry ∈ l.signs, (entry.2 left right).literals = left.literals ++ right.literals := by
    cases l <;> simp [Level.signs, literals]
  exact hall _ h

/-- The literals that are written in an expression are values as JSON has them, and can be shown. -/
theorem shows_of_derives {s : Symbol} {xs : List Token} {e : Expr} (h : Derives s xs e) :
    ∀ v ∈ e.literals, v.Shows ∧ v.Plain := by
  induction h with
  | expression _ ih => exact ih
  | test _ ih => exact ih
  | choice _ _ _ ih₁ ih₂ ih₃ =>
    rw [literals, List.forall_mem_append, List.forall_mem_append]
    exact ⟨ih₁, ih₂, ih₃⟩
  | operand _ ih => exact ih
  | joined _ hsign _ ih₁ ih₂ =>
    rw [literals_of_mem_signs hsign, List.forall_mem_append]
    exact ⟨ih₁, ih₂⟩
  | signed _ _ ih =>
    rw [literals]
    exact ih
  | unsigned _ ih => exact ih
  | whole _ ih => exact ih
  | property _ ih =>
    rw [literals]
    exact ih
  | keywordProperty _ ih =>
    rw [literals]
    exact ih
  | index _ _ ih₁ ih₂ =>
    rw [literals, List.forall_mem_append]
    exact ⟨ih₁, ih₂⟩
  | number hvalue =>
    rw [literals, List.forall_mem_singleton]
    exact numeralValue_shows hvalue
  | string =>
    rw [literals, List.forall_mem_singleton]
    exact ⟨⟨_, rfl⟩, .string _⟩
  | constant hword =>
    rw [literals, List.forall_mem_singleton]
    simp only [constants, List.mem_cons, List.not_mem_nil, or_false, Prod.mk.injEq] at hword
    rcases hword with ⟨-, rfl⟩ | ⟨-, rfl⟩ | ⟨-, rfl⟩ | ⟨-, rfl⟩
    · exact ⟨⟨_, rfl⟩, .bool _⟩
    · exact ⟨⟨_, rfl⟩, .bool _⟩
    · exact ⟨⟨_, rfl⟩, .null⟩
    · exact ⟨⟨_, rfl⟩, .undefined⟩
  | name =>
    rw [literals]
    exact List.forall_mem_nil _
  | group _ ih => exact ih
  | emptyArray =>
    rw [literals, literalsOf]
    exact List.forall_mem_nil _
  | array _ ih => exact ih
  | last _ ih =>
    rw [literals, literalsOf, literalsOf, List.append_nil]
    exact ih
  | more _ _ ih₁ ih₂ =>
    rw [literals] at ih₂
    rw [literals, literalsOf, List.forall_mem_append]
    exact ⟨ih₁, ih₂⟩

/-! ## Evaluation -/

/-- The operators that compare two values of any kind. -/
def equalities : List BinaryOp := [.equal, .unequal, .strictEqual, .strictUnequal]

/-- The expression only looks up parts by names and literal keys, chooses between values and compares them. -/
inductive LooksUp : Expr → Prop
  | literal (v : Value) : LooksUp (.literal v)
  | identifier (name : Text) : LooksUp (.identifier name)
  | member {object : Expr} (name : Text) : LooksUp object → LooksUp (.member object name)
  | index {object : Expr} {key : Value} : LooksUp object → key.IsName → LooksUp (.index object (.literal key))
  | array {items : List Expr} : (∀ e ∈ items, LooksUp e) → LooksUp (.array items)
  | not {operand : Expr} : LooksUp operand → LooksUp (.unary .not operand)
  | equality {op : BinaryOp} {left right : Expr} : op ∈ equalities → LooksUp left → LooksUp right →
      LooksUp (.binary op left right)
  | logical (op : LogicalOp) {left right : Expr} : LooksUp left → LooksUp right → LooksUp (.logical op left right)
  | conditional {test consequent alternate : Expr} : LooksUp test → LooksUp consequent → LooksUp alternate →
      LooksUp (.conditional test consequent alternate)

/-- Comparing two values gives a truth value, whatever they are. -/
theorem apply_equality {op : BinaryOp} (h : op ∈ equalities) (v w : Value) : ∃ b, op.apply v w = .ok (.bool b) := by
  simp only [equalities, List.mem_cons, List.not_mem_nil, or_false] at h
  rcases h with rfl | rfl | rfl | rfl <;> exact ⟨_, rfl⟩

section Evaluation

variable {scope : Scope}

/-- The items of an array have values if each of them has one, and all that holds of the values holds of the list. -/
theorem exists_evalItems {P : Value → Prop} {items : List Expr} (h : ∀ e ∈ items, ∃ v, e.eval scope = .ok v ∧ P v) :
    ∃ vs, evalItems scope items = .ok vs ∧ ∀ v ∈ vs, P v := by
  induction items with
  | nil => exact ⟨[], rfl, nofun⟩
  | cons e rest ih =>
    rw [List.forall_mem_cons] at h
    obtain ⟨v, hv, hP⟩ := h.1
    obtain ⟨vs, hvs, hall⟩ := ih h.2
    exact ⟨v :: vs, by rw [evalItems, hv, hvs], List.forall_mem_cons.mpr ⟨hP, hall⟩⟩

/-- An expression that looks up parts has a value if its literals can be shown; from values as JSON has them it makes
such a value. -/
theorem LooksUp.exists_eval {e : Expr} (h : LooksUp e) (hl : ∀ v ∈ e.literals, v.Shows ∧ v.Plain) :
    ∃ v, e.eval scope = .ok v ∧ ((∀ name, (scope.resolve name).Plain) → v.Plain) := by
  induction h with
  | literal v =>
    rw [literals, List.forall_mem_singleton] at hl
    exact ⟨v, by rw [eval], fun _ => hl.2⟩
  | identifier name => exact ⟨_, by rw [eval], fun hscope => hscope name⟩
  | member name _ ih =>
    rw [literals] at hl
    obtain ⟨v, hv, hplain⟩ := ih hl
    exact ⟨v.member name, by rw [eval, hv], fun hscope => (hplain hscope).member name⟩
  | @index object key _ hkey ih =>
    rw [literals, List.forall_mem_append, literals, List.forall_mem_singleton] at hl
    obtain ⟨v, hv, hplain⟩ := ih hl.1
    obtain ⟨part, hpart⟩ := Value.exists_index hkey hl.2.1 v
    exact ⟨part, by rw [eval, hv, eval]; simp only [hpart], fun hscope => (hplain hscope).index hpart⟩
  | @array items _ ih =>
    rw [literals] at hl
    obtain ⟨vs, hvs, hplain⟩ := exists_evalItems fun e he =>
      ih e he fun v hv => hl v (mem_literalsOf.mpr ⟨e, he, hv⟩)
    exact ⟨.list vs, by rw [eval, hvs], fun hscope => .list fun v hv => hplain v hv hscope⟩
  | not _ ih =>
    rw [literals] at hl
    obtain ⟨v, hv, -⟩ := ih hl
    exact ⟨.bool (!v.truthy), by rw [eval, hv]; rfl, fun _ => .bool _⟩
  | equality hop _ _ ih₁ ih₂ =>
    rw [literals, List.forall_mem_append] at hl
    obtain ⟨v, hv, -⟩ := ih₁ hl.1
    obtain ⟨w, hw, -⟩ := ih₂ hl.2
    obtain ⟨b, hb⟩ := apply_equality hop v w
    exact ⟨.bool b, by rw [eval, hv, hw]; exact hb, fun _ => .bool b⟩
  | logical op _ _ ih₁ ih₂ =>
    rw [literals, List.forall_mem_append] at hl
    obtain ⟨v, hv, hplain⟩ := ih₁ hl.1
    obtain ⟨w, hw, hplain'⟩ := ih₂ hl.2
    simp only [eval, hv, hw]
    split
    · exact ⟨v, rfl, hplain⟩
    · exact ⟨w, rfl, hplain'⟩
  | conditional _ _ _ ih₁ ih₂ ih₃ =>
    rw [literals, List.forall_mem_append, List.forall_mem_append] at hl
    obtain ⟨v, hv, -⟩ := ih₁ hl.1
    simp only [eval, hv]
    split
    · exact ih₂ hl.2.1
    · exact ih₃ hl.2.2

end Evaluation

/-! ## Accesses to what is absent -/

/-- An access to a part: by a name, or by a literal key. -/
inductive Access where
  | property (name : Text)
  | entry (key : Value)
  deriving Repr

/-- The expression for an access to a part of `object`. -/
def Access.of (object : Expr) : Access → Expr
  | .property name => .member object name
  | .entry key => .index object (.literal key)

/-- The expression means null or undefined, or it is a name that is not bound. -/
inductive Absent (scope : Scope) : Expr → Prop
  | nullish {e : Expr} {v : Value} : e.eval scope = .ok v → v.isNullish = true → Absent scope e
  | unbound {name : Text} : scope.binds name = false → Absent scope (.identifier name)

section Absence

variable {scope : Scope} {e : Expr}

theorem Absent.exists_nullish (h : Absent scope e) : ∃ v, e.eval scope = .ok v ∧ v.isNullish = true := by
  cases h with
  | nullish hv hnullish => exact ⟨_, hv, hnullish⟩
  | unbound hbinds =>
    refine ⟨.undefined, ?_, rfl⟩
    rw [Scope.binds, Option.isSome_eq_false_iff, Option.isNone_iff_eq_none] at hbinds
    rw [eval, Scope.resolve, hbinds]
    rfl

/-- An access to what is absent finds nothing. -/
theorem Absent.eval_access (h : Absent scope e) (access : Access) : (access.of e).eval scope = .ok .undefined := by
  obtain ⟨v, hv, hnullish⟩ := h.exists_nullish
  cases access with
  | property name =>
    rw [Access.of, eval, hv]
    simp only [Value.member_of_isNullish hnullish]
  | entry key =>
    rw [Access.of, eval, hv, eval]
    simp only [Value.index_of_isNullish hnullish]

theorem eval_accesses {accesses : List Access} (h : Absent scope e) (hne : accesses ≠ []) :
    (accesses.foldl (fun object access => access.of object) e).eval scope = .ok .undefined := by
  induction accesses generalizing e with
  | nil => exact absurd rfl hne
  | cons access rest ih =>
    have hfound := h.eval_access access
    cases rest with
    | nil => exact hfound
    | cons next rest => exact ih (.nullish hfound rfl) (List.cons_ne_nil next rest)

end Absence

/-- **Looking up never fails.** Whatever the scope, a text that is an expression and only looks up parts by names and
literal keys, chooses between values and compares them has a value, and one as JSON has it if all that the scope binds
is so. One or more accesses to what is null, undefined or not bound have the value undefined. -/
theorem evaluate_of_looksUp (scope : Scope) :
    (∀ text e, parse text = .ok e → LooksUp e →
      ∃ v, evaluate text scope = .ok v ∧ ((∀ name, (scope.resolve name).Plain) → v.Plain)) ∧
    ∀ (base : Expr) (accesses : List Access), Absent scope base → accesses ≠ [] →
      (accesses.foldl (fun object access => access.of object) base).eval scope = .ok .undefined := by
  refine ⟨fun text e hparse hlooks => ?_, fun _ _ => eval_accesses⟩
  obtain ⟨ts, -, hderives⟩ := parse_eq_ok_iff.mp hparse
  obtain ⟨v, hv, hplain⟩ := hlooks.exists_eval (shows_of_derives hderives)
  refine ⟨v, ?_, hplain⟩
  unfold evaluate
  simp only [hparse, hv]

/-- A text that looks into a list behind its end, into a mapping by a number, and into a value that is null. -/
def defensive : Text := "rows[7].name ?? [m[1] === !s.length, t ? s : m['k']]".text

/-- The tree of `defensive`. -/
def defensiveTree : Expr :=
  .logical .orElse (.member (.index (.identifier "rows".text) (.literal (.ofInt 7))) "name".text)
    (.array
      [.binary .strictEqual (.index (.identifier ['m']) (.literal (.ofInt 1)))
          (.unary .not (.member (.identifier ['s']) "length".text)),
        .conditional (.identifier ['t']) (.identifier ['s']) (.index (.identifier ['m']) (.literal (.string ['k'])))])

/-- The scope in which `defensive` is evaluated. -/
def defensiveScope : Scope :=
  ⟨[[("rows".text, .list [.null]), (['m'], .mapping [(['1'], .bool true)]), (['s'], .null)]]⟩

set_option maxRecDepth 4000 in
theorem evaluate_of_looksUp_defensive :
    parse defensive = .ok defensiveTree ∧ LooksUp defensiveTree ∧
      (∃ v, evaluate defensive defensiveScope = .ok v) ∧ Absent defensiveScope (.identifier ['t']) ∧
      (Expr.index (.member (.identifier ['t']) ['a']) (.literal (.string ['b']))).eval defensiveScope =
        .ok .undefined := by
  have hparse : parse defensive = .ok defensiveTree := by cbv
  have hlooks : LooksUp defensiveTree := by
    refine .logical _ (.member _ (.index (.identifier _) (.number _))) (.array ?_)
    simp only [List.forall_mem_cons, List.not_mem_nil, false_implies, implies_true, and_true]
    exact ⟨.equality (by decide) (.index (.identifier _) (.number _)) (.not (.member _ (.identifier _))),
      .conditional (.identifier _) (.identifier _) (.index (.identifier _) (.string _))⟩
  have habsent : Absent defensiveScope (.identifier ['t']) := .unbound (by decide)
  obtain ⟨hvalue, hchain⟩ := evaluate_of_looksUp defensiveScope
  obtain ⟨v, hv, -⟩ := hvalue _ _ hparse hlooks
  exact ⟨hparse, hlooks, ⟨v, hv⟩, habsent,
    hchain _ [.property ['a'], .entry (.string ['b'])] habsent (List.cons_ne_nil _ _)⟩

end Expr
end HtmlTemplate
