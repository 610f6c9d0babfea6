import HtmlTemplate.Proofs.Except
import HtmlTemplate.Proofs.Expr.Lookup
import HtmlTemplate.Proofs.Value.Anonymous

/-!
# Binding a value and writing out its expression

To bind a name to the value of an expression is to write the expression in the place of the name
(`eval_substitute`), with one exception. A value that is bound is one thing, however often the name is mentioned, while
an expression that is written out is computed each time, and makes its NaNs anew. Sequences tell such NaNs apart when
they are compared; nothing else does (`eval_anonymous`).
-/

namespace HtmlTemplate

namespace Value

mutual

/-- Whether no `nan` in the value, by itself or as an item of lists, was only computed. -/
def isIdentified : Value → Bool
  | .number (.float (.nan .computed)) => false
  | .list items => areIdentified items
  | _ => true

/-- Whether no `nan` in the values was only computed. -/
def areIdentified : List Value → Bool
  | [] => true
  | v :: rest => isIdentified v && areIdentified rest

end

mutual

theorem identified_eq_self (level : Nat) (name : Text) (place : List Nat) :
    ∀ v : Value, v.isIdentified = true → v.identified level name place = v
  | .list items, h => by
    rw [isIdentified] at h
    rw [identified, identifiedItems_eq_self level name place 0 items h]
  | .number (.float (.nan .computed)), h => by
    rw [isIdentified] at h
    cases h
  | .number (.int _), _ | .number (.float (.infinity _)), _ | .number (.float (.finite _ _ _)), _
  | .number (.float (.nan (.given _))), _ | .number (.float (.nan (.bound _ _ _))), _
  | .undefined, _ | .null, _ | .bool _, _ | .string _, _ | .tuple _, _ | .mapping _, _ | .record _, _ | .object _ _, _
  | .callable _, _ => by
    rw [identified] <;> nofun

theorem identifiedItems_eq_self (level : Nat) (name : Text) (place : List Nat) (index : Nat) :
    ∀ items : List Value, areIdentified items = true → identifiedItems level name place index items = items
  | [], _ => by rw [identifiedItems]
  | v :: rest, h => by
    rw [areIdentified, Bool.and_eq_true] at h
    rw [identifiedItems, identified_eq_self level name (index :: place) v h.1,
      identifiedItems_eq_self level name place (index + 1) rest h.2]

end

end Value

namespace Expr

/-! ## Substitution -/

mutual

/-- The expression with `e` written in the place of the name; the names of properties are no such places. -/
def substitute (name : Text) (e : Expr) : Expr → Expr
  | .literal v => .literal v
  | .identifier other => if other = name then e else .identifier other
  | .member object property => .member (substitute name e object) property
  | .index object key => .index (substitute name e object) (substitute name e key)
  | .array items => .array (substituteIn name e items)
  | .unary op operand => .unary op (substitute name e operand)
  | .binary op left right => .binary op (substitute name e left) (substitute name e right)
  | .logical op left right => .logical op (substitute name e left) (substitute name e right)
  | .conditional test consequent alternate =>
    .conditional (substitute name e test) (substitute name e consequent) (substitute name e alternate)

/-- The expressions with `e` written in the place of the name. -/
def substituteIn (name : Text) (e : Expr) : List Expr → List Expr
  | [] => []
  | b :: rest => substitute name e b :: substituteIn name e rest

end

theorem resolve_bound (scope : Scope) (name : Text) (v : Value) (other : Text) :
    (scope.child [(name, v)]).resolve other = if other = name then v else scope.resolve other := by
  rw [Scope.resolve_child, List.lookup_cons, List.lookup_nil]
  by_cases h : other = name
  · rw [h, beq_self_eq_true, if_pos rfl]
    rfl
  · rw [beq_eq_false_iff_ne.mpr h, if_neg h]
    rfl

section Substitution

variable {scope : Scope} {e : Expr} {v : Value} (name : Text)

mutual

/-- A name that is bound to the value of an expression means what the expression means. -/
theorem eval_substitute (he : e.eval scope = .ok v) :
    ∀ b : Expr, (substitute name e b).eval scope = b.eval (scope.child [(name, v)])
  | .literal _ => by rw [substitute, eval, eval]
  | .identifier other => by
    rw [substitute, eval, resolve_bound]
    by_cases h : other = name
    · rw [if_pos h, if_pos h, he]
    · rw [if_neg h, if_neg h, eval]
  | .member object _ => by rw [substitute, eval, eval, eval_substitute he object]
  | .index object key => by rw [substitute, eval, eval, eval_substitute he object, eval_substitute he key]
  | .array items => by rw [substitute, eval, eval, evalItems_substituteIn he items]
  | .unary _ operand => by rw [substitute, eval, eval, eval_substitute he operand]
  | .binary _ left right => by rw [substitute, eval, eval, eval_substitute he left, eval_substitute he right]
  | .logical _ left right => by rw [substitute, eval, eval, eval_substitute he left, eval_substitute he right]
  | .conditional test consequent alternate => by
    rw [substitute, eval, eval, eval_substitute he test, eval_substitute he consequent, eval_substitute he alternate]

/-- The same of several expressions. -/
theorem evalItems_substituteIn (he : e.eval scope = .ok v) :
    ∀ items : List Expr, evalItems scope (substituteIn name e items) = evalItems (scope.child [(name, v)]) items
  | [] => by rw [substituteIn, evalItems, evalItems]
  | b :: rest => by rw [substituteIn, evalItems, evalItems, eval_substitute he b, evalItems_substituteIn he rest]

end

end Substitution

/-! ## Operators that do not tell NaNs apart -/

mutual

/-- The operators between two operands in an expression, in order. -/
def operators : Expr → List BinaryOp
  | .literal _ => []
  | .identifier _ => []
  | .member object _ => operators object
  | .index object key => operators object ++ operators key
  | .array items => operatorsOf items
  | .unary _ operand => operators operand
  | .binary op left right => op :: (operators left ++ operators right)
  | .logical _ left right => operators left ++ operators right
  | .conditional test consequent alternate => operators test ++ (operators consequent ++ operators alternate)

/-- The operators between two operands in some expressions, in order. -/
def operatorsOf : List Expr → List BinaryOp
  | [] => []
  | e :: rest => operators e ++ operatorsOf rest

end

section Anonymous

variable (v w : Value)

theorem arithmetic_anonymous (op : BinaryOp) {compute : Number → Number → Except NumberError Number}
    (h : ∀ a b, compute a.anonymous b.anonymous = compute a b) :
    arithmetic op compute v.anonymous w.anonymous = arithmetic op compute v w := by
  rw [arithmetic, v.number?_anonymous, w.number?_anonymous, v.kind_anonymous, w.kind_anonymous, arithmetic]
  cases v.number? with
  | none => rfl
  | some a =>
    cases w.number? with
    | none => rfl
    | some b => simp only [Option.map_some, h]

theorem displayed_anonymous : displayed v.anonymous = displayed v := by
  rw [displayed, v.display_anonymous, displayed]

theorem sum_string_left (s : Text) (w : Value) :
    sum (.string s) w = (displayed w).map fun t => .string (s ++ t) := by
  rw [sum]
  cases displayed w <;> rfl

theorem sum_string_right (v : Value) (t : Text) :
    sum v (.string t) = (displayed v).map fun s => .string (s ++ t) := by
  cases v with
  | string s => rfl
  | _ =>
    unfold sum
    dsimp only
    cases displayed _ <;> rfl

theorem sum_eq_arithmetic {v w : Value} (hv : ∀ s, v ≠ .string s) (hw : ∀ t, w ≠ .string t) :
    sum v w = arithmetic .add Number.add v w := by
  rw [sum]
  · exact hv
  · exact hw

theorem sum_anonymous : sum v.anonymous w.anonymous = sum v w := by
  by_cases hv : ∃ s, v = .string s
  · obtain ⟨s, rfl⟩ := hv
    rw [Value.anonymous, sum_string_left, displayed_anonymous, sum_string_left]
  by_cases hw : ∃ t, w = .string t
  · obtain ⟨t, rfl⟩ := hw
    rw [Value.anonymous_string, sum_string_right, displayed_anonymous, sum_string_right]
  · push Not at hv hw
    have hv' : ∀ s, v.anonymous ≠ .string s := fun s => Value.anonymous_eq_string_iff.not.mpr (hv s)
    have hw' : ∀ t, w.anonymous ≠ .string t := fun t => Value.anonymous_eq_string_iff.not.mpr (hw t)
    rw [sum_eq_arithmetic hv hw, sum_eq_arithmetic hv' hw', arithmetic_anonymous v w .add Number.add_anonymous]

theorem ordered_anonymous (op : BinaryOp) (accepts : Ordering → Bool) :
    ordered op accepts v.anonymous w.anonymous = ordered op accepts v w := by
  unfold ordered
  rw [v.number?_anonymous, w.number?_anonymous, v.kind_anonymous, w.kind_anonymous]
  cases hv : v.number? with
  | some a =>
    cases hw : w.number? with
    | some b => simp only [Option.map_some, Number.compare?_anonymous]
    | none =>
      cases v with
      | bool b => rw [Value.anonymous]; rfl
      | number n => rw [Value.anonymous]; rfl
      | _ => cases hv
  | none =>
    cases v with
    | bool b => cases hv
    | number n => cases hv
    | string s => cases w <;> rw [Value.anonymous, Value.anonymous] <;> rfl
    | _ => rw [Value.anonymous]; rfl

/-- An operator that does not ask for equality takes anonymous operands for the operands themselves. -/
theorem BinaryOp.apply_anonymous {op : BinaryOp} (h : op ∉ equalities) :
    op.apply v.anonymous w.anonymous = op.apply v w := by
  cases op with
  | add => exact sum_anonymous v w
  | sub => exact arithmetic_anonymous v w _ Number.sub_anonymous
  | mul => exact arithmetic_anonymous v w _ Number.mul_anonymous
  | div => exact arithmetic_anonymous v w _ Number.div_anonymous
  | mod => exact arithmetic_anonymous v w _ Number.mod_anonymous
  | less => exact ordered_anonymous v w _ _
  | atMost => exact ordered_anonymous v w _ _
  | greater => exact ordered_anonymous v w _ _
  | atLeast => exact ordered_anonymous v w _ _
  | equal | unequal | strictEqual | strictUnequal => exact absurd (by decide) h

theorem UnaryOp.apply_anonymous (op : UnaryOp) :
    op.apply v.anonymous = (op.apply v).map Value.anonymous := by
  unfold apply
  rw [v.number?_anonymous, v.kind_anonymous, v.truthy_anonymous]
  cases op with
  | not => simp only [Except.map, Value.anonymous]
  | negate =>
    cases v.number? with
    | none => rfl
    | some n => simp only [Option.map_some, Except.map, Value.anonymous, Number.neg_anonymous, Number.anonymous_neg]
  | plus =>
    cases v.number? with
    | none => rfl
    | some n => simp only [Option.map_some, Except.map, Value.anonymous]

theorem LogicalOp.settles_anonymous (op : LogicalOp) : op.settles v.anonymous = op.settles v := by
  cases op with
  | both => rw [settles, settles, v.truthy_anonymous]
  | either => rw [settles, settles, v.truthy_anonymous]
  | orElse => rw [settles, settles, v.isNullish_anonymous]

end Anonymous

section Agreement

variable {s t : Scope}

mutual

/-- An expression that does not ask for equality gives alike values in scopes that bind the names alike. -/
theorem eval_anonymous (hscope : ∀ name, (s.resolve name).anonymous = (t.resolve name).anonymous) :
    ∀ b : Expr, (∀ op ∈ b.operators, op ∉ equalities) →
      (b.eval s).map Value.anonymous = (b.eval t).map Value.anonymous
  | .literal _, _ => by rw [eval, eval]
  | .identifier name, _ => by
    rw [eval, eval]
    exact congrArg Except.ok (hscope name)
  | .member object name, h => by
    rw [operators] at h
    rw [eval, eval]
    obtain ⟨e, hs, ht⟩ | ⟨v, w, hs, ht, hvw⟩ := map_eq_map_iff.mp (eval_anonymous hscope object h)
    · rw [hs, ht]
    · rw [hs, ht]
      exact congrArg Except.ok (by rw [← v.member_anonymous, hvw, w.member_anonymous])
  | .index object key, h => by
    rw [operators, List.forall_mem_append] at h
    rw [eval, eval]
    obtain ⟨e, hs, ht⟩ | ⟨v, w, hs, ht, hvw⟩ := map_eq_map_iff.mp (eval_anonymous hscope object h.1)
    · rw [hs, ht]
    obtain ⟨e, hs', ht'⟩ | ⟨k, l, hs', ht', hkl⟩ := map_eq_map_iff.mp (eval_anonymous hscope key h.2)
    · simp only [hs, ht, hs', ht']
    have hpart : (v.index k).map Value.anonymous = (w.index l).map Value.anonymous := by
      rw [← v.index_anonymous, hvw, hkl, w.index_anonymous]
    obtain ⟨e, hv, hw⟩ | ⟨part, part', hv, hw, hparts⟩ := map_eq_map_iff.mp hpart
    · simp only [hs, ht, hs', ht', hv, hw]
    · simp only [hs, ht, hs', ht', hv, hw, Except.map, hparts]
  | .array items, h => by
    rw [operators] at h
    rw [eval, eval]
    obtain ⟨e, hs, ht⟩ | ⟨vs, ws, hs, ht, hvw⟩ := map_eq_map_iff.mp (evalItems_anonymous hscope items h)
    · rw [hs, ht]
    · rw [hs, ht]
      exact congrArg Except.ok (by rw [Value.anonymous, hvw, Value.anonymous])
  | .unary op operand, h => by
    rw [operators] at h
    rw [eval, eval]
    obtain ⟨e, hs, ht⟩ | ⟨v, w, hs, ht, hvw⟩ := map_eq_map_iff.mp (eval_anonymous hscope operand h)
    · rw [hs, ht]
    · simp only [hs, ht, ← UnaryOp.apply_anonymous, hvw]
  | .binary _ left right, h => by
    rw [operators, List.forall_mem_cons, List.forall_mem_append] at h
    rw [eval, eval]
    obtain ⟨e, hs, ht⟩ | ⟨v, w, hs, ht, hvw⟩ := map_eq_map_iff.mp (eval_anonymous hscope left h.2.1)
    · rw [hs, ht]
    obtain ⟨e, hs', ht'⟩ | ⟨v', w', hs', ht', hvw'⟩ := map_eq_map_iff.mp (eval_anonymous hscope right h.2.2)
    · simp only [hs, ht, hs', ht']
    · simp only [hs, ht, hs', ht']
      rw [← BinaryOp.apply_anonymous v v' h.1, hvw, hvw', BinaryOp.apply_anonymous w w' h.1]
  | .logical op left right, h => by
    rw [operators, List.forall_mem_append] at h
    rw [eval, eval]
    obtain ⟨e, hs, ht⟩ | ⟨v, w, hs, ht, hvw⟩ := map_eq_map_iff.mp (eval_anonymous hscope left h.1)
    · rw [hs, ht]
    have hsettles : op.settles v = op.settles w := by
      rw [← LogicalOp.settles_anonymous, hvw, LogicalOp.settles_anonymous]
    simp only [hs, ht, hsettles]
    split
    · exact congrArg Except.ok hvw
    · exact eval_anonymous hscope right h.2
  | .conditional test consequent alternate, h => by
    rw [operators, List.forall_mem_append, List.forall_mem_append] at h
    rw [eval, eval]
    obtain ⟨e, hs, ht⟩ | ⟨v, w, hs, ht, hvw⟩ := map_eq_map_iff.mp (eval_anonymous hscope test h.1)
    · rw [hs, ht]
    have htruthy : v.truthy = w.truthy := by rw [← v.truthy_anonymous, hvw, w.truthy_anonymous]
    simp only [hs, ht, htruthy]
    split
    · exact eval_anonymous hscope consequent h.2.1
    · exact eval_anonymous hscope alternate h.2.2

/-- The same of several expressions. -/
theorem evalItems_anonymous (hscope : ∀ name, (s.resolve name).anonymous = (t.resolve name).anonymous) :
    ∀ items : List Expr, (∀ op ∈ operatorsOf items, op ∉ equalities) →
      (evalItems s items).map Value.anonymousItems = (evalItems t items).map Value.anonymousItems
  | [], _ => by rw [evalItems, evalItems]
  | e :: rest, h => by
    rw [operatorsOf, List.forall_mem_append] at h
    rw [evalItems, evalItems]
    obtain ⟨e, hs, ht⟩ | ⟨v, w, hs, ht, hvw⟩ := map_eq_map_iff.mp (eval_anonymous hscope e h.1)
    · rw [hs, ht]
    obtain ⟨e, hs', ht'⟩ | ⟨vs, ws, hs', ht', hvws⟩ := map_eq_map_iff.mp (evalItems_anonymous hscope rest h.2)
    · simp only [hs, ht, hs', ht']
    · simp only [hs, ht, hs', ht', Except.map, Value.anonymousItems, hvw, hvws]

end

end Agreement

/-! ## Binding -/

theorem resolve_identified (scope : Scope) (level : Nat) (name : Text) (v : Value) (other : Text) :
    (scope.child (Layer.identified level [(name, v)])).resolve other =
      if other = name then v.identified level name [] else scope.resolve other :=
  resolve_bound scope name (v.identified level name []) other

/-- **Binding is substitution.** A name bound to the value of an expression, at whatever level, gives what the
expression gives in the place of the name: the same value or the same failure if the value holds no `nan` that was only
computed; and, whatever it holds, the same but for the identities of NaNs if nothing is asked about equality. -/
theorem eval_bound_eq_eval_substitute (scope : Scope) (name : Text) (b e : Expr) (v : Value) (level : Nat)
    (he : e.eval scope = .ok v) :
    (v.isIdentified = true →
      b.eval (scope.child (Layer.identified level [(name, v)])) = (substitute name e b).eval scope) ∧
    ((∀ op ∈ b.operators, op ∉ equalities) →
      (b.eval (scope.child (Layer.identified level [(name, v)]))).map Value.anonymous =
        ((substitute name e b).eval scope).map Value.anonymous) := by
  rw [eval_substitute name he b]
  refine ⟨fun hv => ?_, fun hb => eval_anonymous (fun other => ?_) b hb⟩
  · rw [Layer.identified, List.map_singleton, Value.identified_eq_self level name [] v hv]
  · rw [resolve_identified, resolve_bound]
    split
    · exact Value.anonymous_identified level name [] v
    · rfl

/-- A scope in which `x` is bound already, to what is true. -/
def outerScope : Scope := ⟨[[(['x'], .bool true), (['y'], .list [.null])]]⟩

/-- The tree of `y[0]`. -/
def headTree : Expr := .index (.identifier ['y']) (.literal (.ofInt 0))

/-- The tree of `'' + [x ?? y.x]`. -/
def shownTree : Expr :=
  .binary .add (.literal (.string []))
    (.array [.logical .orElse (.identifier ['x']) (.member (.identifier ['y']) ['x'])])

/-- The tree of `1e999 - 1e999`, which computes a `nan`. -/
def nanTree : Expr := .binary .sub (.literal (.ofFloat (.infinity false))) (.literal (.ofFloat (.infinity false)))

/-- Null shadows what is outside, and the property `x` is not the name `x`. -/
theorem eval_bound_null :
    headTree.eval outerScope = .ok .null ∧ Value.null.isIdentified = true ∧
      nanTree.eval outerScope = .ok (.ofFloat (.nan .computed)) ∧ (∀ op ∈ shownTree.operators, op ∉ equalities) ∧
      shownTree.eval (outerScope.child (Layer.identified 1 [(['x'], .null)])) =
        (substitute ['x'] headTree shownTree).eval outerScope ∧
      (shownTree.eval (outerScope.child (Layer.identified 1 [(['x'], .ofFloat (.nan .computed))]))).map
          Value.anonymous = ((substitute ['x'] nanTree shownTree).eval outerScope).map Value.anonymous := by
  have hhead : headTree.eval outerScope = .ok .null := rfl
  have hnan : nanTree.eval outerScope = .ok (.ofFloat (.nan .computed)) := rfl
  have hoperators : ∀ op ∈ shownTree.operators, op ∉ equalities := by decide
  refine ⟨hhead, rfl, hnan, hoperators, ?_, ?_⟩
  · exact (eval_bound_eq_eval_substitute outerScope ['x'] shownTree headTree .null 1 hhead).1 rfl
  · exact (eval_bound_eq_eval_substitute outerScope ['x'] shownTree nanTree _ 1 hnan).2 hoperators

/-- The tree of `[x] == [x]`. -/
def pairTree : Expr := .binary .equal (.array [.identifier ['x']]) (.array [.identifier ['x']])

/-- A computed `nan` that is bound is one and the same wherever it is mentioned; written out it is computed twice. -/
theorem eval_bound_nan :
    parse "1e999 - 1e999".text = .ok nanTree ∧ parse "[x] == [x]".text = .ok pairTree ∧
      nanTree.eval ⟨[]⟩ = .ok (.ofFloat (.nan .computed)) ∧
      pairTree.eval (Scope.child ⟨[]⟩ (Layer.identified 1 [(['x'], .ofFloat (.nan .computed))])) = .ok (.bool true) ∧
      (substitute ['x'] nanTree pairTree).eval ⟨[]⟩ = .ok (.bool false) := by
  have htokens : tokens "1e999 - 1e999".text =
      .ok [⟨.number "1e999".text, 0⟩, ⟨.operator .minus, 6⟩, ⟨.number "1e999".text, 8⟩] := by cbv
  exact ⟨(parse_of_tokens htokens).mpr rfl, by cbv, rfl, rfl, rfl⟩

end Expr

end HtmlTemplate
