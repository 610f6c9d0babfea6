import HtmlTemplate.Expr.Eval

/-!
# The names that an expression mentions

An expression sees nothing of a scope but what the names in it mean: two scopes that agree on them give the same value
or the same failure (`eval_congr`, `evaluate_congr`). The name of a property is no name in this sense.
-/

namespace HtmlTemplate.Expr

mutual

/-- The names that an expression mentions, in order. -/
def names : Expr → List Text
  | .literal _ => []
  | .identifier name => [name]
  | .member object _ => names object
  | .index object key => names object ++ names key
  | .array items => namesOf items
  | .unary _ operand => names operand
  | .binary _ left right => names left ++ names right
  | .logical _ left right => names left ++ names right
  | .conditional test consequent alternate => names test ++ (names consequent ++ names alternate)

/-- The names that some expressions mention, in order. -/
def namesOf : List Expr → List Text
  | [] => []
  | e :: rest => names e ++ namesOf rest

end

/-- The names that the text of an expression mentions; none if it is no expression. -/
def namesIn (text : Text) : List Text :=
  match parse text with
  | .ok e => e.names
  | .error _ => []

/-- The name that the text of an expression is as a whole, if it is one. -/
def nameOf? (text : Text) : Option Text :=
  match parse text with
  | .ok (.identifier name) => some name
  | _ => none

theorem parse_of_nameOf? {text name : Text} (h : nameOf? text = some name) : parse text = .ok (.identifier name) := by
  unfold nameOf? at h
  split at h
  · rename_i hp
    rw [hp, Option.some.inj h]
  · cases h

/-- An expression that is a name means what the name means. -/
theorem evaluate_of_nameOf? {text name : Text} (h : nameOf? text = some name) (scope : Scope) :
    evaluate text scope = .ok (scope.resolve name) := by
  rw [evaluate, parse_of_nameOf? h]
  simp only [eval]

section Agreement

variable {s t : Scope}

mutual

/-- Scopes that agree on the names of an expression give it the same value. -/
theorem eval_congr : ∀ (e : Expr), (∀ name ∈ e.names, s.resolve name = t.resolve name) → e.eval s = e.eval t
  | .literal _, _ => by rw [eval, eval]
  | .identifier name, h => by rw [eval, eval, h name (by simp [names])]
  | .member object _, h => by
    rw [names] at h
    rw [eval, eval, eval_congr object h]
  | .index object key, h => by
    rw [names, List.forall_mem_append] at h
    rw [eval, eval, eval_congr object h.1, eval_congr key h.2]
  | .array items, h => by
    rw [names] at h
    rw [eval, eval, evalItems_congr items h]
  | .unary _ operand, h => by
    rw [names] at h
    rw [eval, eval, eval_congr operand h]
  | .binary _ left right, h => by
    rw [names, List.forall_mem_append] at h
    rw [eval, eval, eval_congr left h.1, eval_congr right h.2]
  | .logical _ left right, h => by
    rw [names, List.forall_mem_append] at h
    rw [eval, eval, eval_congr left h.1, eval_congr right h.2]
  | .conditional test consequent alternate, h => by
    rw [names, List.forall_mem_append, List.forall_mem_append] at h
    rw [eval, eval, eval_congr test h.1, eval_congr consequent h.2.1, eval_congr alternate h.2.2]

/-- Scopes that agree on the names of some expressions give them the same values. -/
theorem evalItems_congr : ∀ (items : List Expr), (∀ name ∈ namesOf items, s.resolve name = t.resolve name) →
    evalItems s items = evalItems t items
  | [], _ => by rw [evalItems, evalItems]
  | e :: rest, h => by
    rw [namesOf, List.forall_mem_append] at h
    rw [evalItems, evalItems, eval_congr e h.1, evalItems_congr rest h.2]

end

/-- Scopes that agree on the names in a text give it the same value. -/
theorem evaluate_congr {text : Text} (h : ∀ name ∈ namesIn text, s.resolve name = t.resolve name) :
    evaluate text s = evaluate text t := by
  unfold namesIn at h
  unfold evaluate
  cases hp : parse text with
  | error cause => cases cause <;> rfl
  | ok e =>
    rw [hp] at h
    simp only [eval_congr e h]

end Agreement

end HtmlTemplate.Expr
