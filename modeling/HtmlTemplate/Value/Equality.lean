import HtmlTemplate.Value.Basic

/-!
# Equality of values

Loose equality takes null and undefined for equal, and compares the rest by what it holds: numbers and booleans by
their number, sequences item by item, mappings and records by their entries in whatever order. Strict equality keeps
null, undefined and the booleans apart from everything else.
-/

namespace HtmlTemplate

namespace Value

/-- Whether both values are one and the same `nan`, given or bound. Items of sequences and mappings that are the same
are equal, though a `nan` by itself equals nothing. -/
def sameNan : Value → Value → Bool
  | .number (.float (.nan i)), .number (.float (.nan j)) => i == j && i != .computed
  | _, _ => false

mutual

/-- Whether two values hold the same. -/
def equal : Value → Value → Bool
  | .undefined, .undefined => true
  | .null, .null => true
  | .bool a, w =>
    match w.number? with
    | some n => (Number.int (if a then 1 else 0)).equal n
    | none => false
  | .number m, w =>
    match w.number? with
    | some n => m.equal n
    | none => false
  | .string s, .string t => s == t
  | .list xs, .list ys => equalItems xs ys
  | .tuple xs, .tuple ys => equalItems xs ys
  | .mapping xs, .mapping ys => xs.length == ys.length && equalEntries xs ys
  | .record xs, .record ys => xs.length == ys.length && equalEntries xs ys
  | .object i _, .object j _ => i == j
  | .callable i, .callable j => i == j
  | _, _ => false

/-- Whether two sequences have equal items. -/
def equalItems : List Value → List Value → Bool
  | [], [] => true
  | v :: vs, w :: ws => (sameNan v w || equal v w) && equalItems vs ws
  | _, _ => false

/-- Whether every entry of the first list is in the second, with an equal value. -/
def equalEntries : List (Text × Value) → List (Text × Value) → Bool
  | [], _ => true
  | (k, v) :: rest, ys =>
    (match ys.lookup k with
      | some w => sameNan v w || equal v w
      | none => false) && equalEntries rest ys

end

/-- Loose equality: null and undefined are equal to each other and to nothing else. -/
def looseEqual (v w : Value) : Bool :=
  if v.isNullish || w.isNullish then v.isNullish && w.isNullish else equal v w

/-- Whether a value is a boolean. -/
def isBool : Value → Bool
  | .bool _ => true
  | _ => false

/-- Strict equality: null, undefined and booleans are equal only to values of their own kind. -/
def strictEqual : Value → Value → Bool
  | .undefined, .undefined => true
  | .null, .null => true
  | v, w => !v.isNullish && !w.isNullish && v.isBool == w.isBool && looseEqual v w

end Value

end HtmlTemplate
