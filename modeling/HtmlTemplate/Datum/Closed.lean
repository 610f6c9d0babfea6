import HtmlTemplate.Datum.Basic

/-!
# Closed data

A datum is closed if each list or mapping of which only the number stands in it is around that place. The others are put
in, as far as they are not around themselves.
-/

namespace HtmlTemplate.Datum

mutual

/-- The datum with `expand` of the numbers in it that stand for lists and mappings. `around` are the numbers of those
around it. -/
def closedBy (expand : List Nat → Nat → Bool → Datum) : List Nat → Datum → Datum
  | around, .list (some n) items =>
    if around.contains n then .enclosing n false else .list (some n) (closedAll expand (n :: around) items)
  | around, .tuple (some n) items => .tuple (some n) (closedAll expand (n :: around) items)
  | around, .mapping (some n) entries =>
    if around.contains n then .enclosing n true else .mapping (some n) (closedEntries expand (n :: around) entries)
  | around, .enclosing n isMapping => expand around n isMapping
  | _, d => d

/-- The data with `expand` of the numbers in them. -/
def closedAll (expand : List Nat → Nat → Bool → Datum) : List Nat → List Datum → List Datum
  | _, [] => []
  | around, d :: rest => closedBy expand around d :: closedAll expand around rest

/-- The entries with `expand` of the numbers in them. -/
def closedEntries (expand : List Nat → Nat → Bool → Datum) : List Nat → List (Datum × Datum) → List (Datum × Datum)
  | _, [] => []
  | around, (key, d) :: rest => (key, closedBy expand around d) :: closedEntries expand around rest

end

/-- The list or the mapping of a number, unless it is around. In it are at most `steps` others, each inside of the one
before. -/
def expandIn (table : List (Nat × Datum)) : Nat → List Nat → Nat → Bool → Datum
  | 0, _, n, isMapping => .enclosing n isMapping
  | steps + 1, around, n, isMapping =>
    if around.contains n then .enclosing n isMapping
    else
      match table.lookup n with
      | some d => closedBy (expandIn table steps) around d
      | none => .enclosing n isMapping

/-- The closed datum. The table has the lists and the mappings of which the numbers may stand in it. -/
def closed (table : List (Nat × Datum)) (d : Datum) : Datum :=
  if table.isEmpty then d else closedBy (expandIn table (table.length + 1)) [] d

end HtmlTemplate.Datum
