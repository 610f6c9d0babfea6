import HtmlTemplate.Pattern.Reader

/-!
# Patterns of names

A pattern that finds the name of a template in its source. The first match counts. The name is in the group that is
called `name`, or else in the first group that is not blank.
-/

namespace HtmlTemplate

/-- A pattern that finds the name of a template in its source: how it was written, whether the case of letters
matters, the pattern, how many groups it has, and the groups that have names. -/
structure NamePattern where
  source : Text
  ignoreCase : Bool
  pattern : Pattern
  groups : Nat
  names : Entries Nat
  deriving DecidableEq, Repr

namespace NamePattern

/-- Reads a pattern. -/
def ofSource (ignoreCase : Bool) (source : Text) : Except Pattern.Fault NamePattern := do
  let (pattern, r) ← Pattern.read ignoreCase source
  return ⟨source, r.options.ignoreCase, pattern, r.groups, r.names⟩

/-- What may be the name in a match, in order: the group that is called `name`, or else the groups, or else the
match. -/
def candidates (p : NamePattern) (start finish : Cursor) : List Text :=
  match p.names.lookup "name".text with
  | some n => (finish.groups.lookup n).toList
  | none =>
    if p.groups = 0 then [start.textTo finish]
    else (List.range p.groups).filterMap fun n => finish.groups.lookup (n + 1)

/-- The name that a source declares: the first candidate of the first match that is not blank. -/
def declaredName? (p : NamePattern) (source : Text) : Option Text :=
  match p.pattern.firstMatch? source with
  | none => none
  | some (start, finish) => ((p.candidates start finish).map Text.trim).find? fun name => !name.isEmpty

end NamePattern

end HtmlTemplate
