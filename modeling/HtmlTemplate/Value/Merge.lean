import HtmlTemplate.Value.Basic

/-!
# Merging mappings

A mapping laid over another one: its entries take the place of those of the same key, but where both have a mapping
the two are merged. Lists are replaced as a whole.
-/

namespace HtmlTemplate

namespace Value

mutual

/-- The value over another one, if there is one. -/
def mergeOver (below : Option Value) : Value → Value
  | .mapping entries =>
    match below with
    | some (.mapping others) => .mapping (mergeEntries others entries)
    | _ => .mapping entries
  | v => v

/-- The entries `below` with some entries laid over them. -/
def mergeEntries (below : List (Text × Value)) : List (Text × Value) → List (Text × Value)
  | [] => below
  | (key, v) :: rest => mergeEntries (Entries.insert key (mergeOver (below.lookup key) v) below) rest

end

end Value

end HtmlTemplate
