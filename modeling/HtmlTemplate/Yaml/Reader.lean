import HtmlTemplate.Yaml.Document

/-!
# Data in YAML

The datum that a text in YAML writes.
-/

namespace HtmlTemplate.Yaml

/-- The characters that a text may hold. -/
def isAllowed (c : CodePoint) : Bool :=
  c = '\t' || c = '\n' || c = '\r' || (' ' ≤ c && c ≤ '~') || c = '\x85' ||
    ('\xa0' ≤ c && c ≤ '\ufffd') || 0x10000 ≤ c.toNat

/-- The datum that a text writes; null if it writes none. -/
def read (source : Text) : Except Fault Datum := do
  if !source.all isAllowed then throw .malformed
  Node.datumOf source.unifyLineEnds

end HtmlTemplate.Yaml
