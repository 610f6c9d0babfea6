import HtmlTemplate.Yaml.Property

/-!
# Tokens of YAML

The words and marks of a text, together with the marks that stand in it only by how deep its lines stand: those at the
beginning and the end of a block of items or entries, and those in front of keys that have no mark.
-/

namespace HtmlTemplate.Yaml

/-- A token. -/
inductive Token where
  | directive (d : Directive)
  | documentStart
  | documentEnd
  | blockSequenceStart
  | blockMappingStart
  | blockEnd
  | flowSequenceStart
  | flowSequenceEnd
  | flowMappingStart
  | flowMappingEnd
  | blockEntry
  | flowEntry
  | key
  | value
  /-- A name in front of the part that it names. -/
  | anchor (name : Text)
  /-- A name in the place of the part that it names. -/
  | reference (name : Text)
  | tag (t : WrittenTag)
  | scalar (isPlain : Bool) (s : Text)
  | streamEnd

end HtmlTemplate.Yaml
