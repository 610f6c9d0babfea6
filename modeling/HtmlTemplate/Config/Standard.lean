import HtmlTemplate.Config.Read
import HtmlTemplate.Datum.Literal
import HtmlTemplate.Yaml.Reader

/-!
# The libraries of the program

The reader of YAML and the words for breaches of rules with which the program reads its settings.
-/

namespace HtmlTemplate

namespace Breach

/-- The data in the order of their texts. -/
def sorted (keys : List Datum) : Except DisplayError (List Datum) := do
  let named ← keys.mapM fun key => do return (← key.asText, key)
  return (named.mergeSort fun a b => a.1.atMost b.1).map Prod.snd

/-- The words for a breach. -/
def message : Breach → Except DisplayError Text
  | .wrongType d type => d.literal.map (· ++ (" is not of type '" ++ type ++ "'").text)
  | .empty d => d.literal.map (· ++ " should be non-empty".text)
  | .noPoint s => .ok (Text.quoted s ++ " does not match ".text ++ Text.quoted ['^', '\\', '.'])
  | .negative n => (Datum.number n).literal.map (· ++ " is less than the minimum of 0".text)
  | .unknown keys => do
    let names ← (← sorted keys).mapM Datum.literal
    return "Additional properties are not allowed (".text ++ Text.join [',', ' '] names ++
      (if names.length = 1 then " was unexpected)" else " were unexpected)").text
  | .missing name => .ok (Text.quoted name ++ " is a required property".text)

end Breach

/-- The libraries with which the program reads its settings. -/
def Libraries.standard : Libraries where
  yaml source := (Yaml.read source).mapError fun fault =>
    if fault = .malformed then .malformed else .broken fault.defect fault.message
  wording := Breach.message

end HtmlTemplate
