import HtmlTemplate.Config.Schema
import HtmlTemplate.Report

/-!
# Libraries

What the reading of settings takes from elsewhere. Nothing about it is fixed here but its form.
-/

namespace HtmlTemplate

/-- Why a text in YAML stands for no datum. -/
inductive YamlFailure where
  /-- The text breaks a rule of the form. -/
  | malformed
  /-- The text keeps the form, but the reader breaks off on what it writes. -/
  | broken (defect : Defect) (message : Text)

/-- A reader of YAML, and words for breaches of the rules. -/
structure Libraries where
  yaml : Text → Except YamlFailure Datum
  wording : Wording

end HtmlTemplate
