import HtmlTemplate.Config.Settings
import HtmlTemplate.Value.Display

/-!
# The rules for settings

Which settings there are, and what their data have to be. `violations` lists every rule that some settings break, in
the order of the places in the settings. How a breach is put into words is left open.
-/

namespace HtmlTemplate

/-- How a datum breaks a rule. -/
inductive Breach where
  | wrongType (d : Datum) (type : String)
  | empty (d : Datum)
  /-- A text has no point in front. -/
  | noPoint (s : Text)
  | negative (n : Number)
  | unknown (keys : List Datum)
  | missing (name : Text)

/-- A breach of the rules at a place in the settings. -/
structure Violation where
  place : Text
  breach : Breach

/-- How breaches of rules are put into words. The words quote data, and those of some data cannot be written. -/
abbrev Wording := Breach → Except DisplayError Text

/-- The message about a violation. -/
def Violation.message (wording : Wording) (v : Violation) : Except DisplayError Text :=
  (wording v.breach).map fun words => v.place ++ ": ".text ++ words

namespace Number

/-- Whether a number is whole. -/
def isWhole : Number → Bool
  | .int _ => true
  | .float x => (x.toInt?).isSome

/-- Whether a number is less than nought. -/
def isNegative : Number → Bool
  | .int n => n < 0
  | .float (.nan _) => false
  | .float (.infinity negative) => negative
  | .float (.finite negative significand _) => negative && significand ≠ 0

end Number

namespace Schema

/-- The names of the settings, in ascending order. -/
def settingNames : List Text :=
  ["caseInsensitiveNames", "contentVarName", "directories", "encoding", "extensions", "maxDepth",
    "nameDirectivePattern"].map String.text

/-- The rules for a text that is not empty. -/
def checkText : Datum → List Breach
  | .text [] => [.empty (.text [])]
  | .text _ => []
  | d => [.wrongType d "string"]

/-- The rules for an extension. -/
def checkExtension : Datum → List Breach
  | .text ('.' :: _) => []
  | .text s => [.noPoint s]
  | d => [.wrongType d "string"]

/-- The rules for a boolean. -/
def checkBool : Datum → List Breach
  | .bool _ => []
  | d => [.wrongType d "boolean"]

/-- The rules for a natural number. -/
def checkNatural : Datum → List Breach
  | .number n =>
    (if n.isWhole then [] else [.wrongType (.number n) "integer"]) ++ (if n.isNegative then [.negative n] else [])
  | d => [.wrongType d "integer"]

/-- The rules for the items of a list, from the position `index` on. -/
def checkItems (check : Datum → List Breach) (place : Text) : Nat → List Datum → List Violation
  | _, [] => []
  | index, d :: rest =>
    (check d).map (Violation.mk (place ++ ".".text ++ Text.ofNat index)) ++ checkItems check place (index + 1) rest

/-- The rules for a list that is not empty. -/
def checkList (check : Datum → List Breach) (place : Text) : Datum → List Violation
  | .list identity [] => [⟨place, .empty (.list identity [])⟩]
  | .list _ items => checkItems check place 0 items
  | d => [⟨place, .wrongType d "array"⟩]

/-- The rules for a setting. -/
def checkSetting (name : Text) (d : Datum) : List Violation :=
  if name = "directories".text then checkList checkText name d
  else if name = "extensions".text then checkList checkExtension name d
  else
    (if name = "caseInsensitiveNames".text then checkBool d
      else if name = "maxDepth".text then checkNatural d
      else checkText d).map (Violation.mk name)

/-- The place of the settings as a whole. -/
def rootPlace : Text := "<root>".text

/-- Whether a datum names a setting. -/
def isSettingName : Datum → Bool
  | .text name => settingNames.contains name
  | _ => false

/-- The rule that there is no other setting. -/
def unknownSettings (settings : Settings Datum) : List Violation :=
  match (settings.map Prod.fst).filter fun key => !isSettingName key with
  | [] => []
  | keys => [⟨rootPlace, .unknown keys⟩]

/-- The rule that there are directories. -/
def missingSettings (settings : Settings Datum) : List Violation :=
  let name := "directories".text
  if (settings.find? name).isSome then [] else [⟨rootPlace, .missing name⟩]

/-- The rules that some settings break. -/
def violations (settings : Settings Datum) : List Violation :=
  unknownSettings settings ++ missingSettings settings ++
    settingNames.flatMap fun name =>
      match settings.find? name with
      | some d => checkSetting name d
      | none => []

end Schema

end HtmlTemplate
