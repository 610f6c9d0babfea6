import HtmlTemplate.Text.Blank
import HtmlTemplate.Text.Case
import HtmlTemplate.Text.Basic

/-!
# Templates

A template is a source with a name. Names are compared in their normal form: without blanks at the ends, and in
lower case where the case of names does not matter. A collection of templates holds at most one of each name.
-/

namespace HtmlTemplate

/-- A template: its name in normal form, its source, and the file it was read from. -/
structure Template where
  name : Text
  source : Text
  path : Option Text
  deriving DecidableEq, Repr

namespace Template

/-- The normal form of a name. -/
def normalName (ignoreCase : Bool) (name : Text) : Text := if ignoreCase then name.trim.lower else name.trim

end Template

/-- A collection of templates. -/
abbrev Templates := List Template

namespace Templates

/-- The template of a name in normal form. -/
def find? (templates : Templates) (name : Text) : Option Template := List.find? (fun t => t.name == name) templates

/-- Adds a template, in the place of one of the same name if there is one. -/
def insert (template : Template) : Templates → Templates
  | [] => [template]
  | t :: rest => if t.name = template.name then template :: rest else t :: insert template rest

/-- The names, in ascending order. -/
def names (templates : Templates) : List Text := (templates.map Template.name).mergeSort Text.atMost

theorem find?_insert_self (template : Template) (templates : Templates) :
    find? (insert template templates) template.name = some template := by
  induction templates with
  | nil => simp [insert, find?]
  | cons t rest ih =>
    by_cases h : t.name = template.name
    · simp [insert, h, find?]
    · simpa [insert, h, find?] using ih

theorem find?_insert_of_ne (template : Template) (templates : Templates) {name : Text} (h : name ≠ template.name) :
    find? (insert template templates) name = find? templates name := by
  induction templates with
  | nil => simp [insert, find?, Ne.symm h]
  | cons t rest ih =>
    by_cases ht : t.name = template.name
    · simp [insert, ht, find?, Ne.symm h]
    · simp only [insert, ht, if_false, find?, List.find?_cons]
      split
      · rfl
      · exact ih

end Templates

end HtmlTemplate
