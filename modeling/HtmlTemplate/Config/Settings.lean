import HtmlTemplate.Datum.Basic

/-!
# Settings

Settings are given by name. What a name gives is what was given by it last, in the place where the name was given
first.
-/

namespace HtmlTemplate

/-- Things given by name, in the order in which they were given. The name may be any datum, but only texts name
settings. -/
abbrev Settings (α : Type) := List (Datum × α)

namespace Settings

variable {α : Type}

/-- What is given by a name. -/
def find? (name : Text) : Settings α → Option α
  | [] => none
  | (.text key, a) :: rest => if key = name then some a else find? name rest
  | _ :: rest => find? name rest

/-- Gives something by a name: in its old place if the name is there, else at the end. -/
def put (name : Text) (a : α) : Settings α → Settings α
  | [] => [(.text name, a)]
  | (.text key, b) :: rest => if key = name then (.text name, a) :: rest else (.text key, b) :: put name a rest
  | entry :: rest => entry :: put name a rest

/-- Gives something by a datum that need be no text. -/
def add (settings : Settings α) : Datum × α → Settings α
  | (.text name, a) => settings.put name a
  | entry => settings ++ [entry]

/-- The first settings with the second laid over them. -/
def overlaid (below above : Settings α) : Settings α := above.foldl add below

/-- A name gives what was given by it last. -/
theorem find?_put_self (name : Text) (a : α) (settings : Settings α) : (settings.put name a).find? name = some a := by
  fun_induction put name a settings <;> simp_all [find?]

/-- Giving something by one name leaves what the others give. -/
theorem find?_put_of_ne {name other : Text} (a : α) (settings : Settings α) (h : other ≠ name) :
    (settings.put name a).find? other = settings.find? other := by
  fun_induction put name a settings <;> simp_all [find?, Ne.symm h]

/-- Something given by a datum that is no text gives nothing by a name. -/
theorem find?_append_of_not_text {key : Datum} (a : α) (settings : Settings α) (name : Text)
    (h : ∀ s, key ≠ .text s) : find? name (settings ++ [(key, a)]) = settings.find? name := by
  fun_induction find? name settings <;> simp_all [find?]

end Settings

end HtmlTemplate
