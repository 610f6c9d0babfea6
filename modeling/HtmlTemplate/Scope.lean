import HtmlTemplate.Text.Quoted
import HtmlTemplate.Value.Access
import HtmlTemplate.Value.Identity

/-!
# Scopes

A scope is a stack of layers of bindings. A name means its binding in the innermost layer that has one; a name that
no layer has means `undefined`.
-/

namespace HtmlTemplate

/-- One layer of bindings. -/
abbrev Layer := Entries Value

/-- The layer as it is bound at a level of a rendering. -/
def Layer.identified (level : Nat) (layer : Layer) : Layer :=
  layer.map fun e => (e.1, e.2.identified level e.1 [])

/-- The layers of bindings, the innermost first. -/
structure Scope where
  layers : List Layer
  deriving Repr

namespace Scope

/-- The name under which the whole of the data is bound. -/
def rootName : Text := "$root".text

/-- The name under which a loop binds the position of its item. -/
def indexName : Text := "$index".text

/-- The bindings that data contribute: the entries of a mapping, the public fields of a record or an object. -/
def bindingsOf : Value → Layer
  | .mapping entries => entries
  | .record fields => fields.filter fun e => Value.isPublic e.1
  | .object _ attributes => attributes.filter fun e => Value.isPublic e.1
  | _ => []

/-- The scope of a rendering with `data`. -/
def root (data : Value) : Scope := ⟨[[(rootName, data)], bindingsOf data]⟩

/-- The scope with one more layer, innermost. -/
def child (s : Scope) (layer : Layer) : Scope := ⟨layer :: s.layers⟩

/-- The innermost binding of a name, if there is one. -/
def find? (s : Scope) (name : Text) : Option Value := s.layers.findSome? (·.lookup name)

/-- What a name means. -/
def resolve (s : Scope) (name : Text) : Value := (s.find? name).getD .undefined

/-- Whether a name is bound. -/
def binds (s : Scope) (name : Text) : Bool := (s.find? name).isSome

/-- The number of layers. -/
def depth (s : Scope) : Nat := s.layers.length

/-- The bound names in ascending order, each once. -/
def names (s : Scope) : List Text := (s.layers.flatMap Entries.keys).eraseDups.mergeSort Text.atMost

/-- A line that shows how deep a scope is and which names it binds. -/
def summary (s : Scope) : Text :=
  "Scope(depth=".text ++ Text.ofNat s.depth ++ ", names=[".text ++
    Text.join [',', ' '] (s.names.map Text.quoted) ++ "])".text

theorem lookup_identified (level : Nat) (layer : Layer) (name : Text) :
    (layer.identified level).lookup name = (layer.lookup name).map (·.identified level name []) := by
  induction layer with
  | nil => rfl
  | cons e rest ih =>
    obtain ⟨key, v⟩ := e
    rw [Layer.identified] at ih
    rw [Layer.identified, List.map_cons, List.lookup_cons, List.lookup_cons, ih]
    by_cases h : name = key
    · rw [h, beq_self_eq_true]
      rfl
    · rw [beq_eq_false_iff_ne.mpr h]

theorem resolve_child (s : Scope) (layer : Layer) (name : Text) :
    (s.child layer).resolve name = (layer.lookup name).getD (s.resolve name) := by
  cases h : layer.lookup name <;> simp [child, resolve, find?, h]

end Scope

end HtmlTemplate
