import HtmlTemplate.Value.Basic

/-!
# Values that are bound to names

Each computation of a `nan` makes a new one, which is like no other. Bound to a name it is one and the same wherever
the name is mentioned. An expression computes numbers, by themselves or as items of lists that it makes; whatever else
a value holds was there before.
-/

namespace HtmlTemplate.Value

mutual

/-- The value as it is bound to a name at a level: each `nan` in it that was only computed is known by its place. -/
def identified (level : Nat) (name : Text) (place : List Nat) : Value → Value
  | .number (.float (.nan .computed)) => .number (.float (.nan (.bound level name place)))
  | .list items => .list (identifiedItems level name place 0 items)
  | v => v

/-- The items of a list as they are bound, from the position `index` on. -/
def identifiedItems (level : Nat) (name : Text) (place : List Nat) (index : Nat) : List Value → List Value
  | [] => []
  | v :: rest => identified level name (index :: place) v :: identifiedItems level name place (index + 1) rest

end

end HtmlTemplate.Value
