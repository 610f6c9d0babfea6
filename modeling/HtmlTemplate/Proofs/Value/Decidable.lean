import HtmlTemplate.Value.Basic

/-!
# Telling values apart

Whether two values are written in the same way, part by part. This is no equality of the template language, which sees
less: it makes decidable whether a rendering has come by some value.
-/

namespace HtmlTemplate.Value

mutual

/-- Whether two values are written in the same way. -/
def alike : Value → Value → Bool
  | .undefined, .undefined => true
  | .null, .null => true
  | .bool a, .bool b => a == b
  | .number n, .number m => n == m
  | .string s, .string t => s == t
  | .list vs, .list ws => alikeItems vs ws
  | .tuple vs, .tuple ws => alikeItems vs ws
  | .mapping es, .mapping fs => alikeEntries es fs
  | .record es, .record fs => alikeEntries es fs
  | .object i es, .object j fs => i == j && alikeEntries es fs
  | .callable i, .callable j => i == j
  | _, _ => false

/-- Whether the values of two lists are written in the same way. -/
def alikeItems : List Value → List Value → Bool
  | [], [] => true
  | v :: vs, w :: ws => alike v w && alikeItems vs ws
  | _, _ => false

/-- Whether two lists of named values are written in the same way. -/
def alikeEntries : List (Text × Value) → List (Text × Value) → Bool
  | [], [] => true
  | (k, v) :: es, (l, w) :: fs => k == l && alike v w && alikeEntries es fs
  | _, _ => false

end

mutual

theorem alike_iff : ∀ v w : Value, alike v w = true ↔ v = w
  | .undefined, w => by cases w <;> simp [alike]
  | .null, w => by cases w <;> simp [alike]
  | .bool a, w => by cases w <;> simp [alike]
  | .number n, w => by cases w <;> simp [alike]
  | .string s, w => by cases w <;> simp [alike]
  | .list vs, w => by cases w <;> simp [alike, alikeItems_iff vs]
  | .tuple vs, w => by cases w <;> simp [alike, alikeItems_iff vs]
  | .mapping es, w => by cases w <;> simp [alike, alikeEntries_iff es]
  | .record es, w => by cases w <;> simp [alike, alikeEntries_iff es]
  | .object i es, w => by cases w <;> simp [alike, alikeEntries_iff es]
  | .callable i, w => by cases w <;> simp [alike]

theorem alikeItems_iff : ∀ vs ws : List Value, alikeItems vs ws = true ↔ vs = ws
  | [], ws => by cases ws <;> simp [alikeItems]
  | v :: vs, ws => by cases ws <;> simp [alikeItems, alike_iff v, alikeItems_iff vs]

theorem alikeEntries_iff : ∀ es fs : List (Text × Value), alikeEntries es fs = true ↔ es = fs
  | [], fs => by cases fs <;> simp [alikeEntries]
  | (k, v) :: es, fs => by
    cases fs with
    | nil => simp [alikeEntries]
    | cons f fs =>
      obtain ⟨l, w⟩ := f
      simp [alikeEntries, alike_iff v, alikeEntries_iff es]

end

instance : DecidableEq Value := fun v w => decidable_of_iff _ (alike_iff v w)

end HtmlTemplate.Value
