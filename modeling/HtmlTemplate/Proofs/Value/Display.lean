import HtmlTemplate.Proofs.Except
import HtmlTemplate.Value.Display

/-!
# Values that cannot be shown

The display of a value writes the integers that the value is or holds in lists, to any depth. It fails exactly if one
of them has more than 4300 digits (`display_eq_error_iff`); mappings and records are shown by their kind, whatever they
hold.
-/

namespace HtmlTemplate

/-- A number cannot be shown exactly if it is an integer of too many digits. -/
theorem Number.display_eq_error_iff {x : Number} {e : DisplayError} :
    x.display = .error e ↔ ∃ n, x = .int n ∧ tenTo maxIntegerDigits ≤ n.natAbs := by
  cases x with
  | int n =>
    by_cases h : tenTo maxIntegerDigits ≤ n.natAbs
    · simp [display, displayInt, h]
    · simp [display, displayInt, h]
  | float x =>
    have hok : ∃ s, (Number.float x).display = .ok s := by
      unfold display
      split
      · contradiction
      · exact ⟨_, rfl⟩
      · exact ⟨_, rfl⟩
      · split
        · split <;> exact ⟨_, rfl⟩
        · exact ⟨_, rfl⟩
    obtain ⟨s, hs⟩ := hok
    simp [hs]

namespace Value

/-- The integers that the display of a value writes. -/
inductive Writes : Value → Int → Prop
  | integer (n : Int) : Writes (.number (.int n)) n
  | list {items : List Value} {v : Value} {n : Int} : v ∈ items → Writes v n → Writes (.list items) n
  | tuple {items : List Value} {v : Value} {n : Int} : v ∈ items → Writes v n → Writes (.tuple items) n

/-- Whether the display of a value writes an integer of too many digits. -/
def WritesTooLong (v : Value) : Prop := ∃ n, v.Writes n ∧ tenTo maxIntegerDigits ≤ n.natAbs

theorem writesTooLong_list {items : List Value} : (Value.list items).WritesTooLong ↔ ∃ v ∈ items, v.WritesTooLong := by
  constructor
  · rintro ⟨n, hw, hn⟩
    cases hw with
    | list hm hw => exact ⟨_, hm, n, hw, hn⟩
  · rintro ⟨v, hm, n, hw, hn⟩
    exact ⟨n, .list hm hw, hn⟩

theorem writesTooLong_tuple {items : List Value} :
    (Value.tuple items).WritesTooLong ↔ ∃ v ∈ items, v.WritesTooLong := by
  constructor
  · rintro ⟨n, hw, hn⟩
    cases hw with
    | tuple hm hw => exact ⟨_, hm, n, hw, hn⟩
  · rintro ⟨v, hm, n, hw, hn⟩
    exact ⟨n, .tuple hm hw, hn⟩

mutual

/-- **Values that cannot be shown.** The display of a value fails exactly if it writes an integer of too many
digits. -/
theorem display_eq_error_iff {e : DisplayError} : ∀ v : Value, v.display = .error e ↔ v.WritesTooLong
  | .number x => by
    rw [display, Number.display_eq_error_iff]
    constructor
    · rintro ⟨n, rfl, hn⟩
      exact ⟨n, .integer n, hn⟩
    · rintro ⟨n, hw, hn⟩
      cases hw
      exact ⟨n, rfl, hn⟩
  | .list items => by
    rw [display, map_eq_error_iff, displayItems_eq_error_iff items, writesTooLong_list]
  | .tuple items => by
    rw [display, map_eq_error_iff, displayItems_eq_error_iff items, writesTooLong_tuple]
  | .undefined => iff_of_false (by simp [display]) fun ⟨_, hw, _⟩ => nomatch hw
  | .null => iff_of_false (by simp [display]) fun ⟨_, hw, _⟩ => nomatch hw
  | .bool _ => iff_of_false (by simp [display]) fun ⟨_, hw, _⟩ => nomatch hw
  | .string _ => iff_of_false (by simp [display]) fun ⟨_, hw, _⟩ => nomatch hw
  | .mapping _ => iff_of_false (by simp [display]) fun ⟨_, hw, _⟩ => nomatch hw
  | .record _ => iff_of_false (by simp [display]) fun ⟨_, hw, _⟩ => nomatch hw
  | .object _ _ => iff_of_false (by simp [display]) fun ⟨_, hw, _⟩ => nomatch hw
  | .callable _ => iff_of_false (by simp [display]) fun ⟨_, hw, _⟩ => nomatch hw

/-- The items of a sequence cannot be shown exactly if one of them cannot. -/
theorem displayItems_eq_error_iff {e : DisplayError} : ∀ items : List Value,
    displayItems items = .error e ↔ ∃ v ∈ items, v.WritesTooLong
  | [] => by simp [displayItems]
  | v :: rest => by
    have hv := display_eq_error_iff (e := e) v
    have hrest := displayItems_eq_error_iff (e := e) rest
    rw [displayItems, List.exists_mem_cons_iff, ← hv, ← hrest]
    cases hd : display v with
    | error e' => cases e'; cases e; simp
    | ok s => simp [map_eq_error_iff]

end

end Value

end HtmlTemplate
