import HtmlTemplate.Text.CodePoint

/-!
# Text

Text is a list of code points, so positions and lengths count code points and every reader in this library is a
recursion on the list. This module holds the type, the search for a mark, and the membership test for tables
of ranges of code points.
-/

namespace HtmlTemplate

/-- A text: its code points, in order. -/
abbrev Text := List CodePoint

end HtmlTemplate

/-- The text of a string of characters. -/
def String.text (s : String) : HtmlTemplate.Text := s.toList.map HtmlTemplate.CodePoint.char

namespace HtmlTemplate

namespace Text

/-- The text before the first occurrence of `mark`, and the text after that occurrence. -/
def cut? (mark : Text) : Text → Option (Text × Text)
  | [] => if mark = [] then some ([], []) else none
  | c :: rest =>
    match mark.isPrefixOf? (c :: rest) with
    | some after => some ([], after)
    | none => (cut? mark rest).map fun (before, after) => (c :: before, after)

/-- Whether `mark` occurs somewhere in the text. -/
def hasMark (mark s : Text) : Bool := (cut? mark s).isSome

theorem append_of_isPrefixOf? {p s r : Text} (h : p.isPrefixOf? s = some r) : s = p ++ r := by
  induction p generalizing s with
  | nil =>
    have hs : some s = some r := h
    exact Option.some.inj hs
  | cons a p ih =>
    cases s with
    | nil =>
      have hn : none = some r := h
      cases hn
    | cons b s =>
      have hb : (if a == b then p.isPrefixOf? s else none) = some r := h
      by_cases hab : a = b
      · subst hab
        rw [if_pos (beq_self_eq_true a)] at hb
        rw [ih hb, List.cons_append]
      · rw [if_neg (by simpa using hab)] at hb
        cases hb

/-- A cut loses nothing but the mark. -/
theorem append_of_cut? {mark s before after : Text} (h : cut? mark s = some (before, after)) :
    s = before ++ mark ++ after := by
  induction s generalizing before with
  | nil => by_cases hm : mark = [] <;> simp [cut?, hm] at h; simp [h, hm]
  | cons c rest ih =>
    rw [cut?] at h
    split at h
    · next hp => simp at h; obtain ⟨rfl, rfl⟩ := h; simpa using append_of_isPrefixOf? hp
    · next hp =>
      simp only [Option.map_eq_some_iff, Prod.mk.injEq, Prod.exists] at h
      obtain ⟨b, a, hb, rfl, rfl⟩ := h
      simp [ih hb]

/-- Replaces every occurrence of the character `c` by the text `replacement`. -/
def replaceChar (c : CodePoint) (replacement : Text) : Text → Text
  | [] => []
  | d :: rest => (if d = c then replacement else [d]) ++ replaceChar c replacement rest

/-- The texts, one after the other, with `separator` between neighbours. -/
def join (separator : Text) : List Text → Text
  | [] => []
  | [s] => s
  | s :: rest => s ++ separator ++ join separator rest

/-- Order of texts by the code points of their characters. -/
def lessThan : Text → Text → Bool
  | [], [] => false
  | [], _ :: _ => true
  | _ :: _, [] => false
  | a :: s, b :: t => if a = b then lessThan s t else a.toNat < b.toNat

/-- At most, in the order of code points. -/
def atMost (s t : Text) : Bool := !lessThan t s

/-- The text with the line ends `CR LF` and `CR` read as `LF`. -/
def unifyLineEnds : Text → Text
  | [] => []
  | '\r' :: '\n' :: rest => '\n' :: unifyLineEnds rest
  | '\r' :: rest => '\n' :: unifyLineEnds rest
  | c :: rest => c :: unifyLineEnds rest

/-- The digits of a natural number in a base. -/
def digits (base n : Nat) : Text := (Nat.toDigits base n).map CodePoint.char

/-- The decimal digits of a natural number. -/
def ofNat (n : Nat) : Text := digits 10 n

/-- The decimal digits of an integer, with a minus sign in front of a negative one. -/
def ofInt : Int → Text
  | .ofNat n => ofNat n
  | .negSucc n => '-' :: ofNat (n + 1)

end Text

/-- A set of characters, as closed ranges of code points in ascending order. -/
abbrev CharTable := List (Nat × Nat)

namespace CharTable

/-- Whether a code point lies in one of the ranges. -/
def hasCode : CharTable → Nat → Bool
  | [], _ => false
  | (first, last) :: rest, n => if n < first then false else if n ≤ last then true else hasCode rest n

/-- Whether a character lies in one of the ranges. -/
def has (table : CharTable) (c : CodePoint) : Bool := table.hasCode c.toNat

end CharTable

end HtmlTemplate
