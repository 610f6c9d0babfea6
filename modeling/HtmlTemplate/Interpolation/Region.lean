import HtmlTemplate.Text.Blank

/-!
# Regions of a text that hold an expression

An expression in two braces stands for its value with the characters of HTML escaped, one in three braces for its
value as it is. A region never holds braces that open another one, so stray braces stay as they are. `segments` cuts
a text into regions and single characters; `Region.whole?` reads a text that is one region and nothing else.
-/

namespace HtmlTemplate

/-- How the value of an expression goes into a text. -/
inductive Insertion where
  | raw
  | escaped
  deriving DecidableEq, Repr

namespace Insertion

/-- The braces in front of the expression. -/
def opener : Insertion → Text
  | .raw => ['\x7b', '\x7b', '\x7b']
  | .escaped => ['\x7b', '\x7b']

/-- The braces after the expression. -/
def closer : Insertion → Text
  | .raw => ['\x7d', '\x7d', '\x7d']
  | .escaped => ['\x7d', '\x7d']

end Insertion

/-- A region: the expression, how its value is put in, and how the region was written. -/
structure Region where
  insertion : Insertion
  expression : Text
  source : Text
  deriving DecidableEq, Repr

namespace Region

/-- The expression between two marks: what is left without the blanks at the ends. Of blanks alone the last one is
left, and between marks that touch there is no expression. -/
def expressionIn? (body : Text) : Option Text :=
  if body.allBlank then body.getLast?.map fun c => [c] else some body.trim

/-- The region of one kind at the front of a text, and the text after it. -/
def enclosed? (insertion : Insertion) (s : Text) : Option (Region × Text) :=
  match insertion.opener.isPrefixOf? s with
  | none => none
  | some inside =>
    match Text.cut? insertion.closer inside with
    | none => none
    | some (body, after) =>
      (expressionIn? body).map fun expression =>
        (⟨insertion, expression, insertion.opener ++ body ++ insertion.closer⟩, after)

/-- Whether braces open again behind the braces of the region. -/
def reopens (r : Region) : Bool := Text.hasMark Insertion.escaped.opener (r.source.drop r.insertion.opener.length)

/-- The region at the front of a text, and the text after it. Three braces are tried before two. -/
def read? (s : Text) : Option (Region × Text) :=
  ((enclosed? .raw s).filter fun (r, _) => !r.reopens).or ((enclosed? .escaped s).filter fun (r, _) => !r.reopens)

/-- The region that is the whole of a text, but for a line end after it. -/
def whole? (s : Text) : Option Region :=
  let alone (found : Region × Text) : Bool := found.2 = [] || found.2 = (['\n'] : Text)
  (((enclosed? .raw s).filter alone).or ((enclosed? .escaped s).filter alone)).map Prod.fst

theorem append_of_enclosed? {insertion : Insertion} {s after : Text} {r : Region}
    (h : enclosed? insertion s = some (r, after)) : s = r.source ++ after := by
  rw [enclosed?] at h
  split at h
  · simp at h
  · next inside hp =>
    split at h
    · simp at h
    · next body rest hc =>
      simp only [Option.map_eq_some_iff, Prod.mk.injEq] at h
      obtain ⟨e, -, rfl, rfl⟩ := h
      rw [Text.append_of_isPrefixOf? hp, Text.append_of_cut? hc]
      simp

/-- Reading a region loses nothing of the text. -/
theorem append_of_read? {s after : Text} {r : Region} (h : read? s = some (r, after)) : s = r.source ++ after := by
  simp only [read?, Option.or_eq_some_iff, Option.filter_eq_some_iff] at h
  rcases h with h | h
  · exact append_of_enclosed? h.1
  · exact append_of_enclosed? h.2.1

end Region

/-- A part of a text: a character that stays, or a region. -/
inductive Segment where
  | literal (c : CodePoint)
  | region (r : Region)
  deriving DecidableEq, Repr

namespace Segment

/-- How a segment was written. -/
def source : Segment → Text
  | .literal c => [c]
  | .region r => r.source

end Segment

/-- The segments of a text, if they are at most `steps`. -/
def segmentsFrom : Nat → Text → List Segment
  | _, [] => []
  | 0, s => s.map .literal
  | steps + 1, c :: rest =>
    match Region.read? (c :: rest) with
    | some (r, after) => .region r :: segmentsFrom steps after
    | none => .literal c :: segmentsFrom steps rest

/-- The segments of a text. -/
def segments (s : Text) : List Segment := segmentsFrom s.length s

/-- The segments lose nothing of the text. -/
theorem source_segmentsFrom (steps : Nat) (s : Text) : (segmentsFrom steps s).flatMap Segment.source = s := by
  induction steps generalizing s with
  | zero =>
    cases s with
    | nil => simp [segmentsFrom]
    | cons c rest => simp [segmentsFrom, Segment.source, List.flatMap_map]
  | succ steps ih =>
    cases s with
    | nil => simp [segmentsFrom]
    | cons c rest =>
      rw [segmentsFrom]
      split
      · next h => simp [Segment.source, ih, ← Region.append_of_read? h]
      · simp [Segment.source, ih]

end HtmlTemplate
