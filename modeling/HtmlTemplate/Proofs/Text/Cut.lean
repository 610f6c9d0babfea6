import HtmlTemplate.Text.Basic
import Mathlib.Data.List.Infix

/-!
# Cutting a text at a mark

A mark is found exactly if it stands somewhere in the text (`hasMark_iff`). Where a text is cut depends on nothing
behind the mark (`cut?_of_cut?`), and a shorter mark is found no later than a longer one that begins with it
(`cut?_of_prefix`).
-/

namespace HtmlTemplate.Text

variable {mark s before after : Text}

theorem isPrefixOf?_eq_none_iff : mark.isPrefixOf? s = none ↔ ¬ mark <+: s := by
  rw [Option.eq_none_iff_forall_ne_some]
  simp only [ne_eq, List.isPrefixOf?_eq_some_iff_append_eq, ← not_exists]
  rfl

theorem isPrefixOf?_append (mark rest : Text) : mark.isPrefixOf? (mark ++ rest) = some rest :=
  List.isPrefixOf?_eq_some_iff_append_eq.mpr rfl

theorem cut?_append (mark rest : Text) : cut? mark (mark ++ rest) = some ([], rest) := by
  cases h : mark ++ rest with
  | nil =>
    obtain ⟨rfl, rfl⟩ := List.append_eq_nil_iff.mp h
    rfl
  | cons c others => rw [cut?, ← h, isPrefixOf?_append]

theorem cut?_cons {c : CodePoint} (h : ¬ mark <+: c :: s) :
    cut? mark (c :: s) = (cut? mark s).map fun (before, after) => (c :: before, after) := by
  rw [cut?, isPrefixOf?_eq_none_iff.mpr h]

/-- What a text that begins with another character than the mark does is cut into. -/
theorem cut?_cons_eq_some_iff {c : CodePoint} (h : ¬ mark <+: c :: s) :
    cut? mark (c :: s) = some (before, after) ↔ ∃ inner, before = c :: inner ∧ cut? mark s = some (inner, after) := by
  rw [cut?_cons h, Option.map_eq_some_iff]
  constructor
  · rintro ⟨⟨inner, rest⟩, hcut, heq⟩
    cases heq
    exact ⟨inner, rfl, hcut⟩
  · rintro ⟨inner, rfl, hcut⟩
    exact ⟨(inner, after), hcut, rfl⟩

theorem hasMark_iff : hasMark mark s = true ↔ mark <:+: s := by
  rw [hasMark]
  constructor
  · intro h
    obtain ⟨⟨before, after⟩, hcut⟩ := Option.isSome_iff_exists.mp h
    exact ⟨before, after, (append_of_cut? hcut).symm⟩
  · intro h
    induction s with
    | nil => rw [List.infix_nil.mp h]; rfl
    | cons c s ih =>
      by_cases hp : mark <+: c :: s
      · obtain ⟨rest, hr⟩ := hp
        rw [← hr, cut?_append]
        rfl
      · rw [cut?_cons hp, Option.isSome_map]
        exact ih ((List.infix_cons_iff.mp h).resolve_left hp)

theorem hasMark_eq_false_iff : hasMark mark s = false ↔ ¬ mark <:+: s := by
  rw [← hasMark_iff, Bool.not_eq_true]

/-- A mark is nowhere in a text if it is not at the front and nowhere behind. -/
theorem hasMark_cons_eq_false_iff {c : CodePoint} :
    hasMark mark (c :: s) = false ↔ mark.isPrefixOf? (c :: s) = none ∧ hasMark mark s = false := by
  rw [hasMark_eq_false_iff, hasMark_eq_false_iff, isPrefixOf?_eq_none_iff, List.infix_cons_iff, not_or]

/-- Where a text is cut does not depend on what is behind the mark. -/
theorem cut?_of_cut? (h : cut? mark s = some (before, after)) (other : Text) :
    cut? mark (before ++ mark ++ other) = some (before, other) := by
  induction s generalizing before with
  | nil =>
    have hs := append_of_cut? h
    obtain ⟨rfl, rfl⟩ : before = [] ∧ mark = [] := by simp_all
    exact cut?_append [] other
  | cons c s ih =>
    by_cases hp : mark <+: c :: s
    · obtain ⟨rest, hr⟩ := hp
      rw [← hr, cut?_append] at h
      cases h
      exact cut?_append mark other
    · obtain ⟨inner, rfl, hcut⟩ := (cut?_cons_eq_some_iff hp).mp h
      have hs : c :: s = c :: inner ++ mark ++ after := append_of_cut? h
      -- the mark is no longer than what stands in front of `other`
      have hother : ¬ mark <+: c :: (inner ++ mark ++ other) := by
        intro hm
        have hle : mark.length ≤ (c :: inner ++ mark).length := by rw [List.length_append]; omega
        have hfront : mark <+: c :: inner ++ mark :=
          List.prefix_of_prefix_length_le hm ⟨other, by simp⟩ hle
        exact hp (hs ▸ hfront.trans (List.prefix_append _ _))
      exact (cut?_cons_eq_some_iff hother).mpr ⟨inner, rfl, ih hcut⟩

/-- A shorter mark is found where a longer one that begins with it is, or before. -/
theorem cut?_of_prefix {shorter : Text} (hshorter : shorter <+: mark) (h : cut? mark s = some (before, after)) :
    ∃ front rest, cut? shorter s = some (front, rest) ∧ front <+: before := by
  induction s generalizing before with
  | nil =>
    have hs := append_of_cut? h
    obtain ⟨rfl, rfl⟩ : before = [] ∧ mark = [] := by simp_all
    rw [List.prefix_nil.mp hshorter]
    exact ⟨[], [], rfl, List.prefix_refl _⟩
  | cons c s ih =>
    by_cases hp : shorter <+: c :: s
    · obtain ⟨rest, hr⟩ := hp
      exact ⟨[], rest, by rw [← hr, cut?_append], List.nil_prefix⟩
    · obtain ⟨inner, rfl, hcut⟩ := (cut?_cons_eq_some_iff fun hm => hp (hshorter.trans hm)).mp h
      obtain ⟨front, rest, hfront, hinner⟩ := ih hcut
      exact ⟨c :: front, rest, (cut?_cons_eq_some_iff hp).mpr ⟨front, rfl, hfront⟩,
        List.cons_prefix_cons.mpr ⟨rfl, hinner⟩⟩

/-- A text is cut at the mark behind `body` if the mark is not there already before its last character. -/
theorem cut?_of_not_infix {body : Text} (h : ¬ mark <:+: body ++ mark.dropLast) (rest : Text) :
    cut? mark (body ++ mark ++ rest) = some (body, rest) := by
  induction body with
  | nil => exact cut?_append mark rest
  | cons c body ih =>
    have hshort : c :: body ++ mark.dropLast <+: c :: (body ++ mark ++ rest) := by
      obtain ⟨last, hlast⟩ := List.dropLast_prefix mark
      exact ⟨last ++ rest, by rw [List.append_assoc, ← List.append_assoc mark.dropLast, hlast]; simp⟩
    have hfront : ¬ mark <+: c :: (body ++ mark ++ rest) := fun hm =>
      h (List.prefix_of_prefix_length_le hm hshort (by simp; omega)).isInfix
    exact (cut?_cons_eq_some_iff hfront).mpr ⟨body, rfl, ih fun hm => h (hm.trans (List.suffix_cons c _).isInfix)⟩

/-- A mark without the character `c` is in front of it or behind it. -/
theorem infix_append_cons {c : CodePoint} {front back : Text} (hc : c ∉ mark) (h : mark <:+: front ++ c :: back) :
    mark <:+: front ∨ mark <:+: back := by
  obtain ⟨left, right, heq⟩ := h
  rw [List.append_assoc] at heq
  rcases List.append_eq_append_iff.mp heq with ⟨more, rfl, hmore⟩ | ⟨more, -, hmore⟩
  · rcases List.append_eq_append_iff.mp hmore with ⟨tail, rfl, -⟩ | ⟨tail, rfl, htail⟩
    · exact .inl ⟨left, tail, List.append_assoc ..⟩
    · cases tail with
      | nil => exact .inl ⟨left, [], by simp⟩
      | cons d tail => exact absurd (by simp [(List.cons.inj htail).1]) hc
  · cases more with
    | nil =>
      cases mark with
      | nil => exact .inl (List.nil_infix)
      | cons d mark => exact absurd (by simp [(List.cons.inj hmore).1]) hc
    | cons d more => exact .inr ⟨more, right, (List.append_assoc ..).trans (List.cons.inj hmore).2.symm⟩

/-- What is of one kind, in front of what is not, is taken to its end. -/
theorem takeWhile_append_of_all {p : CodePoint → Bool} {front : Text} (hfront : ∀ c ∈ front, p c = true)
    (hs : ∀ c ∈ s.head?, p c = false) : (front ++ s).takeWhile p = front ∧ (front ++ s).dropWhile p = s := by
  rw [List.takeWhile_append_of_pos hfront, List.dropWhile_append_of_pos hfront]
  cases s with
  | nil => simp
  | cons c rest => simp [hs c rfl]

end HtmlTemplate.Text
