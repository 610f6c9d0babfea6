import HtmlTemplate.Markup.Braces
import HtmlTemplate.Proofs.Markup.WrittenTag

/-!
# A blank behind a text

No reader of tags takes the last blank of a text: each one finds in a text with a space behind it what it finds in the
text, and leaves the space (`Tag.open?_space`, `Tag.close?_space`). So an expression has a tag in it exactly if it has
one with spaces around it (`Markup.hasTag_spaced`).
-/

namespace HtmlTemplate

section Runs

variable {p : CodePoint → Bool} {b : CodePoint}

theorem takeWhile_concat (hb : p b = false) (s : Text) : (s ++ [b]).takeWhile p = s.takeWhile p := by
  induction s with
  | nil => simp [hb]
  | cons c s ih =>
    rw [List.cons_append, List.takeWhile_cons, List.takeWhile_cons, ih]

theorem dropWhile_concat (hb : p b = false) (s : Text) : (s ++ [b]).dropWhile p = s.dropWhile p ++ [b] := by
  induction s with
  | nil => simp [hb]
  | cons c s ih =>
    rw [List.cons_append, List.dropWhile_cons, List.dropWhile_cons, ih]
    split <;> rfl

/-- Blanks at the front of a text with a space behind it: either there is nothing else, or they end before the space. -/
theorem dropWhile_space (s : Text) :
    s.dropWhile isBlank = [] ∧ (s ++ ([' '] : Text)).dropWhile isBlank = [] ∨
      (s ++ ([' '] : Text)).dropWhile isBlank = s.dropWhile isBlank ++ ([' '] : Text) ∧
        (s ++ ([' '] : Text)).takeWhile isBlank = s.takeWhile isBlank := by
  have hspace : isBlank ' ' = true := by decide
  by_cases hall : ∀ c ∈ s, isBlank c = true
  · refine .inl ⟨List.dropWhile_eq_nil_iff.mpr hall, List.dropWhile_eq_nil_iff.mpr ?_⟩
    exact List.forall_mem_append.mpr ⟨hall, by simpa using hspace⟩
  · refine .inr ?_
    have hdrop : s.dropWhile isBlank ≠ [] := fun h => hall (List.dropWhile_eq_nil_iff.mp h)
    have htake : (s.takeWhile isBlank).length ≠ s.length := fun h => by
      have hsum := congrArg List.length (List.takeWhile_append_dropWhile (p := isBlank) (l := s))
      rw [List.length_append, h] at hsum
      exact hdrop (List.length_eq_zero_iff.mp (by omega))
    rw [List.dropWhile_append, List.takeWhile_append, if_neg (by simpa using hdrop), if_neg htake]
    exact ⟨rfl, rfl⟩

theorem dropWhile_space_cons {s after : Text} {c : CodePoint} (h : s.dropWhile isBlank = c :: after) :
    (s ++ ([' '] : Text)).dropWhile isBlank = c :: (after ++ ([' '] : Text)) ∧
      (s ++ ([' '] : Text)).takeWhile isBlank = s.takeWhile isBlank := by
  rcases dropWhile_space s with ⟨hdrop, -⟩ | ⟨hdrop, htake⟩
  · rw [hdrop] at h
    cases h
  · rw [hdrop, h]
    exact ⟨rfl, htake⟩

/-- The space is not what comes behind the blanks. -/
theorem dropWhile_space_ne {s : Text} {c : CodePoint} (hc : c ≠ ' ') (h : ∀ after, s.dropWhile isBlank ≠ c :: after)
    (after : Text) : (s ++ ([' '] : Text)).dropWhile isBlank ≠ c :: after := by
  intro heq
  rcases dropWhile_space s with ⟨-, hdrop⟩ | ⟨hdrop, -⟩
  · rw [hdrop] at heq
    cases heq
  · rw [hdrop] at heq
    rcases List.append_eq_cons_iff.mp heq with ⟨-, hspace⟩ | ⟨more, hs, -⟩
    · exact hc (List.cons.inj hspace).1.symm
    · exact h more hs

end Runs

/-! ## Attributes -/

namespace Attribute

theorem upTo?_space {quote : CodePoint} (hquote : quote ≠ ' ') (s : Text) :
    upTo? quote (s ++ ([' '] : Text)) = (upTo? quote s).map fun (body, after) => (body, after ++ ([' '] : Text)) := by
  induction s with
  | nil =>
    simp [upTo?, hquote.symm]
  | cons c s ih =>
    rw [List.cons_append, upTo?, upTo?, ih]
    split
    · rfl
    · rw [Option.map_map, Option.map_map]
      rfl

theorem written?_space (s : Text) :
    written? (s ++ ([' '] : Text)) =
      (written? s).map fun (raw, value, after) => (raw, value, after ++ ([' '] : Text)) := by
  cases s with
  | nil => decide
  | cons c s =>
    have hbare : isBareChar ' ' = false := by decide
    have htake := takeWhile_concat hbare (c :: s)
    have hdrop := dropWhile_concat hbare (c :: s)
    rw [List.cons_append] at htake hdrop ⊢
    rw [written?, written?]
    split
    · next hc =>
      have hne : c ≠ ' ' := by rintro rfl; exact absurd hc (by decide)
      rw [upTo?_space hne, Option.map_map, Option.map_map]
      rfl
    · split
      · rw [htake, hdrop]
        rfl
      · rfl

theorem assigned?_equals {s rest : Text} (h : s.dropWhile isBlank = ('=' : CodePoint) :: rest) :
    assigned? s = (written? (rest.dropWhile isBlank)).map fun (raw, value, after) =>
      (s.takeWhile isBlank ++ ('=' : CodePoint) :: rest.takeWhile isBlank ++ raw, value, after) := by
  unfold assigned?
  rw [h]
  rfl

theorem assigned?_other {s : Text} (h : ∀ rest, s.dropWhile isBlank ≠ ('=' : CodePoint) :: rest) :
    assigned? s = none := by
  unfold assigned?
  split
  · next rest hs => exact absurd hs (h rest)
  · rfl

theorem assigned?_space (s : Text) :
    assigned? (s ++ ([' '] : Text)) =
      (assigned? s).map fun (raw, value, after) => (raw, value, after ++ ([' '] : Text)) := by
  by_cases hequals : ∃ rest, s.dropWhile isBlank = ('=' : CodePoint) :: rest
  · obtain ⟨rest, hs⟩ := hequals
    obtain ⟨hdrop, htake⟩ := dropWhile_space_cons hs
    rw [assigned?_equals hs, assigned?_equals hdrop, htake]
    rcases dropWhile_space rest with ⟨hrest, hrest'⟩ | ⟨hrest, htake'⟩
    · rw [hrest, hrest']
      rfl
    · rw [hrest, htake', written?_space, Option.map_map, Option.map_map]
      rfl
  · have hother : ∀ rest, s.dropWhile isBlank ≠ ('=' : CodePoint) :: rest := fun rest hs => hequals ⟨rest, hs⟩
    rw [assigned?_other hother, assigned?_other (dropWhile_space_ne (by decide) hother)]
    rfl

theorem read?_space (s : Text) :
    read? (s ++ ([' '] : Text)) = (read? s).map fun (a, after) => (a, after ++ ([' '] : Text)) := by
  have hname : isNameChar ' ' = false := by decide
  simp only [read?, takeWhile_concat hname, dropWhile_concat hname, assigned?_space]
  split
  · rfl
  · cases assigned? (s.dropWhile isNameChar) <;> rfl

end Attribute

/-! ## Tags -/

namespace Tag

theorem name?_space (s : Text) :
    name? (s ++ ([' '] : Text)) = (name? s).map fun (name, after) => (name, after ++ ([' '] : Text)) := by
  have hname : isNameChar ' ' = false := by decide
  cases s with
  | nil => decide
  | cons c s =>
    rw [List.cons_append, name?, name?, takeWhile_concat hname, dropWhile_concat hname]
    split <;> rfl

theorem sectionFrom_space (steps : Nat) (s : Text) :
    sectionFrom steps (s ++ ([' '] : Text)) = ((sectionFrom steps s).1, (sectionFrom steps s).2 ++ ([' '] : Text)) := by
  induction steps generalizing s with
  | zero => rfl
  | succ steps ih =>
    rcases dropWhile_space s with ⟨hdrop, hdrop'⟩ | ⟨hdrop, htake⟩
    · simp only [sectionFrom, hdrop, hdrop']
      rfl
    · simp only [sectionFrom, hdrop, htake, Attribute.read?_space]
      cases Attribute.read? (s.dropWhile isBlank) with
      | none => rfl
      | some found =>
        obtain ⟨a, after⟩ := found
        simp only [Option.map_some, ih]
        split <;> rfl

theorem openEnd?_space (s : Text) :
    openEnd? (s ++ ([' '] : Text)) =
      (openEnd? s).map fun (closing, slash, after) => (closing, slash, after ++ ([' '] : Text)) := by
  by_cases hplain : ∃ after, s.dropWhile isBlank = ('>' : CodePoint) :: after
  · obtain ⟨after, hs⟩ := hplain
    obtain ⟨hdrop, htake⟩ := dropWhile_space_cons hs
    rw [openEnd?, openEnd?, hdrop, htake, hs]
    rfl
  by_cases hslash : ∃ after, s.dropWhile isBlank = ('/' : CodePoint) :: '>' :: after
  · obtain ⟨after, hs⟩ := hslash
    obtain ⟨hdrop, htake⟩ := dropWhile_space_cons hs
    rw [openEnd?, openEnd?, hdrop, htake, hs]
    rfl
  have hother : ∀ after, s.dropWhile isBlank ≠ ('>' : CodePoint) :: after := fun after hs => hplain ⟨after, hs⟩
  rw [openEnd?_other hother fun after hs => hslash ⟨after, hs⟩,
    openEnd?_other (dropWhile_space_ne (by decide) hother) fun after heq => ?_]
  · rfl
  · -- the space is no end of a tag behind a slash either
    by_cases hs : ∃ more, s.dropWhile isBlank = ('/' : CodePoint) :: more
    · obtain ⟨more, hs⟩ := hs
      rw [(dropWhile_space_cons hs).1] at heq
      rcases List.append_eq_cons_iff.mp (List.cons.inj heq).2 with ⟨-, hspace⟩ | ⟨rest, rfl, -⟩
      · cases hspace
      · exact hslash ⟨rest, hs⟩
    · exact dropWhile_space_ne (by decide) (fun more h => hs ⟨more, h⟩) _ heq

theorem open?_space (s : Text) :
    open? (s ++ ([' '] : Text)) = (open? s).map fun (tag, after) => (tag, after ++ ([' '] : Text)) := by
  cases s with
  | nil => rfl
  | cons c s =>
    by_cases hc : c = '<'
    · subst hc
      simp only [List.cons_append, open?, name?_space]
      cases name? s with
      | none => rfl
      | some found =>
        obtain ⟨name, afterName⟩ := found
        simp only [Option.map_some, Option.bind_eq_bind, Option.bind_some, sectionFrom_space]
        rw [sectionFrom_of_length_le (afterName ++ ([' '] : Text)).length afterName.length afterName (by simp)
          (Nat.le_refl _), openEnd?_space]
        cases openEnd? (sectionFrom afterName.length afterName).2 <;> rfl
    · have hnone : ∀ rest, open? (c :: rest) = none := fun rest => by
        unfold open?
        split
        · next heq => exact absurd (List.cons.inj heq).1 hc
        · rfl
      rw [List.cons_append, hnone, hnone]
      rfl

theorem close?_ended {s name rest after : Text} (h : name? s = some (name, rest))
    (hend : rest.dropWhile isBlank = ('>' : CodePoint) :: after) :
    close? ('<' :: '/' :: s) =
      some (name, ('<' : CodePoint) :: '/' :: name ++ rest.takeWhile isBlank ++ (['>'] : Text), after) := by
  simp only [close?, h, hend, Option.bind_eq_bind, Option.bind_some]
  rfl

theorem close?_unended {s name rest : Text} (h : name? s = some (name, rest))
    (hend : ∀ after, rest.dropWhile isBlank ≠ ('>' : CodePoint) :: after) : close? ('<' :: '/' :: s) = none := by
  simp only [close?, h, Option.bind_eq_bind, Option.bind_some]

theorem close?_other {s : Text} (h : ∀ rest, s ≠ ('<' : CodePoint) :: '/' :: rest) : close? s = none := by
  unfold close?
  split
  · next rest => exact absurd rfl (h rest)
  · rfl

theorem close?_space (s : Text) :
    close? (s ++ ([' '] : Text)) =
      (close? s).map fun (name, source, after) => (name, source, after ++ ([' '] : Text)) := by
  by_cases hslash : ∃ rest, s = ('<' : CodePoint) :: '/' :: rest
  · obtain ⟨s, rfl⟩ := hslash
    have hname := name?_space s
    rw [List.cons_append, List.cons_append]
    cases hs : name? s with
    | none =>
      rw [hs] at hname
      simp only [close?, hs, hname]
      rfl
    | some found =>
      obtain ⟨name, rest⟩ := found
      rw [hs] at hname
      by_cases hend : ∃ after, rest.dropWhile isBlank = ('>' : CodePoint) :: after
      · obtain ⟨after, hend⟩ := hend
        obtain ⟨hdrop, htake⟩ := dropWhile_space_cons hend
        rw [close?_ended hs hend, close?_ended hname hdrop, htake]
        rfl
      · have hother : ∀ after, rest.dropWhile isBlank ≠ ('>' : CodePoint) :: after := fun after h => hend ⟨after, h⟩
        rw [close?_unended hs hother, close?_unended hname (dropWhile_space_ne (by decide) hother)]
        rfl
  · have hother : ∀ rest, s ≠ ('<' : CodePoint) :: '/' :: rest := fun rest h => hslash ⟨rest, h⟩
    rw [close?_other hother, close?_other]
    · rfl
    · intro rest heq
      rcases List.append_eq_cons_iff.mp heq with ⟨-, hspace⟩ | ⟨more, rfl, hmore⟩
      · cases hspace
      · rcases List.append_eq_cons_iff.mp hmore.symm with ⟨-, hspace⟩ | ⟨rest, rfl, -⟩
        · cases hspace
        · exact hother rest rfl

end Tag

/-! ## Tags in a text -/

namespace Markup

theorem hasTag_concat_space (s : Text) : hasTag (s ++ ([' '] : Text)) = hasTag s := by
  induction s with
  | nil => decide
  | cons c s ih =>
    have hopen := Tag.open?_space (c :: s)
    have hclose := Tag.close?_space (c :: s)
    rw [List.cons_append] at hopen hclose ⊢
    rw [hasTag, hasTag, ih, hopen, hclose, Option.isSome_map]
    cases Tag.open? (c :: s) <;> rfl

/-- Spaces around a text do not put tags into it. -/
theorem hasTag_spaced (s : Text) : hasTag (' ' :: (s ++ ([' '] : Text))) = hasTag s := by
  have hnone : ∀ rest, Tag.close? (' ' :: rest) = none ∧ Tag.open? (' ' :: rest) = none := fun rest => ⟨rfl, rfl⟩
  rw [hasTag, (hnone _).1, (hnone _).2, hasTag_concat_space]
  rfl

end Markup

end HtmlTemplate
