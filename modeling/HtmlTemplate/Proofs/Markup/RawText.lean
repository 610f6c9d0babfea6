import HtmlTemplate.Proofs.Markup.Reader
import HtmlTemplate.Proofs.Text.Letters

/-!
# Where a raw text ends

The body of an element with raw text ends at the first close tag of its name, as `rawBody?` finds it: it compares names
character by character (`afterCloser?_eq_some_iff`). The tree ends an element where the lower-case forms of the names
are equal. What ends an element with raw text in the second sense does so in the first (`afterCloser?_of_close?`), so
where `rawBody?` finds no end there is none in either sense (`unended_of_rawBody?`).
-/

namespace HtmlTemplate.Markup

variable {name s rest after : Text}

/-! ## Close tags -/

theorem afterName?_eq_some_iff :
    afterName? name s = some rest ↔
      ∃ n, List.Forall₂ (fun c d => sameIgnoringCase c d = true) name n ∧ s = n ++ rest := by
  induction name generalizing s with
  | nil =>
    rw [afterName?, Option.some_inj]
    constructor
    · intro h
      exact ⟨[], .nil, h⟩
    · rintro ⟨n, hn, hs⟩
      cases hn
      exact hs
  | cons c name ih =>
    cases s with
    | nil =>
      constructor
      · intro h
        cases h
      · rintro ⟨n, hn, hs⟩
        cases hn
        cases hs
    | cons d s =>
      rw [afterName?]
      constructor
      · intro h
        split at h
        · rename_i hsame
          obtain ⟨n, hn, rfl⟩ := ih.mp h
          exact ⟨d :: n, .cons hsame hn, rfl⟩
        · cases h
      · rintro ⟨n, hn, hs⟩
        cases hn with
        | cons hsame hn =>
          obtain ⟨rfl, rfl⟩ := List.cons.inj hs
          rw [if_pos hsame]
          exact ih.mpr ⟨_, hn, rfl⟩

/-- A close tag of an element is two signs, its name in any case of the letters, blanks, and a last sign. -/
theorem afterCloser?_eq_some_iff :
    afterCloser? name s = some after ↔
      ∃ n blanks, List.Forall₂ (fun c d => sameIgnoringCase c d = true) name n ∧ (∀ c ∈ blanks, isBlank c = true) ∧
        s = ('<' : CodePoint) :: '/' :: (n ++ (blanks ++ ('>' : CodePoint) :: after)) := by
  constructor
  · intro h
    unfold afterCloser? at h
    split at h
    · rename_i s
      split at h
      · cases h
      · rename_i rest hname
        obtain ⟨n, hn, rfl⟩ := afterName?_eq_some_iff.mp hname
        split at h
        · rename_i hdrop
          cases h
          refine ⟨n, rest.takeWhile isBlank, hn, fun c hc => List.mem_takeWhile_imp hc, ?_⟩
          rw [← hdrop, List.takeWhile_append_dropWhile]
        · cases h
    · cases h
  · rintro ⟨n, blanks, hn, hblanks, rfl⟩
    have hname :
        afterName? name (n ++ (blanks ++ ('>' : CodePoint) :: after)) = some (blanks ++ ('>' : CodePoint) :: after) :=
      afterName?_eq_some_iff.mpr ⟨n, hn, rfl⟩
    have hdrop : (blanks ++ ('>' : CodePoint) :: after).dropWhile isBlank = ('>' : CodePoint) :: after := by
      rw [List.dropWhile_append_of_pos hblanks, List.dropWhile_cons_of_neg (by decide)]
    simp only [afterCloser?, hname, hdrop]

theorem afterCloser?_append (h : afterCloser? name s = some after) (more : Text) :
    afterCloser? name (s ++ more) = some (after ++ more) := by
  obtain ⟨n, blanks, hn, hblanks, rfl⟩ := afterCloser?_eq_some_iff.mp h
  exact afterCloser?_eq_some_iff.mpr ⟨n, blanks, hn, hblanks, by simp⟩

theorem exists_blanks_of_close? {source : Text} (h : Tag.close? s = some (name, source, after)) :
    ∃ blanks, (∀ c ∈ blanks, isBlank c = true) ∧
      source = ('<' : CodePoint) :: '/' :: (name ++ (blanks ++ (['>'] : Text))) := by
  unfold Tag.close? at h
  split at h
  · simp only [Option.bind_eq_bind, Option.bind_eq_some_iff, Prod.exists] at h
    obtain ⟨n, rest, -, h⟩ := h
    split at h
    · have h := Option.some.inj h
      simp only [Prod.mk.injEq] at h
      obtain ⟨rfl, rfl, -⟩ := h
      exact ⟨rest.takeWhile isBlank, fun c hc => List.mem_takeWhile_imp hc, by simp⟩
    · cases h
  · cases h

/-- A close tag whose name has the same lower-case form ends the raw text, if the form is in ASCII. -/
theorem afterCloser?_of_close? {n source : Text} (h : Tag.close? s = some (n, source, after))
    (hlower : n.lower = name.lower) (hascii : name.lower.isAscii = true) : afterCloser? name s = some after := by
  obtain ⟨blanks, hblanks, rfl⟩ := exists_blanks_of_close? h
  have hname := Text.sameIgnoringCase_of_lower_eq hlower.symm (hlower ▸ hascii)
  exact afterCloser?_eq_some_iff.mpr ⟨n, blanks, hname, hblanks, by simp [Tag.append_of_close? h]⟩

/-! ## Bodies -/

theorem rawBody?_eq_none_iff : rawBody? name s = none ↔ ∀ t, t <:+ s → afterCloser? name t = none := by
  induction s with
  | nil =>
    refine iff_of_true rfl fun t ht => ?_
    rw [List.suffix_nil.mp ht]
    rfl
  | cons c rest ih =>
    rw [rawBody?]
    split
    · rename_i after hcloser
      refine iff_of_false (Option.some_ne_none _) fun h => ?_
      rw [h _ (List.suffix_refl _)] at hcloser
      cases hcloser
    · rename_i hcloser
      rw [Option.map_eq_none_iff, ih]
      refine ⟨fun h t ht => ?_, fun h t ht => h t (ht.trans (List.suffix_cons c rest))⟩
      rcases List.suffix_cons_iff.mp ht with rfl | ht
      · exact hcloser
      · exact h t ht

/-- The body and the close tag that are found in a text are found without what follows them. -/
theorem rawBody?_append {body closer : Text} (h : rawBody? name s = some (body, closer, after)) :
    rawBody? name (body ++ closer) = some (body, closer, []) := by
  induction s generalizing body with
  | nil => cases h
  | cons c rest ih =>
    rw [rawBody?] at h
    split at h
    · rename_i after' hcloser
      simp only [Option.some.injEq, Prod.mk.injEq] at h
      obtain ⟨rfl, hsource, rfl⟩ := h
      obtain ⟨n, blanks, hn, hblanks, hs⟩ := afterCloser?_eq_some_iff.mp hcloser
      have hwhole : closer = ('<' : CodePoint) :: '/' :: (n ++ (blanks ++ (['>'] : Text))) := by
        have hsplit : c :: rest = (('<' : CodePoint) :: '/' :: (n ++ (blanks ++ (['>'] : Text)))) ++ after' := by
          simp [hs]
        rw [← hsource, hsplit, List.length_append, Nat.add_sub_cancel, List.take_left]
      have hends : afterCloser? name closer = some [] :=
        afterCloser?_eq_some_iff.mpr ⟨n, blanks, hn, hblanks, hwhole⟩
      rw [hwhole] at hends ⊢
      rw [List.nil_append, rawBody?, hends]
      simp only [List.length_nil, Nat.sub_zero, List.take_length]
    · rename_i hcloser
      simp only [Option.map_eq_some_iff, Prod.mk.injEq, Prod.exists] at h
      obtain ⟨body, closer, after, hbody, rfl, rfl, rfl⟩ := h
      -- a close tag at the front would be one with what follows, too
      have hnone : afterCloser? name (c :: (body ++ closer)) = none := by
        by_contra hsome
        obtain ⟨left, hleft⟩ := Option.ne_none_iff_exists'.mp hsome
        have happend := afterCloser?_append hleft after
        rw [List.cons_append, ← append_of_rawBody? hbody, hcloser] at happend
        cases happend
      rw [List.cons_append, rawBody?, hnone, ih hbody]
      rfl

/-- Whether no piece is a close tag of the element `name`. -/
def Unended (name : Text) (ps : List Piece) : Prop := ∀ n source, .closing n source ∈ ps → n.lower ≠ name.lower

/-- If no raw text is found behind an open tag, no close tag of that name is left. -/
theorem unended_of_rawBody? (hraw : name.lower ∈ rawTextNames) (h : rawBody? name s = none) :
    Unended name (pieces s) := by
  intro n source hmem hlower
  have hascii : ∀ raw ∈ rawTextNames, raw.isAscii = true := by decide
  obtain ⟨c, rest, hsuffix, hfirst⟩ := exists_first_of_mem_pieces hmem
  obtain ⟨after, hclose⟩ := exists_close?_of_first hfirst
  have hnone := rawBody?_eq_none_iff.mp h _ hsuffix
  rw [afterCloser?_of_close? hclose hlower (hascii _ hraw)] at hnone
  cases hnone

end HtmlTemplate.Markup
