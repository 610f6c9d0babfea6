import HtmlTemplate.Markup.Node

/-!
# The reader of markup, step by step

Each piece of a source takes at least one character (`first_source_ne_nil`), so the number of steps that the reader is
given never cuts it short and the pieces of a source are its first piece and the pieces of what is left (`pieces_cons`).
`Stands` says where the reader of a source comes to, and `Assembly.read` adds all pieces of a text to a tree.
-/

namespace HtmlTemplate.Markup

/-! ## The first piece -/

/-- The first piece of a text is a text, a close tag, or what an open tag begins. -/
theorem first_cases (c : CodePoint) (rest : Text) :
    (∃ s, (first c rest).1 = .text s) ∨
      (∃ name source after, Tag.close? (c :: rest) = some (name, source, after) ∧
        first c rest = (.closing name source, after)) ∨
      ∃ tag after, Tag.open? (c :: rest) = some (tag, after) ∧ first c rest = opened tag after := by
  unfold first
  split
  · split
    · exact .inl ⟨_, rfl⟩
    · split
      · rename_i hclose
        exact .inr (.inl ⟨_, _, _, hclose, rfl⟩)
      · split
        · rename_i hopen
          exact .inr (.inr ⟨_, _, hopen, rfl⟩)
        · exact .inl ⟨_, rfl⟩
  · split
    · exact .inl ⟨_, rfl⟩
    · split <;> exact .inl ⟨_, rfl⟩

/-- What an open tag begins: a leaf, a raw text, or an element, whose name is none of a raw text unless nothing ends
that. -/
theorem opened_cases (tag : OpenTag) (after : Text) :
    opened tag after = (.leaf tag, after) ∨
      (tag.name.lower ∈ rawTextNames ∧ ∃ body closer rest, rawBody? tag.name after = some (body, closer, rest) ∧
        opened tag after = (.rawText tag body closer, rest)) ∨
      (tag.name.lower ∈ rawTextNames → rawBody? tag.name after = none) ∧ opened tag after = (.opening tag, after) := by
  unfold opened
  split
  · exact .inl rfl
  · split
    · rename_i hraw
      split
      · rename_i hbody
        exact .inr (.inl ⟨List.contains_iff_mem.mp hraw, _, _, _, hbody, rfl⟩)
      · rename_i hbody
        exact .inr (.inr ⟨fun _ => hbody, rfl⟩)
    · rename_i hraw
      exact .inr (.inr ⟨fun h => absurd (List.contains_iff_mem.mpr h) hraw, rfl⟩)

theorem exists_close?_of_first {c : CodePoint} {rest name source : Text} (h : (first c rest).1 = .closing name source) :
    ∃ after, Tag.close? (c :: rest) = some (name, source, after) := by
  rcases first_cases c rest with ⟨s, hfirst⟩ | ⟨n, written, after, hclose, hfirst⟩ | ⟨tag, after, -, hfirst⟩
  · rw [hfirst] at h
    cases h
  · rw [hfirst] at h
    cases h
    exact ⟨after, hclose⟩
  · rw [hfirst] at h
    rcases opened_cases tag after with hopened | ⟨-, body, closer, more, -, hopened⟩ | ⟨-, hopened⟩ <;>
      rw [hopened] at h <;> cases h

/-! ## Every piece takes something -/

theorem source_ne_nil_of_through? {opening mark s source after : Text} (ho : opening ≠ [])
    (h : through? opening mark s = some (source, after)) : source ≠ [] := by
  rw [through?] at h
  split at h
  · cases h
  · simp only [Option.map_eq_some_iff, Prod.mk.injEq, Prod.exists] at h
    obtain ⟨body, rest, -, rfl, -⟩ := h
    simp [ho]

theorem source_ne_nil_of_remark? {s source after : Text} (h : remark? s = some (source, after)) : source ≠ [] := by
  simp only [remark?, Option.or_eq_some_iff] at h
  rcases h with h | ⟨-, h | ⟨-, h⟩⟩ <;> exact source_ne_nil_of_through? (by simp) h

theorem source_ne_nil_of_close? {s name source after : Text} (h : Tag.close? s = some (name, source, after)) :
    source ≠ [] := by
  unfold Tag.close? at h
  split at h
  · simp only [Option.bind_eq_bind, Option.bind_eq_some_iff, Prod.exists] at h
    obtain ⟨n, rest, -, h⟩ := h
    split at h
    · have h := Option.some.inj h
      simp only [Prod.mk.injEq] at h
      obtain ⟨-, rfl, -⟩ := h
      simp
    · cases h
  · cases h

theorem source_ne_nil_of_open? {s after : Text} {tag : OpenTag} (h : Tag.open? s = some (tag, after)) :
    tag.source ≠ [] := by
  unfold Tag.open? at h
  split at h
  · simp only [Option.bind_eq_bind, Option.bind_eq_some_iff, Prod.exists] at h
    obtain ⟨name, afterName, -, closing, slash, after', -, h⟩ := h
    have h := Option.some.inj h
    simp only [Prod.mk.injEq] at h
    obtain ⟨rfl, -⟩ := h
    simp
  · cases h

theorem delimiters_fst_ne_nil (s : Text) : (delimiters s).1 ≠ [] := by
  unfold delimiters
  split <;> simp [opener]

theorem source_ne_nil_of_shielded? {s source after : Text} (h : shielded? s = some (source, after)) : source ≠ [] := by
  have hd := delimiters_fst_ne_nil s
  simp only [shielded?] at h
  split at h
  · cases h
  · split at h
    · cases h
    · split at h
      · cases h
      · simp only [Option.some.injEq, Prod.mk.injEq] at h
        obtain ⟨rfl, -⟩ := h
        simp [hd]

theorem source_opened_ne_nil {tag : OpenTag} (h : tag.source ≠ []) (after : Text) :
    (opened tag after).1.source ≠ [] := by
  unfold opened
  split
  · exact h
  · split
    · split
      · simp [Piece.source, h]
      · exact h
    · exact h

theorem first_source_ne_nil (c : CodePoint) (rest : Text) : (first c rest).1.source ≠ [] := by
  unfold first
  split
  · split
    · next h => exact source_ne_nil_of_remark? h
    · split
      · next h => exact source_ne_nil_of_close? h
      · split
        · next h => exact source_opened_ne_nil (source_ne_nil_of_open? h) _
        · simp [Piece.source]
  · split
    · simp [Piece.source]
    · split
      · next h => exact source_ne_nil_of_shielded? h
      · simp [Piece.source, opener]

/-- What is left after the first piece is shorter than the text. -/
theorem length_first_lt (c : CodePoint) (rest : Text) : (first c rest).2.length < (c :: rest).length := by
  have hpos : 0 < (first c rest).1.source.length := List.length_pos_iff.mpr (first_source_ne_nil c rest)
  have hsum := congrArg List.length (source_first c rest)
  rw [List.length_append] at hsum
  omega

/-! ## The pieces of what is left -/

/-- More steps than characters change nothing. -/
theorem piecesFrom_of_length_le (n m : Nat) (s : Text) (hn : s.length ≤ n) (hm : s.length ≤ m) :
    piecesFrom n s = piecesFrom m s := by
  induction n generalizing m s with
  | zero =>
    obtain rfl : s = [] := List.eq_nil_of_length_eq_zero (Nat.le_zero.mp hn)
    simp only [piecesFrom]
  | succ n ih =>
    cases s with
    | nil => simp only [piecesFrom]
    | cons c rest =>
      cases m with
      | zero => cases hm
      | succ m =>
        have hlt := length_first_lt c rest
        simp only [piecesFrom]
        rw [ih m _ (by omega) (by omega)]

/-- The pieces of a text are its first piece and the pieces of what is left. -/
theorem pieces_cons (c : CodePoint) (rest : Text) :
    pieces (c :: rest) = (first c rest).1 :: pieces (first c rest).2 := by
  have hlt := length_first_lt c rest
  show (first c rest).1 :: piecesFrom rest.length (first c rest).2 = _
  rw [pieces, piecesFrom_of_length_le rest.length (first c rest).2.length _ (Nat.le_of_lt_succ hlt) (Nat.le_refl _)]

/-- Every piece of a text is the first of some rest of it. -/
theorem exists_first_of_mem_pieces {s : Text} {piece : Piece} (h : piece ∈ pieces s) :
    ∃ c rest, (c :: rest) <:+ s ∧ (first c rest).1 = piece := by
  have hfrom : ∀ (steps : Nat) (s : Text), s.length ≤ steps → piece ∈ piecesFrom steps s →
      ∃ c rest, (c :: rest) <:+ s ∧ (first c rest).1 = piece := by
    intro steps
    induction steps with
    | zero =>
      intro s hlength h
      obtain rfl := List.length_eq_zero_iff.mp (Nat.le_zero.mp hlength)
      cases h
    | succ steps ih =>
      intro s hlength h
      cases s with
      | nil => cases h
      | cons c rest =>
        rw [piecesFrom, List.mem_cons] at h
        rcases h with rfl | h
        · exact ⟨c, rest, List.suffix_refl _, rfl⟩
        · have hlt := length_first_lt c rest
          obtain ⟨d, more, hsuffix, hpiece⟩ := ih _ (by omega) h
          exact ⟨d, more, hsuffix.trans ⟨_, source_first c rest⟩, hpiece⟩
  exact hfrom _ s (Nat.le_refl _) h

theorem source_pieces (s : Text) : (pieces s).flatMap Piece.source = s := source_piecesFrom _ s

/-- Where the reader of a source comes to: the pieces that it has read, and the text that is left. -/
inductive Stands (source : Text) : List Piece → Text → Prop
  | start : Stands source [] source
  | step {read : List Piece} {c : CodePoint} {rest : Text} :
      Stands source read (c :: rest) → Stands source (read ++ [(first c rest).1]) (first c rest).2

/-- What has been read and what is left are the pieces of the source. -/
theorem Stands.pieces_eq {source left : Text} {read : List Piece} (h : Stands source read left) :
    pieces source = read ++ pieces left := by
  induction h with
  | start => rfl
  | step _ ih => rw [ih, pieces_cons, List.append_assoc, List.singleton_append]

namespace Assembly

/-- The tree with all pieces of a text. -/
def read (a : Assembly) (s : Text) : Assembly := (pieces s).foldl add a

@[simp] theorem read_nil (a : Assembly) : a.read [] = a := rfl

theorem read_cons (a : Assembly) (c : CodePoint) (rest : Text) :
    a.read (c :: rest) = (a.add (first c rest).1).read (first c rest).2 := by
  rw [read, pieces_cons, List.foldl_cons, read]

/-- What each piece keeps of a tree and of the text that is left is kept to the end. -/
theorem read_induction {motive : Assembly → Text → Prop}
    (step : ∀ a c rest, motive a (c :: rest) → motive (a.add (first c rest).1) (first c rest).2) (a : Assembly) :
    ∀ s, motive a s → motive (a.read s) []
  | [], h => h
  | c :: rest, h => by
    rw [read_cons]
    exact read_induction step _ (first c rest).2 (step a c rest h)
termination_by s => s.length
decreasing_by exact length_first_lt c rest

end Assembly

end HtmlTemplate.Markup
