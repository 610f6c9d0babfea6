import HtmlTemplate.Proofs.Interpolation.Segments
import HtmlTemplate.Proofs.Markup.Parts

/-!
# Two readers of braces

The reader of markup decides at each two braces that it meets whether they shield an expression; the interpolation
decides it again, in the text of the tree that goes through the place. Braces that shield nothing are left as they are
unless the text closes them in a way that the interpolation takes (`shows_opener_iff`), and that differs from what the
reader of markup takes for three braces or more, and for a tag that has stayed in the text (`hasTag_of_stray`). A
shielded expression is evaluated as it stands unless a brace right before it makes a longer run
(`shows_region_iff`). Both together, for every place of a source: `Markup.braces_rendered`.
-/

namespace HtmlTemplate

namespace Text

/-- Whether what is behind the braces at the front of a text closes them, so that a region is read at the first or the
second of them: two braces close two to four, three braces close five. -/
def bracesClose (s : Text) : Bool :=
  s.braces ≤ 4 && Insertion.escaped.closes s.behindBraces || s.braces == 5 && Insertion.raw.closes s.behindBraces

theorem bracesClose_iff {s : Text} : s.bracesClose = true ↔
    s.braces ≤ 4 ∧ Insertion.escaped.closes s.behindBraces = true ∨
      s.braces = 5 ∧ Insertion.raw.closes s.behindBraces = true := by
  simp [bracesClose]

end Text

variable {left right : Text}

/-! ## Braces that shield nothing -/

/-- If a region is read at all but one of the braces or at more braces, the text closes them. -/
theorem bracesClose_of_read? {m : Nat} (hm : right.braces ≤ m + 1)
    (h : (Region.read? (List.replicate m ('\x7b' : CodePoint) ++ right.behindBraces)).isSome = true) :
    right.bracesClose = true := by
  rw [Text.bracesClose_iff]
  rcases (Region.isSome_read?_braces right.head?_behindBraces m).mp h with ⟨rfl, hcloses, -⟩ | ⟨rfl, hcloses⟩ |
    ⟨rfl, hcloses⟩
  · exact .inl ⟨by omega, hcloses⟩
  · exact .inl ⟨hm, hcloses⟩
  · by_cases hfive : right.braces = 5
    · exact .inr ⟨hfive, hcloses⟩
    · exact .inl ⟨by omega, Insertion.escaped_closes_of_raw hcloses⟩

/-- The text closes the braces in front of it exactly if a region is read at the first or the second of them. -/
theorem bracesClose_iff_read? {rest : Text} (hright : right = ('\x7b' : CodePoint) :: '\x7b' :: rest)
    (hempty : right.braces = 2 → ¬ Insertion.escaped.closer <+: right.behindBraces) :
    right.bracesClose = true ↔
      (Region.read? right).isSome = true ∨ (Region.read? ('\x7b' :: rest)).isSome = true := by
  have hbraces : 2 ≤ right.braces := Text.replicate_prefix_iff.mp ⟨rest, hright.symm⟩
  obtain ⟨n, hn⟩ : ∃ n, right.braces = n + 1 := Nat.exists_eq_add_of_le' (by omega)
  have hfirst := Text.replicate_braces_append right
  have hsecond : List.replicate n ('\x7b' : CodePoint) ++ right.behindBraces = ('\x7b' : CodePoint) :: rest := by
    rw [hn, List.replicate_succ, List.cons_append] at hfirst
    exact (List.cons.inj (hfirst.trans hright)).2
  constructor
  · intro h
    have hread := Region.isSome_read?_braces right.head?_behindBraces right.braces
    have hnext := Region.isSome_read?_braces right.head?_behindBraces n
    rw [hfirst] at hread
    rw [hsecond] at hnext
    rw [hread, hnext]
    rcases Text.bracesClose_iff.mp h with ⟨hle, hcloses⟩ | ⟨hfive, hcloses⟩
    · by_cases htwo : right.braces = 2
      · exact .inl (.inl ⟨htwo, hcloses, hempty htwo⟩)
      · by_cases hthree : right.braces = 3
        · exact .inl (.inr (.inl ⟨hthree, hcloses⟩))
        · exact .inr (.inr (.inl ⟨by omega, hcloses⟩))
    · exact .inr (.inr (.inr ⟨by omega, hcloses⟩))
  · rintro (h | h)
    · exact bracesClose_of_read? (Nat.le_succ _) (by rw [hfirst]; exact h)
    · exact bracesClose_of_read? (Nat.le_of_eq hn) (by rw [hsecond]; exact h)

/-- The interpolation comes to two braces that the text does not close. -/
theorem exists_scans_of_bracesClose (hopener : Insertion.escaped.opener <+: right) (h : right.bracesClose = false) :
    ∃ read, Scans (left ++ right) read right := by
  rcases (Scans.start (s := left ++ right)).or_crosses hopener with hscans | ⟨k, -, -, -, hsome⟩
  · exact hscans
  · rw [Text.replicate_append_eq] at hsome
    rw [bracesClose_of_read? (by omega) hsome] at h
    cases h

/-- Two braces of a text are left as they are exactly if what follows does not close them. -/
theorem shows_opener_iff (hopener : Insertion.escaped.opener <+: right)
    (hempty : right.braces = 2 → ¬ Insertion.escaped.closer <+: right.behindBraces) :
    Shows left right (Insertion.escaped.opener.map .literal) ↔ right.bracesClose = false := by
  obtain ⟨rest, hright⟩ : ∃ rest, right = ('\x7b' : CodePoint) :: '\x7b' :: rest :=
    ⟨_, (List.prefix_iff_eq_append.mp hopener).symm⟩
  have hliterals : ∀ back, segments right = Insertion.escaped.opener.map .literal ++ back ↔
      Region.read? right = none ∧ Region.read? ('\x7b' :: rest) = none ∧ segments rest = back := fun back => by
    rw [hright, ← segments_eq_literal_iff, ← segments_eq_literal_iff]
    rfl
  have hclose : right.bracesClose = false ↔ Region.read? right = none ∧ Region.read? ('\x7b' :: rest) = none := by
    rw [← Bool.not_eq_true, bracesClose_iff_read? hright hempty, not_or, Option.not_isSome_iff_eq_none,
      Option.not_isSome_iff_eq_none]
  rw [shows_iff]
  constructor
  · rintro ⟨read, back, -, hsegments⟩
    obtain ⟨hfirst, hsecond, -⟩ := (hliterals back).mp hsegments
    exact hclose.mpr ⟨hfirst, hsecond⟩
  · intro h
    obtain ⟨read, hscans⟩ := exists_scans_of_bracesClose hopener h
    exact ⟨read, segments rest, hscans, (hliterals _).mpr ⟨(hclose.mp h).1, (hclose.mp h).2, rfl⟩⟩

/-- Two braces that shield nothing although they are closed have a tag between them. -/
theorem hasTag_of_stray {tail : Text} (h : Markup.shielded? (right ++ tail) = none) (hbraces : right.braces = 2)
    (hcloses : Insertion.escaped.closes right.behindBraces = true) :
    ∃ body rest, Insertion.escaped.Encloses right body rest ∧ Markup.hasTag body = true := by
  obtain ⟨body, rest, hcut, hmark⟩ := Insertion.closes_iff.mp hcloses
  have henc := Insertion.encloses_of_cut? (Insertion.opener_append_behindBraces hbraces).symm hcut
  have hopening : Insertion.opening right = .escaped := Insertion.opening_of_lt (by omega)
  refine ⟨body, rest, henc, ?_⟩
  by_contra htag
  have hshielded : Markup.shielded? right = some (Insertion.escaped.around body, rest) :=
    Markup.shielded?_eq_some_iff.mpr ⟨body, hopening.symm ▸ henc, hmark, by simpa using htag, by rw [hopening]⟩
  have hsource := Markup.append_of_shielded? hshielded
  rw [hsource] at hshielded
  rw [hsource, List.append_assoc, Markup.shielded?_append_other hshielded] at h
  cases h

/-- Two braces that shield nothing have something between them and what closes them. -/
theorem not_empty_of_stray {tail : Text} (h : Markup.shielded? (right ++ tail) = none) (hbraces : right.braces = 2) :
    ¬ Insertion.escaped.closer <+: right.behindBraces := by
  rintro ⟨after, hafter⟩
  have hcut := Text.cut?_append Insertion.escaped.closer after
  rw [hafter] at hcut
  obtain ⟨body, rest, henc, htag⟩ :=
    hasTag_of_stray h hbraces (Insertion.closes_iff.mpr ⟨[], after, hcut, rfl⟩)
  have hright : Insertion.escaped.opener ++ right.behindBraces = right :=
    Insertion.opener_append_behindBraces hbraces
  rw [← hright] at henc
  rw [henc.cut_inside] at hcut
  cases hcut
  cases htag

/-! ## Shielded expressions -/

/-- What the reader of markup takes for an expression is one for the interpolation as well, if it comes there. -/
theorem read?_of_shielded? {body rest : Text}
    (h : Markup.shielded? right = some ((Insertion.opening right).around body, rest)) (hbody : body.allBlank = false) :
    Region.read? right = some (⟨Insertion.opening right, body.trim, (Insertion.opening right).around body⟩, rest) := by
  obtain ⟨inner, henc, hmark, -, haround⟩ := Markup.shielded?_eq_some_iff.mp h
  obtain rfl : body = inner := List.append_cancel_left (List.append_cancel_right haround)
  have hclosed : Region.closed? (Insertion.opening right) right =
      some (⟨Insertion.opening right, body.trim, (Insertion.opening right).around body⟩, rest) :=
    Region.closed?_eq_some_iff.mpr ⟨body, body.trim, henc, hmark, by simp [Region.expressionIn?, hbody], rfl⟩
  rw [Region.read?_eq]
  by_cases hraw : Insertion.raw.opener.isPrefixOf right = true
  · have hopening : Insertion.opening right = .raw := if_pos hraw
    rw [hopening] at hclosed ⊢
    rw [hclosed, Option.some_or]
  · have hopening : Insertion.opening right = .escaped := if_neg hraw
    rw [hopening] at hclosed ⊢
    have hnone : Region.closed? .raw right = none := by
      rw [← Option.not_isSome_iff_eq_none, Option.isSome_iff_exists]
      rintro ⟨⟨r, after⟩, hr⟩
      obtain ⟨_, _, henc, -⟩ := Region.closed?_eq_some_iff.mp hr
      exact hraw (List.isPrefixOf_iff_prefix.mpr ⟨_, henc.text_eq.symm⟩)
    rw [hnone, Option.none_or, hclosed]

/-- With one more brace in front, a region would begin at that brace. -/
theorem isSome_read?_brace_of_shielded? {body rest : Text}
    (h : Markup.shielded? right = some ((Insertion.opening right).around body, rest)) (hbody : body.allBlank = false)
    (hle : right.braces ≤ 3) : (Region.read? ('\x7b' :: right)).isSome = true := by
  have hsome : (Region.read? right).isSome = true := by rw [read?_of_shielded? h hbody]; rfl
  have hbrace :
      ('\x7b' : CodePoint) :: right = List.replicate (1 + right.braces) ('\x7b' : CodePoint) ++ right.behindBraces :=
    Text.replicate_append_eq 1 right
  rw [← Text.replicate_braces_append right, Region.isSome_read?_braces right.head?_behindBraces] at hsome
  rw [hbrace, Region.isSome_read?_braces right.head?_behindBraces]
  rcases hsome with ⟨htwo, hcloses, -⟩ | ⟨hthree, -⟩ | ⟨hfour, -⟩
  · exact .inr (.inl ⟨by omega, hcloses⟩)
  · -- the reader of markup has asked for three braces that close the three
    have hopening : Insertion.opening right = .raw := Insertion.opening_of_le (by omega)
    obtain ⟨inner, henc, hmark, -⟩ := Markup.shielded?_eq_some_iff.mp h
    have hright : Insertion.raw.opener ++ right.behindBraces = right := Insertion.opener_append_behindBraces hthree
    rw [hopening, ← hright] at henc
    exact .inr (.inr ⟨by omega, Insertion.closes_iff.mpr ⟨inner, rest, henc.cut_inside, hmark⟩⟩)
  · omega

/-- A shielded expression is a region of the text exactly if no run of at most four braces begins in front of it. -/
theorem shows_region_iff {body rest : Text} (hopener : Insertion.escaped.opener <+: right)
    (h : Markup.shielded? right = some ((Insertion.opening right).around body, rest)) (hbody : body.allBlank = false) :
    Shows left right [.region ⟨Insertion.opening right, body.trim, (Insertion.opening right).around body⟩] ↔
      ¬ (left.getLast? = some ('\x7b' : CodePoint) ∧ right.braces ≤ 3) := by
  have hread := read?_of_shielded? h hbody
  rw [shows_iff]
  constructor
  · rintro ⟨read, back, hscans, -⟩ ⟨hlast, hle⟩
    obtain rfl : Segment.sources read = left := List.append_cancel_right hscans.source_eq
    have hsome := isSome_read?_brace_of_shielded? h hbody hle
    rw [hscans.read?_eq_none hlast] at hsome
    cases hsome
  · intro hnot
    have hscans : ∃ read, Scans (left ++ right) read right := by
      rcases (Scans.start (s := left ++ right)).or_crosses hopener with hs | ⟨k, hk, -, ⟨front, hfront⟩, hsome⟩
      · exact hs
      · exfalso
        have hlast : left.getLast? = some ('\x7b' : CodePoint) := by
          obtain ⟨m, rfl⟩ := Nat.exists_eq_add_of_le' hk
          rw [← hfront, List.replicate_succ', ← List.append_assoc, List.getLast?_concat]
        have hlong : 3 < right.braces := Nat.lt_of_not_le fun hle => hnot ⟨hlast, hle⟩
        rw [Text.replicate_append_eq, Region.isSome_read?_braces right.head?_behindBraces] at hsome
        omega
    obtain ⟨read, hscans⟩ := hscans
    exact ⟨read, segments rest, hscans, segments_of_read? hread⟩

/-! ## Every place of a source -/

namespace Markup

variable {source s : Text} {read : List Piece}

theorem opener_prefix_around (insertion : Insertion) (body : Text) : opener <+: insertion.around body := by
  cases insertion with
  | raw => exact ⟨'\x7b' :: (body ++ Insertion.raw.closer), by simp [Insertion.around, opener, Insertion.opener]⟩
  | escaped => exact ⟨body ++ Insertion.escaped.closer, by simp [Insertion.around, opener, Insertion.opener]⟩

/-- The piece at two braces is what they shield, or only they. -/
theorem exists_piece_of_opener (hopener : opener <+: s) : ∃ c rest piece, s = c :: rest ∧
    (first c rest).1 = .text piece ∧ opener <+: piece ∧
      ∀ shielded after, shielded? s = some (shielded, after) → piece = shielded := by
  obtain ⟨rest, rfl⟩ := hopener
  have hp : opener.isPrefixOf? ('\x7b' :: '\x7b' :: rest) = some rest := Text.isPrefixOf?_append opener rest
  have hs : shielded? (opener ++ rest) = shielded? ('\x7b' :: '\x7b' :: rest) := rfl
  cases h : shielded? (opener ++ rest) with
  | none =>
    have hfirst : (first '\x7b' ('\x7b' :: rest)).1 = .text opener := by
      rw [first, if_neg (by decide), hp, ← hs, h]
    exact ⟨_, _, opener, rfl, hfirst, List.prefix_refl _, fun _ _ heq => by cases heq⟩
  | some found =>
    obtain ⟨shielded, after⟩ := found
    have hfirst : (first '\x7b' ('\x7b' :: rest)).1 = .text shielded := by
      rw [first, if_neg (by decide), hp, ← hs, h]
    refine ⟨_, _, shielded, rfl, hfirst, ?_, fun _ _ heq => by cases heq; rfl⟩
    obtain ⟨body, -, -, -, hsource⟩ := shielded?_eq_some_iff.mp h
    rw [hsource]
    exact opener_prefix_around _ body

/-- How two braces in front of what is left of a source are rendered in the text of the tree that has `left` in front of
them and `right` from them on. -/
structure RenderedAt (s left right : Text) : Prop where
  /-- Braces that shield nothing stay as they are exactly if the text does not close them. -/
  stray : shielded? s = none → (Shows left right (opener.map .literal) ↔ right.bracesClose = false)
  /-- If the text closes them, there are more than two, or a tag has stayed in the text between them. -/
  tag_of_stray : shielded? s = none → right.bracesClose = true → right.braces = 2 →
    ∃ body rest, Insertion.escaped.Encloses right body rest ∧ hasTag body = true
  /-- A shielded expression is evaluated as it stands exactly if no brace is right in front of two or three. -/
  shielded : ∀ body rest, shielded? s = some ((Insertion.opening s).around body, rest) → body.allBlank = false →
    (Shows left right [.region ⟨Insertion.opening s, body.trim, (Insertion.opening s).around body⟩] ↔
      ¬ (left.getLast? = some ('\x7b' : CodePoint) ∧ right.braces ≤ 3))

/-- **How braces are rendered.** Wherever the reader of markup meets two braces in a source, a text of the tree goes
through the place, and what the reader has made of the braces and what stands around them in that text tell whether
they stay as they are or their expression is evaluated. -/
theorem braces_rendered (hstands : Stands source read s) (hopener : opener <+: s) :
    ∃ (before after : List Part) (left right : Text),
      Node.partsOf (parse source) = before ++ .text (left ++ right) :: after ∧
        Part.sources before ++ left = read.flatMap Piece.source ∧ right ++ Part.sources after = s ∧
          RenderedAt s left right := by
  obtain ⟨c, others, piece, rfl, hfirst, hpiece, hshielded⟩ := exists_piece_of_opener hopener
  obtain ⟨before, after, left, right, hparts, hbefore, hafter⟩ := exists_text_parse hstands hfirst
  have hright : opener <+: piece ++ right := hpiece.trans (List.prefix_append _ _)
  refine ⟨before, after, left, piece ++ right, hparts, hbefore, hafter, fun hnone => ?_, fun hnone hclose htwo => ?_,
    fun body rest hsome hbody => ?_⟩
  · rw [← hafter] at hnone
    exact shows_opener_iff hright (not_empty_of_stray hnone)
  · rw [← hafter] at hnone
    refine hasTag_of_stray hnone htwo ?_
    rcases Text.bracesClose_iff.mp hclose with ⟨-, hcloses⟩ | ⟨hfive, -⟩
    · exact hcloses
    · omega
  · have hpiece := hshielded _ _ hsome
    have hsource : (Insertion.opening (c :: others)).around body ++ (right ++ Part.sources after) = c :: others := by
      rw [← hpiece, ← List.append_assoc, hafter]
    have hopening : Insertion.opening (piece ++ right) = Insertion.opening (c :: others) := by
      conv_rhs => rw [← hsource]
      rw [hpiece]
      exact opening_around_append _ _ _ _
    have hrest : rest = right ++ Part.sources after :=
      List.append_cancel_left ((append_of_shielded? hsome).symm.trans hsource.symm)
    have hthere : shielded? (piece ++ right) = some ((Insertion.opening (piece ++ right)).around body, right) := by
      rw [hopening, hpiece]
      rw [hrest] at hsome
      exact shielded?_append_other (by rw [hsource]; exact hsome) right
    rw [← hopening]
    exact shows_region_iff hright hthere hbody

/-- Braces in an element, with the close tag of the element between them. -/
def boldSource : Text := "<b>\x7b\x7b a </b> \x7d\x7d".text

theorem braces_rendered_bold :
    Stands boldSource [.opening ⟨['b'], [], "<b>".text, false⟩] (boldSource.drop 3) ∧
      opener <+: boldSource.drop 3 ∧
      ∃ (before after : List Part) (left right : Text),
        Node.partsOf (parse boldSource) = before ++ .text (left ++ right) :: after ∧
          Part.sources before ++ left = "<b>".text ∧ right ++ Part.sources after = boldSource.drop 3 ∧
            RenderedAt (boldSource.drop 3) left right := by
  have hstands : Stands boldSource [.opening ⟨['b'], [], "<b>".text, false⟩] (boldSource.drop 3) := by
    have hfirst : first '<' boldSource.tail =
        (.opening ⟨['b'], [], "<b>".text, false⟩, boldSource.drop 3) := by decide +kernel
    have h : Stands boldSource [] ('<' :: boldSource.tail) := .start
    have hstep := h.step
    rw [hfirst] at hstep
    exact hstep
  have hopener : opener <+: boldSource.drop 3 := ⟨boldSource.drop 5, rfl⟩
  exact ⟨hstands, hopener, braces_rendered hstands hopener⟩

/-- Braces that shield nothing and are evaluated nevertheless: two of three of them, and a tag between them that ends
nothing. -/
theorem stray_braces_evaluated :
    let three := "\x7b\x7b\x7b a \x7d\x7d".text
    let tagged := "\x7b\x7b 'x</b>' \x7d\x7d".text
    (shielded? three = none ∧ Node.partsOf (parse three) = [.text three] ∧
        Shows [] three [.region ⟨.escaped, "\x7b a".text, three⟩]) ∧
      shielded? tagged = none ∧ Node.partsOf (parse tagged) = [.text tagged] ∧
        Shows [] tagged [.region ⟨.escaped, "'x</b>'".text, tagged⟩] := by
  refine ⟨⟨by decide +kernel, by decide +kernel, shows_iff.mpr ⟨[], [], .start, by decide +kernel⟩⟩,
    by decide +kernel, by decide +kernel, shows_iff.mpr ⟨[], [], .start, by decide +kernel⟩⟩

end Markup

end HtmlTemplate
