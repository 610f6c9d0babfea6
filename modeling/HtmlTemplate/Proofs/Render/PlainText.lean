import HtmlTemplate.Proofs.Except
import HtmlTemplate.Proofs.Interpolation.Agreement
import HtmlTemplate.Proofs.Markup.RoundTrip
import HtmlTemplate.Proofs.Markup.Trailing
import HtmlTemplate.Proofs.Render.Untouched
import HtmlTemplate.Proofs.Text.Normal
import Mathlib.Algebra.Module.Submodule.Lattice
import Mathlib.Computability.Primrec.List

/-!
# Expressions in plain text

A plain text has no `<` and no opening brace in it. Expressions between plain texts may have both, as long as they are
no markup: both readers of braces find the regions where they were written (`Passage.shielded?_source`,
`Passage.read?_source`), and the source is one text to the reader of markup. So what is evaluated is what was written,
in its order, and the plain texts come out as they are (`render_passages`).
-/

namespace HtmlTemplate

/-- Whether a text has nothing in it that begins a tag or a region. -/
structure Text.IsPlain (s : Text) : Prop where
  tag : ('<' : CodePoint) ∉ s
  brace : ('\x7b' : CodePoint) ∉ s

/-- An expression in braces, with a space at each of its ends, and the plain text behind it. -/
structure Passage where
  insertion : Insertion
  expression : Text
  behind : Text
  deriving DecidableEq, Repr

namespace Passage

/-- What stands between the braces. -/
def body (p : Passage) : Text := ' ' :: (p.expression ++ ([' '] : Text))

/-- The region that is written. -/
def region (p : Passage) : Region := ⟨p.insertion, p.expression, p.insertion.around p.body⟩

/-- How a passage is written. -/
def source (p : Passage) : Text := p.insertion.around p.body ++ p.behind

/-- What a passage stands for: what its expression shows, and the text behind it. -/
def html (scope : Scope) (p : Passage) : Except RenderError Text :=
  match evaluate p.expression scope with
  | .error e => .error (.expression e)
  | .ok v =>
    match v.display with
    | .error e => .error (.display e)
    | .ok shown => .ok (p.insertion.insert shown ++ p.behind)

/-- The expression is not empty, has no blanks at its ends and no two braces of a kind in it, and no tag that the reader
of markup takes for one; the text behind it is plain. -/
structure Proper (p : Passage) : Prop where
  ne_nil : p.expression ≠ []
  firm : p.expression.Firm
  opener : Text.hasMark ['\x7b', '\x7b'] p.expression = false
  closer : Text.hasMark ['\x7d', '\x7d'] p.expression = false
  tag : Markup.hasTag p.expression = false
  behind : p.behind.IsPlain

namespace Proper

variable {p : Passage} (h : p.Proper)

include h

theorem trim_body : p.body.trim = p.expression := by
  obtain ⟨c, rest, hc⟩ := List.exists_cons_of_ne_nil h.ne_nil
  have hspace : isBlank ' ' = true := by decide
  have hfront : isBlank c = false := h.firm.front c (by rw [hc]; rfl)
  have hleft : p.body.trimLeft = p.expression ++ ([' '] : Text) := by
    rw [Text.trimLeft, body, List.dropWhile_cons_of_pos hspace, hc]
    exact List.dropWhile_cons_of_neg (by simp [hfront])
  rw [Text.trim, hleft, Text.trimRight_eq, List.rdropWhile_concat_pos _ _ _ hspace, List.rdropWhile_eq_self_iff]
  exact fun hne => by simpa using h.firm.back _ (List.getLast?_eq_some_getLast hne)

theorem allBlank_body : p.body.allBlank = false := by
  rw [← Bool.not_eq_true, ← Text.trim_eq_nil_iff, h.trim_body]
  exact h.ne_nil

omit h in
/-- A mark without spaces is in the expression or behind the space that follows it. -/
theorem infix_body {mark tail : Text} (hspace : (' ' : CodePoint) ∉ mark) (hne : mark ≠ [])
    (hmark : mark <:+: p.body ++ tail) : mark <:+: p.expression ∨ mark <:+: tail := by
  have hbody : p.body ++ tail = [] ++ (' ' : CodePoint) :: (p.expression ++ (' ' : CodePoint) :: tail) := by simp [body]
  rw [hbody] at hmark
  rcases Text.infix_append_cons hspace hmark with hmark | hmark
  · exact absurd (List.infix_nil.mp hmark) hne
  · exact Text.infix_append_cons hspace hmark

theorem hasMark_body : Text.hasMark Markup.opener p.body = false := by
  rw [Text.hasMark_eq_false_iff]
  intro hmark
  rw [← List.append_nil p.body] at hmark
  have hspace : (' ' : CodePoint) ∉ Markup.opener := by decide
  have hne : Markup.opener ≠ [] := by decide
  rcases infix_body hspace hne hmark with hmark | hmark
  · exact Text.hasMark_eq_false_iff.mp h.opener hmark
  · exact hne (List.infix_nil.mp hmark)

theorem encloses (rest : Text) : p.insertion.Encloses (p.insertion.around p.body ++ rest) p.body rest where
  text_eq := Insertion.around_append _ _ _
  cut_eq := by
    have hspace : (' ' : CodePoint) ∉ p.insertion.closer := by cases p.insertion <;> decide
    have hne : p.insertion.closer ≠ [] := by cases p.insertion <;> decide
    have hshort : (['\x7d', '\x7d'] : Text) <:+: p.insertion.closer := by cases p.insertion <;> decide
    refine Text.cut?_of_not_infix (fun hmark => ?_) rest
    rcases infix_body hspace hne hmark with hmark | hmark
    · exact Text.hasMark_eq_false_iff.mp h.closer (hshort.trans hmark)
    · have hle := hmark.length_le
      have hpos := List.length_pos_iff.mpr hne
      rw [List.length_dropLast] at hle
      omega

omit h in
theorem opening_source (rest : Text) : Insertion.opening (p.insertion.around p.body ++ rest) = p.insertion := by
  obtain ⟨insertion, expression, behind⟩ := p
  cases insertion <;> rfl

/-- The reader of markup finds the region. -/
theorem shielded?_source (rest : Text) :
    Markup.shielded? (p.insertion.around p.body ++ rest) = some (p.insertion.around p.body, rest) := by
  rw [Markup.shielded?_eq_some_iff, opening_source]
  exact ⟨p.body, h.encloses rest, h.hasMark_body, (Markup.hasTag_spaced _).trans h.tag, rfl⟩

/-- The interpolation finds the region. -/
theorem read?_source (rest : Text) : Region.read? (p.insertion.around p.body ++ rest) = some (p.region, rest) := by
  have hopening : Insertion.opening (p.insertion.around p.body ++ rest) = p.insertion := opening_source rest
  have hshielded : Markup.shielded? (p.insertion.around p.body ++ rest) =
      some ((Insertion.opening (p.insertion.around p.body ++ rest)).around p.body, rest) := by
    rw [hopening]
    exact h.shielded?_source rest
  have hread := read?_of_shielded? hshielded h.allBlank_body
  rwa [hopening, h.trim_body] at hread

end Proper

/-- The segments of a passage. -/
def segments (p : Passage) : List Segment := .region p.region :: p.behind.map .literal

end Passage

/-! ## The readers on passages -/

section Readers

variable {s : Text} {passages : List Passage}

/-- No region begins in a plain text. -/
theorem segments_plain (h : s.IsPlain) (rest : Text) : segments (s ++ rest) = s.map .literal ++ segments rest := by
  have hbrace := h.brace
  clear h
  induction s with
  | nil => rfl
  | cons c s ih =>
    rw [List.mem_cons, not_or] at hbrace
    have hnone : Region.read? (c :: (s ++ rest)) = none := by
      rw [← Option.not_isSome_iff_eq_none]
      intro hsome
      have hhead : (c :: (s ++ rest)).head? ≠ some '\x7b' := by simpa using Ne.symm hbrace.1
      rcases (Region.isSome_read?_braces hhead 0).mp hsome with ⟨h, -⟩ | ⟨h, -⟩ | ⟨h, -⟩ <;> cases h
    rw [List.cons_append, segments_cons hnone, ih hbrace.2]
    rfl

/-- The interpolation reads the regions that were written. -/
theorem segments_passages (h : ∀ p ∈ passages, p.Proper) :
    segments (passages.flatMap Passage.source) = passages.flatMap Passage.segments := by
  induction passages with
  | nil => rfl
  | cons p rest ih =>
    obtain ⟨hp, hrest⟩ := List.forall_mem_cons.mp h
    rw [List.flatMap_cons, List.flatMap_cons, Passage.source, List.append_assoc,
      segments_of_read? (hp.read?_source _), segments_plain hp.behind, ih hrest]
    rfl

namespace Markup

/-- The text is only text to the reader of markup. -/
def OnlyText (s : Text) : Prop := ∀ piece ∈ pieces s, ∃ t, piece = .text t

theorem onlyText_plain (h : s.IsPlain) {rest : Text} (hrest : OnlyText rest) : OnlyText (s ++ rest) := by
  obtain ⟨htag, hbrace⟩ := h
  induction s with
  | nil => exact hrest
  | cons c s ih =>
    rw [List.mem_cons, not_or] at htag hbrace
    have hopener : opener.isPrefixOf? (c :: (s ++ rest)) = none := by
      simp [opener, List.isPrefixOf?, hbrace.1]
    rw [List.cons_append, OnlyText, pieces_cons, first_letter (Ne.symm htag.1) hopener]
    exact List.forall_mem_cons.mpr ⟨⟨[c], rfl⟩, ih htag.2 hbrace.2⟩

/-- What is shielded is a text. -/
theorem onlyText_shielded {shielded rest : Text} (hopener : opener <+: shielded)
    (h : shielded? (shielded ++ rest) = some (shielded, rest)) (hrest : OnlyText rest) : OnlyText (shielded ++ rest) := by
  obtain ⟨c, others, piece, heq, hfirst, -, hpiece⟩ := exists_piece_of_opener (hopener.trans (List.prefix_append _ rest))
  obtain rfl := hpiece _ _ h
  have hsource := source_first c others
  rw [hfirst, ← heq] at hsource
  rw [OnlyText, heq, pieces_cons, hfirst, List.append_cancel_left hsource]
  exact List.forall_mem_cons.mpr ⟨⟨piece, rfl⟩, hrest⟩

theorem onlyText_passages (h : ∀ p ∈ passages, p.Proper) : OnlyText (passages.flatMap Passage.source) := by
  induction passages with
  | nil => exact nofun
  | cons p rest ih =>
    obtain ⟨hp, hrest⟩ := List.forall_mem_cons.mp h
    rw [List.flatMap_cons, Passage.source, List.append_assoc]
    exact onlyText_shielded (opener_prefix_around _ _) (hp.shielded?_source _) (onlyText_plain hp.behind (ih hrest))

theorem foldl_add_texts {ps : List Piece} (h : ∀ piece ∈ ps, ∃ t, piece = .text t) (a : Assembly) :
    ps.foldl Assembly.add a = ⟨(ps.map fun piece => Node.text piece.source).reverse ++ a.nodes, a.frames⟩ := by
  induction ps generalizing a with
  | nil => rfl
  | cons piece rest ih =>
    obtain ⟨⟨t, rfl⟩, hrest⟩ := List.forall_mem_cons.mp h
    rw [List.foldl_cons, ih hrest]
    simp [Assembly.add, Piece.source]

theorem siblings_texts (ps : List Piece) : Node.siblings (ps.map fun piece => Node.text piece.source) =
    if ps.flatMap Piece.source = [] then [] else [.text (ps.flatMap Piece.source)] := by
  induction ps with
  | nil => rfl
  | cons piece rest ih =>
    rw [List.map_cons, List.flatMap_cons, Node.siblings, List.foldr_cons, ← Node.siblings, ih]
    cases piece.source with
    | nil => rw [Node.cons, List.nil_append]
    | cons c t =>
      have hne : c :: t ++ rest.flatMap Piece.source ≠ [] := List.cons_ne_nil _ _
      rw [if_neg hne]
      split
      · next hnil => rw [hnil, List.append_nil]; rfl
      · rfl

/-- The tree of what is only text. -/
theorem parse_of_onlyText (h : OnlyText s) : parse s = if s = [] then [] else [.text s] := by
  rw [parse, foldl_add_texts h, Assembly.finish, Assembly.empty]
  simp only [Assembly.abandon, List.foldl_nil, List.append_nil, List.reverse_reverse, siblings_texts, source_pieces]

theorem segmentsOf_parse (h : OnlyText s) : Node.segmentsOf (parse s) = segments s ∧ Node.tagsOf (parse s) = [] := by
  rw [parse_of_onlyText h]
  split
  · next hnil =>
    subst hnil
    exact ⟨rfl, rfl⟩
  · exact ⟨List.append_nil _, rfl⟩

end Markup

end Readers

/-! ## Rendering passages -/

/-- A passage evaluates its expression, and does nothing else. -/
theorem Passage.renderSegments_segments (p : Passage) (ctx : Context) :
    renderSegments p.segments ctx = ⟨p.html ctx.scope, Event.ofShown p.expression ctx.scope⟩ := by
  rw [segments, renderSegments, Segment.render, Region.render, Rendering.evaluateCounted, Rendering.evaluate,
    renderSegments_literals, html, Event.ofShown]
  simp only [region, Rendering.display, Traced.andThen_assoc]
  cases evaluate p.expression ctx.scope with
  | error e => rfl
  | ok v =>
    simp only [Except.mapError, Traced.ofResult, Traced.done_andThen]
    cases v.display <;> rfl

/-- Passages evaluate their expressions in order. -/
theorem renderSegments_passages {passages : List Passage} {texts : List Text} {ctx : Context}
    (h : passages.mapM (Passage.html ctx.scope) = .ok texts) :
    renderSegments (passages.flatMap Passage.segments) ctx =
      ⟨.ok texts.flatten, passages.flatMap fun p => Event.ofShown p.expression ctx.scope⟩ := by
  induction passages generalizing texts with
  | nil =>
    cases h
    rfl
  | cons p rest ih =>
    rw [mapM_cons_except] at h
    cases hp : p.html ctx.scope with
    | error e =>
      rw [hp] at h
      cases h
    | ok text =>
      cases hrest : rest.mapM (Passage.html ctx.scope) with
      | error e =>
        rw [hp, hrest] at h
        cases h
      | ok others =>
        rw [hp, hrest] at h
        cases h
        rw [List.flatMap_cons, renderSegments_append, Passage.renderSegments_segments, hp, ih hrest]
        rfl

/-- The first passage that fails ends the rendering. -/
theorem renderSegments_passages_error {before after : List Passage} {p : Passage} {e : RenderError} {ctx : Context}
    (hbefore : ∀ q ∈ before, ∃ t, q.html ctx.scope = .ok t) (hp : p.html ctx.scope = .error e) :
    renderSegments ((before ++ p :: after).flatMap Passage.segments) ctx =
      ⟨.error e, (before ++ [p]).flatMap fun q => Event.ofShown q.expression ctx.scope⟩ := by
  obtain ⟨texts, hbefore⟩ := exists_mapM_eq_ok hbefore
  rw [List.flatMap_append, renderSegments_append, renderSegments_passages hbefore, List.flatMap_cons,
    renderSegments_append, Passage.renderSegments_segments, hp, List.flatMap_append]
  rfl

theorem withoutMark_of_head? {s : Text} (h : s.head? ≠ some byteOrderMark) : withoutMark s = s := by
  cases s with
  | nil => rfl
  | cons c rest => exact if_neg fun hc => h (by rw [hc]; rfl)

/-- A source of passages has no mark in front of it if its first text has none. -/
theorem withoutMark_passages {front : Text} (hmark : front.head? ≠ some byteOrderMark) (passages : List Passage) :
    withoutMark (front ++ passages.flatMap Passage.source) = front ++ passages.flatMap Passage.source := by
  apply withoutMark_of_head?
  cases front with
  | cons c rest => exact hmark
  | nil =>
    cases passages with
    | nil => exact nofun
    | cons p rest =>
      obtain ⟨insertion, expression, behind⟩ := p
      cases insertion <;> exact fun h => absurd (Option.some.inj h) (by decide)

/-- A source of passages is rendered like its segments. -/
theorem render_eq_renderSegments {front : Text} {passages : List Passage} (hfront : front.IsPlain)
    (hmark : front.head? ≠ some byteOrderMark) (h : ∀ p ∈ passages, p.Proper) (ctx : Context) :
    render (front ++ passages.flatMap Passage.source) ctx =
      (renderSegments (passages.flatMap Passage.segments) ctx).map (front ++ ·) := by
  obtain ⟨hsegments, htags⟩ := Markup.segmentsOf_parse (Markup.onlyText_plain hfront (Markup.onlyText_passages h))
  rw [render, renderBy, renderWithin, withoutMark_passages hmark, renderNodes_of_unclaimed _ (by simp [htags]),
    hsegments, segments_plain hfront, segments_passages h, renderSegments_append, renderSegments_literals]
  exact Traced.done_andThen _ _

/-- **Expressions reach the evaluator as they are.** Let a source be plain texts with expressions in braces between
them, and no mark in front. If every expression is displayed, the rendering evaluates just these texts, in order, and
puts what each one shows in the place of its region. Otherwise it evaluates them up to the first that is not displayed,
and fails with the error of that one. -/
theorem render_passages {front : Text} {passages : List Passage} (hfront : front.IsPlain)
    (hmark : front.head? ≠ some byteOrderMark) (h : ∀ p ∈ passages, p.Proper) (ctx : Context) :
    (∀ texts, passages.mapM (Passage.html ctx.scope) = .ok texts →
      render (front ++ passages.flatMap Passage.source) ctx =
        ⟨.ok (front ++ texts.flatten), passages.flatMap fun p => Event.ofShown p.expression ctx.scope⟩) ∧
    ∀ e, passages.mapM (Passage.html ctx.scope) = .error e →
      ∃ before p after, passages = before ++ p :: after ∧ (∀ q ∈ before, ∃ t, q.html ctx.scope = .ok t) ∧
        p.html ctx.scope = .error e ∧
        render (front ++ passages.flatMap Passage.source) ctx =
          ⟨.error e, (before ++ [p]).flatMap fun q => Event.ofShown q.expression ctx.scope⟩ := by
  refine ⟨fun texts htexts => ?_, fun e he => ?_⟩
  · rw [render_eq_renderSegments hfront hmark h, renderSegments_passages htexts]
    rfl
  · obtain ⟨before, p, after, rfl, hbefore, hp⟩ := mapM_eq_error_iff.mp he
    refine ⟨before, p, after, rfl, hbefore, hp, ?_⟩
    rw [render_eq_renderSegments hfront hmark h, renderSegments_passages_error hbefore hp]
    rfl

/-- An expression with something in it that looks like a tag. -/
def boldPassage : Passage := ⟨.escaped, "'<b>' ?? t".text, " > ".text⟩

/-- An expression that ends too early. -/
def brokenPassage : Passage := ⟨.raw, "1 <".text, "\x7d".text⟩

theorem boldPassage_proper : boldPassage.Proper where
  ne_nil := by decide
  firm := ⟨by rintro _ ⟨⟩; decide, by rintro _ ⟨⟩; decide⟩
  opener := by decide
  closer := by decide
  tag := by decide +kernel
  behind := ⟨by decide, by decide⟩

theorem brokenPassage_proper : brokenPassage.Proper where
  ne_nil := by decide
  firm := ⟨by rintro _ ⟨⟩; decide, by rintro _ ⟨⟩; decide⟩
  opener := by decide
  closer := by decide
  tag := by decide
  behind := ⟨by decide, by decide⟩

set_option maxRecDepth 4000 in
theorem render_passages_bold :
    render "x \x7b\x7b '<b>' ?? t \x7d\x7d > ".text leafletContext =
        ⟨.ok "x &lt;b&gt; > ".text, [.counted, .evaluated "'<b>' ?? t".text (.ok (.string "<b>".text))]⟩ ∧
      render "\x7b\x7b '<b>' ?? t \x7d\x7d > \x7b\x7b\x7b 1 < \x7d\x7d\x7d\x7d".text leafletContext =
        ⟨.error (.expression (.malformed "1 <".text ⟨.unexpectedEnd, 3⟩)),
          [.counted, .evaluated "'<b>' ?? t".text (.ok (.string "<b>".text)), .counted,
            .evaluated "1 <".text (.error (.malformed "1 <".text ⟨.unexpectedEnd, 3⟩))]⟩ := by
  have hbold : boldPassage.html leafletContext.scope = .ok "&lt;b&gt; > ".text := by cbv
  have hbroken : brokenPassage.html leafletContext.scope =
      .error (.expression (.malformed "1 <".text ⟨.unexpectedEnd, 3⟩)) := by cbv
  have hone : [boldPassage].mapM (Passage.html leafletContext.scope) = .ok ["&lt;b&gt; > ".text] := by
    rw [mapM_cons_except, hbold]
    rfl
  have hx : Text.IsPlain "x ".text := ⟨by decide, by decide⟩
  have hboth : ∀ p ∈ [boldPassage, brokenPassage], p.Proper := by
    simpa using ⟨boldPassage_proper, brokenPassage_proper⟩
  have hshown := (render_passages hx (by decide) (by simpa using boldPassage_proper) leafletContext).1 _ hone
  have hboth' : [boldPassage, brokenPassage].mapM (Passage.html leafletContext.scope) =
      .error (.expression (.malformed "1 <".text ⟨.unexpectedEnd, 3⟩)) := by
    rw [mapM_cons_except, mapM_cons_except, hbold, hbroken]
    rfl
  obtain ⟨before, p, after, heq, -, hp, hfails⟩ :=
    (render_passages ⟨List.not_mem_nil, List.not_mem_nil⟩ (by decide) hboth leafletContext).2 _ hboth'
  obtain ⟨rfl, rfl⟩ : before = [boldPassage] ∧ p = brokenPassage := by
    rcases before with _ | ⟨q, _ | ⟨r, before⟩⟩
    · obtain ⟨rfl, -⟩ := List.cons.inj heq
      rw [hbold] at hp
      cases hp
    · obtain ⟨rfl, hrest⟩ := List.cons.inj heq
      exact ⟨rfl, (List.cons.inj hrest).1.symm⟩
    · simp at heq
  have hsource : "x ".text ++ [boldPassage].flatMap Passage.source = "x \x7b\x7b '<b>' ?? t \x7d\x7d > ".text := by
    decide
  have hsource' : [] ++ [boldPassage, brokenPassage].flatMap Passage.source =
      "\x7b\x7b '<b>' ?? t \x7d\x7d > \x7b\x7b\x7b 1 < \x7d\x7d\x7d\x7d".text := by decide
  have hvalue : evaluate "'<b>' ?? t".text leafletContext.scope = .ok (.string "<b>".text) := by cbv
  have hnone : evaluate "1 <".text leafletContext.scope = .error (.malformed "1 <".text ⟨.unexpectedEnd, 3⟩) := by
    cbv
  rw [hsource] at hshown
  rw [hsource'] at hfails
  simp only [List.flatMap_cons, List.flatMap_nil, List.cons_append, List.nil_append, boldPassage, brokenPassage,
    Event.ofShown, hvalue, hnone] at hshown hfails
  exact ⟨hshown, hfails⟩

end HtmlTemplate
