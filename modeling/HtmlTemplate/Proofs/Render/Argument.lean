import HtmlTemplate.Proofs.Interpolation.Segments
import HtmlTemplate.Proofs.Render.Basic

/-!
# Arguments that are expressions

A region fills a text if the text is nothing but its expression in braces and only the last braces close it
(`Region.Fills`). Then the text, as the value of an argument, is evaluated, and any text that no region fills is passed
as it is (`Region.whole?_of_fills`, `Region.fills_of_whole?`). The interpolation takes the same text for one region
exactly if no braces open again inside of it (`segments_eq_region_iff`). So where both read one expression it is the
same one, and what the interpolation shows is the value that is passed (`argument_agrees_with_text`).
-/

namespace HtmlTemplate

/-! ## Texts that are one region -/

/-- Where three braces are closed by three, two of them are closed before the end of the text. -/
theorem Insertion.not_encloses_escaped {s body after inner : Text} (hraw : Insertion.raw.Encloses s body after) :
    ¬ Insertion.escaped.Encloses s inner [] := by
  intro hescaped
  have hshorter : Insertion.escaped.closer <+: Insertion.raw.closer := ⟨['\x7d'], rfl⟩
  obtain ⟨front, rest, hcut, more, hbody⟩ := Text.cut?_of_prefix hshorter hraw.cut_eq
  have hs : s = Insertion.escaped.opener ++ (('\x7b' : CodePoint) :: (body ++ Insertion.raw.closer ++ after)) :=
    hraw.text_eq
  rw [hs] at hescaped
  -- the first two closing braces are the same for the reader that has one brace more in front of them
  have hinner := hescaped.cut_inside
  have hfirst := not_closer_prefix_brace Insertion.escaped (body ++ Insertion.raw.closer ++ after)
  rw [Text.cut?_cons_eq_some_iff hfirst] at hinner
  obtain ⟨front', -, hcut'⟩ := hinner
  rw [hcut] at hcut'
  cases hcut'
  have hlength := congrArg List.length (Text.append_of_cut? hcut)
  simp only [List.length_append, ← hbody, Insertion.closer, List.length_cons, List.length_nil] at hlength
  omega

namespace Region

variable {r : Region} {s : Text}

/-- The text is the expression of the region in braces of its kind, and nothing else; no other braces of the text close
it, but some may open again inside of it. -/
def Fills (r : Region) (s : Text) : Prop :=
  ∃ body, r.insertion.Encloses s body [] ∧ expressionIn? body = some r.expression ∧ r.source = s

theorem fills_iff_enclosed? : r.Fills s ↔ enclosed? r.insertion s = some (r, []) := by
  rw [enclosed?_eq_some_iff]
  constructor
  · rintro ⟨body, henc, he, hsource⟩
    refine ⟨body, r.expression, henc, he, ?_⟩
    have hs : s = r.insertion.around body := by simpa [Insertion.around] using henc.text_eq
    rw [← hs, ← hsource]
  · rintro ⟨body, expression, henc, he, hr⟩
    have hs : s = r.insertion.around body := by simpa [Insertion.around] using henc.text_eq
    refine ⟨body, henc, ?_, ?_⟩
    · rw [hr]
      exact he
    · rw [hs, hr]

/-- Three braces are read at no text that a region in two of them fills. -/
theorem enclosed?_raw_eq_none (h : r.Fills s) (hr : r.insertion = .escaped) : enclosed? .raw s = none := by
  obtain ⟨inner, hescaped, -, -⟩ := h
  rw [hr] at hescaped
  rw [Option.eq_none_iff_forall_ne_some]
  rintro ⟨other, after⟩ hother
  obtain ⟨body, -, hraw, -⟩ := enclosed?_eq_some_iff.mp hother
  exact Insertion.not_encloses_escaped hraw hescaped

theorem whole?_of_fills (h : r.Fills s) : whole? s = some r := by
  have henclosed := fills_iff_enclosed?.mp h
  cases hr : r.insertion with
  | raw =>
    rw [hr] at henclosed
    simp [whole?, henclosed]
  | escaped =>
    have hnone := enclosed?_raw_eq_none h hr
    rw [hr] at henclosed
    simp [whole?, henclosed, hnone]

theorem fills_of_whole? (h : whole? s = some r) : r.Fills s ∨ ∃ t, s = t ++ (['\n'] : Text) ∧ r.Fills t := by
  have hkind : ∀ insertion after, enclosed? insertion s = some (r, after) → after = [] ∨ after = ['\n'] →
      r.Fills s ∨ ∃ t, s = t ++ (['\n'] : Text) ∧ r.Fills t := by
    intro insertion after henclosed hafter
    obtain ⟨body, expression, henc, he, rfl⟩ := enclosed?_eq_some_iff.mp henclosed
    rcases hafter with rfl | rfl
    · exact .inl (fills_iff_enclosed?.mpr henclosed)
    · have hother := henc.other []
      rw [List.append_nil] at hother
      refine .inr ⟨insertion.around body, append_of_enclosed? henclosed, ?_⟩
      exact fills_iff_enclosed?.mpr (enclosed?_eq_some_iff.mpr ⟨body, expression, hother, he, rfl⟩)
  rw [whole?, Option.map_eq_some_iff] at h
  obtain ⟨⟨found, after⟩, hfound, rfl⟩ := h
  rw [Option.or_eq_some_iff] at hfound
  rcases hfound with hfound | ⟨-, hfound⟩
  all_goals
    obtain ⟨henclosed, halone⟩ := Option.filter_eq_some_iff.mp hfound
    exact hkind _ after henclosed (by simpa using halone)

/-- The interpolation reads a text as one region exactly if the region fills it and no braces open again. -/
theorem read?_eq_whole_iff : read? s = some (r, []) ↔ r.Fills s ∧ r.reopens = false := by
  rw [read?_eq]
  constructor
  · intro h
    rw [Option.or_eq_some_iff] at h
    rcases h with h | ⟨-, h⟩
    all_goals
      obtain ⟨henclosed, hopen⟩ := Option.filter_eq_some_iff.mp h
      obtain ⟨body, expression, henc, he, rfl⟩ := enclosed?_eq_some_iff.mp henclosed
      exact ⟨fills_iff_enclosed?.mpr henclosed, by simpa using hopen⟩
  · rintro ⟨hfills, hopen⟩
    have hclosed : closed? r.insertion s = some (r, []) := by
      rw [closed?, fills_iff_enclosed?.mp hfills]
      simp [hopen]
    cases hr : r.insertion with
    | raw => rw [← hr, hclosed, Option.some_or]
    | escaped =>
      have hnone : closed? .raw s = none := by rw [closed?, enclosed?_raw_eq_none hfills hr]; rfl
      rw [hnone, Option.none_or, ← hr, hclosed]

end Region

/-- The interpolation takes a text for one region exactly if the region fills it and no braces open again. -/
theorem segments_eq_region_iff {r : Region} {s : Text} :
    segments s = [.region r] ↔ r.Fills s ∧ r.reopens = false := by
  rw [← Region.read?_eq_whole_iff, segments_eq_region_cons_iff]
  constructor
  · rintro ⟨after, hread, hafter⟩
    have hsource := source_segmentsFrom after.length after
    rw [show segmentsFrom after.length after = [] from hafter] at hsource
    rw [hread, ← hsource]
    rfl
  · intro hread
    exact ⟨[], hread, rfl⟩

/-! ## Arguments -/

theorem interpolate_of_segments {r : Region} {s : Text} (h : segments s = [.region r]) (ctx : Context) :
    interpolate s ctx = r.render ctx := by
  rw [interpolate, h, renderSegments, renderSegments]
  simp only [Segment.render, Traced.map_done, List.append_nil]
  exact Traced.andThen_done _

/-- **Arguments and texts.** If a region fills the value of an attribute, the expression of the region is evaluated,
and the value is what is passed to a template; if none does, the text is passed as it is, where a line end behind a
region is left open. The interpolation of the text finds one region and nothing else exactly if the region fills the
text and no braces open again inside of it, and then it shows the value that is passed, escaped or as it is. If there
is such a value, both do the same things, but the text counts the expression before and the argument afterwards. -/
theorem argument_agrees_with_text {a : Attribute} {v : Text} (hv : a.value = some v) (ctx : Context) :
    (∀ r : Region, r.Fills v → Directive.argument a ctx = Rendering.evaluateAndCount r.expression ctx) ∧
      ((∀ r : Region, ¬ r.Fills v) → (∀ (r : Region) (s : Text), v = s ++ (['\n'] : Text) → ¬ r.Fills s) →
        Directive.argument a ctx = .done (.string v)) ∧
      ∀ r : Region, (segments v = [.region r] ↔ r.Fills v ∧ r.reopens = false) ∧
        (segments v = [.region r] →
          let shown := (Directive.argument a ctx).andThen fun value =>
            (Rendering.display value).map r.insertion.insert
          (interpolate v ctx).result = shown.result ∧
            ∀ value, (Directive.argument a ctx).result = .ok value → (interpolate v ctx).trace.Perm shown.trace) := by
  have hnative : ∀ r : Region, r.Fills v → Directive.argument a ctx = Rendering.evaluateAndCount r.expression ctx := by
    intro r hr
    simp only [Directive.argument, hv, Region.whole?_of_fills hr]
  refine ⟨hnative, fun hnone hline => ?_, fun r => ⟨segments_eq_region_iff, fun hsingle => ?_⟩⟩
  · have hwhole : Region.whole? v = none := by
      rw [Option.eq_none_iff_forall_ne_some]
      intro r hr
      rcases Region.fills_of_whole? hr with hfills | ⟨s, hs, hfills⟩
      · exact hnone r hfills
      · exact hline r s hs hfills
    simp only [Directive.argument, hv, hwhole]
  · have hfills := (segments_eq_region_iff.mp hsingle).1
    rw [interpolate_of_segments hsingle, hnative r hfills, Region.render]
    simp only [Traced.andThen_done_eq_map]
    exact Rendering.evaluateCounted_agrees r.expression ctx _

theorem argument_agrees_with_text_user :
    let v : Text := "\x7b\x7b user \x7d\x7d".text
    let a : Attribute := ⟨['n'], some v, "n='".text ++ v ++ (['\''] : Text)⟩
    let ctx : Context := ⟨[], true, Scope.root (.mapping [("user".text, .string ['<'])]), [], 0, 100, []⟩
    a.value = some v ∧
      (∀ r : Region, r.Fills v → Directive.argument a ctx = Rendering.evaluateAndCount r.expression ctx) ∧
      ((∀ r : Region, ¬ r.Fills v) → (∀ (r : Region) (s : Text), v = s ++ (['\n'] : Text) → ¬ r.Fills s) →
        Directive.argument a ctx = .done (.string v)) ∧
      ∀ r : Region, (segments v = [.region r] ↔ r.Fills v ∧ r.reopens = false) ∧
        (segments v = [.region r] →
          let shown := (Directive.argument a ctx).andThen fun value =>
            (Rendering.display value).map r.insertion.insert
          (interpolate v ctx).result = shown.result ∧
            ∀ value, (Directive.argument a ctx).result = .ok value → (interpolate v ctx).trace.Perm shown.trace) := by
  intro v a ctx
  have hv : a.value = some v := rfl
  exact ⟨hv, argument_agrees_with_text hv ctx⟩

/-- Braces that open again inside of the braces: the value is an expression as an argument, but not one region as a
text. -/
theorem reopened_value_evaluated :
    let v : Text := "\x7b\x7b '\x7b\x7b' \x7d\x7d".text
    (∀ ctx, Directive.argument ⟨['a'], some v, "a=\"".text ++ v ++ (['"'] : Text)⟩ ctx =
      Rendering.evaluateAndCount "'\x7b\x7b'".text ctx) ∧ ∀ r : Region, segments v ≠ [.region r] := by
  intro v
  have hwhole : Region.whole? v = some ⟨.escaped, "'\x7b\x7b'".text, v⟩ := by decide +kernel
  have hfirst : (segments v).head? = some (.literal '\x7b') := by decide +kernel
  refine ⟨fun ctx => ?_, fun r hr => ?_⟩
  · simp only [Directive.argument, hwhole]
  · rw [hr] at hfirst
    cases hfirst

end HtmlTemplate
