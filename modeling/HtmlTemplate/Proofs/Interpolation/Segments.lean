import HtmlTemplate.Proofs.Interpolation.Braces
import HtmlTemplate.Proofs.Trace
import HtmlTemplate.Render.Interpolate

/-!
# The segments of a text, step by step

`Scans` says where the interpolation of a text comes to, segment by segment. It comes to every place at which two
braces open, unless a region begins one or two braces earlier (`Scans.or_crosses`): other regions hold no braces that
open. `Shows` says that some segments stand at a place of a text and how the text is rendered then.
-/

namespace HtmlTemplate

/-! ## Every region takes something -/

namespace Region

variable {s after : Text} {r : Region}

/-- What a region at the front of a text is. -/
theorem encloses_of_read? (h : read? s = some (r, after)) : ∃ (insertion : Insertion) (body : Text),
    insertion.Encloses s body after ∧ Text.hasMark Insertion.escaped.opener body = false ∧
      r.source = insertion.around body := by
  rw [read?_eq, Option.or_eq_some_iff] at h
  obtain h | ⟨-, h⟩ := h
  all_goals
    obtain ⟨body, expression, henc, hopen, -, rfl⟩ := closed?_eq_some_iff.mp h
    exact ⟨_, body, henc, hopen, rfl⟩

theorem getLast?_around (insertion : Insertion) (body : Text) :
    (insertion.around body).getLast? = some ('\x7d' : CodePoint) := by
  rw [Insertion.around, List.getLast?_append]
  cases insertion <;> rfl

theorem getLast?_source_of_read? (h : read? s = some (r, after)) : r.source.getLast? = some ('\x7d' : CodePoint) := by
  obtain ⟨insertion, body, -, -, hsource⟩ := encloses_of_read? h
  rw [hsource, getLast?_around]

theorem length_lt_of_read? (h : read? s = some (r, after)) : after.length < s.length := by
  have hne : r.source ≠ [] := by
    intro hnil
    have hlast := getLast?_source_of_read? h
    rw [hnil] at hlast
    cases hlast
  have hpos := List.length_pos_iff.mpr hne
  rw [append_of_read? h, List.length_append]
  omega

/-- A region does not end between two braces. -/
theorem opener_prefix_of_crosses {left x : Text} (h : read? s = some (r, after)) (hsource : r.source = left ++ x)
    (hx : x ≠ []) (hopener : Insertion.escaped.opener <+: x ++ after) : Insertion.escaped.opener <+: x := by
  obtain ⟨rest, hrest⟩ := hopener
  rcases x with _ | ⟨c, _ | ⟨d, x⟩⟩
  · exact absurd rfl hx
  · have hlast := getLast?_source_of_read? h
    have hc : '\x7b' = c := (List.cons.inj hrest).1
    rw [hsource, List.getLast?_concat, ← hc] at hlast
    exact absurd hlast (by decide)
  · obtain ⟨hc, hrest⟩ := List.cons.inj hrest
    obtain ⟨hd, -⟩ := List.cons.inj hrest
    exact ⟨x, by rw [← hc, ← hd]; rfl⟩

/-- A region that goes on at a place where two braces open begins at most two braces before that place. -/
theorem eq_replicate_of_crosses {left x : Text} (h : read? s = some (r, after)) (hsource : r.source = left ++ x)
    (hx : x ≠ []) (hopener : Insertion.escaped.opener <+: x ++ after) :
    left = List.replicate left.length ('\x7b' : CodePoint) ∧ left.length ≤ 2 := by
  obtain ⟨insertion, body, -, hbody, haround⟩ := encloses_of_read? h
  -- the opening braces of the region are not all in front of the place, for no others open behind them
  have hnot : ¬ x <:+ body ++ insertion.closer := by
    rintro ⟨front, hfront⟩
    obtain ⟨back, hback⟩ := opener_prefix_of_crosses h hsource hx hopener
    have hin : Insertion.escaped.opener <:+: body ++ insertion.closer :=
      ⟨front, back, by rw [List.append_assoc, hback, hfront]⟩
    exact Text.hasMark_eq_false_iff.mp hbody (opener_infix_append_closer.mp hin)
  have heq : left ++ x = insertion.opener ++ (body ++ insertion.closer) := by
    rw [← hsource, haround, Insertion.around, List.append_assoc]
  rcases List.append_eq_append_iff.mp heq with ⟨y, hy, hx⟩ | ⟨y, -, hy⟩
  · have hyne : y ≠ [] := by
      rintro rfl
      exact hnot ⟨[], by simpa using hx⟩
    have hlen : insertion.opener.length = left.length + y.length := by rw [hy, List.length_append]
    have hle : insertion.opener.length ≤ 3 := by cases insertion <;> decide
    have hpos := List.length_pos_iff.mpr hyne
    have hall : ∀ c ∈ left, c = '\x7b' := fun c hc => by
      have hmem : c ∈ insertion.opener := hy ▸ List.mem_append_left _ hc
      rw [Insertion.opener_eq_replicate] at hmem
      exact List.eq_of_mem_replicate hmem
    exact ⟨List.eq_replicate_iff.mpr ⟨rfl, hall⟩, by omega⟩
  · exact absurd ⟨y, hy.symm⟩ hnot

end Region

namespace Segment

/-- How some segments were written, one after the other. -/
def sources (segments : List Segment) : Text := segments.flatMap source

theorem sources_append (front back : List Segment) : sources (front ++ back) = sources front ++ sources back :=
  List.flatMap_append

end Segment

/-! ## Step by step -/

/-- More steps than characters change nothing. -/
theorem segmentsFrom_of_length_le (n m : Nat) (s : Text) (hn : s.length ≤ n) (hm : s.length ≤ m) :
    segmentsFrom n s = segmentsFrom m s := by
  induction n generalizing m s with
  | zero =>
    obtain rfl : s = [] := List.eq_nil_of_length_eq_zero (Nat.le_zero.mp hn)
    simp only [segmentsFrom]
  | succ n ih =>
    cases s with
    | nil => simp only [segmentsFrom]
    | cons c rest =>
      cases m with
      | zero => cases hm
      | succ m =>
        rw [segmentsFrom, segmentsFrom]
        rw [List.length_cons] at hn hm
        split
        · next r after h =>
          have hlt := Region.length_lt_of_read? h
          rw [List.length_cons] at hlt
          rw [ih m after (by omega) (by omega)]
        · rw [ih m rest (by omega) (by omega)]

theorem segments_of_read? {s after : Text} {r : Region} (h : Region.read? s = some (r, after)) :
    segments s = .region r :: segments after := by
  have hlt := Region.length_lt_of_read? h
  cases s with
  | nil => cases hlt
  | cons c rest =>
    rw [List.length_cons] at hlt
    rw [segments, List.length_cons, segmentsFrom, h]
    exact congrArg _ (segmentsFrom_of_length_le _ _ after (by omega) (Nat.le_refl _))

theorem segments_cons {c : CodePoint} {rest : Text} (h : Region.read? (c :: rest) = none) :
    segments (c :: rest) = .literal c :: segments rest := by
  rw [segments, List.length_cons, segmentsFrom, h]
  rfl

/-- A character is a segment of its own exactly if no region begins at it. -/
theorem segments_eq_literal_iff {c : CodePoint} {rest : Text} {back : List Segment} :
    segments (c :: rest) = .literal c :: back ↔ Region.read? (c :: rest) = none ∧ segments rest = back := by
  cases h : Region.read? (c :: rest) with
  | none => simp [segments_cons h]
  | some found => simp [segments_of_read? h]

/-- A region is the first segment of a text exactly if it is read there. -/
theorem segments_eq_region_cons_iff {s : Text} {r : Region} {back : List Segment} :
    segments s = .region r :: back ↔ ∃ after, Region.read? s = some (r, after) ∧ segments after = back := by
  constructor
  · intro h
    cases s with
    | nil => cases h
    | cons c rest =>
      cases hread : Region.read? (c :: rest) with
      | none =>
        rw [segments_cons hread] at h
        cases h
      | some found =>
        obtain ⟨other, after⟩ := found
        rw [segments_of_read? hread] at h
        obtain ⟨hregion, hback⟩ := List.cons.inj h
        cases hregion
        exact ⟨after, rfl, hback⟩
  · rintro ⟨after, hread, rfl⟩
    exact segments_of_read? hread

/-- Where the interpolation of a text comes to: the segments that it has read, and the text that is left. -/
inductive Scans (s : Text) : List Segment → Text → Prop
  | start : Scans s [] s
  | literal {read : List Segment} {c : CodePoint} {rest : Text} :
      Scans s read (c :: rest) → Region.read? (c :: rest) = none → Scans s (read ++ [.literal c]) rest
  | region {read : List Segment} {left after : Text} {r : Region} :
      Scans s read left → Region.read? left = some (r, after) → Scans s (read ++ [.region r]) after

namespace Scans

variable {s left right after : Text} {read front back : List Segment}

theorem segments_eq (h : Scans s read left) : segments s = read ++ segments left := by
  induction h with
  | start => rfl
  | literal _ hread ih => rw [ih, segments_cons hread, List.append_assoc, List.singleton_append]
  | region _ hread ih => rw [ih, segments_of_read? hread, List.append_assoc, List.singleton_append]

theorem source_eq (h : Scans s read left) : Segment.sources read ++ left = s := by
  induction h with
  | start => rfl
  | literal _ _ ih =>
    rw [← ih]
    simp [Segment.sources, Segment.source]
  | region _ hread ih =>
    rw [← ih, Region.append_of_read? hread]
    simp [Segment.sources, Segment.source]

/-- Wherever the segments of a text are parted, the interpolation comes to that place. -/
theorem of_segments_append (h : Scans s read left) (hsegments : segments left = front ++ back) :
    ∃ rest, Scans s (read ++ front) rest ∧ segments rest = back := by
  induction front generalizing read left with
  | nil => exact ⟨left, by simpa using h, hsegments⟩
  | cons segment front ih =>
    cases left with
    | nil => cases hsegments
    | cons c rest =>
      cases hread : Region.read? (c :: rest) with
      | none =>
        rw [segments_cons hread, List.cons_append] at hsegments
        obtain ⟨rfl, hfront⟩ := List.cons.inj hsegments
        simpa using ih (h.literal hread) hfront
      | some found =>
        obtain ⟨r, after⟩ := found
        rw [segments_of_read? hread, List.cons_append] at hsegments
        obtain ⟨rfl, hfront⟩ := List.cons.inj hsegments
        simpa using ih (h.region hread) hfront

/-- No region begins at a brace that the interpolation has left as it is. -/
theorem read?_eq_none (h : Scans s read right) (hlast : (Segment.sources read).getLast? = some ('\x7b' : CodePoint)) :
    Region.read? ('\x7b' :: right) = none := by
  cases h with
  | start => cases hlast
  | @literal read c rest _ hread =>
    rw [Segment.sources_append, Segment.sources, Segment.sources] at hlast
    obtain rfl : c = '\x7b' := by simpa [Segment.source] using hlast
    exact hread
  | @region read left after r _ hread =>
    rw [Segment.sources_append, List.getLast?_append] at hlast
    simp [Segment.sources, Segment.source, Region.getLast?_source_of_read? hread] at hlast

/-- The interpolation comes to every place at which two braces open, unless a region begins one or two braces in front
of it. -/
theorem or_crosses (h : Scans s read (left ++ right)) (hopener : Insertion.escaped.opener <+: right) :
    (∃ read, Scans s read right) ∨ ∃ k, 1 ≤ k ∧ k ≤ 2 ∧ List.replicate k ('\x7b' : CodePoint) <:+ left ∧
      (Region.read? (List.replicate k ('\x7b' : CodePoint) ++ right)).isSome = true := by
  induction hn : left.length using Nat.strong_induction_on generalizing left read with
  | _ n ih =>
    subst hn
    cases left with
    | nil => exact .inl ⟨read, h⟩
    | cons c left =>
      cases hread : Region.read? (c :: left ++ right) with
      | none =>
        rcases ih left.length (by simp) (h.literal hread) rfl with hscans | ⟨k, hk, hk', hsuffix, hsome⟩
        · exact .inl hscans
        · exact .inr ⟨k, hk, hk', hsuffix.trans (List.suffix_cons c left), hsome⟩
      | some found =>
        obtain ⟨r, after⟩ := found
        have hscans := h.region hread
        rcases List.append_eq_append_iff.mp (Region.append_of_read? hread) with ⟨x, hx, rfl⟩ | ⟨x, hx, rfl⟩
        · -- the region ends behind the place, or just at it
          by_cases hnil : x = []
          · subst hnil
            exact .inl ⟨_, hscans⟩
          · obtain ⟨hleft, hle⟩ := Region.eq_replicate_of_crosses hread hx hnil hopener
            refine .inr ⟨(c :: left).length, by simp, hle, by rw [← hleft], ?_⟩
            rw [← hleft, hread]
            rfl
        · have hlt : x.length < (c :: left).length := by
            have := Region.length_lt_of_read? hread
            simp only [List.length_append] at this
            omega
          rcases ih x.length hlt hscans rfl with hscans | ⟨k, hk, hk', hsuffix, hsome⟩
          · exact .inl hscans
          · exact .inr ⟨k, hk, hk', hsuffix.trans ⟨_, hx.symm⟩, hsome⟩

end Scans

/-! ## Rendering at a place -/

theorem renderSegments_append (front back : List Segment) (ctx : Context) :
    renderSegments (front ++ back) ctx =
      (renderSegments front ctx).andThen fun a => (renderSegments back ctx).map (a ++ ·) := by
  induction front with
  | nil => exact (Traced.map_id _).symm
  | cons segment front ih =>
    simp only [List.cons_append, renderSegments, ih, Traced.andThen_assoc, Traced.map_andThen, Traced.andThen_map,
      Traced.map_map, Function.comp_def, List.append_assoc]

/-- Some segments stand in a text behind `left`: what is in front of them is rendered, then they are, and then the
rest. -/
def Shows (left right : Text) (middle : List Segment) : Prop :=
  ∃ front back, Segment.sources front = left ∧ segments (left ++ right) = front ++ (middle ++ back) ∧
    ∀ ctx, interpolate (left ++ right) ctx =
      (renderSegments front ctx).andThen fun a => (renderSegments middle ctx).andThen fun b =>
        (renderSegments back ctx).map fun c => a ++ (b ++ c)

theorem shows_iff {left right : Text} {middle : List Segment} : Shows left right middle ↔
    ∃ read back, Scans (left ++ right) read right ∧ segments right = middle ++ back := by
  constructor
  · rintro ⟨front, back, hfront, hsegments, -⟩
    obtain ⟨rest, hscans, hrest⟩ := Scans.start.of_segments_append hsegments
    obtain rfl : rest = right := List.append_cancel_left (hfront ▸ hscans.source_eq)
    exact ⟨front, back, by simpa using hscans, hrest⟩
  · rintro ⟨read, back, hscans, hright⟩
    refine ⟨read, back, List.append_cancel_right hscans.source_eq, by rw [hscans.segments_eq, hright], fun ctx => ?_⟩
    rw [interpolate, hscans.segments_eq, hright, renderSegments_append, renderSegments_append]
    simp only [Traced.map_andThen, Traced.map_map, Function.comp_def]

end HtmlTemplate
