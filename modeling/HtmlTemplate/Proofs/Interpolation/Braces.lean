import HtmlTemplate.Interpolation.Region
import HtmlTemplate.Markup.Braces
import HtmlTemplate.Proofs.Text.Cut
import Mathlib.Data.List.TakeWhile

/-!
# Runs of braces

Whether a region is read at a place depends on how many braces stand there and on what closes them. Both readers of
braces are described in these terms: `Region.isSome_read?_braces` for the interpolation, which reads a region at two to
four braces, and `Markup.shielded?_eq_some_iff` for the reader of markup, which goes by the kind of region that the
braces open (`Insertion.opening`) and by what is between them and the closing ones.
-/

namespace HtmlTemplate

namespace Text

/-- How many opening braces a text begins with. -/
def braces (s : Text) : Nat := (s.takeWhile (· == ('\x7b' : CodePoint))).length

/-- The text behind the opening braces it begins with. -/
def behindBraces (s : Text) : Text := s.dropWhile (· == '\x7b')

theorem replicate_braces_append (s : Text) : List.replicate s.braces ('\x7b' : CodePoint) ++ s.behindBraces = s := by
  have h : s.takeWhile (· == ('\x7b' : CodePoint)) = List.replicate s.braces ('\x7b' : CodePoint) :=
    List.eq_replicate_iff.mpr ⟨rfl, fun c hc => by simpa using List.mem_takeWhile_imp hc⟩
  rw [← h]
  exact List.takeWhile_append_dropWhile

theorem head?_behindBraces (s : Text) : s.behindBraces.head? ≠ some ('\x7b' : CodePoint) := by
  intro h
  have := List.head?_dropWhile_not (· == ('\x7b' : CodePoint)) s
  rw [behindBraces] at h
  rw [h] at this
  simp at this

theorem braces_replicate_append (k : Nat) (s : Text) :
    braces (List.replicate k ('\x7b' : CodePoint) ++ s) = k + s.braces := by
  induction k with
  | zero => simp
  | succ k ih =>
    have hcons : braces ('\x7b' :: (List.replicate k ('\x7b' : CodePoint) ++ s)) =
        braces (List.replicate k ('\x7b' : CodePoint) ++ s) + 1 := by
      simp [braces]
    rw [List.replicate_succ, List.cons_append, hcons, ih]
    omega

/-- More braces in front of a text. -/
theorem replicate_append_eq (k : Nat) (s : Text) :
    List.replicate k ('\x7b' : CodePoint) ++ s =
      List.replicate (k + s.braces) ('\x7b' : CodePoint) ++ s.behindBraces := by
  conv_lhs => rw [← replicate_braces_append s]
  rw [← List.append_assoc, ← List.replicate_add]

theorem replicate_prefix_iff {k : Nat} {s : Text} : List.replicate k ('\x7b' : CodePoint) <+: s ↔ k ≤ s.braces := by
  constructor
  · rintro ⟨rest, rfl⟩
    rw [braces_replicate_append]
    exact Nat.le_add_right _ _
  · intro h
    obtain ⟨m, hm⟩ := Nat.exists_eq_add_of_le h
    rw [← replicate_braces_append s, hm, List.replicate_add, List.append_assoc]
    exact List.prefix_append _ _

end Text

/-! ## What closes braces -/

namespace Insertion

/-- Whether a text goes on to the closing braces, and no other braces open before them. -/
def closes (insertion : Insertion) (s : Text) : Bool :=
  (Text.cut? insertion.closer s).any fun (body, _) => !Text.hasMark Insertion.escaped.opener body

variable {insertion : Insertion} {s body after : Text}

theorem opener_eq_replicate (insertion : Insertion) :
    insertion.opener = List.replicate insertion.opener.length ('\x7b' : CodePoint) := by cases insertion <;> rfl

/-- Behind as many braces as open a region of one kind. -/
theorem opener_append_behindBraces (h : s.braces = insertion.opener.length) :
    insertion.opener ++ s.behindBraces = s := by
  conv_rhs => rw [← Text.replicate_braces_append s, h]
  rw [← opener_eq_replicate]

theorem closes_iff : insertion.closes s = true ↔
    ∃ body after, Text.cut? insertion.closer s = some (body, after) ∧
      Text.hasMark Insertion.escaped.opener body = false := by
  simp [closes, Option.any_eq_true]

theorem not_closer_prefix_brace (insertion : Insertion) (s : Text) : ¬ insertion.closer <+: '\x7b' :: s := by
  cases insertion <;> simp [closer, List.cons_prefix_cons]

/-- What is between the braces begins as the text behind the opening ones does. -/
theorem head?_body_of_cut? (h : Text.cut? insertion.closer s = some (body, after))
    (hs : s.head? ≠ some ('\x7b' : CodePoint)) : body.head? ≠ some ('\x7b' : CodePoint) := by
  rw [Text.append_of_cut? h] at hs
  cases body with
  | nil => simp
  | cons c body => simpa using hs

theorem escaped_opener_infix_brace {s : Text} :
    Insertion.escaped.opener <:+: '\x7b' :: s ↔
      s.head? = some ('\x7b' : CodePoint) ∨ Insertion.escaped.opener <:+: s := by
  rw [List.infix_cons_iff]
  refine or_congr_left ?_
  cases s with
  | nil => simp [opener, List.cons_prefix_cons]
  | cons c s => simp [opener, List.cons_prefix_cons, eq_comm]

/-- One more brace may stand between the braces, if no other follows it. -/
theorem closes_brace : insertion.closes ('\x7b' :: s) = true ↔
    s.head? ≠ some ('\x7b' : CodePoint) ∧ insertion.closes s = true := by
  have hne := not_closer_prefix_brace insertion s
  simp only [closes_iff, Text.cut?_cons_eq_some_iff hne, Text.hasMark_eq_false_iff]
  constructor
  · rintro ⟨_, after, ⟨inner, rfl, hcut⟩, hmark⟩
    rw [escaped_opener_infix_brace, not_or] at hmark
    refine ⟨fun hs => ?_, inner, after, hcut, hmark.2⟩
    rw [Text.append_of_cut? hcut] at hs
    cases inner with
    | nil => cases insertion <;> simp [closer] at hs
    | cons c inner => exact hmark.1 (by simpa using hs)
  · rintro ⟨hs, inner, after, hcut, hmark⟩
    refine ⟨_, after, ⟨inner, rfl, hcut⟩, ?_⟩
    rw [escaped_opener_infix_brace, not_or]
    exact ⟨head?_body_of_cut? hcut hs, hmark⟩

theorem closes_braces (hs : s.head? ≠ some ('\x7b' : CodePoint)) (n : Nat) :
    insertion.closes (List.replicate n ('\x7b' : CodePoint) ++ s) = true ↔ n ≤ 1 ∧ insertion.closes s = true := by
  rcases n with _ | _ | n
  · simp
  · simp [closes_brace, hs]
  · simp [List.replicate_succ, closes_brace]

/-- Where three braces close, two do. -/
theorem escaped_closes_of_raw (h : Insertion.raw.closes s = true) : Insertion.escaped.closes s = true := by
  obtain ⟨body, after, hcut, hmark⟩ := closes_iff.mp h
  have hshorter : Insertion.escaped.closer <+: Insertion.raw.closer := ⟨['\x7d'], rfl⟩
  obtain ⟨front, rest, hcut, more, hbody⟩ := Text.cut?_of_prefix hshorter hcut
  rw [Text.hasMark_eq_false_iff] at hmark
  refine closes_iff.mpr ⟨front, rest, hcut, Text.hasMark_eq_false_iff.mpr fun hfront => hmark ?_⟩
  rw [← hbody]
  exact hfront.trans <| List.IsPrefix.isInfix <| List.prefix_append front more

end Insertion

/-! ## What is enclosed -/

namespace Insertion

/-- A text begins with braces of one kind, and the first ones that close them leave `body` between them. -/
structure Encloses (insertion : Insertion) (s body after : Text) : Prop where
  text_eq : s = insertion.opener ++ (body ++ insertion.closer ++ after)
  cut_eq : Text.cut? insertion.closer (body ++ insertion.closer ++ after) = some (body, after)

/-- A body with the braces around it. -/
def around (insertion : Insertion) (body : Text) : Text := insertion.opener ++ body ++ insertion.closer

variable {insertion : Insertion} {s inside body after : Text}

theorem around_append (insertion : Insertion) (body after : Text) :
    insertion.around body ++ after = insertion.opener ++ (body ++ insertion.closer ++ after) := by
  simp [around]

theorem encloses_of_cut? (hs : s = insertion.opener ++ inside)
    (hcut : Text.cut? insertion.closer inside = some (body, after)) : insertion.Encloses s body after := by
  have hinside := Text.append_of_cut? hcut
  exact ⟨by rw [← hinside, hs], by rw [← hinside, hcut]⟩

/-- What is enclosed does not depend on what follows. -/
theorem Encloses.other (h : insertion.Encloses s body after) (other : Text) :
    insertion.Encloses (insertion.around body ++ other) body other where
  text_eq := around_append insertion body other
  cut_eq := Text.cut?_of_cut? h.cut_eq other

theorem Encloses.inside_eq (h : insertion.Encloses (insertion.opener ++ inside) body after) :
    inside = body ++ insertion.closer ++ after := List.append_cancel_left h.text_eq

theorem Encloses.cut_inside (h : insertion.Encloses (insertion.opener ++ inside) body after) :
    Text.cut? insertion.closer inside = some (body, after) := by
  rw [h.inside_eq]
  exact h.cut_eq

end Insertion

/-! ## Regions at a run of braces -/

namespace Region

variable {insertion : Insertion} {s body after : Text} {r : Region}

theorem enclosed?_eq_some_iff : enclosed? insertion s = some (r, after) ↔
    ∃ body expression, insertion.Encloses s body after ∧ expressionIn? body = some expression ∧
      r = ⟨insertion, expression, insertion.around body⟩ := by
  constructor
  · intro h
    rw [enclosed?] at h
    split at h
    · cases h
    · next inside hp =>
      split at h
      · cases h
      · next body rest hcut =>
        simp only [Option.map_eq_some_iff, Prod.mk.injEq] at h
        obtain ⟨expression, he, rfl, rfl⟩ := h
        exact ⟨body, expression, Insertion.encloses_of_cut? (Text.append_of_isPrefixOf? hp) hcut, he, rfl⟩
  · rintro ⟨body, expression, henc, he, rfl⟩
    obtain rfl := henc.text_eq
    rw [enclosed?, Text.isPrefixOf?_append]
    simp only [henc.cut_eq, he, Option.map_some]
    rfl

/-- The closing braces open nothing. -/
theorem opener_infix_append_closer :
    Insertion.escaped.opener <:+: body ++ insertion.closer ↔ Insertion.escaped.opener <:+: body := by
  refine ⟨fun h => ?_, fun h => h.trans <| List.IsPrefix.isInfix <| List.prefix_append _ _⟩
  induction body with
  | nil => cases insertion <;> exact absurd h (by decide)
  | cons c body ih =>
    rcases List.infix_cons_iff.mp h with hp | hi
    · obtain ⟨rfl, hrest⟩ := List.cons_prefix_cons.mp hp
      refine List.infix_cons_iff.mpr (.inl (List.cons_prefix_cons.mpr ⟨rfl, ?_⟩))
      cases body with
      | nil => cases insertion <;> exact absurd hrest (by decide)
      | cons d body =>
        have hd := (List.cons_prefix_cons.mp hrest).1
        exact List.cons_prefix_cons.mpr ⟨hd, List.nil_prefix⟩
    · exact List.infix_cons_iff.mpr (.inr (ih hi))

theorem reopens_eq (expression : Text) :
    reopens ⟨insertion, expression, insertion.around body⟩ = Text.hasMark Insertion.escaped.opener body := by
  rw [reopens, Insertion.around, List.append_assoc, List.drop_left, Bool.eq_iff_iff, Text.hasMark_iff, Text.hasMark_iff]
  exact opener_infix_append_closer

theorem isSome_expressionIn? : (expressionIn? body).isSome = true ↔ body ≠ [] := by
  unfold expressionIn?
  split
  · cases body <;> simp
  · next h =>
    simp only [Option.isSome_some, true_iff]
    rintro rfl
    exact h rfl

/-- The region of one kind at the front of a text, if no braces open again in it. -/
def closed? (insertion : Insertion) (s : Text) : Option (Region × Text) :=
  (enclosed? insertion s).filter fun (r, _) => !r.reopens

theorem read?_eq (s : Text) : read? s = (closed? .raw s).or (closed? .escaped s) := rfl

theorem closed?_eq_some_iff : closed? insertion s = some (r, after) ↔
    ∃ body expression, insertion.Encloses s body after ∧ Text.hasMark Insertion.escaped.opener body = false ∧
      expressionIn? body = some expression ∧ r = ⟨insertion, expression, insertion.around body⟩ := by
  rw [closed?, Option.filter_eq_some_iff, enclosed?_eq_some_iff]
  constructor
  · rintro ⟨⟨body, expression, henc, he, rfl⟩, hopen⟩
    exact ⟨body, expression, henc, by simpa only [reopens_eq, Bool.not_eq_true'] using hopen, he, rfl⟩
  · rintro ⟨body, expression, henc, hopen, he, rfl⟩
    exact ⟨⟨body, expression, henc, he, rfl⟩, by simp only [reopens_eq, hopen, Bool.not_false]⟩

theorem isSome_closed?_append (inside : Text) : (closed? insertion (insertion.opener ++ inside)).isSome = true ↔
    insertion.closes inside = true ∧ ¬ insertion.closer <+: inside := by
  rw [Option.isSome_iff_exists, Insertion.closes_iff]
  constructor
  · rintro ⟨⟨r, after⟩, h⟩
    obtain ⟨body, expression, henc, hopen, he, -⟩ := closed?_eq_some_iff.mp h
    refine ⟨⟨body, after, henc.cut_inside, hopen⟩, ?_⟩
    rintro ⟨rest, hr⟩
    have hcut := henc.cut_inside
    rw [← hr, Text.cut?_append] at hcut
    cases hcut
    simp [expressionIn?, Text.allBlank] at he
  · rintro ⟨⟨body, after, hcut, hopen⟩, hp⟩
    have hbody : body ≠ [] := by
      rintro rfl
      exact hp ⟨after, (Text.append_of_cut? hcut).symm⟩
    obtain ⟨expression, he⟩ := Option.isSome_iff_exists.mp (isSome_expressionIn?.mpr hbody)
    exact ⟨_, closed?_eq_some_iff.mpr ⟨body, expression, Insertion.encloses_of_cut? rfl hcut, hopen, he, rfl⟩⟩

/-- A region is read at as many braces as open it, or at one more. -/
theorem isSome_closed?_braces (hs : s.head? ≠ some ('\x7b' : CodePoint)) (n : Nat) :
    (closed? insertion (List.replicate n ('\x7b' : CodePoint) ++ s)).isSome = true ↔
      insertion.closes s = true ∧
        (n = insertion.opener.length ∧ ¬ insertion.closer <+: s ∨ n = insertion.opener.length + 1) := by
  by_cases hn : insertion.opener.length ≤ n
  · obtain ⟨m, rfl⟩ := Nat.exists_eq_add_of_le hn
    rw [List.replicate_add, List.append_assoc, ← Insertion.opener_eq_replicate, isSome_closed?_append,
      Insertion.closes_braces hs]
    cases m with
    | zero => simp
    | succ m =>
      have hp := Insertion.not_closer_prefix_brace insertion (List.replicate m ('\x7b' : CodePoint) ++ s)
      rw [List.replicate_succ, List.cons_append]
      constructor
      · rintro ⟨⟨hm, hcloses⟩, -⟩
        exact ⟨hcloses, .inr (by omega)⟩
      · rintro ⟨hcloses, hm⟩
        exact ⟨⟨by omega, hcloses⟩, hp⟩
  · constructor
    · intro h
      obtain ⟨⟨r, after⟩, h⟩ := Option.isSome_iff_exists.mp h
      obtain ⟨body, -, henc, -⟩ := closed?_eq_some_iff.mp h
      obtain ⟨m, hm⟩ := Nat.exists_eq_add_of_lt (Nat.lt_of_not_le hn)
      -- too few braces: the text behind them would have to go on with one
      have hopener : insertion.opener =
          List.replicate n ('\x7b' : CodePoint) ++ ('\x7b' : CodePoint) :: List.replicate m '\x7b' := by
        rw [Insertion.opener_eq_replicate, hm, Nat.add_assoc, List.replicate_add, List.replicate_succ]
      have heq := henc.text_eq
      rw [hopener, List.append_assoc] at heq
      rw [List.append_cancel_left heq] at hs
      simp at hs
    · rintro ⟨-, hm⟩
      omega

/-- A region is read at two braces, at three, or at four if three close them. -/
theorem isSome_read?_braces (hs : s.head? ≠ some ('\x7b' : CodePoint)) (n : Nat) :
    (read? (List.replicate n ('\x7b' : CodePoint) ++ s)).isSome = true ↔
      n = 2 ∧ Insertion.escaped.closes s = true ∧ ¬ Insertion.escaped.closer <+: s ∨
        n = 3 ∧ Insertion.escaped.closes s = true ∨ n = 4 ∧ Insertion.raw.closes s = true := by
  rw [read?_eq, Option.isSome_or, Bool.or_eq_true, isSome_closed?_braces hs, isSome_closed?_braces hs]
  have hraw : Insertion.raw.opener.length = 3 := rfl
  have hescaped : Insertion.escaped.opener.length = 2 := rfl
  rw [hraw, hescaped]
  constructor
  · rintro (⟨hcloses, ⟨hn, -⟩ | hn⟩ | ⟨hcloses, ⟨hn, hp⟩ | hn⟩)
    · exact .inr (.inl ⟨hn, Insertion.escaped_closes_of_raw hcloses⟩)
    · exact .inr (.inr ⟨hn, hcloses⟩)
    · exact .inl ⟨hn, hcloses, hp⟩
    · exact .inr (.inl ⟨hn, hcloses⟩)
  · rintro (⟨hn, hcloses, hp⟩ | ⟨hn, hcloses⟩ | ⟨hn, hcloses⟩)
    · exact .inr ⟨hcloses, .inl ⟨hn, hp⟩⟩
    · exact .inr ⟨hcloses, .inr hn⟩
    · exact .inl ⟨hcloses, .inr hn⟩

end Region

/-! ## Braces for the reader of markup -/

/-- The kind of region that the braces at the front of a text open. -/
def Insertion.opening (s : Text) : Insertion := if Insertion.raw.opener.isPrefixOf s then .raw else .escaped

theorem Insertion.opening_of_le {s : Text} (h : 3 ≤ s.braces) : Insertion.opening s = .raw := by
  have hprefix : Insertion.raw.opener <+: s := Text.replicate_prefix_iff.mpr h
  rw [opening, if_pos (List.isPrefixOf_iff_prefix.mpr hprefix)]

theorem Insertion.opening_of_lt {s : Text} (h : s.braces < 3) : Insertion.opening s = .escaped := by
  have hprefix : ¬ Insertion.raw.opener <+: s := fun hp => Nat.not_le_of_lt h (Text.replicate_prefix_iff.mp hp)
  rw [opening, if_neg fun hp => hprefix (List.isPrefixOf_iff_prefix.mp hp)]

namespace Markup

variable {s source after : Text}

theorem delimiters_eq (s : Text) : delimiters s = ((Insertion.opening s).opener, (Insertion.opening s).closer) := by
  unfold delimiters Insertion.opening
  split
  · next h => rw [if_pos (show Insertion.raw.opener.isPrefixOf s = true from h)]; rfl
  · next h => rw [if_neg (show ¬ Insertion.raw.opener.isPrefixOf s = true from h)]; rfl

/-- The braces that shield what is between them from the reader of markup. -/
theorem shielded?_eq_some_iff : shielded? s = some (source, after) ↔
    ∃ body, (Insertion.opening s).Encloses s body after ∧ Text.hasMark opener body = false ∧ hasTag body = false ∧
      source = (Insertion.opening s).around body := by
  simp only [shielded?, delimiters_eq]
  constructor
  · intro h
    split at h
    · cases h
    · next inside hp =>
      split at h
      · cases h
      · next body rest hcut =>
        split at h
        · cases h
        · next hclear =>
          rw [Bool.or_eq_true, not_or, Bool.not_eq_true, Bool.not_eq_true] at hclear
          simp only [Option.some.injEq, Prod.mk.injEq] at h
          obtain ⟨rfl, rfl⟩ := h
          exact ⟨body, Insertion.encloses_of_cut? (Text.append_of_isPrefixOf? hp) hcut, hclear.1, hclear.2, rfl⟩
  · rintro ⟨body, henc, hmark, htag, rfl⟩
    have hp : (Insertion.opening s).opener.isPrefixOf? s = some (body ++ (Insertion.opening s).closer ++ after) :=
      List.isPrefixOf?_eq_some_iff_append_eq.mpr henc.text_eq.symm
    simp only [hp, henc.cut_eq, hmark, htag, Bool.or_self, Bool.false_eq_true, if_false]
    rfl

/-- What follows the closing braces does not matter to what kind of region the braces open. -/
theorem opening_around_append (insertion : Insertion) (body after other : Text) :
    Insertion.opening (insertion.around body ++ after) = Insertion.opening (insertion.around body ++ other) := by
  have hlong : 3 ≤ (insertion.around body).length := by
    cases insertion <;> simp [Insertion.around, Insertion.opener, Insertion.closer]
  have hprefix : ∀ rest, Insertion.raw.opener <+: insertion.around body ++ rest ↔
      Insertion.raw.opener <+: insertion.around body := fun rest =>
    ⟨fun h => List.prefix_of_prefix_length_le h (List.prefix_append _ _) hlong,
      fun h => h.trans (List.prefix_append _ _)⟩
  simp only [Insertion.opening, List.isPrefixOf_iff_prefix, hprefix]

/-- What follows the closing braces does not matter to what they shield. -/
theorem shielded?_append_other (h : shielded? (source ++ after) = some (source, after)) (other : Text) :
    shielded? (source ++ other) = some (source, other) := by
  obtain ⟨body, henc, hmark, htag, hsource⟩ := shielded?_eq_some_iff.mp h
  generalize hi : Insertion.opening (source ++ after) = insertion at henc hsource
  subst hsource
  have ho : Insertion.opening (insertion.around body ++ other) = insertion := by
    rw [← opening_around_append insertion body after other, hi]
  exact shielded?_eq_some_iff.mpr ⟨body, ho.symm ▸ henc.other other, hmark, htag, by rw [ho]⟩

end Markup

end HtmlTemplate
