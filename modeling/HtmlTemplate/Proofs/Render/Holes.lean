import HtmlTemplate.Proofs.Expr.Names
import HtmlTemplate.Proofs.Render.Accord
import Mathlib.Computability.Primrec.List

/-!
# Texts of the data stay texts

Let the data bind the name `v` to a text, and let `v` be mentioned in a source and in the templates only as the whole
of an expression that is shown. Then what is rendered is a fixed list of fragments, some of which are holes: whatever
the text is, it goes into the holes as it is or escaped, and nothing else depends on it (`render_fills_holes`). So no
text can bring in tags that are read as directives, nor expressions that are evaluated.

The renderings for all texts are a family with one rendering for each text, and what they have in common is an
`Accord` (`holes`): there is one rendering with fragments in the place of texts from which all of them come by filling
the holes.
-/

namespace HtmlTemplate

/-- A part of an output: a text, or a hole for a text. -/
inductive Fragment where
  | text (s : Text)
  | hole (insertion : Insertion)
  deriving DecidableEq, Repr

namespace Fragment

/-- The fragment with a text in its hole. -/
def fill (shown : Text) : Fragment → Text
  | .text s => s
  | .hole insertion => insertion.insert shown

/-- The fragments with a text in each hole, one after the other. -/
def fillAll (shown : Text) (fragments : List Fragment) : Text := fragments.flatMap (fill shown)

theorem fillAll_append (shown : Text) (front back : List Fragment) :
    fillAll shown (front ++ back) = fillAll shown front ++ fillAll shown back := List.flatMap_append

theorem fillAll_text (shown s : Text) : fillAll shown [.text s] = s := by simp [fillAll, fill]

theorem fillAll_hole (shown : Text) (insertion : Insertion) :
    fillAll shown [.hole insertion] = insertion.insert shown := by simp [fillAll, fill]

end Fragment

namespace Occurrence

/-- Whether an expression shows what `name` means and does nothing else with it. The name of the whole data must not
be mentioned, for what `name` means is a part of them. -/
def OnlyShows (name : Text) : Occurrence → Prop
  | .shown r =>
    Scope.rootName ∉ Expr.namesIn r.expression ∧
      (Expr.nameOf? r.expression = some name ∨ name ∉ Expr.namesIn r.expression)
  | .used e => Scope.rootName ∉ Expr.namesIn e ∧ name ∉ Expr.namesIn e

instance (name : Text) : (o : Occurrence) → Decidable (o.OnlyShows name)
  | .shown _ => inferInstanceAs (Decidable (_ ∧ _))
  | .used _ => inferInstanceAs (Decidable (_ ∧ _))

end Occurrence

/-! ## Scopes and outputs with holes -/

section Holes

variable {v : Text}

/-- Scopes, one for each text, that agree on all names but `v` and the name of the whole data; `v` means the text, or
the same in all of them. -/
def HoledScopes (v : Text) (sc : Text → Scope) : Prop :=
  (∀ name, name ≠ v → name ≠ Scope.rootName → ∀ s t, (sc s).resolve name = (sc t).resolve name) ∧
    (v ≠ Scope.rootName →
      (∀ s, (sc s).resolve v = .string s) ∨ ∀ s t, (sc s).resolve v = (sc t).resolve v)

/-- Renderings, one for each text, that come from one rendering by filling its holes, with the same statistics. -/
def HoledTexts (f : Text → Rendering Text) : Prop :=
  ∃ x : Rendering (List Fragment), ∀ s,
    (f s).result = x.result.map (Fragment.fillAll s) ∧ Stats.ofTrace (f s).trace = Stats.ofTrace x.trace

theorem HoledScopes.child {sc : Text → Scope} (h : HoledScopes v sc) (layer : Layer) :
    HoledScopes v fun s => (sc s).child layer := by
  constructor
  · intro name hv hr s t
    rw [Scope.resolve_child, Scope.resolve_child, h.1 name hv hr s t]
  · intro hv
    simp only [Scope.resolve_child]
    cases layer.lookup v with
    | none => exact h.2 hv
    | some bound => exact Or.inr fun _ _ => rfl

/-- The scopes of data that bind `v` to a text. -/
theorem holedScopes_root (v : Text) (data : Entries Value) :
    HoledScopes v fun s => .root (.mapping (Entries.insert v (.string s) data)) := by
  have hroot : ∀ (s name : Text), name ≠ Scope.rootName →
      (Scope.root (.mapping (Entries.insert v (.string s) data))).resolve name =
        ((Entries.insert v (.string s) data).lookup name).getD .undefined := by
    intro s name hn
    have hb : (name == Scope.rootName) = false := by simpa using hn
    cases hl : (Entries.insert v (.string s) data).lookup name <;>
      simp [Scope.root, Scope.resolve, Scope.find?, Scope.bindingsOf, List.lookup, hb, hl]
  constructor
  · intro name hv hr s t
    rw [hroot s name hr, hroot t name hr, Entries.lookup_insert_of_ne _ _ hv, Entries.lookup_insert_of_ne _ _ hv]
  · intro hv
    refine Or.inl fun s => ?_
    rw [hroot s v hv, Entries.lookup_insert_self, Option.getD_some]

theorem holedTexts_same (x : Rendering Text) : HoledTexts fun _ => x := by
  refine ⟨x.map fun s => [.text s], fun s => ⟨?_, rfl⟩⟩
  obtain ⟨result, trace⟩ := x
  cases result with
  | error e => rfl
  | ok html => simp [Traced.map, Except.map, Fragment.fillAll_text]

theorem holedTexts_after {α : Type} (x : Rendering α) {f : Text → α → Rendering Text}
    (h : ∀ a, HoledTexts fun s => f s a) : HoledTexts fun s => x.andThen (f s) := by
  choose y hy using h
  refine ⟨x.andThen y, fun s => ?_⟩
  obtain ⟨result, trace⟩ := x
  cases result with
  | error e => exact ⟨rfl, rfl⟩
  | ok a => exact ⟨(hy a s).1, Stats.ofTrace_append_congr rfl (hy a s).2⟩

theorem holedTexts_append {f g : Text → Rendering Text} (hf : HoledTexts f) (hg : HoledTexts g) :
    HoledTexts fun s => (f s).andThen fun front => (g s).map (front ++ ·) := by
  obtain ⟨x, hx⟩ := hf
  obtain ⟨y, hy⟩ := hg
  refine ⟨x.andThen fun front => y.map (front ++ ·), fun s => ?_⟩
  obtain ⟨hfront, hfrontStats⟩ := hx s
  obtain ⟨hback, hbackStats⟩ := hy s
  rw [Traced.result_andThen, Traced.result_andThen, hfront]
  cases hresult : x.result with
  | error e => simp only [Traced.andThen, hfront, hresult, Except.map, Except.bind, hfrontStats, and_self]
  | ok front =>
    refine ⟨?_, ?_⟩
    · simp only [Except.map, Except.bind, Traced.map, hback]
      cases y.result <;> simp [Fragment.fillAll_append]
    · simp only [Traced.andThen, hfront, hresult, Except.map, Traced.map]
      exact Stats.ofTrace_append_congr hfrontStats hbackStats

/-- What renderings for all texts have in common when the text only fills holes. -/
def holes (v : Text) : Accord Text where
  scopes := HoledScopes v
  texts := HoledTexts
  child layer h := h.child layer
  same := holedTexts_same
  after := holedTexts_after
  append := holedTexts_append

/-! ## Expressions -/

/-- An expression that mentions neither `v` nor the whole data has the same value for every text. -/
theorem evaluate_holed {sc : Text → Scope} (hs : HoledScopes v sc) {e : Text} (hr : Scope.rootName ∉ Expr.namesIn e)
    (hv : v ∉ Expr.namesIn e) (s t : Text) : evaluate e (sc s) = evaluate e (sc t) := by
  refine Expr.evaluate_congr fun name hn => hs.1 name ?_ ?_ s t
  · rintro rfl
    exact hv hn
  · rintro rfl
    exact hr hn

/-- A region whose value is a text shows the text. -/
theorem render_of_string {r : Region} {ctx : Context} {s : Text}
    (h : evaluate r.expression ctx.scope = .ok (.string s)) :
    r.render ctx = ⟨.ok (r.insertion.insert s), [.counted, .evaluated r.expression (.ok (.string s))]⟩ := by
  simp only [Region.render, Rendering.evaluateCounted, Rendering.evaluate, h, Rendering.display]
  rfl

/-- A region is rendered in the same way in contexts in which its expression has the same value. -/
theorem render_congr {r : Region} {c d : Context} (h : evaluate r.expression c.scope = evaluate r.expression d.scope) :
    r.render c = r.render d := by
  simp only [Region.render, Rendering.evaluateCounted, Rendering.evaluate, h]

/-- Expressions that only show what `v` means suit an output with holes. -/
theorem holes_suits {o : Occurrence} (h : o.OnlyShows v) : (holes v).Suits o := by
  cases o with
  | used e => exact fun sc hs => ⟨evaluate e (sc []), fun s => evaluate_holed hs h.1 h.2 s []⟩
  | shown r =>
    intro ctx sc hs
    -- unless `v` means the text, all the renderings are the same as that for the empty text
    have hsame : (∀ s, evaluate r.expression (sc s) = evaluate r.expression (sc [])) →
        HoledTexts fun s => r.render { ctx with scope := sc s } := by
      intro he
      have hr : (fun s => r.render { ctx with scope := sc s }) = fun _ => r.render { ctx with scope := sc [] } :=
        funext fun s => render_congr (he s)
      rw [hr]
      exact holedTexts_same _
    obtain ⟨hroot, hname | hv⟩ := h
    · have hparse := Expr.parse_of_nameOf? hname
      have hne : v ≠ Scope.rootName := by
        rintro rfl
        exact hroot (by simp [Expr.namesIn, hparse, Expr.names])
      have he : ∀ s, evaluate r.expression (sc s) = .ok ((sc s).resolve v) :=
        fun s => Expr.evaluate_of_nameOf? hname (sc s)
      rcases hs.2 hne with hstring | hfixed
      · refine ⟨⟨.ok [.hole r.insertion], [.counted]⟩, fun s => ?_⟩
        have hs' : evaluate r.expression (sc s) = .ok (.string s) := by rw [he, hstring]
        have hr : r.render { ctx with scope := sc s } = _ := render_of_string hs'
        simp only [hr, Except.map, Fragment.fillAll_hole, true_and]
        rfl
      · exact hsame fun s => by rw [he, he, hfixed s []]
    · exact hsame fun s => evaluate_holed hs hroot hv s []

end Holes

/-! ## The whole rendering -/

/-- **Texts of the data bring in no template code.** If a name is only shown, there is one outcome, an error or a list
of fragments with holes, such that for every text that the data bind to the name the rendering ends in that error, or
in the fragments with the text in the holes, with the same statistics. -/
theorem render_fills_holes (source v : Text) (data : Entries Value) (ctx : Context)
    (hsource : ∀ o ∈ Occurrence.inSource ctx.library source, o.OnlyShows v)
    (htemplates : ∀ t ∈ ctx.templates, ∀ o ∈ Occurrence.inSource ctx.library t.source, o.OnlyShows v) :
    ∃ (outcome : Except RenderError (List Fragment)) (stats : Stats), ∀ s : Text,
      let rendering := render source { ctx with scope := .root (.mapping (Entries.insert v (.string s) data)) }
      rendering.result = outcome.map (Fragment.fillAll s) ∧ Stats.ofTrace rendering.trace = stats := by
  obtain ⟨x, hx⟩ := (holes v).texts_render ctx source (fun o ho => holes_suits (hsource o ho))
    (fun t ht o ho => holes_suits (htemplates t ht o ho)) (holedScopes_root v data)
  exact ⟨x.result, Stats.ofTrace x.trace, hx⟩

/-- A page that includes a card for each of its rows. -/
def cardPage : Text :=
  "<p x-for='rows' title='\x7b\x7b name \x7d\x7d'><Card on='\x7b\x7b item \x7d\x7d'/>\x7b\x7b item \x7d\x7d</p>".text

/-- A card that may show a name as it is. -/
def card : Template := ⟨"card".text, "<b x-if='on'>\x7b\x7b\x7bname\x7d\x7d\x7d</b>".text, none⟩

/-- The start of a rendering of the page. -/
def cardContext : Context := ⟨[card], true, ⟨[]⟩, [], 0, 50, []⟩

theorem render_fills_holes_cardPage :
    (∀ o ∈ Occurrence.inSource cardContext.library cardPage, o.OnlyShows "name".text) ∧
      (∀ t ∈ cardContext.templates, ∀ o ∈ Occurrence.inSource cardContext.library t.source,
        o.OnlyShows "name".text) ∧
      ∃ (outcome : Except RenderError (List Fragment)) (stats : Stats), ∀ s : Text,
        let data := Entries.insert "name".text (.string s) [("rows".text, .list [.null, .bool true])]
        let rendering := render cardPage { cardContext with scope := .root (.mapping data) }
        rendering.result = outcome.map (Fragment.fillAll s) ∧ Stats.ofTrace rendering.trace = stats := by
  have hpage : ∀ o ∈ Occurrence.inSource cardContext.library cardPage, o.OnlyShows "name".text := by
    decide +kernel
  have hcard : ∀ t ∈ cardContext.templates, ∀ o ∈ Occurrence.inSource cardContext.library t.source,
      o.OnlyShows "name".text := by decide +kernel
  exact ⟨hpage, hcard, render_fills_holes cardPage "name".text _ cardContext hpage hcard⟩

end HtmlTemplate
