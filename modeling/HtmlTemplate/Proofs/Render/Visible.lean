import HtmlTemplate.Proofs.Expr.Names
import HtmlTemplate.Proofs.Render.Accord

/-!
# What a rendering sees of its scope

A rendering sees nothing of a scope but what the names mean that the expressions of the source and of the templates
mention: two scopes that agree on these names give the same rendering, with the same failures and the same trace
(`render_sees_names`). So the layers of a scope may be made into one (`Scope.flat`), and bindings of other names may be
left out or added (`Scope.only`).

The renderings in two scopes are a family with two members, and that they are the same is an `Accord`.
-/

namespace HtmlTemplate

/-! ## Scopes that agree -/

namespace Scope

/-- The scope with a single layer, which binds each name that is bound to what it means. -/
def flat (s : Scope) : Scope := ⟨[s.names.map fun name => (name, s.resolve name)]⟩

/-- The scope without the bindings of names that are not among `names`. -/
def only (names : List Text) (s : Scope) : Scope := ⟨s.layers.map fun layer => layer.filter fun e => names.contains e.1⟩

variable {s : Scope} {name : Text}

theorem isSome_lookup_iff {layer : Layer} : (layer.lookup name).isSome = true ↔ name ∈ Entries.keys layer := by
  rw [List.lookup_isSome_iff, Entries.keys, List.mem_map]
  constructor
  · rintro ⟨e, he, hk⟩
    exact ⟨e, he, (beq_iff_eq.mp hk).symm⟩
  · rintro ⟨e, he, rfl⟩
    exact ⟨e, he, beq_self_eq_true _⟩

theorem mem_names_iff : name ∈ s.names ↔ (s.find? name).isSome = true := by
  simp only [names, find?, List.mem_mergeSort, List.mem_eraseDups, List.mem_flatMap, List.isSome_findSome?,
    List.any_eq_true, isSome_lookup_iff]

theorem lookup_map_pair (names : List Text) (f : Text → Value) (name : Text) :
    (names.map fun n => (n, f n)).lookup name = if name ∈ names then some (f name) else none := by
  induction names with
  | nil => rfl
  | cons n rest ih =>
    rw [List.map_cons, List.lookup_cons, ih]
    by_cases h : name = n
    · simp [h]
    · have hb : (name == n) = false := by simpa using h
      simp [hb, h]

/-- In one layer every name means what it means in all of them. -/
theorem resolve_flat (s : Scope) (name : Text) : s.flat.resolve name = s.resolve name := by
  have hlookup : s.flat.resolve name = ((s.names.map fun n => (n, s.resolve n)).lookup name).getD .undefined := by
    simp [flat, resolve, find?]
  rw [hlookup, lookup_map_pair]
  split
  · rfl
  · rename_i h
    rw [mem_names_iff, Option.not_isSome_iff_eq_none] at h
    rw [resolve, h]

theorem lookup_filter_keys (names : List Text) (hn : name ∈ names) (layer : Layer) :
    (layer.filter fun e => names.contains e.1).lookup name = layer.lookup name := by
  induction layer with
  | nil => rfl
  | cons e rest ih =>
    obtain ⟨key, v⟩ := e
    by_cases h : name = key
    · subst h
      simp [hn]
    · have hb : (name == key) = false := by simpa using h
      rw [List.filter_cons]
      split
      · rw [List.lookup_cons, List.lookup_cons, hb, ih]
      · rw [List.lookup_cons, hb, ih]

theorem resolve_only {names : List Text} (hn : name ∈ names) : (s.only names).resolve name = s.resolve name := by
  have hfun : ((·.lookup name) ∘ fun layer : Layer => layer.filter fun e => names.contains e.1) =
      fun layer : Layer => layer.lookup name := funext (lookup_filter_keys names hn)
  rw [resolve, resolve, find?, find?, only, List.findSome?_map, hfun]

/-- A layer that does not bind a name changes nothing about its meaning, wherever it stands. -/
theorem resolve_insert_layer {inner outer : List Layer} {extra : Layer} (hn : name ∉ Entries.keys extra) :
    (Scope.mk (inner ++ extra :: outer)).resolve name = (Scope.mk (inner ++ outer)).resolve name := by
  have hnone : extra.lookup name = none := by
    rw [← Option.not_isSome_iff_eq_none, isSome_lookup_iff]
    exact hn
  simp only [resolve, find?, List.findSome?_append, List.findSome?_cons, hnone]

end Scope

/-! ## Names of a source -/

/-- The names that an expression of a source mentions. -/
def Occurrence.names : Occurrence → List Text
  | .shown r => Expr.namesIn r.expression
  | .used e => Expr.namesIn e

/-- The names that the expressions of a source and of the templates mention. -/
def Library.namesSeen (lib : Library) (source : Text) : List Text :=
  (source :: lib.templates.map Template.source).flatMap fun s => (Occurrence.inSource lib s).flatMap Occurrence.names

/-- What two renderings have in common whose scopes agree on some names: they are the same. -/
def agreement (names : List Text) : Accord Bool where
  scopes sc := ∀ name ∈ names, (sc true).resolve name = (sc false).resolve name
  texts f := f true = f false
  child layer h name hn := by rw [Scope.resolve_child, Scope.resolve_child, h name hn]
  same _ := rfl
  after x _ h := congrArg x.andThen (funext h)
  append {f g} hf hg := by
    show (f true).andThen (fun front => (g true).map (front ++ ·)) = _
    rw [hf, hg]

/-- Scopes that agree on the names of an expression suit it. -/
theorem agreement_suits {names : List Text} {o : Occurrence} (h : ∀ name ∈ o.names, name ∈ names) :
    (agreement names).Suits o := by
  cases o with
  | used e =>
    refine fun sc hs => ⟨evaluate e (sc true), fun i => ?_⟩
    cases i with
    | true => rfl
    | false => exact (Expr.evaluate_congr fun name hn => hs name (h name hn)).symm
  | shown r =>
    intro ctx sc hs
    have he : evaluate r.expression (sc true) = evaluate r.expression (sc false) :=
      Expr.evaluate_congr fun name hn => hs name (h name hn)
    show r.render { ctx with scope := sc true } = r.render { ctx with scope := sc false }
    simp only [Region.render, Rendering.evaluateCounted, Rendering.evaluate, he]

/-! ## The whole rendering -/

/-- Scopes that agree on the names that are mentioned give the same rendering. -/
theorem render_congr_scope (source : Text) (ctx : Context) {s t : Scope}
    (h : ∀ name ∈ ctx.library.namesSeen source, s.resolve name = t.resolve name) :
    render source { ctx with scope := s } = render source { ctx with scope := t } := by
  have hsuits : ∀ u ∈ source :: ctx.templates.map Template.source, ∀ o ∈ Occurrence.inSource ctx.library u,
      (agreement (ctx.library.namesSeen source)).Suits o := fun u hu o ho => agreement_suits fun name hn =>
    List.mem_flatMap.mpr ⟨u, hu, List.mem_flatMap.mpr ⟨o, ho, hn⟩⟩
  have hscopes : (agreement (ctx.library.namesSeen source)).scopes fun first => if first then s else t := h
  exact (agreement (ctx.library.namesSeen source)).texts_render ctx source (hsuits source List.mem_cons_self)
    (fun template ht => hsuits template.source (List.mem_cons_of_mem _ (List.mem_map_of_mem ht))) hscopes

/-- **A rendering sees only the names that are mentioned.** Scopes that agree on them give the same rendering: the same
text or the same failure, and the same trace. So one layer does for all, with the inner bindings winning; bindings of
other names may be left out of every layer; and a layer of such bindings may be put in anywhere. -/
theorem render_sees_names (source : Text) (ctx : Context) :
    let seen := ctx.library.namesSeen source
    let rendering (s : Scope) := render source { ctx with scope := s }
    (∀ s t : Scope, (∀ name ∈ seen, s.resolve name = t.resolve name) → rendering s = rendering t) ∧
      (∀ s : Scope, rendering s.flat = rendering s) ∧
      (∀ s : Scope, rendering (s.only seen) = rendering s) ∧
      ∀ (inner outer : List Layer) (extra : Layer), (∀ name ∈ seen, name ∉ Entries.keys extra) →
        rendering ⟨inner ++ extra :: outer⟩ = rendering ⟨inner ++ outer⟩ := by
  refine ⟨fun s t => render_congr_scope source ctx, fun s => ?_, fun s => ?_, fun inner outer extra h => ?_⟩
  · exact render_congr_scope source ctx fun name _ => s.resolve_flat name
  · exact render_congr_scope source ctx fun name hn => Scope.resolve_only hn
  · exact render_congr_scope source ctx fun name hn => Scope.resolve_insert_layer (h name hn)

/-- A list whose items are shown by a template. -/
def badgeList : Text := "<li x-for='rows' x-if='item'><Badge label='\x7b\x7b title \x7d\x7d'/></li>".text

/-- The start of a rendering of the list. -/
def badgeContext : Context where
  templates := [⟨"badge".text, "<b>\x7b\x7b label \x7d\x7d \x7b\x7b $index \x7d\x7d</b>".text, none⟩]
  ignoreCase := true
  scope := ⟨[]⟩
  path := []
  depth := 0
  ceiling := 50
  template := []

theorem render_sees_names_badgeList :
    let rows : Text × Value := ("rows".text, .list [.null, .bool true])
    let title : Text × Value := ("title".text, .string ['t'])
    let other : Text × Value := ("other".text, .null)
    let layered : Scope := ⟨[[title], [("title".text, .null), other], [rows]]⟩
    let rendering (s : Scope) := render badgeList { badgeContext with scope := s }
    (∀ name ∈ badgeContext.library.namesSeen badgeList,
        layered.resolve name = (Scope.mk [[rows, title]]).resolve name) ∧
      rendering layered = rendering ⟨[[rows, title]]⟩ ∧
      (∀ name ∈ badgeContext.library.namesSeen badgeList, name ∉ Entries.keys [other]) ∧
      rendering ⟨[[title], [other], [rows]]⟩ = rendering ⟨[[title], [rows]]⟩ := by
  intro rows title other layered rendering
  have hseen : badgeContext.library.namesSeen badgeList =
      ["rows", "item", "title", "label", "$index"].map String.text := by decide +kernel
  have hagree : ∀ name ∈ badgeContext.library.namesSeen badgeList,
      layered.resolve name = (Scope.mk [[rows, title]]).resolve name := by
    rw [hseen]
    simp only [List.map_cons, List.map_nil, List.forall_mem_cons]
    exact ⟨rfl, rfl, rfl, rfl, rfl, fun _ h => nomatch h⟩
  have hother : ∀ name ∈ badgeContext.library.namesSeen badgeList, name ∉ Entries.keys [other] := by
    rw [hseen]
    decide +kernel
  obtain ⟨hsame, -, -, hextra⟩ := render_sees_names badgeList badgeContext
  exact ⟨hagree, hsame _ _ hagree, hother, hextra [[title]] [[rows]] [other] hother⟩

end HtmlTemplate
