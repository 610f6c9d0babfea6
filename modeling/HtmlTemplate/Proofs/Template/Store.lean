import HtmlTemplate.Proofs.Text.Normal
import HtmlTemplate.Proofs.Text.Order
import HtmlTemplate.Template.Registry

/-!
# Names and look-ups

The normal form of a name is its own normal form (`normalName_normalName`), and it is empty if nothing but blanks is in
the name (`normalName_eq_nil_iff`). Templates that are added one after the other hold, for each name, the last one that
was added (`find?_insertAll`). As long as no two have one name and every name is in its normal form (`Ordered`), the
three ways to ask for a name agree, and the names are listed in strictly ascending order (`Ordered.coherent`).
-/

namespace HtmlTemplate

/-! ## Normal forms -/

namespace Config

variable (config : Config)

theorem normalName_eq (name : Text) :
    config.normalName name = name.trim ∨ config.normalName name = name.trim.lower := by
  rw [normalName, Template.normalName]
  split
  · exact .inr rfl
  · exact .inl rfl

theorem normalName_normalName (name : Text) :
    config.normalName (config.normalName name) = config.normalName name := by
  simp only [normalName, Template.normalName]
  split
  · rw [Text.trim_of_firm (Text.firm_trim name).lower, Text.lower_lower]
  · exact Text.trim_trim name

theorem normalName_eq_nil_iff {name : Text} : config.normalName name = [] ↔ name.allBlank = true := by
  rcases config.normalName_eq name with h | h
  · rw [h, Text.trim_eq_nil_iff]
  · rw [h, Text.lower_eq_nil_iff, Text.trim_eq_nil_iff]

end Config

namespace Templates

/-! ## The template of a name -/

theorem mem_of_find? {templates : Templates} {name : Text} {t : Template} (h : find? templates name = some t) :
    t ∈ templates ∧ t.name = name :=
  ⟨List.mem_of_find?_eq_some h, by simpa using List.find?_some h⟩

theorem isSome_find?_iff {templates : Templates} {name : Text} :
    (find? templates name).isSome = true ↔ name ∈ templates.map Template.name := by
  simp [find?, List.find?_isSome]

/-- Adds templates one after the other. -/
def insertAll (added : List Template) (templates : Templates) : Templates :=
  added.foldl (fun templates t => insert t templates) templates

theorem insertAll_append (front back : List Template) (templates : Templates) :
    insertAll (front ++ back) templates = insertAll back (insertAll front templates) := List.foldl_append

/-- Of the templates that are added under a name the last one counts. -/
theorem find?_insertAll (added : List Template) (templates : Templates) (name : Text) :
    find? (insertAll added templates) name = (find? added.reverse name).or (find? templates name) := by
  induction added generalizing templates with
  | nil => rfl
  | cons t rest ih =>
    have hreverse : find? (t :: rest).reverse name = (find? rest.reverse name).or (find? [t] name) := by
      rw [List.reverse_cons, find?, List.find?_append]
      rfl
    have hinsert : find? (insert t templates) name = (find? [t] name).or (find? templates name) := by
      by_cases hname : name = t.name
      · rw [hname, find?_insert_self]
        simp [find?]
      · rw [find?_insert_of_ne t templates hname]
        simp [find?, Ne.symm hname]
    rw [insertAll, List.foldl_cons, ← insertAll, ih, hreverse, hinsert, Option.or_assoc]

/-! ## Templates in order -/

/-- Whether no two templates have one name, and every name is in its normal form. -/
structure Ordered (config : Config) (templates : Templates) : Prop where
  distinct : (templates.map Template.name).Nodup
  normal : ∀ t ∈ templates, config.normalName t.name = t.name

theorem mem_insert {t u : Template} {templates : Templates} (h : u ∈ insert t templates) : u = t ∨ u ∈ templates := by
  induction templates with
  | nil => exact .inl (List.mem_singleton.mp h)
  | cons v rest ih =>
    rw [insert] at h
    split at h
    · exact (List.mem_cons.mp h).imp_right (List.mem_cons_of_mem v)
    · rcases List.mem_cons.mp h with rfl | h
      · exact .inr List.mem_cons_self
      · exact (ih h).imp_right (List.mem_cons_of_mem v)

theorem nodup_insert (t : Template) {templates : Templates} (h : (templates.map Template.name).Nodup) :
    ((insert t templates).map Template.name).Nodup := by
  induction templates with
  | nil => exact List.nodup_cons.mpr ⟨List.not_mem_nil, List.nodup_nil⟩
  | cons u rest ih =>
    rw [List.map_cons, List.nodup_cons] at h
    rw [insert]
    split
    · rename_i hname
      rw [List.map_cons, List.nodup_cons, ← hname]
      exact h
    · rename_i hname
      rw [List.map_cons, List.nodup_cons]
      refine ⟨fun hmem => ?_, ih h.2⟩
      obtain ⟨v, hv, hvname⟩ := List.mem_map.mp hmem
      rcases mem_insert hv with rfl | hv
      · exact hname hvname.symm
      · exact h.1 (hvname ▸ List.mem_map_of_mem hv)

theorem ordered_nil (config : Config) : Ordered config [] where
  distinct := List.nodup_nil
  normal := nofun

theorem Ordered.insert {config : Config} {templates : Templates} (h : Ordered config templates) {t : Template}
    (ht : config.normalName t.name = t.name) : Ordered config (insert t templates) where
  distinct := nodup_insert t h.distinct
  normal u hu := (mem_insert hu).elim (fun heq => heq ▸ ht) (h.normal u)

theorem Ordered.insertAll {config : Config} {added : List Template} {templates : Templates}
    (h : Ordered config templates) (hadded : ∀ t ∈ added, config.normalName t.name = t.name) :
    Ordered config (insertAll added templates) := by
  induction added generalizing templates with
  | nil => exact h
  | cons t rest ih =>
    obtain ⟨ht, hrest⟩ := List.forall_mem_cons.mp hadded
    exact ih (h.insert ht) hrest

/-! ## Asking for names -/

theorem mem_names_iff {templates : Templates} {name : Text} :
    name ∈ names templates ↔ name ∈ templates.map Template.name := List.mem_mergeSort

theorem mem_names_insertAll {added : List Template} {name : Text} :
    name ∈ names (insertAll added []) ↔ ∃ t ∈ added, t.name = name := by
  rw [mem_names_iff, ← isSome_find?_iff, find?_insertAll]
  simp [find?, List.find?_isSome]

theorem Ordered.ascending {config : Config} {templates : Templates} (h : Ordered config templates) :
    (names templates).Pairwise (· < ·) := by
  have hdistinct : ((templates.map Template.name).map id).Nodup := by simpa using h.distinct
  exact Text.pairwise_lt_mergeSort id hdistinct

/-- What holds of the ways to ask for a template. -/
structure Coherent (config : Config) (templates : Templates) : Prop where
  key : ∀ name t, find? templates name = some t → t.name = name ∧ config.normalName name = name
  get_name : ∀ t ∈ templates, get config t.name templates = .ok t
  get_iff : ∀ name, (∃ t, get config name templates = .ok t) ↔ contains config name templates = true
  contains_iff : ∀ name, contains config name templates = true ↔ config.normalName name ∈ names templates
  miss : ∀ name e, get config name templates = .error e → e = .notFound name ∧
    ∃ message, e.report = .about "TemplateNotFoundError" message [("name", .string name)]
  listed : ∀ name, name ∈ names templates ↔ ∃ t, find? templates name = some t
  ascending : (names templates).Pairwise (· < ·)

theorem find?_of_mem {templates : Templates} (h : (templates.map Template.name).Nodup) {t : Template}
    (ht : t ∈ templates) : find? templates t.name = some t := by
  induction templates with
  | nil => cases ht
  | cons u rest ih =>
    rw [List.map_cons, List.nodup_cons] at h
    rcases List.mem_cons.mp ht with rfl | ht
    · simp [find?]
    · have hne : u.name ≠ t.name := fun heq => h.1 (heq ▸ List.mem_map_of_mem ht)
      simpa [find?, hne] using ih h.2 ht

theorem Ordered.coherent {config : Config} {templates : Templates} (h : Ordered config templates) :
    Coherent config templates where
  key name t hfind := by
    obtain ⟨hmem, rfl⟩ := mem_of_find? hfind
    exact ⟨rfl, h.normal t hmem⟩
  get_name t ht := by rw [get, h.normal t ht, find?_of_mem h.distinct ht]
  get_iff name := by
    rw [get, contains]
    cases find? templates (config.normalName name) with
    | none => exact iff_of_false (fun ⟨t, ht⟩ => by cases ht) Bool.false_ne_true
    | some t => exact iff_of_true ⟨t, rfl⟩ rfl
  contains_iff name := by rw [contains, isSome_find?_iff, mem_names_iff]
  miss name e he := by
    rw [get] at he
    split at he
    · cases he
    · cases he
      exact ⟨rfl, _, rfl⟩
  listed name := by rw [mem_names_iff, ← isSome_find?_iff, Option.isSome_iff_exists]
  ascending := h.ascending

end Templates

end HtmlTemplate
