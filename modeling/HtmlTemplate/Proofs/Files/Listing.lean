import HtmlTemplate.Proofs.Files.Walk
import HtmlTemplate.Proofs.Value.Entries
import HtmlTemplate.Template.Registry
import Mathlib.Data.List.Sort

/-!
# The order in which directories list their entries

A system lists the entries of a directory in any order. Two listings of one tree (`Relisted`) hold the same files, and
paths lead to listings of the same directory in both (`find_relisted`). As a walk finds each wanted file once, in the
order of the places, it finds the same sequence in both (`walk_relisted`), so the same templates are loaded from both.
-/

namespace HtmlTemplate

namespace FileTree

/-! ## Listings of one tree -/

/-- Whether two trees are listings of one: the same files, and directories with the same names in any order, under each
of which are listings of one tree again. -/
inductive Relisted : FileTree → FileTree → Prop
  | file (content : Bytes) : Relisted (.file content) (.file content)
  | directory {entries entries' : List (Text × FileTree)} :
      (Entries.keys entries).Perm (Entries.keys entries') →
      (∀ name t u, (name, t) ∈ entries → (name, u) ∈ entries' → Relisted t u) →
      Relisted (.directory entries) (.directory entries')

section

variable {wanted : Text → Bool} {dir : Path} {entries entries' : List (Text × FileTree)} {t u : FileTree}
  {f : FoundFile}

theorem Relisted.symm (h : t.Relisted u) : u.Relisted t := by
  induction h with
  | file content => exact .file content
  | directory hkeys _ ih => exact .directory hkeys.symm fun name t u ht hu => ih name u t hu ht

/-- What is listed in one order is listed in another one. -/
theorem Relisted.entry (h : (FileTree.directory entries).Relisted (.directory entries')) {name : Text}
    (ht : (name, t) ∈ entries) : ∃ u, (name, u) ∈ entries' ∧ t.Relisted u := by
  cases h with
  | directory hkeys hentries =>
    have hname : name ∈ Entries.keys entries' := hkeys.subset (List.mem_map_of_mem ht)
    obtain ⟨⟨_, u⟩, hu, rfl⟩ := List.mem_map.mp hname
    exact ⟨u, hu, hentries _ t u ht hu⟩

theorem Relisted.nodup_keys (h : (FileTree.directory entries).Relisted (.directory entries'))
    (hkeys : (Entries.keys entries).Nodup) : (Entries.keys entries').Nodup := by
  cases h with
  | directory hperm _ => exact hperm.nodup_iff.mp hkeys

theorem Distinct.relisted (h : t.Relisted u) (ht : t.Distinct) : u.Distinct := by
  induction h with
  | file content => exact ht
  | directory hkeys hentries ih =>
    refine .directory (hkeys.nodup_iff.mp ht.keys) fun e he => ?_
    obtain ⟨t, hmem, -⟩ := (Relisted.directory hkeys hentries).symm.entry he
    exact ih e.1 t e.2 hmem he (ht.entry hmem)

/-- A tree without two entries of one name in a directory is a listing of itself. -/
theorem Relisted.refl (h : t.Distinct) : t.Relisted t := by
  induction h with
  | file content => exact .file content
  | directory hkeys _ ih =>
    refine .directory (.refl _) fun name t u ht hu => ?_
    obtain rfl := Entries.eq_of_mem_of_mem hkeys ht hu
    exact ih _ ht

/-- A directory may list its entries in any order. -/
theorem Relisted.of_perm (h : (FileTree.directory entries).Distinct) (hperm : entries.Perm entries') :
    (FileTree.directory entries).Relisted (.directory entries') := by
  refine .directory (hperm.map Prod.fst) fun name t u ht hu => ?_
  obtain rfl := Entries.eq_of_mem_of_mem h.keys ht (hperm.mem_iff.mpr hu)
  exact .refl (h.entry ht)

/-! ## Walking and finding -/

theorem Holds.relisted (h : Holds dir t f) (hlisted : t.Relisted u) : Holds dir u f := by
  induction h generalizing u with
  | here hmem =>
    cases hlisted with
    | directory hkeys hentries =>
      obtain ⟨u, hu, hfile⟩ := (Relisted.directory hkeys hentries).entry hmem
      cases hfile
      exact .here hu
  | inside hmem _ ih =>
    cases hlisted with
    | directory hkeys hentries =>
      obtain ⟨u, hu, hlisted⟩ := (Relisted.directory hkeys hentries).entry hmem
      exact .inside hu (ih hlisted)

/-- A walk finds the same files in the same order, however the directories list their entries. -/
theorem walk_relisted (h : t.Distinct) (hlisted : t.Relisted u) : walk wanted dir t = walk wanted dir u := by
  have : Std.Asymm fun f g : FoundFile => Precedes f.path.parts g.path.parts := ⟨fun _ _ => Precedes.asymm⟩
  refine (pairwise_walk h wanted dir).eq_of_mem_iff (pairwise_walk (h.relisted hlisted) wanted dir) fun f => ?_
  rw [mem_walk, mem_walk]
  exact and_congr_left' ⟨fun h => h.relisted hlisted, fun h => h.relisted hlisted.symm⟩

/-- The same path leads to listings of one tree, or nowhere for the same reason. -/
theorem find_relisted {above above' : List FileTree} (names : List Text) (ht : t.Distinct) (hlisted : t.Relisted u)
    (habove : List.Forall₂ (fun p q => p.Distinct ∧ p.Relisted q) above above') :
    (∃ e, find above t names = .error e ∧ find above' u names = .error e) ∨
      ∃ p q, find above t names = .ok p ∧ find above' u names = .ok q ∧ p.Distinct ∧ p.Relisted q := by
  induction names generalizing above above' t u with
  | nil => exact .inr ⟨t, u, by rw [find], by rw [find], ht, hlisted⟩
  | cons name rest ih =>
    cases hlisted with
    | file content => exact .inl ⟨.notDirectory, by rw [find], by rw [find]⟩
    | @directory entries entries' hkeys hentries =>
      have hlisted := Relisted.directory hkeys hentries
      rw [find.eq_def above, find.eq_def above']
      dsimp only
      by_cases hdots : name = "..".text
      · rw [if_pos hdots, if_pos hdots]
        -- two dots lead back to directories that are listings of one tree, for they have been passed
        cases habove with
        | nil => exact .inl ⟨.notFound, rfl, rfl⟩
        | cons hparent hothers => exact ih hparent.1 hparent.2 hothers
      · rw [if_neg hdots, if_neg hdots]
        cases hfound : entries.lookup name with
        | none =>
          have hnone : entries'.lookup name = none := by
            rw [Entries.lookup_eq_none_iff] at hfound ⊢
            exact fun h => hfound (hkeys.symm.subset h)
          rw [hnone]
          exact .inl ⟨.notFound, rfl, rfl⟩
        | some p =>
          have hmem := (Entries.lookup_eq_some_iff_mem ht.keys).mp hfound
          obtain ⟨q, hq, hpq⟩ := hlisted.entry hmem
          rw [(Entries.lookup_eq_some_iff_mem (hlisted.nodup_keys ht.keys)).mpr hq]
          exact ih (ht.entry hmem) hpq (.cons ⟨ht, hlisted⟩ habove)

end

end FileTree

/-! ## Loading -/

section

variable {fs : FileSystem} {listed : FileTree}

/-- A path leads to listings of one tree, or nowhere for the same reason. -/
theorem FileSystem.find_relisted (h : fs.tree.Distinct) (hlisted : fs.tree.Relisted listed) (p : Path) :
    (∃ e, fs.find p = .error e ∧ { fs with tree := listed }.find p = .error e) ∨
      ∃ t u, fs.find p = .ok t ∧ { fs with tree := listed }.find p = .ok u ∧ t.Distinct ∧ t.Relisted u := by
  rw [find, find]
  have hbelow : { fs with tree := listed }.below? p = fs.below? p := rfl
  rw [hbelow]
  cases p.text.unnameable? with
  | some why => exact .inl ⟨.unnameable why, rfl, rfl⟩
  | none =>
    cases fs.below? p with
    | none => exact .inl ⟨.notFound, rfl, rfl⟩
    | some names => exact FileTree.find_relisted names h hlisted .nil

theorem FileSystem.distinct_of_find (h : fs.tree.Distinct) {p : Path} {t : FileTree} (ht : fs.find p = .ok t) :
    t.Distinct := by
  rcases find_relisted h (.refl h) p with ⟨e, he, -⟩ | ⟨u, -, hu, -, hdistinct, -⟩
  · rw [ht] at he
    cases he
  · rw [ht] at hu
    cases hu
    exact hdistinct

theorem FileSystem.walk?_relisted (h : fs.tree.Distinct) (hlisted : fs.tree.Relisted listed) (wanted : Text → Bool)
    (root : Path) : { fs with tree := listed }.walk? wanted root = fs.walk? wanted root := by
  rw [walk?, walk?]
  rcases find_relisted h hlisted root with ⟨e, ht, hu⟩ | ⟨t, u, ht, hu, hdistinct, htu⟩
  · rw [ht, hu]
  · rw [ht, hu]
    cases htu with
    | file content => rfl
    | directory hkeys hentries =>
      exact congrArg some (FileTree.walk_relisted hdistinct (.directory hkeys hentries)).symm

theorem Templates.load_relisted (h : fs.tree.Distinct) (hlisted : fs.tree.Relisted listed) (config : Config) :
    load config { fs with tree := listed } = load config fs := by
  have hdirectories : ∀ roots, addDirectories config { fs with tree := listed } roots =
      addDirectories config fs roots := by
    intro roots
    induction roots with
    | nil => rfl
    | cons root rest ih =>
      funext templates
      rw [addDirectories, addDirectories, ih, FileSystem.walk?_relisted h hlisted]
  rw [load, load, hdirectories]

theorem Text.any_hasExtension_iff {extensions : List Text} {name : Text} :
    extensions.any name.hasExtension = true ↔ ∃ ext ∈ extensions, ext ≠ [] ∧ ext.lower <:+ name.lower := by
  simp [hasExtension]

/-- **Walking is complete, and the order of listing does not matter.** Let no two entries of a directory have one name.
However the directories list their entries, a walk for a list of extensions finds the same sequence of files, and the
same templates are loaded with the same words to the log. Below a directory a walk finds exactly the files whose names
end in an extension that is not empty, in any case of the letters; it finds each once; and it finds those of a
directory in the order of their names before those of the directories in it, again in the order of their names. -/
theorem FileSystem.walk?_of_any_listing (h : fs.tree.Distinct) (hlisted : fs.tree.Relisted listed) :
    (∀ (extensions : List Text) (root : Path),
      { fs with tree := listed }.walk? (fun name => extensions.any name.hasExtension) root =
          fs.walk? (fun name => extensions.any name.hasExtension) root ∧
        ∀ entries, fs.find root = .ok (.directory entries) →
          ∃ files, fs.walk? (fun name => extensions.any name.hasExtension) root = some files ∧
            (∀ f, f ∈ files ↔ FileTree.Holds root (.directory entries) f ∧
              ∃ ext ∈ extensions, ext ≠ [] ∧ ext.lower <:+ f.name.lower) ∧
            (files.map FoundFile.path).Nodup ∧
            files.Pairwise fun f g => FileTree.Precedes f.path.parts g.path.parts) ∧
    ∀ config, Templates.load config { fs with tree := listed } = Templates.load config fs := by
  refine ⟨fun extensions root => ⟨walk?_relisted h hlisted _ root, fun entries hentries => ?_⟩,
    Templates.load_relisted h hlisted⟩
  have hdistinct := distinct_of_find h hentries
  refine ⟨_, by rw [walk?, hentries], fun f => ?_, FileTree.nodup_paths_walk hdistinct _ root,
    FileTree.pairwise_walk hdistinct _ root⟩
  rw [FileTree.mem_walk, Text.any_hasExtension_iff]

/-- Two templates, and a directory with another one and with notes. -/
def FileSystem.site : FileSystem where
  directory := ⟨['/'], []⟩
  tree := .directory [("a.t".text, .file []), ("b.t".text, .file []),
    ("d".text, .directory [("c.T".text, .file []), ("c.x".text, .file [])])]
  homes := ⟨none, []⟩

/-- Another listing of them. -/
def FileTree.siteTurned : FileTree :=
  .directory [("d".text, .directory [("c.x".text, .file []), ("c.T".text, .file [])]),
    ("b.t".text, .file []), ("a.t".text, .file [])]

theorem FileSystem.walk?_of_any_listing_site :
    site.tree.Distinct ∧ site.tree.Relisted FileTree.siteTurned ∧
      ({ site with tree := FileTree.siteTurned }.walk? (fun name => [".t".text, []].any name.hasExtension)
        site.directory).map (List.map (Path.parts ∘ FoundFile.path)) =
          some [["a.t".text], ["b.t".text], ["d".text, "c.T".text]] := by
  have hinner : (FileTree.directory [("c.T".text, .file []), ("c.x".text, .file [])]).Distinct :=
    .directory (by decide) (by simp [FileTree.Distinct.file])
  have hdistinct : site.tree.Distinct := by
    refine .directory (by decide) ?_
    simp only [List.forall_mem_cons]
    exact ⟨.file [], .file [], hinner, nofun⟩
  have hlisted : site.tree.Relisted FileTree.siteTurned := by
    refine .directory (by decide) fun name t u ht hu => ?_
    simp only [List.mem_cons, List.not_mem_nil, Prod.mk.injEq, or_false] at ht hu
    rcases ht with ⟨rfl, rfl⟩ | ⟨rfl, rfl⟩ | ⟨rfl, rfl⟩ <;>
      obtain ⟨hname, rfl⟩ | ⟨hname, rfl⟩ | ⟨hname, rfl⟩ := hu <;> cases hname
    · exact .file []
    · exact .file []
    · exact .of_perm hinner (.swap _ _ _)
  refine ⟨hdistinct, hlisted, ?_⟩
  rw [((walk?_of_any_listing hdistinct hlisted).1 _ _).1]
  have ha : [".t".text, []].any (Text.hasExtension "a.t".text) = true := by decide +kernel
  have hb : [".t".text, []].any (Text.hasExtension "b.t".text) = true := by decide +kernel
  have hT : [".t".text, []].any (Text.hasExtension "c.T".text) = true := by decide +kernel
  have hx : [".t".text, []].any (Text.hasExtension "c.x".text) = false := by decide +kernel
  have hwalk : site.walk? (fun name => [".t".text, []].any name.hasExtension) site.directory =
      some (FileTree.walk (fun name => [".t".text, []].any name.hasExtension) site.directory site.tree) := rfl
  rw [hwalk]
  simp only [site, FileTree.walk, FileTree.walks, FileTree.filesIn, ha, hb, hT, hx, if_true, Bool.false_eq_true,
    if_false]
  -- the files are listed in the order of their names
  simp (disch := decide) only [List.mergeSort_of_pairwise]
  rfl

end

end HtmlTemplate
