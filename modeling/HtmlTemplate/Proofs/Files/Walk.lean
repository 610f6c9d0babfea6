import HtmlTemplate.Files.Tree
import HtmlTemplate.Proofs.Text.Order

/-!
# What a walk finds

A walk finds the files below a directory whose names are wanted, wherever they are (`mem_walk`). If no two entries of a
directory have one name, it finds them in the order of their places (`pairwise_walk`): the files of a directory by their
names, then those of the directories in it, again by their names. No place comes before itself (`Precedes.asymm`), so
nothing is found twice.
-/

namespace HtmlTemplate.FileTree

/-! ## Trees -/

/-- What holds of every file, and of a directory if it holds of all that is in it, holds of every tree. -/
theorem induction_on_entries {motive : FileTree → Prop} (file : ∀ content, motive (.file content))
    (directory : ∀ entries, (∀ e ∈ entries, motive e.2) → motive (.directory entries)) : ∀ t, motive t
  | .file content => file content
  | .directory entries => directory entries fun e _ => induction_on_entries file directory e.2
termination_by t => sizeOf t
decreasing_by
  have hlt := List.sizeOf_lt_of_mem ‹e ∈ entries›
  obtain ⟨name, t⟩ := e
  rw [Prod.mk.sizeOf_spec] at hlt
  rw [FileTree.directory.sizeOf_spec]
  dsimp only
  omega

/-- Whether no two entries of a directory have one name, in a whole tree. -/
inductive Distinct : FileTree → Prop
  | file (content : Bytes) : Distinct (.file content)
  | directory {entries : List (Text × FileTree)} :
      (Entries.keys entries).Nodup → (∀ e ∈ entries, Distinct e.2) → Distinct (.directory entries)

/-- Whether a file is in the directory `dir`, which has that tree, or in a directory below it. -/
inductive Holds : Path → FileTree → FoundFile → Prop
  | here {dir : Path} {entries : List (Text × FileTree)} {name : Text} {content : Bytes} :
      (name, .file content) ∈ entries → Holds dir (.directory entries) ⟨dir.entry name, name, content⟩
  | inside {dir : Path} {entries : List (Text × FileTree)} {name : Text} {t : FileTree} {f : FoundFile} :
      (name, t) ∈ entries → Holds (dir.entry name) t f → Holds dir (.directory entries) f

section

variable {wanted : Text → Bool} {dir : Path} {entries : List (Text × FileTree)} {t : FileTree} {f : FoundFile}

theorem Distinct.keys (h : (FileTree.directory entries).Distinct) : (Entries.keys entries).Nodup := by
  cases h with
  | directory hkeys _ => exact hkeys

theorem Distinct.entry (h : (FileTree.directory entries).Distinct) {e : Text × FileTree} (he : e ∈ entries) :
    e.2.Distinct := by
  cases h with
  | directory _ hentries => exact hentries e he

/-- The place of a file in a directory goes on from that of the directory. -/
theorem Holds.exists_parts (h : Holds dir t f) : ∃ names, names ≠ [] ∧ f.path.parts = dir.parts ++ names := by
  induction h with
  | here _ => exact ⟨[_], List.cons_ne_nil _ _, rfl⟩
  | @inside _ _ name _ _ _ _ ih =>
    obtain ⟨names, -, hparts⟩ := ih
    exact ⟨name :: names, List.cons_ne_nil _ _, by simp [hparts, Path.entry]⟩

/-! ## Walking -/

theorem mem_filesIn :
    f ∈ filesIn wanted dir entries ↔
      (f.name, .file f.content) ∈ entries ∧ f.path = dir.entry f.name ∧ wanted f.name = true := by
  induction entries with
  | nil => simp [filesIn]
  | cons e rest ih =>
    obtain ⟨name, t⟩ := e
    cases t with
    | directory _ => simp [filesIn, ih]
    | file content =>
      rw [filesIn]
      split
      · rename_i hwanted
        obtain ⟨path, fileName, fileContent⟩ := f
        rw [List.mem_cons, ih, FoundFile.mk.injEq]
        simp only [List.mem_cons, Prod.mk.injEq, FileTree.file.injEq]
        constructor
        · rintro (⟨rfl, rfl, rfl⟩ | ⟨hmem, hpath, hname⟩)
          · exact ⟨.inl ⟨rfl, rfl⟩, rfl, hwanted⟩
          · exact ⟨.inr hmem, hpath, hname⟩
        · rintro ⟨⟨rfl, rfl⟩ | hmem, hpath, hname⟩
          · exact .inl ⟨hpath, rfl, rfl⟩
          · exact .inr ⟨hmem, hpath, hname⟩
      · rename_i hwanted
        rw [ih, List.mem_cons]
        refine ⟨fun ⟨hmem, h⟩ => ⟨.inr hmem, h⟩, fun ⟨hmem, hpath, hname⟩ => ⟨?_, hpath, hname⟩⟩
        rcases hmem with heq | hmem
        · rw [Prod.mk.injEq] at heq
          exact absurd (heq.1 ▸ hname) hwanted
        · exact hmem

theorem walks_eq_map (wanted : Text → Bool) (dir : Path) (entries : List (Text × FileTree)) :
    walks wanted dir entries = entries.map fun e => (e.1, walk wanted (dir.entry e.1) e.2) := by
  induction entries with
  | nil => rw [walks, List.map_nil]
  | cons e rest ih =>
    obtain ⟨name, t⟩ := e
    rw [walks, ih, List.map_cons]

/-- A walk finds exactly the files whose names are wanted. -/
theorem mem_walk : f ∈ walk wanted dir t ↔ Holds dir t f ∧ wanted f.name = true := by
  induction t using induction_on_entries generalizing dir with
  | file content =>
    rw [walk]
    exact iff_of_false List.not_mem_nil fun ⟨h, _⟩ => by cases h
  | directory entries ih =>
    rw [walk, List.mem_append, List.mem_mergeSort, mem_filesIn, List.mem_flatMap, walks_eq_map]
    constructor
    · rintro (⟨hmem, hpath, hwanted⟩ | ⟨found, hfound, hmem⟩)
      · obtain ⟨path, name, content⟩ := f
        obtain rfl : path = dir.entry name := hpath
        exact ⟨.here hmem, hwanted⟩
      · obtain ⟨e, he, rfl⟩ := List.mem_map.mp (List.mem_mergeSort.mp hfound)
        obtain ⟨hholds, hwanted⟩ := (ih e he).mp hmem
        exact ⟨.inside he hholds, hwanted⟩
    · rintro ⟨hholds, hwanted⟩
      cases hholds with
      | here hmem => exact .inl ⟨hmem, rfl, hwanted⟩
      | inside hmem hholds =>
        refine .inr ⟨_, List.mem_mergeSort.mpr (List.mem_map_of_mem hmem), ?_⟩
        exact (ih _ hmem).mpr ⟨hholds, hwanted⟩

end

/-! ## The order of places -/

/-- Whether the file at the names `p` comes before the one at the names `q`. Of two files in one directory the one with
the lesser name comes first, a file comes before all that is in a directory beside it, and of two directories the one
with the lesser name comes first, with all that is in it. -/
inductive Precedes : List Text → List Text → Prop
  | files {a b : Text} : a < b → Precedes [a] [b]
  | fileFirst (a b c : Text) (q : List Text) : Precedes [a] (b :: c :: q)
  | directories {a b : Text} (c d : Text) (p q : List Text) : a < b → Precedes (a :: c :: p) (b :: d :: q)
  | within {p q : List Text} (a : Text) : Precedes p q → Precedes (a :: p) (a :: q)

namespace Precedes

variable {p q : List Text}

theorem left_ne_nil (h : Precedes p q) : p ≠ [] := by cases h <;> exact List.cons_ne_nil _ _

theorem right_ne_nil (h : Precedes p q) : q ≠ [] := by cases h <;> exact List.cons_ne_nil _ _

protected theorem asymm (h : Precedes p q) : ¬ Precedes q p := by
  intro h'
  induction h with
  | files hlt =>
    cases h' with
    | files hlt' => exact lt_asymm hlt hlt'
    | within _ h' => exact h'.left_ne_nil rfl
  | fileFirst a b c q =>
    cases h' with
    | within _ h' => exact h'.right_ne_nil rfl
  | directories c d p q hlt =>
    cases h' with
    | directories _ _ _ _ hlt' => exact lt_asymm hlt hlt'
    | within _ _ => exact lt_irrefl _ hlt
  | within a h ih =>
    cases h' with
    | files hlt => exact lt_irrefl _ hlt
    | fileFirst _ _ _ _ => exact h.right_ne_nil rfl
    | directories _ _ _ _ hlt => exact lt_irrefl _ hlt
    | within _ h' => exact ih h'

protected theorem irrefl (p : List Text) : ¬ Precedes p p := fun h => h.asymm h

theorem append_left (front : List Text) (h : Precedes p q) : Precedes (front ++ p) (front ++ q) := by
  induction front with
  | nil => exact h
  | cons a front ih => exact .within a ih

/-- A file comes before what is below another name. -/
theorem file_of_ne_nil (a b : Text) (h : q ≠ []) : Precedes [a] (b :: q) := by
  obtain ⟨c, q, rfl⟩ := List.exists_cons_of_ne_nil h
  exact .fileFirst a b c q

theorem of_lt {a b : Text} (hlt : a < b) (hp : p ≠ []) (hq : q ≠ []) : Precedes (a :: p) (b :: q) := by
  obtain ⟨c, p, rfl⟩ := List.exists_cons_of_ne_nil hp
  obtain ⟨d, q, rfl⟩ := List.exists_cons_of_ne_nil hq
  exact .directories c d p q hlt

end Precedes

/-- The files of a directory are found under names of entries, each under one. -/
theorem nodup_names_filesIn {wanted : Text → Bool} {dir : Path} {entries : List (Text × FileTree)}
    (h : (Entries.keys entries).Nodup) : ((filesIn wanted dir entries).map FoundFile.name).Nodup := by
  refine h.sublist ?_
  induction entries with
  | nil => exact List.Sublist.refl _
  | cons e rest ih =>
    have ih := ih (List.nodup_cons.mp h).2
    obtain ⟨name, t⟩ := e
    cases t with
    | directory _ => exact ih.cons name
    | file content =>
      rw [filesIn]
      split
      · exact ih.cons_cons name
      · exact ih.cons name

/-- A walk finds files in the order of their places. -/
theorem pairwise_walk {t : FileTree} (h : t.Distinct) (wanted : Text → Bool) (dir : Path) :
    (walk wanted dir t).Pairwise fun f g => Precedes f.path.parts g.path.parts := by
  induction h generalizing dir with
  | file content => simp [walk]
  | @directory entries hkeys _ ih =>
    -- the place of what is found in an entry, as seen from the directory
    have hinside : ∀ e : Text × FileTree, ∀ f ∈ walk wanted (dir.entry e.1) e.2,
        ∃ names, names ≠ [] ∧ f.path.parts = dir.parts ++ e.1 :: names := by
      intro e f hf
      obtain ⟨names, hne, hparts⟩ := (mem_walk.mp hf).1.exists_parts
      exact ⟨names, hne, by simp [hparts, Path.entry]⟩
    have hfile : ∀ f ∈ (filesIn wanted dir entries).mergeSort (fun f g => Text.atMost f.name g.name),
        f.path.parts = dir.parts ++ [f.name] := by
      intro f hf
      rw [(mem_filesIn.mp (List.mem_mergeSort.mp hf)).2.1]
      rfl
    have hmem : ∀ {found : Text × List FoundFile},
        found ∈ (walks wanted dir entries).mergeSort (fun a b => Text.atMost a.1 b.1) →
          ∃ e ∈ entries, found = (e.1, walk wanted (dir.entry e.1) e.2) := by
      intro found hfound
      rw [List.mem_mergeSort, walks_eq_map] at hfound
      obtain ⟨e, he, rfl⟩ := List.mem_map.mp hfound
      exact ⟨e, he, rfl⟩
    rw [walk, List.pairwise_append, List.pairwise_flatMap]
    refine ⟨?_, ⟨fun found hfound => ?_, ?_⟩, fun f hf g hg => ?_⟩
    · have hnames : ((filesIn wanted dir entries).map FoundFile.name).Nodup := nodup_names_filesIn hkeys
      refine (Text.pairwise_lt_mergeSort FoundFile.name hnames).imp_of_mem fun hf hg hlt => ?_
      rw [hfile _ hf, hfile _ hg]
      exact (Precedes.files hlt).append_left dir.parts
    · obtain ⟨e, he, rfl⟩ := hmem hfound
      exact ih e he _
    · have hdirs : ((walks wanted dir entries).map Prod.fst).Nodup := by
        rw [walks_eq_map, List.map_map]
        exact hkeys
      refine (Text.pairwise_lt_mergeSort Prod.fst hdirs).imp_of_mem fun ha hb hlt f hf g hg => ?_
      obtain ⟨a, -, rfl⟩ := hmem ha
      obtain ⟨b, -, rfl⟩ := hmem hb
      obtain ⟨p, hp, hf⟩ := hinside a f hf
      obtain ⟨q, hq, hg⟩ := hinside b g hg
      rw [hf, hg]
      exact (Precedes.of_lt hlt hp hq).append_left dir.parts
    · obtain ⟨found, hfound, hg⟩ := List.mem_flatMap.mp hg
      obtain ⟨e, -, rfl⟩ := hmem hfound
      obtain ⟨q, hq, hg⟩ := hinside e g hg
      rw [hfile f hf, hg]
      exact (Precedes.file_of_ne_nil f.name e.1 hq).append_left dir.parts

/-- No file is found twice. -/
theorem nodup_paths_walk {t : FileTree} (h : t.Distinct) (wanted : Text → Bool) (dir : Path) :
    ((walk wanted dir t).map FoundFile.path).Nodup := by
  refine List.pairwise_map.mpr ((pairwise_walk h wanted dir).imp fun hprecedes heq => ?_)
  rw [heq] at hprecedes
  exact Precedes.irrefl _ hprecedes

end HtmlTemplate.FileTree
