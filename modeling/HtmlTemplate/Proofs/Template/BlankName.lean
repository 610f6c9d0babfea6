import HtmlTemplate.Proofs.Files.Walk
import HtmlTemplate.Proofs.Template.Run

/-!
# Templates without a name

A template is never registered under an empty name, and a source declares none. But the name of a file may be nothing
but an extension, or blanks and an extension, and a reload keeps the template in such a file under the empty name, if
its source declares no other. This is the only way to a template without a name (`empty_name_iff`).
-/

namespace HtmlTemplate

/-! ## Names of files -/

namespace Template

/-- Whether an extension fits the name of a file, and no longer one does. -/
structure LongestExtension (extensions : List Text) (fileName ext : Text) : Prop where
  mem : ext ∈ extensions
  fits : fileName.hasExtension ext = true
  longest : ∀ other ∈ extensions, fileName.hasExtension other = true → other.length ≤ ext.length

theorem find?_longest {extensions : List Text} {fileName ext : Text}
    (h : (extensions.mergeSort fun a b => b.length ≤ a.length).find? fileName.hasExtension = some ext) :
    LongestExtension extensions fileName ext := by
  have hsorted : (extensions.mergeSort fun a b => b.length ≤ a.length).Pairwise
      fun a b => decide (b.length ≤ a.length) = true := by
    refine List.pairwise_mergeSort (fun a b c hab hbc => ?_) (fun a b => ?_) extensions
    · rw [decide_eq_true_eq] at hab hbc ⊢
      exact Nat.le_trans hbc hab
    · rw [Bool.or_eq_true, decide_eq_true_eq, decide_eq_true_eq]
      exact Nat.le_total _ _
  obtain ⟨hfits, front, back, heq, hfront⟩ := List.find?_eq_some_iff_append.mp h
  have hmem : ∀ {other : Text}, other ∈ extensions → other ∈ front ++ ext :: back := by
    intro other hother
    rw [← heq]
    exact List.mem_mergeSort.mpr hother
  refine ⟨List.mem_mergeSort.mp (heq ▸ List.mem_append_right _ List.mem_cons_self), hfits, fun other hother hfit => ?_⟩
  rw [heq, List.pairwise_append] at hsorted
  rcases List.mem_append.mp (hmem hother) with hother | hother
  · have hnot := hfront other hother
    rw [hfit] at hnot
    cases hnot
  · rcases List.mem_cons.mp hother with rfl | hother
    · exact Nat.le_refl _
    · simpa using List.rel_of_pairwise_cons hsorted.2.1 hother

/-- The name of a file that has an extension is what is left without the longest one. -/
theorem nameOfFile_of_longest {extensions : List Text} {fileName ext : Text}
    (h : LongestExtension extensions fileName ext) :
    nameOfFile extensions fileName = Text.takeUpTo ((fileName.length : Int) - ext.length) fileName := by
  rw [nameOfFile]
  cases hfind : (extensions.mergeSort fun a b => b.length ≤ a.length).find? fileName.hasExtension with
  | none =>
    have hnot := List.find?_eq_none.mp hfind ext (List.mem_mergeSort.mpr h.mem)
    exact absurd h.fits hnot
  | some ext' =>
    have h' := find?_longest hfind
    have hlength : ext'.length = ext.length :=
      Nat.le_antisymm (h.longest ext' h'.mem h'.fits) (h'.longest ext h.mem h.fits)
    dsimp only
    rw [hlength]

theorem exists_longest {extensions : List Text} {fileName : Text} (h : extensions.any fileName.hasExtension = true) :
    ∃ ext, LongestExtension extensions fileName ext := by
  cases hfind : (extensions.mergeSort fun a b => b.length ≤ a.length).find? fileName.hasExtension with
  | none =>
    obtain ⟨ext, hmem, hfits⟩ := List.any_eq_true.mp h
    exact absurd hfits (List.find?_eq_none.mp hfind ext (List.mem_mergeSort.mpr hmem))
  | some ext => exact ⟨ext, find?_longest hfind⟩

end Template

/-! ## Empty names -/

namespace NamePattern

/-- A source declares no blank name. -/
theorem not_allBlank_of_declaredName? {p : NamePattern} {source name : Text} (h : p.declaredName? source = some name) :
    name.allBlank ≠ true := by
  intro hblank
  rw [declaredName?] at h
  split at h
  · cases h
  · have hne := List.find?_some h
    obtain ⟨candidate, -, rfl⟩ := List.mem_map.mp (List.mem_of_find?_eq_some h)
    rw [← Text.trim_eq_nil_iff, Text.trim_trim] at hblank
    rw [hblank] at hne
    cases hne

end NamePattern

namespace Config

/-- Whether nothing but blanks is left of the name of a file without its longest extension. -/
def Nameless (config : Config) (fileName : Text) : Prop :=
  ∃ ext, Template.LongestExtension config.extensions fileName ext ∧
    (Text.takeUpTo ((fileName.length : Int) - ext.length) fileName).allBlank = true

theorem nameless_iff {config : Config} {fileName : Text} (h : config.holdsTemplate fileName = true) :
    config.Nameless fileName ↔ (Template.nameOfFile config.extensions fileName).allBlank = true := by
  constructor
  · rintro ⟨ext, hext, hblank⟩
    rwa [Template.nameOfFile_of_longest hext]
  · intro hblank
    obtain ⟨ext, hext⟩ := Template.exists_longest h
    exact ⟨ext, hext, by rwa [Template.nameOfFile_of_longest hext] at hblank⟩

theorem nameOf_eq_nil_iff {config : Config} {file : FoundFile} {source : Text}
    (h : config.holdsTemplate file.name = true) :
    config.nameOf file source = [] ↔ config.namePattern.declaredName? source = none ∧ config.Nameless file.name := by
  rw [nameOf, normalName_eq_nil_iff, nameless_iff h]
  cases hdeclared : config.namePattern.declaredName? source with
  | none => simp
  | some name => exact iff_of_false (NamePattern.not_allBlank_of_declaredName? hdeclared) nofun

theorem holdsTemplate_of_mem_files {config : Config} {fs : FileSystem} {file : FoundFile} (h : file ∈ config.files fs) :
    config.holdsTemplate file.name = true := by
  rw [files, List.mem_flatMap] at h
  obtain ⟨root, -, h⟩ := h
  rw [FileSystem.walk?] at h
  split at h
  · exact (FileTree.mem_walk.mp h).2
  · cases h

end Config

theorem LastReload.holdsTemplate {config : Config} {calls later : List RegistryCall} {files : List FoundFile}
    (h : LastReload config calls files later) {file : FoundFile} (hfile : file ∈ files) :
    config.holdsTemplate file.name = true := by
  cases h with
  | never => cases hfile
  | last => exact Config.holdsTemplate_of_mem_files hfile

/-- **Templates without a name.** After a run there is a template under the empty name if and only if the last reload
that succeeded has read a file whose source declares no name, and whose own name is nothing but blanks and its longest
extension. -/
theorem empty_name_iff (config : Config) (calls : List RegistryCall) :
    ∃ files later, LastReload config calls files later ∧
      ([] ∈ (Templates.run config calls).names ↔
        ∃ file ∈ files, ∃ source, config.decode file = .ok source ∧
          config.namePattern.declaredName? source = none ∧ config.Nameless file.name) := by
  obtain ⟨files, found, later, hlast, hfound, hrun⟩ := exists_written config calls
  refine ⟨files, later, hlast, ?_⟩
  -- what is registered has a name, so an empty one is that of a file
  rw [hrun, Templates.mem_names_insertAll]
  constructor
  · rintro ⟨t, ht, hname⟩
    rcases List.mem_append.mp ht with ht | ht
    · obtain ⟨file, hfile, hread⟩ := (mem_iff_of_mapM hfound).mp ht
      obtain ⟨source, hsource, rfl⟩ := Config.templateOf_eq_ok_iff.mp hread
      exact ⟨file, hfile, source, hsource, (Config.nameOf_eq_nil_iff (hlast.holdsTemplate hfile)).mp hname⟩
    · obtain ⟨call, -, hcall⟩ := List.mem_filterMap.mp ht
      obtain ⟨-, -, hne⟩ := RegistryCall.name_of_registered? hcall
      exact absurd hname hne
  · rintro ⟨file, hfile, source, hsource, hnameless⟩
    have hread := Config.templateOf_eq_ok_iff.mpr ⟨source, hsource, rfl⟩
    refine ⟨_, List.mem_append_left _ ((mem_iff_of_mapM hfound).mpr ⟨file, hfile, hread⟩), ?_⟩
    exact (Config.nameOf_eq_nil_iff (hlast.holdsTemplate hfile)).mpr hnameless

/-- A directory with one file, the name of which is an extension. -/
def namelessFile : FileSystem where
  directory := ⟨['/'], []⟩
  tree := .directory [(['t'], .directory [(".html".text, .file [0x78])])]
  homes := ⟨none, []⟩

/-- A reload keeps the template in the file `.html` under the empty name. -/
theorem nameless_file_stored :
    let configured := Config.make [⟨[], [['t']]⟩] [".html".text] (.inl Config.defaultPattern) true 50
      Config.defaultContentName Config.defaultEncoding
    configured.toOption.map (fun config => (Templates.run config [.reload namelessFile]).names) = some [[]] := by
  decide +kernel

end HtmlTemplate
