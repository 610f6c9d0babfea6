import HtmlTemplate.Command.Run
import HtmlTemplate.Proofs.Json.Encodable
import HtmlTemplate.Proofs.Report

/-!
# What a command delivers

A command prints texts, or writes a page to a file. It cannot do so with what holds a surrogate, which JSON never does
(`encodable_jsonLines`). Printing breaks off at the first text of that kind (`print_eq_error_iff`), and a page of that
kind leaves an empty file (`delivered_eq_error`).
-/

namespace HtmlTemplate

/-- Whether a file can be written does not depend on what is to be written. -/
theorem FileSystem.write_eq_error_iff {fs : FileSystem} {p : Path} {content : Bytes} (content' : Bytes)
    {e : FileError} : fs.write p content = .error e ↔ fs.write p content' = .error e := by
  unfold write
  split <;> try rfl
  split <;> try rfl
  split <;> simp

namespace Command

variable {fs : FileSystem} {options : Options} {name html printed : Text} {texts names : List Text}

/-! ## Printing -/

theorem encodable_jsonLines (fields : List (String × Value)) : (jsonLines fields).Encodable := by
  simp [jsonLines, line, Json.encodable_write]

/-- What is to be printed about the names of the templates can be written if it is JSON, or if they can be. -/
theorem encodable_listed_iff {json : Bool} :
    (∀ s ∈ listed json names, s.Encodable) ↔ json = true ∨ ∀ n ∈ names, n.Encodable := by
  rw [listed]
  split
  · rename_i hjson
    simp [hjson, encodable_jsonLines]
  · rename_i hjson
    split
    · rename_i hempty
      simp [List.isEmpty_iff.mp hempty, line]
    · simp [hjson, line]

theorem print_eq_ok_iff {product : Product} : print fs printed texts = .ok product ↔
    (∀ s ∈ texts, s.Encodable) ∧ product = ⟨printed ++ texts.flatten, fs, none⟩ := by
  induction texts generalizing printed with
  | nil => simp [print, eq_comm]
  | cons s rest ih =>
    rw [print, List.forall_mem_cons]
    cases hs : s.unencodable? with
    | some e =>
      have hsurrogate := Text.exists_unencodable?_iff.mp ⟨e, hs⟩
      exact iff_of_false nofun fun h => hsurrogate h.1.1
    | none => simp [ih, Text.unencodable?_eq_none_iff.mp hs]

/-- Printing breaks off at the first text that cannot be written, after the texts in front of it. -/
theorem print_eq_error_iff {e : CommandError} : print fs printed texts = .error e ↔
    ∃ front s back why, texts = front ++ s :: back ∧ (∀ t ∈ front, t.Encodable) ∧ s.unencodable? = some why ∧
      e = .unencodable why ⟨printed ++ front.flatten, fs, none⟩ := by
  induction texts generalizing printed with
  | nil =>
    refine iff_of_false nofun ?_
    rintro ⟨front, s, back, why, hnil, -⟩
    cases front <;> cases hnil
  | cons s rest ih =>
    rw [print]
    cases hs : s.unencodable? with
    | some why =>
      dsimp only
      constructor
      · intro h
        cases h
        exact ⟨[], s, rest, why, rfl, List.forall_mem_nil _, hs, by simp⟩
      · rintro ⟨front, t, back, why', heq, hfront, ht, rfl⟩
        cases front with
        | nil =>
          cases heq
          rw [hs] at ht
          cases ht
          simp
        | cons u front =>
          cases heq
          exact absurd (hfront s List.mem_cons_self) (Text.exists_unencodable?_iff.mp ⟨why, hs⟩)
    | none =>
      dsimp only
      rw [ih]
      constructor
      · rintro ⟨front, t, back, why, rfl, hfront, ht, rfl⟩
        have hs := Text.unencodable?_eq_none_iff.mp hs
        exact ⟨s :: front, t, back, why, rfl, List.forall_mem_cons.mpr ⟨hs, hfront⟩, ht, by simp⟩
      · rintro ⟨front, t, back, why, heq, hfront, ht, rfl⟩
        cases front with
        | nil =>
          cases heq
          rw [hs] at ht
          cases ht
        | cons u front =>
          cases heq
          exact ⟨front, t, back, why, rfl, (List.forall_mem_cons.mp hfront).2, ht, by simp⟩

theorem isBelow_of_print_eq_error {e : CommandError} (h : print fs printed texts = .error e) : e.report.IsBelow := by
  obtain ⟨front, s, back, why, -, -, -, rfl⟩ := print_eq_error_iff.mp h
  exact Report.isBelow_below _ _

theorem breaksOff_print_iff :
    BreaksOff CommandError.report (print fs printed texts) ↔ ¬ ∀ s ∈ texts, s.Encodable := by
  constructor
  · rintro ⟨e, he, -⟩ hencodable
    rw [print_eq_ok_iff.mpr ⟨hencodable, rfl⟩] at he
    cases he
  · intro h
    cases hresult : print fs printed texts with
    | ok product => exact absurd (print_eq_ok_iff.mp hresult).1 h
    | error e => exact breaksOff_error_iff.mpr (isBelow_of_print_eq_error hresult)

theorem breaksOff_print_listed_iff {json : Bool} :
    BreaksOff CommandError.report (print fs [] (listed json names)) ↔ json = false ∧ ∃ n ∈ names, ¬ n.Encodable := by
  rw [breaksOff_print_iff, encodable_listed_iff]
  simp

/-- Names are printed up to the first that cannot be. -/
theorem print_listed_eq_error {json : Bool} {e : CommandError} (h : print fs [] (listed json names) = .error e) :
    json = false ∧ ∃ front name back why, names = front ++ name :: back ∧ (∀ n ∈ front, n.Encodable) ∧
      ¬ name.Encodable ∧ e = .unencodable why ⟨front.flatMap line, fs, none⟩ := by
  obtain ⟨hjson, n, hn, -⟩ := breaksOff_print_listed_iff.mp ⟨e, h, isBelow_of_print_eq_error h⟩
  have hlisted : listed json names = names.map line := by
    rw [listed, if_neg (by simp [hjson]), if_neg (by simpa using List.ne_nil_of_mem hn)]
  rw [hlisted, print_eq_error_iff] at h
  obtain ⟨front, s, back, why, hnames, hfront, hs, rfl⟩ := h
  obtain ⟨front, rest, rfl, rfl, hrest⟩ := List.map_eq_append_iff.mp hnames
  obtain ⟨name, back, rfl, rfl, rfl⟩ := List.map_eq_cons_iff.mp hrest
  refine ⟨hjson, front, name, back, why, rfl, fun n hn => ?_, ?_, by simp [List.flatMap]⟩
  · simpa [line] using hfront (line n) (List.mem_map_of_mem hn)
  · simpa [line] using Text.exists_unencodable?_iff.mp ⟨why, hs⟩

/-! ## Delivering a page -/

/-- What is made of a page: it is printed, or written to the file that the options name. -/
inductive Delivers (fs : FileSystem) (name : Text) (options : Options) (html : Text) : Product → Prop
  | printed (houtput : options.output = []) (hencodable : options.json = true ∨ html.Encodable) :
    Delivers fs name options html
      ⟨if options.json then jsonLines [("template", .string name), ("html", .string html)] else html, fs, none⟩
  | written {content : Bytes} {files : FileSystem} (houtput : options.output ≠ [])
    (hcontent : Charset.encodeUtf8 html = .ok content)
    (hwrite : fs.write (Path.ofText options.output) content = .ok files) :
    Delivers fs name options html
      ⟨if options.json then
          jsonLines [("template", .string name), ("output", .string options.output), ("length", .ofInt html.length)]
        else [],
        files, some (Path.ofText options.output)⟩

/-- The pages that cannot be delivered. -/
inductive Undeliverable (fs : FileSystem) (options : Options) (html : Text) : Prop
  /-- A page with a surrogate is to be printed as it is. -/
  | unprintable (houtput : options.output = []) (hjson : options.json = false) (hsurrogate : ¬ html.Encodable)
  /-- A page with a surrogate is to be written to a file. -/
  | unwritable (houtput : options.output ≠ []) (hsurrogate : ¬ html.Encodable)
  /-- There is no place for the file. -/
  | misplaced {e : FileError} (houtput : options.output ≠ [])
    (hwrite : fs.write (Path.ofText options.output) [] = .error e)

theorem encodable_shown_iff (name : Text) :
    (∀ s ∈ [if options.json then jsonLines [("template", .string name), ("html", .string html)] else html],
      s.Encodable) ↔ options.json = true ∨ html.Encodable := by
  rw [List.forall_mem_singleton]
  split
  · rename_i hjson
    simp [hjson, encodable_jsonLines]
  · rename_i hjson
    simp [hjson]

theorem delivered_of_output_eq_nil (houtput : options.output = []) : delivered fs name options html =
    print fs [] [if options.json then jsonLines [("template", .string name), ("html", .string html)] else html] := by
  rw [delivered, houtput]
  rfl

theorem delivered_eq_ok_iff {product : Product} :
    delivered fs name options html = .ok product ↔ Delivers fs name options html product := by
  by_cases houtput : options.output = []
  · rw [delivered_of_output_eq_nil houtput, print_eq_ok_iff, encodable_shown_iff]
    constructor
    · rintro ⟨hencodable, rfl⟩
      have hprinted : Delivers fs name options html _ := .printed houtput hencodable
      simpa using hprinted
    · rintro (⟨-, hencodable⟩ | ⟨hne, -, -⟩)
      · exact ⟨hencodable, by simp⟩
      · exact absurd houtput hne
  · rw [delivered, if_neg (by simpa using houtput)]
    constructor
    · intro h
      dsimp only at h
      split at h
      · cases h
      · cases h
      · rename_i files content hwrite hcontent
        cases h
        rw [hcontent] at hwrite
        exact .written houtput hcontent hwrite
    · rintro (⟨hnil, -⟩ | ⟨-, hcontent, hwrite⟩)
      · exact absurd hnil houtput
      · dsimp only
        rw [hcontent]
        dsimp only [Except.toOption, Option.getD]
        rw [hwrite]

/-- Why a page is not delivered, and what has been made all the same. -/
theorem delivered_eq_error {e : CommandError} (h : delivered fs name options html = .error e) :
    Undeliverable fs options html ∧ e.report.IsBelow ∧
      (e.made fs = ⟨[], fs, none⟩ ∨ ∃ files, options.output ≠ [] ∧ ¬ html.Encodable ∧
        fs.write (Path.ofText options.output) [] = .ok files ∧
        e.made fs = ⟨[], files, some (Path.ofText options.output)⟩) := by
  by_cases houtput : options.output = []
  · rw [delivered_of_output_eq_nil houtput] at h
    obtain ⟨front, s, back, why, heq, -, -, rfl⟩ := print_eq_error_iff.mp h
    have hsurrogate : ¬ (options.json = true ∨ html.Encodable) := by
      rw [← encodable_shown_iff name]
      exact breaksOff_print_iff.mp ⟨_, h, Report.isBelow_below _ _⟩
    rw [not_or, Bool.not_eq_true] at hsurrogate
    refine ⟨.unprintable houtput hsurrogate.1 hsurrogate.2, Report.isBelow_below _ _, .inl ?_⟩
    cases front with
    | nil => rfl
    | cons t front => simp at heq
  · rw [delivered, if_neg (by simpa using houtput)] at h
    dsimp only at h
    split at h
    · rename_i e' hwrite
      cases h
      exact ⟨.misplaced houtput ((FileSystem.write_eq_error_iff []).mp hwrite), Report.isBelow_below _ _, .inl rfl⟩
    · rename_i files why hwrite hcontent
      cases h
      have hsurrogate : ¬ html.Encodable := fun hencodable => by
        rw [Charset.encodeUtf8_eq_ok_iff.mpr ⟨hencodable, rfl⟩] at hcontent
        cases hcontent
      rw [hcontent] at hwrite
      exact ⟨.unwritable houtput hsurrogate, Report.isBelow_below _ _, .inr ⟨files, houtput, hsurrogate, hwrite, rfl⟩⟩
    · cases h

theorem breaksOff_delivered_iff :
    BreaksOff CommandError.report (delivered fs name options html) ↔ Undeliverable fs options html := by
  constructor
  · rintro ⟨e, he, -⟩
    exact (delivered_eq_error he).1
  · intro h
    cases hresult : delivered fs name options html with
    | error e => exact ⟨e, rfl, (delivered_eq_error hresult).2.1⟩
    | ok product =>
      rcases delivered_eq_ok_iff.mp hresult with ⟨hnil, hencodable⟩ | ⟨hne, hcontent, hwrite⟩
      · cases h with
        | unprintable _ hjson hsurrogate => simp [hjson, hsurrogate] at hencodable
        | unwritable houtput _ => exact absurd hnil houtput
        | misplaced houtput _ => exact absurd hnil houtput
      · cases h with
        | unprintable houtput => exact absurd houtput hne
        | unwritable _ hsurrogate => exact absurd (Charset.encodeUtf8_eq_ok_iff.mp hcontent).1 hsurrogate
        | misplaced _ herror =>
          rw [(FileSystem.write_eq_error_iff _).mp herror] at hwrite
          cases hwrite

end Command

end HtmlTemplate
