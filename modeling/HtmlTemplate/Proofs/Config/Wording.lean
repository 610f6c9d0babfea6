import HtmlTemplate.Config.Standard
import HtmlTemplate.Proofs.Except

/-!
# What is known of the words for breaches

Breaches of the rules are put into words elsewhere. All that is known of the words is that they quote data of the
settings, and that there are none exactly if a quoted datum cannot be written (`Wording.Quotes`). The words of the
program are such (`Breach.message_quotes`).
-/

namespace HtmlTemplate

namespace Breach

/-- The data that the words for a breach quote. -/
def quoted : Breach → List Datum
  | .wrongType d _ => [d]
  | .empty d => [d]
  | .noPoint s => [.text s]
  | .negative n => [.number n]
  | .unknown keys => keys
  | .missing name => [.text name]

/-- A datum that the words quote cannot be written, for it has an integer of too many digits. -/
def Unwritable (b : Breach) : Prop := ∃ d ∈ b.quoted, ∃ e, d.literal = .error e

end Breach

/-- There are words for a breach exactly if the data that they quote can be written. -/
def Wording.Quotes (wording : Wording) : Prop := ∀ b : Breach, (∃ e, wording b = .error e) ↔ b.Unwritable

namespace Datum

theorem literal_text (s : Text) : (Datum.text s).literal = .ok (Text.quoted s) := by rw [literal, literalIn]

/-- A datum that can be written in a message can be written where a text is wanted. -/
theorem exists_asText {d : Datum} (h : ∃ s, d.literal = .ok s) : ∃ s, d.asText = .ok s := by
  cases d with
  | text s => exact ⟨s, rfl⟩
  | day d => exact ⟨d.text, rfl⟩
  | moment m => exact ⟨m.text, rfl⟩
  | _ => exact h

/-- A datum that cannot be written in a message cannot be written where a text is wanted. -/
theorem exists_asText_error {d : Datum} {e : DisplayError} (h : d.literal = .error e) : d.asText = .error e := by
  cases d with
  | text s => rw [literal_text] at h; cases h
  | day d => rw [literal, literalIn] at h; cases h
  | moment m => rw [literal, literalIn] at h; cases h
  | _ => exact h

end Datum

namespace Breach

theorem exists_sorted_error {keys : List Datum} {key : Datum} {e : DisplayError} (hkey : key ∈ keys)
    (h : key.literal = .error e) : ∃ e, sorted keys = .error e := by
  obtain ⟨e', hfails⟩ : ∃ e', (keys.mapM fun key => do return ((← key.asText, key) : Text × Datum)) = .error e' :=
    exists_mapM_eq_error_iff.mpr ⟨key, hkey, e, by rw [Datum.exists_asText_error h]; rfl⟩
  exact ⟨e', by rw [sorted, hfails]; rfl⟩

/-- Data that can all be written are sorted, and none is lost. -/
theorem exists_sorted {keys : List Datum} (h : ∀ key ∈ keys, ∃ s, key.literal = .ok s) :
    ∃ found, sorted keys = .ok found ∧ ∀ key ∈ found, ∃ s, key.literal = .ok s := by
  have hone (key : Datum) (hkey : key ∈ keys) :
      ∃ named : Text × Datum,
        (do return (← key.asText, key)) = (.ok named : Except DisplayError _) ∧ named.2 = key := by
    obtain ⟨s, hs⟩ := Datum.exists_asText (h key hkey)
    exact ⟨(s, key), by rw [hs]; rfl, rfl⟩
  obtain ⟨named, hnamed⟩ := exists_mapM_eq_ok fun key hkey => (hone key hkey).imp fun _ => And.left
  refine ⟨(named.mergeSort fun a b => a.1.atMost b.1).map Prod.snd, by rw [sorted, hnamed]; rfl, fun key hfound => ?_⟩
  obtain ⟨pair, hpair, rfl⟩ := List.mem_map.mp hfound
  obtain ⟨key, hkey, hread⟩ := (mem_iff_of_mapM hnamed).mp (List.mem_mergeSort.mp hpair)
  obtain ⟨pair', hread', hsame⟩ := hone key hkey
  rw [hread] at hread'
  cases hread'
  rw [hsame]
  exact h key hkey

/-- The words of the program quote data of the settings. -/
theorem message_quotes : Wording.Quotes message := by
  intro b
  have hsingle {d : Datum} (f : Text → Text) :
      (∃ e, (d.literal.map f) = .error e) ↔ ∃ d' ∈ [d], ∃ e, d'.literal = .error e := by
    simp [map_eq_error_iff]
  cases b with
  | wrongType d type => exact hsingle _
  | empty d => exact hsingle _
  | negative n => exact hsingle _
  | noPoint s => simp [message, Unwritable, quoted, Datum.literal_text]
  | missing name => simp [message, Unwritable, quoted, Datum.literal_text]
  | unknown keys =>
    rw [message, Unwritable, quoted]
    constructor
    · intro h
      by_contra hnone
      have hall : ∀ key ∈ keys, ∃ s, key.literal = .ok s := fun key hkey => by
        cases hkey' : key.literal with
        | ok s => exact ⟨s, rfl⟩
        | error e => exact absurd ⟨key, hkey, e, hkey'⟩ hnone
      obtain ⟨found, hsorted, hfound⟩ := exists_sorted hall
      obtain ⟨names, hnames⟩ := exists_mapM_eq_ok hfound
      obtain ⟨e, he⟩ := h
      rw [hsorted] at he
      replace he : (found.mapM Datum.literal).bind _ = .error e := he
      rw [hnames] at he
      cases he
    · rintro ⟨key, hkey, e, he⟩
      obtain ⟨e', hsorted⟩ := exists_sorted_error hkey he
      exact ⟨e', by rw [hsorted]; rfl⟩

end Breach

end HtmlTemplate
