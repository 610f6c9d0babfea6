import HtmlTemplate.Pattern.Basic
import HtmlTemplate.Proofs.Text.Letters
import Mathlib.Data.List.Infix

/-!
# How patterns match

A word of a pattern matches itself (`run_word`). As many characters of a set as there are match the longest run of them
if what follows succeeds behind it (`run_many_of_run`), and nothing if what follows fails behind every part of it
(`run_many_eq_none`). In front of a word that begins with none of the characters there is one way only
(`run_spread_word`, `run_captured_word`). All matches of a pattern in a text are found one behind the other
(`allMatches`).
-/

namespace HtmlTemplate

/-! ## Signs -/

namespace Folding

theorem exact_same (d c : CodePoint) : Folding.exact.same d.toNat c = (c == d) := by
  rw [same, Bool.eq_iff_iff, decide_eq_true_eq, CodePoint.toNat_inj, beq_iff_eq]
  exact eq_comm

theorem same_toNat (folding : Folding) (c : CodePoint) : folding.same c.toNat c = true := by
  cases folding with
  | exact => simp [same]
  | ascii => simp [same]
  | unicode => exact contains_formsOf _

/-- Below the letters, no two characters count as the same. -/
theorem unicode_same_iff {code : Nat} (hcode : code < 0x41) {c : CodePoint} :
    Folding.unicode.same code c = true ↔ c.toNat = code := by
  have hforms : formsOf (lowerCode code) = [code] := by
    have hall : ∀ code : Fin 0x41, formsOf (lowerCode code) = [code.val] := by decide +kernel
    exact hall ⟨code, hcode⟩
  have hruns : ∀ run ∈ lowerRuns, 0x41 ≤ run.1 ∧ (0x41 : Int) ≤ run.1 + run.2.2.2 := by decide +kernel
  rw [same, hforms, List.contains_iff_mem, List.mem_singleton, lowerCode]
  split
  · rename_i h
    omega
  · rcases lowerShift_cases lowerRuns c.toNat with hzero | ⟨run, hrun, hhas, hrunShift⟩
    · rw [hzero]
      omega
    · have hbound := hruns run hrun
      have hfirst : run.1 ≤ c.toNat := hhas.1
      rw [hrunShift]
      omega

end Folding

/-- Whether all characters of a text are below the letters. -/
def areSigns (s : Text) : Bool := s.all fun c => c.toNat < 0x41

theorem areSigns_cons {c : CodePoint} {s : Text} : areSigns (c :: s) = true ↔ c.toNat < 0x41 ∧ areSigns s = true := by
  simp [areSigns]

theorem same_of_areSigns {s : Text} (hs : areSigns s = true) :
    ∀ d ∈ s, ∀ c, Folding.unicode.same d.toNat c = (c == d) := by
  intro d hd c
  have hlow : d.toNat < 0x41 := by simpa using List.all_eq_true.mp hs d hd
  rw [Bool.eq_iff_iff, Folding.unicode_same_iff hlow, CodePoint.toNat_inj, beq_iff_eq]

namespace Cursor

/-- The place between two texts. -/
def between (before rest : Text) (groups : List (Nat × Text)) : Cursor := ⟨before, rest, rest.length, groups⟩

/-- What has been read stands in reverse: its first character is read first. -/
theorem reverse_cons_append (d : CodePoint) (s before : Text) :
    (d :: s).reverse ++ before = s.reverse ++ d :: before := by
  rw [List.reverse_cons, List.append_assoc, List.singleton_append]

end Cursor

namespace Pattern

open Cursor

/-! ## Rounds -/

section Rounds

variable (step : Cursor → Following → Option Cursor) (rounds least : Nat) (most : Option Nat) (c : Cursor)
  (next : Following)

/-- What comes after one round of a repetition. -/
def afterRound (appetite : Appetite) (d : Cursor) : Option Cursor :=
  if least = 0 && d.left = c.left then next d
  else runRounds step appetite rounds (least - 1) (most.map (· - 1)) d next

theorem runRounds_greedy : runRounds step .greedy (rounds + 1) least most c next =
    if 0 < least then step c (afterRound step rounds least most c next .greedy)
    else if most = some 0 then next c
    else orElse (step c (afterRound step rounds least most c next .greedy)) fun _ => next c := rfl

theorem runRounds_sparing : runRounds step .sparing (rounds + 1) least most c next =
    if 0 < least then step c (afterRound step rounds least most c next .sparing)
    else if most = some 0 then next c
    else orElse (next c) fun _ => step c (afterRound step rounds least most c next .sparing) := rfl

theorem runRounds_keeping : runRounds step .keeping (rounds + 1) least most c next =
    if 0 < least then (step c some).bind (afterRound step rounds least most c next .keeping)
    else if most = some 0 then next c
    else
      match step c some with
      | some d => afterRound step rounds least most c next .keeping d
      | none => next c := rfl

/-- What may be repeated is tried once more first. -/
theorem runRounds_star : runRounds step .greedy (rounds + 1) 0 none c next =
    orElse (step c (afterRound step rounds 0 none c next .greedy)) fun _ => next c := rfl

/-- A pattern that may be left out is tried first. -/
theorem run_optional (p : Pattern) :
    (repetition 0 (some 1) .greedy p).run c next = orElse (p.run c next) fun _ => next c := by
  have hafter : afterRound p.run c.left 0 (some 1) c next .greedy = next := by
    funext d
    rw [afterRound]
    split
    · rfl
    · cases c.left <;> rfl
  rw [run, Nat.zero_add, runRounds_greedy, hafter]
  rfl

end Rounds

section Choices

variable {first : Option Cursor} {second : Unit → Option Cursor}

theorem orElse_none : orElse none second = second () := rfl

theorem orElse_eq_first (h : first = none → second () = none) : orElse first second = first := by
  cases first with
  | none => exact h rfl
  | some d => rfl

theorem eq_none_of_orElse (h : orElse first second = none) : second () = none := by
  cases first with
  | none => exact h
  | some d => cases h

end Choices

/-! ## Repetitions of characters -/

section Greedy

variable {folding : Folding} {set : CharSet} {before s rest : Text} {groups : List (Nat × Text)} {next : Following}

theorem run_char_cons (d : CodePoint) : (char folding set).run (between before (d :: rest) groups) next =
    if set.has folding d then next (between (d :: before) rest groups) else none := rfl

theorem runRounds_char_nil (rounds least : Nat) :
    runRounds (char folding set).run .greedy (rounds + 1) least none (between before [] groups) next =
      if least = 0 then next (between before [] groups) else none := by
  rw [runRounds_greedy]
  cases least with
  | zero => rfl
  | succ least => rfl

/-- One round more of a greedy repetition of a set of characters comes before none. -/
theorem runRounds_char_cons (rounds least : Nat) (d : CodePoint) :
    runRounds (char folding set).run .greedy (rounds + 1) least none (between before (d :: rest) groups) next =
      orElse
        (if set.has folding d then
          runRounds (char folding set).run .greedy rounds (least - 1) none (between (d :: before) rest groups) next
        else none)
        fun _ => if least = 0 then next (between before (d :: rest) groups) else none := by
  have hleft : (between (d :: before) rest groups).left ≠ (between before (d :: rest) groups).left :=
    (Nat.lt_succ_self rest.length).ne
  have hafter : afterRound (char folding set).run rounds least none (between before (d :: rest) groups) next .greedy
      (between (d :: before) rest groups) =
      runRounds (char folding set).run .greedy rounds (least - 1) none (between (d :: before) rest groups) next := by
    rw [afterRound, decide_eq_false hleft, Bool.and_false]
    rfl
  rw [runRounds_greedy, run_char_cons, hafter]
  cases least with
  | zero => rfl
  | succ least =>
    rw [if_pos (Nat.succ_pos least), if_neg (Nat.succ_ne_zero least)]
    cases (if set.has folding d then _ else none : Option Cursor) <;> rfl

/-- A greedy repetition takes the longest run of characters of the set, if what follows succeeds after it. -/
theorem runRounds_char_of_run {rounds least : Nat} {d : Cursor} (hs : ∀ c ∈ s, set.has folding c = true)
    (hrest : ∀ c ∈ rest.head?, set.has folding c = false) (hleast : least ≤ s.length) (hrounds : s.length < rounds)
    (hnext : next (between (s.reverse ++ before) rest groups) = some d) :
    runRounds (char folding set).run .greedy rounds least none (between before (s ++ rest) groups) next = some d := by
  induction s generalizing before rounds least with
  | nil =>
    cases rounds with
    | zero => cases hrounds
    | succ rounds =>
      cases Nat.le_zero.mp hleast
      cases rest with
      | nil => exact (runRounds_char_nil rounds 0).trans hnext
      | cons e rest =>
        refine (runRounds_char_cons rounds 0 e).trans ?_
        rw [hrest e rfl]
        exact hnext
  | cons e s ih =>
    rw [List.forall_mem_cons] at hs
    rw [List.length_cons] at hleast hrounds
    rw [reverse_cons_append] at hnext
    cases rounds with
    | zero => cases hrounds
    | succ rounds =>
      rw [List.cons_append, runRounds_char_cons, if_pos hs.1, ih hs.2 (by omega) (by omega) hnext]
      rfl

/-- A greedy repetition fails if what follows fails after all characters of the set that it may take. -/
theorem runRounds_char_eq_none {rounds least : Nat} (hrounds : rest.length < rounds)
    (hnext : ∀ s r, rest = s ++ r → (∀ c ∈ s, set.has folding c = true) → least ≤ s.length →
      next (between (s.reverse ++ before) r groups) = none) :
    runRounds (char folding set).run .greedy rounds least none (between before rest groups) next = none := by
  induction rest generalizing before rounds least with
  | nil =>
    cases rounds with
    | zero => cases hrounds
    | succ rounds =>
      rw [runRounds_char_nil]
      split
      · rename_i hleast
        exact hnext [] [] rfl nofun hleast.le
      · rfl
  | cons e rest ih =>
    cases rounds with
    | zero => cases hrounds
    | succ rounds =>
      have hmore : (if set.has folding e then
          runRounds (char folding set).run .greedy rounds (least - 1) none (between (e :: before) rest groups) next
          else none) = none := by
        split
        · rename_i he
          refine ih (Nat.lt_of_succ_lt_succ hrounds) fun s r heq hs hleast => ?_
          have hfound := hnext (e :: s) r (by rw [heq, List.cons_append]) (List.forall_mem_cons.mpr ⟨he, hs⟩)
            (by rw [List.length_cons]; omega)
          rwa [reverse_cons_append] at hfound
        · rfl
      rw [runRounds_char_cons, hmore]
      change (if least = 0 then _ else none) = none
      split
      · rename_i hleast
        exact hnext [] (e :: rest) rfl nofun hleast.le
      · rfl

/-- At least `least` characters of a set, and as many as there are. -/
def many (folding : Folding) (set : CharSet) (least : Nat) : Pattern :=
  .repetition least none .greedy (.char folding set)

theorem run_many_of_run {least : Nat} {d : Cursor} (hs : ∀ c ∈ s, set.has folding c = true)
    (hrest : ∀ c ∈ rest.head?, set.has folding c = false) (hleast : least ≤ s.length)
    (hnext : next (between (s.reverse ++ before) rest groups) = some d) :
    (many folding set least).run (between before (s ++ rest) groups) next = some d :=
  runRounds_char_of_run hs hrest hleast (by simp only [between, List.length_append]; omega) hnext

theorem run_many_eq_none {least : Nat}
    (hnext : ∀ s r, rest = s ++ r → (∀ c ∈ s, set.has folding c = true) → least ≤ s.length →
      next (between (s.reverse ++ before) r groups) = none) :
    (many folding set least).run (between before rest groups) next = none :=
  runRounds_char_eq_none (by simp only [between]; omega) hnext

/-- If what follows fails behind every part of the run when it fails behind the run, the whole run is the only way that
counts. -/
theorem run_many_eq_of_end {least : Nat} (hs : ∀ c ∈ s, set.has folding c = true)
    (hrest : ∀ c ∈ rest.head?, set.has folding c = false) (hleast : least ≤ s.length)
    (hnext : next (between (s.reverse ++ before) rest groups) = none → ∀ u v, s = u ++ v → v ≠ [] →
      next (between (u.reverse ++ before) (v ++ rest) groups) = none) :
    (many folding set least).run (between before (s ++ rest) groups) next =
      next (between (s.reverse ++ before) rest groups) := by
  cases hend : next (between (s.reverse ++ before) rest groups) with
  | some d => exact run_many_of_run hs hrest hleast hend
  | none =>
    refine run_many_eq_none fun s' r heq hs' _ => ?_
    rcases List.append_eq_append_iff.mp heq with ⟨more, rfl, rfl⟩ | ⟨more, rfl, rfl⟩
    · cases more with
      | nil => rwa [List.append_nil]
      | cons c more =>
        have hc := hs' c (List.mem_append_right _ List.mem_cons_self)
        rw [hrest c rfl] at hc
        cases hc
    · cases more with
      | nil => rwa [List.append_nil] at hend
      | cons c more => exact hnext hend s' (c :: more) rfl (List.cons_ne_nil _ _)

/-- If what follows cannot begin with a character of the set, there is only one way to match the run. -/
theorem run_many_eq {least : Nat} (hs : ∀ c ∈ s, set.has folding c = true)
    (hrest : ∀ c ∈ rest.head?, set.has folding c = false) (hleast : least ≤ s.length)
    (hnext : ∀ before c r, set.has folding c = true → next (between before (c :: r) groups) = none) :
    (many folding set least).run (between before (s ++ rest) groups) next =
      next (between (s.reverse ++ before) rest groups) := by
  refine run_many_eq_of_end hs hrest hleast fun _ u v heq hne => ?_
  obtain ⟨c, v, rfl⟩ := List.exists_cons_of_ne_nil hne
  exact hnext _ c _ (hs c (heq ▸ List.mem_append_right u List.mem_cons_self))

end Greedy

/-! ## Words -/

/-- The pattern of a word, and then another. -/
def word (folding : Folding) (w : Text) (p : Pattern) : Pattern :=
  w.foldr (fun c p => .sequence (.char folding ⟨false, [.one c.toNat]⟩) p) p

section Words

variable {folding : Folding} {before w rest : Text} {groups : List (Nat × Text)} {next : Following} {p : Pattern}

theorem has_one (folding : Folding) (code : Nat) (c : CodePoint) :
    CharSet.has folding ⟨false, [.one code]⟩ c = folding.same code c := by
  simp [CharSet.has, CharItem.has]

theorem run_word_cons (c d : CodePoint) :
    (word folding (c :: w) p).run (between before (d :: rest) groups) next =
      if folding.same c.toNat d then (word folding w p).run (between (d :: before) rest groups) next else none := by
  rw [← has_one]
  rfl

/-- A word matches itself. -/
theorem run_word : (word folding w p).run (between before (w ++ rest) groups) next =
    p.run (between (w.reverse ++ before) rest groups) next := by
  induction w generalizing before with
  | nil => rfl
  | cons c w ih =>
    rw [List.cons_append, run_word_cons, if_pos (folding.same_toNat c), ih, reverse_cons_append]

/-- A word of signs matches nothing but itself. -/
theorem run_word_eq_none (hw : areSigns w = true) (h : ¬ w <+: rest) :
    (word .unicode w p).run (between before rest groups) next = none := by
  induction w generalizing before rest with
  | nil => exact absurd List.nil_prefix h
  | cons c w ih =>
    rw [areSigns_cons] at hw
    cases rest with
    | nil => rfl
    | cons d rest =>
      rw [run_word_cons]
      split
      · rename_i hsame
        have hcd := CodePoint.toNat_inj.mp ((Folding.unicode_same_iff hw.1).mp hsame)
        refine ih hw.2 fun hprefix => h ?_
        rw [hcd]
        exact List.cons_prefix_cons.mpr ⟨rfl, hprefix⟩
      · rfl

end Words

/-! ## The sets of characters -/

/-- The set of some characters, or of all others. -/
def oneOf (complement : Bool) (s : Text) : CharSet := ⟨complement, s.map fun c => .one c.toNat⟩

/-- The set of the blanks, and of some characters. -/
def blankOr (s : Text) : CharSet := ⟨false, s.map (fun c => CharItem.one c.toNat) ++ [.ofClass false .blank false]⟩

theorem any_one {folding : Folding} {s : Text} (hs : ∀ d ∈ s, ∀ c, folding.same d.toNat c = (c == d)) (c : CodePoint) :
    (s.map fun d => CharItem.one d.toNat).any (·.has folding c) = s.contains c := by
  induction s with
  | nil => rfl
  | cons d s ih =>
    rw [List.forall_mem_cons] at hs
    have hd : (CharItem.one d.toNat).has folding c = (c == d) := hs.1 c
    rw [List.map_cons, List.any_cons, hd, ih hs.2, List.contains_cons]

theorem has_oneOf (complement : Bool) {s : Text} (hs : areSigns s = true) (c : CodePoint) :
    (oneOf complement s).has .unicode c = (s.contains c != complement) := by
  rw [CharSet.has, oneOf, any_one (same_of_areSigns hs)]

theorem has_blankOr {s : Text} (hs : areSigns s = true) (c : CodePoint) :
    (blankOr s).has .unicode c = (s.contains c || isBlank c) := by
  have hblank : [CharItem.ofClass false .blank false].any (·.has .unicode c) = isBlank c := by
    simp [CharItem.has, CharClass.has]
  rw [CharSet.has, blankOr, List.any_append, any_one (same_of_areSigns hs), hblank, Bool.bne_false]

theorem has_blank {folding : Folding} (c : CodePoint) : (blankOr []).has folding c = isBlank c := by
  simp [CharSet.has, blankOr, CharItem.has, CharClass.has]

/-! ## Runs of characters, kept and not -/

/-- At least `least` characters of a set, in whatever case, and then another pattern. -/
def spread (set : CharSet) (least : Nat) (p : Pattern) : Pattern := .sequence (many .unicode set least) p

/-- A part with a number, of characters of a set, and then another pattern. -/
def captured (n : Nat) (set : CharSet) (p : Pattern) : Pattern :=
  .sequence (.group (some n) (spread set 1 .nothing)) p

section Runs

variable {set : CharSet} {least n : Nat} {p : Pattern} {before s rest : Text} {groups : List (Nat × Text)}
  {next : Following}

theorem textTo_between (before s rest back : Text) (groups groups' : List (Nat × Text)) :
    (between before (s ++ rest) groups).textTo (between back rest groups') = s := by
  simp [textTo, between]

theorem run_captured (before rest : Text) (groups : List (Nat × Text)) (next : Following) :
    (captured n set p).run (between before rest groups) next =
      (many .unicode set 1).run (between before rest groups) fun d =>
        p.run { d with groups := (n, (between before rest groups).textTo d) :: d.groups } next := rfl

/-- What is kept of a run of characters is the run. -/
theorem run_captured_of_run {d : Cursor} (hs : ∀ c ∈ s, set.has .unicode c = true) (hne : s ≠ [])
    (hrest : ∀ c ∈ rest.head?, set.has .unicode c = false)
    (hnext : p.run (between (s.reverse ++ before) rest ((n, s) :: groups)) next = some d) :
    (captured n set p).run (between before (s ++ rest) groups) next = some d := by
  rw [run_captured]
  refine run_many_of_run hs hrest (List.length_pos_iff.mpr hne) ?_
  rw [textTo_between]
  exact hnext

theorem run_captured_eq_none
    (hnext : ∀ s r, rest = s ++ r → (∀ c ∈ s, set.has .unicode c = true) →
      p.run (between (s.reverse ++ before) r ((n, s) :: groups)) next = none) :
    (captured n set p).run (between before rest groups) next = none := by
  rw [run_captured]
  refine run_many_eq_none fun s r heq hs _ => ?_
  subst heq
  rw [textTo_between]
  exact hnext s r rfl hs

variable {c : CodePoint} {w : Text}

theorem run_word_stuck {d : CodePoint} (hc : ∀ d, Folding.unicode.same c.toNat d = true → set.has .unicode d = false)
    (hd : set.has .unicode d = true) :
    (word .unicode (c :: w) p).run (between before (d :: rest) groups) next = none := by
  rw [run_word_cons, if_neg]
  intro hsame
  rw [hc d hsame] at hd
  cases hd

/-- Characters of a set, and a word that begins with none of them. -/
theorem run_spread_word (hs : ∀ c ∈ s, set.has .unicode c = true) (hleast : least ≤ s.length)
    (hc : ∀ d, Folding.unicode.same c.toNat d = true → set.has .unicode d = false) :
    (spread set least (word .unicode (c :: w) p)).run (between before (s ++ (c :: w ++ rest)) groups) next =
      p.run (between ((c :: w).reverse ++ (s.reverse ++ before)) rest groups) next := by
  refine (run_many_eq hs (fun d hd => ?_) hleast fun _ _ _ hd => run_word_stuck hc hd).trans run_word
  cases hd
  exact hc c (Folding.unicode.same_toNat c)

/-- A part that is kept, and a word that begins with none of its characters. -/
theorem run_captured_word (hs : ∀ c ∈ s, set.has .unicode c = true) (hne : s ≠ [])
    (hc : ∀ d, Folding.unicode.same c.toNat d = true → set.has .unicode d = false) :
    (captured n set (word .unicode (c :: w) p)).run (between before (s ++ (c :: w ++ rest)) groups) next =
      p.run (between ((c :: w).reverse ++ (s.reverse ++ before)) rest ((n, s) :: groups)) next := by
  rw [run_captured]
  refine (run_many_eq hs (fun d hd => ?_) (List.length_pos_iff.mpr hne) fun _ _ _ hd => run_word_stuck hc hd).trans ?_
  · cases hd
    exact hc c (Folding.unicode.same_toNat c)
  · rw [textTo_between]
    exact run_word

end Runs

/-! ## All matches -/

/-- The matches from a place on, each from where the one before it ends, for a pattern that matches no empty text. At
most `steps` matches are looked for. -/
def matchesFrom (p : Pattern) : Nat → Cursor → List (Cursor × Cursor)
  | 0, _ => []
  | steps + 1, c =>
    match p.search c.left c with
    | some (start, finish) => (start, finish) :: matchesFrom p steps { finish with groups := [] }
    | none => []

/-- The matches in a text. -/
def allMatches (p : Pattern) (s : Text) : List (Cursor × Cursor) := p.matchesFrom s.length (.start s)

section Matches

variable {p : Pattern} {before rest : Text} {d : CodePoint}

theorem matchesFrom_nil (h : p.run (between before [] []) some = none) (steps : Nat) :
    p.matchesFrom steps (between before [] []) = [] := by
  cases steps with
  | zero => rfl
  | succ steps =>
    have hsearch : p.search 0 (between before [] []) = none := by rw [search, h]; rfl
    rw [matchesFrom, show (between before [] []).left = 0 from rfl, hsearch]

/-- A place without a match is passed. -/
theorem matchesFrom_cons (h : p.run (between before (d :: rest) []) some = none) (steps : Nat) :
    p.matchesFrom steps (between before (d :: rest) []) = p.matchesFrom steps (between (d :: before) rest []) := by
  have hsearch : p.search (rest.length + 1) (between before (d :: rest) []) =
      p.search rest.length (between (d :: before) rest []) := by
    rw [search, h]
    rfl
  cases steps with
  | zero => rfl
  | succ steps =>
    rw [matchesFrom, matchesFrom, show (between before (d :: rest) []).left = rest.length + 1 from rfl, hsearch]
    rfl

theorem matchesFrom_of_run {c finish : Cursor} (h : p.run c some = some finish) (steps : Nat) :
    p.matchesFrom (steps + 1) c = (c, finish) :: p.matchesFrom steps { finish with groups := [] } := by
  have hsearch : p.search c.left c = some (c, finish) := by
    cases c.left with
    | zero => rw [search, h]; rfl
    | succ n => rw [search, h]
  rw [matchesFrom, hsearch]

end Matches

end Pattern

end HtmlTemplate
