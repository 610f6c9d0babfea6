import HtmlTemplate.Proofs.Pattern.Matching

/-!
# Patterns that do not look back

A pattern that never asks what is in front of the place finds the same there whatever that is (`run_alike`), and so does
a search (`search_alike`). Places without a match are passed (`search_append`): what is behind them decides.
-/

namespace HtmlTemplate

namespace Cursor

/-- The place, without what is in front of it. -/
def facing (c : Cursor) : Cursor := { c with before := [] }

theorem facing_eq_iff {c d : Cursor} :
    c.facing = d.facing ↔ c.rest = d.rest ∧ c.left = d.left ∧ c.groups = d.groups := by
  simp [facing]

section Facing

variable {c d : Cursor} (h : c.facing = d.facing)
include h

theorem rest_eq_of_facing : c.rest = d.rest := (facing_eq_iff.mp h).1

theorem left_eq_of_facing : c.left = d.left := (facing_eq_iff.mp h).2.1

theorem groups_eq_of_facing : c.groups = d.groups := (facing_eq_iff.mp h).2.2

end Facing

end Cursor

namespace Pattern

open Cursor

/-! ## What is in front of the place -/

/-- Whether the pattern never asks what is in front of the place. -/
def isForward : Pattern → Bool
  | .nothing => true
  | .char _ _ => true
  | .place _ => false
  | .sequence first second => isForward first && isForward second
  | .choice first second => isForward first && isForward second
  | .group _ inner => isForward inner
  | .repetition _ _ _ inner => isForward inner
  | .again _ _ => true
  | .look _ _ _ => false
  | .whole inner => isForward inner
  | .byGroup _ matched unmatched => isForward matched && isForward unmatched

/-- Whether what follows gives the same at places that differ at most in what is in front of them. -/
def Alike (next next' : Following) : Prop :=
  ∀ c c', c.facing = c'.facing → (next c).map facing = (next' c').map facing

theorem Alike.orElse {first first' : Option Cursor} {second second' : Unit → Option Cursor}
    (h : first.map facing = first'.map facing) (h' : (second ()).map facing = (second' ()).map facing) :
    (orElse first second).map facing = (orElse first' second').map facing := by
  cases first <;> cases first' <;> first | exact h' | exact h | cases h

theorem Alike.bind {x x' : Option Cursor} {next next' : Following} (h : x.map facing = x'.map facing)
    (hnext : Alike next next') : (x.bind next).map facing = (x'.bind next').map facing := by
  cases x with
  | none =>
    cases x' with
    | none => rfl
    | some d' => cases h
  | some d =>
    cases x' with
    | none => cases h
    | some d' => exact hnext d d' (Option.some.inj h)

theorem alike_some : Alike some some := fun _ _ h => congrArg some h

theorem facing_next {c c' : Cursor} (h : c.facing = c'.facing) : c.next.facing = c'.next.facing := by
  obtain ⟨hrest, hleft, hgroups⟩ := facing_eq_iff.mp h
  rw [Cursor.next, Cursor.next, ← hrest]
  cases c.rest with
  | nil => exact h
  | cons d rest => simp [facing, hleft, hgroups]

theorem facing_skip? (folding : Folding) (s : Text) {c c' : Cursor} (h : c.facing = c'.facing) :
    (c.skip? folding s).map facing = (c'.skip? folding s).map facing := by
  induction s generalizing c c' with
  | nil => exact congrArg some h
  | cons d s ih =>
    rw [skip?, skip?, rest_eq_of_facing h]
    split
    · rfl
    · split
      · exact ih (facing_next h)
      · rfl

theorem textTo_facing {c c' d d' : Cursor} (h : c.facing = c'.facing) (h' : d.facing = d'.facing) :
    c.textTo d = c'.textTo d' := by
  rw [textTo, textTo, rest_eq_of_facing h, left_eq_of_facing h, left_eq_of_facing h']

/-- A repetition does not ask what is in front of the place if none of its rounds does. -/
theorem runRounds_alike {step : Cursor → Following → Option Cursor} (appetite : Appetite)
    (hstep : ∀ {next next'}, Alike next next' → Alike (step · next) (step · next')) {next next' : Following}
    (hnext : Alike next next') (rounds least : Nat) (most : Option Nat) :
    Alike (runRounds step appetite rounds least most · next) (runRounds step appetite rounds least most · next') := by
  induction rounds generalizing least most with
  | zero => exact hnext
  | succ rounds ih =>
    intro c c' h
    have hafter : Alike (afterRound step rounds least most c next appetite)
        (afterRound step rounds least most c' next' appetite) := by
      intro d d' hd
      rw [afterRound, afterRound, left_eq_of_facing h, left_eq_of_facing hd]
      split
      · exact hnext d d' hd
      · exact ih (least - 1) _ d d' hd
    have hround := hstep hafter c c' h
    dsimp only
    cases appetite with
    | greedy =>
      rw [runRounds_greedy, runRounds_greedy]
      split
      · exact hround
      split
      · exact hnext c c' h
      · exact Alike.orElse hround (hnext c c' h)
    | sparing =>
      rw [runRounds_sparing, runRounds_sparing]
      split
      · exact hround
      split
      · exact hnext c c' h
      · exact Alike.orElse (hnext c c' h) hround
    | keeping =>
      have halone := hstep alike_some c c' h
      dsimp only at halone
      rw [runRounds_keeping, runRounds_keeping]
      split
      · exact Alike.bind halone hafter
      split
      · exact hnext c c' h
      · cases hd : step c some with
        | none =>
          cases hd' : step c' some with
          | none => exact hnext c c' h
          | some d' => rw [hd, hd'] at halone; cases halone
        | some d =>
          cases hd' : step c' some with
          | none => rw [hd, hd'] at halone; cases halone
          | some d' =>
            rw [hd, hd'] at halone
            exact hafter d d' (Option.some.inj halone)

/-- A pattern that does not look back finds the same whatever is in front of the place. -/
theorem run_alike (p : Pattern) (hp : p.isForward = true) {next next' : Following} (hnext : Alike next next') :
    Alike (p.run · next) (p.run · next') := by
  induction p generalizing next next' with
  | nothing => exact hnext
  | char folding set =>
    intro c c' h
    dsimp only
    rw [run, run, rest_eq_of_facing h]
    split
    · rfl
    · split
      · exact hnext _ _ (facing_next h)
      · rfl
  | place kind => cases hp
  | sequence first second ih ih' =>
    rw [isForward, Bool.and_eq_true] at hp
    exact ih hp.1 (ih' hp.2 hnext)
  | choice first second ih ih' =>
    rw [isForward, Bool.and_eq_true] at hp
    exact fun c c' h => Alike.orElse (ih hp.1 hnext c c' h) (ih' hp.2 hnext c c' h)
  | group number inner ih =>
    cases number with
    | none => exact ih hp hnext
    | some n =>
      intro c c' h
      refine ih hp (fun d d' hd => hnext _ _ ?_) c c' h
      obtain ⟨hrest, hleft, hgroups⟩ := facing_eq_iff.mp hd
      exact facing_eq_iff.mpr ⟨hrest, hleft, by simp only [textTo_facing h hd, hgroups]⟩
  | repetition least most appetite inner ih =>
    intro c c' h
    dsimp only
    rw [run, run, left_eq_of_facing h]
    exact runRounds_alike appetite (fun hnext => ih hp hnext) hnext _ least most c c' h
  | again folding n =>
    intro c c' h
    dsimp only
    rw [run, run, groups_eq_of_facing h]
    split
    · rfl
    · exact Alike.bind (facing_skip? folding _ h) hnext
  | look behind wanted inner ih => cases hp
  | whole inner ih => exact fun c c' h => Alike.bind (ih hp alike_some c c' h) hnext
  | byGroup n matched unmatched ih ih' =>
    rw [isForward, Bool.and_eq_true] at hp
    intro c c' h
    dsimp only
    rw [run, run, groups_eq_of_facing h]
    split
    · exact ih hp.1 hnext c c' h
    · exact ih' hp.2 hnext c c' h

/-! ## Searching -/

/-- A search finds the same whatever is in front of the place where it starts. -/
theorem search_alike {p : Pattern} (hp : p.isForward = true) (steps : Nat) {c c' : Cursor} (h : c.facing = c'.facing) :
    (p.search steps c).map (Prod.map facing facing) = (p.search steps c').map (Prod.map facing facing) := by
  induction steps generalizing c c' with
  | zero =>
    have hrun := run_alike p hp alike_some c c' h
    rw [search, search, Option.map_map, Option.map_map]
    calc (p.run c some).map (fun d => (c.facing, d.facing)) = ((p.run c some).map facing).map (c.facing, ·) :=
          (Option.map_map _ _ _).symm
      _ = ((p.run c' some).map facing).map (c'.facing, ·) := by rw [hrun, h]
      _ = (p.run c' some).map fun d => (c'.facing, d.facing) := Option.map_map _ _ _
  | succ steps ih =>
    have hrun := run_alike p hp alike_some c c' h
    dsimp only at hrun
    rw [search, search]
    cases hd : p.run c some with
    | none =>
      rw [hd] at hrun
      rw [Option.map_eq_none_iff.mp hrun.symm]
      exact ih (facing_next h)
    | some d =>
      rw [hd] at hrun
      obtain ⟨d', hd', hdd'⟩ := Option.map_eq_some_iff.mp hrun.symm
      rw [hd']
      exact congrArg some (Prod.ext h hdd'.symm)

/-- A search passes the places where there is no match. -/
theorem search_append {p : Pattern} {before s rest : Text} {groups : List (Nat × Text)}
    (h : ∀ u c v, s = u ++ c :: v → p.run (between (u.reverse ++ before) (c :: (v ++ rest)) groups) some = none) :
    p.search (s ++ rest).length (between before (s ++ rest) groups) =
      p.search rest.length (between (s.reverse ++ before) rest groups) := by
  induction s generalizing before with
  | nil => rfl
  | cons c s ih =>
    have hfirst : p.run (between before (c :: (s ++ rest)) groups) some = none := h [] c s rfl
    rw [List.cons_append, List.length_cons, search, hfirst]
    refine (ih fun u d v heq => ?_).trans ?_
    · have hnone := h (c :: u) d v (by rw [heq, List.cons_append])
      rwa [reverse_cons_append] at hnone
    · rw [reverse_cons_append]
      rfl

end Pattern

end HtmlTemplate
