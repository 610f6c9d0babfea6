import HtmlTemplate.Datum.Basic
import HtmlTemplate.Text.Figure

/-!
# Days and moments in a text

A stamp is a day, and maybe a time of the day with a zone. Its numbers stand in a fixed order and are not yet known to
be on the calendar and on the clock.
-/

namespace HtmlTemplate.Yaml

/-- A time of the day. -/
structure StampClock where
  hour : Text
  minute : Text
  second : Text
  fraction : Text
  /-- By how many minutes the clock is ahead of universal time, if that is told. -/
  offset? : Option Int

/-- A day, and maybe a time of it. -/
structure Stamp where
  year : Text
  month : Text
  day : Text
  clock? : Option StampClock

namespace Stamp

/-- The number that figures write. -/
def number (figures : Text) : Nat := figures.foldl (fun n c => 10 * n + (c.toNat - 48)) 0

/-- The figures at the front of a text, at least `least` and at most `most`, and the text after them. -/
def figures? (least most : Nat) (s : Text) : Option (Text × Text) :=
  let found := (s.take most).takeWhile isFigure
  if found.length < least then none else some (found, s.drop found.length)

/-- The text after a character. -/
def mark? (c : CodePoint) : Text → Option Text
  | d :: rest => if d = c then some rest else none
  | [] => none

/-- The zone that is the rest of a stamp. -/
def zone? (s : Text) : Option (Option Int) :=
  if s.isEmpty then some none
  else
    match s.dropWhile fun c : CodePoint => c = ' ' || c = '\t' with
    | ['Z'] => some (some 0)
    | sign :: s => do
      if sign ≠ '+' && sign ≠ '-' then none
      let (hours, s) ← figures? 1 2 s
      let minutes ←
        if s.isEmpty then some []
        else do
          let (minutes, s) ← figures? 2 2 (← mark? ':' s)
          if s.isEmpty then some minutes else none
      let offset : Int := 60 * number hours + number minutes
      return some (if sign = '-' then -offset else offset)
    | [] => none

/-- The time of the day that is the rest of a stamp. -/
def clockOf? (s : Text) : Option StampClock := do
  let (hour, s) ← figures? 1 2 s
  let (minute, s) ← figures? 2 2 (← mark? ':' s)
  let (second, s) ← figures? 2 2 (← mark? ':' s)
  let (fraction, s) :=
    match s with
    | '.' :: rest => (rest.takeWhile isFigure, rest.dropWhile isFigure)
    | s => ([], s)
  return ⟨hour, minute, second, fraction, ← zone? s⟩

/-- The stamp that a text writes. -/
def ofText? (s : Text) : Option Stamp := do
  let (year, s) ← figures? 4 4 s
  let (month, s) ← figures? 1 2 (← mark? '-' s)
  let (day, s) ← figures? 1 2 (← mark? '-' s)
  match s with
  | [] => return ⟨year, month, day, none⟩
  | c :: rest =>
    let time ←
      if c = 'T' || c = 't' then some rest
      else if c = ' ' || c = '\t' then some (rest.dropWhile fun c : CodePoint => c = ' ' || c = '\t')
      else none
    return ⟨year, month, day, some (← clockOf? time)⟩

/-- Whether a stamp is known as one without a tag: a day alone must have two figures for its month and its day. -/
def isClear (stamp : Stamp) : Bool :=
  stamp.clock?.isSome || (stamp.month.length = 2 && stamp.day.length = 2)

/-- The day or the moment of a stamp. Of the fraction of a second six figures count. -/
def toDatum (stamp : Stamp) : Except CalendarFault Datum :=
  let year := number stamp.year
  let month := number stamp.month
  let day := number stamp.day
  match stamp.clock? with
  | none => (Day.make year month day).map Datum.day
  | some clock =>
    let fraction := clock.fraction.take 6
    let microsecond := number (fraction ++ List.replicate (6 - fraction.length) ('0' : CodePoint))
    (Moment.make year month day (number clock.hour) (number clock.minute) (number clock.second) microsecond
      clock.offset?).map Datum.moment

end Stamp

end HtmlTemplate.Yaml
