import HtmlTemplate.Text.Basic

/-!
# Days and moments

A day of the calendar, and a moment on a day, which may be told in a zone. `Day.make` and `Moment.make` refuse what is
not on the calendar or on the clock. Two moments with zones are the same if they are one moment of universal time.
-/

namespace HtmlTemplate

/-- A natural number with noughts in front of it, so that it has at least `width` digits. -/
def Text.padded (width n : Nat) : Text :=
  let digits := Text.ofNat n
  List.replicate (width - digits.length) ('0' : CodePoint) ++ digits

/-- A day of the calendar. -/
structure Day where
  year : Nat
  month : Nat
  day : Nat
  deriving DecidableEq, Repr

/-- A moment of a day. `offset?` is by how many minutes its clock is ahead of universal time, if that is told. -/
structure Moment where
  day : Day
  hour : Nat
  minute : Nat
  second : Nat
  microsecond : Nat
  offset? : Option Int
  deriving DecidableEq, Repr

/-- Why numbers tell no moment: which of them is out of bounds. -/
inductive CalendarFault where
  | year (n : Nat)
  | month
  | day
  | hour
  | minute
  | second
  | offset (minutes : Int)
  deriving DecidableEq, Repr

/-- The words for a length of time. -/
def durationLiteral (minutes : Int) : Text :=
  let seconds := minutes * 60
  let days := Int.fdiv seconds 86400
  let rest := Int.fmod seconds 86400
  let parts :=
    (if days = 0 then [] else ["days=".text ++ Text.ofInt days]) ++
      if rest = 0 then [] else ["seconds=".text ++ Text.ofInt rest]
  "datetime.timedelta(".text ++ Text.join [',', ' '] parts ++ ")".text

/-- The words for a fault. -/
def CalendarFault.message : CalendarFault → Text
  | .year n => "year ".text ++ Text.ofNat n ++ " is out of range".text
  | .month => "month must be in 1..12".text
  | .day => "day is out of range for month".text
  | .hour => "hour must be in 0..23".text
  | .minute => "minute must be in 0..59".text
  | .second => "second must be in 0..59".text
  | .offset minutes =>
    ("offset must be a timedelta strictly between -timedelta(hours=24) and timedelta(hours=24), not ").text ++
      durationLiteral minutes ++ ".".text

namespace Day

/-- Whether a year has a leap day. -/
def isLeap (year : Nat) : Bool := year % 4 = 0 && (year % 100 ≠ 0 || year % 400 = 0)

/-- How many days a month has. -/
def monthLength (year month : Nat) : Nat :=
  if month = 2 then (if isLeap year then 29 else 28)
  else if [4, 6, 9, 11].contains month then 30
  else 31

/-- The day of three numbers. -/
def make (year month day : Nat) : Except CalendarFault Day :=
  if year = 0 then .error (.year year)
  else if month = 0 || 12 < month then .error .month
  else if day = 0 || monthLength year month < day then .error .day
  else .ok ⟨year, month, day⟩

/-- How many days of the calendar end with this one. -/
def number (d : Day) : Nat :=
  let years := d.year - 1
  let months := (List.range (d.month - 1)).foldl (fun n m => n + monthLength d.year (m + 1)) 0
  365 * years + years / 4 - years / 100 + years / 400 + months + d.day

/-- The numbers of a day, with lines between them. -/
def text (d : Day) : Text :=
  Text.padded 4 d.year ++ "-".text ++ Text.padded 2 d.month ++ "-".text ++ Text.padded 2 d.day

/-- The numbers of a day, with commas between them. -/
def numbers (d : Day) : Text := Text.join [',', ' '] ([d.year, d.month, d.day].map Text.ofNat)

/-- A day in a message. -/
def literal (d : Day) : Text := "datetime.date(".text ++ d.numbers ++ ")".text

end Day

namespace Moment

/-- The moment of a day's numbers and a clock's. -/
def make (year month day hour minute second microsecond : Nat) (offset? : Option Int) :
    Except CalendarFault Moment := do
  match offset? with
  | some minutes => if 1440 ≤ minutes.natAbs then throw (.offset minutes)
  | none => pure ()
  let day ← Day.make year month day
  if 23 < hour then throw .hour
  if 59 < minute then throw .minute
  if 59 < second then throw .second
  return ⟨day, hour, minute, second, microsecond, offset?⟩

/-- The minutes of universal time up to a moment, if its zone is told, else those of its own clock. -/
def minutes (m : Moment) : Int := 1440 * m.day.number + 60 * m.hour + m.minute - m.offset?.getD 0

/-- Whether two moments are the same. A moment with a zone is none without. -/
def same (m n : Moment) : Bool :=
  m.offset?.isSome == n.offset?.isSome && m.minutes == n.minutes && m.second == n.second &&
    m.microsecond == n.microsecond

/-- The zone of a moment: a sign, hours and minutes. -/
def zoneText (offset : Int) : Text :=
  (if offset < 0 then "-" else "+").text ++ Text.padded 2 (offset.natAbs / 60) ++ ":".text ++
    Text.padded 2 (offset.natAbs % 60)

/-- The day and the clock of a moment. -/
def text (m : Moment) : Text :=
  m.day.text ++ " ".text ++ Text.join ":".text ([m.hour, m.minute, m.second].map (Text.padded 2)) ++
    (if m.microsecond = 0 then [] else ".".text ++ Text.padded 6 m.microsecond) ++
    match m.offset? with
    | some offset => zoneText offset
    | none => []

/-- The zone of a moment in a message. -/
def zoneLiteral (offset : Int) : Text :=
  if offset = 0 then "datetime.timezone.utc".text
  else "datetime.timezone(".text ++ durationLiteral offset ++ ")".text

/-- A moment in a message. Seconds and parts of a second that are nought are left out. -/
def literal (m : Moment) : Text :=
  let seconds :=
    if m.microsecond ≠ 0 then [m.second, m.microsecond] else if m.second ≠ 0 then [m.second] else []
  "datetime.datetime(".text ++ m.day.numbers ++
    ([m.hour, m.minute] ++ seconds).flatMap (fun n => ", ".text ++ Text.ofNat n) ++
    (match m.offset? with
      | some offset => ", tzinfo=".text ++ zoneLiteral offset
      | none => []) ++ ")".text

end Moment

end HtmlTemplate
