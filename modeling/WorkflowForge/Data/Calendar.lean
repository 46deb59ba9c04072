import WorkflowForge.Number.Decimal

/-!
Dates, and moments of a day with an optional distance from universal time, and the two ways in which they are shown.
-/

namespace WorkflowForge

structure Date where
  year : Nat
  month : Nat
  day : Nat
deriving DecidableEq, Repr, Inhabited

namespace Date

def isLeap (year : Nat) : Bool := year % 4 == 0 && (year % 100 != 0 || year % 400 == 0)

def daysIn (year month : Nat) : Nat :=
  match month with
  | 2 => if isLeap year then 29 else 28
  | 4 | 6 | 9 | 11 => 30
  | _ => 31

def isValid (d : Date) : Bool :=
  1 ≤ d.year && d.year ≤ 9999 && 1 ≤ d.month && d.month ≤ 12 && 1 ≤ d.day && d.day ≤ daysIn d.year d.month

def padded (width n : Nat) : String := String.ofList (Double.padZeros width (Double.digitChars n))

def display (d : Date) : String := s!"{padded 4 d.year}-{padded 2 d.month}-{padded 2 d.day}"

def displayQuoted (d : Date) : String := s!"datetime.date({d.year}, {d.month}, {d.day})"

end Date

structure Moment where
  date : Date
  hour : Nat
  minute : Nat
  second : Nat
  microsecond : Nat
  /-- Minutes by which local time is ahead of universal time. -/
  offset : Option Int
deriving DecidableEq, Repr, Inhabited

namespace Moment

def isValid (m : Moment) : Bool := m.date.isValid && m.hour < 24 && m.minute < 60 && m.second < 60

def offsetText (minutes : Int) : String :=
  let sign := if minutes < 0 then "-" else "+"
  s!"{sign}{Date.padded 2 (minutes.natAbs / 60)}:{Date.padded 2 (minutes.natAbs % 60)}"

def display (m : Moment) : String :=
  let time := s!"{Date.padded 2 m.hour}:{Date.padded 2 m.minute}:{Date.padded 2 m.second}"
  let parts := if m.microsecond == 0 then "" else "." ++ Date.padded 6 m.microsecond
  let zone := (m.offset.map offsetText).getD ""
  s!"{m.date.display} {time}{parts}{zone}"

def zoneText (minutes : Int) : String :=
  if minutes == 0 then "datetime.timezone.utc"
  else if minutes > 0 then s!"datetime.timezone(datetime.timedelta(seconds={minutes * 60}))"
  else s!"datetime.timezone(datetime.timedelta(days=-1, seconds={86400 + minutes * 60}))"

def displayQuoted (m : Moment) : String :=
  let tail :=
    if m.microsecond != 0 then s!", {m.second}, {m.microsecond}"
    else if m.second != 0 then s!", {m.second}"
    else ""
  let zone := (m.offset.map fun o => ", tzinfo=" ++ zoneText o).getD ""
  s!"datetime.datetime({m.date.year}, {m.date.month}, {m.date.day}, {m.hour}, {m.minute}{tail}{zone})"

end Moment

end WorkflowForge
