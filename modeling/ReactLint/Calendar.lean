/-!
# Dates and times

Calendar dates, times of day and moments with an optional distance from universal time, and the way
that they are written.
-/

namespace ReactLint

structure Date where
  year : Nat
  month : Nat
  day : Nat
  deriving DecidableEq, Repr

structure TimeOfDay where
  hour : Nat
  minute : Nat
  second : Nat
  microsecond : Nat
  deriving DecidableEq, Repr

/-- A moment; `zone` is the distance from universal time in seconds, if it is known. -/
structure Moment where
  date : Date
  time : TimeOfDay
  zone : Option Int
  deriving DecidableEq, Repr

def padded (width n : Nat) : String :=
  let ds := Nat.toDigits 10 n
  String.ofList (List.replicate (width - ds.length) '0' ++ ds)

namespace Date

def isLeap (year : Nat) : Bool := year % 4 == 0 && (year % 100 != 0 || year % 400 == 0)

def daysIn (year month : Nat) : Nat :=
  if month = 2 then (if isLeap year then 29 else 28)
  else if month = 4 ∨ month = 6 ∨ month = 9 ∨ month = 11 then 30 else 31

def isValid (d : Date) : Bool :=
  1 ≤ d.year && d.year ≤ 9999 && 1 ≤ d.month && d.month ≤ 12 &&
    1 ≤ d.day && d.day ≤ daysIn d.year d.month

def iso (d : Date) : String := s!"{padded 4 d.year}-{padded 2 d.month}-{padded 2 d.day}"

end Date

namespace TimeOfDay

def isValid (t : TimeOfDay) : Bool :=
  t.hour < 24 && t.minute < 60 && t.second < 60 && t.microsecond < 1000000

def iso (t : TimeOfDay) : String :=
  let whole := s!"{padded 2 t.hour}:{padded 2 t.minute}:{padded 2 t.second}"
  if t.microsecond = 0 then whole else s!"{whole}.{padded 6 t.microsecond}"

end TimeOfDay

namespace Moment

/-- The distance from universal time, as a sign, hours and minutes, and seconds if there are any. -/
def zoneText (seconds : Int) : String :=
  let n := seconds.natAbs
  let text := s!"{padded 2 (n / 3600)}:{padded 2 (n / 60 % 60)}"
  let text := if n % 60 = 0 then text else s!"{text}:{padded 2 (n % 60)}"
  (if seconds < 0 then "-" else "+") ++ text

def written (separator : String) (m : Moment) : String :=
  m.date.iso ++ separator ++ m.time.iso ++ (m.zone.map zoneText).getD ""

def iso (m : Moment) : String := m.written "T"

/-- A moment of universal time in milliseconds, which are cut off and not rounded. -/
def stamp (m : Moment) : String :=
  s!"{m.date.iso}T{padded 2 m.time.hour}:{padded 2 m.time.minute}:{padded 2 m.time.second}" ++
    s!".{padded 3 (m.time.microsecond / 1000)}Z"

end Moment

end ReactLint
