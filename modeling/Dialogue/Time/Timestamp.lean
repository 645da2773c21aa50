import Dialogue.Text.Numeral
import Dialogue.Time.Calendar

/-!
# Timestamps

A timestamp is a date with a time of day to the microsecond, and the zone's distance from universal
time if it is known.

* `Timestamp.ofMicros`, `Timestamp.ofSeconds`: the moment that lies some time after the start of
  year 1;
* `Timestamp.instant`: the moment as a number, by which timestamps are compared;
* `Timestamp.toText`: year, month and day, a `T`, hour, minute and second, then the microseconds and
  the zone where there are any.
-/

namespace Dialogue.Time

open Text

/-- A time of day. -/
structure TimeOfDay where
  hour : Nat := 0
  minute : Nat := 0
  second : Nat := 0
  micro : Nat := 0
  deriving DecidableEq, Repr

/-- The whole seconds since midnight. -/
def TimeOfDay.seconds (t : TimeOfDay) : Nat := 3600 * t.hour + 60 * t.minute + t.second

/-- Whether a day has the time. -/
def TimeOfDay.isValid (t : TimeOfDay) : Bool :=
  t.hour < 24 && t.minute < 60 && t.second < 60 && t.micro < 1000000

/-- A date with a time. -/
structure Timestamp where
  date : Date
  time : TimeOfDay := {}
  /-- How far the zone is ahead of universal time, in microseconds. -/
  zone : Option Int := none
  deriving DecidableEq, Repr

/-- A number in ASCII digits, with zeros in front up to a width. -/
def padded (width n : Nat) : Text :=
  let digits := Nat.toDigits 10 n
  List.replicate (width - digits.length) '0' ++ digits

/-- The time of day: hour and minute, the seconds if `full` or if there are any, and the
microseconds if there are any. -/
def TimeOfDay.toText (full : Bool) (t : TimeOfDay) : Text :=
  padded 2 t.hour ++ ':' :: padded 2 t.minute ++
    (if full ∨ t.second ≠ 0 ∨ t.micro ≠ 0 then ':' :: padded 2 t.second else []) ++
    (if t.micro ≠ 0 then '.' :: padded 6 t.micro else [])

/-- The time of day that lies some microseconds after midnight. -/
def TimeOfDay.ofMicros (n : Nat) : TimeOfDay :=
  let seconds := n / 1000000
  { hour := seconds / 3600, minute := seconds / 60 % 60, second := seconds % 60,
    micro := n % 1000000 }

/-- The zone: a sign and its distance from universal time. -/
def zoneText (micros : Int) : Text :=
  (if micros < 0 then '-' else '+') :: (TimeOfDay.ofMicros micros.natAbs).toText false

/-- A date as year, month and day. -/
def Date.toText (d : Date) : Text :=
  padded 4 d.year ++ '-' :: padded 2 d.month ++ '-' :: padded 2 d.day

namespace Timestamp

/-- The timestamp as text. -/
def toText (t : Timestamp) : Text :=
  t.date.toText ++ 'T' :: t.time.toText true ++
    match t.zone with
    | some micros => zoneText micros
    | none => []

/-- The moment as a number of microseconds; a time without a zone counts as universal time. -/
def instant (t : Timestamp) : Int :=
  1000000 * (86400 * t.date.dayNumber + t.time.seconds) + t.time.micro - t.zone.getD 0

/-- The moment that lies some microseconds after the start of year 1, in universal time. -/
def ofMicros (micros : Nat) : Timestamp where
  date := .ofDayNumber (micros / 86400000000 + 1)
  time := .ofMicros (micros % 86400000000)
  zone := some 0

/-- The moment that lies some seconds after the start of year 1, in universal time. -/
def ofSeconds (seconds : Nat) : Timestamp := ofMicros (1000000 * seconds)

end Timestamp

end Dialogue.Time
