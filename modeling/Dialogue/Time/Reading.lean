import Dialogue.Text.Codes
import Dialogue.Time.Timestamp

/-!
# Reading timestamps

A date is written with dashes or without, by month and day or by week and weekday; of a week without
a weekday it is the Monday. After the date may come any one character, or half a surrogate pair, and
a time of day, with colons or without, in two to six digits and perhaps a fraction, of which six
digits count. Last may come the zone: `Z`, or a sign and a time of day.

* `Timestamp.read`: the timestamp that a text writes;
* `TimeError`: why a text writes none.
-/

namespace Dialogue.Time

open Text

/-- Why a text writes no timestamp. -/
inductive TimeError where
  | form (codes : Codes)
  /-- A zone that is a day or more away. -/
  | zone (micros : Int)
  | year (n : Nat)
  | month
  | day
  | hour
  | minute
  | second
  deriving DecidableEq, Repr

/-- A span of time as its days, seconds and microseconds, of which only the days may be negative. -/
def spanText (micros : Int) : Text :=
  let seconds := micros.fdiv 1000000
  let parts := [("days=", seconds.fdiv 86400), ("seconds=", seconds.fmod 86400),
    ("microseconds=", micros.fmod 1000000)]
  ofString "datetime.timedelta(" ++
    joinWith (ofString ", ")
      ((parts.filter fun p => p.2 ≠ 0).map fun p => ofString p.1 ++ decimal p.2) ++ [')']

/-- The wording of the refusal. -/
def TimeError.message : TimeError → Text
  | form codes => ofString "Invalid isoformat string: " ++ codes.quoted
  | zone micros =>
    ofString "offset must be a timedelta strictly between -timedelta(hours=24) and " ++
      ofString "timedelta(hours=24), not " ++ spanText micros ++ ['.']
  | year n => ofString "year " ++ decimal n ++ ofString " is out of range"
  | month => ofString "month must be in 1..12"
  | day => ofString "day is out of range for month"
  | hour => ofString "hour must be in 0..23"
  | minute => ofString "minute must be in 0..59"
  | second => ofString "second must be in 0..59"

/-- The number that the first `n` characters write after the digits of `sofar`, and the text after
them. -/
def fixedDigits : Nat → Nat → Text → Option (Nat × Text)
  | 0, sofar, t => some (sofar, t)
  | _ + 1, _, [] => none
  | n + 1, sofar, c :: r =>
    if isAsciiDigit c then fixedDigits n (10 * sofar + (c.toNat - 48)) r else none

/-- The text after a dash that it must open with if `needed`. -/
def afterDash (needed : Bool) (t : Text) : Option Text :=
  if needed then (if t.head? = some '-' then some (t.drop 1) else none) else some t

/-- The date of a weekday; before year 1 there is none, which shows as a month without a number. -/
def Date.ofWeekDay (number : Int) : Date :=
  if number ≤ 0 then ⟨1, 0, 1⟩ else .ofDayNumber number.toNat

/-- The date at the start of a text, of which `room` characters belong to it. -/
def readDate (room : Nat) (t : Text) : Option Date := do
  let (year, r) ← fixedDigits 4 0 t
  let dashed := r.head? = some '-'
  let r ← afterDash dashed r
  if r.head? = some 'W' then
    let (week, r) ← fixedDigits 2 0 (r.drop 1)
    let day ←
      if t.length - r.length < room then do
        let r ← afterDash dashed r
        let (day, _) ← fixedDigits 1 0 r
        some day
      else some 1
    (weekDay? year week day).map Date.ofWeekDay
  else
    let (month, r) ← fixedDigits 2 0 r
    let r ← afterDash dashed r
    let (day, _) ← fixedDigits 2 0 r
    some ⟨year, month, day⟩

/-- How many characters the date takes that a text opens with. After a week with a dash, digits are
taken for a time rather than for a weekday; without dashes, an even number of digits is. -/
def dateLength (t : Text) : Nat :=
  if t.length = 7 then 7
  else if t[4]? = some '-' then
    if t[5]? = some 'W' ∧ (t[8]? ≠ some '-' ∨ (t[10]?.map isAsciiDigit) = some true) then 8 else 10
  else if t[4]? = some 'W' then
    let digits := ((t.drop 7).takeWhile isAsciiDigit).length
    if digits < 2 then 7 + digits else if digits % 2 = 1 then 7 else 8
  else 8

/-- What follows the fields of a time of day: a fraction or its end, perhaps with more after it. -/
inductive FieldsEnd where
  | fraction (t : Text)
  | over (more : Bool)

/-- Up to `n` fields of two digits at the start of a text that `next` follows. Whether colons stand
between them is settled after the first. One ASCII character too many may end the text. -/
def readFields (next : Char) : Nat → Option Bool → Text → Option (List Nat × FieldsEnd)
  | 0, _, t => some ([], .fraction t)
  | n + 1, colons?, t =>
    match fixedDigits 2 0 t with
    | none => none
    | some (value, []) => some ([value], .over (next ≠ '\x00'))
    | some (value, [c]) => if c.toNat < 0x80 then some ([value], .over (c ≠ '\x00')) else none
    | some (value, c :: r) =>
      let colons := colons?.getD (c = ':')
      if colons ∧ c = ':' then
        (readFields next n colons r).map fun (values, rest) => (value :: values, rest)
      else if c = '.' ∨ c = ',' then some ([value], .fraction r)
      else if colons then none
      else (readFields next n colons (c :: r)).map fun (values, rest) => (value :: values, rest)

/-- The microseconds of a fraction, and whether something more follows. -/
def readMicros (next : Char) (t : Text) : Option (Nat × Bool) :=
  let n := min 6 t.length
  (fixedDigits n 0 t).map fun (value, r) =>
    (value * Nat.pow 10 (6 - n), (r.dropWhile isAsciiDigit).headD next ≠ '\x00')

/-- The time of day that a text writes, and whether something more follows. -/
def readTimeOfDay (next : Char) (t : Text) : Option (TimeOfDay × Bool) := do
  let (values, rest) ← readFields next 3 none t
  let (micro, more) ← match rest with
    | .over more => some (0, more)
    | .fraction r => readMicros next r
  some ({ hour := values.getD 0 0, minute := values.getD 1 0, second := values.getD 2 0, micro },
    more)

/-- Whether a character opens a zone. -/
def opensZone (c : Char) : Bool := c = '+' || c = '-' || c = 'Z'

/-- The distance of the zone that a text writes; one of less than a second is none. -/
def readZone : Text → Option Int
  | [] => none
  | c :: r =>
    if c = 'Z' then (if r.headD '\x00' = '\x00' then some 0 else none)
    else match readTimeOfDay '\x00' r with
      | some (t, false) =>
        let micros : Int := if t.seconds = 0 then 0 else 1000000 * t.seconds + t.micro
        some (if c = '-' then -micros else micros)
      | _ => none

/-- The time of day and the zone that a text writes. Something more may stand before a zone. -/
def readTime (t : Text) : Option (TimeOfDay × Option Int) :=
  let clock := t.takeWhile fun c => !opensZone c
  let rest := t.drop clock.length
  match readTimeOfDay (rest.headD '\x00') clock with
  | none => none
  | some (time, more) =>
    if rest.isEmpty then (if more then none else some (time, none))
    else (readZone rest).map fun micros => (time, some micros)

/-- Date, time of day and zone as a text writes them. -/
def readParts (t : Text) : Option Timestamp := do
  let length := dateLength t
  let date ← readDate length t
  if length < t.length then
    let (time, zone) ← readTime (t.drop (length + 1))
    some { date, time, zone }
  else some { date }

/-- The text with a `T` for the half of a surrogate pair, if there is one, at the first of the
places where a date may end. -/
def separated (codes : Codes) : Codes :=
  let isHalf (place : Nat) : Bool := codes[place]?.any fun code => (Codes.char? code).isNone
  match [7, 8, 10].find? isHalf with
  | some place => codes.set place 'T'.toNat
  | none => codes

/-- The length of a day in microseconds. -/
def dayMicros : Nat := 86400000000

namespace Timestamp

/-- The first part of a timestamp that is out of range. -/
def check (t : Timestamp) : Except TimeError Timestamp :=
  if dayMicros ≤ (t.zone.getD 0).natAbs then .error (.zone (t.zone.getD 0))
  else if t.date.year = 0 ∨ 9999 < t.date.year then .error (.year t.date.year)
  else if t.date.month = 0 ∨ 12 < t.date.month then .error .month
  else if t.date.day = 0 ∨ t.date.monthLength < t.date.day then .error .day
  else if 24 ≤ t.time.hour then .error .hour
  else if 60 ≤ t.time.minute then .error .minute
  else if 60 ≤ t.time.second then .error .second
  else .ok t

/-- The timestamp that a text writes. -/
def read (codes : Codes) : Except TimeError Timestamp :=
  match (separated codes).toText? >>= readParts with
  | none => .error (.form codes)
  | some parts => parts.check

end Timestamp

end Dialogue.Time
