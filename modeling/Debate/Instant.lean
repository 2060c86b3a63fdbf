import Debate.Text.Digit

/-!
# Instants

An instant is a number of seconds since the start of 1970 and the microseconds past it. Dates are
those of the Gregorian calendar, carried back before its introduction; times are universal times.

* `Instant`             a point in time;
* `Instant.ofIso?`      the instant of a date and time in ISO 8601;
* `Instant.iso`         that date and time, with microseconds only where there are some;
* `Instant.timeOfDay`   hours, minutes and seconds;
* `Instant.stamp`       date and time in a form that is fit for a name.
-/

namespace Debate

open Debate.Text

/-- a point in time -/
structure Instant where
  seconds : Int
  micros : Nat := 0
  deriving DecidableEq, Repr

namespace Instant

/-! ## the calendar -/

/-- days since the start of 1970 of a date; years are counted from March -/
def daysOfDate (year : Int) (month day : Nat) : Int :=
  let y := if month ≤ 2 then year - 1 else year
  let era := y.fdiv 400
  let yearOfEra := y - era * 400
  let monthFromMarch : Int := (month + 9) % 12
  let dayOfYear := (153 * monthFromMarch + 2) / 5 + day - 1
  era * 146097 + (yearOfEra * 365 + yearOfEra / 4 - yearOfEra / 100 + dayOfYear) - 719468

/-- the date of a number of days since the start of 1970 -/
def dateOfDays (days : Int) : Int × Nat × Nat :=
  let z := days + 719468
  let era := z.fdiv 146097
  let dayOfEra := z - era * 146097
  let yearOfEra := (dayOfEra - dayOfEra / 1460 + dayOfEra / 36524 - dayOfEra / 146096) / 365
  let dayOfYear := dayOfEra - (365 * yearOfEra + yearOfEra / 4 - yearOfEra / 100)
  let monthFromMarch := (5 * dayOfYear + 2) / 153
  let day := (dayOfYear - (153 * monthFromMarch + 2) / 5 + 1).toNat
  let month := if monthFromMarch < 10 then (monthFromMarch + 3).toNat else (monthFromMarch - 9).toNat
  let year := yearOfEra + era * 400
  (if month ≤ 2 then year + 1 else year, month, day)

/-! ## writing -/

/-- the days and the seconds of the day -/
def split (t : Instant) : Int × Nat := (t.seconds.fdiv 86400, (t.seconds.fmod 86400).toNat)

/-- the date, with a separator between its parts -/
def date (t : Instant) : String :=
  let (y, m, d) := dateOfDays t.split.1
  padded 4 y.toNat ++ "-" ++ padded 2 m ++ "-" ++ padded 2 d

/-- hours, minutes and seconds with a separator -/
def time (t : Instant) (separator : String) : String :=
  let s := t.split.2
  padded 2 (s / 3600) ++ separator ++ padded 2 (s / 60 % 60) ++ separator ++ padded 2 (s % 60)

/-- hours, minutes and seconds -/
def timeOfDay (t : Instant) : String := t.time ":"

/-- date and time in a form that is fit for a name -/
def stamp (t : Instant) : String := t.date ++ "_" ++ t.time "-"

/-- date and time in ISO 8601 -/
def iso (t : Instant) : String :=
  t.date ++ "T" ++ t.time ":" ++ (if t.micros = 0 then "" else "." ++ padded 6 t.micros) ++ "+00:00"

/-! ## reading -/

/-- a number of exactly the given count of digits, and what follows it -/
def readNumber? (width : Nat) (cs : List Char) : Option (Nat × List Char) :=
  let ds := cs.take width
  if ds.length = width ∧ ds.all Char.isDigit then
    some (ds.foldl (fun n d => 10 * n + (d.toNat - 48)) 0, cs.drop width)
  else none

/-- a character, and what follows it -/
def readMark? (allowed : List Char) : List Char → Option (List Char)
  | c :: cs => if allowed.contains c then some cs else none
  | [] => none

/-- the microseconds after a point; digits beyond the sixth are dropped -/
def readMicros (cs : List Char) : Nat × List Char :=
  match cs with
  | c :: rest =>
    if c = '.' ∨ c = ',' then
      let ds := rest.takeWhile Char.isDigit
      let six := (ds ++ List.replicate 6 '0').take 6
      (six.foldl (fun n d => 10 * n + (d.toNat - 48)) 0, rest.dropWhile Char.isDigit)
    else (0, cs)
  | [] => (0, cs)

/-- the seconds by which a zone is ahead of universal time -/
def readZone? : List Char → Option Int
  | [] => some 0
  | ['Z'] => some 0
  | sign :: cs => do
    let (h, cs) ← readNumber? 2 cs
    let cs ← readMark? [':'] cs
    let (m, cs) ← readNumber? 2 cs
    if !cs.isEmpty then none
    else if sign = '+' then some (3600 * h + 60 * m)
    else if sign = '-' then some (-(3600 * h + 60 * m))
    else none

/-- the instant of a date and time in ISO 8601 -/
def ofIso? (s : String) : Option Instant := do
  let (year, cs) ← readNumber? 4 s.toList
  let cs ← readMark? ['-'] cs
  let (month, cs) ← readNumber? 2 cs
  let cs ← readMark? ['-'] cs
  let (day, cs) ← readNumber? 2 cs
  let cs ← readMark? ['T', ' '] cs
  let (hour, cs) ← readNumber? 2 cs
  let cs ← readMark? [':'] cs
  let (minute, cs) ← readNumber? 2 cs
  let cs ← readMark? [':'] cs
  let (second, cs) ← readNumber? 2 cs
  let (micros, cs) := readMicros cs
  let ahead ← readZone? cs
  let days := daysOfDate year month day
  some { seconds := 86400 * days + (3600 * hour + 60 * minute + second : Nat) - ahead, micros }

example : (ofIso? "2026-01-02T03:04:05+00:00").map iso = some "2026-01-02T03:04:05+00:00" := by
  decide +kernel
example : (ofIso? "2026-03-01T00:30:00.5+01:00").map iso =
    some "2026-02-28T23:30:00.500000+00:00" := by decide +kernel
example : (ofIso? "2024-02-29T23:59:58Z").map stamp = some "2024-02-29_23-59-58" := by
  decide +kernel

end Instant

end Debate
