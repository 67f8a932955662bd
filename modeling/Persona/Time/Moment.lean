import Persona.Number.Numeral

/-!
# Moments

A moment counts microseconds from the start of 1970. Its calendar date is the Gregorian one, on
years that start in March so that a leap day comes last.
-/

namespace Persona

structure Moment where
  micros : Int
  deriving DecidableEq, Repr

structure Date where
  year : Int
  month : Nat
  day : Nat
  deriving DecidableEq, Repr

/-- The number in decimal with at least `width` digits. -/
def padded (width n : Nat) : String :=
  let s := Number.natText n
  String.ofList (List.replicate (width - s.length) '0') ++ s

namespace Date

/-- Days from the start of 1970 to a date. -/
def toDays (d : Date) : Int :=
  let y := if d.month ≤ 2 then d.year - 1 else d.year
  let era := y / 400
  let yearOfEra := y % 400
  let monthIndex : Int := (d.month + 9) % 12
  let dayOfYear := (153 * monthIndex + 2) / 5 + d.day - 1
  let dayOfEra := yearOfEra * 365 + yearOfEra / 4 - yearOfEra / 100 + dayOfYear
  era * 146097 + dayOfEra - 719468

/-- The date so many days after the start of 1970. -/
def ofDays (days : Int) : Date :=
  let z := days + 719468
  let era := z / 146097
  let dayOfEra := z % 146097
  let yearOfEra :=
    (dayOfEra - dayOfEra / 1460 + dayOfEra / 36524 - dayOfEra / 146096) / 365
  let dayOfYear := dayOfEra - (365 * yearOfEra + yearOfEra / 4 - yearOfEra / 100)
  let monthIndex := (5 * dayOfYear + 2) / 153
  let day := dayOfYear - (153 * monthIndex + 2) / 5 + 1
  let month := if monthIndex < 10 then monthIndex + 3 else monthIndex - 9
  let year := yearOfEra + era * 400
  ⟨if month ≤ 2 then year + 1 else year, month.toNat, day.toNat⟩

/-- `YYYY-MM-DD`. -/
def text (d : Date) : String :=
  padded 4 d.year.toNat ++ "-" ++ padded 2 d.month ++ "-" ++ padded 2 d.day

/-- The same with the year as it is. -/
def plainText (d : Date) : String :=
  Number.intText d.year ++ "-" ++ padded 2 d.month ++ "-" ++ padded 2 d.day

end Date

namespace Moment

def perSecond : Int := 1000000
def perDay : Int := 86400 * perSecond

/-- The moment of a date and a time of day, in microseconds from midnight. -/
def ofDate (d : Date) (timeOfDay : Int) : Moment := ⟨d.toDays * perDay + timeOfDay⟩

def days (m : Moment) : Int := m.micros / perDay

def date (m : Moment) : Date := Date.ofDays m.days

def secondOfDay (m : Moment) : Nat := (m.micros % perDay / perSecond).toNat

def hour (m : Moment) : Nat := m.secondOfDay / 3600

def microsecond (m : Moment) : Nat := (m.micros % perSecond).toNat

/-- Monday is 0. -/
def weekday (m : Moment) : Nat := ((m.days + 3) % 7).toNat

/-- `H:MM:SS` with the hour padded to `width`, and microseconds if there are any. -/
def clockText (width seconds micros : Nat) : String :=
  padded width (seconds / 3600) ++ ":" ++ padded 2 (seconds / 60 % 60) ++ ":" ++
    padded 2 (seconds % 60) ++ (if micros == 0 then "" else "." ++ padded 6 micros)

/-- Date and time with `separator` between them. -/
def textWith (m : Moment) (separator : String) : String :=
  m.date.text ++ separator ++ clockText 2 m.secondOfDay m.microsecond

/-- `YYYY-MM-DD HH:MM:SS`, with microseconds if there are any. -/
def text (m : Moment) : String := m.textWith " "

/-- The same with a `T` between date and time. -/
def isoText (m : Moment) : String := m.textWith "T"

/-- Why a moment cannot be reached. -/
inductive RangeError where
  /-- It lies outside the years 1 to 9999. -/
  | calendar
  /-- It lies more days away than are counted. -/
  | tooManyDays (days : Int)
  /-- The days do not even fit into a machine word. -/
  | unbounded
  deriving DecidableEq, Repr

def RangeError.message : RangeError → String
  | calendar => "date value out of range"
  | tooManyDays days => "days=" ++ Number.intText days ++ "; must have magnitude <= 999999999"
  | unbounded => "Python int too large to convert to C int"

/-- The first moment of the calendar and the first one after it. -/
def calendarStart : Moment := ofDate ⟨1, 1, 1⟩ 0
def calendarEnd : Moment := ofDate ⟨10000, 1, 1⟩ 0

def add (m : Moment) (micros : Int) : Moment := ⟨m.micros + micros⟩

/-- The moment so many microseconds later, if the calendar reaches it. -/
def add? (m : Moment) (micros : Int) : Except RangeError Moment :=
  let days := micros / perDay
  let later := m.add micros
  if days < -2147483648 || 2147483647 < days then .error .unbounded
  else if 999999999 < days.natAbs then .error (.tooManyDays days)
  else if later.micros < calendarStart.micros || calendarEnd.micros ≤ later.micros then
    .error .calendar
  else .ok later

/-- The whole second of a clock that counts seconds, since 1970, in a double. -/
def wholeSecond (m : Moment) : Int :=
  match Number.cut (Number.ofRatio (m.micros < 0) m.micros.natAbs perSecond.toNat) with
  | .ok n => n
  | .error _ => 0

end Moment

/-- The time between two moments, in microseconds. -/
structure Span where
  micros : Int
  deriving DecidableEq, Repr

namespace Span

/-- The time since an earlier moment. -/
def since (now earlier : Moment) : Span := ⟨now.micros - earlier.micros⟩

def days (s : Span) : Int := s.micros / Moment.perDay

/-- Whole seconds beyond the whole days, from 0 to 86399; days are not counted. -/
def secondsWithinDay (s : Span) : Nat := (s.micros % Moment.perDay / Moment.perSecond).toNat

/-- `D days, H:MM:SS`, with microseconds if there are any. -/
def text (s : Span) : String :=
  let d := s.days
  (if d == 0 then ""
   else Number.intText d ++ (if d.natAbs == 1 then " day, " else " days, ")) ++
    Moment.clockText 1 s.secondsWithinDay (s.micros % Moment.perSecond).toNat

end Span

end Persona
