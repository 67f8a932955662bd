import Persona.Text.Capital
import Persona.Text.Digit
import Persona.Text.Lowercase
import Persona.Text.Search
import Persona.Time.Moment

/-!
# Dates in headers

A date in a header is written in one of several ways: with or without the day of the week, with
dashes or blanks, the month before or after the day, and with or without a zone. What cannot be
understood is no date. Only numbers that are out of all bounds are an error.
-/

namespace Persona.Gateway.HeaderDate

/-! ## The parts of a date -/

/-- The parts as they are written. -/
structure Written where
  day : String
  month : String
  year : String
  time : String
  zone : String

def weekdays : List String := ["mon", "tue", "wed", "thu", "fri", "sat", "sun"]

def months : List String :=
  ["jan", "feb", "mar", "apr", "may", "jun", "jul", "aug", "sep", "oct", "nov", "dec",
   "january", "february", "march", "april", "may", "june", "july", "august", "september",
   "october", "november", "december"]

/-- A month by its name, from one on. -/
def monthNumber? (name : String) : Option Nat := (months.idxOf? name).map (· % 12 + 1)

/-- The words without a day of the week at the front. -/
def dropWeekday : List String → List String
  | [] => []
  | first :: rest =>
    if Text.endsWith first "," || weekdays.contains (Text.lower first) then rest
    else String.ofList (first.toList.reverse.takeWhile (· != ',')).reverse :: rest

/-- A date with dashes in it as three words. -/
def splitDashes : List String → List String
  | [date, time, zone] =>
    let parts := Text.split date "-"
    (if parts.length == 3 then parts else [date]) ++ [time, zone]
  | words => words

/-- A time with a zone right behind it as two words; a time alone has an empty zone. -/
def splitZone : List String → List String
  | [day, month, year, time] =>
    let sign := if time.toList.contains '+' then '+' else '-'
    let before := time.toList.takeWhile (· != sign)
    if before.isEmpty || before.length == time.length then [day, month, year, time, ""]
    else [day, month, year, String.ofList before, String.ofList (time.toList.drop before.length)]
  | words => words

/-- The text without one comma at its end. -/
def dropComma (s : String) : String :=
  if Text.endsWith s "," then String.ofList s.toList.dropLast else s

/-- The parts of a date, each in its place. -/
def written? (s : String) : Option Written :=
  match splitZone (splitDashes (dropWeekday (Text.words s))) with
  | day :: month :: year :: time :: zone :: _ => do
    if day == "" || month == "" || year == "" then none
    let month := Text.lower month
    let (day, month) := if months.contains month then (day, month) else (month, Text.lower day)
    let (year, time) := if (year.toList.drop 1).contains ':' && year.toList.head? != some ':'
      then (time, year) else (year, time)
    let year := dropComma year
    let first ← year.toList.head?
    let (year, zone) := if Text.isAnyDigit first then (year, zone) else (zone, year)
    some ⟨dropComma day, month, year, dropComma time, zone⟩
  | _ => none

/-! ## Numbers -/

def int? (s : String) : Option Int := (Text.readInt s).toOption

/-- Hour, minute and second; points may stand between them in place of colons. -/
def clock? (time : String) : Option (Int × Int × Int) :=
  let parts := match Text.split time ":" with
    | [one] => if one.toList.contains '.' then Text.split one "." else [one]
    | parts => parts
  match parts with
  | [h, m] => do return (← int? h, ← int? m, 0)
  | [h, m, s] => do return (← int? h, ← int? m, ← int? s)
  | _ => none

/-- A year of two digits is one from 1969 to 2068. -/
def wholeYear (year : Int) : Int :=
  if year < 100 then (if 68 < year then year + 1900 else year + 2000) else year

/-- Zones with a name, in hours and minutes as one number. -/
def zones : List (String × Int) :=
  [("UT", 0), ("UTC", 0), ("GMT", 0), ("Z", 0), ("AST", -400), ("ADT", -300), ("EST", -500),
   ("EDT", -400), ("CST", -600), ("CDT", -500), ("MST", -700), ("MDT", -600), ("PST", -800),
   ("PDT", -700)]

/-- The seconds by which a zone is ahead; none if that is not known. -/
def zoneSeconds? (zone : String) : Option Int := do
  let zone := Text.upper zone
  let offset ← (zones.lookup zone) <|> int? zone
  if offset == 0 && Text.startsWith zone "-" then none
  let seconds : Int := (offset.natAbs / 100) * 3600 + (offset.natAbs % 100) * 60
  some (if offset < 0 then -seconds else seconds)

/-! ## Reading -/

/-- The days of a month. -/
def monthLength (year : Int) (month : Nat) : Nat :=
  let leap := year % 4 == 0 && (year % 100 != 0 || year % 400 == 0)
  if month == 2 then (if leap then 29 else 28)
  else if [4, 6, 9, 11].contains month then 30
  else 31

/-- A number that fits into a machine word. -/
def isBounded (n : Int) : Bool := -2147483648 ≤ n && n ≤ 2147483647

/-- The moment of a date. -/
def read (s : String) : Except Moment.RangeError (Option Moment) :=
  let parts := do
    let w ← written? s
    let month ← monthNumber? w.month
    let clock ← clock? w.time
    return (wholeYear (← int? w.year), month, ← int? w.day, clock, zoneSeconds? w.zone)
  match parts with
  | none => .ok none
  | some (year, month, day, (hour, minute, second), zone) =>
    let ahead := zone.getD 0
    if 999999999 < (ahead / 86400).natAbs then .error .unbounded
    else if 86400 ≤ ahead.natAbs then .ok none
    else if [year, day, hour, minute, second].any fun n => !isBounded n then .error .unbounded
    else if 1 ≤ year && year ≤ 9999 && 1 ≤ day && day ≤ monthLength year month &&
        0 ≤ hour && hour ≤ 23 && 0 ≤ minute && minute ≤ 59 && 0 ≤ second && second ≤ 59 then
      let seconds := hour * 3600 + minute * 60 + second - ahead
      .ok (some (.ofDate ⟨year, month, day.toNat⟩ (seconds * Moment.perSecond)))
    else .ok none

end Persona.Gateway.HeaderDate
