import ListenDeck.Text.Numeral

/-!
# The calendar

Days of the Gregorian calendar, counted from the first of January 1970, with a year 0. A year of 400
is counted from the first of March, so that the leap day is its last.

* `Date.ofDay`: the date of a day.
* `Date.toDay`: the day of a date.
* `Date.text`: the date as in `Mar 3, 2024`.
-/

namespace ListenDeck

/-- A date of the Gregorian calendar. -/
structure Date where
  year : Int
  month : Nat
  day : Nat
  deriving DecidableEq, Repr, Inhabited

namespace Date

/-- Days from the first of March of year 0 to the first of January 1970. -/
def epochOffset : Int := 719468

/-- Days in 400 years. -/
def daysPerEra : Int := 146097

/-- Days before the month `m`, counted from March as month 0. -/
def daysBeforeMonth (m : Nat) : Nat := (153 * m + 2) / 5

/-- Days before the year `y` of an era, years starting in March. -/
def daysBeforeYear (y : Nat) : Nat := 365 * y + y / 4 - y / 100

/-- The date of a day. -/
def ofDay (day : Int) : Date :=
  let shifted := day + epochOffset
  let era := shifted / daysPerEra
  let inEra := (shifted % daysPerEra).toNat
  let year := (inEra - inEra / 1460 + inEra / 36524 - inEra / 146096) / 365
  let inYear := inEra - daysBeforeYear year
  let month := (5 * inYear + 2) / 153
  { year := era * 400 + year + if month < 10 then 0 else 1
    month := if month < 10 then month + 3 else month - 9
    day := inYear - daysBeforeMonth month + 1 }

/-- The day of a date. -/
def toDay (d : Date) : Int :=
  let year := if d.month ≤ 2 then d.year - 1 else d.year
  let month := if d.month ≤ 2 then d.month + 9 else d.month - 3
  let era := year / 400
  let inYear := daysBeforeMonth month + (d.day - 1)
  era * daysPerEra + (daysBeforeYear (year % 400).toNat + inYear : Nat) - epochOffset

/-- The short English names of the months. -/
def monthNames : List String :=
  ["Jan", "Feb", "Mar", "Apr", "May", "Jun", "Jul", "Aug", "Sep", "Oct", "Nov", "Dec"]

/-- A number in at least four digits. -/
def fourDigits (n : Nat) : String :=
  let digits := Text.decimal n
  String.ofList (List.replicate (4 - digits.length) '0') ++ digits

/-- A year in at least four digits; one before year 0 or after 9999 has its sign. -/
def yearText (year : Int) : String :=
  if year < 0 then "-" ++ fourDigits year.natAbs
  else if 9999 < year then "+" ++ fourDigits year.natAbs
  else fourDigits year.natAbs

/-- The date as in `Mar 3, 2024`. -/
def text (d : Date) : String :=
  monthNames.getD (d.month - 1) "" ++ " " ++ Text.decimal d.day ++ ", " ++ yearText d.year

end Date

end ListenDeck
