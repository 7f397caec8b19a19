import ListenDeck.Time.Calendar

/-!
# Ages and durations

How long ago something was, in words, and how long a track is, in minutes and seconds.

* `Zone`: how far clocks are ahead of UTC; `Zone.day`: the day of a moment by them.
* `Age.ofSeconds`: the range an age falls into.
* `ageText?`: the age of a moment, or its date if it is a week old or more.
* `durationText`: minutes and seconds of a duration in milliseconds.
-/

namespace ListenDeck

/-- A moment in seconds since 1970 that the calendar reaches. -/
def isMoment (time : Int) : Bool := -8334601228800 ≤ time && time ≤ 8210266876799

/-- How long ago something was. -/
inductive Age where
  | justNow
  | minutes (n : Nat)
  | hours (n : Nat)
  | yesterday
  | days (n : Nat)
  /-- A week or more. -/
  | old
  deriving DecidableEq, Repr

namespace Age

/-- Seconds of a minute, an hour and a day. -/
def minute : Int := 60
@[inherit_doc minute] def hour : Int := 3600
@[inherit_doc minute] def day : Int := 86400

/-- The range of an age in seconds; what lies ahead counts as just now. -/
def ofSeconds (s : Int) : Age :=
  if s < minute then .justNow
  else if s < hour then .minutes (s / minute).toNat
  else if s < day then .hours (s / hour).toNat
  else if s < 2 * day then .yesterday
  else if s < 7 * day then .days (s / day).toNat
  else .old

/-- A number of units ago. -/
def unitsAgo (n : Nat) (unit : String) : String :=
  if n = 1 then "1 " ++ unit ++ " ago" else Text.decimal n ++ " " ++ unit ++ "s ago"

/-- The age in words; an old moment is told by its date. -/
def text (date : Date) : Age → String
  | .justNow => "just now"
  | .minutes n => unitsAgo n "minute"
  | .hours n => unitsAgo n "hour"
  | .yesterday => "yesterday"
  | .days n => unitsAgo n "day"
  | .old => date.text

end Age

/-- A time zone: by how many seconds its clocks are ahead of UTC, moment by moment. -/
structure Zone where
  ahead : Int → Int
  /-- Clocks are less than a day apart from UTC. -/
  near : ∀ time, -Age.day < ahead time ∧ ahead time < Age.day

namespace Zone

/-- A zone whose clocks are never changed. -/
def fixed (seconds : Int) (near : -Age.day < seconds ∧ seconds < Age.day) : Zone :=
  ⟨fun _ => seconds, fun _ => near⟩

/-- The zone of UTC. -/
def utc : Zone := fixed 0 (by decide)

instance : Inhabited Zone := ⟨utc⟩

/-- The day of a moment by the clocks of the zone. -/
def day (z : Zone) (time : Int) : Int := (time + z.ahead time) / Age.day

end Zone

/-- The age of a moment, if there is one and the calendar reaches it. The date of an old moment is
the one in the zone. -/
def ageText? (time : Option Int) (now : Int) (zone : Zone := .utc) : Option String :=
  match time with
  | some time =>
    if isMoment time && isMoment now then
      some ((Age.ofSeconds (now - time)).text (Date.ofDay (zone.day time)))
    else none
  | none => none

/-- Minutes and seconds of a duration in milliseconds; empty without one. -/
def durationText : Option UInt64 → String
  | none => ""
  | some ms =>
    let seconds := ms.toNat / 1000
    Text.decimal (seconds / 60) ++ ":" ++ Text.decimalTwo (seconds % 60)

end ListenDeck
