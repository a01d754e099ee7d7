import BusContract.Yaml.Number

/-!
# Dates and times

A timestamp is a day of the calendar, with or without a time of the day, and with or without how far
that is off from universal time. Not every timestamp that can be written exists.
-/

namespace BusContract.Yaml

/-- A time of the day. -/
structure Clock where
  hour : Nat
  minute : Nat
  second : Nat
  microsecond : Nat
  deriving Repr, DecidableEq

/-- How a clock relates to universal time. -/
inductive Zone where
  | unknown
  | universal
  /-- Off by seconds. -/
  | offset (seconds : Int)
  deriving Repr, DecidableEq

/-- A timestamp. -/
structure Timestamp where
  year : Nat
  month : Nat
  day : Nat
  clock : Option (Clock × Zone)
  deriving Repr, DecidableEq

/-- Is there a 29th of February in the year? -/
def isLeapYear (year : Nat) : Bool :=
  year % 4 == 0 && (year % 100 != 0 || year % 400 == 0)

/-- The number of days of a month. -/
def daysOfMonth (year month : Nat) : Nat :=
  if month = 2 then (if isLeapYear year then 29 else 28)
  else if month = 4 ∨ month = 6 ∨ month = 9 ∨ month = 11 then 30
  else 31

/-- The seconds of a day. -/
def secondsOfDay : Nat := 24 * 60 * 60

/-- A span of time as messages show it, in days and seconds of a day. -/
def renderSpan (seconds : Int) : String :=
  let days := seconds.fdiv secondsOfDay
  let rest := seconds.fmod secondsOfDay
  let parts := (if days = 0 then [] else [s!"days={days}"]) ++
    (if rest = 0 then [] else [s!"seconds={rest}"])
  let inner := if parts.isEmpty then "0" else ", ".intercalate parts
  s!"datetime.timedelta({inner})"

namespace Timestamp

/-- The number that digits stand for. -/
def number (digits : List Char) : Nat := (digitsValue? 10 digits).getD 0

/-- The microseconds of a fraction of a second. Further digits are left out. -/
def microseconds (fraction : List Char) : Nat :=
  number ((fraction ++ List.replicate 6 '0').take 6)

/-- The zone of a timestamp. An offset has to be less than a day. -/
def zoneOf (w : WrittenTime) : Except Fault Zone :=
  match w.offset with
  | some (sign, hours, minutes) =>
    let seconds : Int := ((number hours * 60 + number minutes) * 60 : Nat)
    let seconds := signed (sign == '-') seconds
    if seconds.natAbs < secondsOfDay then .ok (.offset seconds)
    else
      .error (.badDate
        ("offset must be a timedelta strictly between -timedelta(hours=24) and " ++
          s!"timedelta(hours=24), not {renderSpan seconds}."))
  | none => .ok (if w.isUniversal then .universal else .unknown)

/-- Checks the day of a timestamp. -/
def checkDay (year month day : Nat) : Except Fault Unit :=
  if year = 0 then .error (.badDate "year 0 is out of range")
  else if month = 0 ∨ month > 12 then .error (.badDate "month must be in 1..12")
  else if day = 0 ∨ day > daysOfMonth year month then
    .error (.badDate "day is out of range for month")
  else .ok ()

/-- Checks the time of a timestamp. -/
def checkClock (hour minute second : Nat) : Except Fault Unit :=
  if hour > 23 then .error (.badDate "hour must be in 0..23")
  else if minute > 59 then .error (.badDate "minute must be in 0..59")
  else if second > 59 then .error (.badDate "second must be in 0..59")
  else .ok ()

/-- The timestamp that is written, if it exists. -/
def ofWritten (w : WrittenTime) : Except Fault Timestamp := do
  let year := number w.year
  let month := number w.month
  let day := number w.day
  match w.clock with
  | none =>
    checkDay year month day
    return ⟨year, month, day, none⟩
  | some (hour, minute, second) =>
    let zone ← zoneOf w
    checkDay year month day
    checkClock (number hour) (number minute) (number second)
    let clock : Clock := ⟨number hour, number minute, number second, microseconds w.fraction⟩
    return ⟨year, month, day, some (clock, zone)⟩

/-- A zone as messages show it. -/
def renderZone : Zone → List String
  | .unknown => []
  | .universal => ["tzinfo=datetime.timezone.utc"]
  | .offset 0 => ["tzinfo=datetime.timezone.utc"]
  | .offset seconds => [s!"tzinfo=datetime.timezone({renderSpan seconds})"]

/-- A timestamp as messages show it. -/
def render (t : Timestamp) : String :=
  let day := [t.year, t.month, t.day].map toString
  match t.clock with
  | none => "datetime.date(" ++ ", ".intercalate day ++ ")"
  | some (clock, zone) =>
    let small := if clock.microsecond = 0 then
        if clock.second = 0 then [] else [clock.second]
      else [clock.second, clock.microsecond]
    let parts := day ++ ([clock.hour, clock.minute] ++ small).map toString ++ renderZone zone
    "datetime.datetime(" ++ ", ".intercalate parts ++ ")"

end Timestamp

/-- The timestamp that a scalar stands for. -/
def timestampOf (text : List Char) : Except Fault Timestamp :=
  match WrittenTime.read? (chomp text) with
  | some w => Timestamp.ofWritten w
  | none => .error .notTimestamp

end BusContract.Yaml
