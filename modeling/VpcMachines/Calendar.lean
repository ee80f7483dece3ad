/-!
# Dates and times of day

Days of the Gregorian calendar, and moments with a precision of a microsecond and an optional offset
from universal time in minutes. Each has a plain form and a constructor form.
-/

namespace VpcMachines.Calendar

structure Date where
  year : Nat
  month : Nat
  day : Nat
  deriving DecidableEq, Repr

structure Moment where
  date : Date
  hour : Nat
  minute : Nat
  second : Nat
  microsecond : Nat
  /-- Minutes ahead of universal time. -/
  offset : Option Int
  deriving DecidableEq, Repr

inductive Fault where
  | year (year : Nat)
  | month
  | day
  | hour
  | minute
  | second
  | offset (minutes : Int)
  deriving DecidableEq, Repr

def isLeap (year : Nat) : Bool := year % 4 == 0 && (year % 100 != 0 || year % 400 == 0)

def daysIn (year month : Nat) : Nat :=
  if month = 2 then (if isLeap year then 29 else 28)
  else if [4, 6, 9, 11].contains month then 30
  else 31

def Date.check (d : Date) : Except Fault Date :=
  if d.year < 1 ∨ 9999 < d.year then .error (.year d.year)
  else if d.month < 1 ∨ 12 < d.month then .error .month
  else if d.day < 1 ∨ daysIn d.year d.month < d.day then .error .day
  else .ok d

/-- The offset is looked at first, then the date, then the time from the hour down. -/
def Moment.check (m : Moment) : Except Fault Moment := do
  match m.offset with
  | none => pure ()
  | some minutes => if 1440 ≤ minutes.natAbs then .error (.offset minutes)
  let _ ← m.date.check
  if 23 < m.hour then .error .hour
  if 59 < m.minute then .error .minute
  if 59 < m.second then .error .second
  return m

/-- Days since the first day of the year one. -/
def Date.ordinal (d : Date) : Nat :=
  let years := d.year - 1
  let months := (List.range (d.month - 1)).foldr (fun m days ↦ daysIn d.year (m + 1) + days) 0
  years * 365 + years / 4 - years / 100 + years / 400 + months + d.day

/-- Microseconds on the scale of universal time, or of local time if there is no offset. -/
def Moment.instant (m : Moment) : Int :=
  let minutes : Int := (m.date.ordinal * 24 + m.hour) * 60 + m.minute - m.offset.getD 0
  (minutes * 60 + m.second) * 1000000 + m.microsecond

/-- Whether two moments are the same point in time. One with an offset is never the same as one
without. -/
def Moment.coincides (a b : Moment) : Bool :=
  a.offset.isSome == b.offset.isSome && a.instant == b.instant

/-- A natural number with at least `width` digits. -/
def padded (width n : Nat) : String :=
  let digits := Nat.toDigits 10 n
  String.ofList (List.replicate (width - digits.length) '0' ++ digits)

def Date.text (d : Date) : String := s!"{padded 4 d.year}-{padded 2 d.month}-{padded 2 d.day}"

def offsetText (minutes : Int) : String :=
  let sign := if minutes < 0 then "-" else "+"
  s!"{sign}{padded 2 (minutes.natAbs / 60)}:{padded 2 (minutes.natAbs % 60)}"

def Moment.text (m : Moment) : String :=
  let fraction := if m.microsecond = 0 then "" else "." ++ padded 6 m.microsecond
  let offset := (m.offset.map offsetText).getD ""
  s!"{m.date.text} {padded 2 m.hour}:{padded 2 m.minute}:{padded 2 m.second}{fraction}{offset}"

def Date.constructorForm (d : Date) : String := s!"datetime.date({d.year}, {d.month}, {d.day})"

/-- A span of minutes as days and seconds, of which only the days may be negative. -/
def spanForm (minutes : Int) : String :=
  let days := minutes / 1440
  let seconds := (minutes % 1440) * 60
  let parts := (if days = 0 then [] else [s!"days={days}"]) ++
    (if seconds = 0 then [] else [s!"seconds={seconds}"])
  "datetime.timedelta(" ++ String.intercalate ", " parts ++ ")"

def zoneForm (minutes : Int) : String :=
  if minutes = 0 then "datetime.timezone.utc" else s!"datetime.timezone({spanForm minutes})"

/-- Seconds and microseconds are left out while all that follow are zero too. -/
def Moment.constructorForm (m : Moment) : String :=
  let small :=
    if m.microsecond ≠ 0 then [m.second, m.microsecond]
    else if m.second ≠ 0 then [m.second]
    else []
  let numbers := ([m.date.year, m.date.month, m.date.day, m.hour, m.minute] ++ small).map toString
  let zone := match m.offset with
    | none => []
    | some minutes => [s!"tzinfo={zoneForm minutes}"]
  "datetime.datetime(" ++ String.intercalate ", " (numbers ++ zone) ++ ")"

def Fault.message : Fault → String
  | .year n => s!"year {n} is out of range"
  | .month => "month must be in 1..12"
  | .day => "day is out of range for month"
  | .hour => "hour must be in 0..23"
  | .minute => "minute must be in 0..59"
  | .second => "second must be in 0..59"
  | .offset minutes =>
    s!"offset must be a timedelta strictly between -timedelta(hours=24) and timedelta(hours=24), not {spanForm minutes}."

example : Date.check ⟨2023, 2, 29⟩ = .error .day := by rfl
example : (Moment.mk ⟨2024, 4, 30⟩ 1 2 0 5 (some (-330))).text
    = "2024-04-30 01:02:00.000005-05:30" := by decide +kernel

end VpcMachines.Calendar
