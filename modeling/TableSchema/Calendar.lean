/-!
# Dates and moments

Days of the Gregorian calendar from year 1 to year 9999, moments of a day to the microsecond with an
optional offset from universal time, and the texts of both.  A moment with an offset is compared by
the instant that it denotes, one without by its fields.
-/

namespace TableSchema.Calendar

/-- The year has a 29th of February. -/
def isLeap (year : Nat) : Bool :=
  year % 4 == 0 && (year % 100 != 0 || year % 400 == 0)

/-- The number of days of a month. -/
def daysInMonth (year month : Nat) : Nat :=
  match month with
  | 4 | 6 | 9 | 11 => 30
  | 2 => if isLeap year then 29 else 28
  | _ => 31

/-- A day of the calendar. -/
structure Date where
  year : Nat
  month : Nat
  day : Nat
deriving DecidableEq, Repr

/-- A time on a day; the offset from universal time is in seconds. -/
structure Moment where
  date : Date
  hour : Nat
  minute : Nat
  second : Nat
  micro : Nat
  offset : Option Int
deriving DecidableEq, Repr

/-- Why fields denote no day or no moment. -/
inductive Fault where
  | year (n : Nat)
  | month
  | day
  | hour
  | minute
  | second
  | offset (seconds : Int)
deriving DecidableEq, Repr

/-- The day with these fields. -/
def Date.of (year month day : Nat) : Except Fault Date :=
  if year < 1 ∨ 9999 < year then .error (.year year)
  else if month < 1 ∨ 12 < month then .error .month
  else if day < 1 ∨ daysInMonth year month < day then .error .day
  else .ok ⟨year, month, day⟩

/-- The moment with these fields; the offset has to be shorter than a day. -/
def Moment.of (year month day hour minute second micro : Nat) (offset : Option Int) :
    Except Fault Moment := do
  match offset with
  | some s => if 86400 ≤ s.natAbs then throw (.offset s)
  | none => pure ()
  let date ← Date.of year month day
  if 23 < hour then throw .hour
  if 59 < minute then throw .minute
  if 59 < second then throw .second
  return ⟨date, hour, minute, second, micro, offset⟩

/-- The number of days from the first of January 1970. -/
def Date.dayNumber (d : Date) : Int :=
  let y : Int := if d.month ≤ 2 then (d.year : Int) - 1 else d.year
  let era := y / 400
  let yearOfEra := y % 400
  let month : Int := ((d.month + 9) % 12 : Nat)
  let dayOfYear := (153 * month + 2) / 5 + d.day - 1
  era * 146097 + yearOfEra * 365 + yearOfEra / 4 - yearOfEra / 100 + dayOfYear - 719468

/-- The day with this number of days from the first of January 1970. -/
def Date.ofDayNumber (n : Int) : Date :=
  let z := n + 719468
  let era := z / 146097
  let dayOfEra := z % 146097
  let yearOfEra := (dayOfEra - dayOfEra / 1460 + dayOfEra / 36524 - dayOfEra / 146096) / 365
  let dayOfYear := dayOfEra - (365 * yearOfEra + yearOfEra / 4 - yearOfEra / 100)
  let shifted := (5 * dayOfYear + 2) / 153
  let month := if shifted < 10 then shifted + 3 else shifted - 9
  let year := yearOfEra + era * 400 + (if month ≤ 2 then 1 else 0)
  ⟨year.toNat, month.toNat, (dayOfYear - (153 * shifted + 2) / 5 + 1).toNat⟩

/-- Microseconds from the start of 1970, without regard to the offset. -/
def Moment.local (m : Moment) : Int :=
  (m.date.dayNumber * 86400 + m.hour * 3600 + m.minute * 60 + m.second) * 1000000 + m.micro

/-- Equal instants if both moments have an offset, equal fields if neither has. -/
def Moment.same (a b : Moment) : Bool :=
  match a.offset, b.offset with
  | some s, some t => a.local - s * 1000000 == b.local - t * 1000000
  | none, none => a.local == b.local
  | _, _ => false

/-- The decimal numeral with at least `width` digits. -/
def padTo (width n : Nat) : String :=
  let s := toString n
  "".pushn '0' (width - s.length) ++ s

/-- The date as year, month and day. -/
def Date.text (d : Date) : String :=
  padTo 4 d.year ++ "-" ++ padTo 2 d.month ++ "-" ++ padTo 2 d.day

/-- Hours, minutes and seconds with colons. -/
def clockText (hour minute second : Nat) : String :=
  padTo 2 hour ++ ":" ++ padTo 2 minute ++ ":" ++ padTo 2 second

/-- The offset as sign, hours and minutes, and seconds if there are any. -/
def offsetText (offset : Int) : String :=
  let n := offset.natAbs
  let s := if n % 60 = 0 then "" else ":" ++ padTo 2 (n % 60)
  (if offset < 0 then "-" else "+") ++ padTo 2 (n / 3600) ++ ":" ++ padTo 2 (n / 60 % 60) ++ s

/-- The moment as date, time, fraction of the second if there is one, and offset. -/
def Moment.text (m : Moment) : String :=
  m.date.text ++ " " ++ clockText m.hour m.minute m.second ++
    (if m.micro = 0 then "" else "." ++ padTo 6 m.micro) ++
    (match m.offset with | some s => offsetText s | none => "")

/-- A span of time as days and seconds, the seconds never negative. -/
def spanText (seconds : Int) : String :=
  let days := seconds / 86400
  let rest := seconds % 86400
  let parts := (if days = 0 then [] else [s!"days={days}"]) ++
    (if rest = 0 then [] else [s!"seconds={rest}"])
  "datetime.timedelta(" ++ (if parts.isEmpty then "0" else ", ".intercalate parts) ++ ")"

/-- The constructor text of a date, as it stands inside collections. -/
def Date.shown (d : Date) : String :=
  s!"datetime.date({d.year}, {d.month}, {d.day})"

/-- The constructor text of a moment, as it stands inside collections: seconds and microseconds are
left out from the end if they are zero. -/
def Moment.shown (m : Moment) : String :=
  let fields := [m.date.year, m.date.month, m.date.day, m.hour, m.minute] ++
    (if m.micro ≠ 0 then [m.second, m.micro] else if m.second ≠ 0 then [m.second] else [])
  let zone := match m.offset with
    | none => ""
    | some 0 => ", tzinfo=datetime.timezone.utc"
    | some s => ", tzinfo=datetime.timezone(" ++ spanText s ++ ")"
  "datetime.datetime(" ++ ", ".intercalate (fields.map toString) ++ zone ++ ")"

/-- The message about fields that denote no day or no moment. -/
def Fault.message : Fault → String
  | .year n => s!"year {n} is out of range"
  | .month => "month must be in 1..12"
  | .day => "day is out of range for month"
  | .hour => "hour must be in 0..23"
  | .minute => "minute must be in 0..59"
  | .second => "second must be in 0..59"
  | .offset s => "offset must be a timedelta strictly between -timedelta(hours=24) and " ++
      "timedelta(hours=24), not " ++ spanText s ++ "."

/-- Date and time of a number of seconds from the start of 1970. -/
def stampText (seconds : Int) : String :=
  let s := (seconds % 86400).toNat
  (Date.ofDayNumber (seconds / 86400)).text ++ " " ++ clockText (s / 3600) (s / 60 % 60) (s % 60)

end TableSchema.Calendar
