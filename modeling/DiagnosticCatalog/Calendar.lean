import DiagnosticCatalog.Decimal.Numeral
/-!
Days and moments of the proleptic Gregorian calendar, years 1 to 9999, made from numbers that may be
out of range. An offset from universal time is a whole number of seconds.
-/

namespace DiagnosticCatalog.Calendar

structure Date where
  year : Nat
  month : Nat
  day : Nat
  deriving DecidableEq, Repr, Inhabited

/-- A moment of a day; `offset?` in seconds east, if the moment is tied to universal time. -/
structure Moment where
  date : Date
  hour : Nat
  minute : Nat
  second : Nat
  microsecond : Nat
  offset? : Option Int
  deriving DecidableEq, Repr, Inhabited

inductive Fault
  | year (n : Nat)
  | month
  | day
  | hour
  | minute
  | second
  | offset (seconds : Int)
  deriving DecidableEq, Repr

def isLeap (year : Nat) : Bool := year % 4 == 0 && (year % 100 != 0 || year % 400 == 0)

def daysIn (year month : Nat) : Nat :=
  if month == 2 then (if isLeap year then 29 else 28)
  else if month == 4 || month == 6 || month == 9 || month == 11 then 30
  else 31

def date (year month day : Nat) : Except Fault Date :=
  if year < 1 || 9999 < year then .error (.year year)
  else if month < 1 || 12 < month then .error .month
  else if day < 1 || daysIn year month < day then .error .day
  else .ok ⟨year, month, day⟩

def daysBefore (year month : Nat) : Nat :=
  (List.range' 1 (month - 1)).foldl (fun days m => days + daysIn year m) 0

/-- Days from the start of year 1. -/
def Date.dayNumber (d : Date) : Nat :=
  let past := d.year - 1
  365 * past + past / 4 - past / 100 + past / 400 + daysBefore d.year d.month + (d.day - 1)

/-- Seconds from the start of year 1 on the clock that the moment is read from. -/
def Moment.clockSeconds (m : Moment) : Nat :=
  86400 * m.date.dayNumber + 3600 * m.hour + 60 * m.minute + m.second

/-- Whether two moments are the same. Those tied to universal time are compared there, and no other
moment is the same as one of them. -/
def Moment.same (m n : Moment) : Bool :=
  match m.offset?, n.offset? with
  | some a, some b =>
    (m.clockSeconds - a : Int) == n.clockSeconds - b && m.microsecond == n.microsecond
  | none, none => m == n
  | _, _ => false

/-- An offset is less than a day either way; it is checked before the day and the time. -/
def moment (year month day hour minute second microsecond : Nat) (offset? : Option Int) :
    Except Fault Moment := do
  if let some s := offset? then
    if 86400 ≤ s.natAbs then throw (.offset s)
  let d ← date year month day
  if 23 < hour then throw .hour
  if 59 < minute then throw .minute
  if 59 < second then throw .second
  return ⟨d, hour, minute, second, microsecond, offset?⟩

def decimalText (n : Nat) : String := Decimal.intText n

/-- Decimal digits with zeros in front up to the width. -/
def zeroPadded (width n : Nat) : String :=
  let s := decimalText n
  String.ofList (List.replicate (width - s.length) '0') ++ s

def commas (ns : List Nat) : String := ", ".intercalate (ns.map decimalText)

/-- A stretch of time as whole days, possibly negative, and the seconds of the last one. -/
def spanInline (seconds : Int) : String :=
  let days := seconds.fdiv 86400
  let rest := seconds.fmod 86400
  let parts := (if days = 0 then [] else ["days=" ++ Decimal.intText days]) ++
    (if rest = 0 then [] else ["seconds=" ++ Decimal.intText rest])
  "datetime.timedelta(" ++ (if parts.isEmpty then "0" else ", ".intercalate parts) ++ ")"

def offsetInline (seconds : Int) : String :=
  if seconds = 0 then "datetime.timezone.utc"
  else "datetime.timezone(" ++ spanInline seconds ++ ")"

def Date.inline (d : Date) : String := "datetime.date(" ++ commas [d.year, d.month, d.day] ++ ")"

/-- Seconds are left out where they and the microseconds are zero, microseconds where they are. -/
def Moment.inline (m : Moment) : String :=
  let time := if m.microsecond != 0 then [m.second, m.microsecond]
    else if m.second != 0 then [m.second] else []
  "datetime.datetime(" ++
    commas ([m.date.year, m.date.month, m.date.day, m.hour, m.minute] ++ time) ++
    (match m.offset? with
      | none => ""
      | some s => ", tzinfo=" ++ offsetInline s) ++ ")"

def Date.text (d : Date) : String :=
  zeroPadded 4 d.year ++ "-" ++ zeroPadded 2 d.month ++ "-" ++ zeroPadded 2 d.day

def offsetText (seconds : Int) : String :=
  let n := seconds.natAbs
  (if seconds < 0 then "-" else "+") ++ zeroPadded 2 (n / 3600) ++ ":" ++
    zeroPadded 2 (n / 60 % 60)

def Moment.text (m : Moment) : String :=
  m.date.text ++ " " ++ zeroPadded 2 m.hour ++ ":" ++ zeroPadded 2 m.minute ++ ":" ++
    zeroPadded 2 m.second ++
    (if m.microsecond = 0 then "" else "." ++ zeroPadded 6 m.microsecond) ++
    (m.offset?.map offsetText).getD ""

def Fault.message : Fault → String
  | .year n => "year " ++ decimalText n ++ " is out of range"
  | .month => "month must be in 1..12"
  | .day => "day is out of range for month"
  | .hour => "hour must be in 0..23"
  | .minute => "minute must be in 0..59"
  | .second => "second must be in 0..59"
  | .offset s =>
    "offset must be a timedelta strictly between -timedelta(hours=24) and timedelta(hours=24)" ++
      ", not " ++ spanInline s ++ "."

end DiagnosticCatalog.Calendar
