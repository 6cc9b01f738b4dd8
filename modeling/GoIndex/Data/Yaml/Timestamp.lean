import GoIndex.Text.Integer

/-!
# Dates and times of YAML

A date has four digits of a year and one or two each of month and day. A time of day may stand
behind it, with a fraction of the second and an offset from universal time. A date without a time is
taken for one by its form only when month and day have two digits.

What is written like a date has to be one: `Timestamp.fault?` says what lies outside the calendar,
the offset first, then the date, then the time.
-/

namespace GoIndex.Data.Yaml

open Text

/-- A date, perhaps with a time of day in hours, minutes and seconds, and with an offset in
minutes. -/
structure Timestamp where
  year : Nat
  month : Nat
  day : Nat
  time : Option (Nat × Nat × Nat) := none
  offset : Option Int := none
  deriving DecidableEq, Repr

/-! ### Reading -/

/-- A number of at least `least` and at most `most` digits, and the text behind it. -/
def digitRun? (least most : Nat) (text : List Char) : Option (Nat × List Char) :=
  let digits := (text.take most).takeWhile (·.isDigit)
  if least ≤ digits.length then
    some (ofDigits 10 (digits.filterMap asciiDigit?), text.drop digits.length)
  else none

/-- The text behind a mark. -/
def behindMark? (mark : Char) : List Char → Option (List Char)
  | [] => none
  | c :: rest => if c == mark then some rest else none

/-- An offset that a text consists of, in minutes; there may be none. -/
def readOffset? (text : List Char) : Option (Option Int) :=
  if text.isEmpty then some none
  else
    match text.dropWhile fun c => c == ' ' || c == '\t' with
    | ['Z'] => some (some 0)
    | sign :: rest => do
      if sign != '+' && sign != '-' then none
      else
        let (hours, rest) ← digitRun? 1 2 rest
        let minutes ← if rest.isEmpty then some 0 else do
          let (minutes, rest) ← digitRun? 2 2 (← behindMark? ':' rest)
          if rest.isEmpty then some minutes else none
        some (some (signed (sign == '-') (60 * hours + minutes)))
    | [] => none

/-- A time of day that a text consists of, and its offset. -/
def readTime? (text : List Char) : Option ((Nat × Nat × Nat) × Option Int) := do
  let (hour, text) ← digitRun? 1 2 text
  let (minute, text) ← digitRun? 2 2 (← behindMark? ':' text)
  let (second, text) ← digitRun? 2 2 (← behindMark? ':' text)
  let text := match text with
    | '.' :: rest => rest.dropWhile (·.isDigit)
    | text => text
  some ((hour, minute, second), ← readOffset? text)

/-- The date or the time that a text writes. -/
def Timestamp.read? (text : List Char) : Option Timestamp := do
  let (year, rest) ← digitRun? 4 4 text
  let (month, rest) ← digitRun? 1 2 (← behindMark? '-' rest)
  let (day, rest) ← digitRun? 1 2 (← behindMark? '-' rest)
  match rest with
  | [] => some { year, month, day }
  | c :: behind =>
    let time ←
      if c == 'T' || c == 't' then readTime? behind
      else if c == ' ' || c == '\t' then
        readTime? (behind.dropWhile fun c => c == ' ' || c == '\t')
      else none
    some { year, month, day, time := some time.1, offset := time.2 }

/-- Whether a text is a date or a time by its form. -/
def isTimestampForm (text : List Char) : Bool :=
  (Timestamp.read? text).any fun stamp => stamp.time.isSome || text.length == 10

/-! ### The calendar -/

/-- What lies outside the calendar. -/
inductive CalendarFault where
  | offset (minutes : Int)
  | year (year : Nat)
  | month
  | day
  | hour
  | minute
  | second
  deriving DecidableEq, Repr

/-- Whether a year has a leap day. -/
def isLeapYear (year : Nat) : Bool :=
  year % 4 == 0 && (year % 100 != 0 || year % 400 == 0)

/-- The number of days in a month. -/
def daysInMonth (year month : Nat) : Nat :=
  if month = 2 then if isLeapYear year then 29 else 28
  else if [4, 6, 9, 11].contains month then 30
  else 31

/-- What is wrong with a timestamp, if anything is. -/
def Timestamp.fault? (t : Timestamp) : Option CalendarFault :=
  let (hour, minute, second) := t.time.getD (0, 0, 0)
  let minutesOff := t.offset.getD 0
  if 1440 ≤ minutesOff.natAbs then some (.offset minutesOff)
  else if t.year = 0 then some (.year t.year)
  else if t.month = 0 ∨ 12 < t.month then some .month
  else if t.day = 0 ∨ daysInMonth t.year t.month < t.day then some .day
  else if 23 < hour then some .hour
  else if 59 < minute then some .minute
  else if 59 < second then some .second
  else none

/-- A span of minutes as days and seconds, those that are not zero. -/
def spanText (minutes : Int) : String :=
  let part (name : String) (n : Int) : List String :=
    if n = 0 then [] else [name ++ "=" ++ toString n]
  "datetime.timedelta(" ++
    ", ".intercalate (part "days" (minutes.fdiv 1440) ++ part "seconds" (60 * minutes.fmod 1440)) ++
    ")"

/-- What is said about a fault. -/
def CalendarFault.message : CalendarFault → String
  | .offset n =>
    "offset must be a timedelta strictly between -timedelta(hours=24) and timedelta(hours=24), " ++
      "not " ++ spanText n ++ "."
  | .year n => "year " ++ toString n ++ " is out of range"
  | .month => "month must be in 1..12"
  | .day => "day is out of range for month"
  | .hour => "hour must be in 0..23"
  | .minute => "minute must be in 0..59"
  | .second => "second must be in 0..59"

end GoIndex.Data.Yaml
