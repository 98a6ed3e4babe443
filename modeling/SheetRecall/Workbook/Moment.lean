import SheetRecall.Decimal.Notation

/-!
# Days and times

A day of the calendar and a time of the day, as they are written out in full and in a format.  A
format is a text with directives: a percent sign before a letter that stands for a part of the
moment.  What is no directive stands for itself.
-/

namespace SheetRecall.Workbook

open SheetRecall.Decimal

/-- A day of the calendar. -/
structure Date where
  year : Nat
  month : Nat
  day : Nat
  deriving Repr, DecidableEq

/-- A time of the day. -/
structure Clock where
  hour : Nat := 0
  minute : Nat := 0
  second : Nat := 0
  micros : Nat := 0
  deriving Repr, DecidableEq

/-! ## Numbers of fixed width -/

/-- A number with as many of one character in front as a width asks for. -/
def filled (c : Char) (width n : Nat) : List Char :=
  let digits := natDigits n
  List.replicate (width - digits.length) c ++ digits

/-- A number with zeros in front, up to a width. -/
def padded (width n : Nat) : List Char := filled '0' width n

/-! ## In full -/

/-- A day as year, month and day. -/
def Date.chars (d : Date) : List Char :=
  padded 4 d.year ++ '-' :: padded 2 d.month ++ '-' :: padded 2 d.day

/-- A time as hour, minute and second, with a fraction if there is one. -/
def Clock.chars (t : Clock) : List Char :=
  padded 2 t.hour ++ ':' :: padded 2 t.minute ++ ':' :: padded 2 t.second
    ++ if t.micros = 0 then [] else '.' :: padded 6 t.micros

/-! ## The calendar -/

namespace Date

/-- The names of the months. -/
def monthNames : List String :=
  ["January", "February", "March", "April", "May", "June", "July", "August", "September",
   "October", "November", "December"]

/-- The names of the days of a week. -/
def weekdayNames : List String :=
  ["Monday", "Tuesday", "Wednesday", "Thursday", "Friday", "Saturday", "Sunday"]

/-- How many letters a short name has. -/
def shortLength : Nat := 3

/-- The name at a place of a list of names. -/
def nameAt (names : List String) (i : Nat) : List Char := ((names[i]?).getD "").toList

/-- The year has a day more than others. -/
def isLeap (year : Nat) : Bool := year % 4 = 0 && (year % 100 ≠ 0 || year % 400 = 0)

/-- How many days the months of a year have. -/
def monthLengths (year : Nat) : List Nat :=
  [31, if isLeap year then 29 else 28, 31, 30, 31, 30, 31, 31, 30, 31, 30, 31]

/-- The number of the day within its year, from one on. -/
def dayOfYear (d : Date) : Nat := ((monthLengths d.year).take (d.month - 1)).foldl Nat.add d.day

/-- The number of the day within its week: Monday is zero.  The first day of the year one is a
Monday. -/
def weekday (d : Date) : Nat :=
  let years := d.year - 1
  (365 * years + years / 4 - years / 100 + years / 400 + d.dayOfYear - 1) % 7

/-- The number of the week within its year, if a week starts on a day of this number; days before
the first such day belong to week zero. -/
def week (d : Date) (start : Nat) : Nat :=
  (d.dayOfYear + 6 - (d.weekday + 7 - start) % 7) / 7

end Date

/-- The hour on a dial of twelve hours. -/
def Clock.dialHour (t : Clock) : Nat := (t.hour + 11) % 12 + 1

/-- The half of the day. -/
def Clock.half (t : Clock) : String := if t.hour < 12 then "AM" else "PM"

/-! ## Formats -/

open Date in
/-- What a letter of a format stands for. -/
def directive? (d : Date) (t : Clock) (letter : Char) : Option (List Char) :=
  let weekday := nameAt weekdayNames d.weekday
  let month := nameAt monthNames (d.month - 1)
  let shortYear := padded 2 (d.year % 100)
  let minutes := ':' :: padded 2 t.minute
  let seconds := ':' :: padded 2 t.second
  let time := padded 2 t.hour ++ minutes ++ seconds
  let slashed := padded 2 d.month ++ '/' :: padded 2 d.day ++ '/' :: shortYear
  match letter with
  | 'Y' => some (natDigits d.year)
  | 'C' => some (natDigits (d.year / 100))
  | 'y' => some shortYear
  | 'm' => some (padded 2 d.month)
  | 'B' => some month
  | 'b' | 'h' => some (month.take shortLength)
  | 'd' => some (padded 2 d.day)
  | 'e' => some (filled ' ' 2 d.day)
  | 'j' => some (padded 3 d.dayOfYear)
  | 'A' => some weekday
  | 'a' => some (weekday.take shortLength)
  | 'u' => some (natDigits (d.weekday + 1))
  | 'w' => some (natDigits ((d.weekday + 1) % 7))
  | 'U' => some (padded 2 (d.week 6))
  | 'W' => some (padded 2 (d.week 0))
  | 'H' => some (padded 2 t.hour)
  | 'k' => some (filled ' ' 2 t.hour)
  | 'I' => some (padded 2 t.dialHour)
  | 'l' => some (filled ' ' 2 t.dialHour)
  | 'p' => some t.half.toList
  | 'P' => some t.half.toLower.toList
  | 'M' => some (padded 2 t.minute)
  | 'S' => some (padded 2 t.second)
  | 'f' => some (padded 6 t.micros)
  | 'D' | 'x' => some slashed
  | 'F' => some (natDigits d.year ++ '-' :: padded 2 d.month ++ '-' :: padded 2 d.day)
  | 'R' => some (padded 2 t.hour ++ minutes)
  | 'T' | 'X' => some time
  | 'r' => some (padded 2 t.dialHour ++ minutes ++ seconds ++ ' ' :: t.half.toList)
  | 'c' =>
    some (weekday.take shortLength ++ ' ' :: month.take shortLength ++ ' ' :: filled ' ' 2 d.day
      ++ ' ' :: time ++ ' ' :: natDigits d.year)
  | 'n' => some ['\n']
  | 't' => some ['\t']
  | 'Z' | 'z' => some []
  | '%' => some ['%']
  | _ => none

/-- A moment in a format; a percent sign goes before each letter that stands for a part of it. -/
def formatChars (d : Date) (t : Clock) : List Char → List Char
  | [] => []
  | [c] => [c]
  | c :: letter :: rest =>
    if c = '%' then
      match directive? d t letter with
      | some chars => chars ++ formatChars d t rest
      | none => c :: letter :: formatChars d t rest
    else c :: formatChars d t (letter :: rest)

/-- A moment in a format, which ends at its first null character. -/
def format (d : Date) (t : Clock) (layout : String) : String :=
  String.ofList (formatChars d t (layout.toList.takeWhile (· ≠ '\x00')))

end SheetRecall.Workbook
